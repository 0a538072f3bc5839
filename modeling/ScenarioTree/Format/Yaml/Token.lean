/-!
# Tokens of YAML

The units that a YAML text consists of. The block structure, which the text gives by indentation, is
explicit: collections of the block style have a token at their start and at their end, and every key
has a token before it.
-/

namespace ScenarioTree.Yaml

/-- A tag as it is written: a handle, which stands for the beginning of the tag, and the bytes of a
    suffix, which need not be a text. A tag that is given whole has an empty handle. -/
structure RawTag where
  handle : String
  suffix : List UInt8

/-- A unit of a YAML text. -/
inductive Token where
  | versionDirective (major minor : Nat)
  | tagDirective (handle : String) (meaning : List UInt8)
  | documentStart
  | documentEnd
  | blockSequenceStart
  | blockMappingStart
  | blockEnd
  | flowSequenceStart
  | flowSequenceEnd
  | flowMappingStart
  | flowMappingEnd
  | blockEntry
  | flowEntry
  | key
  | value
  | alias (name : String)
  | anchor (name : String)
  | tag (tag : RawTag)
  /-- The text of a scalar, and whether it stands without quotes and indicators. -/
  | scalar (text : String) (plain : Bool)

end ScenarioTree.Yaml
