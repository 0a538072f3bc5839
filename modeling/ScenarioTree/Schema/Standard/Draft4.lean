import ScenarioTree.Schema.Draft
import ScenarioTree.Schema.Standard.Words

/-!
# The schema of schemas of draft 4

Schemas are maps only. Exclusive limits are marks beside the other limits.
-/

namespace ScenarioTree.Schema.Standard.Draft4

def words : Words := ⟨part "#", fun name => part ("#/definitions/" ++ name)⟩

/-- The parts that the keywords share. -/
def definitions : Value := map [
  ("schemaArray", words.schemaArray),
  ("positiveInteger", nonNegative),
  ("positiveIntegerDefault0",
    map [("allOf", .array [words.definition "positiveInteger",
      map [("default", .number (.int 0))]])]),
  ("simpleTypes", simpleTypes),
  ("stringArray",
    typed "array" [("items", string), ("minItems", .number (.int 1)),
      ("uniqueItems", .bool true)])]

/-- A Boolean or a schema. -/
def restriction : Value :=
  map [("anyOf", .array [boolean, words.schema]), ("default", map [])]

/-- What the keywords look like. -/
def keywords : Value := map <|
  descriptions ++ words.combinations ++ words.counts "positiveInteger" "positiveIntegerDefault0"
    ++ [words.type, ("id", string), ("$schema", string), ("default", map []),
      ("multipleOf", typed "number" [("minimum", .number (.int 0)),
        ("exclusiveMinimum", .bool true)]),
      ("maximum", number), ("exclusiveMaximum", boolean), ("minimum", number),
      ("exclusiveMinimum", boolean), ("pattern", shaped "regex"),
      ("additionalItems", restriction), ("items", words.schemaOrArray), ("uniqueItems", boolean),
      ("required", words.definition "stringArray"), ("additionalProperties", restriction),
      ("definitions", words.schemas), ("properties", words.schemas),
      ("patternProperties", words.schemas),
      ("dependencies", words.dependencies (words.definition "stringArray")),
      ("enum", typed "array" [("minItems", .number (.int 1)), ("uniqueItems", .bool true)]),
      ("format", string)]

/-- The schema of schemas. -/
def document : Value := map [
  ("id", .string (Draft.draft4.identifier ++ "#")),
  ("$schema", .string (Draft.draft4.identifier ++ "#")),
  ("description", .string "Core schema meta-schema"),
  ("definitions", definitions),
  ("type", .string "object"),
  ("properties", keywords),
  ("dependencies", map [("exclusiveMaximum", .ofStrings ["maximum"]),
    ("exclusiveMinimum", .ofStrings ["minimum"])]),
  ("default", map [])]

end ScenarioTree.Schema.Standard.Draft4
