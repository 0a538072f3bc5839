import ScenarioTree.Schema.Draft
import ScenarioTree.Schema.Standard.Words

/-!
# The schemas of schemas of the drafts with vocabularies

Since 2019 the keywords come in vocabularies. Each vocabulary has a document, and the schema of
schemas asks for all of them. Wherever a schema stands below another one, the outermost of these
documents is meant.
-/

namespace ScenarioTree.Schema.Standard.Vocabularies

/-- What the documents of a draft have in common. -/
structure Family where
  draft : Draft
  /-- Where the documents are. -/
  home : String
  words : Words
  /-- How a document lets others stand for it. -/
  marks : List (String × Value)

/-- The document of a vocabulary. -/
def Family.vocabulary (family : Family) (name : String) (keywords : List (String × Value))
    (definitions : List (String × Value)) : String × Value :=
  let identifier := family.home ++ "meta/" ++ name
  (identifier, map <|
    [("$schema", .string family.draft.identifier), ("$id", .string identifier),
      ("$vocabulary", map [(family.home ++ "vocab/" ++ name, .bool true)]),
      ("type", mapOrBoolean), ("properties", map keywords)]
      ++ family.marks ++ if definitions.isEmpty then [] else [("$defs", map definitions)])

/-- The schema of schemas, which asks for some vocabularies and has keywords of its own. -/
def Family.schema (family : Family) (vocabularies : List String)
    (keywords : List (String × Value)) : String × Value :=
  (family.draft.identifier, map <|
    [("$schema", .string family.draft.identifier), ("$id", .string family.draft.identifier),
      ("$vocabulary",
        map (vocabularies.map fun name => (family.home ++ "vocab/" ++ name, .bool true))),
      ("title", .string "Core and Validation specifications meta-schema"),
      ("allOf", .array (vocabularies.map fun name => part ("meta/" ++ name))),
      ("type", mapOrBoolean), ("properties", map keywords)] ++ family.marks)

/-- A map of Booleans under identifiers. -/
def vocabularyFlags (identifier : Value) : Value :=
  typed "object" [("propertyNames", identifier), ("additionalProperties", boolean)]

/-- A string that a pattern restricts. -/
def matching (pattern : String) : Value := typed "string" [("pattern", .string pattern)]

/-- An identifier names no part. -/
def withoutPart : String × Value := ("pattern", .string "^[^#]*#?$")

/-- The keywords that give a document values to check. -/
def Family.applicators (family : Family) : List (String × Value) :=
  let words := family.words
  words.combinations ++ words.conditions
    ++ [("contains", words.schema), ("additionalProperties", words.schema),
      ("properties", words.schemas), ("patternProperties", words.patternSchemas),
      ("dependentSchemas", words.schemas), ("propertyNames", words.schema)]

/-- The vocabulary of assertions. -/
def Family.validation (family : Family) : String × Value :=
  let words := family.words
  let count := words.definition "nonNegativeInteger"
  family.vocabulary "validation"
    (limits ++ words.counts "nonNegativeInteger" "nonNegativeIntegerDefault0"
      ++ [words.type, ("pattern", shaped "regex"), ("uniqueItems", boolean),
        ("maxContains", count), ("minContains", count),
        ("required", words.definition "stringArray"),
        ("dependentRequired",
          typed "object" [("additionalProperties", words.definition "stringArray")]),
        ("const", .bool true), ("enum", typed "array" [("items", .bool true)])])
    [("nonNegativeInteger", nonNegative), ("nonNegativeIntegerDefault0", count),
      ("simpleTypes", simpleTypes), ("stringArray", stringArray)]

/-- The vocabulary of descriptions. -/
def Family.description (family : Family) : String × Value :=
  family.vocabulary "meta-data"
    (descriptions ++ [("default", .bool true), ("deprecated", boolean), ("readOnly", boolean),
      ("writeOnly", boolean), ("examples", typed "array" [("items", .bool true)])]) []

/-- The vocabulary of what strings hold. -/
def Family.content (family : Family) : String × Value :=
  family.vocabulary "content"
    [("contentMediaType", string), ("contentEncoding", string),
      ("contentSchema", family.words.schema)] []

/-! ## 2019 -/

/-- The documents of 2019. They recur. -/
def family2019 : Family :=
  { draft := .draft2019, home := "https://json-schema.org/draft/2019-09/"
    words := ⟨map [("$recursiveRef", .string "#")], fun name => part ("#/$defs/" ++ name)⟩
    marks := [("$recursiveAnchor", .bool true)] }

/-- The core of 2019. -/
def core2019 : String × Value :=
  family2019.vocabulary "core"
    [("$id", typed "string" [("format", .string "uri-reference"), withoutPart]),
      ("$schema", shaped "uri"), ("$anchor", matching "^[A-Za-z][-A-Za-z0-9.:_]*$"),
      ("$ref", shaped "uri-reference"), ("$recursiveRef", shaped "uri-reference"),
      ("$recursiveAnchor", boolean), ("$vocabulary", vocabularyFlags (shaped "uri")),
      ("$comment", string), ("$defs", family2019.words.schemas)] []

/-- The applicators of 2019. -/
def applicator2019 : String × Value :=
  let words := family2019.words
  family2019.vocabulary "applicator"
    (family2019.applicators ++ [("additionalItems", words.schema), ("items", words.schemaOrArray),
      ("unevaluatedItems", words.schema), ("unevaluatedProperties", words.schema)])
    [("schemaArray", words.schemaArray)]

/-- The documents of 2019. -/
def documents2019 : List (String × Value) :=
  let words := family2019.words
  [family2019.schema ["core", "applicator", "validation", "meta-data", "format", "content"]
    [("definitions", words.schemas),
      ("dependencies", words.dependencies (part "meta/validation#/$defs/stringArray"))],
    core2019, applicator2019, family2019.validation, family2019.description,
    family2019.vocabulary "format" [("format", string)] [], family2019.content]

/-! ## 2020 -/

/-- The documents of 2020. They have a dynamic name. -/
def family2020 : Family :=
  { draft := .draft2020, home := "https://json-schema.org/draft/2020-12/"
    words := ⟨map [("$dynamicRef", .string "#meta")], fun name => part ("#/$defs/" ++ name)⟩
    marks := [("$dynamicAnchor", .string "meta")] }

/-- The core of 2020. -/
def core2020 : String × Value :=
  let definition := family2020.words.definition
  family2020.vocabulary "core"
    [("$id", map [("$ref", .string "#/$defs/uriReferenceString"), withoutPart]),
      ("$schema", definition "uriString"), ("$ref", definition "uriReferenceString"),
      ("$anchor", definition "anchorString"), ("$dynamicRef", definition "uriReferenceString"),
      ("$dynamicAnchor", definition "anchorString"),
      ("$vocabulary", vocabularyFlags (definition "uriString")), ("$comment", string),
      ("$defs", family2020.words.schemas)]
    [("anchorString", matching "^[A-Za-z_][-A-Za-z0-9._]*$"), ("uriString", shaped "uri"),
      ("uriReferenceString", shaped "uri-reference")]

/-- The applicators of 2020. -/
def applicator2020 : String × Value :=
  let words := family2020.words
  family2020.vocabulary "applicator"
    (family2020.applicators ++ [("prefixItems", words.definition "schemaArray"),
      ("items", words.schema)])
    [("schemaArray", words.schemaArray)]

/-- The documents of 2020. -/
def documents2020 : List (String × Value) :=
  let words := family2020.words
  [family2020.schema
    ["core", "applicator", "unevaluated", "validation", "meta-data", "format-annotation", "content"]
    [("definitions", words.schemas),
      ("dependencies", words.dependencies (part "meta/validation#/$defs/stringArray")),
      ("$recursiveAnchor", part "meta/core#/$defs/anchorString"),
      ("$recursiveRef", part "meta/core#/$defs/uriReferenceString")],
    core2020, applicator2020,
    family2020.vocabulary "unevaluated"
      [("unevaluatedItems", words.schema), ("unevaluatedProperties", words.schema)] [],
    family2020.validation, family2020.description,
    family2020.vocabulary "format-annotation" [("format", string)] [], family2020.content]

end ScenarioTree.Schema.Standard.Vocabularies
