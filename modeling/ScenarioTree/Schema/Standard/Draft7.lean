import ScenarioTree.Schema.Draft
import ScenarioTree.Schema.Standard.Words

/-!
# The schemas of schemas of drafts 6 and 7

Draft 7 knows the keywords of draft 6 and some more.
-/

namespace ScenarioTree.Schema.Standard.Draft7

def words : Words := ⟨part "#", fun name => part ("#/definitions/" ++ name)⟩

/-- The parts that the keywords share. -/
def definitions : Value := map [
  ("schemaArray", words.schemaArray),
  ("nonNegativeInteger", nonNegative),
  ("nonNegativeIntegerDefault0",
    map [("allOf", .array [words.definition "nonNegativeInteger",
      map [("default", .number (.int 0))]])]),
  ("simpleTypes", simpleTypes),
  ("stringArray", stringArray)]

/-- What the keywords that both drafts know look like. -/
def sharedKeywords : List (String × Value) :=
  descriptions ++ limits ++ words.combinations
    ++ words.counts "nonNegativeInteger" "nonNegativeIntegerDefault0"
    ++ [words.type, ("$id", shaped "uri-reference"), ("$schema", shaped "uri"),
      ("$ref", shaped "uri-reference"), ("examples", typed "array" [("items", .bool true)]),
      ("pattern", shaped "regex"), ("additionalItems", words.schema),
      ("items", words.schemaOrArray), ("uniqueItems", boolean), ("contains", words.schema),
      ("required", words.definition "stringArray"), ("additionalProperties", words.schema),
      ("definitions", words.schemas), ("properties", words.schemas),
      ("dependencies", words.dependencies (words.definition "stringArray")),
      ("propertyNames", words.schema), ("format", string)]

/-- What the keywords of draft 6 look like. -/
def keywordsOfDraft6 : Value := map <|
  sharedKeywords ++ [("default", map []), ("patternProperties", words.schemas),
    ("const", map []),
    ("enum", typed "array" [("minItems", .number (.int 1)), ("uniqueItems", .bool true)])]

/-- What the keywords of draft 7 look like. -/
def keywords : Value := map <|
  sharedKeywords ++ words.conditions ++ [("$comment", string), ("default", .bool true),
    ("readOnly", boolean), ("writeOnly", boolean), ("patternProperties", words.patternSchemas),
    ("const", .bool true), ("enum", typed "array" [("items", .bool true)]),
    ("contentMediaType", string), ("contentEncoding", string)]

/-- The schema of schemas of a draft with the given keywords. -/
def documentOf (draft : Draft) (keywords default : Value) : Value := map [
  ("$schema", .string (draft.identifier ++ "#")),
  ("$id", .string (draft.identifier ++ "#")),
  ("title", .string "Core schema meta-schema"),
  ("definitions", definitions),
  ("type", mapOrBoolean),
  ("properties", keywords),
  ("default", default)]

/-- The schema of schemas of draft 6. -/
def documentOfDraft6 : Value := documentOf .draft6 keywordsOfDraft6 (map [])

/-- The schema of schemas of draft 7. -/
def document : Value := documentOf .draft7 keywords (.bool true)

end ScenarioTree.Schema.Standard.Draft7
