import ScenarioTree.Value

/-!
# The words of the schemas of schemas

What the schemas of schemas of all drafts have in common. They differ in how they refer to
themselves.
-/

namespace ScenarioTree.Schema.Standard

/-! ## Values -/

def map (entries : List (String × Value)) : Value := .ofEntries entries

def typed (type : String) (more : List (String × Value)) : Value :=
  map (("type", .string type) :: more)

def string : Value := typed "string" []

def number : Value := typed "number" []

def boolean : Value := typed "boolean" []

/-- A string of a named shape. -/
def shaped (shape : String) : Value := typed "string" [("format", .string shape)]

def anyOf (options : List Value) : Value := map [("anyOf", .array options)]

/-- A reference to a part of a document. -/
def part (target : String) : Value := map [("$ref", .string target)]

/-- What can be a schema since drafts know Boolean schemas. -/
def mapOrBoolean : Value := .ofStrings ["object", "boolean"]

/-- The names of the kinds of values. -/
def simpleTypes : Value :=
  map [("enum", .ofStrings ["array", "boolean", "integer", "null", "number", "object", "string"])]

def nonNegative : Value := typed "integer" [("minimum", .number (.int 0))]

/-- A list of different strings. -/
def stringArray : Value :=
  typed "array" [("items", string), ("uniqueItems", .bool true), ("default", .array [])]

/-! ## Words -/

/-- How a schema of schemas refers to itself, and to its own parts. -/
structure Words where
  /-- Any schema. -/
  schema : Value
  /-- A part under a name. -/
  definition : String → Value

namespace Words

/-- Schemas under the keys of a map. -/
def schemas (words : Words) : Value :=
  typed "object" [("additionalProperties", words.schema), ("default", map [])]

/-- Schemas under patterns. -/
def patternSchemas (words : Words) : Value :=
  typed "object" [("additionalProperties", words.schema),
    ("propertyNames", map [("format", .string "regex")]), ("default", map [])]

/-- Schemas under the keys of a map, among lists of names. -/
def dependencies (words : Words) (names : Value) : Value :=
  typed "object" [("additionalProperties", anyOf [words.schema, names])]

/-- Some schemas. -/
def schemaArray (words : Words) : Value :=
  typed "array" [("minItems", .number (.int 1)), ("items", words.schema)]

/-- One schema, or some. -/
def schemaOrArray (words : Words) : Value :=
  anyOf [words.schema, words.definition "schemaArray"]

/-- The keywords that combine schemas. -/
def combinations (words : Words) : List (String × Value) := [
  ("allOf", words.definition "schemaArray"), ("anyOf", words.definition "schemaArray"),
  ("oneOf", words.definition "schemaArray"), ("not", words.schema)]

/-- The keywords on conditions. -/
def conditions (words : Words) : List (String × Value) :=
  [("if", words.schema), ("then", words.schema), ("else", words.schema)]

/-- The keywords on counts. The two names are those of counts, and of counts that are zero where
    they are not given. -/
def counts (words : Words) (count orZero : String) : List (String × Value) := [
  ("maxLength", words.definition count), ("minLength", words.definition orZero),
  ("maxItems", words.definition count), ("minItems", words.definition orZero),
  ("maxProperties", words.definition count), ("minProperties", words.definition orZero)]

/-- The keyword on kinds of values. -/
def type (words : Words) : String × Value :=
  ("type", anyOf [words.definition "simpleTypes",
    typed "array" [("items", words.definition "simpleTypes"), ("minItems", .number (.int 1)),
      ("uniqueItems", .bool true)]])

end Words

/-! ## Keywords without schemas below them -/

/-- The keywords on the size of numbers. -/
def limits : List (String × Value) := [
  ("multipleOf", typed "number" [("exclusiveMinimum", .number (.int 0))]), ("maximum", number),
  ("exclusiveMaximum", number), ("minimum", number), ("exclusiveMinimum", number)]

/-- The keywords that tell about a schema. -/
def descriptions : List (String × Value) := [("title", string), ("description", string)]

end ScenarioTree.Schema.Standard
