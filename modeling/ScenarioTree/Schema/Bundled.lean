import ScenarioTree.Value

/-!
# The bundled schemas

The schemas of the three kinds of documents. The parts that the kinds share are files of their own;
`Bundled.files` are the files as they lie in the schema directory. With `SectionSchemas.whole` the
schema of a kind has the shared parts in their places.
-/

namespace ScenarioTree.Bundled

/-! ## Building blocks -/

def map (entries : List (String × Value)) : Value := .ofEntries entries

def strings (items : List String) : Value := .ofStrings items

/-- A schema that asks for a type, and more. -/
def typed (type : String) (more : List (String × Value)) : Value :=
  map (("type", .string type) :: more)

/-- Any string. -/
def anyString : Value := typed "string" []

/-- Any string that is not empty. -/
def someString : Value := typed "string" [("minLength", .number (.int 1))]

/-- Any value. -/
def anyValue : Value := map []

/-- A list of strings that are not empty. -/
def stringList : Value := typed "array" [("items", someString)]

/-- A marker that stands for a file of the schema directory. -/
def marker (path : String) : Value := map [("$ref", .string path)]

/-! ## Shared parts -/

/-- Hooks: a list of names. -/
def hooks : Value := stringList

/-- Metadata: any map whose tags, if it has any, are strings. -/
def metadata : Value := typed "object" [("properties", map [("tags", stringList)])]

/-- A list of parameters. -/
def parameterList : Value :=
  typed "array" [("items", typed "object" [
    ("required", strings ["key"]),
    ("properties", map [("key", someString), ("value", anyValue), ("description", anyString)])])]

/-- The three lists of parameters, each of which has the given schema. -/
def parametersOf (list : Value) : Value :=
  typed "object" [
    ("additionalProperties", .bool false),
    ("properties", map [("headers", list), ("path_variables", list), ("query_params", list)])]

/-- The three lists of parameters. -/
def parameters : Value := parametersOf parameterList

/-! ## Documents -/

/-- The schemas of the sections that every kind of document has. -/
structure SectionSchemas where
  parameters : Value
  metadata : Value
  hooks : Value

/-- The sections in place. -/
def SectionSchemas.whole : SectionSchemas := ⟨Bundled.parameters, Bundled.metadata, Bundled.hooks⟩

/-- The sections as markers that stand for their files. -/
def SectionSchemas.markers : SectionSchemas :=
  ⟨marker "./definitions/parameters.yaml", marker "./definitions/meta.yaml",
    marker "./definitions/hooks.yaml"⟩

/-- A schema of documents: what it describes, which properties have to be there, and all properties
    that may be there. -/
def document (title description : String) (required : List String) (sections : SectionSchemas)
    (properties : List (String × Value)) : Value :=
  typed "object" [
    ("$schema", .string "http://json-schema.org/draft-07/schema#"),
    ("title", .string title),
    ("description", .string description),
    ("required", strings required),
    ("additionalProperties", .bool false),
    ("properties", map (properties ++ [("name", someString), ("description", anyString),
      ("parameters", sections.parameters), ("meta", sections.metadata),
      ("hooks", sections.hooks)]))]

/-- The schema of applications. -/
def application (sections : SectionSchemas) : Value :=
  document "Application" "Application manifest (app/app.yaml)" ["name"] sections
    [("host", anyString)]

/-- The schema of routes. -/
def route (sections : SectionSchemas) : Value :=
  document "Route" "Route manifest (routes/<name>_route/route.yaml)" ["name", "method", "path"]
    sections [
      ("method", typed "string" [
        ("enum", strings ["GET", "POST", "PUT", "PATCH", "DELETE", "HEAD", "OPTIONS"])]),
      ("path", typed "string" [("pattern", .string "^/")]),
      ("scenarios", stringList)]

/-- The schema of scenarios. -/
def scenario (sections : SectionSchemas) : Value :=
  document "Scenario" "A single request/expectation pair declared by a route" ["name"] sections [
    ("body", anyValue),
    ("expected_status", typed "integer" [
      ("minimum", .number (.int 100)), ("maximum", .number (.int 599))])]

/-! ## Files -/

/-- The name of the file with the schema of applications. -/
def applicationFile : String := "app_schema.yaml"

/-- The name of the file with the schema of routes. -/
def routeFile : String := "route_schema.yaml"

/-- The name of the file with the schema of scenarios. -/
def scenarioFile : String := "scenario_schema.yaml"

/-- The files of the schema directory, with their contents. -/
def files : List (String × Value) := [
  (applicationFile, application .markers),
  (routeFile, route .markers),
  (scenarioFile, scenario .markers),
  ("definitions/hooks.yaml", hooks),
  ("definitions/meta.yaml", metadata),
  ("definitions/parameter_list.yaml", parameterList),
  ("definitions/parameters.yaml", parametersOf (marker "./parameter_list.yaml"))]

end ScenarioTree.Bundled
