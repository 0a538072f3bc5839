import ScenarioTree.Record.Basic

/-!
# The three kinds of records

The records of applications, routes and scenarios.
-/

namespace ScenarioTree

/-- The properties of an application. -/
structure ApplicationRecord extends Sections where
  name : Option String
  description : Option String
  /-- Where requests are sent to. -/
  host : Option String

/-- The properties of a route. -/
structure RouteRecord extends Sections where
  name : Option String
  description : Option String
  method : Option String
  /-- The path of requests, relative to the host. -/
  path : Option String
  /-- The files of the scenarios, relative to the document of the route. -/
  scenarios : Option (List String)

/-- The properties of a scenario. -/
structure ScenarioRecord extends Sections where
  name : Option String
  description : Option String
  body : Option Value
  expectedStatus : Option UInt16

instance : Record ApplicationRecord where
  kind := "application"
  unset := { Sections.unset with name := none, description := none, host := none }
  fields := [
    .of "name" (·.name) ({ · with name := · }),
    .of "description" (·.description) ({ · with description := · }),
    .of "host" (·.host) ({ · with host := · }),
    .of "parameters" (·.parameters) ({ · with parameters := · }),
    .of "meta" (·.metadata) ({ · with metadata := · }),
    .of "hooks" (·.hooks) ({ · with hooks := · })]
  sections := (·.toSections)
  withSections record sections := { record with toSections := sections }

instance : Record RouteRecord where
  kind := "route"
  unset := { Sections.unset with
    name := none, description := none, method := none, path := none, scenarios := none }
  fields := [
    .of "name" (·.name) ({ · with name := · }),
    .of "description" (·.description) ({ · with description := · }),
    .of "method" (·.method) ({ · with method := · }),
    .of "path" (·.path) ({ · with path := · }),
    .of "parameters" (·.parameters) ({ · with parameters := · }),
    .of "meta" (·.metadata) ({ · with metadata := · }),
    .of "hooks" (·.hooks) ({ · with hooks := · }),
    .of "scenarios" (·.scenarios) ({ · with scenarios := · })]
  sections := (·.toSections)
  withSections record sections := { record with toSections := sections }

instance : Record ScenarioRecord where
  kind := "scenario"
  unset := { Sections.unset with
    name := none, description := none, body := none, expectedStatus := none }
  fields := [
    .of "name" (·.name) ({ · with name := · }),
    .of "description" (·.description) ({ · with description := · }),
    .of "parameters" (·.parameters) ({ · with parameters := · }),
    .of "meta" (·.metadata) ({ · with metadata := · }),
    .of "hooks" (·.hooks) ({ · with hooks := · }),
    .of "body" (·.body) ({ · with body := · }),
    .of "expected_status" (·.expectedStatus) ({ · with expectedStatus := · })]
  sections := (·.toSections)
  withSections record sections := { record with toSections := sections }

end ScenarioTree
