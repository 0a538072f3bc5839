import ScenarioTree.Cascade
import ScenarioTree.Project.Environment
import ScenarioTree.Record.Kinds
import ScenarioTree.Record.Response
import ScenarioTree.Tag.Filter

/-!
# The tree of a project

An application with its routes, and the routes with their scenarios. A route and a scenario have two
records: their own, as their document states it, and the one that also has what they inherit. The
tags of a scenario are those of its record with what it inherits.
-/

namespace ScenarioTree

/-- A scenario of a route. -/
structure Scenario where
  /-- What the document of the scenario states. -/
  own : ScenarioRecord
  /-- What it states, with what it inherits. -/
  record : ScenarioRecord
  source : Path
  /-- The document of the route. -/
  parentSource : Path
  /-- What came back for it, once somebody has sent it. -/
  response : Option Response

namespace Scenario

/-- The name, empty if there is none. -/
def name (scenario : Scenario) : String := scenario.record.name.getD ""

def tags (scenario : Scenario) : TagSet := .ofMeta scenario.record.metadata

instance : Tag.Tagged Scenario := ⟨tags⟩

/-- The metadata that the scenario and its route disagree on. -/
def conflicts (scenario : Scenario) (route : RouteRecord) : List Cascade.Conflict :=
  Cascade.conflicts scenario.own.toSections route.toSections

end Scenario

/-- A route of an application. -/
structure Route where
  /-- What the document of the route states. -/
  own : RouteRecord
  /-- What it states, with what it inherits. -/
  record : RouteRecord
  source : Path
  /-- The document of the application. -/
  parentSource : Path
  scenarios : List Scenario
  /-- What came back for it, once somebody has sent it. -/
  response : Option Response

/-- The files of the scenarios that a route lists, seen from the directory of its document. -/
def RouteRecord.scenarioPaths (record : RouteRecord) (source : Path) : List Path :=
  (record.scenarios.getD []).map fun entry => (source.directory.child entry).normalize

namespace Route

/-- The name, empty if there is none. -/
def name (route : Route) : String := route.record.name.getD ""

/-- The files of the scenarios, in the order of the document. -/
def scenarioPaths (route : Route) : List Path := route.record.scenarioPaths route.source

/-- The metadata that the route or its scenarios disagree on with what they inherit, each with the
    document that states them. -/
def conflicts (route : Route) (application : ApplicationRecord) :
    List (Path × Cascade.Conflict) :=
  let own := (Cascade.conflicts route.own.toSections application.toSections).map (route.source, ·)
  own ++ route.scenarios.flatMap fun scenario =>
    (scenario.conflicts route.record).map (scenario.source, ·)

end Route

/-- An application. -/
structure Application where
  record : ApplicationRecord
  /-- The directory of the project. -/
  project : Path
  source : Path
  /-- The selected environment, if one was selected. -/
  environment : Option Environment
  /-- The routes in the order in which they were found. -/
  routes : List Route

namespace Application

/-- The name, empty if there is none. -/
def name (application : Application) : String := application.record.name.getD ""

/-- The first route with a name. -/
def route? (application : Application) (name : String) : Option Route :=
  application.routes.find? (·.name == name)

/-- All scenarios, in the order of the routes. -/
def scenarios (application : Application) : List Scenario :=
  application.routes.flatMap (·.scenarios)

/-- The scenarios that a query selects. -/
def select (application : Application) (query : String) : Except LoadError (List Scenario) :=
  match Tag.Query.parse query with
  | .ok query => .ok (query.select application.scenarios)
  | .error reason => .error (.malformedQuery query reason)

/-- The application without one of its routes, and that route. -/
def removeRoute? (application : Application) (index : Nat) : Option (Route × Application) :=
  application.routes[index]?.map fun route =>
    (route, { application with routes := application.routes.eraseIdx index })

/-- The application with a response for one of its routes, or for one of the scenarios of a
    route. -/
def respond? (application : Application) (route : Nat) (scenario : Option Nat)
    (response : Response) : Option Application := do
  let node ← application.routes[route]?
  let node ←
    match scenario with
    | none => some { node with response := some response }
    | some index => do
      let inner ← node.scenarios[index]?
      some { node with
        scenarios := node.scenarios.set index { inner with response := some response } }
  return { application with routes := application.routes.set route node }

/-- The metadata that documents disagree on with what they inherit. -/
def conflicts (application : Application) : List (Path × Cascade.Conflict) :=
  application.routes.flatMap (·.conflicts application.record)

end Application

end ScenarioTree
