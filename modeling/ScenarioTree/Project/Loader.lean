import ScenarioTree.Project.Discovery
import ScenarioTree.Project.Node
import ScenarioTree.Project.Options
import ScenarioTree.Schema.Store

/-!
# Loading projects

A project is loaded from the top: the application, its environment, the routes, and behind each
route its scenarios. Every document is checked against the schema of its kind before it becomes a
record, and every record takes over what is handed down to it. The first error ends the load.

A loader keeps the schemas that it has read, also those of a load that failed.
-/

namespace ScenarioTree

/-- What a project is loaded from. The schemas and the directories are those of the disk. -/
structure Supply where
  disk : Disk
  /-- Where documents and the values of environments come from. -/
  documents : Source
  discovery : Discovery

/-- Everything from a disk. -/
def Supply.ofDisk (disk : Disk) : Supply := ⟨disk, disk.source, .ofDisk disk⟩

/-- What loads projects. -/
structure Loader where
  options : Options
  schemas : SchemaStore

/-- A part of a load. It fails or gives a value, and keeps the schemas in either case. -/
abbrev Load := ExceptT LoadError (StateM SchemaStore)

namespace Loader

/-- A loader that has read no schema yet. -/
def new (options : Options) : Loader := ⟨options, .new options.schemaDirectory⟩

variable (options : Options) (supply : Supply)

/-- What opens the documents of a source inside each other. -/
def resolver (source : Source) : Resolver := ⟨source, supply.disk.identity, options.maxDepth⟩

/-- The schema in a file of the schema directory. -/
def loadSchema (file : String) : Load StoredSchema :=
  fun store => store.request (resolver options supply supply.disk.source) (store.pathOf file)

/-- The record of a document. -/
def loadRecord {R : Type} [Record R] (schemaFile : String) (path : Path) : Load R := do
  let schema ← loadSchema options supply schemaFile
  let data ←
    match (resolver options supply supply.documents).resolveFile path with
    | .ok data => pure data
    | .error error => throw (.ofFile error)
  MonadExcept.ofExcept (schema.check data path)
  MonadExcept.ofExcept (Record.ofDocument schema.tree data path)

/-- A scenario of a route. -/
def loadScenario (route : RouteRecord) (routeSource path : Path) : Load Scenario := do
  let own ← loadRecord options supply Bundled.scenarioFile path
  return ⟨own, Cascade.inherit own route, path, routeSource, none⟩

/-- A route of an application, with its scenarios. -/
def loadRoute (application : ApplicationRecord) (applicationSource path : Path) : Load Route := do
  let own : RouteRecord ← loadRecord options supply Bundled.routeFile path
  let record := Cascade.inherit own application
  let scenarios ← (record.scenarioPaths path).mapM (loadScenario options supply record path)
  return ⟨own, record, path, applicationSource, scenarios, none⟩

/-- The selected environment of a project. -/
def loadEnvironment (project : Path) : Load (Option Environment) :=
  match options.environment with
  | none => return none
  | some name => do
    let environment := Environment.load supply.disk supply.documents project name
    return some (← MonadExcept.ofExcept environment)

/-- The application of a project, with its routes. -/
def loadApplication (project : Path) : Load Application := do
  if !supply.disk.isDirectory project then throw (.invalidPath project)
  let source := ProjectPart.applicationFile.inDirectory project
  let record ← loadRecord options supply Bundled.applicationFile source
  let environment ← loadEnvironment options supply project
  let manifests ←
    MonadExcept.ofExcept (supply.discovery (ProjectPart.routesDirectory.inDirectory project))
  let routes ← manifests.mapM (loadRoute options supply record source)
  return ⟨record, project, source, environment, routes⟩

variable {options}

/-- Loads a project. The loader that comes with the answer has the schemas that were read. -/
def load (loader : Loader) (project : Path) : Except LoadError Application × Loader :=
  let (answer, schemas) := (loadApplication loader.options supply project).run loader.schemas
  (answer, { loader with schemas })

end Loader

/-- The project in a directory, by a new loader and everything from a disk. -/
def Application.load (disk : Disk) (options : Options) (project : Path) :
    Except LoadError Application :=
  ((Loader.new options).load (.ofDisk disk) project).1

end ScenarioTree
