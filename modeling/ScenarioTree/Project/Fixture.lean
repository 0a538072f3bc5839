import ScenarioTree.Project.Loader

/-!
# Fixtures

Projects in the making, for tests: a directory that is filled file by file. A file is written with
the directories that it needs, and its path is the answer. What a fixture cannot do stops the test.
-/

namespace ScenarioTree

/-- Why a fixture cannot do what it is asked for. -/
inductive FixtureError where
  /-- The directories of a file cannot be made. -/
  | directories (fault : FileFault)
  | write (path : Path) (fault : FileFault)
  /-- A file that is expected is not there. -/
  | missing (path : Path)

namespace FixtureError

/-- The number, kind and wording of a fault. -/
def faultDetails : FileFault → Nat × String × String
  | .notFound => (2, "NotFound", "No such file or directory")
  | .alreadyExists => (17, "AlreadyExists", "File exists")
  | .notADirectory => (20, "NotADirectory", "Not a directory")
  | .isADirectory => (21, "IsADirectory", "Is a directory")
  | .invalidText => (22, "InvalidInput", "Invalid argument")

/-- The wording of an error. -/
def message : FixtureError → String
  | .directories fault =>
    let (code, kind, text) := faultDetails fault
    "called \x60Result::unwrap()\x60 on an \x60Err\x60 value: Os \x7b code: " ++ toString code
      ++ ", kind: " ++ kind ++ ", message: " ++ Text.quoted text ++ " \x7d"
  | .write path fault => s!"Could not write {path.text}: {fault.text}"
  | .missing path => s!"Expected file to exist: {path.text}"

end FixtureError

/-- A project in the making. -/
structure Fixture where
  disk : Disk
  root : Path

namespace Fixture

/-- Writes a file below the root. Directories that are made stay, even if the file cannot be
    written. -/
def writeFile (fixture : Fixture) (path content : String) :
    Except FixtureError Path × Fixture :=
  let path := fixture.root.child path
  match path.parent?.elim (.ok fixture.disk) fixture.disk.makeDirectories with
  | .error fault => (.error (.directories fault), fixture)
  | .ok disk =>
    match disk.writeFile path content.toUTF8 with
    | .error fault => (.error (.write path fault), { fixture with disk })
    | .ok disk => (.ok path, { fixture with disk })

/-- Writes the document of the application. -/
def writeApplication (fixture : Fixture) (content : String) : Except FixtureError Path × Fixture :=
  fixture.writeFile "app/app.yaml" content

/-- Writes a file in the directory of a route. -/
def writeInRoute (fixture : Fixture) (route file content : String) :
    Except FixtureError Path × Fixture :=
  fixture.writeFile s!"routes/{route}_route/{file}" content

/-- Writes the document of a route. -/
def addRoute (fixture : Fixture) (route content : String) : Except FixtureError Path × Fixture :=
  fixture.writeInRoute route "route.yaml" content

/-- Writes a scenario of a route. -/
def addScenario (fixture : Fixture) (route file content : String) :
    Except FixtureError Path × Fixture :=
  fixture.writeInRoute route file content

/-- Writes the values of an environment. -/
def writeConfig (fixture : Fixture) (environment extension content : String) :
    Except FixtureError Path × Fixture :=
  fixture.writeFile s!"config/{environment}.{extension}" content

/-- Makes sure that something is there. -/
def expect (fixture : Fixture) (path : String) : Except FixtureError Unit :=
  let path := fixture.root.child path
  if fixture.disk.contains path then .ok () else .error (.missing path)

/-- All files below the root, with their paths from there. -/
def files (fixture : Fixture) : List (String × String) :=
  match fixture.disk.tree? fixture.root with
  | .error _ => []
  | .ok tree =>
    tree.files.map fun (names, content) =>
      ("/".intercalate names, (String.fromUTF8? content).getD "")

/-- The files of a small but complete project: two routes with three scenarios.

    | scenario      | route    | tags                |
    |---------------|----------|---------------------|
    | `list pets`   | `pets`   | `smoke`             |
    | `create pet`  | `pets`   | `regression` `slow` |
    | `get order`   | `orders` | `smoke` `regression`| -/
def petstoreFiles : List (String × String) := [
  ("app/app.yaml",
    "name: petstore\nhost: https://petstore.example.com\nparameters:\n  headers:\n"
      ++ "    - key: Accept\n      value: application/json\nmeta:\n  env: [qa]\nhooks: [auth]\n"),
  ("routes/pets_route/route.yaml",
    "name: pets\nmethod: GET\npath: /pets\nscenarios:\n  - list.yaml\n  - create.yaml\n"),
  ("routes/pets_route/list.yaml", "name: list pets\nmeta:\n  tags: [smoke]\n"),
  ("routes/pets_route/create.yaml",
    "name: create pet\nexpected_status: 201\nmeta:\n  tags: [regression, slow]\n"),
  ("routes/orders_route/route.yaml",
    "name: orders\nmethod: GET\npath: /orders/\x7bid\x7d\nscenarios: [get.yaml]\n"),
  ("routes/orders_route/get.yaml", "name: get order\nmeta:\n  tags: [smoke, regression]\n")]

/-- The fixture with the files of that project. -/
def petstore (fixture : Fixture) : Fixture :=
  petstoreFiles.foldl (fun fixture (path, content) => (fixture.writeFile path content).2) fixture

/-- Loads the project. -/
def load (fixture : Fixture) (options : Options) : Except LoadError Application :=
  Application.load fixture.disk options fixture.root

end Fixture

end ScenarioTree
