import ScenarioTree.Path

/-!
# The layout of a project

Where the documents of a project are:

    app/app.yaml                     the application
    routes/<name>_route/route.yaml   one route, which lists its scenarios
    config/<environment>.<format>    the values of one environment
-/

namespace ScenarioTree

/-- The parts of a project with a fixed name. -/
inductive ProjectPart where
  | applicationDirectory
  | applicationFile
  | routesDirectory
  | routeFile
  | configDirectory
  deriving DecidableEq

namespace ProjectPart

/-- All parts. -/
def all : List ProjectPart :=
  [applicationDirectory, applicationFile, routesDirectory, routeFile, configDirectory]

/-- The name of a part. -/
def name : ProjectPart → String
  | applicationDirectory => "app"
  | applicationFile => "app.yaml"
  | routesDirectory => "routes"
  | routeFile => "route.yaml"
  | configDirectory => "config"

/-- Where a part is in a directory. The file of the application lies in a directory of its own. -/
def inDirectory (part : ProjectPart) (directory : Path) : Path :=
  match part with
  | applicationFile => (directory.child applicationDirectory.name).child applicationFile.name
  | part => directory.child part.name

end ProjectPart

/-- How the name of a directory with a route ends. -/
def routeSuffix : String := "_route"

end ScenarioTree
