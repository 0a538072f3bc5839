import ScenarioTree.Proofs.Project.Load
import ScenarioTree.Proofs.Schema.Store

/-!
# What loading a project comes to

A load either gives the project that the documents describe, or fails with the error of the first
part that cannot be used: the application, the environment, the search for routes, and then each
route with the scenarios that it lists. The schemas that a loader keeps and those that it reads on
the way do not show in this, beyond what its store answers for the three kinds before the load.

Results:

* `Loader.schemas_setting_new`: a loader that has read no schema takes each from its file.
* `Setting.loadRecord_meets`, `Setting.loadScenario_meets`, `Setting.loadRoute_meets`,
  `Setting.loadApplication_meets`: what each part of a load comes to.
* `Setting.exists_isProject_iff`: there is a project to give if every part can be used.
* `Loader.load_eq_iff`: what a load comes to.
-/

namespace ScenarioTree

/-- What decides how a project is loaded. -/
structure Setting where
  options : Options
  supply : Supply
  /-- The schemas in the files of the schema directory, or why they cannot be used. -/
  schemas : String → Except LoadError StoredSchema

/-- The setting of the loads of a loader. -/
def Loader.setting (loader : Loader) (supply : Supply) : Setting where
  options := loader.options
  supply
  schemas file :=
    (loader.schemas.request (resolver loader.options supply supply.disk.source)
      (loader.schemas.pathOf file)).1

/-- A loader that has read no schema takes each from its file. -/
theorem Loader.schemas_setting_new (options : Options) (supply : Supply) (file : String) :
    ((new options).setting supply).schemas file =
      (resolver options supply supply.disk.source).schemaAt
        (options.schemaDirectory.child file) := by
  rw [setting]
  exact SchemaStore.request_fst _ _ _

/-- What a route inherits has no scenarios. -/
theorem RouteRecord.scenarioPaths_inherit (own : RouteRecord) (application : ApplicationRecord) :
    (Cascade.inherit own application).scenarioPaths = own.scenarioPaths := rfl

namespace Setting

variable (setting : Setting)

/-! ## Descriptions -/

/-- The document at a path, expanded. -/
def document (path : Path) : Except LoadError Value :=
  let resolver := Loader.resolver setting.options setting.supply setting.supply.documents
  (resolver.resolveFile path).mapError .ofFile

/-- The environment of a project, if one is selected. -/
def environment (project : Path) : Except LoadError (Option Environment) :=
  setting.options.environment.mapM
    (Environment.load setting.supply.disk setting.supply.documents project)

/-- The documents of the routes of a project. -/
def manifests (project : Path) : Except LoadError (List Path) :=
  setting.supply.discovery (ProjectPart.routesDirectory.inDirectory project)

/-- A record is what the document at a path states, which has to satisfy a schema. -/
def IsStated {R : Type} [Record R] (schemaFile : String) (path : Path) (record : R) : Prop :=
  ∃ schema data, setting.schemas schemaFile = .ok schema ∧ setting.document path = .ok data ∧
    schema.linked.violations data = [] ∧ Record.ofDocument schema.tree data path = .ok record

/-- The first reason why a document states no record: the schema, the document itself, its first
    violation of the schema, or a property that cannot be stored. -/
inductive DocumentFails (R : Type) [Record R] (schemaFile : String) (path : Path) :
    LoadError → Prop where
  | schema {error : LoadError} (h : setting.schemas schemaFile = .error error) :
      DocumentFails R schemaFile path error
  | document {schema : StoredSchema} {error : LoadError}
      (hschema : setting.schemas schemaFile = .ok schema)
      (h : setting.document path = .error error) : DocumentFails R schemaFile path error
  | violation {schema : StoredSchema} {data : Value} {first : Violation}
      {others : List Violation} (hschema : setting.schemas schemaFile = .ok schema)
      (hdata : setting.document path = .ok data)
      (h : schema.linked.violations data = first :: others) :
      DocumentFails R schemaFile path (.invalidData path first.pointer first.rule first.message)
  | record {schema : StoredSchema} {data : Value} {error : LoadError}
      (hschema : setting.schemas schemaFile = .ok schema)
      (hdata : setting.document path = .ok data) (hvalid : schema.linked.violations data = [])
      (h : Record.ofDocument (R := R) schema.tree data path = .error error) :
      DocumentFails R schemaFile path error

/-- The scenario that a document of a route states. -/
structure IsScenario (route : RouteRecord) (routeSource path : Path) (scenario : Scenario) :
    Prop where
  own : setting.IsStated Bundled.scenarioFile path scenario.own
  record : scenario.record = Cascade.inherit scenario.own route
  tags : scenario.tags = .ofMeta scenario.record.metadata
  source : scenario.source = path
  parentSource : scenario.parentSource = routeSource
  response : scenario.response = none

/-- The route that a document of an application states, with its scenarios. -/
structure IsRoute (application : ApplicationRecord) (applicationSource manifest : Path)
    (route : Route) : Prop where
  own : setting.IsStated Bundled.routeFile manifest route.own
  record : route.record = Cascade.inherit route.own application
  source : route.source = manifest
  parentSource : route.parentSource = applicationSource
  scenarios : List.Forall₂ (setting.IsScenario route.record route.source) route.scenarioPaths
    route.scenarios
  response : route.response = none

/-- The project that the documents of a directory state. -/
structure IsProject (project : Path) (application : Application) : Prop where
  directory : setting.supply.disk.isDirectory project = true
  source : application.source = ProjectPart.applicationFile.inDirectory project
  record : setting.IsStated Bundled.applicationFile application.source application.record
  environment : setting.environment project = .ok application.environment
  routes : ∃ manifests, setting.manifests project = .ok manifests ∧
    List.Forall₂ (setting.IsRoute application.record application.source) manifests
      application.routes
  project : application.project = project

/-- The document of a scenario can be used. -/
def ScenarioLoads (path : Path) : Prop :=
  ∃ record : ScenarioRecord, setting.IsStated Bundled.scenarioFile path record

/-- The document of a route and those of the scenarios that it lists can be used. -/
def RouteLoads (manifest : Path) : Prop :=
  ∃ record : RouteRecord, setting.IsStated Bundled.routeFile manifest record ∧
    ∀ path ∈ record.scenarioPaths manifest, setting.ScenarioLoads path

/-- The first reason why a route cannot be used: its own document, or the first of its scenarios
    that cannot be used. -/
inductive RouteFails (manifest : Path) : LoadError → Prop where
  | manifest {error : LoadError}
      (h : setting.DocumentFails RouteRecord Bundled.routeFile manifest error) :
      RouteFails manifest error
  | scenario {record : RouteRecord} {error : LoadError}
      (hrecord : setting.IsStated Bundled.routeFile manifest record)
      (h : FirstFails setting.ScenarioLoads
        (setting.DocumentFails ScenarioRecord Bundled.scenarioFile)
        (record.scenarioPaths manifest) error) :
      RouteFails manifest error

/-- The application can be used: its directory and its document. -/
structure ApplicationLoads (project : Path) : Prop where
  directory : setting.supply.disk.isDirectory project = true
  document : ∃ record : ApplicationRecord, setting.IsStated Bundled.applicationFile
    (ProjectPart.applicationFile.inDirectory project) record

/-- The first reason why a project cannot be used. -/
inductive ProjectFails (project : Path) : LoadError → Prop where
  | directory (h : setting.supply.disk.isDirectory project = false) :
      ProjectFails project (.invalidPath project)
  | application {error : LoadError} (hdirectory : setting.supply.disk.isDirectory project = true)
      (h : setting.DocumentFails ApplicationRecord Bundled.applicationFile
        (ProjectPart.applicationFile.inDirectory project) error) :
      ProjectFails project error
  | environment {error : LoadError} (happlication : setting.ApplicationLoads project)
      (h : setting.environment project = .error error) : ProjectFails project error
  | discovery {environment : Option Environment} {error : LoadError}
      (happlication : setting.ApplicationLoads project)
      (henvironment : setting.environment project = .ok environment)
      (h : setting.manifests project = .error error) : ProjectFails project error
  | route {environment : Option Environment} {manifests : List Path} {error : LoadError}
      (happlication : setting.ApplicationLoads project)
      (henvironment : setting.environment project = .ok environment)
      (hmanifests : setting.manifests project = .ok manifests)
      (h : FirstFails setting.RouteLoads setting.RouteFails manifests error) :
      ProjectFails project error

/-- Every part of a project can be used. -/
structure ProjectLoads (project : Path) : Prop where
  application : setting.ApplicationLoads project
  environment : ∃ environment, setting.environment project = .ok environment
  routes : ∃ manifests, setting.manifests project = .ok manifests ∧
    ∀ manifest ∈ manifests, setting.RouteLoads manifest

/-! ## One document -/

/-- A store that answers with the schemas of the setting. -/
def Suits (store : SchemaStore) : Prop :=
  store.Gives (Loader.resolver setting.options setting.supply setting.supply.disk.source)
    setting.schemas

theorem loadSchema_meets {file : String} (hfile : IsEntryName file) :
    Load.Meets setting.Suits (Loader.loadSchema setting.options setting.supply file)
      (setting.schemas file = .ok ·) (setting.schemas file = .error ·) where
  ok_iff hstore schema := by rw [← hstore file hfile]; rfl
  error_iff hstore error := by rw [← hstore file hfile]; rfl
  invariant hstore := hstore.request hfile

/-- The steps of reading a record, as parts in a row: what comes behind the document is one part,
    however the document came out. -/
theorem loadRecord_eq (R : Type) [Record R] (schemaFile : String) (path : Path) :
    Loader.loadRecord (R := R) setting.options setting.supply schemaFile path =
      Loader.loadSchema setting.options setting.supply schemaFile >>= fun schema =>
        MonadExcept.ofExcept (setting.document path) >>= fun data =>
          MonadExcept.ofExcept (schema.check data path) >>= fun _ =>
            MonadExcept.ofExcept (Record.ofDocument schema.tree data path) := by
  refine congrArg (_ >>= ·) (funext fun schema => ?_)
  rw [document]
  cases Resolver.resolveFile _ path <;> rfl

theorem loadRecord_meets (R : Type) [Record R] {schemaFile : String}
    (hfile : IsEntryName schemaFile) (path : Path) :
    Load.Meets setting.Suits
      (Loader.loadRecord (R := R) setting.options setting.supply schemaFile path)
      (setting.IsStated schemaFile path) (setting.DocumentFails R schemaFile path) := by
  rw [loadRecord_eq]
  refine ((setting.loadSchema_meets hfile).bind fun schema =>
    (Load.Meets.ofExcept (setting.document path)).bind fun data =>
      (Load.Meets.ofExcept (schema.check data path)).bind fun _ =>
        Load.Meets.ofExcept (Record.ofDocument (R := R) schema.tree data path)).congr
    (fun record => ?_) fun error => ⟨?_, ?_⟩
  · simp only [StoredSchema.check_eq_ok_iff, IsStated, exists_and_left, exists_const]
  · rintro (h | ⟨schema, hschema, h | ⟨data, hdata, h | ⟨_, hvalid, h⟩⟩⟩)
    · exact .schema h
    · exact .document hschema h
    · obtain ⟨first, others, hviolations, rfl⟩ := StoredSchema.check_eq_error_iff.1 h
      exact .violation hschema hdata hviolations
    · exact .record hschema hdata (StoredSchema.check_eq_ok_iff.1 hvalid) h
  · rintro (h | ⟨hschema, h⟩ | ⟨hschema, hdata, h⟩ | ⟨hschema, hdata, hvalid, h⟩)
    · exact .inl h
    · exact .inr ⟨_, hschema, .inl h⟩
    · refine .inr ⟨_, hschema, .inr ⟨_, hdata, .inl ?_⟩⟩
      exact StoredSchema.check_eq_error_iff.2 ⟨_, _, h, rfl⟩
    · exact .inr ⟨_, hschema, .inr ⟨_, hdata, .inr ⟨(), StoredSchema.check_eq_ok_iff.2 hvalid, h⟩⟩⟩

/-! ## Scenarios and routes -/

theorem loadScenario_meets (route : RouteRecord) (routeSource path : Path) :
    Load.Meets setting.Suits
      (Loader.loadScenario setting.options setting.supply route routeSource path)
      (setting.IsScenario route routeSource path)
      (setting.DocumentFails ScenarioRecord Bundled.scenarioFile path) := by
  have hfile : IsEntryName Bundled.scenarioFile := by decide
  refine ((setting.loadRecord_meets ScenarioRecord hfile path).bind fun own =>
    Load.Meets.pure (Scenario.mk own (Cascade.inherit own route) path routeSource none)).congr
    (fun scenario => ⟨?_, ?_⟩) fun error => by simp
  · rintro ⟨own, hown, rfl⟩
    exact ⟨hown, rfl, rfl, rfl, rfl, rfl⟩
  · intro h
    refine ⟨scenario.own, h.own, ?_⟩
    rw [← h.record, ← h.source, ← h.parentSource, ← h.response]

theorem IsRoute.scenarioPaths_eq {setting : Setting} {application : ApplicationRecord}
    {applicationSource manifest : Path} {route : Route}
    (h : setting.IsRoute application applicationSource manifest route) :
    route.scenarioPaths = route.own.scenarioPaths manifest := by
  rw [Route.scenarioPaths, h.record, h.source, RouteRecord.scenarioPaths_inherit]

theorem exists_isScenario_iff (route : RouteRecord) (routeSource path : Path) :
    (∃ scenario, setting.IsScenario route routeSource path scenario) ↔
      setting.ScenarioLoads path := by
  constructor
  · rintro ⟨scenario, h⟩
    exact ⟨scenario.own, h.own⟩
  · rintro ⟨own, hown⟩
    exact ⟨⟨own, Cascade.inherit own route, path, routeSource, none⟩, hown, rfl, rfl, rfl, rfl, rfl⟩

theorem loadRoute_meets (application : ApplicationRecord) (applicationSource manifest : Path) :
    Load.Meets setting.Suits
      (Loader.loadRoute setting.options setting.supply application applicationSource manifest)
      (setting.IsRoute application applicationSource manifest)
      (setting.RouteFails manifest) := by
  have hfile : IsEntryName Bundled.routeFile := by decide
  refine ((setting.loadRecord_meets RouteRecord hfile manifest).bind fun own =>
    (Load.Meets.mapM (setting.loadScenario_meets (Cascade.inherit own application) manifest)
      ((Cascade.inherit own application).scenarioPaths manifest)).bind fun scenarios =>
        Load.Meets.pure (Route.mk own (Cascade.inherit own application) manifest applicationSource
          scenarios none)).congr (fun route => ⟨?_, ?_⟩) fun error => ?_
  · rintro ⟨own, hown, scenarios, hscenarios, rfl⟩
    exact ⟨hown, rfl, rfl, rfl, hscenarios, rfl⟩
  · intro h
    refine ⟨route.own, h.own, route.scenarios, ?_, ?_⟩
    · rw [← h.record, ← h.source]
      exact h.scenarios
    · rw [← h.record, ← h.source, ← h.parentSource, ← h.response]
  · simp only [exists_isScenario_iff, RouteRecord.scenarioPaths_inherit, exists_false, and_false,
      or_false]
    constructor
    · rintro (h | ⟨own, hown, h⟩)
      · exact .manifest h
      · exact .scenario hown h
    · rintro (h | ⟨hown, h⟩)
      · exact .inl h
      · exact .inr ⟨_, hown, h⟩

theorem exists_isRoute_iff (application : ApplicationRecord) (applicationSource manifest : Path) :
    (∃ route, setting.IsRoute application applicationSource manifest route) ↔
      setting.RouteLoads manifest := by
  constructor
  · rintro ⟨route, h⟩
    refine ⟨route.own, h.own, fun path hpath => ?_⟩
    rw [← h.scenarioPaths_eq] at hpath
    obtain ⟨scenario, hscenario⟩ := exists_forall₂_iff.1 ⟨_, h.scenarios⟩ path hpath
    exact ⟨scenario.own, hscenario.own⟩
  · rintro ⟨own, hown, hpaths⟩
    obtain ⟨scenarios, hscenarios⟩ := exists_forall₂_iff.2 fun path hpath =>
      (setting.exists_isScenario_iff (Cascade.inherit own application) manifest path).2
        (hpaths path hpath)
    exact ⟨⟨own, Cascade.inherit own application, manifest, applicationSource, scenarios, none⟩,
      hown, rfl, rfl, rfl, hscenarios, rfl⟩

/-! ## Projects -/

theorem loadEnvironment_eq (project : Path) :
    Loader.loadEnvironment setting.options setting.supply project =
      MonadExcept.ofExcept (setting.environment project) := by
  rw [Loader.loadEnvironment, environment]
  cases setting.options.environment with
  | none => rfl
  | some name =>
    have hsome (y : Except LoadError Environment) :
        (MonadExcept.ofExcept y >>= fun values => pure (some values) : Load _) =
          MonadExcept.ofExcept (some <$> y) := by cases y <;> rfl
    rw [Option.mapM_some]
    exact hsome _

theorem loadApplication_eq {project : Path}
    (h : setting.supply.disk.isDirectory project = true) :
    Loader.loadApplication setting.options setting.supply project =
      Loader.loadRecord setting.options setting.supply Bundled.applicationFile
          (ProjectPart.applicationFile.inDirectory project) >>= fun record =>
        MonadExcept.ofExcept (setting.environment project) >>= fun environment =>
          MonadExcept.ofExcept (setting.manifests project) >>= fun manifests =>
            manifests.mapM (Loader.loadRoute setting.options setting.supply record
              (ProjectPart.applicationFile.inDirectory project)) >>= fun routes =>
                pure ⟨record, project, ProjectPart.applicationFile.inDirectory project,
                  environment, routes⟩ := by
  rw [Loader.loadApplication, h, loadEnvironment_eq]
  rfl

theorem ProjectFails.isDirectory_or_eq {setting : Setting} {project : Path} {error : LoadError}
    (h : setting.ProjectFails project error) :
    setting.supply.disk.isDirectory project = true ∨ error = .invalidPath project := by
  cases h with
  | directory => exact .inr rfl
  | application hdirectory => exact .inl hdirectory
  | environment happlication => exact .inl happlication.directory
  | discovery happlication => exact .inl happlication.directory
  | route happlication => exact .inl happlication.directory

theorem loadApplication_meets_of_not_isDirectory {project : Path}
    (h : setting.supply.disk.isDirectory project = false) :
    Load.Meets setting.Suits
      (Loader.loadApplication setting.options setting.supply project)
      (setting.IsProject project) (setting.ProjectFails project) := by
  have hthrow : Loader.loadApplication setting.options setting.supply project =
      throw (.invalidPath project) := by
    rw [Loader.loadApplication, h]
    rfl
  have hfalse : ¬ setting.supply.disk.isDirectory project = true := Bool.eq_false_iff.1 h
  rw [hthrow]
  refine (Load.Meets.throw (LoadError.invalidPath project)).congr (fun application => ?_)
    fun error => ⟨?_, ?_⟩
  · exact iff_of_false id fun hproject => hfalse hproject.directory
  · rintro rfl
    exact .directory h
  · exact fun hfails => (hfails.isDirectory_or_eq.resolve_left hfalse).symm

theorem loadApplication_meets_of_isDirectory {project : Path}
    (h : setting.supply.disk.isDirectory project = true) :
    Load.Meets setting.Suits
      (Loader.loadApplication setting.options setting.supply project)
      (setting.IsProject project) (setting.ProjectFails project) := by
  have hfile : IsEntryName Bundled.applicationFile := by decide
  rw [setting.loadApplication_eq h]
  refine ((setting.loadRecord_meets ApplicationRecord hfile _).bind fun record =>
    (Load.Meets.ofExcept (setting.environment project)).bind fun environment =>
      (Load.Meets.ofExcept (setting.manifests project)).bind fun manifests =>
        (Load.Meets.mapM (setting.loadRoute_meets record _) manifests).bind fun routes =>
          Load.Meets.pure (Application.mk record project _ environment routes)).congr
    (fun application => ⟨?_, ?_⟩) fun error => ?_
  · rintro ⟨record, hrecord, environment, henvironment, manifests, hmanifests, routes, hroutes,
      rfl⟩
    exact ⟨h, rfl, hrecord, henvironment, ⟨manifests, hmanifests, hroutes⟩, rfl⟩
  · intro hproject
    obtain ⟨manifests, hmanifests, hroutes⟩ := hproject.routes
    rw [← hproject.source]
    refine ⟨application.record, hproject.record, application.environment, hproject.environment,
      manifests, hmanifests, application.routes, hroutes, ?_⟩
    rw [← hproject.project]
  · -- Whether a route can be used does not depend on what the application hands down to it.
    simp only [exists_isRoute_iff, exists_false, and_false, or_false]
    constructor
    · rintro (hrecord | ⟨record, hrecord, herror | ⟨environment, henvironment, herror |
        ⟨manifests, hmanifests, herror⟩⟩⟩)
      · exact .application h hrecord
      · exact .environment ⟨h, record, hrecord⟩ herror
      · exact .discovery ⟨h, record, hrecord⟩ henvironment herror
      · exact .route ⟨h, record, hrecord⟩ henvironment hmanifests herror
    · rintro (hfalse | ⟨-, hrecord⟩ | ⟨⟨-, record, hrecord⟩, herror⟩ |
        ⟨⟨-, record, hrecord⟩, henvironment, herror⟩ |
        ⟨⟨-, record, hrecord⟩, henvironment, hmanifests, herror⟩)
      · exact absurd (hfalse.symm.trans h) Bool.false_ne_true
      · exact .inl hrecord
      · exact .inr ⟨record, hrecord, .inl herror⟩
      · exact .inr ⟨record, hrecord, .inr ⟨_, henvironment, .inl herror⟩⟩
      · exact .inr ⟨record, hrecord, .inr ⟨_, henvironment, .inr ⟨_, hmanifests, herror⟩⟩⟩

theorem loadApplication_meets (project : Path) :
    Load.Meets setting.Suits
      (Loader.loadApplication setting.options setting.supply project)
      (setting.IsProject project) (setting.ProjectFails project) := by
  cases h : setting.supply.disk.isDirectory project with
  | false => exact setting.loadApplication_meets_of_not_isDirectory h
  | true => exact setting.loadApplication_meets_of_isDirectory h

theorem exists_isProject_iff (project : Path) :
    (∃ application, setting.IsProject project application) ↔ setting.ProjectLoads project := by
  constructor
  · rintro ⟨application, h⟩
    obtain ⟨manifests, hmanifests, hroutes⟩ := h.routes
    refine ⟨⟨h.directory, application.record, h.source ▸ h.record⟩,
      ⟨application.environment, h.environment⟩, manifests, hmanifests, fun manifest hmanifest => ?_⟩
    exact (setting.exists_isRoute_iff application.record application.source manifest).1
      (exists_forall₂_iff.1 ⟨_, hroutes⟩ manifest hmanifest)
  · rintro ⟨⟨hdirectory, record, hrecord⟩, ⟨environment, henvironment⟩, manifests, hmanifests,
      hloads⟩
    obtain ⟨routes, hroutes⟩ := exists_forall₂_iff.2 fun manifest hmanifest =>
      (setting.exists_isRoute_iff record (ProjectPart.applicationFile.inDirectory project)
        manifest).2 (hloads manifest hmanifest)
    exact ⟨⟨record, project, _, environment, routes⟩, hdirectory, rfl, hrecord, henvironment,
      ⟨manifests, hmanifests, hroutes⟩, rfl⟩

/-! ## The collected scenarios -/

variable {setting}

/-- The scenarios of a route come from the documents that it lists, in their order. -/
theorem IsRoute.map_sources_scenarios {application : ApplicationRecord}
    {applicationSource manifest : Path} {route : Route}
    (h : setting.IsRoute application applicationSource manifest route) :
    route.scenarios.map (fun scenario => (scenario.source, scenario.parentSource)) =
      route.scenarioPaths.map (·, route.source) := by
  have hsources : List.Forall₂
      (fun path (scenario : Scenario) =>
        (path, route.source) = (scenario.source, scenario.parentSource))
      route.scenarioPaths route.scenarios :=
    h.scenarios.imp fun path scenario hscenario => by
      rw [hscenario.source, hscenario.parentSource]
  rw [← List.forall₂_map_right_iff, ← List.forall₂_map_left_iff, List.forall₂_eq_eq_eq] at hsources
  exact hsources.symm

theorem IsProject.map_sources_scenarios {project : Path} {application : Application}
    (h : setting.IsProject project application) :
    application.scenarios.map (fun scenario => (scenario.source, scenario.parentSource)) =
      application.routes.flatMap fun route => route.scenarioPaths.map (·, route.source) := by
  obtain ⟨manifests, -, hroutes⟩ := h.routes
  rw [Application.scenarios, List.map_flatMap]
  refine List.flatMap_congr fun route hroute => ?_
  obtain ⟨manifest, -, hmanifest⟩ := exists_of_forall₂ hroutes route hroute
  exact hmanifest.map_sources_scenarios

end Setting

namespace Loader

theorem suits_setting (loader : Loader) (supply : Supply) :
    (loader.setting supply).Suits loader.schemas := fun _ _ => rfl

theorem load_eq_ok_iff {loader : Loader} {supply : Supply} {project : Path}
    {application : Application} : (loader.load supply project).1 = .ok application ↔
      (loader.setting supply).IsProject project application :=
  ((loader.setting supply).loadApplication_meets project).ok_iff (loader.suits_setting supply) _

theorem load_eq_error_iff {loader : Loader} {supply : Supply} {project : Path}
    {error : LoadError} : (loader.load supply project).1 = .error error ↔
      (loader.setting supply).ProjectFails project error :=
  ((loader.setting supply).loadApplication_meets project).error_iff (loader.suits_setting supply) _

/-- A load gives a project if every part of it can be used. If not, it fails with the error of the
    first part that cannot be used. What it gives is the project that the documents state, and the
    scenarios of that are those that its routes list, in order. -/
theorem load_eq_iff (loader : Loader) (supply : Supply) (project : Path) :
    let setting := loader.setting supply
    let answer := (loader.load supply project).1
    ((∃ application, answer = .ok application) ↔ setting.ProjectLoads project) ∧
      (∀ error, answer = .error error ↔ setting.ProjectFails project error) ∧
      (∀ application, answer = .ok application ↔ setting.IsProject project application) ∧
      ∀ application, answer = .ok application →
        application.scenarios.map (fun scenario => (scenario.source, scenario.parentSource)) =
          application.routes.flatMap fun route => route.scenarioPaths.map (·, route.source) := by
  intro setting answer
  have h := setting.loadApplication_meets project
  have hok : ∀ application, answer = .ok application ↔ setting.IsProject project application :=
    h.ok_iff (loader.suits_setting supply)
  refine ⟨?_, h.error_iff (loader.suits_setting supply), hok, fun application happlication =>
    ((hok application).1 happlication).map_sources_scenarios⟩
  simp only [hok]
  exact setting.exists_isProject_iff project

/-- A schema that admits everything and declares some properties. -/
def laxSchema (properties : List String) : StoredSchema where
  tree := .object [("properties", .object (properties.map (·, .object [])))]
  linked := ⟨.all [], []⟩

/-- A loader that keeps such a schema for each kind. -/
def lax : Loader where
  options := .usual
  schemas := {
    directory := Options.usual.schemaDirectory
    entries := [
      (Options.usual.schemaDirectory.child Bundled.applicationFile, laxSchema ["name"]),
      (Options.usual.schemaDirectory.child Bundled.routeFile, laxSchema ["name", "scenarios"]),
      (Options.usual.schemaDirectory.child Bundled.scenarioFile, laxSchema ["name"])] }

/-- A project with one route, which lists some scenarios; one document of a scenario is there. -/
def onePetRoute (scenarios : List String) : Supply where
  disk := { tree := .directory [("shop", .directory [])], current := [] }
  documents := .ofDocuments [
    (⟨"/shop/app/app.yaml"⟩, .object [("name", .string "shop")]),
    (⟨"/shop/routes/pets_route/route.yaml"⟩,
      .object [("name", .string "pets"), ("scenarios", .array (scenarios.map .string))]),
    (⟨"/shop/routes/pets_route/list.yaml"⟩, .object [("name", .string "list")])]
  discovery directory := .ok [(directory.child "pets_route").child "route.yaml"]

/-- An entry that is repeated is a scenario of its own; one whose document is missing ends the
    load. -/
theorem load_onePetRoute :
    (∃ application,
      (lax.setting (onePetRoute ["list.yaml", "./list.yaml"])).IsProject ⟨"/shop"⟩ application ∧
        application.scenarios.map Scenario.source =
          [⟨"/shop/routes/pets_route/list.yaml"⟩, ⟨"/shop/routes/pets_route/list.yaml"⟩]) ∧
    (lax.setting (onePetRoute ["list.yaml", "gone.yaml"])).ProjectFails ⟨"/shop"⟩
      (.invalidPath ⟨"/shop/routes/pets_route/gone.yaml"⟩) := by
  constructor
  · have hload : (lax.load (onePetRoute ["list.yaml", "./list.yaml"]) ⟨"/shop"⟩).1.map
        (fun application => application.scenarios.map Scenario.source) =
        .ok [⟨"/shop/routes/pets_route/list.yaml"⟩, ⟨"/shop/routes/pets_route/list.yaml"⟩] := by
      decide +kernel
    obtain ⟨application, happlication, hsources⟩ := map_eq_ok_iff.1 hload
    exact ⟨application, ((load_eq_iff lax _ _).2.2.1 application).1 happlication, hsources⟩
  · have hload : (lax.load (onePetRoute ["list.yaml", "gone.yaml"]) ⟨"/shop"⟩).1.map
        (fun application => application.scenarios.map Scenario.source) =
        .error (.invalidPath ⟨"/shop/routes/pets_route/gone.yaml"⟩) := by
      decide +kernel
    refine ((load_eq_iff lax _ _).2.1 _).1 ?_
    cases hresult : (lax.load (onePetRoute ["list.yaml", "gone.yaml"]) ⟨"/shop"⟩).1 with
    | ok application => rw [hresult] at hload; cases hload
    | error error => rw [hresult] at hload; cases hload; rfl

end Loader

end ScenarioTree
