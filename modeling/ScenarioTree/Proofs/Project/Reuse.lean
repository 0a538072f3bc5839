import Mathlib
import ScenarioTree.Proofs.Project.Loading
import ScenarioTree.Proofs.Reference.Expansion
import ScenarioTree.Proofs.Schema.Registry

/-!
# Using a loader again

A loader keeps the schemas that it has read, also those of loads that failed halfway. They are the
schemas in the files of the schema directory, so as long as these files stay as they are, a loader
that has loaded any projects before gives for a project what a new one gives.

Results:

* `Load.Keeps.bind`, `Load.Keeps.mapM`: an invariant of the store through parts of a load.
* `Setting.loadApplication_keeps`: what every request for a schema keeps, a load keeps.
* `Remembers.suits`: a store with schemas from the files answers as an empty one.
* `Loader.loads_new`: the loads of one loader are those of new ones.
-/

namespace ScenarioTree

/-! ## What parts of a load keep -/

namespace Load

variable {α β : Type} {Invariant : SchemaStore → Prop}

/-- A part of a load keeps an invariant of the store, whether it succeeds or fails. -/
def Keeps (Invariant : SchemaStore → Prop) (x : Load α) : Prop :=
  ∀ store, Invariant store → Invariant (x.after store)

theorem keeps_pure (a : α) : Keeps Invariant (pure a) := fun _ => id

theorem keeps_ofExcept (y : Except LoadError α) : Keeps Invariant (MonadExcept.ofExcept y) := by
  cases y <;> exact fun _ => id

/-- Parts in a row. The second one is only run behind a success of the first. -/
theorem Keeps.bind {x : Load α} {f : α → Load β} (h : Keeps Invariant x)
    (hf : ∀ a, Keeps Invariant (f a)) : Keeps Invariant (x >>= f) := by
  intro store hstore
  rw [after_bind]
  cases x.outcome store with
  | ok a => exact hf a _ (h store hstore)
  | error error => exact h store hstore

theorem Keeps.mapM {f : α → Load β} (h : ∀ a, Keeps Invariant (f a)) (items : List α) :
    Keeps Invariant (items.mapM f) := by
  induction items with
  | nil => exact keeps_pure []
  | cons item items ih =>
    rw [List.mapM_cons]
    exact (h item).bind fun value => ih.bind fun values => keeps_pure (value :: values)

/-- What meets a description comes to the same from all stores that satisfy the invariant. -/
theorem Meets.outcome_eq {x : Load α} {Gives : α → Prop} {Fails : LoadError → Prop}
    (h : Meets Invariant x Gives Fails) {store other : SchemaStore} (hstore : Invariant store)
    (hother : Invariant other) : x.outcome store = x.outcome other := by
  cases houtcome : x.outcome store with
  | ok a => exact ((h.ok_iff hother a).2 ((h.ok_iff hstore a).1 houtcome)).symm
  | error error => exact ((h.error_iff hother error).2 ((h.error_iff hstore error).1 houtcome)).symm

end Load

namespace Loader

/-- The files of the schemas that a load asks for. -/
def schemaFiles : List String :=
  [Bundled.applicationFile, Bundled.routeFile, Bundled.scenarioFile]

theorem isEntryName_of_mem_schemaFiles : ∀ file ∈ schemaFiles, IsEntryName file := by decide

end Loader

namespace Setting

variable (setting : Setting) {Invariant : SchemaStore → Prop}

/-- Every request for a schema that a load may make keeps an invariant of the store. -/
def RequestsKeep (Invariant : SchemaStore → Prop) : Prop :=
  ∀ file ∈ Loader.schemaFiles,
    (Loader.loadSchema setting.options setting.supply file).Keeps Invariant

variable {setting}

theorem loadRecord_keeps (h : setting.RequestsKeep Invariant) (R : Type) [Record R] {file : String}
    (hfile : file ∈ Loader.schemaFiles) (path : Path) :
    (Loader.loadRecord (R := R) setting.options setting.supply file path).Keeps Invariant := by
  rw [loadRecord_eq]
  exact (h file hfile).bind fun schema => (Load.keeps_ofExcept _).bind fun data =>
    (Load.keeps_ofExcept _).bind fun _ => Load.keeps_ofExcept _

theorem loadScenario_keeps (h : setting.RequestsKeep Invariant) (route : RouteRecord)
    (routeSource path : Path) :
    (Loader.loadScenario setting.options setting.supply route routeSource path).Keeps Invariant :=
  (loadRecord_keeps h ScenarioRecord (by decide) path).bind fun _ => Load.keeps_pure _

theorem loadRoute_keeps (h : setting.RequestsKeep Invariant) (application : ApplicationRecord)
    (applicationSource path : Path) :
    (Loader.loadRoute setting.options setting.supply application applicationSource path).Keeps
      Invariant :=
  (loadRecord_keeps h RouteRecord (by decide) path).bind fun _ =>
    (Load.Keeps.mapM (loadScenario_keeps h _ path) _).bind fun _ => Load.keeps_pure _

/-- A load keeps what every request for a schema keeps, wherever it stops. -/
theorem loadApplication_keeps (h : setting.RequestsKeep Invariant) (project : Path) :
    (Loader.loadApplication setting.options setting.supply project).Keeps Invariant := by
  cases hdirectory : setting.supply.disk.isDirectory project with
  | false =>
    rw [Loader.loadApplication, hdirectory]
    exact Load.keeps_ofExcept (.error _)
  | true =>
    rw [setting.loadApplication_eq hdirectory]
    exact (loadRecord_keeps h ApplicationRecord (by decide) _).bind fun record =>
      (Load.keeps_ofExcept _).bind fun environment =>
        (Load.keeps_ofExcept _).bind fun manifests =>
          (Load.Keeps.mapM (loadRoute_keeps h record _) manifests).bind fun _ => Load.keeps_pure _

end Setting

/-! ## Schema files that stay -/

section SchemaFiles

variable (options : Options) (disk : Disk)

/-- What opens the schemas of a disk. -/
def schemaResolver : Resolver := ⟨disk.source, disk.identity, options.maxDepth⟩

/-- The schema files are the same on another disk, with all files that they lead to. -/
def SameSchemas (other : Disk) : Prop :=
  ∀ file ∈ Loader.schemaFiles, (schemaResolver options disk).SeesSame
    (schemaResolver options other) (options.schemaDirectory.child file)

/-- A store of the schema directory has read what it keeps from schema files of a disk. -/
structure Remembers (store : SchemaStore) : Prop where
  directory : store.directory = options.schemaDirectory
  entry : ∀ entry ∈ store.entries, ∃ file ∈ Loader.schemaFiles,
    entry.1 = options.schemaDirectory.child file ∧
      (schemaResolver options disk).schemaAt entry.1 = .ok entry.2

theorem remembers_new : Remembers options disk (.new options.schemaDirectory) := ⟨rfl, nofun⟩

variable {options disk} {store : SchemaStore} {other : Disk}

/-- The same files stand for the same schemas. -/
theorem SameSchemas.schemaAt_eq (h : SameSchemas options disk other) {file : String}
    (hfile : file ∈ Loader.schemaFiles) :
    (schemaResolver options other).schemaAt (options.schemaDirectory.child file) =
      (schemaResolver options disk).schemaAt (options.schemaDirectory.child file) := by
  have hdepth : (schemaResolver options other).maxDepth =
      (schemaResolver options disk).maxDepth := rfl
  rw [Resolver.schemaAt, Resolver.schemaAt, (h file hfile).resolveFile_eq hdepth]

/-- What is kept for a file of the directory is the schema of this file. -/
theorem Remembers.schemaAt_of_get? (h : Remembers options disk store) {file : String}
    (hfile : IsEntryName file) {schema : StoredSchema}
    (hkept : store.get? (options.schemaDirectory.child file) = some schema) :
    file ∈ Loader.schemaFiles ∧
      (schemaResolver options disk).schemaAt (options.schemaDirectory.child file) = .ok schema := by
  obtain ⟨entry, hfind, rfl⟩ := Option.map_eq_some_iff.1 hkept
  obtain ⟨file', hfile', hpath, hschema⟩ := h.entry entry (List.mem_of_find?_eq_some hfind)
  have hsame := List.find?_some hfind
  simp only [hpath] at hsame
  -- Paths may be spelled in several ways, but entries of one directory differ by their names.
  rw [Path.same_child_iff _ (Loader.isEntryName_of_mem_schemaFiles file' hfile') hfile] at hsame
  subst hsame
  exact ⟨hfile', hpath ▸ hschema⟩

/-- A store with schemas from the files answers as an empty one, for the same files. -/
theorem Remembers.suits (h : Remembers options disk store) {supply : Supply}
    (hsame : SameSchemas options disk supply.disk) :
    ((Loader.new options).setting supply).Suits store := by
  intro file hfile
  have hpath : store.pathOf file = options.schemaDirectory.child file := by
    rw [SchemaStore.pathOf, h.directory]
  rw [Loader.schemas_setting_new, SchemaStore.request_fst, hpath]
  cases hkept : store.get? (options.schemaDirectory.child file) with
  | none => rfl
  | some schema =>
    obtain ⟨hmem, hschema⟩ := h.schemaAt_of_get? hfile hkept
    exact (hschema.symm.trans (hsame.schemaAt_eq hmem).symm)

/-- A request for a schema adds at most the schema of its file. -/
theorem Remembers.request (h : Remembers options disk store) {supply : Supply}
    (hsame : SameSchemas options disk supply.disk) {file : String}
    (hfile : file ∈ Loader.schemaFiles) :
    Remembers options disk ((Loader.loadSchema options supply file).after store) := by
  have hpath : store.pathOf file = options.schemaDirectory.child file := by
    rw [SchemaStore.pathOf, h.directory]
  show Remembers options disk
    (store.request (schemaResolver options supply.disk) (store.pathOf file)).2
  obtain ⟨_, -, hrun⟩ | ⟨_, -, -, hrun⟩ | ⟨schema, -, hread, hrun⟩ :=
    store.request_cases (schemaResolver options supply.disk) (store.pathOf file)
  · rwa [hrun]
  · rwa [hrun]
  · rw [hrun]
    refine ⟨h.directory, fun entry hentry => ?_⟩
    rw [SchemaStore.keep, List.mem_append, List.mem_singleton] at hentry
    rcases hentry with hentry | rfl
    · exact h.entry entry hentry
    · rw [hpath] at hread ⊢
      exact ⟨file, hfile, rfl, (hsame.schemaAt_eq hfile).symm.trans hread⟩

end SchemaFiles

/-! ## Loads in a row -/

namespace Loader

/-- What a loader answers, one load after the other. -/
def loads (loader : Loader) : List (Supply × Path) → List (Except LoadError Application)
  | [] => []
  | (supply, project) :: rest =>
    let (answer, loader) := loader.load supply project
    answer :: loader.loads rest

variable {options : Options} {disk : Disk}

/-- One load by a loader that remembers schema files: its answer is that of a new loader, and the
    loader still remembers the files. -/
theorem load_of_remembers {store : SchemaStore} (h : Remembers options disk store) {supply : Supply}
    (hsame : SameSchemas options disk supply.disk) (project : Path) :
    (Loader.load supply ⟨options, store⟩ project).1 = ((new options).load supply project).1 ∧
      Remembers options disk (Loader.load supply ⟨options, store⟩ project).2.schemas := by
  let setting := (new options).setting supply
  have hnew : setting.Suits (.new options.schemaDirectory) :=
    (remembers_new options disk).suits hsame
  have hrequests : setting.RequestsKeep (Remembers options disk) :=
    fun file hfile _ hstore => hstore.request hsame hfile
  exact ⟨(setting.loadApplication_meets project).outcome_eq (h.suits hsame) hnew,
    Setting.loadApplication_keeps hrequests project store h⟩

theorem loads_of_remembers {store : SchemaStore} (h : Remembers options disk store)
    {calls : List (Supply × Path)}
    (hsame : ∀ call ∈ calls, SameSchemas options disk call.1.disk) :
    loads ⟨options, store⟩ calls =
      calls.map fun call => ((new options).load call.1 call.2).1 := by
  induction calls generalizing store with
  | nil => rfl
  | cons call rest ih =>
    obtain ⟨hcall, hrest⟩ := List.forall_mem_cons.1 hsame
    obtain ⟨hanswer, hstore⟩ := load_of_remembers h hcall call.2
    rw [List.map_cons, ← ih hstore hrest, ← hanswer]
    rfl

/-- Loads of any projects one after the other, of which any may fail at any document: as long as the
    schema files stay as they are, a loader answers each of them as a new one would at that moment. -/
theorem loads_new (options : Options) (disk : Disk) (calls : List (Supply × Path))
    (hsame : ∀ call ∈ calls, SameSchemas options disk call.1.disk) :
    (new options).loads calls = calls.map fun call => ((new options).load call.1 call.2).1 :=
  loads_of_remembers (remembers_new options disk) hsame

/-! ## A project that is completed -/

/-- Schemas in a directory of their own. -/
def schemasApart : Options := ⟨⟨"/schemas"⟩, none, Reference.defaultDepth⟩

/-- A disk with a schema for applications, which admits everything, and the directory of a shop. -/
def shopDisk (others : Entries) : Disk where
  tree := .directory (("schemas", .directory [(Bundled.applicationFile, .file "true".toUTF8)]) ::
    ("shop", .directory []) :: others)
  current := []

/-- Some documents, and no routes. -/
def shopSupply (others : Entries) (documents : List (Path × Value)) : Supply where
  disk := shopDisk others
  documents := .ofDocuments documents
  discovery _ := .ok []

theorem load_schema_shopDisk (others : Entries) :
    (shopDisk others).source.load ⟨"/schemas/app_schema.yaml"⟩ = .ok (.bool true) := by
  have hparse : Format.yaml.parse (fun _ => none) "true" ⟨"/schemas/app_schema.yaml"⟩ =
      .ok (.bool true) := by cbv
  exact hparse

theorem load_missing_shopDisk (others : Entries) {file : String}
    (hfile : file = Bundled.routeFile ∨ file = Bundled.scenarioFile) :
    (shopDisk others).source.load (schemasApart.schemaDirectory.child file) =
      .error (.invalidPath (schemasApart.schemaDirectory.child file)) := by
  rcases hfile with rfl | rfl <;> rfl

/-- No schema file of the disk refers to another one. -/
theorem not_refers_shopDisk {file : String} (hfile : file ∈ schemaFiles) (next : Path) :
    ¬ Reference.Refers (shopDisk []).source (schemasApart.schemaDirectory.child file) next := by
  rintro ⟨document, hload, target, htarget, -⟩
  rcases List.mem_cons.1 hfile with rfl | hfile
  · cases (load_schema_shopDisk []).symm.trans hload
    cases htarget
  · cases (load_missing_shopDisk [] (by simpa using hfile)).symm.trans hload

theorem sameSchemas_shopDisk (others : Entries) :
    SameSchemas schemasApart (shopDisk []) (shopDisk others) := by
  intro file hfile path hpath
  obtain rfl : schemasApart.schemaDirectory.child file = path := by
    obtain hpath | ⟨next, hnext, -⟩ := hpath.cases_head
    · exact hpath
    · exact absurd hnext (not_refers_shopDisk hfile next)
  constructor
  · rcases List.mem_cons.1 hfile with rfl | hfile
    · exact (load_schema_shopDisk others).trans (load_schema_shopDisk []).symm
    · have hmissing := by simpa using hfile
      exact (load_missing_shopDisk others hmissing).trans (load_missing_shopDisk [] hmissing).symm
  · simp only [schemaFiles, List.mem_cons, List.not_mem_nil, or_false] at hfile
    rcases hfile with rfl | rfl | rfl <;> rfl

/-- What a new loader takes for the schema of applications. -/
theorem schemas_shopSupply (others : Entries) (documents : List (Path × Value)) :
    ((new schemasApart).setting (shopSupply others documents)).schemas Bundled.applicationFile =
      .ok ⟨.bool true, ⟨.always, []⟩⟩ := by
  rw [schemas_setting_new, Resolver.schemaAt_eq_ok_iff]
  refine ⟨?_, Linked.ofValue_bool_true⟩
  exact (Resolver.openFile_eq_ok_iff _).2 ⟨nofun, 31, rfl, .bool true, load_schema_shopDisk others,
    Reference.expand_of_isScalar _ _ _ trivial⟩

/-- A load that fails at the document of the application leaves its schema behind, another one fails
    at the directory of the project, and then the document is there. -/
theorem loads_new_shop :
    let early := shopSupply [] []
    let late := shopSupply [("mall", .directory [])] [(⟨"/shop/app/app.yaml"⟩, .object [])]
    ∃ application, ((new schemasApart).load late ⟨"/shop"⟩).1 = .ok application ∧
      (new schemasApart).loads [(early, ⟨"/shop"⟩), (early, ⟨"/mall"⟩), (late, ⟨"/shop"⟩)] =
        [.error (.invalidPath ⟨"/shop/app/app.yaml"⟩), .error (.invalidPath ⟨"/mall"⟩),
          .ok application] := by
  intro early late
  have hfirst : ((new schemasApart).load early ⟨"/shop"⟩).1 =
      .error (.invalidPath ⟨"/shop/app/app.yaml"⟩) :=
    load_eq_error_iff.2 (.application rfl (.document (schemas_shopSupply _ _) rfl))
  have hsecond : ((new schemasApart).load early ⟨"/mall"⟩).1 = .error (.invalidPath ⟨"/mall"⟩) :=
    load_eq_error_iff.2 (.directory rfl)
  obtain ⟨application, hthird⟩ :
      ∃ application, ((new schemasApart).load late ⟨"/shop"⟩).1 = .ok application := by
    simp only [load_eq_ok_iff, Setting.exists_isProject_iff]
    exact ⟨⟨rfl, _, _, .object [], schemas_shopSupply _ _, rfl, rfl, rfl⟩, ⟨none, rfl⟩, [], rfl,
      List.forall_mem_nil _⟩
  have hall := loads_new schemasApart (shopDisk [])
    [(early, ⟨"/shop"⟩), (early, ⟨"/mall"⟩), (late, ⟨"/shop"⟩)] (by
      simp only [List.forall_mem_cons]
      exact ⟨sameSchemas_shopDisk _, sameSchemas_shopDisk _, sameSchemas_shopDisk _,
        List.forall_mem_nil _⟩)
  refine ⟨application, hthird, ?_⟩
  rw [hall, List.map_cons, List.map_cons, List.map_singleton, hfirst, hsecond]
  exact congrArg (fun answer => [_, _, answer]) hthird

end Loader

end ScenarioTree
