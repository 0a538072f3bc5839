import ScenarioTree.Project.Node
import ScenarioTree.Proofs.Path.Normal

/-!
# Where entries and targets are located

What is named inside a directory is located by the normal form of the directory: two spellings of a
directory with the same normal form give the same path. The directory of a file in it has that normal
form too, so a route finds its scenarios where a reference in its document would find them.

Results:

* `normalize_child_congr`: the normal form of an entry depends on the normal form of the directory.
* `locate_congr`: the same for the targets of references.
* `IsFileIn.normalize_directory`: the directory of a file in a directory.
* `locate_of_normalize_eq`: targets and the scenarios of routes, for all spellings of a directory.
-/

namespace ScenarioTree

namespace Path

variable {base base' : Path}

/-! ## Entries and targets -/

theorem normalComponents_join (base : Path) {p : Path} (h : p.isAbsolute = false) :
    (base.join p).normalComponents =
      (p.steps.foldl stepNormal base.normalComponents.reverse).reverse := by
  obtain ⟨horigin, hsteps⟩ := origin_steps_join base h
  rw [normalComponents_eq, normalComponents_eq, horigin, hsteps, List.foldl_append,
    List.reverse_reverse]

theorem normalize_child_congr (h : base.normalize = base'.normalize) (entry : String) :
    (base.child entry).normalize = (base'.child entry).normalize := by
  rw [child, child]
  cases habsolute : isAbsolute ⟨entry⟩ with
  | true => rw [join_of_isAbsolute base habsolute, join_of_isAbsolute base' habsolute]
  | false =>
    rw [normalize_eq_iff, normalComponents_join base habsolute, normalComponents_join base' habsolute,
      normalize_eq_iff.1 h]

theorem locate_congr (h : base.normalize = base'.normalize) (target : String) :
    locate base target = locate base' target := by
  rw [locate, locate]
  split_ifs
  · exact normalize_child_congr h target
  · rfl

/-! ## Directories of files -/

/-- Files with the same normal form are in directories with the same normal form. -/
theorem normalize_directory_congr {p q : Path} {name name' : String} (hp : p.fileName? = some name)
    (hq : q.fileName? = some name') (h : p.normalize = q.normalize) :
    p.directory.normalize = q.directory.normalize := by
  rw [normalize_eq_iff, normalComponents_of_fileName? hp, normalComponents_of_fileName? hq] at h
  exact normalize_eq_iff.2 (List.append_inj' h rfl).1

theorem normalize_directory_child (base : Path) {name : String} (h : IsEntryName name) :
    (base.child name).directory.normalize = base.normalize := by
  have hname := normalComponents_of_fileName? (fileName?_child base h)
  obtain ⟨horigin, hsteps⟩ := origin_steps_child base h
  rw [normalComponents_eq, horigin, hsteps, List.foldl_concat, stepNormal, List.reverse_cons,
    ← normalComponents_eq] at hname
  exact normalize_eq_iff.2 (List.append_inj' hname rfl).1.symm

/-- The path of a file in a directory. Empty parts and `.` may be spelled out in it. -/
def IsFileIn (p directory : Path) : Prop :=
  ∃ name, IsEntryName name ∧ p.same (directory.child name) = true

theorem IsFileIn.normalize_directory {p : Path} (h : p.IsFileIn base) :
    p.directory.normalize = base.normalize := by
  obtain ⟨name, hname, hsame⟩ := h
  have hchild := fileName?_child base hname
  have hp : p.fileName? = some name := by
    rw [fileName?, beq_iff_eq.1 hsame]
    exact hchild
  rw [normalize_directory_congr hp hchild (normalize_of_same hsame),
    normalize_directory_child base hname]

/-! ## Main theorem -/

/-- Of two spellings of a directory with the same normal form, each locates everything that the other
    one locates: the entries that are named in the directory, the targets of references, and the
    scenarios that a route with its document in the directory names in the same way. -/
theorem locate_of_normalize_eq (h : base.normalize = base'.normalize) :
    (∀ entry : String, (base.child entry).normalize = (base'.child entry).normalize) ∧
    (∀ target, isRelativeTarget target = true → locate base target = locate base' target) ∧
    ∀ route : Route, route.source.IsFileIn base' →
      ∀ (i : ℕ) (target : String), (route.record.scenarios.getD [])[i]? = some target →
        isRelativeTarget target = true → route.scenarioPaths[i]? = some (locate base target) := by
  refine ⟨normalize_child_congr h, fun target _ => locate_congr h target,
    fun route hroute i target hentry hrelative => ?_⟩
  have hdirectory : route.source.directory.normalize = base.normalize :=
    hroute.normalize_directory.trans h.symm
  rw [Route.scenarioPaths, RouteRecord.scenarioPaths, List.getElem?_map, hentry, Option.map_some,
    normalize_child_congr hdirectory, locate, if_pos hrelative]

/-- A route whose document is spelled with a detour, with a scenario beside it and a shared one. -/
def petsRoute : Route :=
  let record : RouteRecord := { (Record.unset : RouteRecord) with
    scenarios := some ["create.yaml", "../shared/ping.yaml"] }
  { own := record, record, source := ⟨"/p/x/../routes//pets_route/route.yaml"⟩
    parentSource := ⟨"/p/app/app.yaml"⟩, scenarios := [], response := none }

/-- The shared scenario is where a reference from the directory without the detour would find it. -/
theorem locate_of_normalize_eq_petsRoute :
    normalize ⟨"/p/routes/pets_route"⟩ = normalize ⟨"/p/x/../routes/./pets_route/"⟩ ∧
      petsRoute.source.IsFileIn ⟨"/p/x/../routes/./pets_route/"⟩ ∧
      petsRoute.scenarioPaths[1]? = some (locate ⟨"/p/routes/pets_route"⟩ "../shared/ping.yaml") ∧
      locate ⟨"/p/routes/pets_route"⟩ "../shared/ping.yaml" = ⟨"/p/routes/shared/ping.yaml"⟩ := by
  have hnormal : normalize ⟨"/p/routes/pets_route"⟩ = normalize ⟨"/p/x/../routes/./pets_route/"⟩ := by
    decide
  have hfile : petsRoute.source.IsFileIn ⟨"/p/x/../routes/./pets_route/"⟩ :=
    ⟨"route.yaml", by decide, by decide⟩
  obtain ⟨-, -, hroute⟩ := locate_of_normalize_eq hnormal
  exact ⟨hnormal, hfile, hroute petsRoute hfile 1 "../shared/ping.yaml" rfl (by decide), by decide⟩

end Path

end ScenarioTree
