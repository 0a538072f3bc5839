import ScenarioTree.Disk
import ScenarioTree.Proofs.Basic
import ScenarioTree.Proofs.Path.Steps

/-!
# Normal forms of paths

From any directory a path leads to a directory, which is given by the names that lead to it from the
root: a name leads down, `..` leads up and stays at the root, and an absolute path starts at the root.
Nothing has to exist for this; on a disk a path leads to the same place if it leads anywhere.

The normal form of a path leads where the path does, and two paths that lead to the same directory from
everywhere have the same normal form. A normal form is the root or a number of steps up, and then
names.

Results:

* `place_eq_ok`: a path that leads anywhere on a disk leads where a walk along it does.
* `walk_normalComponents`: folding `.` and `..` does not change where a path leads.
* `IsNormal.stepNormal`: a normal form with one more component folded is one.
* `IsNormal.eq_of_leadAlike`: normal forms that lead to the same places are the same.
* `components_normalize`: the text of a normal form is read back.
* `normalize_canonical`: normal forms are equal exactly if the paths lead to the same places.
-/

namespace ScenarioTree

namespace Path

/-! ## Where a path leads -/

/-- Follows a part of a path from a directory. -/
def follow (place : List String) (part : List Char) : List String :=
  if part = [] ∨ part = ['.'] then place
  else if part = ['.', '.'] then place.dropLast
  else place ++ [String.ofList part]

/-- Where a path leads from a directory. -/
def walk (place : List String) (p : Path) : List String :=
  p.parts.foldl follow (if p.isAbsolute then [] else place)

/-- Follows a component from a directory. -/
def lead (place : List String) : Component → List String
  | .root => []
  | .current => place
  | .parent => place.dropLast
  | .name text => place ++ [text]

theorem follow_eq (place : List String) (part : List Char) :
    follow place part = (Component.ofPart? part).elim place (lead place) := by
  unfold follow Component.ofPart?
  split_ifs <;> rfl

theorem foldl_follow (parts : List (List Char)) (place : List String) :
    parts.foldl follow place = (parts.filterMap Component.ofPart?).foldl lead place := by
  induction parts generalizing place with
  | nil => rfl
  | cons part rest ih =>
    rw [List.foldl_cons, ih, follow_eq]
    cases hc : Component.ofPart? part with
    | none => rw [List.filterMap_cons_none hc, Option.elim_none]
    | some c => rw [List.filterMap_cons_some hc, Option.elim_some, List.foldl_cons]

theorem walk_eq (place : List String) (p : Path) :
    walk place p = (p.origin ++ p.steps).foldl lead place := by
  rw [walk, foldl_follow, List.foldl_append, origin]
  split_ifs <;> rfl

/-! ## Walks on a disk -/

theorem step_eq_ok {disk : Disk} {place next : List String} {part : List Char}
    (h : disk.step place part = .ok next) : next = follow place part := by
  unfold Disk.step at h
  unfold follow
  split at h
  · cases h
  · cases h
  · split_ifs at h ⊢ <;> cases h <;> rfl

theorem foldlM_step_eq_ok {disk : Disk} {parts : List (List Char)} {origin place : List String}
    (h : parts.foldlM disk.step origin = .ok place) : place = parts.foldl follow origin := by
  induction parts generalizing origin with
  | nil => exact (Except.ok.inj h).symm
  | cons part rest ih =>
    rw [List.foldlM_cons] at h
    obtain ⟨next, hnext, h⟩ := bind_eq_ok_iff.1 h
    rw [List.foldl_cons, ← step_eq_ok hnext]
    exact ih h

/-- If a path leads anywhere on a disk, it leads where a walk along it leads. -/
theorem place_eq_ok {disk : Disk} {p : Path} {place : List String}
    (h : disk.place p = .ok place) : place = walk disk.current p := by
  unfold Disk.place at h
  split_ifs at h
  exact foldlM_step_eq_ok h

/-! ## Folding components -/

/-- Folding one more component into a normal form adds it to what the normal form leads to. -/
theorem foldl_lead_stepNormal (reversed : List Component) (c : Component) (place : List String) :
    (stepNormal reversed c).reverse.foldl lead place = lead (reversed.reverse.foldl lead place) c := by
  fun_cases stepNormal reversed c with
  | case1 => rfl
  | case2 => rfl
  | case3 text => rw [List.reverse_cons, List.foldl_concat, lead]
  | case4 text rest => rw [List.reverse_cons, List.foldl_concat]; simp [lead]
  | case5 => rfl
  | case6 => rw [List.reverse_cons, List.foldl_concat]

theorem foldl_lead_foldl_stepNormal (components reversed : List Component) (place : List String) :
    (components.foldl stepNormal reversed).reverse.foldl lead place =
      components.foldl lead (reversed.reverse.foldl lead place) := by
  induction components generalizing reversed with
  | nil => rfl
  | cons c rest ih => rw [List.foldl_cons, ih, foldl_lead_stepNormal, List.foldl_cons]

/-- Folding `.` and `..` does not change where a path leads. -/
theorem walk_normalComponents (place : List String) (p : Path) :
    p.normalComponents.foldl lead place = walk place p := by
  rw [normalComponents_eq, foldl_lead_foldl_stepNormal, walk_eq, List.foldl_append]
  congr 1
  rw [origin]
  split_ifs <;> rfl

/-! ## The form of a normal form -/

/-- The components of a normal form in reverse: the root or steps up, and names behind them. -/
inductive IsNormal : List Component → Prop
  | root : IsNormal [.root]
  | climb (up : ℕ) : IsNormal (List.replicate up .parent)
  | name {text : String} {reversed : List Component} :
    IsEntryName text → IsNormal reversed → IsNormal (.name text :: reversed)

theorem IsNormal.stepNormal {reversed : List Component} (h : IsNormal reversed) {c : Component}
    (hc : c.IsStep) : IsNormal (stepNormal reversed c) := by
  cases c with
  | root => exact hc.elim
  | current => exact hc.elim
  | name text => exact .name hc h
  | parent =>
    cases h with
    | root => exact .root
    | climb up =>
      cases up with
      | zero => exact .climb 1
      | succ up => exact .climb (up + 2)
    | name _ h => exact h

theorem IsNormal.foldl_stepNormal {components reversed : List Component} (h : IsNormal reversed)
    (hsteps : ∀ c ∈ components, c.IsStep) :
    IsNormal (components.foldl Path.stepNormal reversed) := by
  induction components generalizing reversed with
  | nil => exact h
  | cons c rest ih =>
    obtain ⟨hc, hrest⟩ := List.forall_mem_cons.1 hsteps
    exact ih (h.stepNormal hc) hrest

theorem isNormal_normalComponents (p : Path) : IsNormal p.normalComponents.reverse := by
  rw [normalComponents_eq, List.reverse_reverse]
  refine IsNormal.foldl_stepNormal ?_ fun _ hc => isStep_of_mem_steps hc
  rw [origin]
  split_ifs
  · exact .root
  · exact .climb 0

/-! ## Normal forms are told apart by where they lead -/

/-- A directory that can be there: its names are names of entries. -/
def IsPlace (place : List String) : Prop := ∀ name ∈ place, IsEntryName name

instance (place : List String) : Decidable (IsPlace place) :=
  inferInstanceAs (Decidable (∀ name ∈ place, IsEntryName name))

theorem isPlace_replicate {name : String} (h : IsEntryName name) (n : ℕ) :
    IsPlace (List.replicate n name) := fun _ hmem => List.eq_of_mem_replicate hmem ▸ h

/-- From every directory, two normal forms lead to the same directory. -/
def LeadAlike (reversed other : List Component) : Prop :=
  ∀ place, IsPlace place → reversed.reverse.foldl lead place = other.reverse.foldl lead place

theorem LeadAlike.symm {reversed other : List Component} (h : LeadAlike reversed other) :
    LeadAlike other reversed := fun place hplace => (h place hplace).symm

/-- Steps up from a directory that is deep enough. -/
theorem foldl_lead_climb (up n : ℕ) (name : String) :
    (List.replicate up Component.parent).reverse.foldl lead (List.replicate (n + up) name) =
      List.replicate n name := by
  rw [List.reverse_replicate]
  induction up with
  | zero => rfl
  | succ up ih =>
    rw [List.replicate_succ, List.foldl_cons, lead, List.dropLast_replicate]
    exact ih

theorem foldl_lead_name (text : String) (reversed : List Component) (place : List String) :
    (Component.name text :: reversed).reverse.foldl lead place =
      reversed.reverse.foldl lead place ++ [text] := by
  rw [List.reverse_cons, List.foldl_concat, lead]

theorem not_leadAlike_root_name (text : String) (reversed : List Component) :
    ¬ LeadAlike [.root] (.name text :: reversed) := by
  intro h
  have hnil := h [] (fun _ hmem => absurd hmem List.not_mem_nil)
  rw [foldl_lead_name] at hnil
  exact List.append_ne_nil_of_right_ne_nil _ (List.cons_ne_nil _ _) hnil.symm

theorem not_leadAlike_root_climb (up : ℕ) :
    ¬ LeadAlike [.root] (List.replicate up .parent) := by
  intro h
  have hdeep := h (List.replicate (1 + up) "a") (isPlace_replicate (by decide) _)
  rw [foldl_lead_climb] at hdeep
  cases hdeep

/-- Steps up end in a name of the directory where they begin, so they cannot end in the same name from
    everywhere. -/
theorem not_leadAlike_climb_name (up : ℕ) (text : String) (reversed : List Component) :
    ¬ LeadAlike (List.replicate up .parent) (.name text :: reversed) := by
  intro h
  have hend (name : String) (hname : IsEntryName name) : name = text := by
    have hdeep := h (List.replicate (1 + up) name) (isPlace_replicate hname _)
    rw [foldl_lead_climb, foldl_lead_name, List.replicate_one, ← List.nil_append [name]] at hdeep
    exact List.singleton_inj.1 (List.append_inj' hdeep rfl).2
  exact absurd ((hend "a" (by decide)).trans (hend "b" (by decide)).symm) (by decide)

/-- Normal forms that lead to the same directories are the same. -/
theorem IsNormal.eq_of_leadAlike {reversed other : List Component} (h : IsNormal reversed)
    (hother : IsNormal other) (halike : LeadAlike reversed other) : reversed = other := by
  induction h generalizing other with
  | root =>
    cases hother with
    | root => rfl
    | climb up => exact absurd halike (not_leadAlike_root_climb up)
    | name _ _ => exact absurd halike (not_leadAlike_root_name _ _)
  | climb up =>
    cases hother with
    | root => exact absurd halike.symm (not_leadAlike_root_climb up)
    | climb up' =>
      have hdeep := halike (List.replicate (up' + up) "a") (isPlace_replicate (by decide) _)
      rw [foldl_lead_climb, Nat.add_comm, foldl_lead_climb] at hdeep
      rw [show up' = up by simpa using congrArg List.length hdeep]
    | name _ _ => exact absurd halike (not_leadAlike_climb_name up _ _)
  | @name text reversed _ _ ih =>
    cases hother with
    | root => exact absurd halike.symm (not_leadAlike_root_name _ _)
    | climb up => exact absurd halike.symm (not_leadAlike_climb_name up _ _)
    | @name text' reversed' _ hother =>
      have hparts (place : List String) (hplace : IsPlace place) :
          reversed.reverse.foldl lead place = reversed'.reverse.foldl lead place ∧
            [text] = [text'] := by
        have hplace := halike place hplace
        rw [foldl_lead_name, foldl_lead_name] at hplace
        exact List.append_inj' hplace rfl
      obtain ⟨-, htext⟩ := hparts [] fun _ hmem => absurd hmem List.not_mem_nil
      rw [List.singleton_inj.1 htext, ih hother fun place hplace => (hparts place hplace).1]

/-! ## Texts of normal forms -/

/-- The texts of steps, as parts of a path. -/
def texts (steps : List Component) : List (List Char) := steps.map (·.text.toList)

theorem not_mem_of_mem_texts {steps : List Component} (h : ∀ c ∈ steps, c.IsStep) :
    ∀ part ∈ texts steps, '/' ∉ part :=
  List.forall_mem_map.2 fun c hc => (h c hc).not_mem_text

theorem filterMap_texts {steps : List Component} (h : ∀ c ∈ steps, c.IsStep) :
    (texts steps).filterMap Component.ofPart? = steps := by
  rw [texts, List.filterMap_map]
  exact (List.filterMap_congr fun c hc => ofPart?_text (h c hc)).trans List.filterMap_some

theorem isIdle_eq_false_of_mem_texts {steps : List Component} (h : ∀ c ∈ steps, c.IsStep) :
    ∀ part ∈ texts steps, isIdle part = false :=
  List.forall_mem_map.2 fun c hc => by
    rw [← Bool.not_eq_true, ← ofPart?_eq_none_iff, ofPart?_text (h c hc)]
    exact Option.some_ne_none c

theorem ofParts_texts (steps : List Component) :
    ofParts (texts steps) = ⟨"/".intercalate (steps.map Component.text)⟩ := by
  rw [ofParts, texts, List.map_map]
  simp [Function.comp_def]

/-- Without a part `.` the components are the origin and the steps. -/
theorem components_of_dot_not_mem {p : Path} (h : ['.'] ∉ p.parts) :
    p.components = p.origin ++ p.steps := by
  rw [components_eq, if_neg]
  rintro ⟨-, hhead⟩
  exact h (List.mem_of_mem_head? hhead)

theorem ofComponents_of_isStep {steps : List Component} (h : ∀ c ∈ steps, c.IsStep) :
    ofComponents steps = ofParts (texts steps) := by
  rw [ofParts_texts]
  cases steps with
  | nil => rfl
  | cons c rest =>
    cases c with
    | root => exact (h .root List.mem_cons_self).elim
    | _ => rfl

theorem ofComponents_root (steps : List Component) :
    ofComponents (.root :: steps) = ofRootParts (texts steps) := by
  rw [ofRootParts, ofParts_texts]
  rfl

/-- A normal form has steps only, or steps behind the root. -/
theorem IsNormal.exists_steps {reversed : List Component} (h : IsNormal reversed) :
    ∃ steps : List Component, (∀ c ∈ steps, c.IsStep) ∧
      (reversed.reverse = steps ∨ reversed.reverse = .root :: steps) := by
  induction h with
  | root => exact ⟨[], by simp, .inr rfl⟩
  | climb up =>
    refine ⟨List.replicate up .parent, fun c hc => ?_, .inl List.reverse_replicate⟩
    rw [List.eq_of_mem_replicate hc]
    trivial
  | @name text reversed htext _ ih =>
    obtain ⟨steps, hsteps, hreversed⟩ := ih
    have hname : ∀ c ∈ [Component.name text], c.IsStep := List.forall_mem_singleton.2 htext
    refine ⟨steps ++ [.name text], List.forall_mem_append.2 ⟨hsteps, hname⟩, ?_⟩
    rw [List.reverse_cons]
    exact hreversed.imp (fun h => by rw [h]) fun h => by rw [h, List.cons_append]

theorem dot_not_mem_parts_ofParts {steps : List Component} (h : ∀ c ∈ steps, c.IsStep) :
    ['.'] ∉ (ofParts (texts steps)).parts := by
  intro hmem
  by_cases hsteps : texts steps = []
  · rw [hsteps] at hmem
    exact absurd hmem (by decide)
  · rw [parts_ofParts hsteps (not_mem_of_mem_texts h)] at hmem
    exact absurd (isIdle_eq_false_of_mem_texts h _ hmem) (by decide)

/-- The text of a normal form is read back, and no part of it is `.`. -/
theorem IsNormal.components_ofComponents {reversed : List Component} (h : IsNormal reversed) :
    (ofComponents reversed.reverse).components = reversed.reverse ∧
      ['.'] ∉ (ofComponents reversed.reverse).parts := by
  obtain ⟨steps, hsteps, hreversed⟩ := h.exists_steps
  have hslash := not_mem_of_mem_texts hsteps
  have hdot := dot_not_mem_parts_ofParts hsteps
  obtain hreversed | hreversed := hreversed
  · rw [hreversed, ofComponents_of_isStep hsteps]
    have hfirst : (texts steps).head? ≠ some [] := fun hhead =>
      absurd (isIdle_eq_false_of_mem_texts hsteps [] (List.mem_of_mem_head? hhead)) (by decide)
    refine ⟨?_, hdot⟩
    rw [components_of_dot_not_mem hdot, steps_ofParts hslash, filterMap_texts hsteps,
      origin_ofParts hslash hfirst, List.nil_append]
  · rw [hreversed, ofComponents_root]
    have hdot' : ['.'] ∉ (ofRootParts (texts steps)).parts := by
      rw [parts_ofRootParts]
      exact List.not_mem_cons_of_ne_of_not_mem (by decide) hdot
    refine ⟨?_, hdot'⟩
    rw [components_of_dot_not_mem hdot', steps_ofRootParts hslash, filterMap_texts hsteps,
      origin_ofRootParts]
    rfl

/-! ## Main theorem -/

theorem components_normalize (p : Path) : p.normalize.components = p.normalComponents := by
  have h := (isNormal_normalComponents p).components_ofComponents.1
  rwa [List.reverse_reverse] at h

theorem normalize_eq_iff {p q : Path} :
    p.normalize = q.normalize ↔ p.normalComponents = q.normalComponents := by
  refine ⟨fun h => ?_, fun h => by rw [normalize, normalize, h]⟩
  rw [← components_normalize, h, components_normalize]

theorem dot_not_mem_parts_normalize (p : Path) : ['.'] ∉ p.normalize.parts := by
  have h := (isNormal_normalComponents p).components_ofComponents.2
  rwa [List.reverse_reverse] at h

/-- The normal form leads where the path does. -/
theorem walk_normalize (place : List String) (p : Path) : walk place p.normalize = walk place p := by
  rw [walk_eq, ← components_of_dot_not_mem (dot_not_mem_parts_normalize p), components_normalize,
    walk_normalComponents]

/-- Paths that lead to the same directories have the same normal form. -/
theorem normalize_eq_iff_walk {p q : Path} :
    p.normalize = q.normalize ↔ ∀ place, IsPlace place → walk place p = walk place q := by
  constructor
  · intro h place _
    rw [← walk_normalize, h, walk_normalize]
  · intro h
    have halike : LeadAlike p.normalComponents.reverse q.normalComponents.reverse := by
      intro place hplace
      rw [List.reverse_reverse, List.reverse_reverse, walk_normalComponents, walk_normalComponents]
      exact h place hplace
    have hreversed :=
      (isNormal_normalComponents p).eq_of_leadAlike (isNormal_normalComponents q) halike
    rw [normalize_eq_iff, List.reverse_injective hreversed]

/-- In a normal form, what stands behind a name is a name. -/
theorem IsNormal.parent_not_mem {behind reversed : List Component} {text : String}
    (h : IsNormal (behind ++ .name text :: reversed)) : .parent ∉ behind := by
  induction behind with
  | nil => exact List.not_mem_nil
  | cons c rest ih =>
    rw [List.cons_append] at h
    generalize hnormal : c :: (rest ++ .name text :: reversed) = normal at h
    cases h with
    | root => simp at hnormal
    | climb up =>
      have hname : Component.name text ∈ List.replicate up Component.parent := by simp [← hnormal]
      cases List.eq_of_mem_replicate hname
    | name _ h =>
      obtain ⟨rfl, rfl⟩ := List.cons.inj hnormal
      exact List.not_mem_cons_of_ne_of_not_mem (by simp) (ih h)

theorem IsNormal.parent_not_mem_of_root {reversed : List Component} (h : IsNormal reversed)
    (hroot : .root ∈ reversed) : .parent ∉ reversed := by
  induction h with
  | root => simp
  | climb up => cases List.eq_of_mem_replicate hroot
  | name _ _ ih => exact List.not_mem_cons_of_ne_of_not_mem (by simp) (ih (by simpa using hroot))

/-- The normal form of a path stands for where the path leads: two paths have the same normal form, as
    texts or by their components, exactly if from every directory they lead to the same one. So
    a normal form is its own normal form. It has no `.`, no `..` behind a name, and no `..` if it starts
    at the root. -/
theorem normalize_canonical (p q : Path) :
    (p.normalize = q.normalize ↔ ∀ place, IsPlace place → walk place p = walk place q) ∧
    (p.normalize.same q.normalize = true ↔ ∀ place, IsPlace place → walk place p = walk place q) ∧
    p.normalize.normalize = p.normalize ∧
    ['.'] ∉ p.normalize.parts ∧
    (∀ front name behind, p.normalize.components = front ++ .name name :: behind →
      .parent ∉ behind) ∧
    (p.normalize.isAbsolute = true → .parent ∉ p.normalize.components) := by
  have hnormal := isNormal_normalComponents p
  refine ⟨normalize_eq_iff_walk, ?_, ?_, dot_not_mem_parts_normalize p,
    fun front name behind hcomponents => ?_, fun habsolute => ?_⟩
  · rw [← normalize_eq_iff_walk, same, beq_iff_eq, components_normalize, components_normalize,
      normalize_eq_iff]
  · exact normalize_eq_iff_walk.2 fun place _ => walk_normalize place p
  · rw [← components_normalize, hcomponents, List.reverse_append, List.reverse_cons,
      List.append_assoc] at hnormal
    exact fun hmem => hnormal.parent_not_mem (List.mem_reverse.2 hmem)
  · have hcomponents := components_of_dot_not_mem (dot_not_mem_parts_normalize p)
    rw [origin_of_isAbsolute habsolute, components_normalize] at hcomponents
    rw [components_normalize, ← List.mem_reverse]
    exact hnormal.parent_not_mem_of_root (by simp [hcomponents])

/-- A path that climbs above its start and one that says so at once. -/
theorem normalize_canonical_climbing :
    normalize ⟨"a/./b/../../../c"⟩ = normalize ⟨"..//c/"⟩ ∧
      walk ["x", "y"] ⟨"a/./b/../../../c"⟩ = walk ["x", "y"] ⟨"..//c/"⟩ ∧
      IsPlace ["x", "y"] ∧ isAbsolute (normalize ⟨"/../a"⟩) = true ∧
      .parent ∉ (normalize ⟨"/../a"⟩).components := by
  have hplace : IsPlace ["x", "y"] := by decide
  have hnormal : normalize ⟨"a/./b/../../../c"⟩ = normalize ⟨"..//c/"⟩ := by decide
  have habsolute : isAbsolute (normalize ⟨"/../a"⟩) = true := by decide
  obtain ⟨hwalk, -⟩ := normalize_canonical ⟨"a/./b/../../../c"⟩ ⟨"..//c/"⟩
  obtain ⟨-, -, -, -, -, hroot⟩ := normalize_canonical ⟨"/../a"⟩ ⟨"/../a"⟩
  exact ⟨hnormal, hwalk.1 hnormal _ hplace, hplace, habsolute, hroot habsolute⟩

end Path

end ScenarioTree
