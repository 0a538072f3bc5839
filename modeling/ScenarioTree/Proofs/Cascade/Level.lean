import ScenarioTree.Proofs.Cascade.Unseen
import ScenarioTree.Record.Kinds

/-!
# Levels that hand down their sections

A cascade is a chain of records of any kinds: the outermost is as its document states it, and each
further one inherits from the one before with all that this one has inherited.

What the innermost level ends up with can be said without the levels in between: its own parameters
and hooks, followed by those of the further levels that no nearer level has.

Results:

* `sections_inherit`, `agreeOutside_inherit`: what one edge of a cascade does.
* `cascade_eq_layered`, `isSome_cascade`: what one edge does to a list or a section of a level, a
  cascade does to those of all its levels.
* `cascade_parameters_hooks`: the parameters and hooks of a cascade of any length.
-/

namespace ScenarioTree

/-! ## Definitions -/

/-- A record of any kind. -/
inductive Level where
  | application (record : ApplicationRecord)
  | route (record : RouteRecord)
  | scenario (record : ScenarioRecord)

/-! ## One section -/

namespace Cascade

section Section

variable {α : Type} {merge : α → α → α} {empty : α}

/-- A section that is unset may be read as an empty one, if merging that changes nothing. -/
theorem getD_inheritSection (hempty : ∀ own, merge own empty = own) (child parent : Option α) :
    (inheritSection merge empty child parent).getD empty =
      merge (child.getD empty) (parent.getD empty) := by
  cases parent with
  | none => exact (hempty _).symm
  | some inherited => rfl

theorem isSome_inheritSection (child parent : Option α) :
    (inheritSection merge empty child parent).isSome = (child.isSome || parent.isSome) := by
  cases parent with
  | none => rw [inheritSection, Option.isSome_none, Bool.or_false]
  | some inherited => rw [inheritSection, Option.isSome_some, Option.isSome_some, Bool.or_true]

end Section

theorem mergeParameters_empty (own : Parameters) : mergeParameters own .empty = own := by
  simp only [mergeParameters, mergeList, Parameters.empty, appendUnseen_nil]

end Cascade

namespace Level

def sections : Level → Sections
  | application record => record.toSections
  | route record => record.toSections
  | scenario record => record.toSections

/-- The level with other sections, and all else as it is. -/
def withSections : Level → Sections → Level
  | application record, sections => application { record with toSections := sections }
  | route record, sections => route { record with toSections := sections }
  | scenario record, sections => scenario { record with toSections := sections }

/-- Two levels of one kind that differ at most in their sections. -/
def AgreeOutside (a b : Level) : Prop := a.withSections .unset = b.withSections .unset

/-- The level with what it inherits from a record. -/
def inheritRecord {P : Type} [Record P] (parent : P) : Level → Level
  | application child => application (Cascade.inherit child parent)
  | route child => route (Cascade.inherit child parent)
  | scenario child => scenario (Cascade.inherit child parent)

/-- The level with what it inherits from another one. -/
def inherit (child : Level) : Level → Level
  | application parent => child.inheritRecord parent
  | route parent => child.inheritRecord parent
  | scenario parent => child.inheritRecord parent

/-- The innermost level of a chain, with all that it inherits. The levels after the outermost one come
    from the outside to the inside. -/
def cascade (outermost : Level) (inner : List Level) : Level :=
  inner.foldl (fun parent child => child.inherit parent) outermost

/-! The sections of a level; one that is unset is empty. -/

def parameters (level : Level) : Parameters := level.sections.parameters.getD .empty
def metadata (level : Level) : Fields := level.sections.metadata.getD []
def hooks (level : Level) : List String := level.sections.hooks.getD []

/-! ## One edge -/

@[simp] theorem sections_withSections (level : Level) (s : Sections) :
    (level.withSections s).sections = s := by
  cases level <;> rfl

@[simp] theorem withSections_withSections (level : Level) (s s' : Sections) :
    (level.withSections s).withSections s' = level.withSections s' := by
  cases level <;> rfl

theorem inherit_eq (child parent : Level) :
    child.inherit parent =
      child.withSections (Cascade.inheritSections child.sections parent.sections) := by
  cases child <;> cases parent <;> rfl

theorem sections_inherit (child parent : Level) :
    (child.inherit parent).sections = Cascade.inheritSections child.sections parent.sections := by
  rw [inherit_eq, sections_withSections]

theorem agreeOutside_inherit (child parent : Level) : (child.inherit parent).AgreeOutside child := by
  rw [inherit_eq, AgreeOutside, withSections_withSections]

theorem parameters_inherit (child parent : Level) : (child.inherit parent).parameters =
    Cascade.mergeParameters child.parameters parent.parameters := by
  unfold parameters
  rw [sections_inherit]
  exact Cascade.getD_inheritSection Cascade.mergeParameters_empty _ _

theorem hooks_inherit (child parent : Level) :
    (child.inherit parent).hooks = Cascade.mergeHooks child.hooks parent.hooks := by
  unfold hooks
  rw [sections_inherit]
  exact Cascade.getD_inheritSection appendUnseen_nil _ _

theorem metadata_inherit (child parent : Level) :
    (child.inherit parent).metadata = Cascade.mergeMeta child.metadata parent.metadata := by
  unfold metadata
  rw [sections_inherit]
  exact Cascade.getD_inheritSection (fun _ => rfl) _ _

/-! ## Any number of edges -/

variable (outermost : Level) (inner : List Level)

theorem cascade_concat (child : Level) :
    cascade outermost (inner ++ [child]) = child.inherit (cascade outermost inner) := by
  rw [cascade, List.foldl_concat, cascade]

theorem reverse_cons_concat (child : Level) : (outermost :: (inner ++ [child])).reverse =
    child :: (outermost :: inner).reverse := by
  rw [← List.cons_append, List.reverse_concat]

/-- A list that each edge appends without repetition is that of all levels, added up. -/
theorem cascade_eq_layered {α : Type} {same : α → α → Bool}
    (hsame : Equivalence fun a b => same a b = true) (list : Level → List α)
    (hinherit : ∀ child parent : Level,
      list (child.inherit parent) = appendUnseen same (list child) (list parent)) :
    list (cascade outermost inner) = layered same ((outermost :: inner).reverse.map list) := by
  induction inner using List.reverseRecOn with
  | nil => simp [cascade, layered, addedBy]
  | append_singleton inner child ih =>
    rw [cascade_concat, hinherit, ih, reverse_cons_concat, List.map_cons,
      appendUnseen_layered hsame]

/-- A section is set after a cascade if it is set at one of the levels. -/
theorem isSome_cascade {α : Type} {merge : α → α → α} {empty : α} (get : Sections → Option α)
    (hinherit : ∀ child parent, get (Cascade.inheritSections child parent) =
      Cascade.inheritSection merge empty (get child) (get parent)) :
    (get (cascade outermost inner).sections).isSome ↔
      ∃ level ∈ (outermost :: inner).reverse, (get level.sections).isSome := by
  induction inner using List.reverseRecOn with
  | nil => simp [cascade]
  | append_singleton inner child ih =>
    rw [cascade_concat, sections_inherit, hinherit, Cascade.isSome_inheritSection, Bool.or_eq_true,
      ih, reverse_cons_concat, List.exists_mem_cons_iff]

theorem agreeOutside_cascade : (cascade outermost inner).AgreeOutside
    ((outermost :: inner).getLast (List.cons_ne_nil outermost inner)) := by
  induction inner using List.reverseRecOn with
  | nil => rfl
  | append_singleton inner child ih =>
    rw [cascade_concat]
    simpa using agreeOutside_inherit child (cascade outermost inner)

/-! ## Parameters and hooks of a cascade -/

/-- A list of parameters that is merged on its own. -/
theorem parameters_cascade (list : Parameters → List Parameter)
    (hmerge : ∀ own inherited, list (Cascade.mergeParameters own inherited) =
      Cascade.mergeList (list own) (list inherited)) :
    list (cascade outermost inner).parameters = layered Cascade.sameKey
      ((outermost :: inner).reverse.map fun level => list level.parameters) := by
  refine cascade_eq_layered outermost inner (equivalence_beq Parameter.key)
    (fun level => list level.parameters) fun child parent => ?_
  rw [parameters_inherit, hmerge]
  rfl

/-- Each list of parameters, and the hooks, of the innermost level of a cascade are its own, followed
    by what the further levels give that no nearer level has, the nearest first. The parameters and
    the hooks are set if some level sets them, and nothing but the sections of the innermost level has
    changed. -/
theorem cascade_parameters_hooks (outermost : Level) (inner : List Level) :
    let levels := (outermost :: inner).reverse
    let last := cascade outermost inner
    let sameKey (a b : Parameter) : Bool := a.key == b.key
    last.parameters.headers =
        layered sameKey (levels.map fun level => level.parameters.headers) ∧
      last.parameters.pathVariables =
        layered sameKey (levels.map fun level => level.parameters.pathVariables) ∧
      last.parameters.queryParams =
        layered sameKey (levels.map fun level => level.parameters.queryParams) ∧
      last.hooks = layered (· == ·) (levels.map hooks) ∧
      (last.sections.parameters.isSome ↔ ∃ level ∈ levels, level.sections.parameters.isSome) ∧
      (last.sections.hooks.isSome ↔ ∃ level ∈ levels, level.sections.hooks.isSome) ∧
      last.AgreeOutside ((outermost :: inner).getLast (List.cons_ne_nil outermost inner)) := by
  intro levels last sameKey
  refine ⟨?_, ?_, ?_, ?_, ?_, ?_, agreeOutside_cascade outermost inner⟩
  · exact parameters_cascade outermost inner (fun own => own.headers) fun _ _ => rfl
  · exact parameters_cascade outermost inner (fun own => own.pathVariables) fun _ _ => rfl
  · exact parameters_cascade outermost inner (fun own => own.queryParams) fun _ _ => rfl
  · exact cascade_eq_layered outermost inner (equivalence_beq id) hooks hooks_inherit
  · exact isSome_cascade outermost inner (fun own => own.parameters) fun _ _ => rfl
  · exact isSome_cascade outermost inner (fun own => own.hooks) fun _ _ => rfl

/-- Each level has the key of the innermost one, and two levels repeat a key or a hook of their own. -/
theorem cascade_parameters_hooks_three_levels :
    let header (key value : String) : Parameter := ⟨key, .string value, []⟩
    let outer := (application Record.unset).withSections
      ⟨some ⟨[header "Accept" "any", header "Trace" "on", header "Trace" "off"], [], []⟩, none,
        some ["login", "clear"]⟩
    let middle := (route Record.unset).withSections
      ⟨some ⟨[header "Accept" "xml", header "Token" "t"], [], []⟩, none, some ["seed", "login"]⟩
    let inner := (scenario Record.unset).withSections
      ⟨some ⟨[header "Accept" "json", header "Accept" "text"], [], []⟩, none, none⟩
    let last := cascade outer [middle, inner]
    last.parameters.headers =
        [header "Accept" "json", header "Accept" "text", header "Token" "t", header "Trace" "on"] ∧
      last.hooks = ["seed", "login", "clear"] ∧ last.sections.hooks.isSome = true := by
  intro header outer middle inner last
  obtain ⟨hheaders, -, -, hhooks, -, hset, -⟩ := cascade_parameters_hooks outer [middle, inner]
  exact ⟨hheaders.trans rfl, hhooks.trans rfl,
    hset.2 ⟨middle, List.mem_cons_of_mem _ List.mem_cons_self, rfl⟩⟩

end Level

end ScenarioTree
