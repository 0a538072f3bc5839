import ScenarioTree.Proofs.Basic
import ScenarioTree.Proofs.Cascade.Level

/-!
# Metadata of a cascade

Metadata are handed down key by key. A key that the child lacks comes from the parent as it is. Two
lists under one key are joined, and only then are repeated items left out. Any other value of the
child stays, and shuts out what further levels have under the key.

Under one key, a cascade of any length therefore comes to this, going from the nearest level that has
the key outwards over those that have it: the first value if it is not a list, or if the next one is
not a list; and otherwise all lists before the first other value, joined.

The entries of a map ascend by key, each key once. This is what `Fields.insert` keeps and what the
merges rest on.

Results:

* `get?_mergeEntry`, `get?_mergeMeta`: what a step and a whole merge do under each key.
* `mem_metaConflicts_iff`: what is reported, in terms of the two maps before the merge.
* `get?_metadata_cascade`: the value under a key after any number of levels.
* `cascade_metadata`: all of it for every cascade and each of its edges.
-/

namespace ScenarioTree

namespace Cascade

/-! ## Definitions -/

/-- What a child has under a key after it inherits a value there. -/
def handDown : Option Value → Value → Value
  | none, inherited => inherited
  | some (.array items), .array inherited => .array (union items inherited)
  | some own, _ => own

def BothLists (child parent : Value) : Prop :=
  ∃ items inherited, child = .array items ∧ parent = .array inherited

/-- Two values that differ and are not both lists. -/
def Disagree (child parent : Value) : Prop := child.same parent = false ∧ ¬ BothLists child parent

/-- The lists before the first value that is not a list. -/
def leadingLists : List Value → List (List Value)
  | .array items :: further => items :: leadingLists further
  | _ => []

/-- What the values of several levels under one key come to, the nearest level first: all lists before
    the first other value, of equal items only the first, if these are at least two; or else the
    nearest value. -/
def settled (values : List Value) : Option Value :=
  if 2 ≤ (leadingLists values).length then
    some (.array (newcomers Value.same [] (leadingLists values).flatten))
  else values.head?

/-! ## One step -/

theorem handDown_of_not_bothLists {child parent : Value} (h : ¬ BothLists child parent) :
    handDown (some child) parent = child := by
  cases child with
  | array items =>
    cases parent with
    | array inherited => exact absurd ⟨items, inherited, rfl, rfl⟩ h
    | _ => rfl
  | _ => rfl

section Step

variable {own : Fields} {key : String}

theorem mergeEntry_of_none (h : Fields.get? key own = none) (inherited : Value) :
    mergeEntry own (key, inherited) = (Fields.insert key inherited own, none) := by
  unfold mergeEntry
  rw [h]

theorem mergeEntry_of_lists {items : List Value} (h : Fields.get? key own = some (.array items))
    (inherited : List Value) : mergeEntry own (key, .array inherited) =
      (Fields.insert key (.array (union items inherited)) own, none) := by
  unfold mergeEntry
  rw [h]

theorem mergeEntry_of_not_bothLists {child parent : Value} (h : Fields.get? key own = some child)
    (hlists : ¬ BothLists child parent) : mergeEntry own (key, parent) =
      (own, if child.same parent then none else some ⟨key, child, parent⟩) := by
  unfold mergeEntry
  rw [h]
  cases child with
  | array items =>
    cases parent with
    | array inherited => exact absurd ⟨items, inherited, rfl, rfl⟩ hlists
    | _ => rfl
  | _ => rfl

end Step

theorem get?_mergeEntry (own : Fields) (k : String) (inherited : Value) (key : String) :
    Fields.get? key (mergeEntry own (k, inherited)).1 =
      if key = k then some (handDown (Fields.get? k own) inherited) else Fields.get? key own := by
  have hinsert (v : Value) : Fields.get? key (Fields.insert k v own) =
      if key = k then some v else Fields.get? key own := by
    split_ifs with hkey
    · rw [hkey, Fields.get?_insert_self]
    · exact Fields.get?_insert_of_ne hkey v own
  cases hown : Fields.get? k own with
  | none => rw [mergeEntry_of_none hown, hinsert, handDown]
  | some child =>
    by_cases hlists : BothLists child inherited
    · obtain ⟨items, inherited, rfl, rfl⟩ := hlists
      rw [mergeEntry_of_lists hown, hinsert, handDown]
    · rw [mergeEntry_of_not_bothLists hown hlists, handDown_of_not_bothLists hlists]
      by_cases hkey : key = k
      · rw [if_pos hkey, hkey, hown]
      · rw [if_neg hkey]

theorem sorted_mergeEntry {own : Fields} (h : Fields.Sorted own) (entry : String × Value) :
    Fields.Sorted (mergeEntry own entry).1 := by
  unfold mergeEntry
  split
  · exact Fields.sorted_insert h _ _
  · exact Fields.sorted_insert h _ _
  · exact h

theorem mergeEntry_conflict_eq_some_iff {own : Fields} {k : String} {inherited : Value}
    {c : Conflict} : (mergeEntry own (k, inherited)).2 = some c ↔
      c.key = k ∧ c.parent = inherited ∧ Fields.get? k own = some c.child ∧
        Disagree c.child c.parent := by
  obtain ⟨key, child, parent⟩ := c
  cases hown : Fields.get? k own with
  | none => simp [mergeEntry_of_none hown]
  | some v =>
    by_cases hlists : BothLists v inherited
    · have hagree : ¬ Disagree v inherited := fun h => h.2 hlists
      obtain ⟨items, inherited, rfl, rfl⟩ := hlists
      rw [mergeEntry_of_lists hown]
      simp only [reduceCtorEq, Option.some.injEq, false_iff]
      rintro ⟨-, rfl, rfl, h⟩
      exact hagree h
    · rw [mergeEntry_of_not_bothLists hown hlists]
      constructor
      · intro h
        split_ifs at h with hsame
        cases h
        exact ⟨rfl, rfl, rfl, Bool.eq_false_iff.2 hsame, hlists⟩
      · rintro ⟨rfl, rfl, hv, hdiffer, -⟩
        cases hv
        rw [hdiffer]
        rfl

/-! ## One merge -/

theorem sorted_mergeMeta {own : Fields} (h : Fields.Sorted own) (inherited : Fields) :
    Fields.Sorted (mergeMeta own inherited) := by
  unfold mergeMeta
  induction inherited generalizing own with
  | nil => exact h
  | cons entry rest ih => exact ih (sorted_mergeEntry h entry)

/-- A merge does under each key what the step with that key does: the keys of the parent differ. -/
theorem get?_mergeMeta {inherited : Fields} (h : Fields.Sorted inherited) (own : Fields)
    (key : String) : Fields.get? key (mergeMeta own inherited) =
      match Fields.get? key inherited with
      | none => Fields.get? key own
      | some v => some (handDown (Fields.get? key own) v) := by
  unfold mergeMeta
  induction inherited generalizing own with
  | nil => rfl
  | cons entry rest ih =>
    obtain ⟨k, v⟩ := entry
    obtain ⟨hk, hrest⟩ := List.pairwise_cons.1 h
    rw [mergeEntries, ih hrest, get?_mergeEntry, Fields.get?_cons]
    split_ifs with hkey
    · -- no later entry has the key
      have hnone : Fields.get? k rest = none :=
        Fields.get?_eq_none_iff.2 fun hmem => String.lt_irrefl k (hk k hmem)
      rw [hkey, hnone]
    · rfl

theorem keys_conflicts_sublist (own inherited : Fields) :
    ((metaConflicts own inherited).map (·.key)).Sublist (Fields.keys inherited) := by
  unfold metaConflicts
  induction inherited generalizing own with
  | nil => exact List.Sublist.slnil
  | cons entry rest ih =>
    obtain ⟨k, v⟩ := entry
    rw [mergeEntries]
    cases hconflict : (mergeEntry own (k, v)).2 with
    | none => exact (ih _).cons k
    | some c =>
      obtain ⟨hkey, -⟩ := mergeEntry_conflict_eq_some_iff.1 hconflict
      simp only [Option.toList_some, List.singleton_append, List.map_cons, hkey]
      exact (ih _).cons_cons k

/-- The conflicts are told by the two maps before the merge: the entries that are handed down before a
    key have other keys. -/
theorem mem_metaConflicts_iff {inherited : Fields} (h : Fields.Sorted inherited) {own : Fields}
    {c : Conflict} : c ∈ metaConflicts own inherited ↔
      Fields.get? c.key own = some c.child ∧ Fields.get? c.key inherited = some c.parent ∧
        Disagree c.child c.parent := by
  unfold metaConflicts
  induction inherited generalizing own with
  | nil => simp [mergeEntries, Fields.get?]
  | cons entry rest ih =>
    obtain ⟨k, v⟩ := entry
    obtain ⟨hk, hrest⟩ := List.pairwise_cons.1 h
    have hnone : Fields.get? k rest = none :=
      Fields.get?_eq_none_iff.2 fun hmem => String.lt_irrefl k (hk k hmem)
    rw [mergeEntries]
    simp only [List.mem_append, Option.mem_toList, mergeEntry_conflict_eq_some_iff, ih hrest,
      get?_mergeEntry, Fields.get?_cons]
    by_cases hkey : c.key = k
    · simp only [hkey, hnone, if_true, Option.some.injEq]
      grind
    · simp only [hkey, if_false, false_and, false_or]

/-! ## Values of several levels -/

theorem equivalence_same : Equivalence fun v w : Value => v.same w = true where
  refl v := v.same_refl
  symm h := Value.same_symm h
  trans h h' := Value.same_trans h h'

theorem union_eq_newcomers (own inherited : List Value) :
    union own inherited = newcomers Value.same [] (own ++ inherited) :=
  unseen_eq_newcomers equivalence_same [] (own ++ inherited)

/-- Lists that have been joined already can be joined as they were. -/
theorem union_newcomers (own inherited : List Value) :
    union own (newcomers Value.same [] inherited) = union own inherited := by
  have hempty (item : Value) (h : Covers Value.same [] item) :
      Covers Value.same (own ++ []) item := absurd h covers_nil
  unfold union
  rw [← unseen_eq_newcomers equivalence_same, unseen_append equivalence_same,
    unseen_append equivalence_same, unseen_unseen equivalence_same hempty]

/-- Where lists lead, the settled value is a list, and joining it is joining them. -/
theorem settled_of_lists (items : List Value) (further : List Value) : ∃ joined,
    settled (.array items :: further) = some (.array joined) ∧
      ∀ own, union own joined = union own (leadingLists (.array items :: further)).flatten := by
  unfold settled
  split_ifs with h
  · exact ⟨_, rfl, fun own => union_newcomers own _⟩
  · have hnil : leadingLists further = [] := by
      rw [leadingLists, List.length_cons] at h
      exact List.length_eq_zero_iff.1 (by omega)
    refine ⟨items, rfl, fun own => ?_⟩
    rw [leadingLists, hnil, List.flatten_cons, List.flatten_nil, List.append_nil]

theorem settled_of_not_list {v : Value} (h : ∀ items, v ≠ .array items) (further : List Value) :
    settled (v :: further) = some v := by
  cases v with
  | array items => exact absurd rfl (h items)
  | _ => rfl

/-- A nearer value, over values that have been settled. -/
theorem settled_cons (v : Value) (values : List Value) : settled (v :: values) =
    some ((settled values).elim v (handDown (some v))) := by
  by_cases hv : ∃ items, v = .array items
  · obtain ⟨items, rfl⟩ := hv
    cases values with
    | nil => rfl
    | cons w further =>
      by_cases hw : ∃ inherited, w = .array inherited
      · obtain ⟨inherited, rfl⟩ := hw
        obtain ⟨joined, hsettled, hunion⟩ := settled_of_lists inherited further
        rw [hsettled, Option.elim, handDown, hunion, union_eq_newcomers]
        rw [settled, if_pos (by simp [leadingLists])]
        rfl
      · have hother : ¬ BothLists (.array items) w := by
          rintro ⟨-, inherited, -, hlist⟩
          exact hw ⟨inherited, hlist⟩
        rw [settled_of_not_list (not_exists.1 hw), Option.elim, handDown_of_not_bothLists hother]
        cases w with
        | array inherited => exact absurd ⟨inherited, rfl⟩ hw
        | _ => rfl
  · rw [settled_of_not_list (not_exists.1 hv)]
    cases settled values with
    | none => rfl
    | some w =>
      have hother : ¬ BothLists v w := by
        rintro ⟨items, -, hlist, -⟩
        exact hv ⟨items, hlist⟩
      rw [Option.elim, handDown_of_not_bothLists hother]

end Cascade

namespace Level

open Cascade

/-! ## Metadata of a cascade -/

theorem sorted_metadata_cascade (outermost : Level) {inner : List Level}
    (h : ∀ level ∈ outermost :: inner, Fields.Sorted level.metadata) :
    Fields.Sorted (cascade outermost inner).metadata := by
  induction inner using List.reverseRecOn with
  | nil => exact h outermost List.mem_cons_self
  | append_singleton inner child ih =>
    rw [cascade_concat, metadata_inherit]
    exact sorted_mergeMeta (h child (by simp)) _

theorem get?_metadata_cascade (outermost : Level) {inner : List Level}
    (h : ∀ level ∈ outermost :: inner, Fields.Sorted level.metadata) (key : String) :
    Fields.get? key (cascade outermost inner).metadata =
      settled ((outermost :: inner).reverse.filterMap fun level =>
        Fields.get? key level.metadata) := by
  induction inner using List.reverseRecOn with
  | nil =>
    rw [cascade, List.foldl_nil, List.reverse_singleton, List.filterMap_cons]
    cases Fields.get? key outermost.metadata with
    | none => rfl
    | some v => exact (settled_cons v []).symm
  | append_singleton inner child ih =>
    have houter : ∀ level ∈ outermost :: inner, Fields.Sorted level.metadata :=
      (List.forall_mem_append.1 h).1
    rw [cascade_concat, metadata_inherit, get?_mergeMeta (sorted_metadata_cascade outermost houter),
      ih houter, reverse_cons_concat, List.filterMap_cons]
    generalize (outermost :: inner).reverse.filterMap _ = values
    cases hchild : Fields.get? key child.metadata with
    | none => cases settled values <;> rfl
    | some v =>
      rw [settled_cons]
      cases settled values <;> rfl

theorem conflicts_eq (child parent : Level) : conflicts child.sections parent.sections =
    metaConflicts child.metadata parent.metadata := by
  unfold conflicts metadata
  cases parent.sections.metadata with
  | none => rfl
  | some inherited => rfl

/-- Under each key, the innermost level of a cascade has what the values of all levels come to, and its
    metadata are set if some level sets them. Each edge of the cascade reports the entries that the
    child and the parent, with all that this one has inherited, disagree on: each once, in ascending
    order, with the values before the merge. -/
theorem cascade_metadata (outermost : Level) (inner : List Level)
    (hsorted : ∀ level ∈ outermost :: inner, Fields.Sorted level.metadata) :
    let levels := (outermost :: inner).reverse
    let last := cascade outermost inner
    (∀ key, Fields.get? key last.metadata =
        settled (levels.filterMap fun level => Fields.get? key level.metadata)) ∧
      Fields.Sorted last.metadata ∧
      (last.sections.metadata.isSome ↔ ∃ level ∈ levels, level.sections.metadata.isSome) ∧
      ∀ outer child further, inner = outer ++ child :: further →
        let parent := cascade outermost outer
        let reported := conflicts child.sections parent.sections
        (reported.map (·.key)).Pairwise (· < ·) ∧
          ∀ c, c ∈ reported ↔ Fields.get? c.key child.metadata = some c.child ∧
            Fields.get? c.key parent.metadata = some c.parent ∧ Disagree c.child c.parent := by
  refine ⟨get?_metadata_cascade outermost hsorted, sorted_metadata_cascade outermost hsorted, ?_, ?_⟩
  · exact isSome_cascade outermost inner (fun own => own.metadata) fun _ _ => rfl
  · rintro outer child further rfl parent reported
    have houter : ∀ level ∈ outermost :: outer, Fields.Sorted level.metadata :=
      (List.forall_mem_append.1 hsorted).1
    have hparent : Fields.Sorted parent.metadata := sorted_metadata_cascade outermost houter
    rw [show reported = metaConflicts child.metadata parent.metadata from conflicts_eq child parent]
    exact ⟨hparent.sublist (keys_conflicts_sublist child.metadata parent.metadata),
      fun c => mem_metaConflicts_iff hparent⟩

/-- The level with the given metadata and no other section. -/
def onlyMetadata (level : Level) (metadata : Fields) : Level :=
  level.withSections ⟨none, some metadata, none⟩

/-- The route lacks one key and disagrees on another; the scenario has no list where the others have
    one, and repeats an item. -/
theorem cascade_metadata_three_levels :
    let outer := (application Record.unset).onlyMetadata [("env", .array [.string "qa"]),
      ("owner", .string "platform"), ("tags", .array [.string "b", .string "c"])]
    let middle := (route Record.unset).onlyMetadata [("owner", .string "payments"),
      ("tags", .array [.string "a", .string "b"])]
    let inner := (scenario Record.unset).onlyMetadata [
      ("env", .array [.string "prod", .string "prod"]), ("tags", .string "slow")]
    let last := cascade outer [middle, inner]
    (∀ level ∈ [outer, middle, inner], Fields.Sorted level.metadata) ∧
      Fields.get? "env" last.metadata = some (.array [.string "prod", .string "qa"]) ∧
      Fields.get? "owner" last.metadata = some (.string "payments") ∧
      Fields.get? "tags" last.metadata = some (.string "slow") ∧
      ⟨"owner", .string "payments", .string "platform"⟩ ∈
        conflicts middle.sections outer.sections := by
  intro outer middle inner last
  have hsorted : ∀ level ∈ [outer, middle, inner], Fields.Sorted level.metadata := by
    simp only [List.forall_mem_cons, List.not_mem_nil, false_imp_iff, implies_true, and_true]
    refine ⟨?_, ?_, ?_⟩ <;> unfold Fields.Sorted <;> decide
  obtain ⟨hget, -, -, hedges⟩ := cascade_metadata outer [middle, inner] hsorted
  refine ⟨hsorted, (hget "env").trans rfl, (hget "owner").trans rfl, (hget "tags").trans rfl, ?_⟩
  refine ((hedges [] middle [inner] rfl).2 _).2 ⟨rfl, rfl, rfl, ?_⟩
  rintro ⟨items, -, hlist, -⟩
  cases hlist

end Level

end ScenarioTree
