import ScenarioTree.Proofs.Cascade.Metadata

/-!
# Laws of handing down

Handing down is associative but for one case: a scenario may inherit from a route that has inherited
already, or first from the route and then from what the route would inherit from. The case is that of
a list in the metadata of the innermost level and of the outermost one, between which another value
stands: this value shuts the outer list out only if the route inherits first.

Inheriting from the same record once more changes nothing but for one case either: a list that is
copied as it is loses its repeated items when it is joined with itself. What is reported on the way
is the same both times, and nothing is added the second time.

Results:

* `appendUnseen_assoc`, `union_assoc`: lists that add to each other in a row.
* `handedDown_assoc_iff`, `handedDown_handedDown_iff`: what both orders come to under one key, and
  what a repetition comes to.
* `metaConflicts_eq_filterMap`: the entries of the parent are in conflict one by one.
* `Level.inherit_inherit`, `Level.inherit_twice`: both laws, for records of any kinds.
-/

namespace ScenarioTree

/-! ## Lists -/

section Unseen

variable {α : Type} {same : α → α → Bool} (hsame : Equivalence fun a b => same a b = true)

/-- All items are covered exactly if none of them is left. -/
theorem unseen_eq_nil_iff {seen xs : List α} :
    unseen same seen xs = [] ↔ ∀ x ∈ xs, Covers same seen x := by
  induction xs with
  | nil => simp [unseen]
  | cons x xs ih =>
    rw [List.forall_mem_cons]
    by_cases hx : Covers same seen x
    · rw [unseen_cons_of_covers hx, ih, and_iff_right hx]
    · rw [unseen_cons_of_not_covers hx]
      exact iff_of_false (List.cons_ne_nil _ _) fun h => hx h.1

/-- A list is kept as it is exactly if no item is covered and no two are the same. -/
theorem unseen_eq_self_iff {seen xs : List α} : unseen same seen xs = xs ↔
    (∀ x ∈ xs, ¬ Covers same seen x) ∧ xs.Pairwise fun a b => same a b = false := by
  induction xs generalizing seen with
  | nil => simp [unseen]
  | cons x xs ih =>
    rw [List.forall_mem_cons, List.pairwise_cons]
    by_cases hx : Covers same seen x
    · rw [unseen_cons_of_covers hx]
      refine iff_of_false (fun h => ?_) fun h => h.1.1 hx
      have hsublist : (unseen same seen xs).Sublist xs := unseen_sublist seen xs
      have hlength := hsublist.length_le
      rw [h, List.length_cons] at hlength
      omega
    · rw [unseen_cons_of_not_covers hx, List.cons.injEq, ih]
      simp only [covers_cons, not_or, forall_and, Bool.not_eq_true]
      tauto

include hsame

theorem covers_appendUnseen {own xs : List α} {item : α} :
    Covers same (appendUnseen same own xs) item ↔ Covers same (xs ++ own) item := by
  have hkept : Covers same (unseen same own xs ++ own) item ↔ Covers same (xs ++ own) item :=
    covers_unseen_append hsame
  rw [appendUnseen, ← hkept, covers_append, covers_append, or_comm]

/-- Three lists add to each other in either order. -/
theorem appendUnseen_assoc (own middle further : List α) :
    appendUnseen same own (appendUnseen same middle further) =
      appendUnseen same (appendUnseen same own middle) further := by
  have hmiddle (item : α) (h : Covers same middle item) : Covers same (middle ++ own) item :=
    covers_append.2 (.inl h)
  have hseen (item : α) : Covers same (middle ++ own) item ↔
      Covers same (appendUnseen same own middle) item := (covers_appendUnseen hsame).symm
  calc own ++ unseen same own (middle ++ unseen same middle further)
      = own ++ (unseen same own middle ++
          unseen same (middle ++ own) (unseen same middle further)) := by rw [unseen_append hsame]
    _ = own ++ (unseen same own middle ++ unseen same (middle ++ own) further) := by
        rw [unseen_unseen hsame hmiddle]
    _ = appendUnseen same own middle ++ unseen same (appendUnseen same own middle) further := by
        rw [unseen_congr hseen, ← List.append_assoc, appendUnseen]

/-- A list has nothing to add to items among which its own are. -/
theorem unseen_eq_nil_of_subset {seen xs : List α} (h : xs ⊆ seen) : unseen same seen xs = [] :=
  unseen_eq_nil_iff.2 fun x hx => ⟨x, h hx, hsame.refl x⟩

/-- A list that has been added has nothing more to add. -/
theorem unseen_appendUnseen (own inherited : List α) :
    unseen same (appendUnseen same own inherited) inherited = [] :=
  unseen_eq_nil_iff.2 fun x hx =>
    (covers_appendUnseen hsame).2 (covers_append.2 (.inl ⟨x, hx, hsame.refl x⟩))

theorem appendUnseen_appendUnseen (own inherited : List α) :
    appendUnseen same (appendUnseen same own inherited) inherited =
      appendUnseen same own inherited := by
  rw [appendUnseen, unseen_appendUnseen hsame, List.append_nil]

/-- Of a list in two parts, the first may have been freed of repeated items before. -/
theorem unseen_nil_unseen_append (xs ys : List α) :
    unseen same [] (unseen same [] xs ++ ys) = unseen same [] (xs ++ ys) := by
  have hseen (item : α) : Covers same (unseen same [] xs ++ []) item ↔ Covers same (xs ++ []) item :=
    covers_unseen_append hsame
  rw [unseen_append hsame, unseen_append hsame [] xs, unseen_congr hseen,
    unseen_unseen hsame fun item h => h]

end Unseen

namespace Cascade

theorem union_union_left (own middle further : List Value) :
    union (union own middle) further = unseen Value.same [] (own ++ middle ++ further) :=
  unseen_nil_unseen_append equivalence_same (own ++ middle) further

theorem union_assoc (own middle further : List Value) :
    union own (union middle further) = union (union own middle) further := by
  rw [union_union_left, List.append_assoc, union_eq_newcomers middle, union_newcomers, union]

/-- Joined lists have all items of both, so that joining one of them again adds nothing. -/
theorem union_union_self (own inherited : List Value) :
    union (union own inherited) inherited = union own inherited := by
  have hsubset : inherited ⊆ (own ++ inherited) ++ [] := by simp
  rw [union_union_left, unseen_append equivalence_same,
    unseen_eq_nil_of_subset equivalence_same hsubset, List.append_nil, union]

/-- A list that is joined with itself loses its repeated items. -/
theorem union_self_iff {items : List Value} :
    union items items = items ↔ items.Pairwise fun a b => a.same b = false := by
  have hsubset : items ⊆ items ++ [] := by simp
  rw [union, unseen_append equivalence_same, unseen_eq_nil_of_subset equivalence_same hsubset,
    List.append_nil, unseen_eq_self_iff]
  exact and_iff_right fun _ _ => covers_nil

/-! ## Values under one key -/

/-- What a child has under a key with what it inherits there, if there is anything. -/
def handedDown (own : Option Value) : Option Value → Option Value
  | none => own
  | some v => some (handDown own v)

theorem get?_mergeMeta_eq_handedDown {inherited : Fields} (h : Fields.Sorted inherited)
    (own : Fields) (key : String) : Fields.get? key (mergeMeta own inherited) =
      handedDown (Fields.get? key own) (Fields.get? key inherited) := by
  rw [get?_mergeMeta h]
  cases Fields.get? key inherited <;> rfl

/-- The nearest and the furthest of three levels have lists, the one between them has another
    value. -/
structure Parted (items others : List Value) (own middle further : Option Value) : Prop where
  nearest : own = some (.array items)
  furthest : further = some (.array others)
  between : ∃ v, middle = some v ∧ ∀ list, v ≠ .array list

theorem handDown_assoc_iff {own middle further : Value} :
    handDown (some own) (handDown (some middle) further) =
        handDown (some (handDown (some own) middle)) further ↔
      ∀ items others, Parted items others (some own) (some middle) (some further) →
        union items others = items := by
  by_cases hnear : BothLists own middle
  · obtain ⟨items, list, rfl, rfl⟩ := hnear
    refine iff_of_true ?_ ?_
    · by_cases hfar : BothLists (.array list) further
      · obtain ⟨-, others, -, rfl⟩ := hfar
        exact congrArg Value.array (union_assoc items list others)
      · have hjoined : ¬ BothLists (.array (union items list)) further := by
          rintro ⟨-, others, -, rfl⟩
          exact hfar ⟨list, others, rfl, rfl⟩
        rw [handDown_of_not_bothLists hfar]
        exact (handDown_of_not_bothLists hjoined).symm
    · rintro _ _ ⟨-, -, v, hv, hother⟩
      exact absurd (Option.some.inj hv).symm (hother list)
  · rw [handDown_of_not_bothLists hnear]
    by_cases hfar : BothLists middle further
    · obtain ⟨list, others, rfl, rfl⟩ := hfar
      have hown (others : List Value) : ¬ BothLists own (.array others) := by
        rintro ⟨items, -, h, -⟩
        exact hnear ⟨items, list, h, rfl⟩
      refine iff_of_true ?_ ?_
      · rw [handDown_of_not_bothLists (hown others)]
        exact handDown_of_not_bothLists (hown (union list others))
      · rintro items _ ⟨hitems, -, -⟩
        exact absurd ⟨items, list, Option.some.inj hitems, rfl⟩ hnear
    · -- the value in the middle stays, and then the nearest one
      rw [handDown_of_not_bothLists hfar, handDown_of_not_bothLists hnear]
      by_cases hends : BothLists own further
      · obtain ⟨items, others, rfl, rfl⟩ := hends
        have hmiddle (list : List Value) : middle ≠ .array list :=
          fun h => hnear ⟨items, list, rfl, h⟩
        simp only [handDown, Value.array.injEq]
        constructor
        · rintro h _ _ ⟨hitems, hothers, -⟩
          cases hitems
          cases hothers
          exact h.symm
        · exact fun h => (h items others ⟨rfl, rfl, middle, rfl, hmiddle⟩).symm
      · rw [handDown_of_not_bothLists hends]
        refine iff_of_true rfl ?_
        rintro items others ⟨hitems, hothers, -⟩
        exact absurd ⟨items, others, Option.some.inj hitems, Option.some.inj hothers⟩ hends

/-- Under one key both orders come to the same, unless two lists are parted and the outer one would
    add something. -/
theorem handedDown_assoc_iff {own middle further : Option Value} :
    handedDown own (handedDown middle further) = handedDown (handedDown own middle) further ↔
      ∀ items others, Parted items others own middle further → union items others = items := by
  cases further with
  | none => exact iff_of_true rfl fun _ _ h => nomatch h.furthest
  | some further =>
    cases middle with
    | none =>
      refine iff_of_true rfl fun _ _ h => ?_
      obtain ⟨_, hnone, -⟩ := h.between
      cases hnone
    | some middle =>
      cases own with
      | none => exact iff_of_true rfl fun _ _ h => nomatch h.nearest
      | some own =>
        simp only [handedDown, Option.some.injEq]
        exact handDown_assoc_iff

/-- Under one key a repetition changes nothing, unless a list with repeated items is copied. -/
theorem handedDown_handedDown_iff {own inherited : Option Value} :
    handedDown (handedDown own inherited) inherited = handedDown own inherited ↔
      ∀ items, own = none → inherited = some (.array items) →
        items.Pairwise fun a b => a.same b = false := by
  cases inherited with
  | none => exact iff_of_true rfl fun _ _ h => absurd h (Option.some_ne_none _).symm
  | some inherited =>
    simp only [handedDown, Option.some.injEq]
    cases own with
    | none =>
      by_cases hlist : BothLists inherited inherited
      · obtain ⟨items, -, rfl, -⟩ := hlist
        simp only [handDown, Value.array.injEq, true_imp_iff]
        rw [union_self_iff]
        exact ⟨fun h _ hitems => hitems ▸ h, fun h => h items rfl⟩
      · refine iff_of_true (handDown_of_not_bothLists hlist) ?_
        rintro items - rfl
        exact absurd ⟨items, items, rfl, rfl⟩ hlist
    | some own =>
      refine iff_of_true ?_ fun _ h => absurd h (Option.some_ne_none own)
      by_cases hlists : BothLists own inherited
      · obtain ⟨items, others, rfl, rfl⟩ := hlists
        exact congrArg Value.array (union_union_self items others)
      · rw [handDown_of_not_bothLists hlists, handDown_of_not_bothLists hlists]

/-! ## Metadata -/

theorem mergeMeta_assoc_iff {own middle further : Fields} (hown : Fields.Sorted own)
    (hmiddle : Fields.Sorted middle) (hfurther : Fields.Sorted further) :
    mergeMeta own (mergeMeta middle further) = mergeMeta (mergeMeta own middle) further ↔
      ∀ key items others, Parted items others (Fields.get? key own) (Fields.get? key middle)
        (Fields.get? key further) → union items others = items := by
  have hinner : Fields.Sorted (mergeMeta own middle) := sorted_mergeMeta hown middle
  have houter : Fields.Sorted (mergeMeta middle further) := sorted_mergeMeta hmiddle further
  have hkey (key : String) :
      Fields.get? key (mergeMeta own (mergeMeta middle further)) =
          Fields.get? key (mergeMeta (mergeMeta own middle) further) ↔
        ∀ items others, Parted items others (Fields.get? key own) (Fields.get? key middle)
          (Fields.get? key further) → union items others = items := by
    rw [get?_mergeMeta_eq_handedDown houter, get?_mergeMeta_eq_handedDown hfurther,
      get?_mergeMeta_eq_handedDown hfurther, get?_mergeMeta_eq_handedDown hmiddle,
      handedDown_assoc_iff]
  simp only [← hkey]
  exact ⟨fun h key => by rw [h], Fields.eq_of_get?_eq (sorted_mergeMeta hown _)
    (sorted_mergeMeta hinner _)⟩

theorem mergeMeta_mergeMeta_iff {own inherited : Fields} (hown : Fields.Sorted own)
    (hinherited : Fields.Sorted inherited) :
    mergeMeta (mergeMeta own inherited) inherited = mergeMeta own inherited ↔
      ∀ key items, Fields.get? key own = none → Fields.get? key inherited = some (.array items) →
        items.Pairwise fun a b => a.same b = false := by
  have hmerged : Fields.Sorted (mergeMeta own inherited) := sorted_mergeMeta hown inherited
  have hkey (key : String) :
      Fields.get? key (mergeMeta (mergeMeta own inherited) inherited) =
          Fields.get? key (mergeMeta own inherited) ↔
        ∀ items, Fields.get? key own = none → Fields.get? key inherited = some (.array items) →
          items.Pairwise fun a b => a.same b = false := by
    rw [get?_mergeMeta_eq_handedDown hinherited, get?_mergeMeta_eq_handedDown hinherited,
      handedDown_handedDown_iff]
  simp only [← hkey]
  exact ⟨fun h key => by rw [h], Fields.eq_of_get?_eq (sorted_mergeMeta hmerged _) hmerged⟩

/-- A value that disagrees with the inherited one is the child's own. -/
theorem handedDown_eq_some_iff_of_disagree {own : Option Value} {child inherited : Value}
    (h : Disagree child inherited) :
    handedDown own (some inherited) = some child ↔ own = some child := by
  rw [handedDown, Option.some.injEq]
  cases own with
  | none =>
    refine iff_of_false (fun hcopied => ?_) (by simp)
    have hsame : child.same inherited = true := by
      rw [← hcopied]
      exact inherited.same_refl
    exact absurd hsame (Bool.eq_false_iff.1 h.1)
  | some own =>
    rw [Option.some.injEq]
    by_cases hlists : BothLists own inherited
    · obtain ⟨items, others, rfl, rfl⟩ := hlists
      have hchild (list : List Value) : .array list ≠ child := fun heq =>
        h.2 ⟨list, others, heq.symm, rfl⟩
      exact iff_of_false (hchild _) (hchild _)
    · rw [handDown_of_not_bothLists hlists]

/-- Whether an entry is in conflict is told by those values of the child that disagree with it. -/
theorem mergeEntry_conflict_congr {own own' : Fields} {key : String} {v : Value}
    (h : ∀ child, Disagree child v →
      (Fields.get? key own = some child ↔ Fields.get? key own' = some child)) :
    (mergeEntry own (key, v)).2 = (mergeEntry own' (key, v)).2 := by
  ext c
  rw [mergeEntry_conflict_eq_some_iff, mergeEntry_conflict_eq_some_iff]
  constructor
  · rintro ⟨hkey, rfl, hchild, hdisagree⟩
    exact ⟨hkey, rfl, (h c.child hdisagree).1 hchild, hdisagree⟩
  · rintro ⟨hkey, rfl, hchild, hdisagree⟩
    exact ⟨hkey, rfl, (h c.child hdisagree).2 hchild, hdisagree⟩

/-- Which entries of the parent are in conflict is told by the metadata of the child: the entries
    that are handed down before have other keys. -/
theorem metaConflicts_eq_filterMap {inherited : Fields} (h : Fields.Sorted inherited)
    (own : Fields) :
    metaConflicts own inherited = inherited.filterMap fun entry => (mergeEntry own entry).2 := by
  unfold metaConflicts
  induction inherited generalizing own with
  | nil => rfl
  | cons entry rest ih =>
    obtain ⟨k, v⟩ := entry
    obtain ⟨hk, hrest⟩ := List.pairwise_cons.1 h
    have hothers : rest.filterMap (fun entry => (mergeEntry (mergeEntry own (k, v)).1 entry).2) =
        rest.filterMap fun entry => (mergeEntry own entry).2 := by
      refine List.filterMap_congr fun (key, w) hentry => mergeEntry_conflict_congr fun child _ => ?_
      have hne : key ≠ k := (String.ne_of_lt (hk key (List.mem_map_of_mem hentry))).symm
      rw [get?_mergeEntry, if_neg hne]
    rw [mergeEntries, ih hrest, hothers, List.filterMap_cons]
    cases (mergeEntry own (k, v)).2 <;> rfl

/-- What a child and its parent disagree on stays when the child has inherited. -/
theorem metaConflicts_mergeMeta {inherited : Fields} (h : Fields.Sorted inherited) (own : Fields) :
    metaConflicts (mergeMeta own inherited) inherited = metaConflicts own inherited := by
  rw [metaConflicts_eq_filterMap h, metaConflicts_eq_filterMap h]
  refine List.filterMap_congr fun (key, v) hentry => mergeEntry_conflict_congr fun child hchild => ?_
  rw [get?_mergeMeta_eq_handedDown h, (Fields.mem_iff_get?_eq_some h).1 hentry,
    handedDown_eq_some_iff_of_disagree hchild]

/-! ## Sections -/

section Section

variable {α : Type} {merge : α → α → α} {empty : α} (hempty : ∀ own, merge own empty = own)

include hempty

theorem inheritSection_assoc_iff (own middle further : Option α) :
    inheritSection merge empty own (inheritSection merge empty middle further) =
        inheritSection merge empty (inheritSection merge empty own middle) further ↔
      merge (own.getD empty) (merge (middle.getD empty) (further.getD empty)) =
        merge (merge (own.getD empty) (middle.getD empty)) (further.getD empty) := by
  constructor
  · intro h
    simpa only [getD_inheritSection hempty] using congrArg (·.getD empty) h
  · intro h
    cases further with
    | none => rfl
    | some further =>
      -- a section that is set is told by its content
      refine congrArg some ?_
      rw [getD_inheritSection hempty]
      exact h

theorem inheritSection_twice_iff (own inherited : Option α) :
    inheritSection merge empty (inheritSection merge empty own inherited) inherited =
        inheritSection merge empty own inherited ↔
      merge (merge (own.getD empty) (inherited.getD empty)) (inherited.getD empty) =
        merge (own.getD empty) (inherited.getD empty) := by
  constructor
  · intro h
    simpa only [getD_inheritSection hempty] using congrArg (·.getD empty) h
  · intro h
    cases inherited with
    | none => rfl
    | some inherited => exact congrArg some h

end Section

theorem equivalence_sameKey : Equivalence fun a b => sameKey a b = true :=
  equivalence_beq Parameter.key

theorem equivalence_beq_string : Equivalence fun a b : String => (a == b) = true :=
  equivalence_beq id

theorem mergeParameters_assoc (own middle further : Parameters) :
    mergeParameters own (mergeParameters middle further) =
      mergeParameters (mergeParameters own middle) further := by
  simp only [mergeParameters, mergeList, appendUnseen_assoc equivalence_sameKey]

theorem mergeParameters_mergeParameters (own inherited : Parameters) :
    mergeParameters (mergeParameters own inherited) inherited = mergeParameters own inherited := by
  simp only [mergeParameters, mergeList, appendUnseen_appendUnseen equivalence_sameKey]

/-- Parameters that have been inherited have nothing more to add. -/
theorem parameterGains_mergeParameters (own inherited : Parameters) :
    parameterGains (mergeParameters own inherited) inherited = [] := by
  simp only [parameterGains, mergeParameters, mergeList, unseen_appendUnseen equivalence_sameKey]
  rfl

theorem mergeHooks_assoc (own middle further : List String) :
    mergeHooks own (mergeHooks middle further) = mergeHooks (mergeHooks own middle) further :=
  appendUnseen_assoc equivalence_beq_string own middle further

theorem mergeHooks_mergeHooks (own inherited : List String) :
    mergeHooks (mergeHooks own inherited) inherited = mergeHooks own inherited :=
  appendUnseen_appendUnseen equivalence_beq_string own inherited

/-- Only metadata may tell the two orders apart. -/
theorem inheritSections_assoc_iff (own middle further : Sections) :
    inheritSections own (inheritSections middle further) =
        inheritSections (inheritSections own middle) further ↔
      mergeMeta (own.metadata.getD []) (mergeMeta (middle.metadata.getD []) (further.metadata.getD [])) =
        mergeMeta (mergeMeta (own.metadata.getD []) (middle.metadata.getD []))
          (further.metadata.getD []) := by
  have hparameters := (inheritSection_assoc_iff mergeParameters_empty own.parameters
    middle.parameters further.parameters).2 (mergeParameters_assoc _ _ _)
  have hhooks := (inheritSection_assoc_iff appendUnseen_nil own.hooks middle.hooks further.hooks).2
    (mergeHooks_assoc _ _ _)
  rw [← inheritSection_assoc_iff fun _ => rfl]
  simp only [inheritSections, Sections.mk.injEq]
  exact ⟨fun h => h.2.1, fun h => ⟨hparameters, h, hhooks⟩⟩

theorem inheritSections_twice_iff (own inherited : Sections) :
    inheritSections (inheritSections own inherited) inherited = inheritSections own inherited ↔
      mergeMeta (mergeMeta (own.metadata.getD []) (inherited.metadata.getD []))
          (inherited.metadata.getD []) =
        mergeMeta (own.metadata.getD []) (inherited.metadata.getD []) := by
  have hparameters := (inheritSection_twice_iff mergeParameters_empty own.parameters
    inherited.parameters).2 (mergeParameters_mergeParameters _ _)
  have hhooks := (inheritSection_twice_iff appendUnseen_nil own.hooks inherited.hooks).2
    (mergeHooks_mergeHooks _ _)
  rw [← inheritSection_twice_iff fun _ => rfl]
  simp only [inheritSections, Sections.mk.injEq]
  exact ⟨fun h => h.2.1, fun h => ⟨hparameters, h, hhooks⟩⟩

/-- A record that has inherited parameters gains none from the same record again. -/
theorem gains_inheritSections (own inherited : Sections) :
    gains (inheritSections own inherited) inherited = [] := by
  unfold gains
  cases hinherited : inherited.parameters with
  | none => rfl
  | some parameters =>
    rw [Option.elim, inheritSections, getD_inheritSection mergeParameters_empty, hinherited]
    exact parameterGains_mergeParameters _ parameters

end Cascade

namespace Level

open Cascade

/-! ## Records -/

theorem withSections_inj {level : Level} {s s' : Sections} :
    level.withSections s = level.withSections s' ↔ s = s' :=
  ⟨fun h => by simpa using congrArg sections h, congrArg level.withSections⟩

theorem inherit_assoc_iff (inner middle outer : Level) :
    inner.inherit (middle.inherit outer) = (inner.inherit middle).inherit outer ↔
      mergeMeta inner.metadata (mergeMeta middle.metadata outer.metadata) =
        mergeMeta (mergeMeta inner.metadata middle.metadata) outer.metadata := by
  rw [inherit_eq, sections_inherit, inherit_eq (inner.inherit middle), sections_inherit,
    inherit_eq inner middle, withSections_withSections, withSections_inj, inheritSections_assoc_iff]
  rfl

theorem inherit_twice_iff (child parent : Level) :
    (child.inherit parent).inherit parent = child.inherit parent ↔
      mergeMeta (mergeMeta child.metadata parent.metadata) parent.metadata =
        mergeMeta child.metadata parent.metadata := by
  rw [inherit_eq (child.inherit parent), sections_inherit, inherit_eq, withSections_withSections,
    withSections_inj, inheritSections_twice_iff]
  rfl

/-- It does not matter whether a record inherits from one that has inherited already, or from both in
    a row, unless two lists of metadata are parted by another value. In that case it does not matter
    either, if the outer list has nothing to add to the inner one. -/
theorem inherit_inherit (inner middle outer : Level) (hinner : Fields.Sorted inner.metadata)
    (hmiddle : Fields.Sorted middle.metadata) (houter : Fields.Sorted outer.metadata) :
    let parted (key : String) (items others : List Value) := Parted items others
      (Fields.get? key inner.metadata) (Fields.get? key middle.metadata)
      (Fields.get? key outer.metadata)
    ((∀ key items others, ¬ parted key items others) →
      inner.inherit (middle.inherit outer) = (inner.inherit middle).inherit outer) ∧
    (inner.inherit (middle.inherit outer) = (inner.inherit middle).inherit outer ↔
      ∀ key items others, parted key items others → union items others = items) := by
  intro parted
  have hiff : inner.inherit (middle.inherit outer) = (inner.inherit middle).inherit outer ↔
      ∀ key items others, parted key items others → union items others = items := by
    rw [inherit_assoc_iff, mergeMeta_assoc_iff hinner hmiddle houter]
  exact ⟨fun h => hiff.2 fun key items others hparted => absurd hparted (h key items others), hiff⟩

theorem sorted_onlyMetadata_iff {level : Level} {fields : Fields} :
    Fields.Sorted (level.onlyMetadata fields).metadata ↔ (Fields.keys fields).Pairwise (· < ·) := by
  rw [onlyMetadata, metadata, sections_withSections]
  rfl

/-- A list of the route makes no difference between the two orders, even if it repeats an item.
    Another value of the route does. -/
theorem inherit_inherit_environments :
    let outer := (application Record.unset).onlyMetadata [("env", .array [.string "qa"])]
    let listed := (route Record.unset).onlyMetadata [("env", .array [.string "qa", .string "qa"])]
    let other := (route Record.unset).onlyMetadata [("env", .string "any")]
    let inner := (scenario Record.unset).onlyMetadata
      [("env", .array [.string "prod"]), ("owner", .string "payments")]
    (Fields.Sorted inner.metadata ∧ Fields.Sorted listed.metadata ∧
        Fields.Sorted other.metadata ∧ Fields.Sorted outer.metadata) ∧
      inner.inherit (listed.inherit outer) = (inner.inherit listed).inherit outer ∧
      inner.inherit (other.inherit outer) ≠ (inner.inherit other).inherit outer := by
  intro outer listed other inner
  have hsorted : Fields.Sorted inner.metadata ∧ Fields.Sorted listed.metadata ∧
      Fields.Sorted other.metadata ∧ Fields.Sorted outer.metadata := by
    refine ⟨?_, ?_, ?_, ?_⟩ <;> exact sorted_onlyMetadata_iff.2 (by decide)
  have ⟨hinner, hlisted, hother, houter⟩ := hsorted
  refine ⟨hsorted, ?_, fun h => ?_⟩
  · refine (inherit_inherit inner listed outer hinner hlisted houter).1 fun key _ _ hparted => ?_
    obtain ⟨v, hv, hother⟩ := hparted.between
    change Fields.get? key [("env", _)] = _ at hv
    rw [Fields.get?_cons] at hv
    split_ifs at hv
    · exact hother _ (Option.some.inj hv).symm
    · cases hv
  · have hadded := (inherit_inherit inner other outer hinner hother houter).2.1 h "env"
      [.string "prod"] [.string "qa"] ⟨rfl, rfl, _, rfl, fun _ hlist => nomatch hlist⟩
    exact absurd (congrArg List.length hadded) (by decide)

/-- Inheriting once more from the same record changes nothing, unless a list of metadata that the
    child did not have has repeated items. Nothing is added to the parameters, and what is reported
    is the same as the first time. -/
theorem inherit_twice (child parent : Level) (hchild : Fields.Sorted child.metadata)
    (hparent : Fields.Sorted parent.metadata) :
    let once := child.inherit parent
    (once.inherit parent = once ↔ ∀ key items, Fields.get? key child.metadata = none →
      Fields.get? key parent.metadata = some (.array items) →
        items.Pairwise fun a b => a.same b = false) ∧
    gains once.sections parent.sections = [] ∧
    conflicts once.sections parent.sections = conflicts child.sections parent.sections := by
  intro once
  refine ⟨?_, ?_, ?_⟩
  · rw [inherit_twice_iff, mergeMeta_mergeMeta_iff hchild hparent]
  · rw [sections_inherit, gains_inheritSections]
  · rw [conflicts_eq, conflicts_eq, metadata_inherit, metaConflicts_mergeMeta hparent]

/-- A child that lacks the tags of its parent and disagrees with it on the owner. Its parent repeats a
    tag in one case, in which the repetition shows. -/
theorem inherit_twice_tags :
    let child := (scenario Record.unset).onlyMetadata
      [("env", .array [.string "qa", .string "qa"]), ("owner", .string "payments")]
    let parent := (route Record.unset).onlyMetadata [("env", .array [.string "prod"]),
      ("owner", .string "platform"), ("tags", .array [.string "slow"])]
    let repeating := (route Record.unset).onlyMetadata
      [("tags", .array [.string "slow", .string "slow"])]
    (Fields.Sorted child.metadata ∧ Fields.Sorted parent.metadata ∧
        Fields.Sorted repeating.metadata) ∧
      (child.inherit parent).inherit parent = child.inherit parent ∧
      conflicts (child.inherit parent).sections parent.sections =
        [⟨"owner", .string "payments", .string "platform"⟩] ∧
      (child.inherit repeating).inherit repeating ≠ child.inherit repeating := by
  intro child parent repeating
  have hsorted : Fields.Sorted child.metadata ∧ Fields.Sorted parent.metadata ∧
      Fields.Sorted repeating.metadata := by
    refine ⟨?_, ?_, ?_⟩ <;> exact sorted_onlyMetadata_iff.2 (by decide)
  have ⟨hchild, hparent, hrepeating⟩ := hsorted
  obtain ⟨hsame, -, hconflicts⟩ := inherit_twice child parent hchild hparent
  refine ⟨hsorted, hsame.2 fun key items hnone hlist => ?_, hconflicts.trans rfl, fun h => ?_⟩
  · -- the only list under a key that the child lacks has one item
    change Fields.get? key [("env", _), ("owner", _), ("tags", _)] = _ at hlist
    change Fields.get? key [("env", _), ("owner", _)] = none at hnone
    simp only [Fields.get?_cons] at hlist hnone
    split_ifs at hlist hnone
    · cases hlist
      exact List.pairwise_singleton _ _
    · cases hlist
  · have hdistinct := (inherit_twice child repeating hchild hrepeating).1.1 h "tags"
      [.string "slow", .string "slow"] rfl rfl
    exact absurd (List.rel_of_pairwise_cons hdistinct List.mem_cons_self) (by decide)

end Level

end ScenarioTree
