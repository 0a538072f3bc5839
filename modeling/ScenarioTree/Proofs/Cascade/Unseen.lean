import ScenarioTree.Cascade
import Mathlib.Tactic

/-!
# Lists that add to each other

A list that is appended to others without repetition gives those of its items that are the same as
none of the others and none at an earlier position. What counts as the same may be any equivalence:
an equal key, equal strings or equal values.

When lists are appended level by level, the outermost first to be added to, nothing of this depends
on what the levels in between have left out: each list gives what no nearer list has.

Results:

* `unseen_eq_newcomers`: the items that are kept, by position.
* `appendUnseen_layered`: one more level in front of levels that have been added up.
-/

namespace ScenarioTree

/-! ## Definitions -/

/-- The items of a list that are the same as none of the nearer ones and none at an earlier position,
    in their order. -/
def newcomers {α : Type} (same : α → α → Bool) (nearer own : List α) : List α :=
  (own.zipIdx.filter fun (item, i) =>
    !nearer.any (same · item) && !(own.take i).any (same · item)).map Prod.fst

/-- What levels give beyond nearer items, the nearest level first. -/
def addedBy {α : Type} (same : α → α → Bool) (nearer : List α) : List (List α) → List α
  | [] => []
  | own :: further => newcomers same nearer own ++ addedBy same (nearer ++ own) further

/-- The list of the nearest level as it is, with what the further levels give beyond nearer ones. -/
def layered {α : Type} (same : α → α → Bool) : List (List α) → List α
  | [] => []
  | nearest :: further => nearest ++ addedBy same nearest further

/-- One of the items is the same as the given one. -/
def Covers {α : Type} (same : α → α → Bool) (seen : List α) (item : α) : Prop :=
  ∃ x ∈ seen, same x item = true

section Unseen

variable {α : Type} {same : α → α → Bool}

/-! ## Which items are covered -/

theorem any_eq_true_iff_covers {seen : List α} {item : α} :
    seen.any (same · item) = true ↔ Covers same seen item := by
  simp only [List.any_eq_true, Covers]

theorem covers_nil {item : α} : ¬ Covers same [] item := by
  rintro ⟨x, hx, -⟩
  cases hx

theorem covers_cons {x : α} {seen : List α} {item : α} :
    Covers same (x :: seen) item ↔ same x item = true ∨ Covers same seen item := by
  simp only [Covers, List.exists_mem_cons_iff]

theorem covers_append {seen seen' : List α} {item : α} :
    Covers same (seen ++ seen') item ↔ Covers same seen item ∨ Covers same seen' item := by
  simp only [Covers, List.mem_append, or_and_right, exists_or]

theorem unseen_cons_of_covers {seen : List α} {x : α} (h : Covers same seen x) (xs : List α) :
    unseen same seen (x :: xs) = unseen same seen xs := by
  rw [unseen, if_pos (any_eq_true_iff_covers.2 h)]

theorem unseen_cons_of_not_covers {seen : List α} {x : α} (h : ¬ Covers same seen x)
    (xs : List α) : unseen same seen (x :: xs) = x :: unseen same (x :: seen) xs := by
  rw [unseen, if_neg (fun hany => h (any_eq_true_iff_covers.1 hany))]

/-- Only what the seen items cover matters. -/
theorem unseen_congr {seen seen' : List α}
    (h : ∀ item, Covers same seen item ↔ Covers same seen' item) (xs : List α) :
    unseen same seen xs = unseen same seen' xs := by
  induction xs generalizing seen seen' with
  | nil => rfl
  | cons x xs ih =>
    by_cases hx : Covers same seen x
    · rw [unseen_cons_of_covers hx, unseen_cons_of_covers ((h x).1 hx), ih h]
    · have hcons (item : α) : Covers same (x :: seen) item ↔ Covers same (x :: seen') item := by
        rw [covers_cons, covers_cons, h item]
      rw [unseen_cons_of_not_covers hx, unseen_cons_of_not_covers (fun hx' => hx ((h x).2 hx')),
        ih hcons]

theorem newcomers_congr {seen seen' : List α}
    (h : ∀ item, Covers same seen item ↔ Covers same seen' item) (xs : List α) :
    newcomers same seen xs = newcomers same seen' xs := by
  have hany (item : α) : seen.any (same · item) = seen'.any (same · item) := by
    rw [Bool.eq_iff_iff, any_eq_true_iff_covers, any_eq_true_iff_covers, h item]
  simp only [newcomers, hany]

theorem addedBy_congr {seen seen' : List α}
    (h : ∀ item, Covers same seen item ↔ Covers same seen' item) (levels : List (List α)) :
    addedBy same seen levels = addedBy same seen' levels := by
  induction levels generalizing seen seen' with
  | nil => rfl
  | cons own further ih =>
    have happend (item : α) : Covers same (seen ++ own) item ↔ Covers same (seen' ++ own) item := by
      rw [covers_append, covers_append, h item]
    rw [addedBy, addedBy, newcomers_congr h, ih happend]

/-- Nothing is added from an empty list. -/
theorem appendUnseen_nil (own : List α) : appendUnseen same own [] = own := List.append_nil own

/-- What is kept of a list is part of the list. -/
theorem unseen_sublist (seen xs : List α) : (unseen same seen xs).Sublist xs := by
  induction xs generalizing seen with
  | nil => exact List.Sublist.slnil
  | cons x xs ih =>
    by_cases hx : Covers same seen x
    · rw [unseen_cons_of_covers hx]
      exact (ih seen).cons x
    · rw [unseen_cons_of_not_covers hx]
      exact (ih (x :: seen)).cons_cons x

theorem mem_of_mem_appendUnseen {own inherited : List α} {x : α}
    (h : x ∈ appendUnseen same own inherited) : x ∈ own ∨ x ∈ inherited :=
  (List.mem_append.1 h).imp_right fun hx => (unseen_sublist own inherited).subset hx

/-! ## Positions -/

theorem newcomers_cons (seen : List α) (x : α) (xs : List α) :
    newcomers same seen (x :: xs) =
      (if seen.any (same · x) then [] else [x]) ++ newcomers same (x :: seen) xs := by
  have hrest : (xs.zipIdx 1).filter (fun (item, i) =>
        !seen.any (same · item) && !((x :: xs).take i).any (same · item)) =
      (xs.zipIdx.filter fun (item, i) =>
        !(x :: seen).any (same · item) && !(xs.take i).any (same · item)).map
          (Prod.map id (· + 1)) := by
    rw [List.zipIdx_succ, List.filter_map]
    congr 2
    funext ⟨item, i⟩
    simp only [Function.comp_apply, List.take_succ_cons, List.any_cons, Bool.not_or]
    ac_rfl
  unfold newcomers
  rw [List.zipIdx_cons, List.filter_cons, Nat.zero_add, hrest]
  by_cases hx : seen.any (same · x) = true <;> simp [hx, Function.comp_def]

/-! ## Sameness as an equivalence -/

/-- To have equal keys is an equivalence, whatever the key. -/
theorem equivalence_beq {β : Type} [BEq β] [LawfulBEq β] (key : α → β) :
    Equivalence fun a b => (key a == key b) = true where
  refl _ := beq_self_eq_true _
  symm h := by
    rw [beq_iff_eq] at h ⊢
    exact h.symm
  trans h h' := by
    rw [beq_iff_eq] at h h' ⊢
    exact h.trans h'

variable (hsame : Equivalence fun a b => same a b = true)

include hsame

theorem covers_of_same {seen : List α} {x y : α} (hx : Covers same seen x)
    (hxy : same x y = true) : Covers same seen y := by
  obtain ⟨z, hz, hzx⟩ := hx
  exact ⟨z, hz, hsame.trans hzx hxy⟩

/-- An item that is covered covers nothing more. -/
theorem covers_cons_of_covers {seen : List α} {x : α} (hx : Covers same seen x) (item : α) :
    Covers same (x :: seen) item ↔ Covers same seen item := by
  rw [covers_cons]
  exact ⟨fun h => h.elim (covers_of_same hsame hx) id, .inr⟩

/-- The items that are kept are those whose position says so. -/
theorem unseen_eq_newcomers (seen xs : List α) :
    unseen same seen xs = newcomers same seen xs := by
  induction xs generalizing seen with
  | nil => rfl
  | cons x xs ih =>
    rw [newcomers_cons, ← ih]
    by_cases hx : Covers same seen x
    · rw [unseen_cons_of_covers hx, if_pos (any_eq_true_iff_covers.2 hx), List.nil_append]
      exact (unseen_congr (covers_cons_of_covers hsame hx) xs).symm
    · rw [unseen_cons_of_not_covers hx, if_neg (fun hany => hx (any_eq_true_iff_covers.1 hany))]
      rfl

/-- What is left of a list covers, with the seen items, what the list covers with them. -/
theorem covers_unseen_append {seen xs : List α} {item : α} :
    Covers same (unseen same seen xs ++ seen) item ↔ Covers same (xs ++ seen) item := by
  induction xs generalizing seen with
  | nil => rfl
  | cons x xs ih =>
    by_cases hx : Covers same seen x
    · rw [unseen_cons_of_covers hx, ih, List.cons_append]
      refine (covers_cons_of_covers hsame ?_ item).symm
      exact covers_append.2 (.inr hx)
    · have hrest : Covers same (unseen same (x :: seen) xs ++ x :: seen) item ↔
          Covers same (xs ++ x :: seen) item := ih
      simp only [covers_append, covers_cons] at hrest
      rw [unseen_cons_of_not_covers hx]
      simp only [List.cons_append, covers_append, covers_cons]
      tauto

/-- A list in two parts: what the second part gives, it gives beyond the first one too. -/
theorem unseen_append (seen xs ys : List α) : unseen same seen (xs ++ ys) =
    unseen same seen xs ++ unseen same (xs ++ seen) ys := by
  induction xs generalizing seen with
  | nil => rfl
  | cons x xs ih =>
    have hswap (item : α) :
        Covers same (xs ++ x :: seen) item ↔ Covers same (x :: xs ++ seen) item := by
      simp only [List.cons_append, covers_append, covers_cons]
      tauto
    by_cases hx : Covers same seen x
    · have hcovered (item : α) : Covers same (xs ++ seen) item ↔
          Covers same (x :: xs ++ seen) item :=
        (covers_cons_of_covers hsame (covers_append.2 (.inr hx)) item).symm
      rw [List.cons_append, unseen_cons_of_covers hx, unseen_cons_of_covers hx, ih,
        unseen_congr hcovered ys]
    · rw [List.cons_append, unseen_cons_of_not_covers hx, unseen_cons_of_not_covers hx, ih,
        unseen_congr hswap ys]
      rfl

/-- It does not matter what has been left out before, if it would be left out anyway. -/
theorem unseen_unseen {seen seen' : List α}
    (h : ∀ item, Covers same seen' item → Covers same seen item) (xs : List α) :
    unseen same seen (unseen same seen' xs) = unseen same seen xs := by
  induction xs generalizing seen seen' with
  | nil => rfl
  | cons x xs ih =>
    by_cases hx' : Covers same seen' x
    · rw [unseen_cons_of_covers hx', unseen_cons_of_covers (h x hx'), ih h]
    · rw [unseen_cons_of_not_covers hx']
      by_cases hx : Covers same seen x
      · rw [unseen_cons_of_covers hx, unseen_cons_of_covers hx]
        refine ih fun item hitem => (covers_cons.1 hitem).elim (covers_of_same hsame hx) (h item)
      · rw [unseen_cons_of_not_covers hx, unseen_cons_of_not_covers hx]
        rw [ih fun item hitem => covers_cons.2 ((covers_cons.1 hitem).imp_right (h item))]

/-! ## Levels -/

/-- Levels that have left out what nearer items cover give the same beyond more items. -/
theorem unseen_addedBy {seen nearer : List α}
    (h : ∀ item, Covers same nearer item → Covers same seen item) (levels : List (List α)) :
    unseen same seen (addedBy same nearer levels) = addedBy same seen levels := by
  induction levels generalizing seen nearer with
  | nil => rfl
  | cons own further ih =>
    have hkept (item : α) : Covers same (unseen same nearer own ++ seen) item ↔
        Covers same (seen ++ own) item := by
      have hunseen : Covers same (unseen same nearer own ++ nearer) item ↔
          Covers same (own ++ nearer) item := covers_unseen_append hsame
      have hitem := h item
      simp only [covers_append] at hunseen ⊢
      tauto
    have hnearer (item : α) (hitem : Covers same (nearer ++ own) item) :
        Covers same (unseen same nearer own ++ seen) item := by
      rw [hkept, covers_append]
      exact (covers_append.1 hitem).imp_left (h item)
    rw [addedBy, addedBy, ← unseen_eq_newcomers hsame, ← unseen_eq_newcomers hsame,
      unseen_append hsame, unseen_unseen hsame h, ih hnearer, addedBy_congr hkept]

/-- A level that is added to what further levels add up to. -/
theorem appendUnseen_layered (own : List α) (further : List (List α)) :
    appendUnseen same own (layered same further) = layered same (own :: further) := by
  cases further with
  | nil => rfl
  | cons next further =>
    have hswap (item : α) : Covers same (next ++ own) item ↔ Covers same (own ++ next) item := by
      rw [covers_append, covers_append, or_comm]
    have hnext (item : α) (hitem : Covers same next item) : Covers same (next ++ own) item :=
      covers_append.2 (.inl hitem)
    rw [appendUnseen, layered, layered, addedBy, unseen_append hsame,
      unseen_addedBy hsame hnext, addedBy_congr hswap, unseen_eq_newcomers hsame]

/-- What the nearest level repeats stays; the others give each item once. -/
example : layered (· == ·) [["a", "a"], ["b", "a", "b"], ["c", "b"]] = ["a", "a", "b", "c"] := by
  decide

end Unseen

end ScenarioTree
