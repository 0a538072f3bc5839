import ScenarioTree.Proofs.Basic
import ScenarioTree.Project.Loader

/-!
# What parts of a load come to

A part of a load reads the store of schemas, changes it, and gives a value or fails. As long as an
invariant of the store decides what the part comes to, and the part keeps it, the store can be left
out: what remains is which values the part gives and which errors it fails with.

Results:

* `firstFails_cons_iff`: the first failure in a list, item by item.
* `Load.Meets.bind`, `Load.Meets.mapM`: the rules for parts in a row, and for a part for each item
  of a list.
-/

namespace ScenarioTree

/-- Some item of a list fails with an error, and all items in front of it succeed. -/
def FirstFails {α : Type} (Succeeds : α → Prop) (Fails : α → LoadError → Prop) (items : List α)
    (error : LoadError) : Prop :=
  ∃ before item after, items = before ++ item :: after ∧ (∀ earlier ∈ before, Succeeds earlier) ∧
    Fails item error

section FirstFails

variable {α : Type} {Succeeds : α → Prop} {Fails : α → LoadError → Prop} {error : LoadError}

theorem not_firstFails_nil : ¬ FirstFails Succeeds Fails [] error := by
  rintro ⟨before, item, after, hitems, -, -⟩
  exact absurd hitems.symm (List.append_ne_nil_of_right_ne_nil before (List.cons_ne_nil item after))

theorem firstFails_cons_iff {item : α} {items : List α} :
    FirstFails Succeeds Fails (item :: items) error ↔
      Fails item error ∨ Succeeds item ∧ FirstFails Succeeds Fails items error := by
  constructor
  · rintro ⟨_ | ⟨first, before⟩, failing, after, hitems, hbefore, hfails⟩
    · cases hitems
      exact .inl hfails
    · cases hitems
      obtain ⟨hfirst, hrest⟩ := List.forall_mem_cons.1 hbefore
      exact .inr ⟨hfirst, before, failing, after, rfl, hrest, hfails⟩
  · rintro (hfails | ⟨hitem, before, failing, after, rfl, hbefore, hfails⟩)
    · exact ⟨[], item, items, rfl, by simp, hfails⟩
    · exact ⟨item :: before, failing, after, rfl, List.forall_mem_cons.2 ⟨hitem, hbefore⟩, hfails⟩

end FirstFails

namespace Load

variable {α β : Type}

/-- What a part of a load gives or fails with. -/
def outcome (x : Load α) (store : SchemaStore) : Except LoadError α := (x.run store).1

/-- The store behind a part of a load. -/
def after (x : Load α) (store : SchemaStore) : SchemaStore := (x.run store).2

theorem outcome_bind (x : Load α) (f : α → Load β) (store : SchemaStore) :
    (x >>= f).outcome store =
      match x.outcome store with
      | .ok a => (f a).outcome (x.after store)
      | .error error => .error error := by
  change (ExceptT.bindCont f (x.outcome store) (x.after store)).1 = _
  cases x.outcome store <;> rfl

theorem after_bind (x : Load α) (f : α → Load β) (store : SchemaStore) :
    (x >>= f).after store =
      match x.outcome store with
      | .ok a => (f a).after (x.after store)
      | .error _ => x.after store := by
  change (ExceptT.bindCont f (x.outcome store) (x.after store)).2 = _
  cases x.outcome store <;> rfl

/-- From any store that satisfies an invariant, a part of a load gives exactly the values and fails
    with exactly the errors of a description, and leaves a store that satisfies the invariant. -/
structure Meets (Invariant : SchemaStore → Prop) (x : Load α) (Gives : α → Prop)
    (Fails : LoadError → Prop) : Prop where
  ok_iff : ∀ {store}, Invariant store → ∀ a, x.outcome store = .ok a ↔ Gives a
  error_iff : ∀ {store}, Invariant store → ∀ error, x.outcome store = .error error ↔ Fails error
  invariant : ∀ {store}, Invariant store → Invariant (x.after store)

namespace Meets

variable {Invariant : SchemaStore → Prop} {x : Load α} {Gives : α → Prop}
  {Fails : LoadError → Prop}

theorem congr {Gives' : α → Prop} {Fails' : LoadError → Prop} (h : Meets Invariant x Gives Fails)
    (hgives : ∀ a, Gives a ↔ Gives' a) (hfails : ∀ error, Fails error ↔ Fails' error) :
    Meets Invariant x Gives' Fails' where
  ok_iff hstore a := (h.ok_iff hstore a).trans (hgives a)
  error_iff hstore error := (h.error_iff hstore error).trans (hfails error)
  invariant := h.invariant

/-- What does not look at the store. -/
theorem ofExcept (y : Except LoadError α) :
    Meets Invariant (MonadExcept.ofExcept y) (y = .ok ·) (y = .error ·) := by
  cases y with
  | ok a => exact ⟨fun _ _ => Iff.rfl, fun _ _ => Iff.rfl, id⟩
  | error error => exact ⟨fun _ _ => Iff.rfl, fun _ _ => Iff.rfl, id⟩

theorem pure (a : α) : Meets Invariant (pure a) (a = ·) (fun _ => False) where
  ok_iff _ b := iff_of_eq (Except.ok.injEq a b)
  error_iff _ _ := ⟨nofun, False.elim⟩
  invariant := id

theorem throw (error : LoadError) :
    Meets (α := α) Invariant (throw error) (fun _ => False) (error = ·) where
  ok_iff _ _ := ⟨nofun, False.elim⟩
  error_iff _ other := iff_of_eq (Except.error.injEq error other)
  invariant := id

/-- Parts in a row. -/
theorem bind {f : α → Load β} {Next : α → β → Prop} {NextFails : α → LoadError → Prop}
    (h : Meets Invariant x Gives Fails) (hf : ∀ a, Meets Invariant (f a) (Next a) (NextFails a)) :
    Meets Invariant (x >>= f) (fun b => ∃ a, Gives a ∧ Next a b)
      (fun error => Fails error ∨ ∃ a, Gives a ∧ NextFails a error) where
  ok_iff {store} hstore b := by
    simp only [← h.ok_iff hstore]
    rw [outcome_bind]
    cases x.outcome store with
    | ok a => simpa using (hf a).ok_iff (h.invariant hstore) b
    | error error => simp
  error_iff {store} hstore error := by
    simp only [← h.ok_iff hstore, ← h.error_iff hstore]
    rw [outcome_bind]
    cases x.outcome store with
    | ok a => simpa using (hf a).error_iff (h.invariant hstore) error
    | error error => simp
  invariant {store} hstore := by
    rw [after_bind]
    cases x.outcome store with
    | ok a => exact (hf a).invariant (h.invariant hstore)
    | error error => exact h.invariant hstore

/-- A part for each item of a list. -/
theorem mapM {f : α → Load β} {Gives : α → β → Prop} {Fails : α → LoadError → Prop}
    (h : ∀ a, Meets Invariant (f a) (Gives a) (Fails a)) (items : List α) :
    Meets Invariant (items.mapM f) (List.Forall₂ Gives items)
      (FirstFails (fun a => ∃ b, Gives a b) Fails items) := by
  induction items with
  | nil =>
    rw [List.mapM_nil]
    exact (pure []).congr (fun values => by rw [List.forall₂_nil_left_iff, eq_comm])
      fun error => iff_of_false id not_firstFails_nil
  | cons item items ih =>
    rw [List.mapM_cons]
    refine ((h item).bind fun value => ih.bind fun values => pure (value :: values)).congr
      (fun values => ?_) fun error => ?_
    · simp only [List.forall₂_cons_left_iff, exists_and_left, eq_comm]
    · simp only [firstFails_cons_iff, and_false, exists_false, or_false, exists_and_right]

end Meets

end Load

end ScenarioTree
