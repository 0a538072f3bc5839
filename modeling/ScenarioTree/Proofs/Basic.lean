import Mathlib.Tactic
import ScenarioTree.Value

/-!
# Shared facts

Facts about computations that may fail, about the equality of values and about the fields of maps
that several parts of the theory rest on.

Results:

* `bind_eq_ok_iff`, `mapM_eq_ok_iff`: what it takes for steps in a row to succeed.
* `bind_eq_error_iff`: which of two steps fails.
* `Value.same_symm`, `Value.same_trans`: equality of values is an equivalence, though it identifies
  the two zeros.
* `Fields.get?_eq_none_iff`: a key has no value in a map if no field has the key.
* `Fields.get?_erase`, `Fields.erase_insert_self`: the reading laws of an erasure.
* `Fields.mem_of_mem_ofList`, `Fields.mem_keys_ofList`: a map made of a list has no other entries
  than the list, and all of its keys.
* `Fields.eq_of_get?_eq`: a map whose keys ascend is told by what it has under each key.
-/

namespace ScenarioTree

/-! ## Computations that may fail -/

theorem bind_eq_ok_iff {ε α β : Type} {x : Except ε α} {f : α → Except ε β} {b : β} :
    (x >>= f) = .ok b ↔ ∃ a, x = .ok a ∧ f a = .ok b := by
  cases x with
  | error e => simp [bind, Except.bind]
  | ok a => simp [bind, Except.bind]

theorem bind_eq_error_iff {ε α β : Type} {x : Except ε α} {f : α → Except ε β} {e : ε} :
    (x >>= f) = .error e ↔ x = .error e ∨ ∃ a, x = .ok a ∧ f a = .error e := by
  cases x with
  | error e => simp [bind, Except.bind]
  | ok a => simp [bind, Except.bind]

theorem map_eq_ok_iff {ε α β : Type} {x : Except ε α} {f : α → β} {b : β} :
    x.map f = .ok b ↔ ∃ a, x = .ok a ∧ f a = b := by
  cases x with
  | error e => simp [Except.map]
  | ok a => simp [Except.map]

theorem map_eq_error_iff {ε α β : Type} {x : Except ε α} {f : α → β} {e : ε} :
    x.map f = .error e ↔ x = .error e := by
  cases x with
  | error e => simp [Except.map]
  | ok a => simp [Except.map]

theorem mapError_eq_ok_iff {ε δ α : Type} {f : ε → δ} {x : Except ε α} {a : α} :
    x.mapError f = .ok a ↔ x = .ok a := by
  cases x with
  | error e => simp [Except.mapError]
  | ok b => simp [Except.mapError]

theorem mapM_eq_ok_iff {ε α β : Type} {f : α → Except ε β} {xs : List α} {ys : List β} :
    xs.mapM f = .ok ys ↔ List.Forall₂ (fun x y => f x = .ok y) xs ys := by
  induction xs generalizing ys with
  | nil => simp [pure, Except.pure, eq_comm]
  | cons x rest ih =>
    rw [List.mapM_cons, List.forall₂_cons_left_iff]
    simp only [bind_eq_ok_iff, ih]
    simp [pure, Except.pure, eq_comm]

/-- What can be read in each item can be read in the list of them. -/
theorem exists_mapM_eq_ok {ε α β : Type} {f : α → Except ε β} {xs : List α}
    (h : ∀ x ∈ xs, ∃ y, f x = .ok y) : ∃ ys, xs.mapM f = .ok ys := by
  induction xs with
  | nil => exact ⟨[], rfl⟩
  | cons x rest ih =>
    obtain ⟨y, hy⟩ := h x List.mem_cons_self
    obtain ⟨ys, hys⟩ := ih fun x hx => h x (List.mem_cons_of_mem _ hx)
    exact ⟨y :: ys, by rw [List.mapM_cons, hy, hys]; rfl⟩

theorem exists_of_forall₂ {α β : Type} {r : α → β → Prop} {xs : List α} {ys : List β}
    (h : List.Forall₂ r xs ys) : ∀ y ∈ ys, ∃ x ∈ xs, r x y := by
  intro y hy
  obtain ⟨i, hi, rfl⟩ := List.getElem_of_mem hy
  have hlength := h.length_eq
  exact ⟨xs[i], List.getElem_mem (by omega), h.get (by omega) hi⟩

theorem exists_forall₂_iff {α β : Type} {r : α → β → Prop} {xs : List α} :
    (∃ ys, List.Forall₂ r xs ys) ↔ ∀ x ∈ xs, ∃ y, r x y := by
  induction xs with
  | nil => simp
  | cons x xs ih =>
    simp only [List.forall₂_cons_left_iff, List.forall_mem_cons, ← ih]
    constructor
    · rintro ⟨_, y, ys, hy, hys, rfl⟩
      exact ⟨⟨y, hy⟩, ys, hys⟩
    · rintro ⟨⟨y, hy⟩, ys, hys⟩
      exact ⟨y :: ys, y, ys, hy, hys, rfl⟩

/-! ## Equality of values -/

theorem Number.same_symm {m n : Number} (h : m.same n = true) : n.same m = true := by
  cases m <;> cases n <;> simp_all [Number.same, Binary64.same_symm]

theorem Number.same_trans {l m n : Number} (hlm : l.same m = true) (hmn : m.same n = true) :
    l.same n = true := by
  cases l <;> cases m <;> cases n <;> simp_all [Number.same]
  exact Binary64.same_trans hlm hmn

mutual

theorem Value.same_symm : ∀ {v w : Value}, v.same w = true → w.same v = true
  | .null, w, h => by cases w <;> simp_all [Value.same]
  | .bool _, w, h => by cases w <;> simp_all [Value.same]
  | .number _, w, h => by
    cases w <;> simp only [Value.same, Bool.false_eq_true] at h ⊢
    exact Number.same_symm h
  | .string _, w, h => by cases w <;> simp_all [Value.same]
  | .array _, w, h => by
    cases w <;> simp only [Value.same, Bool.false_eq_true] at h ⊢
    exact Value.sameItems_symm h
  | .object _, w, h => by
    cases w <;> simp only [Value.same, Bool.false_eq_true] at h ⊢
    exact Value.sameFields_symm h

theorem Value.sameItems_symm :
    ∀ {v w : List Value}, Value.sameItems v w = true → Value.sameItems w v = true
  | [], w, h => by cases w <;> simp_all [Value.sameItems]
  | _ :: _, w, h => by
    cases w <;> simp only [Value.sameItems, Bool.and_eq_true, Bool.false_eq_true] at h ⊢
    exact ⟨Value.same_symm h.1, Value.sameItems_symm h.2⟩

theorem Value.sameFields_symm :
    ∀ {v w : List (String × Value)}, Value.sameFields v w = true → Value.sameFields w v = true
  | [], w, h => by cases w <;> simp_all [Value.sameFields]
  | (_, _) :: _, w, h => by
    cases w <;>
      simp only [Value.sameFields, Bool.and_eq_true, beq_iff_eq, Bool.false_eq_true] at h ⊢
    exact ⟨⟨h.1.1.symm, Value.same_symm h.1.2⟩, Value.sameFields_symm h.2⟩

end

mutual

theorem Value.same_trans :
    ∀ {u v w : Value}, u.same v = true → v.same w = true → u.same w = true
  | .null, v, w, huv, hvw => by cases v <;> cases w <;> simp_all [Value.same]
  | .bool _, v, w, huv, hvw => by cases v <;> cases w <;> simp_all [Value.same]
  | .number _, v, w, huv, hvw => by
    cases v <;> cases w <;> simp only [Value.same, Bool.false_eq_true] at huv hvw ⊢
    exact Number.same_trans huv hvw
  | .string _, v, w, huv, hvw => by cases v <;> cases w <;> simp_all [Value.same]
  | .array _, v, w, huv, hvw => by
    cases v <;> cases w <;> simp only [Value.same, Bool.false_eq_true] at huv hvw ⊢
    exact Value.sameItems_trans huv hvw
  | .object _, v, w, huv, hvw => by
    cases v <;> cases w <;> simp only [Value.same, Bool.false_eq_true] at huv hvw ⊢
    exact Value.sameFields_trans huv hvw

theorem Value.sameItems_trans : ∀ {u v w : List Value},
    Value.sameItems u v = true → Value.sameItems v w = true → Value.sameItems u w = true
  | [], v, w, huv, hvw => by cases v <;> cases w <;> simp_all [Value.sameItems]
  | _ :: _, v, w, huv, hvw => by
    cases v <;> cases w <;>
      simp only [Value.sameItems, Bool.and_eq_true, Bool.false_eq_true] at huv hvw ⊢
    exact ⟨Value.same_trans huv.1 hvw.1, Value.sameItems_trans huv.2 hvw.2⟩

theorem Value.sameFields_trans : ∀ {u v w : List (String × Value)},
    Value.sameFields u v = true → Value.sameFields v w = true → Value.sameFields u w = true
  | [], v, w, huv, hvw => by cases v <;> cases w <;> simp_all [Value.sameFields]
  | (_, _) :: _, v, w, huv, hvw => by
    cases v <;> cases w <;>
      simp only [Value.sameFields, Bool.and_eq_true, beq_iff_eq, Bool.false_eq_true]
        at huv hvw ⊢
    exact ⟨⟨huv.1.1.trans hvw.1.1, Value.same_trans huv.1.2 hvw.1.2⟩,
      Value.sameFields_trans huv.2 hvw.2⟩

end

/-! ## Fields -/

theorem mem_of_lookup_eq_some {α : Type} {key : String} {a : α} {entries : List (String × α)}
    (h : entries.lookup key = some a) : (key, a) ∈ entries := by
  induction entries with
  | nil => cases h
  | cons entry rest ih =>
    obtain ⟨k, b⟩ := entry
    rw [List.lookup_cons] at h
    by_cases hk : key = k
    · subst hk
      simp only [BEq.rfl, Option.some.injEq] at h
      rw [h]
      exact List.mem_cons_self
    · rw [beq_eq_false_iff_ne.2 hk] at h
      exact List.mem_cons_of_mem _ (ih h)

namespace Fields

theorem get?_eq_none_iff {key : String} {fields : Fields} :
    get? key fields = none ↔ key ∉ keys fields := by
  induction fields with
  | nil => simp [get?, keys]
  | cons entry rest ih =>
    obtain ⟨k, w⟩ := entry
    rw [get?_cons]
    by_cases hk : key = k
    · simp [hk, keys]
    · simp only [keys] at ih
      simp [hk, ih, keys]

theorem get?_erase (key other : String) (fields : Fields) :
    get? key (erase other fields) = if key = other then none else get? key fields := by
  induction fields with
  | nil => simp [erase, get?]
  | cons entry rest ih =>
    obtain ⟨k, v⟩ := entry
    rw [erase] at ih
    rw [erase, List.filter_cons]
    by_cases hk : k = other
    · subst hk
      simp only [bne_self_eq_false, Bool.false_eq_true, if_false, ih, get?_cons]
      split_ifs <;> rfl
    · rw [if_pos (by simpa using hk), get?_cons, ih, get?_cons]
      grind

theorem erase_insert_self (key : String) (v : Value) (fields : Fields) :
    erase key (insert key v fields) = erase key fields := by
  induction fields with
  | nil => simp [insert, erase]
  | cons entry rest ih =>
    obtain ⟨k, w⟩ := entry
    rw [erase, erase] at ih
    rw [insert]
    split_ifs with hlt heq
    · simp [erase]
    · simp [erase, heq]
    · simp only [erase, List.filter_cons, ih]

theorem erase_comm (key other : String) (fields : Fields) :
    erase key (erase other fields) = erase other (erase key fields) := by
  simp only [erase, List.filter_filter, Bool.and_comm]

theorem erase_erase (key : String) (fields : Fields) :
    erase key (erase key fields) = erase key fields := by
  simp [erase, List.filter_filter]

theorem mem_of_get?_eq_some {key : String} {v : Value} {fields : Fields}
    (h : get? key fields = some v) : (key, v) ∈ fields := mem_of_lookup_eq_some h

theorem mem_insert {entry : String × Value} {key : String} {v : Value} {fields : Fields}
    (h : entry ∈ insert key v fields) : entry = (key, v) ∨ entry ∈ fields := by
  induction fields with
  | nil => simpa [insert] using h
  | cons first rest ih =>
    obtain ⟨k, w⟩ := first
    rw [insert] at h
    split_ifs at h
    · simpa using h
    · rcases List.mem_cons.1 h with rfl | h
      · exact .inl rfl
      · exact .inr (List.mem_cons_of_mem _ h)
    · rcases List.mem_cons.1 h with rfl | h
      · exact .inr List.mem_cons_self
      · exact (ih h).imp id (List.mem_cons_of_mem _)

theorem mem_of_mem_ofList {entry : String × Value} {entries : List (String × Value)}
    (h : entry ∈ ofList entries) : entry ∈ entries := by
  suffices haux : ∀ fields : Fields, entry ∈ entries.foldl (fun fields e => insert e.1 e.2 fields)
      fields → entry ∈ entries ∨ entry ∈ fields from (haux [] h).resolve_right List.not_mem_nil
  clear h
  induction entries with
  | nil => exact fun fields h => .inr h
  | cons first rest ih =>
    intro fields h
    rcases ih _ h with h | h
    · exact .inl (List.mem_cons_of_mem _ h)
    · rcases mem_insert h with rfl | h
      · exact .inl List.mem_cons_self
      · exact .inr h

theorem mem_keys_ofList {key : String} {entries : List (String × Value)}
    (h : key ∈ keys entries) : key ∈ keys (ofList entries) := by
  suffices haux : ∀ fields : Fields, key ∈ keys entries ∨ key ∈ keys fields →
      key ∈ keys (entries.foldl (fun fields e => insert e.1 e.2 fields) fields) from
    haux [] (.inl h)
  clear h
  induction entries with
  | nil => exact fun fields h => h.resolve_left List.not_mem_nil
  | cons first rest ih =>
    intro fields h
    refine ih _ ?_
    rw [mem_keys_insert]
    rcases h with h | h
    · rcases List.mem_cons.1 h with rfl | h
      · exact .inr (.inl rfl)
      · exact .inl h
    · exact .inr (.inr h)

theorem sorted_ofList (entries : List (String × Value)) : Sorted (ofList entries) := by
  suffices haux : ∀ fields : Fields, Sorted fields →
      Sorted (entries.foldl (fun fields e => insert e.1 e.2 fields) fields) from
    haux [] List.Pairwise.nil
  induction entries with
  | nil => exact fun _ => id
  | cons first rest ih => exact fun _ h => ih _ (sorted_insert h _ _)

theorem mem_iff_get?_eq_some {fields : Fields} (h : Sorted fields) {key : String} {v : Value} :
    (key, v) ∈ fields ↔ get? key fields = some v := by
  refine ⟨fun hmem => ?_, mem_of_get?_eq_some⟩
  induction fields with
  | nil => cases hmem
  | cons entry rest ih =>
    obtain ⟨k, w⟩ := entry
    obtain ⟨hk, hrest⟩ := List.pairwise_cons.1 h
    rw [get?_cons]
    rcases List.mem_cons.1 hmem with hentry | hmem
    · cases hentry
      exact if_pos rfl
    · have hkey : key ∈ keys rest := List.mem_map_of_mem hmem
      have hne : key ≠ k := by
        rintro rfl
        exact String.lt_irrefl key (hk key hkey)
      rw [if_neg hne, ih hrest hmem]

/-- A map is told by what it has under each key. -/
theorem eq_of_get?_eq {fields others : Fields} (hfields : Sorted fields) (hothers : Sorted others)
    (h : ∀ key, get? key fields = get? key others) : fields = others := by
  have hlt {fields : Fields} (h : Sorted fields) : fields.Pairwise fun a b => a.1 < b.1 :=
    List.pairwise_map.1 h
  have hnodup {fields : Fields} (h : Sorted fields) : fields.Nodup :=
    List.Nodup.of_map Prod.fst (List.Pairwise.imp String.ne_of_lt h)
  have hperm : fields.Perm others := by
    refine (List.perm_ext_iff_of_nodup (hnodup hfields) (hnodup hothers)).2 fun (key, v) => ?_
    rw [mem_iff_get?_eq_some hfields, mem_iff_get?_eq_some hothers, h]
  exact hperm.eq_of_pairwise (fun _ _ _ _ hab hba => absurd hba (String.lt_asymm hab))
    (hlt hfields) (hlt hothers)

end Fields

end ScenarioTree
