import ScenarioTree.Proofs.Record.Cell
import ScenarioTree.Proofs.Record.Coding
import ScenarioTree.Proofs.Record.Metadata

/-!
# Laws of properties

A property of a record is read and written as values of a type. What is stored is read again, what is
read can be stored again, and one property does not touch another.

Results:

* `Field.Stores.exists_assign_iff`: which values of a form can be stored.
* `Field.Stores.keeps_assign`: what has been stored is kept.
* `Field.Stores.exists_same`: what one record keeps can be stored in another one.
* `Field.apart_of`, `Field.get_eq_of_same`: the laws of typed properties, in terms of values.
-/

namespace ScenarioTree

namespace Field

variable {R : Type}

/-! ## One property -/

/-- A field for the values of a form. -/
def Stores (field : Field R) (form : Form) : Prop :=
  ∃ (α : Type) (_ : Coded α) (get : R → Option α) (set : R → Option α → R),
    field = .of field.name get set ∧ form.Codes α ∧ (∀ r x, get (set r x) = x) ∧
      ∀ r x y, set (set r x) y = set r y

/-- A record holds a value of the form in a property, if any, and storing it once more changes
    nothing. -/
def Keeps (field : Field R) (form : Form) (r : R) : Prop :=
  ∀ v, field.value? r = some v → form.Admits v ∧ v.isNull = false ∧ field.assign r v = .ok r

/-- Two records hold the same in a property. -/
def Same (field : Field R) (r s : R) : Prop :=
  field.value? r = field.value? s ∧
    ∀ v, field.value? s = some v → field.assign r v = .ok r ∧ field.assign s v = .ok s

theorem of_assign_encode {α : Type} [Coded α] {name : String} {get : R → Option α}
    {set : R → Option α → R} {r : R} {x : α} (hnull : (encode x).isNull = false)
    (h : decode (encode x) = .ok x) : (of name get set).assign r (encode x) = .ok (set r (some x)) := by
  simp [of, decodeOptional, hnull, h, Except.map]

variable {field : Field R} {form : Form} {r s : R} {v : Value}

/-- Whether a value can be stored does not depend on the record. -/
theorem Stores.exists_assign_iff (h : field.Stores form) (hadmits : form.Admits v) (r : R) :
    (∃ s, field.assign r v = .ok s) ↔ form.IsWritten v := by
  obtain ⟨α, _, get, set, hfield, hcodes, -, -⟩ := h
  rw [← hcodes.exists_decode_iff hadmits, hfield]
  cases hnull : v.isNull with
  | true =>
    -- no form but the one of any value admits null, and that can be read
    have hany : form = .any := by_contra fun hform =>
      Bool.false_ne_true ((hadmits.isNull_eq_false hform).symm.trans hnull)
    refine iff_of_true ⟨set r none, ?_⟩ ((hcodes.exists_decode_iff hadmits).2 (hany ▸ trivial))
    simp [of, decodeOptional, hnull, Except.map]
  | false =>
    constructor
    · rintro ⟨s, hs⟩
      obtain ⟨property, hproperty, -⟩ := assign_of_eq_ok hs
      rcases decodeOptional_eq_ok_iff.1 hproperty with ⟨hnull', -⟩ | ⟨-, x, hx, -⟩
      · exact absurd hnull' (by simp [hnull])
      · exact ⟨x, hx⟩
    · rintro ⟨x, hx⟩
      exact ⟨set r (some x), by simp [of, decodeOptional, hnull, hx, Except.map]⟩

/-- What has been stored is kept. -/
theorem Stores.keeps_assign (h : field.Stores form) (hadmits : form.Admits v)
    (hassign : field.assign r v = .ok s) :
    field.Keeps form s ∧ (v.isNull = false → (field.value? s).isSome = true) := by
  obtain ⟨α, _, get, set, hfield, hcodes, hget, hset⟩ := h
  rw [hfield] at hassign ⊢
  obtain ⟨property, hproperty, rfl⟩ := assign_of_eq_ok hassign
  have hvalue : (of field.name get set).value? (set r property) = property.map encode := by
    simp [of, hget]
  rw [Keeps, hvalue]
  rcases decodeOptional_eq_ok_iff.1 hproperty with ⟨hnull, rfl⟩ | ⟨hnull, x, hx, rfl⟩
  · simp [hnull]
  · obtain ⟨hform, hsome, hdecode⟩ := hcodes.keeps hadmits hnull hx
    simp only [Option.map_some, Option.some.injEq, forall_eq', Option.isSome_some, implies_true,
      and_true]
    exact ⟨hform, hsome, by rw [of_assign_encode hsome hdecode, hset]⟩

/-- What a record keeps can be stored in another one. -/
theorem Stores.exists_same (h : field.Stores form) (hkeeps : field.Keeps form r)
    (hvalue : field.value? r = some v) (s : R) : ∃ t, field.assign s v = .ok t ∧ field.Same t r := by
  obtain ⟨hadmits, hnull, hassign⟩ := hkeeps v hvalue
  obtain ⟨α, _, get, set, hfield, hcodes, hget, hset⟩ := h
  rw [hfield] at hassign hvalue ⊢
  obtain ⟨property, hproperty, hr⟩ := assign_of_eq_ok hassign
  rcases decodeOptional_eq_ok_iff.1 hproperty with ⟨hnull', -⟩ | ⟨-, x, hx, rfl⟩
  · rw [hnull] at hnull'
    cases hnull'
  · have hgetr : get r = some x := by rw [← hr, hget]
    obtain rfl : encode x = v := by simpa [of, hgetr] using hvalue
    refine ⟨set s (some x), of_assign_encode hnull hx, ?_, ?_⟩
    · simp only [of, hget, hgetr]
    · intro v hv
      rw [hvalue] at hv
      cases hv
      exact ⟨by rw [of_assign_encode hnull hx, hset], hassign⟩

/-! ## Two properties -/

/-- What is stored in one property does not touch the other one. -/
def Apart (field other : Field R) : Prop :=
  ∀ (r s : R) (v : Value), field.assign r v = .ok s → other.value? s = other.value? r ∧
    ∀ w, other.assign r w = .ok r → other.assign s w = .ok s

theorem apart_of {α β : Type} [Coded α] [Coded β] {name name' : String} {get : R → Option α}
    {set : R → Option α → R} {get' : R → Option β} {set' : R → Option β → R}
    (hget : ∀ r x, get' (set r x) = get' r)
    (hset : ∀ r x y, set' (set r x) y = set (set' r y) x) :
    (of name get set).Apart (of name' get' set') := by
  intro r s v h
  obtain ⟨property, -, rfl⟩ := assign_of_eq_ok h
  refine ⟨by simp [of, hget], fun w hw => ?_⟩
  obtain ⟨property', hproperty', hr⟩ := assign_of_eq_ok hw
  simp only [of, hproperty', Except.map]
  rw [hset, hr]

theorem get_eq_of_same {α : Type} [Coded α] {name : String} {get : R → Option α}
    {set : R → Option α → R} (hget : ∀ r x, get (set r x) = x)
    (h : (of name get set).Same r s) : get r = get s := by
  obtain ⟨hvalue, hstored⟩ := h
  cases hs : get s with
  | none => simpa [of, hs] using hvalue
  | some x =>
    obtain ⟨hr, hs'⟩ := hstored (encode x) (by simp [of, hs])
    obtain ⟨property, hproperty, hr⟩ := assign_of_eq_ok hr
    obtain ⟨property', hproperty', hs'⟩ := assign_of_eq_ok hs'
    rw [hproperty] at hproperty'
    cases hproperty'
    rw [← hs, ← hr, ← hs', hget, hget]

end Field

end ScenarioTree
