import ScenarioTree.Proofs.Record.Field
import ScenarioTree.Proofs.Schema.Documents

/-!
# Lawful records

The properties of a record have the forms that the bundled schema of its kind asks for. They are
apart from each other, and there is nothing else in a record.

Results:

* Records of applications, routes and scenarios are lawful.
* `Record.assign_name`, `Record.exists_field_of_lookup`: an entry of a document is stored in the
  property with its name.
-/

namespace ScenarioTree

namespace Record

open Documented (forms required)

/-- Records whose properties are apart from each other, make up the record, and have the forms that
    the schema asks for. -/
class Lawful (R : Type) [Record R] [Documented R] : Prop where
  nodup_properties : (properties R).Nodup
  stores : ∀ field ∈ fields (R := R),
    ∃ form, (forms R).lookup field.name = some form ∧ field.Stores form
  apart : ∀ field ∈ fields (R := R), ∀ other ∈ fields, other.name ≠ field.name → field.Apart other
  eq_of_same : ∀ {r s : R}, (∀ field ∈ fields, field.Same r s) → r = s
  value?_unset : ∀ field ∈ fields, field.value? (unset : R) = none
  mem_properties : ∀ entry ∈ forms R, entry.1 ∈ properties R
  required_ne_any : ∀ name ∈ required R, ∃ form, (forms R).lookup name = some form ∧ form ≠ .any

theorem stores_of {R α : Type} [Coded α] {forms : List (String × Form)} {name : String}
    {get : R → Option α} {set : R → Option α → R} (form : Form)
    (hform : forms.lookup name = some form) (hcodes : form.Codes α)
    (hget : ∀ r x, get (set r x) = x) (hset : ∀ r x y, set (set r x) y = set r y) :
    ∃ form, forms.lookup (Field.of name get set).name = some form ∧
      (Field.of name get set).Stores form :=
  ⟨form, hform, α, _, get, set, rfl, hcodes, hget, hset⟩

/-! ## Laws of cells -/

section Cells

variable {R : Type} [Record R] [Celled R] {field other : Field R}

theorem exists_cell (h : field ∈ fields) : ∃ c ∈ cells (R := R), c.field = field := by
  rw [Celled.fields_eq] at h
  exact List.mem_map.1 h

theorem apart_of_mem_fields (hfield : field ∈ fields) (other : Field R) (hother : other ∈ fields)
    (hne : other.name ≠ field.name) : field.Apart other := by
  obtain ⟨c, hc, rfl⟩ := exists_cell hfield
  obtain ⟨d, hd, rfl⟩ := exists_cell hother
  have hapart : c.Apart d := apart_of_name_ne hc hd (Ne.symm hne)
  exact Field.apart_of hapart.1 (set_comm hc hd hapart)

theorem eq_of_fields_same {r s : R} (h : ∀ field ∈ fields, field.Same r s) : r = s := by
  refine Celled.eq_of_get_eq fun c hc => ?_
  exact Field.get_eq_of_same c.get_set (h c.field (field_mem_fields hc))

theorem value?_unset (h : field ∈ fields) : field.value? (unset : R) = none := by
  obtain ⟨c, hc, rfl⟩ := exists_cell h
  exact congrArg (Option.map encode) (Celled.get_unset c hc)

end Cells

/-! ## The three kinds -/

section Instances

open Form

instance : Lawful ApplicationRecord where
  nodup_properties := nodup_properties
  stores := by
    simp only [fields, List.forall_mem_cons, List.not_mem_nil, false_imp_iff, implies_true, and_true]
    refine ⟨?_, ?_, ?_, ?_, ?_, ?_⟩
    · exact stores_of .someText (by decide) codes_someText (fun _ _ => rfl) (fun _ _ _ => rfl)
    · exact stores_of .text (by decide) codes_text (fun _ _ => rfl) (fun _ _ _ => rfl)
    · exact stores_of .text (by decide) codes_text (fun _ _ => rfl) (fun _ _ _ => rfl)
    · exact stores_of .parameters (by decide) codes_parameters (fun _ _ => rfl) (fun _ _ _ => rfl)
    · exact stores_of .metadata (by decide) codes_metadata (fun _ _ => rfl) (fun _ _ _ => rfl)
    · exact stores_of .texts (by decide) codes_texts (fun _ _ => rfl) (fun _ _ _ => rfl)
  apart _ := apart_of_mem_fields
  eq_of_same := eq_of_fields_same
  value?_unset _ := value?_unset
  mem_properties := by decide
  required_ne_any := by decide

instance : Lawful RouteRecord where
  nodup_properties := nodup_properties
  stores := by
    simp only [fields, List.forall_mem_cons, List.not_mem_nil, false_imp_iff, implies_true, and_true]
    refine ⟨?_, ?_, ?_, ?_, ?_, ?_, ?_, ?_⟩
    · exact stores_of .someText (by decide) codes_someText (fun _ _ => rfl) (fun _ _ _ => rfl)
    · exact stores_of .text (by decide) codes_text (fun _ _ => rfl) (fun _ _ _ => rfl)
    · exact stores_of .method (by decide) codes_method (fun _ _ => rfl) (fun _ _ _ => rfl)
    · exact stores_of .path (by decide) codes_path (fun _ _ => rfl) (fun _ _ _ => rfl)
    · exact stores_of .parameters (by decide) codes_parameters (fun _ _ => rfl) (fun _ _ _ => rfl)
    · exact stores_of .metadata (by decide) codes_metadata (fun _ _ => rfl) (fun _ _ _ => rfl)
    · exact stores_of .texts (by decide) codes_texts (fun _ _ => rfl) (fun _ _ _ => rfl)
    · exact stores_of .texts (by decide) codes_texts (fun _ _ => rfl) (fun _ _ _ => rfl)
  apart _ := apart_of_mem_fields
  eq_of_same := eq_of_fields_same
  value?_unset _ := value?_unset
  mem_properties := by decide
  required_ne_any := by decide

instance : Lawful ScenarioRecord where
  nodup_properties := nodup_properties
  stores := by
    simp only [fields, List.forall_mem_cons, List.not_mem_nil, false_imp_iff, implies_true, and_true]
    refine ⟨?_, ?_, ?_, ?_, ?_, ?_, ?_⟩
    · exact stores_of .someText (by decide) codes_someText (fun _ _ => rfl) (fun _ _ _ => rfl)
    · exact stores_of .text (by decide) codes_text (fun _ _ => rfl) (fun _ _ _ => rfl)
    · exact stores_of .parameters (by decide) codes_parameters (fun _ _ => rfl) (fun _ _ _ => rfl)
    · exact stores_of .metadata (by decide) codes_metadata (fun _ _ => rfl) (fun _ _ _ => rfl)
    · exact stores_of .texts (by decide) codes_texts (fun _ _ => rfl) (fun _ _ _ => rfl)
    · exact stores_of .any (by decide) codes_any (fun _ _ => rfl) (fun _ _ _ => rfl)
    · exact stores_of .status (by decide) codes_status (fun _ _ => rfl) (fun _ _ _ => rfl)
  apart _ := apart_of_mem_fields
  eq_of_same := eq_of_fields_same
  value?_unset _ := value?_unset
  mem_properties := by decide
  required_ne_any := by decide

end Instances

/-! ## Reading -/

section Lawful

variable {R : Type} [Record R] [Documented R] [Lawful R]

theorem eq_of_name_eq {field other : Field R} (hfield : field ∈ fields) (hother : other ∈ fields)
    (h : field.name = other.name) : field = other :=
  List.inj_on_of_nodup_map (Lawful.nodup_properties (R := R)) hfield hother h

/-- Storing under the name of a property is storing in the property. -/
theorem assign_name {field : Field R} (hfield : field ∈ fields) (r : R) (v : Value) :
    assign r field.name v = field.assign r v :=
  assign_of_mem_fields Lawful.nodup_properties hfield r v

/-- An entry of a document belongs to a property with its form. -/
theorem exists_field_of_lookup {key : String} {form : Form} (h : (forms R).lookup key = some form) :
    ∃ field ∈ fields (R := R), field.name = key ∧ field.Stores form := by
  have hmem : key ∈ properties R := Lawful.mem_properties (key, form) (mem_of_lookup_eq_some h)
  obtain ⟨field, hfield, rfl⟩ : ∃ field ∈ fields (R := R), field.name = key := by
    simpa [properties] using hmem
  obtain ⟨form', hform', hstores⟩ := Lawful.stores field hfield
  rw [h] at hform'
  cases hform'
  exact ⟨field, hfield, rfl, hstores⟩

end Lawful

end Record

end ScenarioTree
