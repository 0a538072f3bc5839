import ScenarioTree.Proofs.Basic
import ScenarioTree.Record.Kinds

/-!
# Records as cells

A record is made up of cells, one for each property. A cell holds a value of the type of its property,
or nothing. To store a value in a property is to read it as a value of that type and to put what is
read into the cell; null empties the cell. No cell touches another one, and there is nothing else in a
record.

Results:

* `Record.properties_eq`: there is one cell for each property.
* `Record.assign_cell`, `Record.assign_of_not_mem`: storing under the name of a cell, and under any
  other name.
* `Record.get_assign`, `Record.assign_eq_error_iff`: what storing a value does to each cell, and when it
  fails.
-/

namespace ScenarioTree

theorem Value.isNull_iff {v : Value} : v.isNull = true ↔ v = .null := by
  cases v <;> simp [Value.isNull]

theorem decodeOptional_eq_ok_iff {α : Type} [Coded α] {v : Value} {x : Option α} :
    decodeOptional v = .ok x ↔
      (v.isNull = true ∧ x = none) ∨ (v.isNull = false ∧ ∃ y, decode v = .ok y ∧ x = some y) := by
  unfold decodeOptional
  cases hnull : v.isNull with
  | true => simp [eq_comm]
  | false =>
    simp only [Bool.false_eq_true, if_false, map_eq_ok_iff, false_and, true_and, false_or]
    simp only [eq_comm]

theorem decodeOptional_eq_error_iff {α : Type} [Coded α] {v : Value} {misfit : MisfitError} :
    decodeOptional (α := α) v = .error misfit ↔ v ≠ .null ∧ decode (α := α) v = .error misfit := by
  unfold decodeOptional
  split_ifs with hnull
  · simp [Value.isNull_iff.1 hnull]
  · simp [map_eq_error_iff, mt Value.isNull_iff.2 hnull]

/-- What is read is something where there is a value other than null that can be read. -/
theorem decodeOptional_eq_some_iff {α : Type} [Coded α] {v : Value} {x : α} :
    decodeOptional v = .ok (some x) ↔ v ≠ .null ∧ decode v = .ok x := by
  rw [decodeOptional_eq_ok_iff, ← Bool.not_eq_true, Value.isNull_iff]
  simp

/-! ## Definitions -/

/-- A place in a record for a value of a type. What is put there is found there. -/
structure Cell (R : Type) where
  name : String
  type : Type
  [coded : Coded type]
  get : R → Option type
  set : R → Option type → R
  get_set : ∀ r x, get (set r x) = x := by intros; rfl

namespace Cell

variable {R : Type}

attribute [instance] Cell.coded

/-- The property that is kept in a cell. -/
def field (c : Cell R) : Field R := .of c.name c.get c.set

/-- A value that can be stored in a cell: null, or what can be read as a value of its type. -/
def Accepts (c : Cell R) (v : Value) : Prop := v = .null ∨ ∃ x : c.type, decode v = .ok x

/-- Two cells that do not touch each other. -/
def Apart (c d : Cell R) : Prop :=
  (∀ r x, d.get (c.set r x) = d.get r) ∧ ∀ r x, c.get (d.set r x) = c.get r

instance : Std.Symm (Apart (R := R)) := ⟨fun _ _ h => ⟨h.2, h.1⟩⟩

theorem not_accepts_iff {c : Cell R} {v : Value} :
    ¬ c.Accepts v ↔ ∃ misfit, decodeOptional (α := c.type) v = .error misfit := by
  simp only [Accepts, not_or, decodeOptional_eq_error_iff, exists_and_left]
  cases decode (α := c.type) v with
  | error misfit => simp
  | ok x => simp

theorem accepts_iff {c : Cell R} {v : Value} :
    c.Accepts v ↔ ∃ x : Option c.type, decodeOptional v = .ok x := by
  rw [← not_iff_not, not_accepts_iff]
  cases decodeOptional (α := c.type) v with
  | error misfit => simp
  | ok x => simp

end Cell

namespace Record

/-- Records that are made up of cells: one for each property, apart from each other, and nothing
    else. -/
class Celled (R : Type) [Record R] where
  cells : List (Cell R)
  fields_eq : fields = cells.map Cell.field
  nodup_names : (cells.map (·.name)).Nodup
  apart : cells.Pairwise Cell.Apart
  eq_of_get_eq : ∀ {r s : R}, (∀ c ∈ cells, c.get r = c.get s) → r = s
  get_unset : ∀ c ∈ cells, c.get unset = none

export Celled (cells)

/-! ## The three kinds -/

instance : Celled ApplicationRecord where
  cells := [
    .mk "name" String (·.name) ({ · with name := · }),
    .mk "description" String (·.description) ({ · with description := · }),
    .mk "host" String (·.host) ({ · with host := · }),
    .mk "parameters" Parameters (·.parameters) ({ · with parameters := · }),
    .mk "meta" Fields (·.metadata) ({ · with metadata := · }),
    .mk "hooks" (List String) (·.hooks) ({ · with hooks := · })]
  fields_eq := rfl
  nodup_names := by decide
  apart := by
    simp only [List.pairwise_cons, List.forall_mem_cons, List.not_mem_nil, false_imp_iff,
      implies_true, List.Pairwise.nil, and_true]
    and_intros <;> exact fun _ _ => rfl
  eq_of_get_eq {r s} h := by
    simp only [List.forall_mem_cons] at h
    obtain ⟨hname, hdescription, hhost, hparameters, hmetadata, hhooks, -⟩ := h
    obtain ⟨⟨⟩⟩ := r
    obtain ⟨⟨⟩⟩ := s
    rw [ApplicationRecord.mk.injEq, Sections.mk.injEq]
    exact ⟨⟨hparameters, hmetadata, hhooks⟩, hname, hdescription, hhost⟩
  get_unset := by simp [unset, Sections.unset]

instance : Celled RouteRecord where
  cells := [
    .mk "name" String (·.name) ({ · with name := · }),
    .mk "description" String (·.description) ({ · with description := · }),
    .mk "method" String (·.method) ({ · with method := · }),
    .mk "path" String (·.path) ({ · with path := · }),
    .mk "parameters" Parameters (·.parameters) ({ · with parameters := · }),
    .mk "meta" Fields (·.metadata) ({ · with metadata := · }),
    .mk "hooks" (List String) (·.hooks) ({ · with hooks := · }),
    .mk "scenarios" (List String) (·.scenarios) ({ · with scenarios := · })]
  fields_eq := rfl
  nodup_names := by decide
  apart := by
    simp only [List.pairwise_cons, List.forall_mem_cons, List.not_mem_nil, false_imp_iff,
      implies_true, List.Pairwise.nil, and_true]
    and_intros <;> exact fun _ _ => rfl
  eq_of_get_eq {r s} h := by
    simp only [List.forall_mem_cons] at h
    obtain ⟨hname, hdescription, hmethod, hpath, hparameters, hmetadata, hhooks, hscenarios, -⟩ := h
    obtain ⟨⟨⟩⟩ := r
    obtain ⟨⟨⟩⟩ := s
    rw [RouteRecord.mk.injEq, Sections.mk.injEq]
    exact ⟨⟨hparameters, hmetadata, hhooks⟩, hname, hdescription, hmethod, hpath, hscenarios⟩
  get_unset := by simp [unset, Sections.unset]

instance : Celled ScenarioRecord where
  cells := [
    .mk "name" String (·.name) ({ · with name := · }),
    .mk "description" String (·.description) ({ · with description := · }),
    .mk "parameters" Parameters (·.parameters) ({ · with parameters := · }),
    .mk "meta" Fields (·.metadata) ({ · with metadata := · }),
    .mk "hooks" (List String) (·.hooks) ({ · with hooks := · }),
    .mk "body" Value (·.body) ({ · with body := · }),
    .mk "expected_status" UInt16 (·.expectedStatus) ({ · with expectedStatus := · })]
  fields_eq := rfl
  nodup_names := by decide
  apart := by
    simp only [List.pairwise_cons, List.forall_mem_cons, List.not_mem_nil, false_imp_iff,
      implies_true, List.Pairwise.nil, and_true]
    and_intros <;> exact fun _ _ => rfl
  eq_of_get_eq {r s} h := by
    simp only [List.forall_mem_cons] at h
    obtain ⟨hname, hdescription, hparameters, hmetadata, hhooks, hbody, hexpectedStatus, -⟩ := h
    obtain ⟨⟨⟩⟩ := r
    obtain ⟨⟨⟩⟩ := s
    rw [ScenarioRecord.mk.injEq, Sections.mk.injEq]
    exact ⟨⟨hparameters, hmetadata, hhooks⟩, hname, hdescription, hbody, hexpectedStatus⟩
  get_unset := by simp [unset, Sections.unset]

/-! ## Storing values -/

section Storing

variable {R : Type} [Record R] [Celled R] {c d : Cell R} {r s : R} {name : String} {v : Value}

omit [Celled R] in
/-- To store a value under the name of a property is to store it in the property, if that is the only
    one of its name. -/
theorem assign_of_mem_fields (hnodup : (properties R).Nodup) {field : Field R}
    (hfield : field ∈ fields) (r : R) (v : Value) : assign r field.name v = field.assign r v := by
  have hfind : fields.find? (·.name == field.name) = some field := by
    have hsome : (fields.find? (·.name == field.name)).isSome = true :=
      List.find?_isSome.2 ⟨field, hfield, beq_self_eq_true field.name⟩
    obtain ⟨found, hfound⟩ := Option.isSome_iff_exists.1 hsome
    have hname := List.find?_some hfound
    rw [hfound, List.inj_on_of_nodup_map hnodup (List.mem_of_find?_eq_some hfound) hfield
      (eq_of_beq hname)]
  rw [assign, hfind]

theorem properties_eq : properties R = (cells (R := R)).map (·.name) := by
  rw [properties, Celled.fields_eq, List.map_map]
  rfl

theorem nodup_properties : (properties R).Nodup := by
  rw [properties_eq]
  exact Celled.nodup_names

theorem mem_properties_iff : name ∈ properties R ↔ ∃ c ∈ cells (R := R), c.name = name := by
  rw [properties_eq, List.mem_map]

theorem field_mem_fields (h : c ∈ cells) : c.field ∈ fields (R := R) := by
  rw [Celled.fields_eq]
  exact List.mem_map_of_mem h

/-- Each cell has a name of its own. -/
theorem eq_of_cell_name_eq (hc : c ∈ cells) (hd : d ∈ cells) (h : c.name = d.name) : c = d :=
  List.inj_on_of_nodup_map (Celled.nodup_names (R := R)) hc hd h

theorem apart_of_name_ne (hc : c ∈ cells) (hd : d ∈ cells) (h : c.name ≠ d.name) : c.Apart d :=
  Celled.apart.forall hc hd fun heq => h (congrArg Cell.name heq)

/-- Cells that do not touch each other can be filled in either order. -/
theorem set_comm (hc : c ∈ cells) (hd : d ∈ cells) (h : c.Apart d) (r : R) (x : Option c.type)
    (y : Option d.type) : d.set (c.set r x) y = c.set (d.set r y) x := by
  refine Celled.eq_of_get_eq fun e he => ?_
  by_cases hed : e = d
  · subst hed
    rw [e.get_set, h.1, e.get_set]
  · by_cases hec : e = c
    · subst hec
      rw [h.2, e.get_set, e.get_set]
    · rw [(Celled.apart.forall hd he (Ne.symm hed)).1, (Celled.apart.forall hc he (Ne.symm hec)).1,
        (Celled.apart.forall hc he (Ne.symm hec)).1, (Celled.apart.forall hd he (Ne.symm hed)).1]

/-- To store a value under the name of a cell is to put what is read into the cell. -/
theorem assign_cell (hc : c ∈ cells) (r : R) (v : Value) :
    assign r c.name v = (decodeOptional v).map (c.set r) :=
  assign_of_mem_fields nodup_properties (field_mem_fields hc) r v

omit [Celled R] in
/-- A name that the record does not know changes nothing. -/
theorem assign_of_not_mem (h : name ∉ properties R) (r : R) (v : Value) :
    assign r name v = .ok r := by
  have hfind : fields.find? (·.name == name) = (none : Option (Field R)) := by
    rw [List.find?_eq_none]
    intro field hfield hname
    exact h (List.mem_map.2 ⟨field, hfield, eq_of_beq hname⟩)
  rw [assign, hfind]

/-- What can be stored shows in the cell of that name, and in no other one. -/
theorem get_assign (hc : c ∈ cells) (h : assign r name v = .ok s) :
    if name = c.name then decodeOptional v = .ok (c.get s) else c.get s = c.get r := by
  by_cases hname : name ∈ properties R
  · obtain ⟨d, hd, rfl⟩ := mem_properties_iff.1 hname
    rw [assign_cell hd, map_eq_ok_iff] at h
    obtain ⟨x, hx, rfl⟩ := h
    split_ifs with heq
    · obtain rfl := eq_of_cell_name_eq hd hc heq
      rw [hx, d.get_set]
    · exact (apart_of_name_ne hd hc heq).1 r x
  · rw [assign_of_not_mem hname, Except.ok.injEq] at h
    rw [if_neg fun heq => hname (mem_properties_iff.2 ⟨c, hc, heq.symm⟩), h]

/-- What cannot be stored cannot be read as a value of the type of its cell. -/
theorem assign_eq_error_iff {misfit : MisfitError} : assign r name v = .error misfit ↔
    ∃ c ∈ cells (R := R), c.name = name ∧ decodeOptional (α := c.type) v = .error misfit := by
  constructor
  · intro h
    by_cases hname : name ∈ properties R
    · obtain ⟨c, hc, rfl⟩ := mem_properties_iff.1 hname
      rw [assign_cell hc, map_eq_error_iff] at h
      exact ⟨c, hc, rfl, h⟩
    · rw [assign_of_not_mem hname] at h
      cases h
  · rintro ⟨c, hc, rfl, h⟩
    rw [assign_cell hc, map_eq_error_iff, h]

end Storing

end Record

end ScenarioTree
