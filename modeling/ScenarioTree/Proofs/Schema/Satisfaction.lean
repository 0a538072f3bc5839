import Mathlib.Tactic
import ScenarioTree.Schema.Check

/-!
# Values without violations

What it takes for a value to have no violation of a rule, for the rules that the bundled schemas are
made of.

Results:

* `Schema.all_eq_nil_iff`, `Schema.items_eq_nil_iff`, `Schema.properties_eq_nil_iff`,
  `Schema.members_eq_nil_iff`: rules with schemas below them.
* `Schema.kind_eq_nil_iff`, `Schema.required_eq_nil_iff`: rules on a value alone.
-/

namespace ScenarioTree

theorem Value.alike_string (s t : String) : (Value.string s).alike (.string t) = (s == t) := by
  rw [alike, alikeBy]

namespace Schema

variable {follow : Follow} {place : List String} {rule : String} {v : Value}

/-! ## Rules on a value alone -/

theorem kind_eq_nil_iff {kind : Kind} :
    (assert rule (.kind [kind])).violations follow place v = [] ↔ kind.admits v = true := by
  simp [violations, Assertion.breaches, Assertion.ensure]

theorem required_eq_nil_iff {names : List String} {fields : Fields} :
    (assert rule (.required names)).violations follow place (.object fields) = [] ↔
      ∀ name ∈ names, ∃ v, Fields.get? name fields = some v := by
  simp [violations, Assertion.breaches, Fields.contains, ← Option.ne_none_iff_exists']

/-! ## All of some rules -/

theorem violationsOfAll_eq_nil_iff {parts : List Schema} :
    violationsOfAll follow parts place v = [] ↔
      ∀ part ∈ parts, part.violations follow place v = [] := by
  induction parts with
  | nil => simp [violationsOfAll]
  | cons part rest ih => simp [violationsOfAll, ih]

theorem all_eq_nil_iff {parts : List Schema} : (all parts).violations follow place v = [] ↔
    ∀ part ∈ parts, part.violations follow place v = [] := by
  rw [violations, violationsOfAll_eq_nil_iff]

theorem always_eq_nil : always.violations follow place v = [] := rfl

/-! ## Items -/

/-- Where the items are does not matter if their schema says the same at every place. -/
theorem items_eq_nil_iff {item : Schema} {values : List Value} {P : Value → Prop}
    (hitem : ∀ place v, item.violations follow place v = [] ↔ P v) :
    (items 0 item).violations follow place (.array values) = [] ↔ ∀ v ∈ values, P v := by
  rw [violations]
  simp only [List.drop_zero, List.flatMap_eq_nil_iff, Prod.forall, hitem]
  constructor
  · intro h v hv
    obtain ⟨i, hi, rfl⟩ := List.getElem_of_mem hv
    exact h values[i] i (List.mk_mem_zipIdx_iff_getElem?.2 (by simp [hi]))
  · intro h v i hv
    exact h v (List.fst_mem_of_mem_zipIdx hv)

/-! ## Properties -/

theorem violationsOfNamed_eq_nil_iff {schemas : List (String × Schema)} {fields : Fields} :
    violationsOfNamed follow schemas place fields = [] ↔
      ∀ entry ∈ schemas, ∀ v, Fields.get? entry.1 fields = some v →
        entry.2.violations follow (place ++ [entry.1]) v = [] := by
  induction schemas with
  | nil => simp [violationsOfNamed]
  | cons entry rest ih =>
    obtain ⟨key, schema⟩ := entry
    rw [violationsOfNamed, List.append_eq_nil_iff, ih]
    cases h : Fields.get? key fields <;> simp [h]

theorem properties_eq_nil_iff {schemas : List (String × Schema)} {fields : Fields} :
    (properties schemas).violations follow place (.object fields) = [] ↔
      ∀ entry ∈ schemas, ∀ v, Fields.get? entry.1 fields = some v →
        entry.2.violations follow (place ++ [entry.1]) v = [] := by
  rw [violations, violationsOfNamed_eq_nil_iff]

theorem violationsOfKey_eq (schemas : List (String × Schema)) (key : String) (v : Value) :
    violationsOfKey follow schemas key place v =
      (schemas.lookup key).map (·.violations follow place v) := by
  induction schemas with
  | nil => rfl
  | cons entry rest ih =>
    obtain ⟨name, schema⟩ := entry
    rw [violationsOfKey, List.lookup_cons, ih]
    by_cases h : name = key
    · simp [h]
    · simp [h, beq_eq_false_iff_ne.2 (Ne.symm h)]

theorem any_key_eq_isSome_lookup {α : Type} (entries : List (String × α)) (key : String) :
    entries.any (·.1 == key) = (entries.lookup key).isSome := by
  induction entries with
  | nil => rfl
  | cons entry rest ih =>
    rw [List.any_cons, List.lookup_cons, ih, Bool.beq_comm]
    cases key == entry.1 <;> rfl

/-- Properties with given names, and no others. -/
theorem members_eq_nil_iff {named : List (String × Schema)} {fields : Fields} :
    (members named [] none).violations follow place (.object fields) = [] ↔
      ∀ entry ∈ fields, ∃ schema, named.lookup entry.1 = some schema ∧
        schema.violations follow (place ++ [entry.1]) entry.2 = [] := by
  have hunexpected (h : ∀ entry ∈ fields, ∃ schema, named.lookup entry.1 = some schema) :
      (Fields.keys fields).filter (fun key => !(named.any (·.1 == key))) = [] := by
    simp only [Fields.keys, List.filter_eq_nil_iff, List.forall_mem_map, any_key_eq_isSome_lookup]
    intro entry hentry
    obtain ⟨schema, hschema⟩ := h entry hentry
    simp [hschema]
  rw [violations]
  simp only [violationsOfKey_eq, violationsOfMatches, violationsOfOther, Option.isNone_none,
    Bool.true_and, List.any_nil, Bool.not_false, Bool.and_true]
  constructor
  · intro h entry hentry
    split_ifs at h with hempty
    · have hnamed : (named.lookup entry.1).isSome = true := by
        rw [List.isEmpty_iff, List.filter_eq_nil_iff] at hempty
        simpa [any_key_eq_isSome_lookup] using hempty entry.1 (List.mem_map_of_mem hentry)
      obtain ⟨schema, hschema⟩ := Option.isSome_iff_exists.1 hnamed
      have hnone := List.flatMap_eq_nil_iff.1 h entry hentry
      simp only [hschema, Option.map_some, Option.getD_none, List.append_nil] at hnone
      exact ⟨schema, hschema, hnone⟩
    · simp at h
  · intro h
    rw [hunexpected fun entry hentry => (h entry hentry).imp fun _ h => h.1]
    rw [List.isEmpty_nil, if_pos rfl, List.flatMap_eq_nil_iff]
    intro entry hentry
    obtain ⟨schema, hschema, hnone⟩ := h entry hentry
    simp only [hschema, Option.map_some, Option.getD_none, List.append_nil, hnone]

end Schema

end ScenarioTree
