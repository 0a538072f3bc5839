import Mathlib.Tactic
import ScenarioTree.Schema.Basic

/-!
# Comparing values and schemas

Tests whether two values, or two schemas, are one and the same. They decide what a given document
reads as: both sides are evaluated. The test of schemas looks only for the rules of the bundled
schemas and takes all other schemas for different ones.

Results:

* `Value.eq_of_agrees`, `Schema.eq_of_agrees`: what agrees is equal.
-/

namespace ScenarioTree

deriving instance DecidableEq for CharacterSet
deriving instance DecidableEq for Pattern

/-! ## Values -/

namespace Value

mutual

/-- Whether two values are the same, down to the signs of zeros. -/
def agrees : Value → Value → Bool
  | null, null => true
  | bool b, bool c => b == c
  | number m, number n => m == n
  | string s, string t => s == t
  | array items, array others => agreesItems items others
  | object fields, object others => agreesFields fields others
  | _, _ => false

def agreesItems : List Value → List Value → Bool
  | [], [] => true
  | v :: rest, w :: others => v.agrees w && agreesItems rest others
  | _, _ => false

def agreesFields : List (String × Value) → List (String × Value) → Bool
  | [], [] => true
  | (key, v) :: rest, (name, w) :: others =>
    key == name && v.agrees w && agreesFields rest others
  | _, _ => false

end

mutual

theorem eq_of_agrees : ∀ {v w : Value}, v.agrees w = true → v = w
  | null, w, h => by cases w <;> simp_all [agrees]
  | bool _, w, h => by cases w <;> simp_all [agrees]
  | number _, w, h => by cases w <;> simp_all [agrees]
  | string _, w, h => by cases w <;> simp_all [agrees]
  | array _, w, h => by
    cases w <;> simp only [agrees, Bool.false_eq_true] at h
    rw [eq_of_agreesItems h]
  | object _, w, h => by
    cases w <;> simp only [agrees, Bool.false_eq_true] at h
    rw [eq_of_agreesFields h]

theorem eq_of_agreesItems : ∀ {v w : List Value}, agreesItems v w = true → v = w
  | [], w, h => by cases w <;> simp_all [agreesItems]
  | _ :: _, w, h => by
    cases w <;> simp only [agreesItems, Bool.and_eq_true, Bool.false_eq_true] at h
    rw [eq_of_agrees h.1, eq_of_agreesItems h.2]

theorem eq_of_agreesFields :
    ∀ {v w : List (String × Value)}, agreesFields v w = true → v = w
  | [], w, h => by cases w <;> simp_all [agreesFields]
  | (_, _) :: _, w, h => by
    cases w <;>
      simp only [agreesFields, Bool.and_eq_true, beq_iff_eq, Bool.false_eq_true] at h
    rw [h.1.1, eq_of_agrees h.1.2, eq_of_agreesFields h.2]

end

end Value

/-! ## Assertions -/

/-- Whether two assertions agree. -/
def Assertion.agrees : Assertion → Assertion → Bool
  | .kind kinds, .kind others => kinds == others
  | .listed options, .listed others => Value.agreesItems options others
  | .atLeast counted limit, .atLeast other bound => counted == other && limit == bound
  | .maximum limit, .maximum bound | .minimum limit, .minimum bound => limit == bound
  | .pattern written compiled, .pattern text other => written == text && compiled == other
  | .required names, .required others => names == others
  | _, _ => false

theorem Assertion.eq_of_agrees {a b : Assertion} (h : a.agrees b = true) : a = b := by
  unfold agrees at h
  split at h
  case h_2 => rw [Value.eq_of_agreesItems h]
  case h_8 => cases h
  all_goals simp_all

/-! ## Schemas -/

namespace Schema

mutual

/-- Whether two schemas agree. Schemas with other rules than those of the bundled ones do not. -/
def agrees : Schema → Schema → Bool
  | assert rule assertion, assert name other => rule == name && assertion.agrees other
  | all parts, all others => agreesAll parts others
  | items skipped item, items count other => skipped == count && item.agrees other
  | properties schemas, properties others => agreesNamed schemas others
  | members named [] none, members others [] none => agreesNamed named others
  | _, _ => false

def agreesAll : List Schema → List Schema → Bool
  | [], [] => true
  | schema :: rest, other :: others => schema.agrees other && agreesAll rest others
  | _, _ => false

def agreesNamed : List (String × Schema) → List (String × Schema) → Bool
  | [], [] => true
  | (key, schema) :: rest, (name, other) :: others =>
    key == name && schema.agrees other && agreesNamed rest others
  | _, _ => false

end

mutual

theorem eq_of_agrees {s t : Schema} (h : s.agrees t = true) : s = t := by
  unfold agrees at h
  split at h
  · rw [Bool.and_eq_true, beq_iff_eq] at h
    rw [h.1, Assertion.eq_of_agrees h.2]
  · rw [eq_of_agreesAll h]
  · rw [Bool.and_eq_true, beq_iff_eq] at h
    rw [h.1, eq_of_agrees h.2]
  · rw [eq_of_agreesNamed h]
  · rw [eq_of_agreesNamed h]
  · cases h

theorem eq_of_agreesAll {ss ts : List Schema} (h : agreesAll ss ts = true) : ss = ts := by
  unfold agreesAll at h
  split at h
  · rfl
  · rw [Bool.and_eq_true] at h
    rw [eq_of_agrees h.1, eq_of_agreesAll h.2]
  · cases h

theorem eq_of_agreesNamed {ss ts : List (String × Schema)} (h : agreesNamed ss ts = true) :
    ss = ts := by
  unfold agreesNamed at h
  split at h
  · rfl
  · simp only [Bool.and_eq_true, beq_iff_eq] at h
    rw [h.1.1, eq_of_agrees h.1.2, eq_of_agreesNamed h.2]
  · cases h

end

end Schema

end ScenarioTree
