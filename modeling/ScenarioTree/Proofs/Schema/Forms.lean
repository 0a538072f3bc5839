import ScenarioTree.Proofs.Schema.Satisfaction
import ScenarioTree.Schema.Bundled

/-!
# Forms of properties

What the bundled schemas ask of the properties of documents. Each form is there twice: as the rules
of a schema, and in plain terms.

Result:

* `Form.rules_eq_nil_iff`: a value has no violation of the rules of a form exactly if it is of the
  form.
-/

namespace ScenarioTree

/-! ## In plain terms -/

namespace Value

def IsText (v : Value) : Prop := ∃ s, v = .string s

def IsSomeText (v : Value) : Prop := ∃ s, v = .string s ∧ s ≠ ""

def IsTexts (v : Value) : Prop := ∃ items, v = .array items ∧ ∀ item ∈ items, item.IsSomeText

def IsParameter (v : Value) : Prop :=
  ∃ fields, v = .object fields ∧ (∃ key, Fields.get? "key" fields = some key ∧ key.IsSomeText) ∧
    ∀ description, Fields.get? "description" fields = some description → description.IsText

def IsParameterList (v : Value) : Prop :=
  ∃ items, v = .array items ∧ ∀ item ∈ items, item.IsParameter

/-- The names of the lists of parameters. -/
def parameterLists : List String := ["headers", "path_variables", "query_params"]

def IsParameters (v : Value) : Prop :=
  ∃ fields, v = .object fields ∧
    ∀ entry ∈ fields, entry.1 ∈ parameterLists ∧ entry.2.IsParameterList

def IsMetadata (v : Value) : Prop :=
  ∃ fields, v = .object fields ∧ ∀ tags, Fields.get? "tags" fields = some tags → tags.IsTexts

/-- The methods of requests. -/
def methods : List String := ["GET", "POST", "PUT", "PATCH", "DELETE", "HEAD", "OPTIONS"]

def IsMethod (v : Value) : Prop := ∃ s, v = .string s ∧ s ∈ methods

/-- What the paths of requests begin with. -/
def pathPattern : Pattern := (Pattern.parse? "^/").getD .empty

def IsPath (v : Value) : Prop := ∃ s, v = .string s ∧ pathPattern.occursIn s = true

/-- A number without a fraction, however it is written, in the range of status codes. -/
def IsStatus (v : Value) : Prop :=
  ∃ n, v = .number n ∧ n.isIntegral = true ∧ n.lt (.int 100) = false ∧
    (Number.int 599).lt n = false

end Value

/-- What is asked of a property. -/
inductive Form where
  | any
  | text
  | someText
  | texts
  | method
  | path
  | status
  | metadata
  | parameters
  deriving DecidableEq

namespace Form

/-- Whether a value is of a form. -/
def Admits : Form → Value → Prop
  | any, _ => True
  | text, v => v.IsText
  | someText, v => v.IsSomeText
  | texts, v => v.IsTexts
  | method, v => v.IsMethod
  | path, v => v.IsPath
  | status, v => v.IsStatus
  | metadata, v => v.IsMetadata
  | parameters, v => v.IsParameters

theorem Admits.isNull_eq_false {form : Form} {v : Value} (h : form.Admits v)
    (hany : form ≠ .any) : v.isNull = false := by
  cases v with
  | null =>
    cases form <;> simp_all [Admits, Value.IsText, Value.IsSomeText, Value.IsTexts, Value.IsMethod,
      Value.IsPath, Value.IsStatus, Value.IsMetadata, Value.IsParameters]
  | _ => rfl

/-! ## As rules -/

section Rules

open Schema

def kindRule (kind : Kind) : Schema := assert "type" (.kind [kind])

def textRules : Schema := all [kindRule .string]

def someTextRules : Schema := all [assert "minLength" (.atLeast .characters 1), kindRule .string]

def textsRules : Schema := all [items 0 someTextRules, kindRule .array]

def parameterRules : Schema :=
  all [
    properties [("description", textRules), ("key", someTextRules), ("value", always)],
    assert "required" (.required ["key"]), kindRule .object]

def parameterListRules : Schema := all [items 0 parameterRules, kindRule .array]

def parametersRules : Schema :=
  all [members (Value.parameterLists.map (·, parameterListRules)) [] none, kindRule .object]

def metadataRules : Schema := all [properties [("tags", textsRules)], kindRule .object]

/-- The rules of a form. -/
def rules : Form → Schema
  | any => always
  | text => textRules
  | someText => someTextRules
  | texts => textsRules
  | method => all [assert "enum" (.listed (Value.methods.map .string)), kindRule .string]
  | path => all [assert "pattern" (.pattern "^/" Value.pathPattern), kindRule .string]
  | status =>
    all [assert "maximum" (.maximum (.int 599)), assert "minimum" (.minimum (.int 100)),
      kindRule .integer]
  | metadata => metadataRules
  | parameters => parametersRules

end Rules

/-! ## Both are the same -/

section Meaning

open Schema

variable {follow : Follow} {place : List String} {v : Value}

-- Which kinds admit which values is asked in every case.
attribute [local simp] Kind.admits

theorem kindRule_eq_nil_iff {kind : Kind} :
    (kindRule kind).violations follow place v = [] ↔ kind.admits v = true := kind_eq_nil_iff

theorem textRules_eq_nil_iff : textRules.violations follow place v = [] ↔ v.IsText := by
  simp only [textRules, all_eq_nil_iff, List.forall_mem_singleton, kindRule_eq_nil_iff]
  cases v <;> simp [Value.IsText]

theorem someTextRules_eq_nil_iff :
    someTextRules.violations follow place v = [] ↔ v.IsSomeText := by
  simp only [someTextRules, all_eq_nil_iff, List.forall_mem_cons, kindRule_eq_nil_iff]
  cases v <;> simp [Value.IsSomeText, violations, Assertion.breaches,
    Assertion.ensure, Countable.count?]

theorem textsRules_eq_nil_iff : textsRules.violations follow place v = [] ↔ v.IsTexts := by
  simp only [textsRules, all_eq_nil_iff, List.forall_mem_cons, kindRule_eq_nil_iff]
  cases v with
  | array values =>
    simp [Value.IsTexts, items_eq_nil_iff fun _ _ => someTextRules_eq_nil_iff]
  | _ => simp [Value.IsTexts]

theorem parameterRules_eq_nil_iff :
    parameterRules.violations follow place v = [] ↔ v.IsParameter := by
  simp only [parameterRules, all_eq_nil_iff, List.forall_mem_cons, kindRule_eq_nil_iff]
  cases v with
  | object fields =>
    simp only [required_eq_nil_iff, properties_eq_nil_iff, List.forall_mem_cons,
      textRules_eq_nil_iff, someTextRules_eq_nil_iff, Kind.admits, Value.IsParameter]
    constructor
    · rintro ⟨⟨hdescription, hkey, -⟩, ⟨⟨key, hget⟩, -⟩, -⟩
      exact ⟨fields, rfl, ⟨key, hget, hkey key hget⟩, hdescription⟩
    · rintro ⟨_, ⟨⟩, ⟨key, hget, hkey⟩, hdescription⟩
      simp only [hget, Option.some.injEq, forall_eq', exists_eq', always_eq_nil]
      exact ⟨⟨hdescription, hkey, by simp⟩, by simp⟩
  | _ => simp [Value.IsParameter]

theorem parameterListRules_eq_nil_iff :
    parameterListRules.violations follow place v = [] ↔ v.IsParameterList := by
  simp only [parameterListRules, all_eq_nil_iff, List.forall_mem_cons, kindRule_eq_nil_iff]
  cases v with
  | array values =>
    simp [Value.IsParameterList, items_eq_nil_iff fun _ _ => parameterRules_eq_nil_iff]
  | _ => simp [Value.IsParameterList]

theorem lookup_map_const {α : Type} (names : List String) (a : α) (key : String) :
    (names.map (·, a)).lookup key = if key ∈ names then some a else none := by
  induction names with
  | nil => rfl
  | cons name rest ih =>
    rw [List.map_cons, List.lookup_cons, ih]
    by_cases h : key = name
    · simp [h]
    · simp [h, beq_eq_false_iff_ne.2 h]

theorem parametersRules_eq_nil_iff :
    parametersRules.violations follow place v = [] ↔ v.IsParameters := by
  simp only [parametersRules, all_eq_nil_iff, List.forall_mem_cons, kindRule_eq_nil_iff]
  cases v with
  | object fields =>
    simp [Value.IsParameters, members_eq_nil_iff, lookup_map_const,
      parameterListRules_eq_nil_iff]
  | _ => simp [Value.IsParameters]

theorem metadataRules_eq_nil_iff :
    metadataRules.violations follow place v = [] ↔ v.IsMetadata := by
  simp only [metadataRules, all_eq_nil_iff, List.forall_mem_cons, kindRule_eq_nil_iff]
  cases v with
  | object fields =>
    simp [Value.IsMetadata, properties_eq_nil_iff, textsRules_eq_nil_iff]
  | _ => simp [Value.IsMetadata]

theorem rules_eq_nil_iff (form : Form) :
    form.rules.violations follow place v = [] ↔ form.Admits v := by
  cases form with
  | any => simp [rules, Admits, always_eq_nil]
  | text => exact textRules_eq_nil_iff
  | someText => exact someTextRules_eq_nil_iff
  | texts => exact textsRules_eq_nil_iff
  | metadata => exact metadataRules_eq_nil_iff
  | parameters => exact parametersRules_eq_nil_iff
  | method =>
    simp only [rules, all_eq_nil_iff, List.forall_mem_cons, kindRule_eq_nil_iff]
    cases v <;> simp [Admits, Value.IsMethod, violations, Assertion.breaches,
      Assertion.ensure, Value.alike_string]
  | path =>
    simp only [rules, all_eq_nil_iff, List.forall_mem_cons, kindRule_eq_nil_iff]
    cases v <;> simp [Admits, Value.IsPath, violations, Assertion.breaches,
      Assertion.ensure]
  | status =>
    simp only [rules, all_eq_nil_iff, List.forall_mem_cons, kindRule_eq_nil_iff]
    cases v <;> simp [Admits, Value.IsStatus, violations, Assertion.breaches,
      Assertion.ensure]
    tauto

end Meaning

end Form

end ScenarioTree
