import ScenarioTree.Proofs.Schema.Agreement
import ScenarioTree.Proofs.Schema.Forms
import ScenarioTree.Proofs.Schema.Registry
import ScenarioTree.Record.Kinds
import ScenarioTree.Schema.Store

/-!
# Documents of the three kinds

The bundled schema of each kind, read with all that it refers to, is one list of rules: the forms of
the properties that there may be, and which of them there have to be. So what documents it admits can
be said in plain terms.

Results:

* `Documented.resolveFile_eq`: the schemas are what their files stand for.
* `Documented.exists_stored`: the schemas can be used, and admit exactly the documents of their kind.
-/

namespace ScenarioTree

open Schema

/-- The rules of a kind of documents: which properties there have to be, and of which forms the
    properties are. -/
def documentRules (required : List String) (forms : List (String × Form)) : Schema :=
  .all [
    .members (forms.map fun entry => (entry.1, entry.2.rules)) [] none,
    .assert "required" (.required required), Form.kindRule .object]

/-- A kind of records that are read from documents with a bundled schema. -/
class Documented (R : Type) where
  /-- The file of the schema. -/
  file : String
  /-- The schema, with the shared parts in place. -/
  schema : Value
  required : List String
  forms : List (String × Form)

/-- A map of properties of their forms, with those that have to be there. -/
def IsDocument (R : Type) [Documented R] (v : Value) : Prop :=
  ∃ fields, v = .object fields ∧
    (∀ entry ∈ fields, ∃ form,
      (Documented.forms R).lookup entry.1 = some form ∧ form.Admits entry.2) ∧
    ∀ name ∈ Documented.required R, ∃ v, Fields.get? name fields = some v

namespace Documented

instance : Documented ApplicationRecord where
  file := Bundled.applicationFile
  schema := Bundled.application .whole
  required := ["name"]
  forms := [("description", .text), ("hooks", .texts), ("host", .text), ("meta", .metadata),
    ("name", .someText), ("parameters", .parameters)]

instance : Documented RouteRecord where
  file := Bundled.routeFile
  schema := Bundled.route .whole
  required := ["name", "method", "path"]
  forms := [("description", .text), ("hooks", .texts), ("meta", .metadata), ("method", .method),
    ("name", .someText), ("parameters", .parameters), ("path", .path), ("scenarios", .texts)]

instance : Documented ScenarioRecord where
  file := Bundled.scenarioFile
  schema := Bundled.scenario .whole
  required := ["name"]
  forms := [("body", .any), ("description", .text), ("expected_status", .status),
    ("hooks", .texts), ("meta", .metadata), ("name", .someText), ("parameters", .parameters)]

/-! ## What the schemas say -/

/-- The rules of a kind. -/
def rules (R : Type) [Documented R] : Schema := documentRules (required R) (forms R)

/-- What opens the files of the schema directory. -/
def resolver : Resolver :=
  ⟨.ofDocuments (Bundled.files.map fun file => (⟨file.1⟩, file.2)), id, Reference.defaultDepth⟩

/-- The schema of a kind, read on its own. -/
def root (R : Type) [Documented R] : Schema :=
  .ofValue (Registry.contextOf .draft7 defaultBase ⟨[], none⟩ (schema R)) "schema" (schema R)

/-- Whether the schema of a kind is well formed and neither gives itself an identifier nor refers to
    anything. -/
def standsAlone (R : Type) [Documented R] : Bool :=
  (Resource.mk .draft7 (schema R)).identifier?.isNone &&
    (Registry.empty.including defaultBase ⟨.draft7, schema R⟩).toOption.any (·.mentioned.isEmpty) &&
    (Linked.ofSchemas.violations (schema R)).isEmpty && (root R).looseEnds.isEmpty

/-- Whether the schema of a kind is what its file stands for, whether it stands alone and reads as
    the rules of the kind, and whether it declares the properties of the kind. -/
def agrees (R : Type) [Documented R] : Bool :=
  (resolver.resolveFile ⟨file R⟩).toOption.any (schema R).agrees &&
    standsAlone R && (rules R).agrees (root R) &&
    declaredProperties (schema R) == (forms R).map Prod.fst

theorem resolves_all :
    (resolver.resolveFile ⟨file ApplicationRecord⟩).toOption.any (schema ApplicationRecord).agrees
      = true ∧
    (resolver.resolveFile ⟨file RouteRecord⟩).toOption.any (schema RouteRecord).agrees = true ∧
    (resolver.resolveFile ⟨file ScenarioRecord⟩).toOption.any (schema ScenarioRecord).agrees
      = true := by
  decide +kernel

/-- All three are evaluated at once: with each comes the schema of schemas. -/
theorem standsAlone_all : standsAlone ApplicationRecord = true ∧ standsAlone RouteRecord = true ∧
    standsAlone ScenarioRecord = true := by
  decide +kernel

theorem agrees_of {R : Type} [Documented R]
    (hresolves : (resolver.resolveFile ⟨file R⟩).toOption.any (schema R).agrees = true)
    (hstandsAlone : standsAlone R = true) (hrules : (rules R).agrees (root R) = true)
    (hproperties : (declaredProperties (schema R) == (forms R).map Prod.fst) = true) :
    agrees R = true := by
  rw [agrees, hresolves, hstandsAlone, hrules, hproperties]
  rfl

/-- Kinds whose schema says what is stated of it. -/
class IsBundled (R : Type) [Documented R] : Prop where
  agrees : agrees R = true

instance : IsBundled ApplicationRecord :=
  ⟨agrees_of resolves_all.1 standsAlone_all.1 (by decide +kernel) (by decide +kernel)⟩

instance : IsBundled RouteRecord :=
  ⟨agrees_of resolves_all.2.1 standsAlone_all.2.1 (by decide +kernel) (by decide +kernel)⟩

instance : IsBundled ScenarioRecord :=
  ⟨agrees_of resolves_all.2.2 standsAlone_all.2.2 (by decide +kernel) (by decide +kernel)⟩

theorem eq_ok_of_any {ε α : Type} {x : Except ε α} {p : α → Bool}
    (h : x.toOption.any p = true) : ∃ a, x = .ok a ∧ p a = true := by
  cases x with
  | error e => cases h
  | ok a => exact ⟨a, rfl, h⟩

section IsBundled

variable (R : Type) [Documented R] [IsBundled R]

theorem resolveFile_eq : resolver.resolveFile ⟨file R⟩ = .ok (schema R) := by
  have h := IsBundled.agrees (R := R)
  simp only [agrees, Bool.and_eq_true] at h
  obtain ⟨v, hv, hagrees⟩ := eq_ok_of_any h.1.1.1
  rw [hv, Value.eq_of_agrees hagrees]

theorem linked_eq : Linked.ofValue (schema R) = .ok ⟨rules R, []⟩ := by
  have h := IsBundled.agrees (R := R)
  simp only [agrees, standsAlone, Bool.and_eq_true, List.isEmpty_iff, Option.isNone_iff_eq_none]
    at h
  obtain ⟨⟨⟨-, ⟨⟨hidentifier, hmentioned⟩, hformed⟩, hends⟩, hrules⟩, -⟩ := h
  obtain ⟨intake, hintake, hmentioned⟩ := eq_ok_of_any hmentioned
  rw [Schema.eq_of_agrees hrules]
  exact Linked.ofValue_eq_ok hidentifier hintake (List.isEmpty_iff.1 hmentioned) hformed hends

theorem declaredProperties_eq : declaredProperties (schema R) = (forms R).map Prod.fst := by
  have h := IsBundled.agrees (R := R)
  simp only [agrees, Bool.and_eq_true, beq_iff_eq] at h
  exact h.2

end IsBundled

/-! ## What the rules admit -/

theorem lookup_map_snd {α β : Type} (entries : List (String × α)) (f : α → β) (key : String) :
    (entries.map fun entry => (entry.1, f entry.2)).lookup key = (entries.lookup key).map f := by
  induction entries with
  | nil => rfl
  | cons entry rest ih =>
    rw [List.map_cons, List.lookup_cons, List.lookup_cons, ih]
    cases key == entry.1 <;> rfl

theorem rules_eq_nil_iff {R : Type} [Documented R] {follow : Follow} {place : List String}
    {v : Value} : (rules R).violations follow place v = [] ↔ IsDocument R v := by
  simp only [rules, documentRules, all_eq_nil_iff, List.forall_mem_cons, Form.kindRule_eq_nil_iff]
  cases v with
  | object fields =>
    simp only [members_eq_nil_iff, required_eq_nil_iff, lookup_map_snd, IsDocument]
    simp [Kind.admits, Form.rules_eq_nil_iff]
  | _ => simp [Kind.admits, IsDocument]

/-- What a new store gives for the schema of a kind. -/
def stored (R : Type) [Documented R] : Except LoadError StoredSchema :=
  ((SchemaStore.new ⟨""⟩).request resolver ⟨file R⟩).1

theorem stored_eq (R : Type) [Documented R] [IsBundled R] :
    stored R = .ok ⟨schema R, ⟨rules R, []⟩⟩ := by
  have hnone : (SchemaStore.new ⟨""⟩).get? ⟨file R⟩ = none := rfl
  simp only [stored, SchemaStore.request, hnone, resolveFile_eq, StoredSchema.ofValue, linked_eq]

/-- The schema of a kind can be used, and accepts the documents of the kind. -/
theorem exists_stored (R : Type) [Documented R] [IsBundled R] :
    ∃ stored, Documented.stored R = .ok stored ∧ stored.tree = schema R ∧
      ∀ d source, stored.check d source = .ok () ↔ IsDocument R d := by
  refine ⟨⟨schema R, ⟨rules R, []⟩⟩, stored_eq R, rfl, fun d source => ?_⟩
  have hiff : (Linked.mk (rules R) []).violations d = [] ↔ IsDocument R d := rules_eq_nil_iff
  rw [← hiff, StoredSchema.check]
  cases (Linked.mk (rules R) []).violations d <;> simp

end Documented

end ScenarioTree
