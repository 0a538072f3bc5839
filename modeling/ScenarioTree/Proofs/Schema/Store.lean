import ScenarioTree.Proofs.Path.Steps
import ScenarioTree.Schema.Store

/-!
# Requests to a store

A store answers with what it keeps for a path, or else with what the file says. A request that reads
a file keeps what the file said, so the answer to the same request stays what it was; and it keeps
it for that path only, so the answers for the other files of the directory stay too.

Results:

* `Resolver.schemaAt_eq_ok_iff`: when a file stands for a schema.
* `StoredSchema.check_eq_ok_iff`, `StoredSchema.check_eq_error_iff`: what a check comes to.
* `SchemaStore.request_cases`: what a request can do.
* `SchemaStore.get?_keep`: what is kept.
* `SchemaStore.Gives.request`: a request for a file of the directory changes no answer.
-/

namespace ScenarioTree

/-- The schema that a file stands for. -/
def Resolver.schemaAt (resolver : Resolver) (path : Path) : Except LoadError StoredSchema :=
  match resolver.resolveFile path with
  | .error error => .error (.ofFile error)
  | .ok tree => StoredSchema.ofValue tree path

/-! ## Schemas of files -/

theorem StoredSchema.ofValue_eq_ok_iff {schema : StoredSchema} {tree : Value} {path : Path} :
    ofValue tree path = .ok schema ↔
      tree = schema.tree ∧ Linked.ofValue schema.tree = .ok schema.linked := by
  rw [ofValue]
  cases hlinked : Linked.ofValue tree with
  | error fault =>
    refine iff_of_false nofun ?_
    rintro ⟨rfl, h⟩
    rw [hlinked] at h
    cases h
  | ok linked =>
    constructor
    · rintro h
      cases h
      exact ⟨rfl, hlinked⟩
    · rintro ⟨rfl, h⟩
      rw [hlinked] at h
      cases h
      rfl

/-- The schema of a file has the resolved document, and is compiled from that. -/
theorem Resolver.schemaAt_eq_ok_iff {resolver : Resolver} {path : Path} {schema : StoredSchema} :
    resolver.schemaAt path = .ok schema ↔ resolver.resolveFile path = .ok schema.tree ∧
      Linked.ofValue schema.tree = .ok schema.linked := by
  rw [schemaAt]
  cases hfile : resolver.resolveFile path with
  | error error => exact iff_of_false nofun nofun
  | ok tree => rw [StoredSchema.ofValue_eq_ok_iff, Except.ok.injEq]

/-! ## Checks -/

namespace StoredSchema

variable {schema : StoredSchema} {data : Value} {path : Path}

theorem check_eq_ok_iff {u : Unit} :
    schema.check data path = .ok u ↔ schema.linked.violations data = [] := by
  rw [check]
  cases schema.linked.violations data with
  | nil => exact iff_of_true rfl rfl
  | cons first others => exact iff_of_false nofun nofun

/-- The error of a check is the first violation. -/
theorem check_eq_error_iff {error : LoadError} :
    schema.check data path = .error error ↔ ∃ first others,
      schema.linked.violations data = first :: others ∧
        error = .invalidData path first.pointer first.rule first.message := by
  rw [check]
  cases schema.linked.violations data with
  | nil => simp
  | cons first others => simp [eq_comm]

end StoredSchema

namespace SchemaStore

/-- A store that also keeps a schema for a path. -/
def keep (store : SchemaStore) (path : Path) (schema : StoredSchema) : SchemaStore :=
  { store with entries := store.entries ++ [(path, schema)] }

variable (store : SchemaStore) (resolver : Resolver) (path : Path)

/-! ## What is kept -/

theorem get?_keep (schema : StoredSchema) (other : Path) :
    (store.keep path schema).get? other =
      (store.get? other).or (if path.same other then some schema else none) := by
  rw [get?, keep, List.find?_append, Option.map_or, List.find?_singleton]
  split_ifs <;> rfl

/-! ## Requests -/

/-- What a request can do: answer with what is kept, fail and keep nothing, or read a file and keep
    what it says. -/
theorem request_cases :
    (∃ schema, store.get? path = some schema ∧
      store.request resolver path = (.ok schema, store)) ∨
    (∃ error, store.get? path = none ∧ resolver.schemaAt path = .error error ∧
      store.request resolver path = (.error error, store)) ∨
    (∃ schema, store.get? path = none ∧ resolver.schemaAt path = .ok schema ∧
      store.request resolver path = (.ok schema, store.keep path schema)) := by
  rw [request, Resolver.schemaAt]
  cases store.get? path with
  | some schema => exact .inl ⟨schema, rfl, rfl⟩
  | none =>
    cases resolver.resolveFile path with
    | error error => exact .inr (.inl ⟨_, rfl, rfl, rfl⟩)
    | ok tree =>
      cases hlinked : StoredSchema.ofValue tree path with
      | error error => exact .inr (.inl ⟨error, rfl, hlinked, by simp only [hlinked]⟩)
      | ok schema => exact .inr (.inr ⟨schema, rfl, hlinked, by simp only [hlinked, keep]⟩)

/-- The answer to a request, whatever becomes of the store. -/
theorem request_fst :
    (store.request resolver path).1 =
      match store.get? path with
      | some schema => .ok schema
      | none => resolver.schemaAt path := by
  obtain ⟨schema, hkept, h⟩ | ⟨error, hkept, hfile, h⟩ | ⟨schema, hkept, hfile, h⟩ :=
    store.request_cases resolver path
  · simp only [h, hkept]
  · simp only [h, hkept, hfile]
  · simp only [h, hkept, hfile]

theorem directory_request : (store.request resolver path).2.directory = store.directory := by
  obtain ⟨schema, -, h⟩ | ⟨error, -, -, h⟩ | ⟨schema, -, -, h⟩ :=
    store.request_cases resolver path
  · rw [h]
  · rw [h]
  · rw [h, keep]

theorem request_request_self :
    ((store.request resolver path).2.request resolver path).1 =
      (store.request resolver path).1 := by
  obtain ⟨schema, -, h⟩ | ⟨error, -, -, h⟩ | ⟨schema, hkept, hfile, h⟩ :=
    store.request_cases resolver path
  · rw [h, h]
  · rw [h, h]
  · -- Nothing was kept for the path, so what is found there now is what has just been read.
    have hself : path.same path = true := beq_self_eq_true _
    rw [h, request_fst, get?_keep, hkept, if_pos hself, Option.none_or]

theorem request_request_of_not_same {other : Path} (hother : path.same other = false) :
    ((store.request resolver path).2.request resolver other).1 =
      (store.request resolver other).1 := by
  obtain ⟨schema, -, h⟩ | ⟨error, -, -, h⟩ | ⟨schema, -, -, h⟩ :=
    store.request_cases resolver path
  · rw [h]
  · rw [h]
  · rw [h, request_fst, request_fst, get?_keep, hother, if_neg Bool.false_ne_true, Option.or_none]

/-! ## Files of the directory -/

/-- The schemas that a store answers with, for the files of its directory. -/
def Gives (schemas : String → Except LoadError StoredSchema) : Prop :=
  ∀ file, IsEntryName file → (store.request resolver (store.pathOf file)).1 = schemas file

variable {store resolver} {schemas : String → Except LoadError StoredSchema}

/-- A request for a file of the directory changes no answer for the directory. -/
theorem Gives.request (h : store.Gives resolver schemas) {file : String}
    (hfile : IsEntryName file) :
    (store.request resolver (store.pathOf file)).2.Gives resolver schemas := by
  intro other hother
  have hpath : (store.request resolver (store.pathOf file)).2.pathOf other = store.pathOf other :=
    congrArg (Path.child · other) (store.directory_request resolver _)
  rw [hpath, ← h other hother]
  by_cases heq : file = other
  · subst heq
    exact store.request_request_self resolver _
  · refine store.request_request_of_not_same resolver _ (Bool.eq_false_iff.2 fun hsame => heq ?_)
    exact (Path.same_child_iff store.directory hfile hother).1 hsame

end SchemaStore

end ScenarioTree
