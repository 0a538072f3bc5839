import ScenarioTree.Proofs.Cascade.Metadata
import ScenarioTree.Proofs.Record.Metadata
import ScenarioTree.Proofs.Record.Sections

/-!
# Documents of a cascade

A record with all that it inherits can be written as a document of its kind, though no such document
was there: the schema accepts it, and it makes the same record. The reason is that what a merge gives
comes from the child or from the parent, item by item, and the schema asks the same of the sections of
all kinds.

Results:

* `Cascade.keeps_mergeParameters`, `Cascade.keeps_mergeMeta`, `Cascade.keeps_mergeHooks`: what the
  merges keep.
* `Record.Restorable.inherit`: a record that can be restored can be restored with what it inherits.
* `Record.makes_cascade`: the three records of a cascade from an application to a scenario.
-/

namespace ScenarioTree

namespace Cascade

/-! ## Merges -/

theorem isKept_mergeList {own inherited : List Parameter} (hown : ∀ p ∈ own, p.IsKept)
    (hinherited : ∀ p ∈ inherited, p.IsKept) : ∀ p ∈ mergeList own inherited, p.IsKept :=
  fun p hp => (mem_of_mem_appendUnseen hp).elim (hown p) (hinherited p)

theorem keeps_mergeParameters {own inherited : Parameters} (hown : Form.parameters.Keeps own)
    (hinherited : Form.parameters.Keeps inherited) :
    Form.parameters.Keeps (mergeParameters own inherited) := by
  rw [Parameters.keeps_iff] at hown hinherited ⊢
  exact ⟨isKept_mergeList hown.1 hinherited.1, isKept_mergeList hown.2.1 hinherited.2.1,
    isKept_mergeList hown.2.2 hinherited.2.2⟩

theorem keeps_mergeHooks {own inherited : List String} (hown : Form.texts.Keeps own)
    (hinherited : Form.texts.Keeps inherited) : Form.texts.Keeps (mergeHooks own inherited) := by
  rw [texts_keeps_iff] at hown hinherited ⊢
  exact fun s hs => (mem_of_mem_appendUnseen hs).elim (hown s) (hinherited s)

theorem isTexts_handDown {own : Option Value} {inherited : Value}
    (hown : ∀ v, own = some v → v.IsTexts) (hinherited : inherited.IsTexts) :
    (handDown own inherited).IsTexts := by
  cases own with
  | none => exact hinherited
  | some v =>
    obtain ⟨items, rfl, hitems⟩ := hown v rfl
    obtain ⟨others, rfl, hothers⟩ := hinherited
    refine ⟨union items others, rfl, fun item hitem => ?_⟩
    exact (List.mem_append.1 ((unseen_sublist [] _).subset hitem)).elim (hitems item) (hothers item)

/-- Tags are the only metadata that the schemas ask anything of. -/
theorem keeps_mergeMeta {own inherited : Fields} (hown : Form.metadata.Keeps own)
    (hinherited : Form.metadata.Keeps inherited) (hsorted : Fields.Sorted inherited) :
    Form.metadata.Keeps (mergeMeta own inherited) := by
  rw [metadata_keeps_iff] at hown hinherited ⊢
  intro tags htags
  rw [get?_mergeMeta hsorted] at htags
  cases hparent : Fields.get? "tags" inherited with
  | none =>
    rw [hparent] at htags
    exact hown tags htags
  | some v =>
    rw [hparent] at htags
    cases htags
    exact isTexts_handDown hown (hinherited v hparent)

/-! ## Sections -/

/-- What holds of an empty section and is kept by merges, holds of the section of a child. -/
theorem forall_inheritSection {α : Type} {merge : α → α → α} {empty : α} {P Q : α → Prop}
    (hempty : P empty) (hmerge : ∀ own inherited, P own → Q inherited → P (merge own inherited))
    {child parent : Option α} (hchild : ∀ x, child = some x → P x)
    (hparent : ∀ x, parent = some x → Q x) :
    ∀ x, inheritSection merge empty child parent = some x → P x := by
  cases parent with
  | none => exact hchild
  | some inherited =>
    rintro x ⟨⟩
    refine hmerge _ _ ?_ (hparent inherited rfl)
    cases child with
    | none => exact hempty
    | some own => exact hchild own rfl

theorem isKept_inheritSections {child parent : Sections} (hchild : child.IsKept)
    (hparent : parent.IsKept) (hsorted : Fields.Sorted (parent.metadata.getD [])) :
    (inheritSections child parent).IsKept where
  parameters := forall_inheritSection (Parameters.keeps_iff.2 (by simp [Parameters.empty]))
    (fun _ _ => keeps_mergeParameters) hchild.parameters hparent.parameters
  metadata := by
    refine forall_inheritSection (Q := fun x => Form.metadata.Keeps x ∧ Fields.Sorted x)
      (metadata_keeps_iff.2 (by simp [Fields.get?]))
      (fun _ _ hown hinherited => keeps_mergeMeta hown hinherited.1 hinherited.2) hchild.metadata
      fun x hx => ⟨hparent.metadata x hx, ?_⟩
    rwa [hx] at hsorted
  hooks := forall_inheritSection (texts_keeps_iff.2 (by simp))
    (fun _ _ => keeps_mergeHooks) hchild.hooks hparent.hooks

end Cascade

/-! ## Records -/

/-- The entries of the maps that a map holds ascend, as in every document that is read. -/
def Value.HoldsSorted (v : Value) : Prop :=
  ∀ entries, v = .object entries → ∀ entry ∈ entries, ∀ inner, entry.2 = .object inner →
    Fields.Sorted inner

namespace Record

open Documented (forms required)

/-- A document passes the check of a schema, and makes a record. -/
def Makes {R : Type} [Record R] (schema : StoredSchema) (source : Path) (d : Value) (r : R) : Prop :=
  schema.check d source = .ok () ∧ ofDocument schema.tree d source = .ok r

theorem makes_iff {R : Type} [Record R] [Documented R] [Documented.IsBundled R]
    {schema : StoredSchema} {source : Path} {d : Value} {r : R}
    (hschema : Documented.stored R = .ok schema) :
    Makes schema source d r ↔
      IsDocument R d ∧ ofDocument (Documented.schema R) d source = .ok r := by
  obtain ⟨schema', hschema', htree, hcheck⟩ := Documented.exists_stored R
  rw [hschema] at hschema'
  cases hschema'
  rw [Makes, hcheck, htree]

section Restorable

variable {R : Type} [Record R] [Documented R] [Lawful R]

/-- All properties can be stored again, those that there have to be are set, and the metadata
    ascend. -/
structure Restorable (r : R) : Prop where
  keeps : Keeps r
  hasRequired : HasRequired r
  sorted : Fields.Sorted ((sections r).metadata.getD [])

theorem Restorable.inherit [Sectioned R] {P : Type} [Record P] [Documented P] [Lawful P]
    [Sectioned P] {child : R} {parent : P} (hchild : Restorable child)
    (hparent : Restorable parent) : Restorable (Cascade.inherit child parent) where
  keeps := keeps_withSections hchild.keeps (Cascade.isKept_inheritSections
    (isKept_sections hchild.keeps) (isKept_sections hparent.keeps) hparent.sorted)
  hasRequired := hasRequired_withSections _ hchild.hasRequired
  sorted := by
    rw [Cascade.inherit, Sectioned.sections_withSections, Cascade.inheritSections,
      Cascade.getD_inheritSection fun _ => rfl]
    exact Cascade.sorted_mergeMeta hchild.sorted _

variable [Documented.IsBundled R] {schema : StoredSchema} {source : Path} {d : Value} {r : R}

theorem restorable_of_makes [HasMetadata R] (hschema : Documented.stored R = .ok schema)
    (hsorted : d.HoldsSorted) (h : Makes schema source d r) : Restorable r := by
  obtain ⟨hd, hr⟩ := (makes_iff hschema).1 h
  obtain ⟨hkeeps, hrequired⟩ := keeps_ofDocument hd hr
  obtain ⟨entries, rfl, -⟩ := hd
  exact ⟨hkeeps, hrequired, sorted_metadata_ofDocument (hsorted entries rfl) hr⟩

/-- The document that a record is written as makes the record. -/
theorem Restorable.makes_toValue (hschema : Documented.stored R = .ok schema)
    (hr : Restorable r) : Makes schema source (toValue r) r :=
  (makes_iff hschema).2 ⟨isDocument_toValue hr.keeps hr.hasRequired, ofDocument_toValue hr.keeps⟩

end Restorable

/-! ## Cascades -/

/-- Each record of a cascade from an application over a route to a scenario, with all that it inherits,
    is written as a document that the schema of its kind accepts, and that makes the same record. -/
theorem makes_cascade :
    ∃ applicationSchema routeSchema scenarioSchema,
      Documented.stored ApplicationRecord = .ok applicationSchema ∧
      Documented.stored RouteRecord = .ok routeSchema ∧
      Documented.stored ScenarioRecord = .ok scenarioSchema ∧
      ∀ (applicationDocument routeDocument scenarioDocument : Value)
        (applicationSource routeSource scenarioSource : Path)
        (application : ApplicationRecord) (route : RouteRecord) (scenario : ScenarioRecord),
        applicationDocument.HoldsSorted → routeDocument.HoldsSorted →
        scenarioDocument.HoldsSorted →
        Makes applicationSchema applicationSource applicationDocument application →
        Makes routeSchema routeSource routeDocument route →
        Makes scenarioSchema scenarioSource scenarioDocument scenario →
        let fullRoute := Cascade.inherit route application
        let fullScenario := Cascade.inherit scenario fullRoute
        ∀ source, Makes applicationSchema source (toValue application) application ∧
          Makes routeSchema source (toValue fullRoute) fullRoute ∧
          Makes scenarioSchema source (toValue fullScenario) fullScenario := by
  obtain ⟨applicationSchema, happlicationSchema, -⟩ := Documented.exists_stored ApplicationRecord
  obtain ⟨routeSchema, hrouteSchema, -⟩ := Documented.exists_stored RouteRecord
  obtain ⟨scenarioSchema, hscenarioSchema, -⟩ := Documented.exists_stored ScenarioRecord
  refine ⟨applicationSchema, routeSchema, scenarioSchema, happlicationSchema, hrouteSchema,
    hscenarioSchema, ?_⟩
  intro _ _ _ _ _ _ application route scenario happlicationSorted hrouteSorted hscenarioSorted
    happlicationMade hrouteMade hscenarioMade fullRoute fullScenario source
  have happlication : Restorable application :=
    restorable_of_makes happlicationSchema happlicationSorted happlicationMade
  have hroute : Restorable fullRoute :=
    (restorable_of_makes hrouteSchema hrouteSorted hrouteMade).inherit happlication
  have hscenario : Restorable fullScenario :=
    (restorable_of_makes hscenarioSchema hscenarioSorted hscenarioMade).inherit hroute
  exact ⟨happlication.makes_toValue happlicationSchema, hroute.makes_toValue hrouteSchema,
    hscenario.makes_toValue hscenarioSchema⟩

/-! An application whose tags go down to the scenario. -/

def shopDocument : Value :=
  .object [("meta", .object [("tags", .array [.string "api"])]), ("name", .string "shop")]

def ordersDocument : Value :=
  .object [("method", .string "GET"), ("name", .string "orders"), ("path", .string "/orders")]

def allOrdersDocument : Value := .object [("name", .string "all orders")]

def shop : ApplicationRecord :=
  { (unset : ApplicationRecord) with
    name := some "shop", metadata := some [("tags", .array [.string "api"])] }

def orders : RouteRecord :=
  { (unset : RouteRecord) with
    name := some "orders", method := some "GET", path := some "/orders" }

def allOrders : ScenarioRecord := { (unset : ScenarioRecord) with name := some "all orders" }

theorem isDocument_shopDocument : IsDocument ApplicationRecord shopDocument := by
  refine ⟨_, rfl, ?_, ?_⟩
  · simp only [List.forall_mem_cons, List.not_mem_nil, false_imp_iff, implies_true, and_true]
    refine ⟨⟨.metadata, rfl, _, rfl, ?_⟩, .someText, rfl, _, rfl, by decide⟩
    rintro tags ⟨⟩
    exact ⟨_, rfl, List.forall_mem_singleton.2 ⟨"api", rfl, by decide⟩⟩
  · exact List.forall_mem_singleton.2 ⟨_, rfl⟩

theorem isDocument_ordersDocument : IsDocument RouteRecord ordersDocument := by
  refine ⟨_, rfl, ?_, ?_⟩
  · simp only [List.forall_mem_cons, List.not_mem_nil, false_imp_iff, implies_true, and_true]
    exact ⟨⟨.method, rfl, "GET", rfl, by decide⟩, ⟨.someText, rfl, "orders", rfl, by decide⟩,
      .path, rfl, "/orders", rfl, by decide +kernel⟩
  · simp only [required, List.forall_mem_cons, List.not_mem_nil, false_imp_iff, implies_true,
      and_true]
    exact ⟨⟨_, rfl⟩, ⟨_, rfl⟩, _, rfl⟩

theorem isDocument_allOrdersDocument : IsDocument ScenarioRecord allOrdersDocument :=
  ⟨_, rfl, List.forall_mem_singleton.2 ⟨.someText, rfl, _, rfl, by decide⟩,
    List.forall_mem_singleton.2 ⟨_, rfl⟩⟩

theorem makes_cascade_shop :
    ∃ applicationSchema routeSchema scenarioSchema,
      (∀ source, Makes applicationSchema source shopDocument shop ∧
        Makes routeSchema source ordersDocument orders ∧
        Makes scenarioSchema source allOrdersDocument allOrders) ∧
      let full := Cascade.inherit allOrders (Cascade.inherit orders shop)
      full.metadata = some [("tags", .array [.string "api"])] ∧
        ∀ source, Makes scenarioSchema source (toValue full) full := by
  obtain ⟨applicationSchema, routeSchema, scenarioSchema, happlication, hroute, hscenario, hall⟩ :=
    makes_cascade
  have hshop (source : Path) : Makes applicationSchema source shopDocument shop :=
    (makes_iff happlication).2 ⟨isDocument_shopDocument, by rw [shopDocument, ofDocument_eq]; rfl⟩
  have horders (source : Path) : Makes routeSchema source ordersDocument orders :=
    (makes_iff hroute).2 ⟨isDocument_ordersDocument, by rw [ordersDocument, ofDocument_eq]; rfl⟩
  have hallOrders (source : Path) : Makes scenarioSchema source allOrdersDocument allOrders :=
    (makes_iff hscenario).2 ⟨isDocument_allOrdersDocument, by
      rw [allOrdersDocument, ofDocument_eq]; rfl⟩
  refine ⟨applicationSchema, routeSchema, scenarioSchema,
    fun source => ⟨hshop source, horders source, hallOrders source⟩, rfl, fun source => ?_⟩
  refine (hall shopDocument ordersDocument allOrdersDocument ⟨""⟩ ⟨""⟩ ⟨""⟩ shop orders allOrders
    ?_ ?_ ?_ (hshop _) (horders _) (hallOrders _) source).2.2
  · rintro _ ⟨⟩
    simp [Fields.Sorted, Fields.keys]
  · rintro _ ⟨⟩
    simp
  · rintro _ ⟨⟩
    simp

end Record

end ScenarioTree
