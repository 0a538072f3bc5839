import ScenarioTree.Proofs.Reference.Expansion

/-!
# Maps of documents that are put together

The entries of a map ascend by key, each key once. This is so in every document that a source gives,
and it stays so when documents are put in the place of markers, since no map gets another key.

Results:

* `Reference.Expansion.ascends`: the maps of an expansion ascend.
* `Resolver.ascends_of_resolveFile`: the maps of a resolved file ascend.
-/

namespace ScenarioTree

/-! ## Definitions -/

/-- The entries of all maps of a tree ascend. -/
def Value.Ascends (v : Value) : Prop :=
  ∀ fields, Reference.Part (.object fields) v → Fields.Sorted fields

/-- The entries of all maps of all documents of a source ascend. -/
def Source.Ascends (source : Source) : Prop :=
  ∀ path document, source.load path = .ok document → document.Ascends

/-! ## Trees -/

theorem Value.ascends_object {fields : Fields} : Ascends (.object fields) ↔
    Fields.Sorted fields ∧ ∀ entry ∈ fields, Ascends entry.2 := Reference.forall_part_object

theorem Value.ascends_array {items : List Value} :
    Ascends (.array items) ↔ ∀ v ∈ items, Ascends v := Reference.forall_part_array

theorem Value.ascends_of_isScalar {v : Value} (h : Reference.IsScalar v) : v.Ascends :=
  fun fields hpart => absurd hpart (Reference.not_part_of_isScalar h fields)

theorem Value.ascends_ofEntries {entries : List (String × Value)}
    (h : ∀ entry ∈ entries, entry.2.Ascends) : (ofEntries entries).Ascends :=
  ascends_object.2 ⟨Fields.sorted_ofList entries, fun entry hentry =>
    h entry (Fields.mem_of_mem_ofList hentry)⟩

/-- A source of ready documents. -/
theorem Source.ascends_ofDocuments {documents : List (Path × Value)}
    (h : ∀ entry ∈ documents, entry.2.Ascends) : (ofDocuments documents).Ascends := by
  intro path document hload
  simp only [ofDocuments] at hload
  split at hload
  · rename_i found document' hfind
    cases hload
    exact h _ (List.mem_reverse.1 (List.mem_of_find?_eq_some hfind))
  · cases hload

namespace Reference

/-! ## Expansions -/

theorem ExpansionOfFields.keys_eq {source : Source} {directory : Path} {fields fields' : Fields}
    (h : ExpansionOfFields source directory fields fields') :
    Fields.keys fields' = Fields.keys fields := by
  induction fields generalizing fields' with
  | nil =>
    cases h
    rfl
  | cons entry rest ih =>
    cases h with
    | cons _ hrest => exact congrArg (List.cons _) (ih hrest)

variable {source : Source}

mutual

/-- The values under the keys may be others, but the keys are those of a document. -/
theorem Expansion.ascends (h : source.Ascends) : ∀ {directory : Path} {tree v : Value},
    Expansion source directory tree v → tree.Ascends → v.Ascends
  | _, _, _, .scalar hscalar, _ => Value.ascends_of_isScalar hscalar
  | _, _, _, .marker _ hload hv, _ => hv.ascends h (h _ _ hload)
  | _, _, _, .object _ hfields, htree => by
    obtain ⟨hsorted, hentries⟩ := Value.ascends_object.1 htree
    refine Value.ascends_object.2 ⟨?_, hfields.ascends h hentries⟩
    rwa [Fields.Sorted, hfields.keys_eq]
  | _, _, _, .array hitems, htree =>
    Value.ascends_array.2 (hitems.ascends h (Value.ascends_array.1 htree))

theorem ExpansionOfFields.ascends (h : source.Ascends) :
    ∀ {directory : Path} {fields fields' : List (String × Value)},
      ExpansionOfFields source directory fields fields' →
      (∀ entry ∈ fields, entry.2.Ascends) → ∀ entry ∈ fields', entry.2.Ascends
  | _, _, _, .nil, _ => nofun
  | _, _, _, .cons hv hrest, hfields => by
    rw [List.forall_mem_cons] at hfields ⊢
    exact ⟨hv.ascends h hfields.1, hrest.ascends h hfields.2⟩

theorem ExpansionOfItems.ascends (h : source.Ascends) :
    ∀ {directory : Path} {items items' : List Value},
      ExpansionOfItems source directory items items' →
      (∀ v ∈ items, v.Ascends) → ∀ v ∈ items', v.Ascends
  | _, _, _, .nil, _ => nofun
  | _, _, _, .cons hv hrest, hitems => by
    rw [List.forall_mem_cons] at hitems ⊢
    exact ⟨hv.ascends h hitems.1, hrest.ascends h hitems.2⟩

end

end Reference

theorem Resolver.ascends_of_resolveFile {resolver : Resolver} (h : resolver.source.Ascends)
    {path : Path} {v : Value} (hv : resolver.resolveFile path = .ok v) : v.Ascends := by
  obtain ⟨document, hload, hexpansion⟩ := resolver.denotes_of_openFile hv
  exact hexpansion.ascends h (h path document hload)

end ScenarioTree
