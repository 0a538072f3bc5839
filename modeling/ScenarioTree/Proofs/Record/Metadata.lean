import ScenarioTree.Proofs.Basic
import ScenarioTree.Record.Kinds

/-!
# Metadata of records that are read

The metadata of a record are a map of its document, or unset. So if the entries of each map of the
document ascend, as in every document that is read, those of the metadata do.

Results:

* `assignAll_induction`: what each assignment of an entry keeps, storing all of them keeps.
* `sorted_metadata_ofDocument`: the metadata of a record ascend.
-/

namespace ScenarioTree

theorem Field.assign_of_eq_ok {R α : Type} [Coded α] {name : String} {get : R → Option α}
    {set : R → Option α → R} {record record' : R} {v : Value}
    (h : (Field.of name get set).assign record v = .ok record') :
    ∃ property, decodeOptional v = .ok property ∧ set record property = record' := by
  simp only [Field.of, Except.map] at h
  split at h
  · cases h
  · rename_i property hproperty
    cases h
    exact ⟨property, hproperty, rfl⟩

namespace Record

/-- Kinds of records with one property for the metadata, which the others leave alone. -/
class HasMetadata (R : Type) [Record R] : Prop where
  metadata_unset : (sections (unset : R)).metadata = none
  metadata_assign : ∀ field ∈ fields (R := R), ∀ (record record' : R) (v : Value),
    field.assign record v = .ok record' →
      (sections record').metadata = (sections record).metadata ∨
        decodeOptional v = .ok (sections record').metadata

instance : HasMetadata ApplicationRecord where
  metadata_unset := rfl
  metadata_assign field hfield record record' v h := by
    simp only [fields, List.mem_cons, List.not_mem_nil, or_false] at hfield
    rcases hfield with rfl | rfl | rfl | rfl | rfl | rfl <;>
      obtain ⟨property, hproperty, rfl⟩ := Field.assign_of_eq_ok h <;>
      first | exact .inl rfl | exact .inr hproperty

instance : HasMetadata RouteRecord where
  metadata_unset := rfl
  metadata_assign field hfield record record' v h := by
    simp only [fields, List.mem_cons, List.not_mem_nil, or_false] at hfield
    rcases hfield with rfl | rfl | rfl | rfl | rfl | rfl | rfl | rfl <;>
      obtain ⟨property, hproperty, rfl⟩ := Field.assign_of_eq_ok h <;>
      first | exact .inl rfl | exact .inr hproperty

instance : HasMetadata ScenarioRecord where
  metadata_unset := rfl
  metadata_assign field hfield record record' v h := by
    simp only [fields, List.mem_cons, List.not_mem_nil, or_false] at hfield
    rcases hfield with rfl | rfl | rfl | rfl | rfl | rfl | rfl <;>
      obtain ⟨property, hproperty, rfl⟩ := Field.assign_of_eq_ok h <;>
      first | exact .inl rfl | exact .inr hproperty

variable {R : Type} [Record R]

theorem assignAll_induction {P : R → Prop} {source : Path} {declared : List String}
    {entries : List (String × Value)}
    (hassign : ∀ entry ∈ entries, ∀ record record' : R, P record →
      assign record entry.1 entry.2 = .ok record' → P record')
    {record record' : R} (h : P record)
    (hrecord : assignAll source declared record entries = .ok record') : P record' := by
  induction entries generalizing record with
  | nil =>
    cases hrecord
    exact h
  | cons entry rest ih =>
    obtain ⟨key, v⟩ := entry
    have hrest (next : R) (hnext : P next) :
        assignAll source declared next rest = .ok record' → P record' :=
      ih (fun entry hentry => hassign entry (List.mem_cons_of_mem _ hentry)) hnext
    rw [assignAll] at hrecord
    split_ifs at hrecord with hdeclared
    · split at hrecord
      · rename_i next hnext
        exact hrest next (hassign _ List.mem_cons_self _ _ h hnext) hrecord
      · cases hrecord
    · exact hrest record h hrecord

theorem metadata_assign [HasMetadata R] {key : String} {v : Value} {record record' : R}
    (h : assign record key v = .ok record') :
    (sections record').metadata = (sections record).metadata ∨
      decodeOptional v = .ok (sections record').metadata := by
  unfold assign at h
  split at h
  · rename_i field hfield
    exact HasMetadata.metadata_assign field (List.mem_of_find?_eq_some hfield) record record' v h
  · cases h
    exact .inl rfl

/-- Metadata that are read are a map of the document. -/
theorem eq_object_of_decodeOptional {v : Value} {metadata : Fields}
    (h : decodeOptional v = .ok (some metadata)) : v = .object metadata := by
  cases v <;> simp_all [decodeOptional, Value.isNull, decode, Coded.decode, decodeFields, Except.map]

/-- If the entries of the maps of a document ascend, those of the metadata of its record do. -/
theorem sorted_metadata_ofDocument [HasMetadata R] {schema : Value} {source : Path}
    {entries : List (String × Value)} {record : R}
    (hsorted : ∀ entry ∈ entries, ∀ inner, entry.2 = .object inner → Fields.Sorted inner)
    (h : ofDocument schema (.object entries) source = .ok record) :
    Fields.Sorted ((sections record).metadata.getD []) := by
  simp only [ofDocument] at h
  split at h
  · cases h
  · refine assignAll_induction (P := fun record => Fields.Sorted ((sections record).metadata.getD []))
      (fun entry hentry record record' hrecord hassign => ?_) ?_ h
    · rcases metadata_assign hassign with hmetadata | hmetadata
      · rw [hmetadata]
        exact hrecord
      · cases hsections : (sections record').metadata with
        | none => exact List.Pairwise.nil
        | some metadata =>
          rw [hsections] at hmetadata
          exact hsorted entry hentry metadata (eq_object_of_decodeOptional hmetadata)
    · rw [HasMetadata.metadata_unset]
      exact List.Pairwise.nil

end Record

end ScenarioTree
