import ScenarioTree.Proofs.Cascade.Restored
import ScenarioTree.Tag.TagSet

/-!
# Tags of a cascade

The tags of a record are the strings of the list that its metadata keep under `tags`. The schemas let
nothing but a list of strings stand there, so child and parent never disagree on it: whether it is
copied or joined, a child has its own tags and those of its parent, and no others.

Results:

* `TagSet.contains_ofMeta`: a set of tags has the tags that the metadata list.
* `Cascade.mem_listed_mergeMeta`: what a merge of metadata lists.
* `Record.mem_tags_inherit`: the tags of a record with what it inherits.
* `Record.tags_ofDocument`: the tags of a record that is read are those that its document lists.
-/

namespace ScenarioTree

/-! ## Listed tags -/

/-- The tags that metadata list. -/
def TagSet.listed (metadata : Fields) : List String :=
  match Fields.get? metaKey metadata with
  | some (.array items) => items.filterMap Value.asString?
  | _ => []

/-- The tags that a document lists under `meta`. -/
def Value.listedTags (document : Value) : List String :=
  TagSet.listed (((document.get? "meta").bind asObject?).getD [])

theorem Value.asString?_eq_some_iff {v : Value} {text : String} :
    v.asString? = some text ↔ v = .string text := by
  cases v <;> simp [asString?]

namespace TagSet

variable {metadata : Fields} {tag : String}

theorem mem_listed_iff : tag ∈ listed metadata ↔
    ∃ items, Fields.get? metaKey metadata = some (.array items) ∧ .string tag ∈ items := by
  rw [listed]
  split
  · rename_i items htags
    simp [htags, List.mem_filterMap, Value.asString?_eq_some_iff]
  · rename_i hother
    simp only [List.not_mem_nil, false_iff, not_exists, not_and]
    exact fun items htags => absurd htags (hother items)

theorem contains_ofMeta (metadata : Option Fields) (tag : String) :
    (ofMeta metadata).contains tag = (listed (metadata.getD [])).contains tag := by
  have hofMeta : ofMeta metadata = ofList (listed (metadata.getD [])) := by
    cases metadata with
    | none => rfl
    | some fields =>
      rw [ofMeta, Option.bind_some, Option.getD_some, listed]
      cases Fields.get? metaKey fields with
      | none => rfl
      | some v => cases v <;> rfl
  rw [hofMeta, contains_ofList]

end TagSet

/-! ## Merges -/

namespace Cascade

open TagSet (listed mem_listed_iff)

variable {tag : String}

theorem covers_string_iff {items : List Value} :
    Covers Value.same items (.string tag) ↔ .string tag ∈ items := by
  constructor
  · rintro ⟨v, hv, hsame⟩
    obtain rfl : v = .string tag := by
      cases v <;> simp_all [Value.same]
    exact hv
  · exact fun h => ⟨_, h, Value.same_refl _⟩

/-- Joining lists keeps the strings of both. -/
theorem string_mem_union {own inherited : List Value} :
    .string tag ∈ union own inherited ↔ .string tag ∈ own ∨ .string tag ∈ inherited := by
  have hcovers : Covers Value.same (union own inherited ++ []) (.string tag) ↔
      Covers Value.same ((own ++ inherited) ++ []) (.string tag) :=
    covers_unseen_append equivalence_same
  rwa [List.append_nil, List.append_nil, covers_string_iff, covers_string_iff,
    List.mem_append] at hcovers

/-- The tags that are handed down with metadata are added to those of the child. -/
theorem mem_listed_mergeMeta {own inherited : Fields} (hown : Form.metadata.Keeps own)
    (hinherited : Form.metadata.Keeps inherited) (hsorted : Fields.Sorted inherited) :
    tag ∈ listed (mergeMeta own inherited) ↔ tag ∈ listed own ∨ tag ∈ listed inherited := by
  rw [metadata_keeps_iff] at hown hinherited
  simp only [mem_listed_iff, get?_mergeMeta hsorted]
  cases hparent : Fields.get? TagSet.metaKey inherited with
  | none => simp
  | some v =>
    obtain ⟨others, rfl, -⟩ := hinherited v hparent
    cases hchild : Fields.get? TagSet.metaKey own with
    | none => simp [handDown]
    | some w =>
      obtain ⟨items, rfl, -⟩ := hown w hchild
      simp [handDown, string_mem_union]

end Cascade

/-! ## Records -/

namespace Record

variable {R P : Type} [Record R] [Documented R] [Sectioned R]

/-- The tags of a record. -/
def tags (r : R) : List String := TagSet.listed ((sections r).metadata.getD [])

theorem keeps_getD_metadata {r : R} (h : Keeps r) :
    Form.metadata.Keeps ((sections r).metadata.getD []) := by
  cases hmetadata : (sections r).metadata with
  | none => exact metadata_keeps_iff.2 (by simp [Fields.get?])
  | some fields => exact (isKept_sections h).metadata fields hmetadata

/-- A record has its own tags and those that it inherits. -/
theorem mem_tags_inherit [Record P] [Documented P] [Sectioned P] {child : R} {parent : P}
    (hchild : Restorable child) (hparent : Restorable parent) {tag : String} :
    tag ∈ tags (Cascade.inherit child parent) ↔ tag ∈ tags child ∨ tag ∈ tags parent := by
  rw [tags, Cascade.inherit, Sectioned.sections_withSections, Cascade.inheritSections,
    Cascade.getD_inheritSection fun _ => rfl]
  exact Cascade.mem_listed_mergeMeta (keeps_getD_metadata hchild.keeps)
    (keeps_getD_metadata hparent.keeps) hparent.sorted

/-- A record that is read has the tags that its document lists. -/
theorem tags_ofDocument [Lawful R] [Documented.IsBundled R] [HasMetadata R] {d : Value}
    {source : Path} {r : R} (hd : IsDocument R d) (hsorted : ∀ fields, d = .object fields → Fields.Sorted fields)
    (h : ofDocument (Documented.schema R) d source = .ok r) : tags r = d.listedTags := by
  rw [tags, metadata_ofDocument hd hsorted h, Value.listedTags]

end Record

end ScenarioTree
