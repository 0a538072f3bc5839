import ScenarioTree.Proofs.Record.Documents

/-!
# Sections of records

The three sections that records hand down are three of their properties. So a record that is kept
stays so when its sections are replaced by others that are kept, and the properties that there have to
be are none of the sections.

Results:

* `Record.keeps_section_iff`: a section is kept if it is unset or its contents are kept.
* `Record.isKept_sections`: the sections of a record that is kept are kept.
* `Record.keeps_withSections`, `Record.hasRequired_withSections`: a record with other sections.
* `Record.metadata_ofDocument`: where the metadata of a record come from.
-/

namespace ScenarioTree

/-- Each section that is set can be written in its form and read back. -/
structure Sections.IsKept (s : Sections) : Prop where
  parameters : ∀ x, s.parameters = some x → Form.parameters.Keeps x
  metadata : ∀ x, s.metadata = some x → Form.metadata.Keeps x
  hooks : ∀ x, s.hooks = some x → Form.texts.Keeps x

namespace Record

open Documented (forms required)

/-! ## Properties that are sections -/

/-- A property that is a part of the sections. -/
def sectionField {R α : Type} [Record R] [Coded α] (name : String) (get : Sections → Option α)
    (set : Sections → Option α → Sections) : Field R :=
  .of name (fun r => get (sections r)) fun r x => withSections r (set (sections r) x)

section Fields

variable {R : Type} [Record R]

def parametersField : Field R := sectionField "parameters" (·.parameters) ({ · with parameters := · })

def metadataField : Field R := sectionField "meta" (·.metadata) ({ · with metadata := · })

def hooksField : Field R := sectionField "hooks" (·.hooks) ({ · with hooks := · })

end Fields

/-- The names of the sections in documents. -/
def sectionNames : List String := ["parameters", "meta", "hooks"]

/-- A property that has nothing to do with the sections. -/
def IsOutside {R : Type} [Record R] (field : Field R) : Prop :=
  ∀ (r : R) (s : Sections), field.value? (withSections r s) = field.value? r ∧
    ∀ v, field.assign r v = .ok r → field.assign (withSections r s) v = .ok (withSections r s)

theorem isOutside_of {R α : Type} [Record R] [Coded α] {name : String} {get : R → Option α}
    {set : R → Option α → R} (hget : ∀ r s, get (withSections r s) = get r)
    (hset : ∀ r s x, set (withSections r s) x = withSections (set r x) s) :
    IsOutside (.of name get set) := by
  refine fun r s => ⟨by simp only [Field.of, hget], fun v h => ?_⟩
  obtain ⟨property, hproperty, hr⟩ := Field.assign_of_eq_ok h
  simp only [Field.of, hproperty, Except.map, hset, hr]

/-- Records with a property for each section, which has the form of the section. -/
class Sectioned (R : Type) [Record R] [Documented R] : Prop where
  sections_withSections : ∀ (r : R) (s : Sections), sections (withSections r s) = s
  withSections_sections : ∀ r : R, withSections r (sections r) = r
  mem_parameters : parametersField ∈ fields (R := R)
  mem_metadata : metadataField ∈ fields (R := R)
  mem_hooks : hooksField ∈ fields (R := R)
  lookup_parameters : (forms R).lookup "parameters" = some .parameters
  lookup_metadata : (forms R).lookup "meta" = some .metadata
  lookup_hooks : (forms R).lookup "hooks" = some .texts
  outside : ∀ field ∈ fields (R := R), field.name ∉ sectionNames → IsOutside field
  required : ∀ name ∈ required R, name ∉ sectionNames

/-! ## The three kinds -/

instance : Sectioned ApplicationRecord where
  sections_withSections _ _ := rfl
  withSections_sections _ := rfl
  mem_parameters := List.mem_of_getElem? (i := 3) rfl
  mem_metadata := List.mem_of_getElem? (i := 4) rfl
  mem_hooks := List.mem_of_getElem? (i := 5) rfl
  lookup_parameters := rfl
  lookup_metadata := rfl
  lookup_hooks := rfl
  outside field hfield hname := by
    simp only [fields, List.mem_cons, List.not_mem_nil, or_false] at hfield
    rcases hfield with rfl | rfl | rfl | rfl | rfl | rfl <;>
      first
      | exact isOutside_of (fun _ _ => rfl) (fun _ _ _ => rfl)
      | exact absurd (by decide) hname
  required := by decide

instance : Sectioned RouteRecord where
  sections_withSections _ _ := rfl
  withSections_sections _ := rfl
  mem_parameters := List.mem_of_getElem? (i := 4) rfl
  mem_metadata := List.mem_of_getElem? (i := 5) rfl
  mem_hooks := List.mem_of_getElem? (i := 6) rfl
  lookup_parameters := rfl
  lookup_metadata := rfl
  lookup_hooks := rfl
  outside field hfield hname := by
    simp only [fields, List.mem_cons, List.not_mem_nil, or_false] at hfield
    rcases hfield with rfl | rfl | rfl | rfl | rfl | rfl | rfl | rfl <;>
      first
      | exact isOutside_of (fun _ _ => rfl) (fun _ _ _ => rfl)
      | exact absurd (by decide) hname
  required := by decide

instance : Sectioned ScenarioRecord where
  sections_withSections _ _ := rfl
  withSections_sections _ := rfl
  mem_parameters := List.mem_of_getElem? (i := 2) rfl
  mem_metadata := List.mem_of_getElem? (i := 3) rfl
  mem_hooks := List.mem_of_getElem? (i := 4) rfl
  lookup_parameters := rfl
  lookup_metadata := rfl
  lookup_hooks := rfl
  outside field hfield hname := by
    simp only [fields, List.mem_cons, List.not_mem_nil, or_false] at hfield
    rcases hfield with rfl | rfl | rfl | rfl | rfl | rfl | rfl <;>
      first
      | exact isOutside_of (fun _ _ => rfl) (fun _ _ _ => rfl)
      | exact absurd (by decide) hname
  required := by decide

/-! ## Records with other sections -/

theorem keeps_section_iff {R α : Type} [Record R] [Documented R] [Sectioned R] [Coded α]
    {name : String} {get : Sections → Option α} {set : Sections → Option α → Sections}
    {form : Form} {r : R} (hget : ∀ s x, get (set s x) = x) (hset : ∀ s, set s (get s) = s) :
    (sectionField name get set).Keeps form r ↔ ∀ x, get (sections r) = some x → form.Keeps x := by
  constructor
  · intro h x hx
    obtain ⟨hadmits, hnull, hassign⟩ := h (encode x) (by simp [sectionField, Field.of, hx])
    obtain ⟨property, hproperty, hr⟩ := Field.assign_of_eq_ok hassign
    obtain rfl : property = some x := by
      rw [← hx, ← hr, Sectioned.sections_withSections, hget]
    rcases decodeOptional_eq_ok_iff.1 hproperty with ⟨-, hnone⟩ | ⟨-, y, hy, hsome⟩
    · cases hnone
    · cases hsome
      exact ⟨hadmits, hnull, hy⟩
  · intro h v hv
    obtain ⟨x, hx, rfl⟩ : ∃ x, get (sections r) = some x ∧ encode x = v := by
      simpa [sectionField, Field.of] using hv
    obtain ⟨hadmits, hnull, hdecode⟩ := h x hx
    refine ⟨hadmits, hnull, ?_⟩
    rw [sectionField, Field.of_assign_encode hnull hdecode, ← hx, hset,
      Sectioned.withSections_sections]

variable {R : Type} [Record R] [Documented R] [Sectioned R] {r : R}

theorem isKept_sections (h : Keeps r) : (sections r).IsKept where
  parameters := (keeps_section_iff (fun _ _ => rfl) (fun _ => rfl)).1
    (h parametersField Sectioned.mem_parameters _ Sectioned.lookup_parameters)
  metadata := (keeps_section_iff (fun _ _ => rfl) (fun _ => rfl)).1
    (h metadataField Sectioned.mem_metadata _ Sectioned.lookup_metadata)
  hooks := (keeps_section_iff (fun _ _ => rfl) (fun _ => rfl)).1
    (h hooksField Sectioned.mem_hooks _ Sectioned.lookup_hooks)

theorem hasRequired_withSections (s : Sections) (h : HasRequired r) :
    HasRequired (withSections r s) := by
  intro field hfield hname
  rw [(Sectioned.outside field hfield (Sectioned.required _ hname) r s).1]
  exact h field hfield hname

variable [Lawful R] {s : Sections}

/-- A property with the name of a section holds what the section holds. -/
theorem keeps_withSections_of_name_eq {α : Type} [Coded α] {name : String}
    {get : Sections → Option α} {set : Sections → Option α → Sections} {form sectionForm : Form}
    {field : Field R} (hfield : field ∈ fields) (hname : field.name = name)
    (hform : (forms R).lookup field.name = some form)
    (hsection : sectionField name get set ∈ fields (R := R))
    (hlookup : (forms R).lookup name = some sectionForm) (hget : ∀ s x, get (set s x) = x)
    (hset : ∀ s, set s (get s) = s) (h : ∀ x, get s = some x → sectionForm.Keeps x) :
    field.Keeps form (withSections r s) := by
  obtain rfl : field = sectionField name get set := eq_of_name_eq hfield hsection hname
  obtain rfl : form = sectionForm := Option.some.inj (hform.symm.trans (hname ▸ hlookup))
  rw [keeps_section_iff hget hset, Sectioned.sections_withSections]
  exact h

theorem keeps_withSections (hr : Keeps r) (hs : s.IsKept) : Keeps (withSections r s) := by
  intro field hfield form hform
  by_cases hname : field.name ∈ sectionNames
  · simp only [sectionNames, List.mem_cons, List.not_mem_nil, or_false] at hname
    rcases hname with hname | hname | hname
    · exact keeps_withSections_of_name_eq hfield hname hform Sectioned.mem_parameters
        Sectioned.lookup_parameters (fun _ _ => rfl) (fun _ => rfl) hs.parameters
    · exact keeps_withSections_of_name_eq hfield hname hform Sectioned.mem_metadata
        Sectioned.lookup_metadata (fun _ _ => rfl) (fun _ => rfl) hs.metadata
    · exact keeps_withSections_of_name_eq hfield hname hform Sectioned.mem_hooks
        Sectioned.lookup_hooks (fun _ _ => rfl) (fun _ => rfl) hs.hooks
  · intro v hv
    obtain ⟨hvalue, hassign⟩ := Sectioned.outside field hfield hname r s
    rw [hvalue] at hv
    obtain ⟨hadmits, hnull, hstored⟩ := hr field hfield form hform v hv
    exact ⟨hadmits, hnull, hassign v hstored⟩

/-! ## Metadata of documents -/

theorem metadata_assign_meta {r s : R} {v : Value} (h : assign r "meta" v = .ok s) :
    decodeOptional v = .ok (sections s).metadata := by
  have hname : assign r "meta" v = metadataField.assign r v := assign_name Sectioned.mem_metadata r v
  rw [hname] at h
  obtain ⟨property, hproperty, rfl⟩ := Field.assign_of_eq_ok h
  rw [Sectioned.sections_withSections, hproperty]

theorem metadata_assign_of_ne {r s : R} {key : String} {form : Form} {v : Value}
    (hform : (forms R).lookup key = some form) (hkey : key ≠ "meta") (h : assign r key v = .ok s) :
    (sections s).metadata = (sections r).metadata := by
  obtain ⟨field, hfield, rfl, -⟩ := exists_field_of_lookup hform
  rw [assign_name hfield] at h
  have hne : (metadataField : Field R).name ≠ field.name := fun hname => hkey hname.symm
  obtain ⟨hvalue, -⟩ := Lawful.apart field hfield metadataField Sectioned.mem_metadata hne r s v h
  have hinjective : Function.Injective fun fields : Fields => encode fields :=
    fun _ _ => Value.object.inj
  exact Option.map_injective hinjective hvalue

theorem metadata_assignAll {source : Path} {entries : Fields} (hentries : AreEntries R entries)
    (hsorted : Fields.Sorted entries) {r t : R}
    (h : assignAll source ((forms R).map Prod.fst) r entries = .ok t) :
    (sections t).metadata =
      (Fields.get? "meta" entries).elim (sections r).metadata Value.asObject? := by
  induction entries generalizing r with
  | nil =>
    cases h
    rfl
  | cons entry rest ih =>
    obtain ⟨key, v⟩ := entry
    obtain ⟨⟨form, hform, hadmits⟩, hrest⟩ := List.forall_mem_cons.1 hentries
    obtain ⟨hlater, hsortedRest⟩ := List.pairwise_cons.1 hsorted
    obtain ⟨s, hassign, h⟩ := exists_assign_of_assignAll_cons hform h
    rw [ih hrest hsortedRest h, Fields.get?_cons]
    split_ifs with hkey
    · -- no later entry has the key
      subst hkey
      have hnone : Fields.get? "meta" rest = none :=
        Fields.get?_eq_none_iff.2 fun hmem => String.lt_irrefl "meta" (hlater "meta" hmem)
      rw [Sectioned.lookup_metadata, Option.some.injEq] at hform
      subst hform
      obtain ⟨fields, rfl, -⟩ := hadmits
      rw [hnone]
      exact (Except.ok.inj (metadata_assign_meta hassign)).symm
    · rw [metadata_assign_of_ne hform (Ne.symm hkey) hassign]

/-- The metadata of a record that is read are the map under `meta`. -/
theorem metadata_ofDocument [Documented.IsBundled R] [HasMetadata R] {d : Value} {source : Path}
    (hd : IsDocument R d) (hsorted : ∀ fields, d = .object fields → Fields.Sorted fields)
    (h : ofDocument (Documented.schema R) d source = .ok r) :
    (sections r).metadata = (d.get? "meta").bind Value.asObject? := by
  obtain ⟨entries, rfl, hentries, -⟩ := hd
  rw [ofDocument_eq] at h
  rw [metadata_assignAll hentries (hsorted entries rfl) h, HasMetadata.metadata_unset]
  show _ = (Fields.get? "meta" entries).bind Value.asObject?
  cases Fields.get? "meta" entries <;> rfl

end Record

end ScenarioTree
