import ScenarioTree.Proofs.Record.Lawful

/-!
# Records and their documents

A document that a bundled schema accepts is stored entry by entry. Each entry goes to the property with
its name, where its form says whether it can be read. One thing that the schemas accept cannot: a
number that has no fraction is an integer to a schema, however it is written, but the expected status
of a scenario has to be written without one.

A record that comes from a document is kept: what it holds is what the schema asks for, and it is
stored again as it was. So are others that keep what they hold, whether they come from a document or
not.

Results:

* `Record.exists_assignAll_iff`, `Record.exists_ofDocument_iff`: which documents make a record.
* `Record.exists_ofDocument_of_check`: the documents of each kind that pass the check, and those of
  them that make a record.
* `Record.keeps_ofDocument`: records of documents are kept.
* `Record.isDocument_toValue`, `Record.ofDocument_toValue`: a record that is kept is written as a
  document, which makes the same record.
-/

namespace ScenarioTree

namespace Record

open Documented (forms required)

section Entries

variable {R : Type} [Documented R]

/-! ## Entries -/

/-- The entries of documents. -/
def AreEntries (R : Type) [Documented R] (entries : List (String × Value)) : Prop :=
  ∀ entry ∈ entries, ∃ form, (forms R).lookup entry.1 = some form ∧ form.Admits entry.2

theorem contains_of_lookup {key : String} {form : Form} (h : (forms R).lookup key = some form) :
    ((forms R).map Prod.fst).contains key = true :=
  List.contains_iff_mem.2 (List.mem_map_of_mem (mem_of_lookup_eq_some h))

variable [Record R] {source : Path}

theorem assignAll_cons {entry : String × Value} {entries : List (String × Value)} {form : Form}
    (hform : (forms R).lookup entry.1 = some form) {r s : R}
    (h : assign r entry.1 entry.2 = .ok s) :
    assignAll source ((forms R).map Prod.fst) r (entry :: entries) =
      assignAll source ((forms R).map Prod.fst) s entries := by
  rw [assignAll, if_pos (contains_of_lookup hform), h]

theorem exists_assign_of_assignAll_cons {entry : String × Value}
    {entries : List (String × Value)} {form : Form}
    (hform : (forms R).lookup entry.1 = some form) {r t : R}
    (h : assignAll source ((forms R).map Prod.fst) r (entry :: entries) = .ok t) :
    ∃ s, assign r entry.1 entry.2 = .ok s ∧
      assignAll source ((forms R).map Prod.fst) s entries = .ok t := by
  rw [assignAll, if_pos (contains_of_lookup hform)] at h
  cases hassign : assign r entry.1 entry.2 with
  | error misfit => simp [hassign] at h
  | ok s =>
    simp only [hassign] at h
    exact ⟨s, rfl, h⟩

end Entries

/-- A record is written as its set properties. -/
theorem mem_toValue {R : Type} [Record R] {r : R} {entries : Fields}
    (h : toValue r = .object entries) :
    (∀ entry ∈ entries, ∃ field ∈ fields, field.name = entry.1 ∧ field.value? r = some entry.2) ∧
      ∀ field ∈ fields, (field.value? r).isSome = true → field.name ∈ Fields.keys entries := by
  cases h
  constructor
  · intro entry hentry
    have hmem := Fields.mem_of_mem_ofList hentry
    simp only [List.mem_filterMap, Option.map_eq_some_iff] at hmem
    obtain ⟨field, hfield, v, hv, rfl⟩ := hmem
    exact ⟨field, hfield, rfl, hv⟩
  · intro field hfield hsome
    obtain ⟨v, hv⟩ := Option.isSome_iff_exists.1 hsome
    refine Fields.mem_keys_ofList (List.mem_map.2 ⟨(field.name, v), ?_, rfl⟩)
    exact List.mem_filterMap.2 ⟨field, hfield, by rw [hv]; rfl⟩

section Lawful

variable {R : Type} [Record R] [Documented R] [Lawful R] {source : Path}

/-! ## Documents that make a record -/

theorem ofDocument_eq [Documented.IsBundled R] (entries : List (String × Value)) (source : Path) :
    ofDocument (R := R) (Documented.schema R) (.object entries) source =
      assignAll source ((forms R).map Prod.fst) unset entries := by
  have hnone : ((forms R).map Prod.fst).find? (!(properties R).contains ·) = none := by
    rw [List.find?_eq_none]
    intro name hname
    obtain ⟨entry, hentry, rfl⟩ := List.mem_map.1 hname
    simpa using Lawful.mem_properties entry hentry
  simp only [ofDocument, Documented.declaredProperties_eq, hnone]

/-- What can be stored in each property can be stored in a record. -/
theorem exists_assignAll_iff {entries : List (String × Value)} (hentries : AreEntries R entries)
    (r : R) : (∃ s, assignAll source ((forms R).map Prod.fst) r entries = .ok s) ↔
      ∀ entry ∈ entries, ∀ form, (forms R).lookup entry.1 = some form → form.IsWritten entry.2 := by
  induction entries generalizing r with
  | nil => exact iff_of_true ⟨r, rfl⟩ (fun _ h => absurd h List.not_mem_nil)
  | cons entry rest ih =>
    obtain ⟨form, hform, hadmits⟩ := hentries entry List.mem_cons_self
    obtain ⟨field, hfield, hname, hstores⟩ := exists_field_of_lookup hform
    have hrest := ih fun entry hentry => hentries entry (List.mem_cons_of_mem _ hentry)
    have hfirst : (∃ s, assign r entry.1 entry.2 = .ok s) ↔ form.IsWritten entry.2 := by
      rw [← hname, assign_name hfield, hstores.exists_assign_iff hadmits]
    simp only [List.forall_mem_cons, hform, Option.some.injEq, forall_eq']
    constructor
    · rintro ⟨s, hs⟩
      obtain ⟨next, hnext, hs⟩ := exists_assign_of_assignAll_cons hform hs
      exact ⟨hfirst.1 ⟨next, hnext⟩, (hrest next).1 ⟨s, hs⟩⟩
    · rintro ⟨hwritten, hall⟩
      obtain ⟨next, hnext⟩ := hfirst.2 hwritten
      rw [assignAll_cons hform hnext]
      exact (hrest next).2 hall

/-- A document of a kind makes a record if its numbers are written as the properties have them. -/
theorem exists_ofDocument_iff [Documented.IsBundled R] {d : Value} (hd : IsDocument R d) :
    (∃ r : R, ofDocument (Documented.schema R) d source = .ok r) ↔
      ∀ entry ∈ d.asObject?.getD [], ∀ form, (forms R).lookup entry.1 = some form →
        form.IsWritten entry.2 := by
  obtain ⟨entries, rfl, hentries, -⟩ := hd
  rw [ofDocument_eq]
  exact exists_assignAll_iff hentries unset

/-! ## Records that are kept -/

/-- All properties of a record hold values of their forms that can be stored again. -/
def Keeps (r : R) : Prop :=
  ∀ field ∈ fields, ∀ form, (forms R).lookup field.name = some form → field.Keeps form r

/-- All properties that there have to be are set. -/
def HasRequired (r : R) : Prop :=
  ∀ field ∈ fields, field.name ∈ required R → (field.value? r).isSome = true

theorem keeps_unset : Keeps (unset : R) := by
  intro field hfield form _ v hv
  rw [Lawful.value?_unset field hfield] at hv
  cases hv

theorem keeps_assign {key : String} {form : Form} {v : Value} {r s : R}
    (hform : (forms R).lookup key = some form) (hadmits : form.Admits v) (hr : Keeps r)
    (h : assign r key v = .ok s) : Keeps s ∧ ∀ field ∈ fields,
      (field.name = key ∧ form ≠ .any ∨ field.name ≠ key ∧ (field.value? r).isSome = true) →
        (field.value? s).isSome = true := by
  obtain ⟨field, hfield, rfl, hstores⟩ := exists_field_of_lookup hform
  rw [assign_name hfield] at h
  obtain ⟨hkeeps, hsome⟩ := hstores.keeps_assign hadmits h
  have hother (other : Field R) (hother : other ∈ fields) (hne : other.name ≠ field.name) :=
    Lawful.apart field hfield other hother hne r s v h
  refine ⟨fun other hmem form' hform' => ?_, fun other hmem hcases => ?_⟩
  · by_cases hname : other.name = field.name
    · rw [hname, hform] at hform'
      cases hform'
      rw [eq_of_name_eq hmem hfield hname]
      exact hkeeps
    · intro w hw
      obtain ⟨hvalue, hstored⟩ := hother other hmem hname
      rw [hvalue] at hw
      obtain ⟨hadmits', hnull, hassign⟩ := hr other hmem form' hform' w hw
      exact ⟨hadmits', hnull, hstored w hassign⟩
  · rcases hcases with ⟨hname, hany⟩ | ⟨hname, hvalue⟩
    · rw [eq_of_name_eq hmem hfield hname]
      exact hsome (hadmits.isNull_eq_false hany)
    · rw [(hother other hmem hname).1]
      exact hvalue

theorem keeps_assignAll {entries : List (String × Value)} (hentries : AreEntries R entries)
    {r s : R} (hr : Keeps r)
    (h : assignAll source ((forms R).map Prod.fst) r entries = .ok s) : Keeps s ∧
      ∀ field ∈ fields, field.name ∈ required R →
        ((field.value? r).isSome = true ∨ field.name ∈ Fields.keys entries) →
          (field.value? s).isSome = true := by
  induction entries generalizing r with
  | nil =>
    cases h
    exact ⟨hr, fun field _ _ hset => hset.resolve_right List.not_mem_nil⟩
  | cons entry rest ih =>
    obtain ⟨form, hform, hadmits⟩ := hentries entry List.mem_cons_self
    obtain ⟨next, hnext, h⟩ := exists_assign_of_assignAll_cons hform h
    obtain ⟨hkeeps, hsome⟩ := keeps_assign hform hadmits hr hnext
    obtain ⟨hs, hset⟩ := ih (fun entry hentry => hentries entry (List.mem_cons_of_mem _ hentry))
      hkeeps h
    refine ⟨hs, fun field hfield hrequired hcases => hset field hfield hrequired ?_⟩
    by_cases hname : field.name = entry.1
    · obtain ⟨form', hform', hany⟩ := Lawful.required_ne_any field.name hrequired
      rw [hname, hform] at hform'
      cases hform'
      exact .inl (hsome field hfield (.inl ⟨hname, hany⟩))
    · rcases hcases with hvalue | hkey
      · exact .inl (hsome field hfield (.inr ⟨hname, hvalue⟩))
      · exact .inr ((List.mem_cons.1 hkey).resolve_left hname)

theorem keeps_ofDocument [Documented.IsBundled R] {d : Value} {r : R} (hd : IsDocument R d)
    (h : ofDocument (Documented.schema R) d source = .ok r) : Keeps r ∧ HasRequired r := by
  obtain ⟨entries, rfl, hentries, hrequired⟩ := hd
  rw [ofDocument_eq] at h
  obtain ⟨hkeeps, hset⟩ := keeps_assignAll hentries keeps_unset h
  refine ⟨hkeeps, fun field hfield hname => hset field hfield hname (.inr ?_)⟩
  obtain ⟨v, hv⟩ := hrequired field.name hname
  exact List.mem_map_of_mem (Fields.mem_of_get?_eq_some hv)

/-! ## Records as documents -/

theorem isDocument_toValue {r : R} (hr : Keeps r) (hrequired : HasRequired r) :
    IsDocument R (toValue r) := by
  obtain ⟨entries, htoValue⟩ : ∃ entries, toValue r = .object entries := ⟨_, rfl⟩
  obtain ⟨hentries, hkeys⟩ := mem_toValue htoValue
  refine ⟨entries, htoValue, fun entry hentry => ?_, fun name hname => ?_⟩
  · obtain ⟨field, hfield, hname, hvalue⟩ := hentries entry hentry
    obtain ⟨form, hform, -⟩ := Lawful.stores field hfield
    exact ⟨form, hname ▸ hform, (hr field hfield form hform _ hvalue).1⟩
  · obtain ⟨form, hform, -⟩ := Lawful.required_ne_any (R := R) name hname
    obtain ⟨field, hfield, rfl, -⟩ := exists_field_of_lookup (R := R) hform
    have hkey := hkeys field hfield (hrequired field hfield hname)
    rw [← Option.ne_none_iff_exists', Ne, Fields.get?_eq_none_iff, not_not]
    exact hkey

/-- Storing what a record holds makes another record the same in those properties. -/
theorem exists_same_of_assignAll (source : Path) {r : R} (hr : Keeps r) {entries : List (String × Value)}
    (hentries : ∀ entry ∈ entries, ∃ field ∈ fields, field.name = entry.1 ∧
      field.value? r = some entry.2) (s : R) :
    ∃ t, assignAll source ((forms R).map Prod.fst) s entries = .ok t ∧
      ∀ field ∈ fields, (field.name ∈ Fields.keys entries ∨ field.Same s r) → field.Same t r := by
  induction entries generalizing s with
  | nil => exact ⟨s, rfl, fun field _ h => h.resolve_left List.not_mem_nil⟩
  | cons entry rest ih =>
    obtain ⟨field, hfield, hname, hvalue⟩ := hentries entry List.mem_cons_self
    obtain ⟨form, hform, hstores⟩ := Lawful.stores field hfield
    obtain ⟨next, hnext, hsame⟩ := hstores.exists_same (hr field hfield form hform) hvalue s
    have hassign : assign s entry.1 entry.2 = .ok next := by
      rw [← hname, assign_name hfield, hnext]
    obtain ⟨t, ht, hall⟩ := ih (fun entry hentry => hentries entry (List.mem_cons_of_mem _ hentry))
      next
    refine ⟨t, ?_, fun other hother hcases => hall other hother ?_⟩
    · rw [assignAll_cons (hname ▸ hform) hassign, ht]
    · by_cases heq : other.name = field.name
      · obtain rfl := eq_of_name_eq hother hfield heq
        exact .inr hsame
      · rcases hcases with hkey | hsame
        · exact .inl ((List.mem_cons.1 hkey).resolve_left (hname ▸ heq))
        · obtain ⟨hvalue, hstored⟩ := Lawful.apart field hfield other hother heq s next _ hnext
          refine .inr ⟨hvalue.trans hsame.1, fun w hw => ?_⟩
          exact ⟨hstored w (hsame.2 w hw).1, (hsame.2 w hw).2⟩

theorem ofDocument_toValue [Documented.IsBundled R] {r : R} (hr : Keeps r) :
    ofDocument (Documented.schema R) (toValue r) source = .ok r := by
  obtain ⟨entries, htoValue⟩ : ∃ entries, toValue r = .object entries := ⟨_, rfl⟩
  obtain ⟨hentries, hkeys⟩ := mem_toValue htoValue
  obtain ⟨t, ht, hsame⟩ := exists_same_of_assignAll source hr hentries unset
  rw [htoValue, ofDocument_eq, ht]
  congr 1
  refine Lawful.eq_of_same fun field hfield => hsame field hfield ?_
  cases hvalue : field.value? r with
  | none =>
    refine .inr ⟨by rw [hvalue, Lawful.value?_unset field hfield], fun v hv => ?_⟩
    rw [hvalue] at hv
    cases hv
  | some v => exact .inl (hkeys field hfield (by rw [hvalue]; rfl))

end Lawful

/-! ## Documents that are accepted -/

/-- If no property of a kind is a status, all documents of the kind make a record. -/
theorem exists_ofDocument_of_ne_status {R : Type} [Record R] [Documented R] [Lawful R]
    [Documented.IsBundled R] (hforms : ∀ entry ∈ forms R, entry.2 ≠ .status) {d : Value}
    {source : Path} (hd : IsDocument R d) :
    ∃ r : R, ofDocument (Documented.schema R) d source = .ok r := by
  refine (exists_ofDocument_iff hd).2 fun entry _ form hform => ?_
  have hne : form ≠ .status := hforms _ (mem_of_lookup_eq_some hform)
  cases form with
  | status => exact absurd rfl hne
  | _ => trivial

theorem isWritten_iff_of_isDocument {d : Value} (hd : IsDocument ScenarioRecord d) :
    (∀ entry ∈ d.asObject?.getD [], ∀ form, (forms ScenarioRecord).lookup entry.1 = some form →
        form.IsWritten entry.2) ↔
      ∀ x, ("expected_status", .number (.float x)) ∉ d.asObject?.getD [] := by
  obtain ⟨entries, rfl, hentries, -⟩ := hd
  constructor
  · intro h x hx
    obtain ⟨n, hn⟩ := h _ hx .status rfl
    cases hn
  · intro h entry hentry form hform
    cases form with
    | status =>
      obtain ⟨form, hform', hadmits⟩ := hentries entry hentry
      rw [hform] at hform'
      cases hform'
      have hkey : entry.1 = "expected_status" := by
        have hmem := mem_of_lookup_eq_some hform
        simpa [forms] using hmem
      obtain ⟨n, hn, -⟩ := hadmits
      cases n with
      | int n => exact ⟨n, hn⟩
      | float x => exact absurd (by rwa [← hkey, ← hn]) (h x)
    | _ => trivial

/-- The schema of each kind can be used. All documents of applications and of routes that it accepts
    make a record. Those of scenarios do if, and only if, no expected status is written with a
    fraction or an exponent. -/
theorem exists_ofDocument_of_check (d : Value) (source : Path) :
    (∃ schema, Documented.stored ApplicationRecord = .ok schema ∧
      (schema.check d source = .ok () →
        ∃ r : ApplicationRecord, ofDocument schema.tree d source = .ok r)) ∧
    (∃ schema, Documented.stored RouteRecord = .ok schema ∧
      (schema.check d source = .ok () →
        ∃ r : RouteRecord, ofDocument schema.tree d source = .ok r)) ∧
    ∃ schema, Documented.stored ScenarioRecord = .ok schema ∧
      (schema.check d source = .ok () →
        ((∃ r : ScenarioRecord, ofDocument schema.tree d source = .ok r) ↔
          ∀ x, ("expected_status", .number (.float x)) ∉ d.asObject?.getD [])) := by
  refine ⟨?_, ?_, ?_⟩
  · obtain ⟨schema, hstored, htree, hcheck⟩ := Documented.exists_stored ApplicationRecord
    refine ⟨schema, hstored, fun h => ?_⟩
    rw [htree]
    exact exists_ofDocument_of_ne_status (by decide) ((hcheck d source).1 h)
  · obtain ⟨schema, hstored, htree, hcheck⟩ := Documented.exists_stored RouteRecord
    refine ⟨schema, hstored, fun h => ?_⟩
    rw [htree]
    exact exists_ofDocument_of_ne_status (by decide) ((hcheck d source).1 h)
  · obtain ⟨schema, hstored, htree, hcheck⟩ := Documented.exists_stored ScenarioRecord
    refine ⟨schema, hstored, fun h => ?_⟩
    have hd : IsDocument ScenarioRecord d := (hcheck d source).1 h
    rw [htree, exists_ofDocument_iff hd, isWritten_iff_of_isDocument hd]

/-- The document of a scenario with an expected status of `200.0`. -/
def floatStatus : Value := .object [
  ("expected_status", .number (.float ⟨false, 0x4069000000000000, by decide⟩)),
  ("name", .string "x")]

/-- It is accepted, and makes no record. -/
theorem check_floatStatus :
    ∃ schema, Documented.stored ScenarioRecord = .ok schema ∧
      ∀ source, schema.check floatStatus source = .ok () ∧
        ∀ r : ScenarioRecord, ofDocument schema.tree floatStatus source ≠ .ok r := by
  obtain ⟨schema, hstored, htree, hcheck⟩ := Documented.exists_stored ScenarioRecord
  have hd : IsDocument ScenarioRecord floatStatus := by
    refine ⟨_, rfl, ?_, ?_⟩
    · simp only [List.forall_mem_cons, List.not_mem_nil, false_imp_iff, implies_true, and_true]
      refine ⟨⟨.status, by decide, _, rfl, ?_⟩, .someText, by decide, "x", rfl, by decide⟩
      decide +kernel
    · intro name hname
      obtain rfl := List.mem_singleton.1 hname
      exact ⟨_, rfl⟩
  refine ⟨schema, hstored, fun source => ⟨(hcheck _ source).2 hd, fun r hr => ?_⟩⟩
  rw [htree] at hr
  exact (isWritten_iff_of_isDocument hd).1 ((exists_ofDocument_iff hd).1 ⟨r, hr⟩) _
    List.mem_cons_self

end Record

end ScenarioTree
