import ScenarioTree.Proofs.Record.Cell

/-!
# Declared properties

What a document makes of a record depends on the properties that its schema declares, and on what the
document has under their names. All else in the document is ignored. Names are looked at in ascending
order, and the first that there is an objection to is the one that is reported.

Results:

* `Record.assignAll_eq_ok_iff`: a record that is stored entry by entry holds what the entries state.
* `Record.exists_of_assignAll_eq_error`: if that fails, it fails at the first entry that cannot be read.
* `Record.ofDocument_filter`: entries that are not declared do not matter.
* `Record.ofDocument_outcome`: what any schema and any document make of a record.
-/

namespace ScenarioTree

/-- The first of the items in ascending order that meet a condition is the least one that does. -/
theorem le_of_find?_eq_some {names : List String} {p : String → Bool} {name : String}
    (hsorted : names.Pairwise (· < ·)) (h : names.find? p = some name) :
    ∀ other ∈ names, p other = true → name ≤ other := by
  obtain ⟨-, front, back, rfl, hfront⟩ := List.find?_eq_some_iff_append.1 h
  intro other hother hp
  rcases List.mem_append.1 hother with hother | hother
  · have hnot := hfront other hother
    rw [hp] at hnot
    cases hnot
  · rcases List.mem_cons.1 hother with rfl | hother
    · exact String.le_refl other
    · have hlater := (List.pairwise_cons.1 (List.pairwise_append.1 hsorted).2.1).1
      exact String.not_lt.1 (String.lt_asymm (hlater other hother))

/-- A value that is not a map has nothing under any key. -/
theorem Value.get?_eq (v : Value) (key : String) :
    v.get? key = Fields.get? key (v.asObject?.getD []) := by
  cases v <;> rfl

theorem pairwise_declaredProperties {schema : Value}
    (h : ∀ properties, schema.get? "properties" = some (.object properties) →
      Fields.Sorted properties) : (declaredProperties schema).Pairwise (· < ·) := by
  unfold declaredProperties
  split
  · rename_i properties hproperties
    exact h properties hproperties
  · exact List.Pairwise.nil

namespace Record

/-! ## Entries -/

/-- The value that the entries of a document state for a declared property. -/
def stated? (declared : List String) (entries : Fields) (name : String) : Option Value :=
  if declared.contains name then Fields.get? name entries else none

section Entries

variable {declared : List String} {entries : Fields} {key name : String} {v : Value}

theorem stated?_eq_some_iff : stated? declared entries name = some v ↔
    name ∈ declared ∧ Fields.get? name entries = some v := by
  unfold stated?
  split_ifs with h
  · simp [List.contains_iff_mem.1 h]
  · simpa using fun hmem => absurd (List.contains_iff_mem.2 hmem) h

theorem stated?_cons_of_ne (h : name ≠ key) :
    stated? declared ((key, v) :: entries) name = stated? declared entries name := by
  rw [stated?, stated?, Fields.get?_cons, if_neg h]

theorem stated?_cons_of_not_mem (h : declared.contains key = false) :
    stated? declared ((key, v) :: entries) name = stated? declared entries name := by
  by_cases hname : name = key
  · subst hname
    rw [stated?, stated?, h]
    rfl
  · exact stated?_cons_of_ne hname

theorem stated?_cons_self (h : declared.contains key = true) :
    stated? declared ((key, v) :: entries) key = some v := by
  rw [stated?, if_pos h, Fields.get?_cons, if_pos rfl]

/-- No later entry has the key of the first one. -/
theorem stated?_eq_none (h : Fields.Sorted ((key, v) :: entries)) :
    stated? declared entries key = none := by
  have hnone : Fields.get? key entries = none := Fields.get?_eq_none_iff.2 fun hmem =>
    String.lt_irrefl key ((List.pairwise_cons.1 h).1 key hmem)
  rw [stated?, hnone, ite_self]

end Entries

variable {R : Type} [Record R] [Celled R] {declared : List String} {entries : Fields}
  {source : Path}

/-! ## Storing entry by entry -/

/-- What has been stored entry by entry can be read, and the cells hold it. The others are as they
    were. -/
theorem assignAll_eq_ok_iff (hsorted : Fields.Sorted entries) {r s : R} :
    assignAll source declared r entries = .ok s ↔
      ∀ c ∈ cells, (stated? declared entries c.name).elim (c.get s = c.get r)
        fun v => decodeOptional v = .ok (c.get s) := by
  induction entries generalizing r with
  | nil =>
    have hnone (c : Cell R) : stated? declared [] c.name = none := by simp [stated?, Fields.get?]
    simp only [assignAll, Except.ok.injEq, hnone, Option.elim_none]
    exact ⟨fun h c _ => h ▸ rfl, fun h => Celled.eq_of_get_eq fun c hc => (h c hc).symm⟩
  | cons entry rest ih =>
    obtain ⟨key, v⟩ := entry
    have hrest : Fields.Sorted rest := (List.pairwise_cons.1 hsorted).2
    rw [assignAll]
    split_ifs with hdeclared
    · cases hassign : assign r key v with
      | error misfit =>
        simp only [reduceCtorEq, false_iff]
        obtain ⟨c, hc, rfl, hmisfit⟩ := assign_eq_error_iff.1 hassign
        intro h
        have hread := h c hc
        rw [stated?_cons_self hdeclared, Option.elim_some, hmisfit] at hread
        cases hread
      | ok next =>
        simp only [ih hrest]
        refine forall₂_congr fun c hc => ?_
        have hget := get_assign hc hassign
        by_cases hname : key = c.name
        · subst hname
          rw [if_pos rfl] at hget
          rw [stated?_eq_none hsorted, stated?_cons_self hdeclared, Option.elim_none,
            Option.elim_some, hget, Except.ok.injEq, eq_comm]
        · rw [if_neg hname] at hget
          rw [stated?_cons_of_ne (Ne.symm hname), hget]
    · rw [ih hrest]
      refine forall₂_congr fun c _ => ?_
      rw [stated?_cons_of_not_mem (by simpa using hdeclared)]

/-! ## The first failure -/

/-- The value of a declared property cannot be read as a value of the type of its cell. -/
def Misfits (declared : List String) (entries : Fields) (c : Cell R) (misfit : MisfitError) : Prop :=
  ∃ v, stated? declared entries c.name = some v ∧ decodeOptional (α := c.type) v = .error misfit

/-- The first cell, in ascending order of the names, whose value cannot be read, and why. -/
structure IsFirstMisfit (declared : List String) (entries : Fields) (c : Cell R)
    (misfit : MisfitError) : Prop where
  mem : c ∈ cells (R := R)
  misfits : Misfits declared entries c misfit
  least : ∀ d ∈ cells (R := R), ∀ other, Misfits declared entries d other → c.name ≤ d.name

section Cons

variable {key : String} {v : Value} {c : Cell R} {misfit : MisfitError}

omit [Record R] [Celled R] in
theorem misfits_cons_of_ne (h : c.name ≠ key) :
    Misfits declared ((key, v) :: entries) c misfit ↔ Misfits declared entries c misfit := by
  rw [Misfits, Misfits, stated?_cons_of_ne h]

omit [Record R] [Celled R] in
/-- In entries that ascend, the properties of the later ones come behind the first one. -/
theorem Misfits.lt (hsorted : Fields.Sorted ((key, v) :: entries))
    (h : Misfits declared entries c misfit) : key < c.name := by
  obtain ⟨w, hw, -⟩ := h
  obtain ⟨-, hget⟩ := stated?_eq_some_iff.1 hw
  exact (List.pairwise_cons.1 hsorted).1 c.name
    (List.mem_map_of_mem (Fields.mem_of_get?_eq_some hget))

/-- An entry that cannot be read is the first if it comes first. -/
theorem isFirstMisfit_cons_self (hsorted : Fields.Sorted ((c.name, v) :: entries)) (hc : c ∈ cells)
    (hdeclared : declared.contains c.name = true)
    (h : decodeOptional (α := c.type) v = .error misfit) :
    IsFirstMisfit declared ((c.name, v) :: entries) c misfit where
  mem := hc
  misfits := ⟨v, stated?_cons_self hdeclared, h⟩
  least d _ other hother := by
    by_cases hname : d.name = c.name
    · exact hname ▸ String.le_refl d.name
    · have hlt : c.name < d.name := ((misfits_cons_of_ne hname).1 hother).lt hsorted
      exact String.not_lt.1 (String.lt_asymm hlt)

/-- An entry that can be read, or is not declared, may stand before the first that cannot. -/
theorem IsFirstMisfit.cons (hsorted : Fields.Sorted ((key, v) :: entries))
    (hread : ∀ d ∈ cells (R := R), d.name = key → ∀ other,
      ¬ Misfits declared ((key, v) :: entries) d other)
    (h : IsFirstMisfit declared entries c misfit) :
    IsFirstMisfit declared ((key, v) :: entries) c misfit where
  mem := h.mem
  misfits := (misfits_cons_of_ne (String.ne_of_lt (h.misfits.lt hsorted)).symm).2 h.misfits
  least d hd other hother := by
    by_cases hname : d.name = key
    · exact absurd hother (hread d hd hname other)
    · exact h.least d hd other ((misfits_cons_of_ne hname).1 hother)

end Cons

/-- If storing entry by entry fails, it fails at the first one that cannot be read. -/
theorem exists_of_assignAll_eq_error (hsorted : Fields.Sorted entries) {r : R} {error : LoadError}
    (h : assignAll source declared r entries = .error error) :
    ∃ (c : Cell R) (misfit : MisfitError), IsFirstMisfit declared entries c misfit ∧
      error = .invalidData source ("/" ++ c.name) "type" misfit.message := by
  induction entries generalizing r with
  | nil => cases h
  | cons entry rest ih =>
    obtain ⟨key, v⟩ := entry
    have hrest : Fields.Sorted rest := (List.pairwise_cons.1 hsorted).2
    rw [assignAll] at h
    split_ifs at h with hdeclared
    · cases hassign : assign r key v with
      | error misfit =>
        rw [hassign] at h
        cases h
        obtain ⟨c, hc, rfl, hmisfit⟩ := assign_eq_error_iff.1 hassign
        exact ⟨c, misfit, isFirstMisfit_cons_self hsorted hc hdeclared hmisfit, rfl⟩
      | ok next =>
        rw [hassign] at h
        obtain ⟨c, misfit, hfirst, rfl⟩ := ih hrest h
        refine ⟨c, misfit, hfirst.cons hsorted ?_, rfl⟩
        rintro d hd rfl other ⟨w, hw, hother⟩
        rw [stated?_cons_self hdeclared, Option.some.injEq] at hw
        subst hw
        rw [assign_eq_error_iff.2 ⟨d, hd, rfl, hother⟩] at hassign
        cases hassign
    · obtain ⟨c, misfit, hfirst, rfl⟩ := ih hrest h
      refine ⟨c, misfit, hfirst.cons hsorted ?_, rfl⟩
      rintro d hd rfl other ⟨w, hw, -⟩
      exact hdeclared (List.contains_iff_mem.2 (stated?_eq_some_iff.1 hw).1)

/-! ## Documents -/

section Documents

variable {schema data : Value}

omit [Celled R] in
/-- Entries that are not declared do not matter. -/
theorem assignAll_filter (r : R) (entries : Fields) :
    assignAll source declared r (entries.filter (declared.contains ·.1)) =
      assignAll source declared r entries := by
  induction entries generalizing r with
  | nil => rfl
  | cons entry rest ih =>
    obtain ⟨key, v⟩ := entry
    rw [List.filter_cons, assignAll]
    split_ifs with hdeclared
    · rw [assignAll, if_pos hdeclared]
      cases assign r key v with
      | error misfit => rfl
      | ok next => exact ih next
    · exact ih r

omit [Celled R] in
theorem ofDocument_filter (schema : Value) (source : Path) (entries : Fields) :
    ofDocument (R := R) schema
        (.object (entries.filter ((declaredProperties schema).contains ·.1))) source =
      ofDocument schema (.object entries) source := by
  simp only [ofDocument, assignAll_filter]

omit [Celled R] in
/-- The least name that is declared and not known is reported, whatever the document holds. -/
theorem ofDocument_of_unknown (hsorted : (declaredProperties schema).Pairwise (· < ·))
    (h : ∃ name ∈ declaredProperties schema, name ∉ properties R) :
    ∃ name ∈ declaredProperties schema, name ∉ properties R ∧
      (∀ other ∈ declaredProperties schema, other ∉ properties R → name ≤ other) ∧
      ofDocument (R := R) schema data source = .error (.unknownProperty source (kind R) name) := by
  have hsome : ((declaredProperties schema).find? (!(properties R).contains ·)).isSome = true := by
    simpa using h
  obtain ⟨name, hfind⟩ := Option.isSome_iff_exists.1 hsome
  have hname := List.find?_some hfind
  refine ⟨name, List.mem_of_find?_eq_some hfind, by simpa using hname, ?_, by
    simp only [ofDocument, hfind]⟩
  intro other hother hunknown
  exact le_of_find?_eq_some hsorted hfind other hother (by simpa using hunknown)

omit [Celled R] in
/-- A document that is not a map has no entries. -/
theorem ofDocument_of_known (h : ∀ name ∈ declaredProperties schema, name ∈ properties R) :
    ofDocument (R := R) schema data source =
      assignAll source (declaredProperties schema) unset (data.asObject?.getD []) := by
  have hfind : (declaredProperties schema).find? (!(properties R).contains ·) = none := by
    simpa using h
  simp only [ofDocument, hfind]
  cases data <;> rfl

/-- What a document has under the name of a cell, if anything, can be stored in it. -/
def Fits (data : Value) (c : Cell R) : Prop := ∀ v, data.get? c.name = some v → c.Accepts v

omit [Record R] [Celled R] in
theorem not_fits_iff {c : Cell R} : ¬ Fits data c ↔
    ∃ v misfit, data.get? c.name = some v ∧ decodeOptional (α := c.type) v = .error misfit := by
  simp only [Fits, not_forall, exists_prop, Cell.not_accepts_iff, exists_and_left]

omit [Record R] [Celled R] in
theorem exists_misfits_iff {c : Cell R} :
    (∃ misfit, Misfits declared (data.asObject?.getD []) c misfit) ↔
      c.name ∈ declared ∧ ¬ Fits data c := by
  simp only [Misfits, stated?_eq_some_iff, ← Value.get?_eq, not_fits_iff]
  grind

/-- A cell holds what is declared, present, and not null. -/
theorem get_eq_some_iff (hsorted : Fields.Sorted (data.asObject?.getD [])) {r : R}
    (h : assignAll source declared unset (data.asObject?.getD []) = .ok r) {c : Cell R}
    (hc : c ∈ cells) (x : c.type) : c.get r = some x ↔
      c.name ∈ declared ∧ ∃ v, data.get? c.name = some v ∧ v ≠ .null ∧ decode v = .ok x := by
  have hread := (assignAll_eq_ok_iff hsorted).1 h c hc
  have hstated (v : Value) : stated? declared (data.asObject?.getD []) c.name = some v ↔
      c.name ∈ declared ∧ data.get? c.name = some v := by rw [stated?_eq_some_iff, Value.get?_eq]
  cases hget : stated? declared (data.asObject?.getD []) c.name with
  | none =>
    rw [hget, Option.elim_none, Celled.get_unset c hc] at hread
    rw [hread]
    refine iff_of_false nofun ?_
    rintro ⟨hdeclared, v, hv, -⟩
    have hsome := (hstated v).2 ⟨hdeclared, hv⟩
    rw [hget] at hsome
    cases hsome
  | some w =>
    obtain ⟨hdeclared, hw⟩ := (hstated w).1 hget
    rw [hget, Option.elim_some] at hread
    have hsome : c.get r = some x ↔ decodeOptional w = .ok (some x) := by
      rw [hread, Except.ok.injEq]
    rw [hsome, decodeOptional_eq_some_iff]
    simp [hdeclared, hw]

/-- What fits can be stored. -/
theorem exists_assignAll_iff_fits (hsorted : Fields.Sorted (data.asObject?.getD [])) :
    (∃ r : R, assignAll source declared unset (data.asObject?.getD []) = .ok r) ↔
      ∀ c ∈ cells (R := R), c.name ∈ declared → Fits data c := by
  constructor
  · rintro ⟨r, hr⟩ c hc hdeclared
    by_contra hfits
    obtain ⟨misfit, v, hv, hmisfit⟩ := exists_misfits_iff.2 ⟨hdeclared, hfits⟩
    have hread := (assignAll_eq_ok_iff hsorted).1 hr c hc
    rw [hv, Option.elim_some, hmisfit] at hread
    cases hread
  · intro h
    cases hassign : assignAll (R := R) source declared unset (data.asObject?.getD []) with
    | ok r => exact ⟨r, rfl⟩
    | error error =>
      obtain ⟨c, misfit, hfirst, -⟩ := exists_of_assignAll_eq_error hsorted hassign
      obtain ⟨hdeclared, hfits⟩ := exists_misfits_iff.1 ⟨misfit, hfirst.misfits⟩
      exact absurd (h c hfirst.mem hdeclared) hfits

/-- Of the declared values that do not fit, the one with the least name is reported. -/
theorem exists_first_of_not_fits (hsorted : Fields.Sorted (data.asObject?.getD []))
    (h : ∃ c ∈ cells (R := R), c.name ∈ declared ∧ ¬ Fits data c) :
    ∃ c ∈ cells (R := R), c.name ∈ declared ∧
      (∀ d ∈ cells (R := R), d.name ∈ declared → ¬ Fits data d → c.name ≤ d.name) ∧
      ∃ v misfit, data.get? c.name = some v ∧ v ≠ .null ∧
        decode (α := c.type) v = .error misfit ∧
        assignAll (R := R) source declared unset (data.asObject?.getD []) =
          .error (.invalidData source ("/" ++ c.name) "type" misfit.message) := by
  obtain ⟨d, hd, hdeclared, hfits⟩ := h
  cases hassign : assignAll (R := R) source declared unset (data.asObject?.getD []) with
  | ok r => exact absurd ((exists_assignAll_iff_fits hsorted).1 ⟨r, hassign⟩ d hd hdeclared) hfits
  | error error =>
    obtain ⟨c, misfit, hfirst, rfl⟩ := exists_of_assignAll_eq_error hsorted hassign
    obtain ⟨v, hstated, hmisfit⟩ := hfirst.misfits
    obtain ⟨hcdeclared, hv⟩ := stated?_eq_some_iff.1 hstated
    obtain ⟨hnull, hdecode⟩ := decodeOptional_eq_error_iff.1 hmisfit
    refine ⟨c, hfirst.mem, hcdeclared, ?_, v, misfit, by rw [Value.get?_eq, hv], hnull, hdecode, rfl⟩
    intro other hother hotherDeclared hotherFits
    obtain ⟨why, hwhy⟩ := exists_misfits_iff.2 ⟨hotherDeclared, hotherFits⟩
    exact hfirst.least other hother why hwhy

/-- What any schema and any document make of a record. A declared name that the record does not have
    is an error, whatever the document holds, and the least one is reported. Otherwise the record holds
    what the document has under the declared names, if that can be read. If not, the least name of a
    value that cannot be read is reported. -/
theorem ofDocument_outcome (schema data : Value) (source : Path)
    (hschema : ∀ properties, schema.get? "properties" = some (.object properties) →
      Fields.Sorted properties)
    (hdata : ∀ entries, data = .object entries → Fields.Sorted entries) :
    let declared := declaredProperties schema
    let outcome : Except LoadError R := ofDocument schema data source
    ((∃ name ∈ declared, name ∉ properties R) →
      ∃ name ∈ declared, name ∉ properties R ∧
        (∀ other ∈ declared, other ∉ properties R → name ≤ other) ∧
        outcome = .error (.unknownProperty source (kind R) name)) ∧
    ((∀ name ∈ declared, name ∈ properties R) →
      (data.asObject? = none → outcome = .ok unset) ∧
      ((∃ r, outcome = .ok r) ↔ ∀ c ∈ cells (R := R), c.name ∈ declared → Fits data c) ∧
      (∀ r, outcome = .ok r → ∀ c ∈ cells (R := R), ∀ x : c.type, c.get r = some x ↔
        c.name ∈ declared ∧ ∃ v, data.get? c.name = some v ∧ v ≠ .null ∧ decode v = .ok x) ∧
      ((∃ c ∈ cells (R := R), c.name ∈ declared ∧ ¬ Fits data c) →
        ∃ c ∈ cells (R := R), c.name ∈ declared ∧
          (∀ d ∈ cells (R := R), d.name ∈ declared → ¬ Fits data d → c.name ≤ d.name) ∧
          ∃ v misfit, data.get? c.name = some v ∧ v ≠ .null ∧
            decode (α := c.type) v = .error misfit ∧
            outcome = .error (.invalidData source ("/" ++ c.name) "type" misfit.message))) ∧
    (∀ entries, data = .object entries →
      ofDocument schema (.object (entries.filter (declared.contains ·.1))) source = outcome) := by
  intro declared outcome
  have hsorted : Fields.Sorted (data.asObject?.getD []) := by
    cases data with
    | object entries => exact hdata entries rfl
    | _ => exact List.Pairwise.nil
  refine ⟨ofDocument_of_unknown (pairwise_declaredProperties hschema), fun hknown => ?_, ?_⟩
  · have houtcome : outcome = assignAll source declared unset (data.asObject?.getD []) :=
      ofDocument_of_known hknown
    rw [houtcome]
    refine ⟨fun hnone => ?_, exists_assignAll_iff_fits hsorted, ?_, exists_first_of_not_fits hsorted⟩
    · rw [hnone]
      rfl
    · intro r hr c hc x
      exact get_eq_some_iff hsorted hr hc x
  · rintro entries rfl
    exact ofDocument_filter schema source entries

/-- Neither the hooks nor the name can be read, null can, and the body is not declared. -/
theorem ofDocument_outcome_hooks :
    let schema := Value.object
      [("properties", .object [("hooks", .null), ("meta", .null), ("name", .null)])]
    let entries : Fields :=
      [("body", .bool true), ("hooks", .bool false), ("meta", .null), ("name", .bool true)]
    ofDocument (R := ScenarioRecord) schema (.object entries) ⟨"s.yaml"⟩ =
        .error (.invalidData ⟨"s.yaml"⟩ "/hooks" "type"
          (MisfitError.kind (.bool false) "a sequence").message) ∧
      ofDocument (R := ScenarioRecord) schema (.object (entries.drop 1)) ⟨"s.yaml"⟩ =
        ofDocument schema (.object entries) ⟨"s.yaml"⟩ := by
  intro schema entries
  have hdeclared : declaredProperties schema = ["hooks", "meta", "name"] := rfl
  obtain ⟨-, hknown, hfilter⟩ := ofDocument_outcome (R := ScenarioRecord) schema (.object entries)
    ⟨"s.yaml"⟩ (by rintro _ ⟨⟩; simp only [Fields.Sorted, Fields.keys]; decide)
    (by rintro _ ⟨⟩; simp only [entries, Fields.Sorted, Fields.keys]; decide)
  refine ⟨?_, hfilter entries rfl⟩
  obtain ⟨-, -, -, hfirst⟩ := hknown (by rw [hdeclared]; decide)
  let hooks : Cell ScenarioRecord := .mk "hooks" (List String) (·.hooks) ({ · with hooks := · })
  have hhooks : hooks ∈ cells (R := ScenarioRecord) := by simp [cells, hooks]
  have hfits : ¬ Fits (.object entries) hooks := not_fits_iff.2 ⟨.bool false, _, rfl, rfl⟩
  obtain ⟨c, hc, hname, hleast, v, misfit, hv, -, hdecode, houtcome⟩ :=
    hfirst ⟨hooks, hhooks, by rw [hdeclared]; decide, hfits⟩
  have hle : c.name ≤ "hooks" := hleast hooks hhooks (by rw [hdeclared]; decide) hfits
  have honly : ∀ name ∈ ["hooks", "meta", "name"], name ≤ "hooks" → name = "hooks" := by decide
  obtain rfl := eq_of_cell_name_eq hc hhooks (honly c.name hname hle)
  obtain rfl : Value.bool false = v := Option.some.inj hv
  obtain rfl : MisfitError.kind (.bool false) "a sequence" = misfit := Except.error.inj hdecode
  exact houtcome

end Documents

end Record

end ScenarioTree
