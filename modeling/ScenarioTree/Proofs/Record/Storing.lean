import ScenarioTree.Proofs.Record.Cell

/-!
# Storing in a row

Values are stored in a record one after the other. A call that fails leaves the record as it is. Each
cell then holds what the last call under its name that did not fail has stored, as if it were the only
cell.

Results:

* `Record.get_store`, `Record.get_storeAll`: what one call and what all of them do to a cell.
* `Record.storeAll_congr`: only the order of the calls under one name matters.
* `Record.get?_toValue`: what a record is written as.
* `Record.storeAll_outcome`: what any calls make of a record.
-/

namespace ScenarioTree

namespace Record

variable {R : Type} [Record R]

/-! ## Definitions -/

/-- Stores a value under a name. If that fails, the record is left as it is. -/
def store (r : R) (call : String × Value) : R :=
  match assign r call.1 call.2 with
  | .ok s => s
  | .error _ => r

/-- Stores values in a row. -/
def storeAll (r : R) (calls : List (String × Value)) : R := calls.foldl store r

/-- What the calls store in a cell: null and the values that can be read, as what is read. -/
def results (c : Cell R) (calls : List (String × Value)) : List (Option c.type) :=
  calls.filterMap fun call => if call.1 = c.name then (decodeOptional call.2).toOption else none

/-! ## One cell -/

theorem store_of_error {r : R} {call : String × Value} (h : ∀ s, assign r call.1 call.2 ≠ .ok s) :
    store r call = r := by
  unfold store
  split
  · rename_i s hs
    exact absurd hs (h s)
  · rfl

theorem store_of_not_mem {call : String × Value} (h : call.1 ∉ properties R) (r : R) :
    store r call = r := by
  rw [store, assign_of_not_mem h]

variable [Celled R] {c : Cell R}

/-- Whether a value can be stored does not depend on the record. -/
theorem exists_assign_iff (hc : c ∈ cells) (r : R) (v : Value) :
    (∃ s, assign r c.name v = .ok s) ↔ c.Accepts v := by
  rw [assign_cell hc, Cell.accepts_iff]
  simp only [map_eq_ok_iff]
  constructor
  · rintro ⟨s, x, hx, -⟩
    exact ⟨x, hx⟩
  · rintro ⟨x, hx⟩
    exact ⟨c.set r x, x, hx, rfl⟩

/-- A call shows in the cell of its name, unless it fails. -/
theorem get_store (hc : c ∈ cells) (r : R) (call : String × Value) :
    c.get (store r call) = (results c [call]).getLast?.getD (c.get r) := by
  obtain ⟨name, v⟩ := call
  by_cases hname : name = c.name
  · subst hname
    cases hread : decodeOptional (α := c.type) v with
    | error misfit =>
      have hassign : assign r c.name v = .error misfit := by rw [assign_cell hc, hread]; rfl
      simp [store, results, hassign, hread, Except.toOption]
    | ok x =>
      have hassign : assign r c.name v = .ok (c.set r x) := by rw [assign_cell hc, hread]; rfl
      simp [store, results, hassign, hread, Except.toOption, c.get_set]
  · have hresults : results c [(name, v)] = [] := by simp [results, hname]
    rw [hresults, store]
    cases hassign : assign r name v with
    | error misfit => rfl
    | ok s =>
      have hget := get_assign hc hassign
      rw [if_neg hname] at hget
      exact hget

/-- A cell holds the last of the results, if there is one. -/
theorem get_storeAll (hc : c ∈ cells) (r : R) (calls : List (String × Value)) :
    c.get (storeAll r calls) = (results c calls).getLast?.getD (c.get r) := by
  induction calls generalizing r with
  | nil => rfl
  | cons call rest ih =>
    have hresults : results c (call :: rest) = results c [call] ++ results c rest :=
      List.filterMap_append (l := [call])
    have hrest : c.get (storeAll r (call :: rest)) =
      (results c rest).getLast?.getD (c.get (store r call)) := ih (store r call)
    rw [hrest, get_store hc, hresults, List.getLast?_append]
    cases (results c rest).getLast? <;> rfl

omit [Record R] [Celled R] in
theorem results_eq_nil_iff {calls : List (String × Value)} :
    results c calls = [] ↔ ∀ call ∈ calls, call.1 = c.name → ¬ c.Accepts call.2 := by
  simp only [results, List.filterMap_eq_nil_iff]
  refine forall₂_congr fun call _ => ?_
  by_cases hname : call.1 = c.name
  · simp only [hname, if_true, true_imp_iff, Cell.not_accepts_iff]
    cases decodeOptional (α := c.type) call.2 with
    | error misfit => simp [Except.toOption]
    | ok x => simp [Except.toOption]
  · simp [hname]

/-- A cell that no call could store in is as it was. -/
theorem get_storeAll_of_not_accepts (hc : c ∈ cells) (r : R) {calls : List (String × Value)}
    (h : ∀ call ∈ calls, call.1 = c.name → ¬ c.Accepts call.2) :
    c.get (storeAll r calls) = c.get r := by
  rw [get_storeAll hc, results_eq_nil_iff.2 h]
  rfl

/-- Of the calls that could store in a cell, the last one counts. -/
theorem get_storeAll_of_last (hc : c ∈ cells) (r : R) (front : List (String × Value))
    {back : List (String × Value)} {v : Value} (hv : c.Accepts v)
    (hback : ∀ call ∈ back, call.1 = c.name → ¬ c.Accepts call.2) :
    decodeOptional v = .ok (c.get (storeAll r (front ++ (c.name, v) :: back))) := by
  obtain ⟨x, hx⟩ := Cell.accepts_iff.1 hv
  have hcall : results c [(c.name, v)] = [x] := by simp [results, hx, Except.toOption]
  have hresults : results c (front ++ (c.name, v) :: back) = results c front ++ [x] := by
    rw [← List.singleton_append, results, List.filterMap_append, List.filterMap_append]
    change results c front ++ (results c [(c.name, v)] ++ results c back) = _
    rw [hcall, results_eq_nil_iff.2 hback, List.append_nil]
  rw [get_storeAll hc, hresults, List.getLast?_append, hx]
  rfl

/-! ## All cells -/

omit [Record R] [Celled R] in
theorem results_filter (c : Cell R) (calls : List (String × Value)) :
    results c (calls.filter (·.1 == c.name)) = results c calls := by
  rw [results, results, List.filterMap_filter]
  refine List.filterMap_congr fun call _ => ?_
  by_cases hname : call.1 = c.name
  · simp [hname]
  · simp [hname]

/-- Calls under different names can change places, and calls under unknown names can be left out. -/
theorem storeAll_congr {calls calls' : List (String × Value)}
    (h : ∀ name ∈ properties R, calls.filter (·.1 == name) = calls'.filter (·.1 == name)) (r : R) :
    storeAll r calls = storeAll r calls' := by
  refine Celled.eq_of_get_eq fun c hc => ?_
  rw [get_storeAll hc, get_storeAll hc, ← results_filter c calls, ← results_filter c calls',
    h c.name (mem_properties_iff.2 ⟨c, hc, rfl⟩)]

/-! ## Written records -/

theorem toValue_eq (r : R) : toValue r =
    .ofEntries (cells.filterMap fun c => ((c.get r).map encode).map (c.name, ·)) := by
  rw [toValue, Celled.fields_eq, List.filterMap_map]
  rfl

/-- A record is written with its set cells, each under its own name. -/
theorem get?_toValue (r : R) (name : String) (v : Value) :
    (toValue r).get? name = some v ↔
      ∃ c ∈ cells (R := R), c.name = name ∧ ∃ x, c.get r = some x ∧ encode x = v := by
  have hentry (key : String) (w : Value) :
      (key, w) ∈ cells.filterMap (fun c => ((c.get r).map encode).map (c.name, ·)) ↔
        ∃ c ∈ cells (R := R), c.name = key ∧ ∃ x, c.get r = some x ∧ encode x = w := by
    simp only [List.mem_filterMap, Option.map_eq_some_iff, Prod.mk.injEq]
    grind
  rw [toValue_eq, Value.ofEntries, Value.get?]
  have hread (key : String) (w : Value) (h : Fields.get? key (Fields.ofList (cells.filterMap
      fun c => ((c.get r).map encode).map (c.name, ·))) = some w) :=
    (hentry key w).1 (Fields.mem_of_mem_ofList (Fields.mem_of_get?_eq_some h))
  refine ⟨hread name v, ?_⟩
  rintro ⟨c, hc, rfl, x, hx, rfl⟩
  have hmem := (hentry c.name (encode x)).2 ⟨c, hc, rfl, x, hx, rfl⟩
  have hkey := Fields.mem_keys_ofList (List.mem_map_of_mem hmem)
  obtain ⟨w, hw⟩ := Option.ne_none_iff_exists'.1 (mt Fields.get?_eq_none_iff.1 (not_not.2 hkey))
  -- what is there is the value of the only cell of that name
  obtain ⟨d, hd, hname, y, hy, rfl⟩ := hread c.name w hw
  obtain rfl := eq_of_cell_name_eq hd hc hname
  rw [hx, Option.some.injEq] at hy
  rw [hw, hy]

/-! ## Runs -/

/-- What any calls make of a record in which nothing is set. Each cell holds what the last call that
    could store in it has stored, and nothing if there was none or if it was null. Whether a call can
    store does not depend on the record, and one that cannot leaves it as it is, like one under an
    unknown name. The calls can be put in any order that keeps the ones under each name in order. The
    record is written with the cells that are set, each under its name and with its value. -/
theorem storeAll_outcome (calls : List (String × Value)) :
    let r : R := storeAll unset calls
    (∀ c ∈ cells (R := R),
      ((∀ call ∈ calls, call.1 = c.name → ¬ c.Accepts call.2) → c.get r = none) ∧
      (∀ front v back, calls = front ++ (c.name, v) :: back → c.Accepts v →
        (∀ call ∈ back, call.1 = c.name → ¬ c.Accepts call.2) →
        (v = .null → c.get r = none) ∧
        (v ≠ .null → ∃ x, decode v = .ok x ∧ c.get r = some x))) ∧
    (∀ c ∈ cells (R := R), ∀ (s : R) v, (∃ t, assign s c.name v = .ok t) ↔ c.Accepts v) ∧
    (∀ (s : R) (call : String × Value),
      (call.1 ∉ properties R ∨ ∀ t, assign s call.1 call.2 ≠ .ok t) → store s call = s) ∧
    (∀ calls', (∀ name ∈ properties R,
      calls.filter (·.1 == name) = calls'.filter (·.1 == name)) → storeAll unset calls' = r) ∧
    ∃ fields, toValue r = .object fields ∧ Fields.Sorted fields ∧
      ∀ name v, Fields.get? name fields = some v ↔
        ∃ c ∈ cells (R := R), c.name = name ∧ ∃ x, c.get r = some x ∧ encode x = v := by
  intro r
  refine ⟨fun c hc => ⟨fun h => ?_, ?_⟩, fun c hc => exists_assign_iff hc, ?_, ?_, ?_⟩
  · rw [← Celled.get_unset c hc]
    exact get_storeAll_of_not_accepts hc unset h
  · rintro front v back rfl hv hback
    have hlast := get_storeAll_of_last hc unset front hv hback
    constructor
    · rintro rfl
      exact (Except.ok.inj hlast).symm
    · intro hnull
      obtain ⟨x, hx⟩ := hv.resolve_left hnull
      rw [decodeOptional_eq_some_iff.2 ⟨hnull, hx⟩, Except.ok.injEq] at hlast
      exact ⟨x, hx, hlast.symm⟩
  · rintro s call (hunknown | hfails)
    · exact store_of_not_mem hunknown s
    · exact store_of_error hfails
  · intro calls' h
    exact (storeAll_congr h unset).symm
  · exact ⟨_, rfl, Fields.sorted_ofList _, get?_toValue r⟩

/-- The second hooks cannot be read, the status is taken back, and there is no property for tags. -/
theorem storeAll_outcome_hooks :
    let calls : List (String × Value) :=
      [("expected_status", .number (.int 200)), ("hooks", .array [.string "login"]),
        ("expected_status", .null), ("tags", .null), ("hooks", .bool true)]
    (storeAll (unset : ScenarioRecord) calls).hooks = some ["login"] ∧
      (storeAll (unset : ScenarioRecord) calls).expectedStatus = none ∧
      storeAll (unset : ScenarioRecord) (calls.filter (·.1 == "hooks") ++
        calls.filter (·.1 == "expected_status")) = storeAll unset calls := by
  intro calls
  obtain ⟨hcells, -, -, horder, -⟩ := storeAll_outcome (R := ScenarioRecord) calls
  let hooks : Cell ScenarioRecord := .mk "hooks" (List String) (·.hooks) ({ · with hooks := · })
  let status : Cell ScenarioRecord :=
    .mk "expected_status" UInt16 (·.expectedStatus) ({ · with expectedStatus := · })
  refine ⟨?_, ?_, horder _ (by simp [properties, fields, Field.of, calls])⟩
  · have hfails : ¬ hooks.Accepts (.bool true) := Cell.not_accepts_iff.2 ⟨_, rfl⟩
    have hnull : Value.array [.string "login"] ≠ .null := by simp
    obtain ⟨x, hx, hget⟩ := ((hcells hooks (by simp [cells, hooks])).2
      (calls.take 1) (.array [.string "login"]) (calls.drop 2) rfl (.inr ⟨["login"], rfl⟩)
      (by simp [calls, hooks, hfails])).2 hnull
    cases hx
    exact hget
  · exact ((hcells status (by simp [cells, status])).2
      (calls.take 2) .null (calls.drop 3) rfl (.inl rfl) (by simp [calls, status])).1 rfl

end Record

end ScenarioTree
