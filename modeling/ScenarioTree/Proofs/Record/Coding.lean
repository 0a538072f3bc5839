import ScenarioTree.Proofs.Basic
import ScenarioTree.Proofs.Schema.Forms
import ScenarioTree.Record.Kinds

/-!
# Reading and writing typed parts

What is read from a value of a form, written, and read again is the same. For most types even what is
written is what was read; parameters are written with all their lists and values, whether the
document has them or not.

Results:

* `Parameter.decode_encode`: what is read as a parameter is read again after it is written.
* `Parameters.keeps_iff`: parameters are kept if each of them is.
* `Form.codes_status` and its siblings: which type has the values of which form, and which values of
  the form it cannot read.
-/

namespace ScenarioTree

/-! ## Lists -/

theorem decode_list_eq_ok_iff {α : Type} [Coded α] {v : Value} {xs : List α} :
    decode v = .ok xs ↔
      ∃ items, v = .array items ∧ List.Forall₂ (fun item x => decode item = .ok x) items xs := by
  cases v <;> simp [decode, Coded.decode, mapM_eq_ok_iff]

theorem decode_encode_list_iff {α : Type} [Coded α] {xs : List α} :
    decode (encode xs) = .ok xs ↔ ∀ x ∈ xs, decode (encode x) = .ok x := by
  rw [decode_list_eq_ok_iff]
  simp [encode, Coded.encode, List.forall₂_map_left_iff, List.forall₂_same]

/-! ## Types that are written as they are read -/

/-- Types that are written as they are read. -/
class ExactlyCoded (α : Type) [Coded α] : Prop where
  encode_eq : ∀ {v : Value} {x : α}, decode v = .ok x → encode x = v

instance : ExactlyCoded Value := ⟨fun h => (Except.ok.inj h).symm⟩

instance : ExactlyCoded String := ⟨fun {v x} h => by
  cases v <;> cases h
  rfl⟩

instance : ExactlyCoded Fields := ⟨fun {v x} h => by
  cases v <;> cases h
  rfl⟩

instance : ExactlyCoded UInt16 := ⟨fun {v x} h => by
  cases v with
  | number n =>
    cases n with
    | int n =>
      simp only [decode, Coded.decode] at h
      split_ifs at h with hrange
      cases h
      have hn : (UInt16.ofNat n.toNat).toNat = n.toNat :=
        UInt16.toNat_ofNat_of_lt' (by have := hrange.2; omega)
      simp only [encode, Coded.encode, hn, Int.toNat_of_nonneg hrange.1]
    | float _ => cases h
  | _ => cases h⟩

instance {α : Type} [Coded α] [ExactlyCoded α] : ExactlyCoded (List α) := ⟨fun {v xs} h => by
  obtain ⟨items, rfl, hitems⟩ := decode_list_eq_ok_iff.1 h
  have heq : List.Forall₂ (fun item x => item = encode x) items xs :=
    hitems.imp fun item x hx => (ExactlyCoded.encode_eq hx).symm
  rw [← List.forall₂_map_right_iff, List.forall₂_eq_eq_eq] at heq
  exact congrArg Value.array heq.symm⟩

/-! ## Parameters -/

namespace Parameter

theorem decode_eq_ok_iff {v : Value} {p : Parameter} : decode v = .ok p ↔
    ∃ fields, v = .object fields ∧ Fields.get? "key" fields = some (.string p.key) ∧
      (Fields.get? "value" fields).getD .null = p.value ∧
      Fields.erase "value" (Fields.erase "key" fields) = p.extra := by
  obtain ⟨key, value, extra⟩ := p
  cases v with
  | object fields =>
    simp only [decode, Coded.decode, Parameter.ofValue]
    cases hkey : Fields.get? "key" fields with
    | none => simp [hkey]
    | some found =>
      cases found with
      | string s => simp [hkey, bind, Except.bind, pure, Except.pure]
      | _ => simp [hkey, bind, Except.bind]
  | _ => simp [decode, Coded.decode, Parameter.ofValue]

/-- The further fields of a parameter that has been read do not hold its key or its value. -/
theorem decode_encode {v : Value} {p : Parameter} (h : decode v = .ok p) :
    decode (encode p) = .ok p := by
  obtain ⟨fields, -, -, -, hextra⟩ := decode_eq_ok_iff.1 h
  refine decode_eq_ok_iff.2 ⟨_, rfl, Fields.get?_insert_self .., ?_, ?_⟩
  · rw [Fields.get?_insert_of_ne (by decide), Fields.get?_insert_self, Option.getD_some]
  · rw [Fields.erase_insert_self, Fields.erase_comm, Fields.erase_insert_self, ← hextra,
      Fields.erase_erase, Fields.erase_comm, Fields.erase_erase]

theorem exists_decode {v : Value} (h : v.IsParameter) : ∃ p : Parameter, decode v = .ok p := by
  obtain ⟨fields, rfl, ⟨_, hkey, key, rfl, -⟩, -⟩ := h
  exact ⟨⟨key, _, _⟩, decode_eq_ok_iff.2 ⟨fields, rfl, hkey, rfl, rfl⟩⟩

/-- A parameter that can be written, read back, and has the form of a parameter. -/
def IsKept (p : Parameter) : Prop := (encode p).IsParameter ∧ decode (encode p) = .ok p

theorem isKept_of_decode {v : Value} {p : Parameter} (hv : v.IsParameter) (h : decode v = .ok p) :
    p.IsKept := by
  refine ⟨?_, decode_encode h⟩
  obtain ⟨fields, rfl, hkey, -, hextra⟩ := decode_eq_ok_iff.1 h
  obtain ⟨_, ⟨⟩, ⟨key, hget, hsome⟩, hdescription⟩ := hv
  refine ⟨_, rfl, ⟨_, Fields.get?_insert_self .., ?_⟩, fun description hd => hdescription _ ?_⟩
  · rw [hkey] at hget
    cases hget
    exact hsome
  · rwa [Fields.get?_insert_of_ne (by decide), Fields.get?_insert_of_ne (by decide), ← hextra,
      Fields.get?_erase, if_neg (by decide), Fields.get?_erase, if_neg (by decide)] at hd

end Parameter

/-! ## Sections -/

/-- A value of a type that has a form when it is written, and can be read back. -/
def Form.Keeps {α : Type} [Coded α] (form : Form) (x : α) : Prop :=
  form.Admits (encode x) ∧ (encode x).isNull = false ∧ decode (encode x) = .ok x

theorem texts_keeps_iff {list : List String} :
    Form.texts.Keeps list ↔ ∀ s ∈ list, s ≠ "" := by
  have hdecode : decode (encode list) = .ok list := decode_encode_list_iff.2 fun _ _ => rfl
  rw [Form.Keeps, and_iff_left ⟨rfl, hdecode⟩]
  simp [Form.Admits, Value.IsTexts, Value.IsSomeText, encode, Coded.encode]

theorem metadata_keeps_iff {fields : Fields} : Form.metadata.Keeps fields ↔
    ∀ tags, Fields.get? "tags" fields = some tags → tags.IsTexts := by
  rw [Form.Keeps, and_iff_left ⟨rfl, rfl⟩]
  simp [Form.Admits, Value.IsMetadata, encode, Coded.encode]

theorem isParameterList_encode_iff {list : List Parameter} :
    (encode list).IsParameterList ↔ ∀ p ∈ list, (encode p).IsParameter := by
  simp [encode, Coded.encode, Value.IsParameterList]

namespace Parameters

theorem decode_object_eq_ok_iff {fields : Fields} {p : Parameters} :
    decode (.object fields) = .ok p ↔ decodeField fields "headers" [] = .ok p.headers ∧
      decodeField fields "path_variables" [] = .ok p.pathVariables ∧
      decodeField fields "query_params" [] = .ok p.queryParams := by
  obtain ⟨headers, pathVariables, queryParams⟩ := p
  simp only [decode, Coded.decode, ofValue, bind_eq_ok_iff]
  constructor
  · rintro ⟨a, ha, b, hb, c, hc, h⟩
    cases h
    exact ⟨ha, hb, hc⟩
  · rintro ⟨ha, hb, hc⟩
    exact ⟨_, ha, _, hb, _, hc, rfl⟩

theorem keeps_iff {p : Parameters} : Form.parameters.Keeps p ↔
    (∀ q ∈ p.headers, q.IsKept) ∧ (∀ q ∈ p.pathVariables, q.IsKept) ∧
      ∀ q ∈ p.queryParams, q.IsKept := by
  have hadmits : Form.parameters.Admits (encode p) ↔ (∀ q ∈ p.headers, (encode q).IsParameter) ∧
      (∀ q ∈ p.pathVariables, (encode q).IsParameter) ∧
      ∀ q ∈ p.queryParams, (encode q).IsParameter := by
    simp only [← isParameterList_encode_iff]
    change (Value.object [("headers", encode p.headers), ("path_variables", encode p.pathVariables),
      ("query_params", encode p.queryParams)]).IsParameters ↔ _
    simp only [Value.IsParameters, Value.object.injEq, exists_eq_left', List.forall_mem_cons]
    simp [Value.parameterLists]
  have hdecode : decode (encode p) = .ok p ↔ (∀ q ∈ p.headers, decode (encode q) = .ok q) ∧
      (∀ q ∈ p.pathVariables, decode (encode q) = .ok q) ∧
      ∀ q ∈ p.queryParams, decode (encode q) = .ok q := by
    simp only [← decode_encode_list_iff]
    exact decode_object_eq_ok_iff
  have hnull : (encode p).isNull = false := rfl
  simp only [Form.Keeps, hadmits, hdecode, hnull, Parameter.IsKept, forall_and]
  tauto

/-- Every list in a map of parameters can be read, and its parameters are kept. -/
theorem exists_decodeField {fields : Fields} (h : (Value.object fields).IsParameters) (key : String) :
    ∃ list : List Parameter, decodeField fields key [] = .ok list ∧ ∀ p ∈ list, p.IsKept := by
  obtain ⟨_, ⟨⟩, hlists⟩ := h
  unfold decodeField
  cases hkey : Fields.get? key fields with
  | none => exact ⟨[], rfl, by simp⟩
  | some v =>
    obtain ⟨items, rfl, hitems⟩ := (hlists _ (Fields.mem_of_get?_eq_some hkey)).2
    obtain ⟨list, hlist⟩ := exists_mapM_eq_ok fun item hitem =>
      Parameter.exists_decode (hitems item hitem)
    refine ⟨list, hlist, fun p hp => ?_⟩
    obtain ⟨item, hitem, hdecode⟩ := exists_of_forall₂ (mapM_eq_ok_iff.1 hlist) p hp
    exact Parameter.isKept_of_decode (hitems item hitem) hdecode

theorem exists_decode {v : Value} (h : v.IsParameters) :
    ∃ p : Parameters, decode v = .ok p ∧ Form.parameters.Keeps p := by
  obtain ⟨fields, rfl, -⟩ := id h
  obtain ⟨headers, hheaders, hkept⟩ := exists_decodeField h "headers"
  obtain ⟨pathVariables, hpathVariables, hkept'⟩ := exists_decodeField h "path_variables"
  obtain ⟨queryParams, hqueryParams, hkept''⟩ := exists_decodeField h "query_params"
  exact ⟨⟨headers, pathVariables, queryParams⟩,
    decode_object_eq_ok_iff.2 ⟨hheaders, hpathVariables, hqueryParams⟩,
    keeps_iff.2 ⟨hkept, hkept', hkept''⟩⟩

end Parameters

/-! ## Types of properties -/

namespace Form

/-- Whether a number is written as the type of its property has it: an integer, without a fraction. -/
def IsWritten : Form → Value → Prop
  | status, v => ∃ n, v = .number (.int n)
  | _, _ => True

/-- A type that has the values of a form. -/
structure Codes (form : Form) (α : Type) [Coded α] : Prop where
  exists_decode_iff : ∀ {v : Value}, form.Admits v →
    ((∃ x : α, decode v = .ok x) ↔ form.IsWritten v)
  keeps : ∀ {v : Value} {x : α}, form.Admits v → v.isNull = false → decode v = .ok x →
    form.Keeps x

theorem codes_of_exactlyCoded {α : Type} [Coded α] [ExactlyCoded α] {form : Form}
    (h : ∀ {v : Value}, form.Admits v → ((∃ x : α, decode v = .ok x) ↔ form.IsWritten v)) :
    form.Codes α where
  exists_decode_iff := h
  keeps {v x} hadmits hnull hdecode := by
    obtain rfl := ExactlyCoded.encode_eq hdecode
    exact ⟨hadmits, hnull, hdecode⟩

theorem codes_any : any.Codes Value :=
  codes_of_exactlyCoded fun _ => iff_of_true ⟨_, rfl⟩ trivial

theorem codes_text : text.Codes String :=
  codes_of_exactlyCoded fun ⟨s, hs⟩ => iff_of_true ⟨s, hs ▸ rfl⟩ trivial

theorem codes_someText : someText.Codes String :=
  codes_of_exactlyCoded fun ⟨s, hs, _⟩ => iff_of_true ⟨s, hs ▸ rfl⟩ trivial

theorem codes_method : method.Codes String :=
  codes_of_exactlyCoded fun ⟨s, hs, _⟩ => iff_of_true ⟨s, hs ▸ rfl⟩ trivial

theorem codes_path : path.Codes String :=
  codes_of_exactlyCoded fun ⟨s, hs, _⟩ => iff_of_true ⟨s, hs ▸ rfl⟩ trivial

theorem codes_texts : texts.Codes (List String) := codes_of_exactlyCoded fun hv => by
  obtain ⟨items, rfl, hitems⟩ := hv
  obtain ⟨list, hlist⟩ : ∃ list : List String, items.mapM decode = .ok list :=
    exists_mapM_eq_ok fun item hitem => by
      obtain ⟨s, rfl, -⟩ := hitems item hitem
      exact ⟨s, rfl⟩
  exact iff_of_true ⟨list, hlist⟩ trivial

theorem codes_metadata : metadata.Codes Fields :=
  codes_of_exactlyCoded fun ⟨fields, hfields, _⟩ => iff_of_true ⟨fields, hfields ▸ rfl⟩ trivial

/-- The range of status codes is within that of the type, but a float is not read as an integer. -/
theorem codes_status : status.Codes UInt16 := codes_of_exactlyCoded fun hv => by
  obtain ⟨n, rfl, -, hleast, hmost⟩ := hv
  cases n with
  | float x => simp [decode, Coded.decode, IsWritten]
  | int n =>
    simp only [Number.lt, decide_eq_false_iff_not] at hleast hmost
    refine iff_of_true ⟨UInt16.ofNat n.toNat, ?_⟩ ⟨n, rfl⟩
    simp only [decode, Coded.decode]
    rw [if_pos ⟨by omega, by simp; omega⟩]

theorem codes_parameters : parameters.Codes Parameters where
  exists_decode_iff h := iff_of_true ((Parameters.exists_decode h).imp fun _ h => h.1) trivial
  keeps {v p} h _ hdecode := by
    obtain ⟨q, hq, hkeeps⟩ := Parameters.exists_decode h
    rw [hdecode] at hq
    cases hq
    exact hkeeps

end Form

end ScenarioTree
