import ScenarioTree.Proofs.Basic
import ScenarioTree.Reference

/-!
# Markers

A marker is a map with a target: a string under `$ref` that does not begin with `#`. A marker is live
if it stands in no other marker, whatever it stands beside. Expanding a tree asks for the content of
its live markers and for nothing else.

Results:

* `ofReference_isOk_iff`: a file can be referred to if its extension is one of JSON or YAML.
* `expand_isOk_iff`: a tree can be expanded if all of its live markers can.
* `expand_congr`: the expansion of a tree depends on its live markers only.
* `expand_of_markers_eq_nil`: a tree without live markers stands for itself.
* `markers_eq_nil_iff`: a tree has no live marker if it has no marker at all.
-/

namespace ScenarioTree

namespace Reference

/-! ## Definitions -/

mutual

/-- The targets of the live markers of a tree, in their order. -/
def markers : Value → List String
  | .object fields =>
    match target? fields with
    | some target => [target]
    | none => markersOfFields fields
  | .array items => markersOfItems items
  | _ => []

def markersOfFields : List (String × Value) → List String
  | [] => []
  | (_, v) :: rest => markers v ++ markersOfFields rest

def markersOfItems : List Value → List String
  | [] => []
  | v :: rest => markers v ++ markersOfItems rest

end

/-- The extensions of the files that documents refer to, in small letters. -/
def extensions : List String := ["json", "yaml", "yml"]

/-- A path whose extension is one of JSON or YAML, in small or capital letters. -/
def IsReferable (path : Path) : Prop :=
  String.ofList (path.extension.toList.map Char.toLower) ∈ extensions

/-- A value without parts. -/
def IsScalar : Value → Prop
  | .array _ | .object _ => False
  | _ => True

/-- The parts of a tree, itself included. -/
inductive Part (part : Value) : Value → Prop
  | whole : Part part part
  | field {fields : Fields} {key : String} {v : Value} :
    (key, v) ∈ fields → Part part v → Part part (.object fields)
  | item {items : List Value} {v : Value} :
    v ∈ items → Part part v → Part part (.array items)

/-- No part of the tree is a marker. -/
def MarkerFree (tree : Value) : Prop :=
  ∀ fields, Part (.object fields) tree → target? fields = none

/-! ## Files that can be referred to -/

/-- A file that is called `.env` has no extension. -/
theorem extension_of_env {path : Path} (h : path.fileName? = some ".env") :
    path.extension = "" := by
  unfold Path.extension
  rw [h]
  rfl

theorem isReferable_iff (path : Path) : IsReferable path ↔
    Format.ofExtension? path.extension = some .json ∨
      Format.ofExtension? path.extension = some .yaml := by
  unfold IsReferable extensions Format.ofExtension?
  generalize String.ofList (path.extension.toList.map Char.toLower) = extension
  split <;> simp_all

theorem ofReference_isOk_iff (path : Path) :
    (∃ format, Format.ofReference path = .ok format) ↔ IsReferable path := by
  rw [isReferable_iff]
  unfold Format.ofReference Format.ofPath
  by_cases henv : path.fileName? = some ".env"
  · rw [if_pos henv, extension_of_env henv]
    show (∃ _, Except.error _ = _) ↔ _
    simp [Format.ofExtension?]
  · rw [if_neg henv]
    cases hformat : Format.ofExtension? path.extension with
    | none => simp [bind, Except.bind]
    | some format => cases format <;> simp [bind, Except.bind, pure, Except.pure, throw, throwThe,
        MonadExceptOf.throw]

/-! ## Scalars -/

theorem markers_of_isScalar (v : Value) (h : IsScalar v) : markers v = [] := by
  cases v <;> first | exact h.elim | simp [markers]

theorem expand_of_isScalar (content : Path → Except FileError Value) (directory : Path) (v : Value)
    (h : IsScalar v) : expand content directory v = .ok v := by
  cases v <;> first | exact h.elim | simp [expand]

theorem not_part_of_isScalar {v : Value} (h : IsScalar v) (fields : Fields) :
    ¬ Part (.object fields) v := by
  intro hpart
  cases hpart <;> exact h.elim

theorem markerFree_of_isScalar (v : Value) (h : IsScalar v) : MarkerFree v :=
  fun fields hpart => absurd hpart (not_part_of_isScalar h fields)

/-! ## What expanding a tree asks for -/

section Expand

variable {content : Path → Except FileError Value} {directory : Path}

theorem expand_marker_eq_ok_iff {fields : Fields} {target : String}
    (h : target? fields = some target) {v : Value} :
    expand content directory (.object fields) = .ok v ↔
      IsReferable (Path.locate directory target) ∧
        content (Path.locate directory target) = .ok v := by
  rw [expand, h]
  show (Format.ofReference _ >>= fun _ => content _) = _ ↔ _
  rw [bind_eq_ok_iff, ← ofReference_isOk_iff, exists_and_right]

theorem expand_object_eq_ok_iff {fields : Fields} (h : target? fields = none) {v : Value} :
    expand content directory (.object fields) = .ok v ↔
      ∃ fields', expandFields content directory fields = .ok fields' ∧ .object fields' = v := by
  rw [expand, h]
  show (expandFields content directory fields >>= fun fields' => .ok (Value.object fields')) = _ ↔ _
  simp only [bind_eq_ok_iff, Except.ok.injEq]

theorem expand_array_eq_ok_iff {items : List Value} {v : Value} :
    expand content directory (.array items) = .ok v ↔
      ∃ items', expandItems content directory items = .ok items' ∧ .array items' = v := by
  rw [expand]
  show (expandItems content directory items >>= fun items' => .ok (Value.array items')) = _ ↔ _
  simp only [bind_eq_ok_iff, Except.ok.injEq]

theorem expandFields_cons_eq_ok_iff {key : String} {v : Value} {rest fields : Fields} :
    expandFields content directory ((key, v) :: rest) = .ok fields ↔
      ∃ v' rest', expand content directory v = .ok v' ∧
        expandFields content directory rest = .ok rest' ∧ (key, v') :: rest' = fields := by
  rw [expandFields]
  show (expand content directory v >>= fun v' => expandFields content directory rest >>=
    fun rest' => .ok ((key, v') :: rest')) = _ ↔ _
  simp only [bind_eq_ok_iff, Except.ok.injEq, exists_and_left]

theorem expandItems_cons_eq_ok_iff {v : Value} {rest items : List Value} :
    expandItems content directory (v :: rest) = .ok items ↔
      ∃ v' rest', expand content directory v = .ok v' ∧
        expandItems content directory rest = .ok rest' ∧ v' :: rest' = items := by
  rw [expandItems]
  show (expand content directory v >>= fun v' => expandItems content directory rest >>=
    fun rest' => .ok (v' :: rest')) = _ ↔ _
  simp only [bind_eq_ok_iff, Except.ok.injEq, exists_and_left]

/-- A target that a directory names has a content, and may be referred to. -/
def Opens (content : Path → Except FileError Value) (directory : Path) (target : String) : Prop :=
  IsReferable (Path.locate directory target) ∧
    ∃ v, content (Path.locate directory target) = .ok v

mutual

theorem expand_isOk_iff : ∀ tree : Value,
    (∃ v, expand content directory tree = .ok v) ↔
      ∀ target ∈ markers tree, Opens content directory target
  | .object fields => by
    cases h : target? fields with
    | some target =>
      simp only [expand_marker_eq_ok_iff h, exists_and_left, markers, h, List.mem_singleton,
        forall_eq, Opens]
    | none =>
      simp only [expand_object_eq_ok_iff h, markers, h]
      rw [← expandFields_isOk_iff fields]
      exact ⟨fun ⟨_, fields', hf, _⟩ => ⟨fields', hf⟩, fun ⟨fields', hf⟩ => ⟨_, fields', hf, rfl⟩⟩
  | .array items => by
    simp only [expand_array_eq_ok_iff, markers]
    rw [← expandItems_isOk_iff items]
    exact ⟨fun ⟨_, items', hi, _⟩ => ⟨items', hi⟩, fun ⟨items', hi⟩ => ⟨_, items', hi, rfl⟩⟩
  | .null => by simp [expand, markers]
  | .bool _ => by simp [expand, markers]
  | .number _ => by simp [expand, markers]
  | .string _ => by simp [expand, markers]

theorem expandFields_isOk_iff : ∀ fields : List (String × Value),
    (∃ fields', expandFields content directory fields = .ok fields') ↔
      ∀ target ∈ markersOfFields fields, Opens content directory target
  | [] => by simp [expandFields, markersOfFields]
  | (key, v) :: rest => by
    simp only [expandFields_cons_eq_ok_iff, markersOfFields, List.forall_mem_append]
    rw [← expand_isOk_iff v, ← expandFields_isOk_iff rest]
    exact ⟨fun ⟨_, v', rest', hv, hr, _⟩ => ⟨⟨v', hv⟩, rest', hr⟩,
      fun ⟨⟨v', hv⟩, rest', hr⟩ => ⟨_, v', rest', hv, hr, rfl⟩⟩

theorem expandItems_isOk_iff : ∀ items : List Value,
    (∃ items', expandItems content directory items = .ok items') ↔
      ∀ target ∈ markersOfItems items, Opens content directory target
  | [] => by simp [expandItems, markersOfItems]
  | v :: rest => by
    simp only [expandItems_cons_eq_ok_iff, markersOfItems, List.forall_mem_append]
    rw [← expand_isOk_iff v, ← expandItems_isOk_iff rest]
    exact ⟨fun ⟨_, v', rest', hv, hr, _⟩ => ⟨⟨v', hv⟩, rest', hr⟩,
      fun ⟨⟨v', hv⟩, rest', hr⟩ => ⟨_, v', rest', hv, hr, rfl⟩⟩

end

mutual

/-- Expanding a tree looks at the content of nothing but its live markers. -/
theorem expand_congr {content' : Path → Except FileError Value} : ∀ tree : Value,
    (∀ target ∈ markers tree,
      content (Path.locate directory target) = content' (Path.locate directory target)) →
    expand content directory tree = expand content' directory tree
  | .object fields, h => by
    cases htarget : target? fields with
    | some target =>
      have hcontent := h target (by simp [markers, htarget])
      rw [expand, expand, htarget]
      show (_ >>= fun _ => content _) = (_ >>= fun _ => content' _)
      rw [hcontent]
    | none =>
      simp only [markers, htarget] at h
      rw [expand, expand, htarget]
      show (expandFields content directory fields >>= _) = (expandFields _ _ _ >>= _)
      rw [expandFields_congr fields h]
  | .array items, h => by
    simp only [markers] at h
    rw [expand, expand, expandItems_congr items h]
  | .null, _ | .bool _, _ | .number _, _ | .string _, _ => by
    rw [expand_of_isScalar content, expand_of_isScalar content'] <;> trivial

theorem expandFields_congr {content' : Path → Except FileError Value} :
    ∀ fields : List (String × Value),
      (∀ target ∈ markersOfFields fields,
        content (Path.locate directory target) = content' (Path.locate directory target)) →
      expandFields content directory fields = expandFields content' directory fields
  | [], _ => by rw [expandFields, expandFields]
  | (key, v) :: rest, h => by
    rw [markersOfFields, List.forall_mem_append] at h
    rw [expandFields, expandFields, expand_congr v h.1, expandFields_congr rest h.2]

theorem expandItems_congr {content' : Path → Except FileError Value} : ∀ items : List Value,
    (∀ target ∈ markersOfItems items,
      content (Path.locate directory target) = content' (Path.locate directory target)) →
    expandItems content directory items = expandItems content' directory items
  | [], _ => by rw [expandItems, expandItems]
  | v :: rest, h => by
    rw [markersOfItems, List.forall_mem_append] at h
    rw [expandItems, expandItems, expand_congr v h.1, expandItems_congr rest h.2]

end

mutual

/-- A tree without live markers stands for itself, whatever the files are. -/
theorem expand_of_markers_eq_nil : ∀ tree : Value, markers tree = [] →
    expand content directory tree = .ok tree
  | .object fields, h => by
    cases htarget : target? fields with
    | some target => simp [markers, htarget] at h
    | none =>
      simp only [markers, htarget] at h
      exact (expand_object_eq_ok_iff htarget).2 ⟨fields, expandFields_of_markers_eq_nil fields h, rfl⟩
  | .array items, h =>
    expand_array_eq_ok_iff.2 ⟨items, expandItems_of_markers_eq_nil items (by simpa [markers] using h), rfl⟩
  | .null, _ => expand_of_isScalar content directory _ trivial
  | .bool _, _ => expand_of_isScalar content directory _ trivial
  | .number _, _ => expand_of_isScalar content directory _ trivial
  | .string _, _ => expand_of_isScalar content directory _ trivial

theorem expandFields_of_markers_eq_nil : ∀ fields : List (String × Value),
    markersOfFields fields = [] → expandFields content directory fields = .ok fields
  | [], _ => by rw [expandFields]
  | (key, v) :: rest, h => by
    rw [markersOfFields, List.append_eq_nil_iff] at h
    exact expandFields_cons_eq_ok_iff.2 ⟨v, rest, expand_of_markers_eq_nil v h.1,
      expandFields_of_markers_eq_nil rest h.2, rfl⟩

theorem expandItems_of_markers_eq_nil : ∀ items : List Value,
    markersOfItems items = [] → expandItems content directory items = .ok items
  | [], _ => by rw [expandItems]
  | v :: rest, h => by
    rw [markersOfItems, List.append_eq_nil_iff] at h
    exact expandItems_cons_eq_ok_iff.2 ⟨v, rest, expand_of_markers_eq_nil v h.1,
      expandItems_of_markers_eq_nil rest h.2, rfl⟩

end

end Expand

/-! ## Trees without markers -/

/-- What is asked of all maps of a map is asked of the map itself and of the maps of its values. -/
theorem forall_part_object {P : Fields → Prop} {fields : Fields} :
    (∀ inner, Part (.object inner) (.object fields) → P inner) ↔
      P fields ∧ ∀ entry ∈ fields, ∀ inner, Part (.object inner) entry.2 → P inner := by
  constructor
  · intro h
    exact ⟨h fields .whole, fun entry hentry inner hpart => h inner (.field hentry hpart)⟩
  · rintro ⟨hself, hfields⟩ inner hpart
    cases hpart with
    | whole => exact hself
    | field hmem hpart => exact hfields _ hmem inner hpart

theorem forall_part_array {P : Fields → Prop} {items : List Value} :
    (∀ inner, Part (.object inner) (.array items) → P inner) ↔
      ∀ v ∈ items, ∀ inner, Part (.object inner) v → P inner := by
  constructor
  · intro h v hv inner hpart
    exact h inner (.item hv hpart)
  · intro h inner hpart
    cases hpart with
    | item hmem hpart => exact h _ hmem inner hpart

theorem markerFree_object {fields : Fields} : MarkerFree (.object fields) ↔
    target? fields = none ∧ ∀ entry ∈ fields, MarkerFree entry.2 := forall_part_object

theorem markerFree_array {items : List Value} :
    MarkerFree (.array items) ↔ ∀ v ∈ items, MarkerFree v := forall_part_array

mutual

theorem markers_eq_nil_iff : ∀ tree : Value, markers tree = [] ↔ MarkerFree tree
  | .object fields => by
    rw [markerFree_object]
    cases h : target? fields with
    | some target => simp [markers, h]
    | none => simp only [markers, h, markersOfFields_eq_nil_iff fields, true_and]
  | .array items => by
    rw [markerFree_array, ← markersOfItems_eq_nil_iff items, markers]
  | .null => iff_of_true (markers_of_isScalar _ trivial) (markerFree_of_isScalar _ trivial)
  | .bool _ => iff_of_true (markers_of_isScalar _ trivial) (markerFree_of_isScalar _ trivial)
  | .number _ => iff_of_true (markers_of_isScalar _ trivial) (markerFree_of_isScalar _ trivial)
  | .string _ => iff_of_true (markers_of_isScalar _ trivial) (markerFree_of_isScalar _ trivial)

theorem markersOfFields_eq_nil_iff : ∀ fields : List (String × Value),
    markersOfFields fields = [] ↔ ∀ entry ∈ fields, MarkerFree entry.2
  | [] => by simp [markersOfFields]
  | (key, v) :: rest => by
    rw [markersOfFields, List.append_eq_nil_iff, markers_eq_nil_iff v,
      markersOfFields_eq_nil_iff rest, List.forall_mem_cons]

theorem markersOfItems_eq_nil_iff : ∀ items : List Value,
    markersOfItems items = [] ↔ ∀ v ∈ items, MarkerFree v
  | [] => by simp [markersOfItems]
  | v :: rest => by
    rw [markersOfItems, List.append_eq_nil_iff, markers_eq_nil_iff v,
      markersOfItems_eq_nil_iff rest, List.forall_mem_cons]

end

end Reference

end ScenarioTree
