import ScenarioTree.Proofs.Reference.Expansion

/-!
# Resolved trees

Whether a map is a marker is decided before its fields are expanded. A map with a marker under `$ref`
is none itself, but it becomes one if that marker stands for a string that does not begin with `#`.
This is the only way in which a marker comes into a resolved tree, and the only reason for which
resolving a second time can change it.

Results:

* `Expansion.markerFree_iff`: when an expansion has no marker.
* `resolve_idempotent_iff`: when a resolved tree has no marker and stands for itself from then on.
* `resolve_not_idempotent`: a tree that resolving makes a marker of.
-/

namespace ScenarioTree

namespace Reference

/-! ## Definitions -/

/-- Expanding the map makes a marker of it: under `$ref` it has a marker that stands for a string that
    does not begin with `#`. -/
def BecomesMarker (source : Source) (directory : Path) (fields : Fields) : Prop :=
  ∃ inner target text, Fields.get? key fields = some (.object inner) ∧
    target? inner = some target ∧
    Denotes source (Path.locate directory target) (.string text) ∧ text.toList.head? ≠ some '#'

/-- A map of the tree, or of a document that comes in the place of one of its live markers, becomes a
    marker. -/
inductive MakesMarker (source : Source) : Path → Value → Prop
  | here {directory : Path} {fields : Fields} :
    target? fields = none → BecomesMarker source directory fields →
    MakesMarker source directory (.object fields)
  | field {directory : Path} {fields : Fields} {entry : String × Value} :
    target? fields = none → entry ∈ fields → MakesMarker source directory entry.2 →
    MakesMarker source directory (.object fields)
  | item {directory : Path} {items : List Value} {v : Value} :
    v ∈ items → MakesMarker source directory v → MakesMarker source directory (.array items)
  | follow {directory : Path} {fields : Fields} {target : String} {document : Value} :
    target? fields = some target →
    source.load (Path.locate directory target) = .ok document →
    MakesMarker source (Path.locate directory target).directory document →
    MakesMarker source directory (.object fields)

/-! ## Where markers are made -/

section Cases

variable {source : Source} {directory : Path}

theorem not_makesMarker_of_isScalar {v : Value} (h : IsScalar v) :
    ¬ MakesMarker source directory v := by
  intro hmakes
  cases hmakes <;> exact h.elim

theorem makesMarker_marker_iff {fields : Fields} {target : String} {document : Value}
    (ht : target? fields = some target)
    (hl : source.load (Path.locate directory target) = .ok document) :
    MakesMarker source directory (.object fields) ↔
      MakesMarker source (Path.locate directory target).directory document := by
  refine ⟨fun h => ?_, .follow ht hl⟩
  cases h with
  | here ht' => rw [ht] at ht'; cases ht'
  | field ht' => rw [ht] at ht'; cases ht'
  | follow ht' hl' h =>
    obtain rfl := Option.some.inj (ht.symm.trans ht')
    obtain rfl := Except.ok.inj (hl.symm.trans hl')
    exact h

theorem makesMarker_object_iff {fields : Fields} (ht : target? fields = none) :
    MakesMarker source directory (.object fields) ↔
      BecomesMarker source directory fields ∨
        ∃ entry ∈ fields, MakesMarker source directory entry.2 := by
  constructor
  · intro h
    cases h with
    | here _ h => exact .inl h
    | field _ hmem h => exact .inr ⟨_, hmem, h⟩
    | follow ht' => rw [ht] at ht'; cases ht'
  · rintro (h | ⟨entry, hmem, h⟩)
    · exact .here ht h
    · exact .field ht hmem h

theorem makesMarker_array_iff {items : List Value} :
    MakesMarker source directory (.array items) ↔ ∃ v ∈ items, MakesMarker source directory v := by
  constructor
  · intro h
    cases h with
    | item hmem h => exact ⟨_, hmem, h⟩
  · rintro ⟨v, hmem, h⟩
    exact .item hmem h

/-! ## What stands under a key -/

theorem target?_eq_some_iff {fields : Fields} {target : String} : target? fields = some target ↔
    Fields.get? key fields = some (.string target) ∧ target.toList.head? ≠ some '#' := by
  unfold target?
  split
  · rename_i text hget
    rw [hget]
    split_ifs with htext
    · simp only [Option.some.injEq, Value.string.injEq, false_iff, not_and, not_not]
      rintro rfl
      exact htext
    · simp only [Option.some.injEq, Value.string.injEq]
      constructor
      · rintro rfl
        exact ⟨rfl, htext⟩
      · exact fun h => h.1
  · rename_i hget
    simp only [false_iff, not_and, reduceCtorEq]
    exact fun h => absurd h (hget target)

theorem ExpansionOfFields.get? {fields fields' : Fields}
    (h : ExpansionOfFields source directory fields fields') (key : String) :
    Option.Rel (Expansion source directory) (Fields.get? key fields) (Fields.get? key fields') := by
  induction fields generalizing fields' with
  | nil =>
    cases h
    exact .none
  | cons entry rest ih =>
    obtain ⟨k, v⟩ := entry
    cases h with
    | cons hv hrest =>
      rw [Fields.get?_cons, Fields.get?_cons]
      split_ifs
      · exact .some hv
      · exact ih hrest

theorem Expansion.string_iff {v : Value} {text : String} :
    Expansion source directory v (.string text) ↔ v = .string text ∨
      ∃ inner target, v = .object inner ∧ target? inner = some target ∧
        Denotes source (Path.locate directory target) (.string text) := by
  constructor
  · intro h
    cases h with
    | scalar => exact .inl rfl
    | marker ht hl h => exact .inr ⟨_, _, rfl, ht, _, hl, h⟩
  · rintro (rfl | ⟨inner, target, rfl, ht, document, hl, h⟩)
    · exact .scalar trivial
    · exact .marker ht hl h

/-- A map that is no marker is one after its expansion exactly if it becomes one. -/
theorem becomesMarker_iff {fields fields' : Fields} (ht : target? fields = none)
    (h : ExpansionOfFields source directory fields fields') :
    BecomesMarker source directory fields ↔ ∃ target, target? fields' = some target := by
  have hget := h.get? key
  constructor
  · rintro ⟨inner, target, text, hfields, htarget, hdenotes, htext⟩
    have hstring : Expansion source directory (.object inner) (.string text) :=
      Expansion.string_iff.2 (.inr ⟨inner, target, rfl, htarget, hdenotes⟩)
    rw [hfields] at hget
    generalize hfields' : Fields.get? key fields' = value at hget
    cases hget with
    | some hvalue => exact ⟨text, target?_eq_some_iff.2 ⟨by rw [hfields', hvalue.unique hstring], htext⟩⟩
  · rintro ⟨text, htarget⟩
    obtain ⟨hfields', htext⟩ := target?_eq_some_iff.1 htarget
    rw [hfields'] at hget
    generalize hfields : Fields.get? key fields = value at hget
    cases hget with
    | some hvalue =>
      rcases Expansion.string_iff.1 hvalue with rfl | ⟨inner, target, rfl, hinner, hdenotes⟩
      · rw [target?_eq_some_iff.2 ⟨hfields, htext⟩] at ht
        cases ht
      · exact ⟨inner, target, text, hfields, hinner, hdenotes, htext⟩

end Cases

/-! ## When a resolved tree has no marker -/

mutual

theorem Expansion.markerFree_iff {source : Source} : ∀ {directory : Path} {tree v : Value},
    Expansion source directory tree v → (MarkerFree v ↔ ¬ MakesMarker source directory tree)
  | _, _, _, .scalar h =>
    iff_of_true (markerFree_of_isScalar _ h) (not_makesMarker_of_isScalar h)
  | _, _, _, .marker ht hl hv => by
    rw [makesMarker_marker_iff ht hl]
    exact hv.markerFree_iff
  | _, _, _, .object ht hf => by
    rw [markerFree_object, makesMarker_object_iff ht, becomesMarker_iff ht hf, hf.markerFree_iff]
    simp only [not_or, not_exists, not_and, Option.eq_none_iff_forall_ne_some, ne_eq]
  | _, _, _, .array hi => by
    rw [markerFree_array, makesMarker_array_iff, hi.markerFree_iff]
    simp only [not_exists, not_and]

theorem ExpansionOfFields.markerFree_iff {source : Source} :
    ∀ {directory : Path} {fields fields' : List (String × Value)},
      ExpansionOfFields source directory fields fields' →
      ((∀ entry ∈ fields', MarkerFree entry.2) ↔
        ∀ entry ∈ fields, ¬ MakesMarker source directory entry.2)
  | _, _, _, .nil => by simp
  | _, _, _, .cons hv hrest => by
    rw [List.forall_mem_cons, List.forall_mem_cons, hv.markerFree_iff, hrest.markerFree_iff]

theorem ExpansionOfItems.markerFree_iff {source : Source} :
    ∀ {directory : Path} {items items' : List Value},
      ExpansionOfItems source directory items items' →
      ((∀ v ∈ items', MarkerFree v) ↔ ∀ v ∈ items, ¬ MakesMarker source directory v)
  | _, _, _, .nil => by simp
  | _, _, _, .cons hv hrest => by
    rw [List.forall_mem_cons, List.forall_mem_cons, hv.markerFree_iff, hrest.markerFree_iff]

end

end Reference

namespace Resolver

open Reference

/-! ## Resolving again -/

/-- A resolver without files, which may open none. -/
def closed : Resolver := ⟨{ load := fun path => .error (.invalidPath path) }, id, 0⟩

/-- A tree stands for itself under all resolvers exactly if it has no marker: a resolver that may open
    no file fails at the first one. -/
theorem resolve_eq_self_iff {tree : Value} :
    (∀ (resolver : Resolver) (directory : Path), resolver.resolve directory tree = .ok tree) ↔
      MarkerFree tree := by
  rw [← markers_eq_nil_iff]
  constructor
  · intro h
    have hopens := (expand_isOk_iff tree).1 ⟨tree, h closed ⟨""⟩⟩
    refine List.eq_nil_iff_forall_not_mem.2 fun target htarget => ?_
    obtain ⟨-, v, hv⟩ := hopens target htarget
    obtain ⟨-, left, hleft, -⟩ := closed.openFile_eq_ok_iff.1 hv
    cases hleft
  · intro h resolver directory
    exact expand_of_markers_eq_nil tree h

/-- A resolved tree is without markers, and stands for itself under all resolvers, exactly if no map
    became a marker when it was resolved. -/
theorem resolve_idempotent_iff {resolver : Resolver} {directory : Path} {tree t : Value}
    (h : resolver.resolve directory tree = .ok t) :
    (MarkerFree t ↔ ¬ MakesMarker resolver.source directory tree) ∧
      ((∀ (again : Resolver) (directory' : Path), again.resolve directory' t = .ok t) ↔
        ¬ MakesMarker resolver.source directory tree) := by
  have hexpansion : Expansion resolver.source directory tree t :=
    expansion_of_expand (fun _ _ hv => resolver.denotes_of_openFile hv) h
  rw [resolve_eq_self_iff]
  exact ⟨hexpansion.markerFree_iff, hexpansion.markerFree_iff⟩

/-! ## A marker under the key of markers -/

/-- Two files, of which the first holds the path of the second. -/
def pathInFile : Source :=
  .ofDocuments [(⟨"/a.yaml"⟩, .string "/b.yaml"), (⟨"/b.yaml"⟩, .bool true)]

/-- A map that is no marker, because what it has under `$ref` is one. -/
def markerUnderKey (target : String) : Value :=
  .object [("$ref", .object [("$ref", .string target)])]

/-- The map does not become a marker if the file holds no string. -/
theorem resolve_idempotent_bool_under_key :
    let resolver : Resolver := ⟨pathInFile, Disk.empty.identity, defaultDepth⟩
    let resolved : Value := .object [("$ref", .bool true)]
    resolver.resolve ⟨"/"⟩ (markerUnderKey "/b.yaml") = .ok resolved ∧
      ¬ MakesMarker pathInFile ⟨"/"⟩ (markerUnderKey "/b.yaml") ∧
      ∀ (again : Resolver) (directory : Path), again.resolve directory resolved = .ok resolved := by
  intro resolver resolved
  have hresolved : resolver.resolve ⟨"/"⟩ (markerUnderKey "/b.yaml") = .ok resolved := rfl
  obtain ⟨hfree, hagain⟩ := resolve_idempotent_iff hresolved
  have hmakes := hfree.1 ((markers_eq_nil_iff resolved).1 rfl)
  exact ⟨hresolved, hmakes, hagain.2 hmakes⟩

/-- If the file holds a path, resolving leaves a marker, which resolving again follows. -/
theorem resolve_not_idempotent :
    let resolver : Resolver := ⟨pathInFile, Disk.empty.identity, defaultDepth⟩
    let resolved : Value := .object [("$ref", .string "/b.yaml")]
    resolver.resolve ⟨"/"⟩ (markerUnderKey "/a.yaml") = .ok resolved ∧ ¬ MarkerFree resolved ∧
      resolver.resolve ⟨"/"⟩ resolved = .ok (.bool true) := by
  refine ⟨rfl, fun h => ?_, rfl⟩
  have htarget := h _ .whole
  revert htarget
  decide

end Resolver

end ScenarioTree
