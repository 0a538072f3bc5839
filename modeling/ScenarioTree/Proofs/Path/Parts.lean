import Mathlib.Tactic
import ScenarioTree.Path

/-!
# Parts of a path

The text of a path is its parts with slashes between them. No part has a slash, and any parts without
slashes are the parts of a text. A path starts at the root if it has an empty part before its first
slash.

Results:

* `splitSlashes_append_slash`: the parts of a text are those before a slash and those behind it.
* `splitSlashes_intercalate`: parts that are written with slashes between them are read back.
* `Path.isAbsolute_iff_parts`: which paths start at the root.
-/

namespace ScenarioTree

/-- A text that stands for an entry of a directory: not for the directory itself, its parent or
    something below it. -/
def IsEntryName (name : String) : Prop :=
  '/' ∉ name.toList ∧ Component.ofPart? name.toList = some (.name name)

instance (name : String) : Decidable (IsEntryName name) := inferInstanceAs (Decidable (_ ∧ _))

/-! ## Parts -/

theorem splitSlashes_ne_nil (text : List Char) : splitSlashes text ≠ [] := by
  fun_cases splitSlashes text <;> simp

theorem splitSlashes_of_not_mem {text : List Char} (h : '/' ∉ text) :
    splitSlashes text = [text] := by
  fun_induction splitSlashes text with
  | case1 => rfl
  | case2 rest => exact absurd List.mem_cons_self h
  | case3 c rest hc hrest ih => rw [ih (List.not_mem_of_not_mem_cons h)] at hrest; cases hrest
  | case4 c rest hc part parts hparts ih =>
    rw [ih (List.not_mem_of_not_mem_cons h)] at hparts
    cases hparts
    rfl

theorem splitSlashes_append_slash (front back : List Char) :
    splitSlashes (front ++ '/' :: back) = splitSlashes front ++ splitSlashes back := by
  induction front with
  | nil => rfl
  | cons c rest ih =>
    by_cases hc : c = '/'
    · subst hc
      rw [List.cons_append, splitSlashes, splitSlashes, ih, List.cons_append]
    · obtain ⟨part, parts, hparts⟩ := List.exists_cons_of_ne_nil (splitSlashes_ne_nil rest)
      rw [List.cons_append, splitSlashes, splitSlashes, ih, hparts]
      rfl
      all_goals simpa using hc

theorem not_mem_of_mem_splitSlashes {text part : List Char} (h : part ∈ splitSlashes text) :
    '/' ∉ part := by
  fun_induction splitSlashes text generalizing part with
  | case1 => simp_all
  | case2 rest ih =>
    rcases List.mem_cons.1 h with rfl | h
    · exact List.not_mem_nil
    · exact ih h
  | case3 c rest hc hrest ih => exact absurd hrest (splitSlashes_ne_nil rest)
  | case4 c rest hc first others hrest ih =>
    rw [hrest] at ih
    rcases List.mem_cons.1 h with rfl | h
    · refine List.not_mem_cons_of_ne_of_not_mem (fun heq => ?_) (ih List.mem_cons_self)
      exact hc heq.symm
    · exact ih (List.mem_cons_of_mem _ h)

/-- Parts that are written with slashes between them are read back. -/
theorem splitSlashes_intercalate {parts : List (List Char)} (hne : parts ≠ [])
    (h : ∀ part ∈ parts, '/' ∉ part) : splitSlashes (['/'].intercalate parts) = parts := by
  induction parts with
  | nil => exact absurd rfl hne
  | cons first others ih =>
    obtain ⟨hfirst, hothers⟩ := List.forall_mem_cons.1 h
    cases others with
    | nil => rw [List.intercalate_singleton, splitSlashes_of_not_mem hfirst]
    | cons second others =>
      rw [List.intercalate_cons_cons, List.append_assoc, List.singleton_append,
        splitSlashes_append_slash, splitSlashes_of_not_mem hfirst, ih (List.cons_ne_nil _ _) hothers]
      rfl

theorem ofPart?_eq_none_iff {part : List Char} :
    Component.ofPart? part = none ↔ Path.isIdle part = true := by
  unfold Component.ofPart? Path.isIdle
  split_ifs <;> simp_all

namespace Path

theorem isAbsolute_of_isEntryName {name : String} (h : IsEntryName name) :
    isAbsolute ⟨name⟩ = false := by
  rw [isAbsolute, beq_eq_false_iff_ne]
  exact fun hslash => h.1 (List.mem_of_mem_head? hslash)

/-- A path that starts at the root has an empty part before its first slash. -/
theorem isAbsolute_iff_parts {p : Path} :
    p.isAbsolute = true ↔ ∃ others, others ≠ [] ∧ p.parts = [] :: others := by
  rw [isAbsolute, parts, beq_iff_eq]
  generalize p.text.toList = text
  fun_cases splitSlashes text with
  | case1 => simp
  | case2 rest => simp [splitSlashes_ne_nil]
  | case3 c rest hc hrest => simpa using hc
  | case4 c rest hc first others hrest => simpa using hc

/-! ## Texts of parts -/

/-- Parts with slashes between them. -/
def ofParts (parts : List (List Char)) : Path := ⟨"/".intercalate (parts.map String.ofList)⟩

theorem toList_ofParts (parts : List (List Char)) :
    (ofParts parts).text.toList = ['/'].intercalate parts := by
  rw [ofParts, String.toList_intercalate, List.map_map]
  simp [Function.comp_def]

theorem parts_ofParts {parts : List (List Char)} (hne : parts ≠ [])
    (h : ∀ part ∈ parts, '/' ∉ part) : (ofParts parts).parts = parts := by
  rw [Path.parts, toList_ofParts, splitSlashes_intercalate hne h]

end Path

end ScenarioTree
