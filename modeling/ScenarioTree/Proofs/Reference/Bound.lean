import ScenarioTree.Proofs.Path.Steps
import ScenarioTree.Proofs.Reference.Failure

/-!
# The bound of a resolver

The number of files that may be open inside each other only ever cuts a resolution off. As long as it
is not reported as exceeded, a larger number gives the same tree, or the same error. The files that are
open inside each other are all different, so a number above that of the files that the source has
documents for is never exceeded.

Results:

* `GoesOn.bind`: computations in a row go on as others do.
* `expand_goesOn`, `openFile_goesOn`: so do expansions, and files that are opened with a larger bound.
* `Trail.length_le`: how many files can be open inside each other.
* `outcome_within`: what a larger bound does, and which bound is large enough.
-/

namespace ScenarioTree

/-! ## Computations that are cut off -/

/-- The second computation comes to the same as the first one, unless the first one is cut off by the
    bound. -/
def GoesOn {α : Type} (x y : Except FileError α) : Prop :=
  y = x ∨ ∃ path limit, x = .error (.depthExceeded path limit)

theorem goesOn_refl {α : Type} (x : Except FileError α) : GoesOn x x := .inl rfl

theorem GoesOn.bind {α β : Type} {x y : Except FileError α} {f g : α → Except FileError β}
    (h : GoesOn x y) (hrest : ∀ a, GoesOn (f a) (g a)) : GoesOn (x >>= f) (y >>= g) := by
  obtain rfl | ⟨path, limit, rfl⟩ := h
  · cases y with
    | error error => exact goesOn_refl _
    | ok a => exact hrest a
  · exact .inr ⟨path, limit, rfl⟩

namespace Reference

section Expand

variable {content content' : Path → Except FileError Value} {directory : Path}

mutual

/-- An expansion goes on as another one does if the contents of files do. -/
theorem expand_goesOn (h : ∀ path, GoesOn (content path) (content' path)) : ∀ tree : Value,
    GoesOn (expand content directory tree) (expand content' directory tree)
  | .object fields => by
    rw [expand, expand]
    cases target? fields with
    | some target => exact (goesOn_refl _).bind fun _ => h _
    | none => exact (expandFields_goesOn h fields).bind fun _ => goesOn_refl _
  | .array items => by
    rw [expand, expand]
    exact (expandItems_goesOn h items).bind fun _ => goesOn_refl _
  | .null | .bool _ | .number _ | .string _ => by
    simp only [expand]
    exact goesOn_refl _

theorem expandFields_goesOn (h : ∀ path, GoesOn (content path) (content' path)) :
    ∀ fields : List (String × Value),
      GoesOn (expandFields content directory fields) (expandFields content' directory fields)
  | [] => by rw [expandFields, expandFields]; exact goesOn_refl _
  | (key, v) :: rest => by
    rw [expandFields, expandFields]
    exact (expand_goesOn h v).bind fun _ => (expandFields_goesOn h rest).bind fun _ => goesOn_refl _

theorem expandItems_goesOn (h : ∀ path, GoesOn (content path) (content' path)) :
    ∀ items : List Value,
      GoesOn (expandItems content directory items) (expandItems content' directory items)
  | [] => by rw [expandItems, expandItems]; exact goesOn_refl _
  | v :: rest => by
    rw [expandItems, expandItems]
    exact (expand_goesOn h v).bind fun _ => (expandItems_goesOn h rest).bind fun _ => goesOn_refl _

end

end Expand

end Reference

namespace Resolver

open Reference

/-! ## Larger bounds -/

/-- The resolver with another bound. -/
def within (resolver : Resolver) (maxDepth : ℕ) : Resolver := { resolver with maxDepth }

variable {resolver : Resolver} {start : Start}

/-- With more files that may still be opened, opening a file goes on. -/
theorem openFile_goesOn {d d' left left' : ℕ} (hleft : left ≤ left') (opened : List Path)
    (path : Path) : GoesOn ((resolver.within d).openFile left opened path)
      ((resolver.within d').openFile left' opened path) := by
  induction left generalizing left' opened path with
  | zero =>
    rw [openFile.eq_def, openFile.eq_def]
    by_cases hopened : resolver.identity path ∈ opened
    · simp only [within, hopened, if_true]
      exact goesOn_refl _
    · simp only [within, hopened, if_false]
      exact .inr ⟨path, d, rfl⟩
  | succ left ih =>
    obtain ⟨left', rfl⟩ : ∃ n, left' = n + 1 := ⟨left' - 1, by omega⟩
    rw [openFile, openFile]
    by_cases hopened : resolver.identity path ∈ opened
    · simp only [within, hopened, if_true]
      exact goesOn_refl _
    · simp only [within, hopened, if_false]
      exact (goesOn_refl _).bind fun document =>
        expand_goesOn (fun next => ih (by omega) _ next) document

theorem outcome_goesOn {d d' : ℕ} (h : d ≤ d') (start : Start) :
    GoesOn ((resolver.within d).outcome start) ((resolver.within d').outcome start) := by
  cases start with
  | file path => exact openFile_goesOn h [] path
  | tree directory tree => exact expand_goesOn (fun path => openFile_goesOn h [] path) tree

/-! ## Bounds that are large enough -/

/-- The identities of the files that the source has documents for. -/
def loadable (resolver : Resolver) : Set Path :=
  {id | ∃ path document, resolver.source.load path = .ok document ∧ resolver.identity path = id}

/-- Each open file names the next path, so the source has a document for it. -/
theorem Trail.identity_mem_loadable {files : List Path} {path : Path}
    (h : resolver.Trail start files path) :
    ∀ file ∈ files, resolver.identity file ∈ resolver.loadable := by
  intro file hfile
  obtain ⟨front, behind, rfl⟩ := List.append_of_mem hfile
  have hrefers := h.refers
  rw [List.append_assoc, List.cons_append] at hrefers
  have hchain := (List.isChain_append.1 hrefers).2.1
  obtain ⟨next, others, hnext⟩ := List.exists_cons_of_ne_nil (l := behind ++ [path]) (by simp)
  rw [hnext] at hchain
  obtain ⟨document, hload, -⟩ := (List.isChain_cons_cons.1 hchain).1
  exact ⟨file, document, hload, rfl⟩

/-- No more files are open inside each other than the source has documents for. -/
theorem Trail.length_le {files : List Path} {path : Path} (h : resolver.Trail start files path) :
    (files.length : ℕ∞) ≤ resolver.loadable.encard := by
  have hsubset : ((files.map resolver.identity).toFinset : Set Path) ⊆ resolver.loadable := by
    intro id hid
    obtain ⟨file, hfile, rfl⟩ := List.mem_map.1 (List.mem_toFinset.1 hid)
    exact h.identity_mem_loadable file hfile
  calc (files.length : ℕ∞)
      = ((files.map resolver.identity).toFinset.card : ℕ∞) := by
        rw [List.toFinset_card_of_nodup h.distinct, List.length_map]
    _ = ((files.map resolver.identity).toFinset : Set Path).encard :=
        (Set.encard_coe_eq_coe_finsetCard _).symm
    _ ≤ resolver.loadable.encard := Set.encard_le_encard hsubset

/-- If the bound is above the number of files that the source has documents for, only the source can
    speak of an excess. -/
theorem isPassedOn_of_encard_lt (h : resolver.loadable.encard < resolver.maxDepth) {path : Path}
    {limit : ℕ} (herror : resolver.outcome start = .error (.depthExceeded path limit)) :
    resolver.IsPassedOn start (.depthExceeded path limit) := by
  cases failure_of_outcome herror with
  | depthExceeded hdeep =>
    obtain ⟨files, htrail, hlength, rfl, -⟩ := hdeep
    exact absurd (hlength ▸ htrail.length_le) (not_le_of_gt h)
  | unsupported _ h => cases eq_unsupportedFormat_of_ofReference h
  | source h => exact h

/-- Of ready documents, no more files can be told apart by their normal forms than there are
    documents. -/
theorem encard_loadable_ofDocuments (documents : List (Path × Value)) (maxDepth : ℕ) :
    (loadable ⟨.ofDocuments documents, Path.normalize, maxDepth⟩).encard ≤ documents.length := by
  let ids := documents.map (·.1.normalize)
  have hsubset : loadable ⟨.ofDocuments documents, Path.normalize, maxDepth⟩ ⊆ ids.toFinset := by
    rintro id ⟨path, document, hload, rfl⟩
    simp only [Source.ofDocuments] at hload
    split at hload
    next found _ hfind =>
      have hmem := List.mem_reverse.1 (List.mem_of_find?_eq_some hfind)
      have hsame : found.same path = true := by simpa using List.find?_some hfind
      show path.normalize ∈ (ids.toFinset : Set Path)
      rw [List.coe_toFinset, ← Path.normalize_of_same hsame]
      exact List.mem_map_of_mem (f := (·.1.normalize)) hmem
    next => cases hload
  calc (loadable ⟨.ofDocuments documents, Path.normalize, maxDepth⟩).encard
      ≤ (ids.toFinset : Set Path).encard := Set.encard_le_encard hsubset
    _ = ids.toFinset.card := Set.encard_coe_eq_coe_finsetCard _
    _ ≤ documents.length := by
        exact_mod_cast (List.toFinset_card_le ids).trans_eq (List.length_map _)

/-! ## Main theorem -/

/-- A bound only cuts off: if resolving does not exceed it, resolving with a larger bound comes to the
    same tree or the same error. A bound above the number of files that the source has documents for,
    counted by their identities, is never exceeded; only a source that speaks of an excess itself can
    make it otherwise. -/
theorem outcome_within (resolver : Resolver) (start : Start) :
    (∀ d d', d ≤ d' →
      (∀ path limit, (resolver.within d).outcome start ≠ .error (.depthExceeded path limit)) →
      (resolver.within d').outcome start = (resolver.within d).outcome start) ∧
    ∀ count : ℕ, resolver.loadable.encard ≤ count → ∀ d, count < d → ∀ path limit,
      ((resolver.within d).outcome start = .error (.depthExceeded path limit) →
        (resolver.within d).IsPassedOn start (.depthExceeded path limit)) ∧
      (resolver.source.IsPlain →
        (resolver.within d).outcome start ≠ .error (.depthExceeded path limit)) := by
  constructor
  · intro d d' hle hdone
    exact (outcome_goesOn hle start).resolve_right fun ⟨path, limit, h⟩ => hdone path limit h
  · intro count hcount d hd path limit
    have hbound : (resolver.within d).loadable.encard < (resolver.within d).maxDepth :=
      lt_of_le_of_lt hcount (Nat.cast_lt.2 hd)
    refine ⟨isPassedOn_of_encard_lt hbound, fun hplain herror => ?_⟩
    obtain ⟨files, last, -, hload⟩ := isPassedOn_of_encard_lt hbound herror
    exact hplain last _ hload trivial

/-! ## A chain of files -/

/-- Three files, each of which but the last refers to the next one. -/
def chained : Resolver where
  source := .ofDocuments [
    (⟨"/1.yaml"⟩, .object [("$ref", .string "./2.yaml")]),
    (⟨"/2.yaml"⟩, .array [.object [("$ref", .string "/3.yaml")]]),
    (⟨"/3.yaml"⟩, .bool true)]
  identity := Path.normalize
  maxDepth := defaultDepth

/-- The chain exceeds the bound of two files. With three it is resolved, and comes to the same with
    every larger bound; above three nothing that is resolved exceeds the bound. -/
theorem outcome_within_chained :
    (chained.within 2).outcome (.file ⟨"/1.yaml"⟩) = .error (.depthExceeded ⟨"/3.yaml"⟩ 2) ∧
      (chained.within 3).outcome (.file ⟨"/1.yaml"⟩) = .ok (.array [.bool true]) ∧
      (∀ d, 3 ≤ d →
        (chained.within d).outcome (.file ⟨"/1.yaml"⟩) = .ok (.array [.bool true])) ∧
      chained.loadable.encard ≤ 3 ∧
      ∀ start d, 3 < d → ∀ path limit,
        (chained.within d).outcome start ≠ .error (.depthExceeded path limit) := by
  have hdone : (chained.within 3).outcome (.file ⟨"/1.yaml"⟩) = .ok (.array [.bool true]) := rfl
  have hcount : chained.loadable.encard ≤ (3 : ℕ) := encard_loadable_ofDocuments _ _
  have hplain : chained.source.IsPlain := Source.isPlain_ofDocuments _
  refine ⟨rfl, hdone, fun d hd => ?_, hcount, fun start d hd path limit => ?_⟩
  · obtain ⟨hlarger, -⟩ := outcome_within chained (.file ⟨"/1.yaml"⟩)
    exact (hlarger 3 d hd fun path limit h => by rw [hdone] at h; cases h).trans hdone
  · obtain ⟨-, henough⟩ := outcome_within chained start
    exact (henough 3 hcount d hd path limit).2 hplain

end Resolver

end ScenarioTree
