import ScenarioTree.Proofs.Reference.Expansion

/-!
# Why a resolution fails

A resolution fails at a path that references lead to: the file is open already, too many files are
open, the path cannot be referred to, or the source gives no document for it. The references that lead
there are those of the open files, each of which has a live marker that names the next one. So a cycle
that is reported is one, and a bound that is reported as exceeded is.

What a source says itself is passed on as it is. The sources of this library never speak of cycles or
of a bound.

Results:

* `expand_eq_error`: a tree cannot be expanded because of one of its live markers.
* `Trail.next`: the open files and a path that the last of them names.
* `failure_of_openFile`: why a file cannot be opened inside others.
* `outcome_failures`: what a cycle and an excess of the bound stand for, when they are reported.
-/

namespace ScenarioTree

/-! ## Errors of sources -/

/-- An error that is about the references between files. -/
def FileError.IsOfReferences : FileError → Prop
  | .cyclic _ _ | .depthExceeded _ _ => True
  | _ => False

/-- A source whose own errors are not about references. -/
def Source.IsPlain (source : Source) : Prop :=
  ∀ path error, source.load path = .error error → ¬ error.IsOfReferences

theorem Source.isPlain_ofDocuments (documents : List (Path × Value)) :
    (ofDocuments documents).IsPlain := by
  intro path error h
  simp only [ofDocuments] at h
  split at h
  · cases h
  · cases h
    exact id

theorem Disk.isPlain_source (disk : Disk) : disk.source.IsPlain := by
  intro path error h
  obtain hformat | ⟨format, -, h⟩ := bind_eq_error_iff.1 h
  · unfold Format.ofPath at hformat
    split_ifs at hformat
    split at hformat <;> cases hformat
    exact id
  · unfold document at h
    split at h
    · unfold Format.parse at h
      split at h <;> cases h
      exact id
    · cases h
      exact id
    · cases h
      exact id

namespace Reference

/-! ## Trees that cannot be expanded -/

section Expand

variable {content : Path → Except FileError Value} {directory : Path} {error : FileError}

/-- Following a target fails: it cannot be referred to, or has no content. -/
def Blocks (content : Path → Except FileError Value) (directory : Path) (error : FileError)
    (target : String) : Prop :=
  Format.ofReference (Path.locate directory target) = .error error ∨
    content (Path.locate directory target) = .error error

mutual

theorem expand_eq_error : ∀ {tree : Value}, expand content directory tree = .error error →
    ∃ target ∈ markers tree, Blocks content directory error target
  | .object fields, h => by
    rw [expand] at h
    cases ht : target? fields with
    | some target =>
      simp only [ht] at h
      refine ⟨target, by simp [markers, ht], ?_⟩
      exact (bind_eq_error_iff.1 h).imp_right fun ⟨_, _, hcontent⟩ => hcontent
    | none =>
      simp only [ht] at h
      obtain hfields | ⟨_, _, hreturn⟩ := bind_eq_error_iff.1 h
      · simp only [markers, ht]
        exact expandFields_eq_error hfields
      · cases hreturn
  | .array items, h => by
    rw [expand] at h
    obtain hitems | ⟨_, _, hreturn⟩ := bind_eq_error_iff.1 h
    · simp only [markers]
      exact expandItems_eq_error hitems
    · cases hreturn
  | .null, h => by simp [expand] at h
  | .bool _, h => by simp [expand] at h
  | .number _, h => by simp [expand] at h
  | .string _, h => by simp [expand] at h

theorem expandFields_eq_error : ∀ {fields : List (String × Value)},
    expandFields content directory fields = .error error →
    ∃ target ∈ markersOfFields fields, Blocks content directory error target
  | [], h => by simp [expandFields] at h
  | (key, v) :: rest, h => by
    rw [expandFields] at h
    simp only [markersOfFields, List.mem_append, or_and_right, exists_or]
    obtain hv | ⟨_, _, h⟩ := bind_eq_error_iff.1 h
    · exact .inl (expand_eq_error hv)
    · obtain hrest | ⟨_, _, hreturn⟩ := bind_eq_error_iff.1 h
      · exact .inr (expandFields_eq_error hrest)
      · cases hreturn

theorem expandItems_eq_error : ∀ {items : List Value},
    expandItems content directory items = .error error →
    ∃ target ∈ markersOfItems items, Blocks content directory error target
  | [], h => by simp [expandItems] at h
  | v :: rest, h => by
    rw [expandItems] at h
    simp only [markersOfItems, List.mem_append, or_and_right, exists_or]
    obtain hv | ⟨_, _, h⟩ := bind_eq_error_iff.1 h
    · exact .inl (expand_eq_error hv)
    · obtain hrest | ⟨_, _, hreturn⟩ := bind_eq_error_iff.1 h
      · exact .inr (expandItems_eq_error hrest)
      · cases hreturn

end

end Expand

/-! ## Starts -/

/-- What is resolved: a file, or a tree that belongs to a directory. -/
inductive Start where
  | file (path : Path)
  | tree (directory : Path) (root : Value)

/-- A path that is opened inside no other: that of the file, or one that a live marker of the tree
    names. -/
def Start.Opens : Start → Path → Prop
  | .file start, path => path = start
  | .tree directory root, path => ∃ target ∈ markers root, path = Path.locate directory target

end Reference

namespace Resolver

open Reference

/-- What resolving comes to. -/
def outcome (resolver : Resolver) : Start → Except FileError Value
  | .file path => resolver.resolveFile path
  | .tree directory tree => resolver.resolve directory tree

/-! ## Trails -/

/-- Files that are open inside each other, and a path that is to be opened next: each path is named by
    a live marker of the document of the file before it, and no two of the files are the same. -/
structure Trail (resolver : Resolver) (start : Start) (files : List Path) (path : Path) : Prop where
  opens : ∀ first ∈ (files ++ [path]).head?, start.Opens first
  refers : List.IsChain (Refers resolver.source) (files ++ [path])
  distinct : (files.map resolver.identity).Nodup

/-- A path with the given chain leads back to a file that is open. -/
def IsCycle (resolver : Resolver) (start : Start) (path : Path) (chain : List Path) : Prop :=
  ∃ files, resolver.Trail start files path ∧
    resolver.identity path ∈ files.map resolver.identity ∧
    chain = (files ++ [path]).map resolver.identity

/-- A path leads to one more file than may be open. -/
def IsTooDeep (resolver : Resolver) (start : Start) (path : Path) (limit : Nat) : Prop :=
  ∃ files, resolver.Trail start files path ∧ files.length = limit ∧ limit = resolver.maxDepth ∧
    resolver.identity path ∉ files.map resolver.identity

/-- The source itself gives the error, for a path that references lead to. -/
def IsPassedOn (resolver : Resolver) (start : Start) (error : FileError) : Prop :=
  ∃ files path, resolver.Trail start files path ∧ resolver.source.load path = .error error

/-- No chain of references comes back to a file that it has passed. -/
def IsAcyclic (resolver : Resolver) (start : Start) : Prop :=
  ∀ first rest, start.Opens first → List.IsChain (Refers resolver.source) (first :: rest) →
    ((first :: rest).map resolver.identity).Nodup

/-- Why a resolution fails. -/
inductive Failure (resolver : Resolver) (start : Start) : FileError → Prop
  | cyclic {path : Path} {chain : List Path} (h : resolver.IsCycle start path chain) :
      Failure resolver start (.cyclic path chain)
  | depthExceeded {path : Path} {limit : Nat} (h : resolver.IsTooDeep start path limit) :
      Failure resolver start (.depthExceeded path limit)
  | unsupported {files : List Path} {path : Path} {error : FileError}
      (htrail : resolver.Trail start files path) (h : Format.ofReference path = .error error) :
      Failure resolver start error
  | source {error : FileError} (h : resolver.IsPassedOn start error) :
      Failure resolver start error

section Trail

variable {resolver : Resolver} {start : Start} {files : List Path} {path : Path}

theorem trail_nil (h : start.Opens path) : resolver.Trail start [] path where
  opens first hfirst := by
    obtain rfl : path = first := by simpa using hfirst
    exact h
  refers := .singleton path
  distinct := List.nodup_nil

/-- A path that is not open yet is opened, and its document names a next one. -/
theorem Trail.next (h : resolver.Trail start files path)
    (hpath : resolver.identity path ∉ files.map resolver.identity)
    {following : Path} (hfollowing : Refers resolver.source path following) :
    resolver.Trail start (files ++ [path]) following where
  opens first hfirst := by
    rw [List.head?_append_of_ne_nil _ (by simp)] at hfirst
    exact h.opens first hfirst
  refers := by
    refine List.isChain_append.2 ⟨h.refers, .singleton following, fun last hlast first hfirst => ?_⟩
    obtain rfl : path = last := by simpa using hlast
    obtain rfl : following = first := by simpa using hfirst
    exact hfollowing
  distinct := by
    rw [List.map_append, List.nodup_append_comm]
    exact List.nodup_cons.2 ⟨hpath, h.distinct⟩

end Trail

/-! ## Files that cannot be opened -/

section Failure

variable {resolver : Resolver} {start : Start}

/-- Opening a file fails, said once. -/
theorem openFile_eq_error {left : Nat} {opened : List Path} {path : Path} {error : FileError}
    (h : resolver.openFile left opened path = .error error) :
    (resolver.identity path ∈ opened ∧
        error = .cyclic path (opened ++ [resolver.identity path])) ∨
      resolver.identity path ∉ opened ∧
        (left = 0 ∧ error = .depthExceeded path resolver.maxDepth ∨
        ∃ left', left = left' + 1 ∧
          (resolver.source.load path = .error error ∨
          ∃ document, resolver.source.load path = .ok document ∧
            expand (resolver.openFile left' (opened ++ [resolver.identity path])) path.directory
              document = .error error)) := by
  rw [openFile.eq_def] at h
  by_cases hopened : resolver.identity path ∈ opened
  · simp only [hopened, if_true] at h
    cases h
    exact .inl ⟨hopened, rfl⟩
  · refine .inr ⟨hopened, ?_⟩
    simp only [hopened, if_false] at h
    cases left with
    | zero =>
      cases h
      exact .inl ⟨rfl, rfl⟩
    | succ left => exact .inr ⟨left, rfl, bind_eq_error_iff.1 h⟩

/-- A file cannot be opened inside files that are open. -/
theorem failure_of_openFile {left : Nat} {files : List Path} {path : Path} {error : FileError}
    (htrail : resolver.Trail start files path) (hleft : files.length + left = resolver.maxDepth)
    (h : resolver.openFile left (files.map resolver.identity) path = .error error) :
    resolver.Failure start error := by
  -- What is left of the bound goes down, and the trail grows by the file that is opened.
  induction left generalizing files path with
  | zero =>
    obtain ⟨hopened, rfl⟩ | ⟨hnew, ⟨-, rfl⟩ | ⟨left', hzero, -⟩⟩ := openFile_eq_error h
    · exact .cyclic ⟨files, htrail, hopened, by simp⟩
    · exact .depthExceeded ⟨files, htrail, hleft, rfl, hnew⟩
    · cases hzero
  | succ left ih =>
    obtain ⟨hopened, rfl⟩ | ⟨hnew, ⟨hzero, -⟩ | ⟨left', hsucc, hload | ⟨document, hload, hexpand⟩⟩⟩ :=
      openFile_eq_error h
    · exact .cyclic ⟨files, htrail, hopened, by simp⟩
    · cases hzero
    · exact .source ⟨files, path, htrail, hload⟩
    · cases hsucc
      obtain ⟨target, htarget, hblocks⟩ := expand_eq_error hexpand
      have hnext := htrail.next hnew ⟨document, hload, target, htarget, rfl⟩
      obtain hformat | hopen := hblocks
      · exact .unsupported hnext hformat
      · refine ih hnext ?_ ?_
        · rw [List.length_append, List.length_singleton]
          omega
        · rwa [List.map_append, List.map_singleton]

theorem failure_of_outcome {error : FileError} (h : resolver.outcome start = .error error) :
    resolver.Failure start error := by
  cases start with
  | file path =>
    have htrail : resolver.Trail (.file path) [] path := trail_nil rfl
    exact failure_of_openFile htrail (Nat.zero_add _) h
  | tree directory tree =>
    obtain ⟨target, htarget, hblocks⟩ := expand_eq_error h
    have htrail : resolver.Trail (.tree directory tree) [] (Path.locate directory target) :=
      trail_nil ⟨target, htarget, rfl⟩
    obtain hformat | hopen := hblocks
    · exact .unsupported htrail hformat
    · exact failure_of_openFile htrail (Nat.zero_add _) hopen

/-! ## What is reported -/

/-- A path that cannot be referred to has an unknown format, or one that documents do not refer to. -/
theorem eq_unsupportedFormat_of_ofReference {path : Path} {error : FileError}
    (h : Format.ofReference path = .error error) :
    error = .unsupportedFormat path path.extension := by
  unfold Format.ofReference Format.ofPath at h
  split_ifs at h
  · cases h
    rfl
  · cases hformat : Format.ofExtension? path.extension with
    | none =>
      rw [hformat] at h
      cases h
      rfl
    | some format =>
      rw [hformat] at h
      cases format <;> cases h <;> rfl

theorem IsCycle.not_isAcyclic {path : Path} {chain : List Path}
    (h : resolver.IsCycle start path chain) : ¬ resolver.IsAcyclic start := by
  obtain ⟨files, htrail, hmem, -⟩ := h
  intro hacyclic
  obtain ⟨first, rest, rfl⟩ := List.exists_cons_of_ne_nil (l := files) (by rintro rfl; simp at hmem)
  have hnodup := hacyclic first (rest ++ [path]) (htrail.opens first rfl) htrail.refers
  rw [← List.cons_append, List.map_append, List.nodup_append_comm] at hnodup
  exact (List.nodup_cons.1 hnodup).1 hmem

/-- A cycle that is reported is one of the files on the way, the way being that of the markers, and a
    bound that is reported as exceeded is exceeded by the files on the way. So where references never
    come back to a file, no cycle is reported. Only a source that speaks of cycles or of a bound itself
    can make it otherwise. -/
theorem outcome_failures (resolver : Resolver) (start : Start) :
    (∀ path chain, resolver.outcome start = .error (.cyclic path chain) →
      resolver.IsCycle start path chain ∨ resolver.IsPassedOn start (.cyclic path chain)) ∧
    (∀ path limit, resolver.outcome start = .error (.depthExceeded path limit) →
      resolver.IsTooDeep start path limit ∨
        resolver.IsPassedOn start (.depthExceeded path limit)) ∧
    (resolver.IsAcyclic start → ∀ path chain,
      resolver.outcome start = .error (.cyclic path chain) →
        resolver.IsPassedOn start (.cyclic path chain)) ∧
    (resolver.source.IsPlain → ∀ error, error.IsOfReferences →
      ¬ resolver.IsPassedOn start error) := by
  have hcyclic (path : Path) (chain : List Path)
      (h : resolver.outcome start = .error (.cyclic path chain)) :
      resolver.IsCycle start path chain ∨ resolver.IsPassedOn start (.cyclic path chain) := by
    cases failure_of_outcome h with
    | cyclic h => exact .inl h
    | unsupported _ h => cases eq_unsupportedFormat_of_ofReference h
    | source h => exact .inr h
  refine ⟨hcyclic, fun path limit h => ?_, fun hacyclic path chain h => ?_, ?_⟩
  · cases failure_of_outcome h with
    | depthExceeded h => exact .inl h
    | unsupported _ h => cases eq_unsupportedFormat_of_ofReference h
    | source h => exact .inr h
  · exact (hcyclic path chain h).resolve_left fun hcycle => hcycle.not_isAcyclic hacyclic
  · rintro hplain error herror ⟨files, path, -, hload⟩
    exact hplain path error hload herror

end Failure

/-! ## A loop and a shared file -/

/-- Two files that refer to each other, and two that refer to a third one. -/
def loopAndShared : Source :=
  .ofDocuments [
    (⟨"/a.yaml"⟩, .array [.object [("$ref", .string "./b.yaml")]]),
    (⟨"/b.yaml"⟩, .object [("next", .object [("$ref", .string "/a.yaml")])]),
    (⟨"/left.yaml"⟩, .object [("$ref", .string "/shared.yaml")]),
    (⟨"/right.yaml"⟩, .array [.object [("$ref", .string "./shared.yaml")]]),
    (⟨"/shared.yaml"⟩, .bool true)]

/-- A tree that refers to both of the files that refer to a third one. -/
def bothSides : Value :=
  .object [("left", .object [("$ref", .string "/left.yaml")]),
    ("right", .object [("$ref", .string "/right.yaml")])]

def inMemory (maxDepth : Nat) : Resolver := ⟨loopAndShared, Disk.empty.identity, maxDepth⟩

theorem isAcyclic_bothSides (maxDepth : Nat) :
    (inMemory maxDepth).IsAcyclic (.tree ⟨"/"⟩ bothSides) := by
  have hshared (next : Path) : ¬ Refers loopAndShared ⟨"/shared.yaml"⟩ next := by
    rintro ⟨document, hload, target, htarget, -⟩
    cases hload
    simp [markers] at htarget
  have hside (side : Path) (hmem : side ∈ [⟨"/left.yaml"⟩, ⟨"/right.yaml"⟩]) (next : Path)
      (h : Refers loopAndShared side next) : next = ⟨"/shared.yaml"⟩ := by
    obtain ⟨document, hload, target, htarget, rfl⟩ := h
    fin_cases hmem
    all_goals
      cases hload
      obtain rfl := List.mem_singleton.1 htarget
      decide
  have hnodup (side : Path) (hmem : side ∈ [⟨"/left.yaml"⟩, ⟨"/right.yaml"⟩]) :
      (List.map Disk.empty.identity [side, ⟨"/shared.yaml"⟩]).Nodup := by
    fin_cases hmem <;> decide
  have hmarkers : ∀ target ∈ markers bothSides, Path.locate ⟨"/"⟩ target ∈
      [⟨"/left.yaml"⟩, ⟨"/right.yaml"⟩] := by decide
  rintro first rest ⟨target, htarget, rfl⟩ hchain
  have hmem := hmarkers target htarget
  obtain _ | ⟨next, rest⟩ := rest
  · exact List.nodup_singleton _
  · obtain ⟨hnext, hchain⟩ := List.isChain_cons_cons.1 hchain
    obtain rfl := hside _ hmem next hnext
    obtain _ | ⟨further, rest⟩ := rest
    · exact hnodup _ hmem
    · exact absurd (List.isChain_cons_cons.1 hchain).1 (hshared further)

/-- A loop is reported at its end, or at the bound; with files that share a third one, neither. -/
theorem outcome_failures_loop :
    (inMemory 2).outcome (.file ⟨"/a.yaml"⟩) =
        .error (.cyclic ⟨"/a.yaml"⟩ [⟨"/a.yaml"⟩, ⟨"/b.yaml"⟩, ⟨"/a.yaml"⟩]) ∧
      (inMemory 2).IsCycle (.file ⟨"/a.yaml"⟩) ⟨"/a.yaml"⟩
        [⟨"/a.yaml"⟩, ⟨"/b.yaml"⟩, ⟨"/a.yaml"⟩] ∧
      (inMemory 1).outcome (.file ⟨"/a.yaml"⟩) = .error (.depthExceeded ⟨"/b.yaml"⟩ 1) ∧
      (inMemory 1).IsTooDeep (.file ⟨"/a.yaml"⟩) ⟨"/b.yaml"⟩ 1 ∧
      ∀ maxDepth path chain, (inMemory maxDepth).outcome (.tree ⟨"/"⟩ bothSides) ≠
        .error (.cyclic path chain) := by
  have hplain : loopAndShared.IsPlain := Source.isPlain_ofDocuments _
  have hloop : (inMemory 2).outcome (.file ⟨"/a.yaml"⟩) =
      .error (.cyclic ⟨"/a.yaml"⟩ [⟨"/a.yaml"⟩, ⟨"/b.yaml"⟩, ⟨"/a.yaml"⟩]) := rfl
  have hdeep : (inMemory 1).outcome (.file ⟨"/a.yaml"⟩) =
      .error (.depthExceeded ⟨"/b.yaml"⟩ 1) := rfl
  obtain ⟨hcyclic, -, -, hown⟩ := outcome_failures (inMemory 2) (.file ⟨"/a.yaml"⟩)
  obtain ⟨-, hexceeds, -, hown'⟩ := outcome_failures (inMemory 1) (.file ⟨"/a.yaml"⟩)
  refine ⟨hloop, (hcyclic _ _ hloop).resolve_right (hown hplain _ trivial), hdeep,
    (hexceeds _ _ hdeep).resolve_right (hown' hplain _ trivial), fun maxDepth path chain h => ?_⟩
  obtain ⟨-, -, hacyclic, hown''⟩ := outcome_failures (inMemory maxDepth) (.tree ⟨"/"⟩ bothSides)
  exact hown'' hplain (.cyclic path chain) trivial
    (hacyclic (isAcyclic_bothSides maxDepth) path chain h)

end Resolver

end ScenarioTree
