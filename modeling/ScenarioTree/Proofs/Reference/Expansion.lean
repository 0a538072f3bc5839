import ScenarioTree.Proofs.Reference.Marker

/-!
# What a document with references means

The expansion of a tree has the expansion of a document in the place of each live marker, and is
otherwise the tree. The document is the one of the path that the marker names, seen from the directory
of the marker, and its own markers are seen from its own directory. Nothing here knows of a stack or
of a bound: an expansion is a finite derivation, and there is at most one.

A resolver finds the expansion of a file with a stack of open files. It succeeds if no chain of files
that refer to each other leads to a file that is open already, to more files than may be open, to a
file that cannot be referred to or to one that cannot be loaded.

Results:

* `Expansion.unique`: a tree has at most one expansion.
* `SeesSame.resolveFile_eq`: what resolving a file depends on.
* `openFile_isOk_iff`: when a file can be opened inside files that are open.
* `resolveFile_isOk_iff_chains`: when a file can be resolved, and what the result is.
-/

namespace ScenarioTree

namespace Reference

/-! ## Definitions -/

mutual

/-- A tree that belongs to a directory, with the expansions of their documents in the place of its
    live markers. -/
inductive Expansion (source : Source) : Path → Value → Value → Prop
  | scalar {directory : Path} {v : Value} : IsScalar v → Expansion source directory v v
  | marker {directory : Path} {fields : Fields} {target : String} {document v : Value} :
    target? fields = some target →
    source.load (Path.locate directory target) = .ok document →
    Expansion source (Path.locate directory target).directory document v →
    Expansion source directory (.object fields) v
  | object {directory : Path} {fields fields' : Fields} :
    target? fields = none → ExpansionOfFields source directory fields fields' →
    Expansion source directory (.object fields) (.object fields')
  | array {directory : Path} {items items' : List Value} :
    ExpansionOfItems source directory items items' →
    Expansion source directory (.array items) (.array items')

/-- Fields under the same keys, in the same order, each with the expansion of its value. -/
inductive ExpansionOfFields (source : Source) :
    Path → List (String × Value) → List (String × Value) → Prop
  | nil {directory : Path} : ExpansionOfFields source directory [] []
  | cons {directory : Path} {key : String} {v v' : Value} {rest rest' : List (String × Value)} :
    Expansion source directory v v' → ExpansionOfFields source directory rest rest' →
    ExpansionOfFields source directory ((key, v) :: rest) ((key, v') :: rest')

/-- As many items in the same order, each the expansion of an item. -/
inductive ExpansionOfItems (source : Source) : Path → List Value → List Value → Prop
  | nil {directory : Path} : ExpansionOfItems source directory [] []
  | cons {directory : Path} {v v' : Value} {rest rest' : List Value} :
    Expansion source directory v v' → ExpansionOfItems source directory rest rest' →
    ExpansionOfItems source directory (v :: rest) (v' :: rest')

end

/-- The expansion of the document of a path, which belongs to the directory of the path. -/
def Denotes (source : Source) (path : Path) (v : Value) : Prop :=
  ∃ document, source.load path = .ok document ∧ Expansion source path.directory document v

/-- The document of the first path has a live marker that names the second one. -/
def Refers (source : Source) (path next : Path) : Prop :=
  ∃ document, source.load path = .ok document ∧
    ∃ target ∈ markers document, next = Path.locate path.directory target

/-! ## There is at most one expansion -/

mutual

theorem Expansion.unique {source : Source} : ∀ {directory : Path} {tree v w : Value},
    Expansion source directory tree v → Expansion source directory tree w → v = w
  | _, _, _, _, .scalar hv, hw => by
    cases hw with
    | scalar => rfl
    | _ => exact hv.elim
  | _, _, _, _, .marker ht hl hv, hw => by
    cases hw with
    | scalar h => exact h.elim
    | marker ht' hl' hw =>
      obtain rfl : _ = _ := Option.some.inj (ht.symm.trans ht')
      obtain rfl : _ = _ := Except.ok.inj (hl.symm.trans hl')
      exact hv.unique hw
    | object ht' => rw [ht] at ht'; cases ht'
  | _, _, _, _, .object ht hf, hw => by
    cases hw with
    | scalar h => exact h.elim
    | marker ht' => rw [ht] at ht'; cases ht'
    | object _ hf' => rw [hf.unique hf']
  | _, _, _, _, .array hi, hw => by
    cases hw with
    | scalar h => exact h.elim
    | array hi' => rw [hi.unique hi']

theorem ExpansionOfFields.unique {source : Source} :
    ∀ {directory : Path} {fields v w : List (String × Value)},
      ExpansionOfFields source directory fields v → ExpansionOfFields source directory fields w →
      v = w
  | _, _, _, _, .nil, .nil => rfl
  | _, _, _, _, .cons hv hr, .cons hw hs => by rw [hv.unique hw, hr.unique hs]

theorem ExpansionOfItems.unique {source : Source} :
    ∀ {directory : Path} {items v w : List Value},
      ExpansionOfItems source directory items v → ExpansionOfItems source directory items w → v = w
  | _, _, _, _, .nil, .nil => rfl
  | _, _, _, _, .cons hv hr, .cons hw hs => by rw [hv.unique hw, hr.unique hs]

end

theorem Denotes.unique {source : Source} {path : Path} {v w : Value} (hv : Denotes source path v)
    (hw : Denotes source path w) : v = w := by
  obtain ⟨document, hload, hv⟩ := hv
  obtain ⟨document', hload', hw⟩ := hw
  obtain rfl := Except.ok.inj (hload.symm.trans hload')
  exact hv.unique hw

/-! ## What a resolver finds is the expansion -/

section Expand

variable {source : Source} {content : Path → Except FileError Value} {directory : Path}

theorem expansion_of_expand_scalar {tree v : Value} (hv : expand content directory tree = .ok v)
    (h : IsScalar tree) : Expansion source directory tree v := by
  rw [expand_of_isScalar content directory tree h] at hv
  cases hv
  exact .scalar h

mutual

theorem expansion_of_expand (h : ∀ path v, content path = .ok v → Denotes source path v) :
    ∀ {tree v : Value}, expand content directory tree = .ok v → Expansion source directory tree v
  | .object fields, v, hv => by
    cases ht : target? fields with
    | some target =>
      obtain ⟨-, hv⟩ := (expand_marker_eq_ok_iff ht).1 hv
      obtain ⟨document, hload, hdocument⟩ := h _ _ hv
      exact .marker ht hload hdocument
    | none =>
      obtain ⟨fields', hf, rfl⟩ := (expand_object_eq_ok_iff ht).1 hv
      exact .object ht (expansionOfFields_of_expandFields h hf)
  | .array items, v, hv => by
    obtain ⟨items', hi, rfl⟩ := expand_array_eq_ok_iff.1 hv
    exact .array (expansionOfItems_of_expandItems h hi)
  | .null, v, hv => expansion_of_expand_scalar hv trivial
  | .bool _, v, hv => expansion_of_expand_scalar hv trivial
  | .number _, v, hv => expansion_of_expand_scalar hv trivial
  | .string _, v, hv => expansion_of_expand_scalar hv trivial

theorem expansionOfFields_of_expandFields
    (h : ∀ path v, content path = .ok v → Denotes source path v) :
    ∀ {fields fields' : List (String × Value)},
      expandFields content directory fields = .ok fields' →
      ExpansionOfFields source directory fields fields'
  | [], _, hf => by
    cases hf
    exact .nil
  | (key, v) :: rest, _, hf => by
    obtain ⟨v', rest', hv, hr, rfl⟩ := expandFields_cons_eq_ok_iff.1 hf
    exact .cons (expansion_of_expand h hv) (expansionOfFields_of_expandFields h hr)

theorem expansionOfItems_of_expandItems
    (h : ∀ path v, content path = .ok v → Denotes source path v) :
    ∀ {items items' : List Value}, expandItems content directory items = .ok items' →
      ExpansionOfItems source directory items items'
  | [], _, hi => by
    cases hi
    exact .nil
  | v :: rest, _, hi => by
    obtain ⟨v', rest', hv, hr, rfl⟩ := expandItems_cons_eq_ok_iff.1 hi
    exact .cons (expansion_of_expand h hv) (expansionOfItems_of_expandItems h hr)

end

end Expand

end Reference

namespace Resolver

open Reference

variable (resolver : Resolver)

/-- Opening a file, said once: no open file is the same, one more may be open, and the document of
    the file is there and can be expanded with the file open. -/
theorem openFile_eq_ok_iff {left : Nat} {opened : List Path} {path : Path} {v : Value} :
    resolver.openFile left opened path = .ok v ↔
      resolver.identity path ∉ opened ∧ ∃ left', left = left' + 1 ∧
        ∃ document, resolver.source.load path = .ok document ∧
          expand (resolver.openFile left' (opened ++ [resolver.identity path])) path.directory
            document = .ok v := by
  rw [openFile.eq_def]
  by_cases hopened : resolver.identity path ∈ opened
  · simp [hopened]
  · cases left with
    | zero => simp [hopened]
    | succ left => simp [hopened, bind_eq_ok_iff]

theorem denotes_of_openFile {left : Nat} {opened : List Path} {path : Path} {v : Value}
    (h : resolver.openFile left opened path = .ok v) : Denotes resolver.source path v := by
  induction left generalizing opened path v with
  | zero =>
    obtain ⟨-, left', hleft, -⟩ := resolver.openFile_eq_ok_iff.1 h
    cases hleft
  | succ left ih =>
    obtain ⟨-, left', hleft, document, hload, hexpand⟩ := resolver.openFile_eq_ok_iff.1 h
    cases hleft
    exact ⟨document, hload, expansion_of_expand (fun _ _ hv => ih hv) hexpand⟩

/-! ## What resolving a file depends on -/

/-- Two resolvers see the same behind a path: every file that can be reached from it by references
    has the same document and the same identity for both. -/
def SeesSame (resolver other : Resolver) (path : Path) : Prop :=
  ∀ file, Relation.ReflTransGen (Refers resolver.source) path file →
    other.source.load file = resolver.source.load file ∧
      other.identity file = resolver.identity file

theorem SeesSame.next {resolver other : Resolver} {path next : Path}
    (h : resolver.SeesSame other path) (hrefers : Refers resolver.source path next) :
    resolver.SeesSame other next := fun file hfile => h file (.head hrefers hfile)

theorem SeesSame.openFile_eq {resolver other : Resolver} (hdepth : other.maxDepth = resolver.maxDepth)
    {path : Path} (h : resolver.SeesSame other path) (left : Nat) (opened : List Path) :
    other.openFile left opened path = resolver.openFile left opened path := by
  induction left generalizing opened path with
  | zero => rw [openFile, openFile, (h path .refl).2, hdepth]
  | succ left ih =>
    obtain ⟨hload, hidentity⟩ := h path .refl
    rw [openFile, openFile, hload, hidentity]
    cases hdocument : resolver.source.load path with
    | error error => rfl
    | ok document =>
      have hexpand :
          expand (other.openFile left (opened ++ [resolver.identity path])) path.directory document =
            expand (resolver.openFile left (opened ++ [resolver.identity path])) path.directory
              document :=
        expand_congr document fun target htarget =>
          ih (h.next ⟨document, hdocument, target, htarget, rfl⟩) _
      show (if _ then _ else expand _ _ document) = if _ then _ else expand _ _ document
      rw [hexpand]

/-- Resolving a file depends on the files that can be reached from it, and on the bound. -/
theorem SeesSame.resolveFile_eq {resolver other : Resolver}
    (hdepth : other.maxDepth = resolver.maxDepth) {path : Path}
    (h : resolver.SeesSame other path) : other.resolveFile path = resolver.resolveFile path := by
  rw [resolveFile, resolveFile, hdepth, h.openFile_eq hdepth]

/-! ## When a file can be opened -/

/-- A chain of files that can be opened inside each other, the first of them inside open files. -/
structure Sound (left : Nat) (opened : List Path) (path : Path) (chain : List Path) : Prop where
  referable : ∀ p ∈ chain, IsReferable p
  apart : ∀ p ∈ path :: chain, resolver.identity p ∉ opened
  distinct : ((path :: chain).map resolver.identity).Nodup
  short : (path :: chain).length ≤ left
  loads : ∀ p ∈ path :: chain, ∃ document, resolver.source.load p = .ok document

variable {resolver}

/-- A longer chain is sound if the rest of it is, with the first file open. -/
theorem sound_cons_iff {left : Nat} {opened chain : List Path} {path next : Path} :
    resolver.Sound (left + 1) opened path (next :: chain) ↔
      resolver.identity path ∉ opened ∧ (∃ document, resolver.source.load path = .ok document) ∧
        IsReferable next ∧ resolver.Sound left (opened ++ [resolver.identity path]) next chain := by
  constructor
  · intro h
    have hnodup := List.nodup_cons.1 h.distinct
    refine ⟨h.apart path List.mem_cons_self, h.loads path List.mem_cons_self,
      h.referable next List.mem_cons_self, ?_⟩
    refine ⟨fun p hp => h.referable p (List.mem_cons_of_mem _ hp), fun p hp => ?_, hnodup.2,
      Nat.le_of_succ_le_succ h.short, fun p hp => h.loads p (List.mem_cons_of_mem _ hp)⟩
    intro hmem
    rcases List.mem_append.1 hmem with hmem | hmem
    · exact h.apart p (List.mem_cons_of_mem _ hp) hmem
    · rw [← List.mem_singleton.1 hmem] at hnodup
      exact hnodup.1 (List.mem_map_of_mem hp)
  · rintro ⟨hapart, hload, hnext, h⟩
    refine ⟨List.forall_mem_cons.2 ⟨hnext, h.referable⟩, ?_, ?_, Nat.succ_le_succ h.short,
      List.forall_mem_cons.2 ⟨hload, h.loads⟩⟩
    · refine List.forall_mem_cons.2 ⟨hapart, fun p hp hmem => ?_⟩
      exact h.apart p hp (List.mem_append_left _ hmem)
    · refine List.nodup_cons.2 ⟨fun hmem => ?_, h.distinct⟩
      obtain ⟨p, hp, heq⟩ := List.mem_map.1 hmem
      exact h.apart p hp (List.mem_append_right _ (List.mem_singleton.2 heq))

theorem sound_nil_iff {left : Nat} {opened : List Path} {path : Path} :
    resolver.Sound left opened path [] ↔ resolver.identity path ∉ opened ∧ 0 < left ∧
      ∃ document, resolver.source.load path = .ok document := by
  constructor
  · intro h
    exact ⟨h.apart path List.mem_cons_self, h.short, h.loads path List.mem_cons_self⟩
  · rintro ⟨hapart, hleft, hload⟩
    exact ⟨by simp, by simpa using hapart, by simp, hleft, by simpa using hload⟩

/-- A file can be opened if every chain of files that starts with it can. -/
theorem openFile_isOk_iff {left : Nat} {opened : List Path} {path : Path} :
    (∃ v, resolver.openFile left opened path = .ok v) ↔
      ∀ chain, List.IsChain (Refers resolver.source) (path :: chain) →
        resolver.Sound left opened path chain := by
  induction left generalizing opened path with
  | zero =>
    constructor
    · rintro ⟨v, hv⟩
      obtain ⟨-, left', hleft, -⟩ := resolver.openFile_eq_ok_iff.1 hv
      cases hleft
    · intro h
      exact absurd (sound_nil_iff.1 (h [] (.singleton path))).2.1 (Nat.lt_irrefl 0)
  | succ left ih =>
    -- with the file open, its document can be expanded if each of its live markers can be followed
    have hexpand (document : Value) :
        (∃ v, expand (resolver.openFile left (opened ++ [resolver.identity path])) path.directory
          document = .ok v) ↔ ∀ target ∈ markers document, Opens _ path.directory target :=
      expand_isOk_iff document
    simp only [Opens, ih] at hexpand
    constructor
    · rintro ⟨v, hv⟩ chain hchain
      obtain ⟨hapart, left', hleft, document, hload, hv⟩ := resolver.openFile_eq_ok_iff.1 hv
      cases hleft
      cases chain with
      | nil => exact sound_nil_iff.2 ⟨hapart, Nat.succ_pos left, document, hload⟩
      | cons next chain =>
        obtain ⟨hrefers, hchain⟩ := List.isChain_cons_cons.1 hchain
        obtain ⟨document', hload', target, htarget, rfl⟩ := hrefers
        obtain rfl := Except.ok.inj (hload.symm.trans hload')
        obtain ⟨hnext, hsound⟩ := (hexpand document).1 ⟨v, hv⟩ target htarget
        exact sound_cons_iff.2 ⟨hapart, ⟨document, hload⟩, hnext, hsound chain hchain⟩
    · intro h
      obtain ⟨hapart, -, document, hload⟩ := sound_nil_iff.1 (h [] (.singleton path))
      have hopens : ∃ v, expand (resolver.openFile left (opened ++ [resolver.identity path]))
          path.directory document = .ok v := by
        refine (hexpand document).2 fun target htarget => ?_
        have hrefers : Refers resolver.source path (Path.locate path.directory target) :=
          ⟨document, hload, target, htarget, rfl⟩
        have hcons := fun chain hchain =>
          (sound_cons_iff.1 (h (_ :: chain) (List.isChain_cons_cons.2 ⟨hrefers, hchain⟩))).2.2
        exact ⟨(hcons [] (.singleton _)).1, fun chain hchain => (hcons chain hchain).2⟩
      obtain ⟨v, hv⟩ := hopens
      exact ⟨v, resolver.openFile_eq_ok_iff.2 ⟨hapart, left, rfl, document, hload, hv⟩⟩

/-! ## Main theorem -/

/-- A file can be resolved exactly if, along every chain of files that starts with it and follows live
    markers, the files that are referred to are JSON or YAML, no file comes twice, no more files than
    may be open come inside each other, and every file loads. The result is then the expansion of the
    document of the file, and there is no other. -/
theorem resolveFile_isOk_iff_chains (resolver : Resolver) (start : Path) :
    ((∃ v, resolver.resolveFile start = .ok v) ↔
      ∀ chain, List.IsChain (Refers resolver.source) (start :: chain) →
        (∀ p ∈ chain, IsReferable p) ∧
        ((start :: chain).map resolver.identity).Nodup ∧
        chain.length + 1 ≤ resolver.maxDepth ∧
        ∀ p ∈ start :: chain, ∃ document, resolver.source.load p = .ok document) ∧
    ∀ v, resolver.resolveFile start = .ok v →
      Denotes resolver.source start v ∧ ∀ w, Denotes resolver.source start w → w = v := by
  constructor
  · refine openFile_isOk_iff.trans (forall₂_congr fun chain _ => ⟨fun h => ?_, fun h => ?_⟩)
    · exact ⟨h.referable, h.distinct, h.short, h.loads⟩
    · obtain ⟨hreferable, hdistinct, hshort, hloads⟩ := h
      exact ⟨hreferable, fun _ _ => List.not_mem_nil, hdistinct, hshort, hloads⟩
  · intro v hv
    have hdenotes := resolver.denotes_of_openFile hv
    exact ⟨hdenotes, fun w hw => hw.unique hdenotes⟩

end Resolver

end ScenarioTree
