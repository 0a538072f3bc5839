import ScenarioTree.Proofs.Path.Located
import ScenarioTree.Proofs.Reference.Bound

/-!
# Resolving a file and resolving its tree

Resolving a file keeps the file open, so a reference back to it is noticed at once. Resolving the tree
of the file has no file open, and a reference back to the file opens it inside. But then the file
refers to the same files a second time, and the first of them is open. So one of the two succeeds
exactly if the other one does, and they come to the same tree.

This holds for a source that does not care how a path is spelled, as the way back may spell the file in
another way.

Results:

* `Sound.mono`: what can be opened inside open files can be opened inside fewer of them.
* `refers_of_normalize_eq`: spellings of one file refer to the same paths.
* `Sound.of_chains`: a chain of references does not come back to the file whose tree it begins in.
* `resolveFile_eq_ok_iff_resolve`: the two ways of resolving a file agree.
-/

namespace ScenarioTree

open Reference

/-- The documents of a source do not depend on how paths are spelled: paths with the same normal form
    have the same document, or none of them has one. -/
def Source.IsLexical (source : Source) : Prop :=
  ∀ p q : Path, p.normalize = q.normalize → ∀ v, source.load p = .ok v ↔ source.load q = .ok v

/-- A source that is asked for the normal forms of paths. -/
def Source.normalized (source : Source) : Source where
  load path := source.load path.normalize
  loadBroken directory name := source.loadBroken directory.normalize name

theorem Source.isLexical_normalized (source : Source) : source.normalized.IsLexical := by
  intro p q h v
  show source.load p.normalize = .ok v ↔ source.load q.normalize = .ok v
  rw [h]

theorem exists_fileName?_of_isReferable {p : Path} (h : IsReferable p) :
    ∃ name, p.fileName? = some name := by
  cases hname : p.fileName? with
  | some name => exact ⟨name, rfl⟩
  | none =>
    rw [IsReferable, Path.extension, hname] at h
    exact absurd h (by decide)

namespace Resolver

variable {resolver : Resolver}

/-- What can be opened inside open files can be opened inside fewer of them, whatever the bound on all
    files. -/
theorem Sound.mono {d d' left : ℕ} {opened opened' : List Path} {path : Path} {chain : List Path}
    (h : (resolver.within d).Sound left opened path chain) (hsubset : opened' ⊆ opened) :
    (resolver.within d').Sound left opened' path chain where
  referable := h.referable
  apart p hp hmem := h.apart p hp (hsubset hmem)
  distinct := h.distinct
  short := h.short
  loads := h.loads

/-- A tree can be expanded inside open files if everything that its live markers lead to can be opened
    there. -/
theorem expand_openFile_isOk_iff {left : ℕ} {opened : List Path} {directory : Path} {tree : Value} :
    (∃ v, expand (resolver.openFile left opened) directory tree = .ok v) ↔
      ∀ target ∈ markers tree, IsReferable (Path.locate directory target) ∧
        ∀ chain, List.IsChain (Refers resolver.source) (Path.locate directory target :: chain) →
          resolver.Sound left opened (Path.locate directory target) chain := by
  rw [expand_isOk_iff]
  simp only [Opens, openFile_isOk_iff]

/-- Resolving a file is expanding its tree with the file open. -/
theorem resolveFile_eq_expand {path : Path} {tree : Value}
    (hload : resolver.source.load path = .ok tree) (d : ℕ) :
    (resolver.within (d + 1)).resolveFile path =
      expand ((resolver.within (d + 1)).openFile d [resolver.identity path]) path.directory tree := by
  have hload' : (resolver.within (d + 1)).source.load path = .ok tree := hload
  show (resolver.within (d + 1)).openFile (d + 1) [] path = _
  rw [openFile, if_neg List.not_mem_nil, hload']
  rfl

/-! ## Ways back -/

/-- Of two spellings of a file, each refers to what the other one refers to. -/
theorem refers_of_normalize_eq (hsource : resolver.source.IsLexical) {p q next : Path}
    {name name' : String} (hp : p.fileName? = some name) (hq : q.fileName? = some name')
    (h : p.normalize = q.normalize) (hrefers : Refers resolver.source p next) :
    Refers resolver.source q next := by
  obtain ⟨document, hload, target, htarget, rfl⟩ := hrefers
  exact ⟨document, (hsource p q h document).1 hload, target, htarget,
    Path.locate_congr (Path.normalize_directory_congr hp hq h) target⟩

/-- A chain with an element that comes before the first one can be made to come back to it. -/
theorem exists_chain_back {source : Source} {first last : Path} {chain : List Path}
    (hchain : List.IsChain (Refers source) (first :: chain)) (hlast : last ∈ first :: chain)
    (hback : Refers source last first) :
    ∃ round, List.IsChain (Refers source) (first :: round) ∧ first ∈ round := by
  obtain ⟨front, behind, hfront⟩ := List.append_of_mem hlast
  rw [hfront, List.append_cons] at hchain
  have hround : List.IsChain (Refers source) (front ++ [last] ++ [first]) := by
    refine List.isChain_append.2 ⟨(List.isChain_append.1 hchain).1, .singleton first, ?_⟩
    intro x hx y hy
    obtain rfl : last = x := by simpa using hx
    obtain rfl : first = y := by simpa using hy
    exact hback
  cases front with
  | nil =>
    obtain rfl : first = last := (List.cons.inj hfront).1
    exact ⟨[first], hround, List.mem_singleton_self first⟩
  | cons head others =>
    obtain rfl : first = head := (List.cons.inj hfront).1
    exact ⟨others ++ [last] ++ [first], hround, by simp⟩

section Starts

variable {path : Path} {tree : Value} {name : String}

/-- If everything that a file refers to can be opened, no chain of references comes back to the file:
    it would go on to its own beginning. So the file itself may be open as well. -/
theorem Sound.of_chains (hsource : resolver.source.IsLexical)
    (hidentity : ∀ p document, resolver.source.load p = .ok document →
      resolver.identity p = p.normalize)
    (hname : path.fileName? = some name) (hload : resolver.source.load path = .ok tree)
    {first : Path} (hfirst : Refers resolver.source path first) (hreferable : IsReferable first)
    {d d' left : ℕ} (hsound : ∀ chain, List.IsChain (Refers resolver.source) (first :: chain) →
      (resolver.within d).Sound left [] first chain)
    {chain : List Path} (hchain : List.IsChain (Refers resolver.source) (first :: chain)) :
    (resolver.within d').Sound left [resolver.identity path] first chain := by
  have h := hsound chain hchain
  refine ⟨h.referable, fun p hp hmem => ?_, h.distinct, h.short, h.loads⟩
  have hsame : resolver.identity p = resolver.identity path := List.mem_singleton.1 hmem
  obtain ⟨document, hdocument⟩ := h.loads p hp
  rw [hidentity p document hdocument, hidentity path tree hload] at hsame
  obtain ⟨name', hname'⟩ := exists_fileName?_of_isReferable
    (List.forall_mem_cons.2 ⟨hreferable, h.referable⟩ p hp)
  -- The file comes again as `p`, which refers to the beginning of the chain.
  obtain ⟨round, hround, hback⟩ := exists_chain_back hchain hp
    (refers_of_normalize_eq hsource hname hname' hsame.symm hfirst)
  have hnodup := (hsound round hround).distinct
  exact (List.nodup_cons.1 hnodup).1 (List.mem_map_of_mem hback)

/-! ## Main theorem -/

/-- For a source that does not care how paths are spelled, and files that are told apart by their normal
    forms, resolving a file comes to a tree exactly if resolving the tree of the file in its directory
    does, with one file less that may be open. -/
theorem resolveFile_eq_ok_iff_resolve (hsource : resolver.source.IsLexical)
    (hidentity : ∀ p document, resolver.source.load p = .ok document →
      resolver.identity p = p.normalize)
    (hname : path.fileName? = some name) (hload : resolver.source.load path = .ok tree) :
    ∃ directory, path.parent? = some directory ∧ ∀ d t,
      (resolver.within (d + 1)).resolveFile path = .ok t ↔
        (resolver.within d).resolve directory tree = .ok t := by
  refine ⟨path.directory, Path.parent?_eq_some_directory (Path.steps_ne_nil_of_fileName? hname),
    fun d t => ?_⟩
  rw [resolveFile_eq_expand hload]
  have hisOk : (∃ v, expand ((resolver.within (d + 1)).openFile d [resolver.identity path])
      path.directory tree = .ok v) ↔ ∃ v, (resolver.within d).resolve path.directory tree = .ok v := by
    refine (expand_openFile_isOk_iff.trans (forall₂_congr fun target htarget => ?_)).trans
      expand_openFile_isOk_iff.symm
    refine and_congr_right fun hreferable => ⟨fun h chain hchain => ?_, fun h chain hchain => ?_⟩
    · exact (h chain hchain).mono (List.nil_subset _)
    · exact .of_chains hsource hidentity hname hload ⟨tree, hload, target, htarget, rfl⟩ hreferable h
        hchain
  -- Whichever of them succeeds, it comes to the one expansion of the tree.
  have hopen {v : Value} (h : expand ((resolver.within (d + 1)).openFile d
      [resolver.identity path]) path.directory tree = .ok v) :
      Expansion resolver.source path.directory tree v :=
    expansion_of_expand (fun _ _ hv => (resolver.within (d + 1)).denotes_of_openFile hv) h
  have hnone {v : Value} (h : (resolver.within d).resolve path.directory tree = .ok v) :
      Expansion resolver.source path.directory tree v :=
    expansion_of_expand (fun _ _ hv => (resolver.within d).denotes_of_openFile hv) h
  constructor
  · intro h
    obtain ⟨w, hw⟩ := hisOk.1 ⟨t, h⟩
    rwa [(hopen h).unique (hnone hw)]
  · intro h
    obtain ⟨w, hw⟩ := hisOk.2 ⟨t, h⟩
    rwa [(hnone h).unique (hopen hw)]

end Starts

/-! ## A shared file and a loop -/

/-- Documents that are found however their paths are spelled: one that refers to another one in two
    ways, and one that refers to itself by a detour. -/
def detours : Resolver where
  source := Source.normalized <| .ofDocuments [
    (⟨"/d/all.yaml"⟩, .object [
      ("left", .object [("$ref", .string "./part.yaml")]),
      ("right", .object [("$ref", .string "/x/../d/part.yaml")])]),
    (⟨"/d/part.yaml"⟩, .bool true),
    (⟨"/d/loop.yaml"⟩, .array [.object [("$ref", .string "/x/../d/loop.yaml")]])]
  identity := Path.normalize
  maxDepth := defaultDepth

/-- Both ways of resolving the first file come to the same tree. Resolving the tree of the last one
    fails with every bound, though the file is not open when its tree is resolved. -/
theorem resolveFile_eq_ok_iff_resolve_detours :
    let all : Value := .object [
      ("left", .object [("$ref", .string "./part.yaml")]),
      ("right", .object [("$ref", .string "/x/../d/part.yaml")])]
    let loop : Value := .array [.object [("$ref", .string "/x/../d/loop.yaml")]]
    let resolved : Value := .object [("left", .bool true), ("right", .bool true)]
    detours.source.IsLexical ∧ detours.source.load ⟨"/d/all.yaml"⟩ = .ok all ∧
      detours.source.load ⟨"/d/loop.yaml"⟩ = .ok loop ∧
      (detours.within 2).resolveFile ⟨"/d/all.yaml"⟩ = .ok resolved ∧
      (detours.within 1).resolve ⟨"/d"⟩ all = .ok resolved ∧
      ∀ d t, (detours.within d).resolve ⟨"/d"⟩ loop ≠ .ok t := by
  intro all loop resolved
  have hlexical : detours.source.IsLexical := Source.isLexical_normalized _
  have hall : detours.source.load ⟨"/d/all.yaml"⟩ = .ok all := rfl
  have hloop : detours.source.load ⟨"/d/loop.yaml"⟩ = .ok loop := rfl
  have hresolved : (detours.within 2).resolveFile ⟨"/d/all.yaml"⟩ = .ok resolved := rfl
  refine ⟨hlexical, hall, hloop, hresolved, ?_, fun d t h => ?_⟩
  · obtain ⟨directory, hdirectory, hagree⟩ :=
      resolveFile_eq_ok_iff_resolve hlexical (fun _ _ _ => rfl) rfl hall
    obtain rfl : ⟨"/d"⟩ = directory := Option.some.inj hdirectory
    exact (hagree 1 resolved).1 hresolved
  · obtain ⟨directory, hdirectory, hagree⟩ :=
      resolveFile_eq_ok_iff_resolve hlexical (fun _ _ _ => rfl) rfl hloop
    obtain rfl : ⟨"/d"⟩ = directory := Option.some.inj hdirectory
    have hchain : List.IsChain (Refers (detours.within (d + 1)).source)
        [⟨"/d/loop.yaml"⟩, ⟨"/x/../d/loop.yaml"⟩] :=
      .cons_cons ⟨loop, hloop, "/x/../d/loop.yaml", by decide, by decide⟩ (.singleton _)
    have hsame : ¬ ([⟨"/d/loop.yaml"⟩, ⟨"/x/../d/loop.yaml"⟩].map Path.normalize).Nodup := by decide
    exact hsame (openFile_isOk_iff.1 ⟨t, (hagree d t).2 h⟩ _ hchain).distinct

end Resolver

end ScenarioTree
