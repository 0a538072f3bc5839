import Mathlib.Data.List.TakeWhile
import ScenarioTree.Disk
import ScenarioTree.Proofs.Basic
import ScenarioTree.Proofs.Path.Steps

/-!
# Entries of directories

The path of an entry is the path of its directory with the name of the entry behind it. Wherever the
directory is, that path leads to what the directory has under the name.

Results:

* `Entries.IsListing.lookup_eq_some_iff`: what stands under a name of a directory.
* `Path.splitName_eq_iff`: what the name of a file is without its extension.
* `Disk.tree?_child`: what the path of an entry leads to.
-/

namespace ScenarioTree

/-- A name that stands for nothing but an entry. -/
def EntryName.IsProper : EntryName → Prop
  | text name => IsEntryName name
  | broken name => 0x2F ∉ name.bytes

instance : DecidablePred EntryName.IsProper
  | .text name => inferInstanceAs (Decidable (IsEntryName name))
  | .broken name => inferInstanceAs (Decidable (0x2F ∉ name.bytes))

/-- The entries of a directory: each name occurs once, and none stands for anything but an entry. -/
structure Entries.IsListing (entries : Entries) : Prop where
  nodup_names : (entries.map (·.1)).Nodup
  isProper : ∀ entry ∈ entries, entry.1.IsProper

namespace Entries.IsListing

variable {entries : Entries}

theorem isEntryName (h : entries.IsListing) {name : String} {tree : FileTree}
    (hmem : (.text name, tree) ∈ entries) : IsEntryName name := h.isProper _ hmem

theorem lookup_eq_some_iff (h : entries.IsListing) {name : EntryName} {tree : FileTree} :
    entries.lookup name = some tree ↔ (name, tree) ∈ entries := by
  rw [List.lookup_eq_some_iff]
  constructor
  · rintro ⟨front, back, rfl, -⟩
    simp
  · intro hmem
    obtain ⟨front, back, rfl⟩ := List.append_of_mem hmem
    refine ⟨front, back, rfl, fun entry hentry => ?_⟩
    have hnodup := h.nodup_names
    rw [List.map_append, List.nodup_append] at hnodup
    have hne := hnodup.2.2 entry.1 (List.mem_map_of_mem hentry) name (by simp)
    simpa using hne.symm

end Entries.IsListing

/-! ## Names without their extension -/

section Split

variable {α : Type} [BEq α] [LawfulBEq α] {dot : α} {stem name front back : List α}

/-- What stands before the last dot of a name, or the whole name if there is no dot but one that
    begins it. -/
def IsBeforeDot (dot : α) (stem name : List α) : Prop :=
  (stem = name ∧ dot ∉ name.tail) ∨
    (stem ≠ [] ∧ ∃ extension, dot ∉ extension ∧ name = stem ++ dot :: extension)

theorem splitAtDot_of_not_mem (h : dot ∉ name) : (splitAtDot dot name).1 = name := by
  have htake : name.reverse.takeWhile (· != dot) = name.reverse := by
    refine List.takeWhile_eq_self_iff.2 fun c hc => ?_
    have hne : c ≠ dot := fun heq => h (heq ▸ List.mem_reverse.1 hc)
    simpa using hne
  have hdrop : name.reverse.drop (name.reverse.takeWhile (· != dot)).length = [] := by
    rw [htake, List.drop_length]
  simp only [splitAtDot, hdrop]

theorem splitAtDot_of_eq_append (h : name = front ++ dot :: back) (hback : dot ∉ back) :
    (splitAtDot dot name).1 = if front.isEmpty then name else front := by
  have hreverse : name.reverse = back.reverse ++ dot :: front.reverse := by
    rw [h, List.reverse_append, List.reverse_cons, List.append_assoc, List.singleton_append]
  have htake : name.reverse.takeWhile (· != dot) = back.reverse := by
    rw [hreverse, List.takeWhile_append_of_pos]
    · simp
    · intro c hc
      have hne : c ≠ dot := fun heq => hback (heq ▸ List.mem_reverse.1 hc)
      simpa using hne
  have hdrop : name.reverse.drop (name.reverse.takeWhile (· != dot)).length =
      dot :: front.reverse := by rw [htake, hreverse, List.drop_left]
  simp only [splitAtDot, hdrop]
  cases hfront : front.reverse with
  | nil => simp [List.reverse_eq_nil_iff.1 hfront]
  | cons c rest =>
    have hne : front ≠ [] := fun heq => by simp [heq] at hfront
    simp [hne, ← hfront]

theorem splitAtDot_eq_iff : (splitAtDot dot name).1 = stem ↔ IsBeforeDot dot stem name := by
  constructor
  · rintro rfl
    by_cases hdot : dot ∈ name
    · obtain ⟨back, front, hname, hback⟩ := List.eq_append_cons_of_mem (List.mem_reverse.2 hdot)
      have hname : name = front.reverse ++ dot :: back.reverse := by
        rw [← List.reverse_reverse name, hname]
        simp
      rw [splitAtDot_of_eq_append hname (by simpa using hback)]
      split_ifs with hfront
      · refine .inl ⟨rfl, ?_⟩
        rw [hname, List.isEmpty_iff.1 hfront]
        simpa using hback
      · exact .inr ⟨by simpa using hfront, back.reverse, by simpa using hback, hname⟩
    · rw [splitAtDot_of_not_mem hdot]
      exact .inl ⟨rfl, fun hmem => hdot (List.mem_of_mem_tail hmem)⟩
  · rintro (⟨rfl, htail⟩ | ⟨hne, extension, hextension, rfl⟩)
    · by_cases hdot : dot ∈ stem
      · cases stem with
        | nil => cases hdot
        | cons c rest =>
          have hfirst : dot = c := (List.mem_cons.1 hdot).resolve_right htail
          have hname : c :: rest = [] ++ dot :: rest := congrArg (· :: rest) hfirst.symm
          rw [splitAtDot_of_eq_append hname htail]
          rfl
      · exact splitAtDot_of_not_mem hdot
    · rw [splitAtDot_of_eq_append rfl hextension, if_neg (by simpa using hne)]

end Split

namespace Path

/-- The name of a file without its extension: what stands before its last dot, or the whole name if
    there is no dot but one that begins it. -/
def IsStem (stem name : String) : Prop :=
  (stem = name ∧ '.' ∉ name.toList.tail) ∨
    (stem ≠ "" ∧ ∃ extension : String, '.' ∉ extension.toList ∧ name = stem ++ "." ++ extension)

theorem isStem_iff {stem name : String} :
    IsStem stem name ↔ IsBeforeDot '.' stem.toList name.toList := by
  refine or_congr (and_congr_left' String.toList_inj.symm) (and_congr (by simp) ?_)
  constructor
  · rintro ⟨extension, hdot, rfl⟩
    exact ⟨extension.toList, hdot, by simp⟩
  · rintro ⟨extension, hdot, hname⟩
    refine ⟨String.ofList extension, by simpa using hdot, ?_⟩
    apply String.toList_injective
    simp [hname]

theorem splitName_eq_iff {stem name : String} : (splitName name).1 = stem ↔ IsStem stem name := by
  rw [isStem_iff, ← splitAtDot_eq_iff, ← String.toList_inj, splitName, String.toList_ofList]

end Path

theorem Utf8.text?_eq_some_iff {bytes : List UInt8} {text : String} :
    Utf8.text? bytes = some text ↔ bytes = text.toUTF8.data.toList := by
  unfold Utf8.text? String.fromUTF8?
  constructor
  · intro h
    split_ifs at h
    cases h
    simp [String.fromUTF8, String.toUTF8]
  · rintro rfl
    have hvalid : ByteArray.IsValidUTF8 ⟨text.toUTF8.data.toList.toArray⟩ := text.isValidUTF8
    rw [dif_pos hvalid]
    rfl

namespace EntryName

/-- A text is the name of an entry without its extension. -/
def IsStem (stem : String) : EntryName → Prop
  | text name => Path.IsStem stem name
  | broken name => IsBeforeDot 0x2E stem.toUTF8.data.toList name.bytes

theorem stem?_eq_some_iff {name : EntryName} {stem : String} :
    name.stem? = some stem ↔ name.IsStem stem := by
  cases name with
  | text name => rw [stem?, IsStem, Option.some.injEq, Path.splitName_eq_iff]
  | broken name =>
    rw [stem?, IsStem, BrokenName.stem?, Utf8.text?_eq_some_iff, splitAtDot_eq_iff]

end EntryName

/-! ## Places -/

namespace FileTree

theorem at?_append (front back : List String) (tree : FileTree) :
    tree.at? (front ++ back) = (tree.at? front).bind (at? back) := by
  induction front generalizing tree with
  | nil => rfl
  | cons name rest ih =>
    rw [List.cons_append, at?, at?, Option.bind_assoc]
    exact congrArg _ (funext ih)

end FileTree

namespace Disk

variable {disk : Disk} {directory : Path} {entries : Entries} {name : String}

theorem step_of_isEntryName {place : List String} (h : IsEntryName name)
    (hplace : disk.tree.at? place = some (.directory entries)) :
    disk.step place name.toList =
      if (entries.lookup (.text name)).isSome then .ok (place ++ [name]) else .error .notFound := by
  have hname := h.2
  unfold Component.ofPart? at hname
  split_ifs at hname with hidle hparent
  · cases hname
  · rw [step, hplace]
    simp only [if_neg hidle, if_neg hparent, String.ofList_toList]

/-- An empty part stays where it is. -/
theorem eq_of_step_nil {place next : List String} (h : disk.step place [] = .ok next) :
    place = next := by
  unfold step at h
  split at h
  · cases h
  · cases h
  · simpa using h

/-- The path of an entry takes one more step than the path of its directory. -/
theorem place_child (h : IsEntryName name) {place : List String}
    (hplace : disk.place directory = .ok place) :
    disk.place (directory.child name) = disk.step place name.toList := by
  unfold Disk.place at hplace ⊢
  split_ifs at hplace with hempty
  have hbase : directory.text.toList ≠ [] := fun heq => hempty (String.toList_eq_nil_iff.1 heq)
  have hrelative := Path.isAbsolute_of_isEntryName h
  obtain ⟨habsolute, front, hfront, hparts⟩ := Path.parts_join hbase hrelative
  have hname : Path.parts ⟨name⟩ = [name.toList] := splitSlashes_of_not_mem h.1
  have hstart : disk.start (directory.child name) = disk.start directory := by
    rw [start, start, Path.child, habsolute]
  have hchild : (directory.child name).text ≠ "" := by
    intro htext
    have hfile := Path.fileName?_child directory h
    rw [show directory.child name = ⟨""⟩ from congrArg Path.mk htext] at hfile
    cases hfile
  have hfrontPlace : front.foldlM disk.step (disk.start directory) = .ok place := by
    rcases hfront with hfront | hfront
    · rwa [← hfront]
    · rw [hfront, List.foldlM_append, bind_eq_ok_iff] at hplace
      obtain ⟨there, hthere, hlast⟩ := hplace
      rw [List.foldlM_cons, bind_eq_ok_iff] at hlast
      obtain ⟨next, hnext, hend⟩ := hlast
      cases hend
      rw [hthere, eq_of_step_nil hnext]
  rw [if_neg hchild, hstart, Path.child, hparts, hname, List.foldlM_append, hfrontPlace]
  exact bind_pure (disk.step place name.toList)

/-- What the path of an entry leads to is what the directory has under the name. -/
theorem tree?_child (h : IsEntryName name)
    (hdirectory : disk.tree? directory = .ok (.directory entries)) :
    disk.tree? (directory.child name) = (entries.lookup (.text name)).elim (.error .notFound) .ok := by
  unfold tree? at hdirectory ⊢
  obtain ⟨place, hplace, htree⟩ := bind_eq_ok_iff.1 hdirectory
  cases hat : disk.tree.at? place with
  | none =>
    rw [hat] at htree
    cases htree
  | some tree =>
    rw [hat] at htree
    cases htree
    rw [place_child h hplace, step_of_isEntryName h hat]
    cases hlookup : entries.lookup (.text name) with
    | none => rfl
    | some inner =>
      have hinner : disk.tree.at? (place ++ [name]) = some inner := by
        rw [FileTree.at?_append, hat]
        simp [FileTree.at?, FileTree.below?, hlookup]
      simp only [Option.isSome_some, if_true, bind, Except.bind, hinner]
      rfl

/-- A directory that can be listed is there. -/
theorem list_eq_ok_iff :
    disk.list directory = .ok entries ↔ disk.tree? directory = .ok (.directory entries) := by
  unfold list
  rw [bind_eq_ok_iff]
  constructor
  · rintro ⟨tree, htree, hlist⟩
    cases tree with
    | file content => cases hlist
    | directory inner =>
      cases hlist
      exact htree
  · intro htree
    exact ⟨_, htree, rfl⟩

theorem isDirectory_iff : disk.isDirectory directory = true ↔
    ∃ entries, disk.list directory = .ok entries := by
  simp only [list_eq_ok_iff]
  unfold isDirectory
  cases disk.tree? directory with
  | error fault => simp
  | ok tree =>
    cases tree with
    | file content => simp [FileTree.isDirectory]
    | directory entries => simp [FileTree.isDirectory]

theorem list_of_isFile (h : disk.isFile directory = true) :
    disk.list directory = .error .notADirectory := by
  unfold isFile at h
  unfold list
  cases htree : disk.tree? directory with
  | error fault =>
    rw [htree] at h
    cases h
  | ok tree =>
    rw [htree] at h
    cases tree with
    | file content => rfl
    | directory inner => cases h

/-- What a listing has can be found under the path of the entry. -/
theorem tree?_child_of_mem (hlist : disk.list directory = .ok entries)
    (hlisting : Entries.IsListing entries) {tree : FileTree} (hmem : (.text name, tree) ∈ entries) :
    disk.tree? (directory.child name) = .ok tree := by
  rw [tree?_child (hlisting.isEntryName hmem) (list_eq_ok_iff.1 hlist),
    hlisting.lookup_eq_some_iff.2 hmem]
  rfl

end Disk

end ScenarioTree
