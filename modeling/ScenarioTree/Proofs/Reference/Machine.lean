import ScenarioTree.Proofs.Basic
import ScenarioTree.Proofs.Reference.Failure

/-!
# A resolver at work

A resolution as a machine that goes step by step. It has one stack of open files, on which it puts a
file when the file has been loaded, and from which it takes the file when the document has been
resolved or has failed. What waits for the value of a part is kept beside it: the siblings of the part
and the files that are to be closed. A failure drops the siblings one by one and closes the files as a
value does.

The stack is never above the bound and never holds a file twice, since each step keeps it so. Each
part, wherever it stands, is done after finitely many steps, and leaves the stack as it was before.
The number of files that may still be opened goes down from a file to the documents in it, whatever
these are, and within a document the parts get smaller.

Results:

* `opened_of_step`, `IsSound.of_step`: what a step does to the stack.
* `proceeds_expand`, `proceeds_openFile`: the way from a part or a file to its value.
* `run_outcome`: all of it for every resolver and everything that is resolved.
-/

namespace ScenarioTree

namespace Resolver

open Reference

/-! ## The machine -/

/-- What waits for the value of a part: the rest of a map or of a list, or a file that is open. -/
inductive Frame where
  | field (directory : Path) (done : List (String × Value)) (key : String)
      (rest : List (String × Value))
  | item (directory : Path) (done rest : List Value)
  | close

/-- What is to be done next: a part is to be resolved, a file is to be opened, or there is a result
    for what waits. -/
inductive Control where
  | visit (directory : Path) (tree : Value)
  | enter (path : Path)
  | give (result : Except FileError Value)

/-- The frames begin with the one that waits for the next result, the files with the outermost
    one. -/
structure State where
  control : Control
  frames : List Frame
  opened : List Path

namespace State

/-- Goes on with the fields of a map, some of which are done. -/
def onFields (directory : Path) (frames : List Frame) (opened : List Path)
    (done : List (String × Value)) : List (String × Value) → State
  | [] => ⟨.give (.ok (.object done)), frames, opened⟩
  | (key, v) :: rest => ⟨.visit directory v, .field directory done key rest :: frames, opened⟩

/-- Goes on with the items of a list. -/
def onItems (directory : Path) (frames : List Frame) (opened : List Path) (done : List Value) :
    List Value → State
  | [] => ⟨.give (.ok (.array done)), frames, opened⟩
  | v :: rest => ⟨.visit directory v, .item directory done rest :: frames, opened⟩

/-- Goes on with a part. -/
def onTree (directory : Path) (frames : List Frame) (opened : List Path) : Value → State
  | .object fields =>
    match target? fields with
    | some target =>
      let path := Path.locate directory target
      match Format.ofReference path with
      | .ok _ => ⟨.enter path, frames, opened⟩
      | .error error => ⟨.give (.error error), frames, opened⟩
    | none => onFields directory frames opened [] fields
  | .array items => onItems directory frames opened [] items
  | v => ⟨.give (.ok v), frames, opened⟩

/-- What is resolved first. -/
def initial : Start → State
  | .file path => ⟨.enter path, [], []⟩
  | .tree directory tree => ⟨.visit directory tree, [], []⟩

end State

/-- Opens a file, unless it is open already or too many are. -/
def enter (resolver : Resolver) (path : Path) (frames : List Frame) (opened : List Path) : State :=
  let id := resolver.identity path
  if id ∈ opened then ⟨.give (.error (.cyclic path (opened ++ [id]))), frames, opened⟩
  else if resolver.maxDepth ≤ opened.length then
    ⟨.give (.error (.depthExceeded path resolver.maxDepth)), frames, opened⟩
  else
    match resolver.source.load path with
    | .ok tree => ⟨.visit path.directory tree, .close :: frames, opened ++ [id]⟩
    | .error error => ⟨.give (.error error), frames, opened⟩

/-- One step. A result for which nothing waits is the last one. -/
def step (resolver : Resolver) : State → Option State
  | ⟨.visit directory tree, frames, opened⟩ => some (State.onTree directory frames opened tree)
  | ⟨.enter path, frames, opened⟩ => some (resolver.enter path frames opened)
  | ⟨.give _, [], _⟩ => none
  | ⟨.give result, .close :: frames, opened⟩ => some ⟨.give result, frames, opened.dropLast⟩
  | ⟨.give (.error error), _ :: frames, opened⟩ => some ⟨.give (.error error), frames, opened⟩
  | ⟨.give (.ok v), .field directory done key rest :: frames, opened⟩ =>
    some (State.onFields directory frames opened (done ++ [(key, v)]) rest)
  | ⟨.give (.ok v), .item directory done rest :: frames, opened⟩ =>
    some (State.onItems directory frames opened (done ++ [v]) rest)

/-- The state after a number of steps. -/
def run (resolver : Resolver) : ℕ → State → Option State
  | 0, s => some s
  | n + 1, s => (resolver.step s).bind (resolver.run n)

/-- The state has not yet given the result that the frames wait for. -/
def State.IsInside (base : List Frame) (s : State) : Prop :=
  base <:+ s.frames ∧ ∀ result, s.control = .give result → s.frames ≠ base

/-- The machine gets from one state to another one, and gives nothing to the frames before. -/
inductive Proceeds (resolver : Resolver) (base : List Frame) : State → State → Prop
  | refl {s : State} : Proceeds resolver base s s
  | step {s next t : State} (hinside : s.IsInside base) (hstep : resolver.step s = some next)
      (hnext : Proceeds resolver base next t) : Proceeds resolver base s t

/-- What the part or the file comes to that is next, seen from inside the open files. -/
def answer (resolver : Resolver) (s : State) : Except FileError Value :=
  let left := resolver.maxDepth - s.opened.length
  match s.control with
  | .visit directory tree => expand (resolver.openFile left s.opened) directory tree
  | .enter path => resolver.openFile left s.opened path
  | .give result => result

/-! ## What a step keeps -/

/-- No more files are open than may be, and all are different. -/
structure State.IsSound (resolver : Resolver) (s : State) : Prop where
  length_le : s.opened.length ≤ resolver.maxDepth
  nodup : s.opened.Nodup

section Step

variable {resolver : Resolver} {s t : State}

theorem State.opened_onFields (directory : Path) (frames : List Frame) (opened : List Path)
    (done fields : List (String × Value)) :
    (onFields directory frames opened done fields).opened = opened := by
  cases fields <;> rfl

theorem State.opened_onItems (directory : Path) (frames : List Frame) (opened : List Path)
    (done items : List Value) : (onItems directory frames opened done items).opened = opened := by
  cases items <;> rfl

theorem State.opened_onTree (directory : Path) (frames : List Frame) (opened : List Path)
    (tree : Value) : (onTree directory frames opened tree).opened = opened := by
  unfold onTree
  split
  · split
    · simp only
      split <;> rfl
    · exact opened_onFields _ _ _ _ _
  · exact opened_onItems _ _ _ _ _
  · rfl

/-- A step opens a new file if one more may be open, or closes the innermost file, or leaves the open
    files as they are. -/
theorem opened_of_step (h : resolver.step s = some t) :
    (∃ id, id ∉ s.opened ∧ s.opened.length < resolver.maxDepth ∧ t.opened = s.opened ++ [id]) ∨
      t.opened = s.opened.dropLast ∨ t.opened = s.opened := by
  unfold step at h
  split at h <;> cases h
  case h_1 => exact .inr (.inr (State.opened_onTree _ _ _ _))
  case h_2 path frames opened =>
    unfold enter
    simp only
    split_ifs with hopened hbound
    · exact .inr (.inr rfl)
    · exact .inr (.inr rfl)
    · split
      · exact .inl ⟨_, hopened, Nat.lt_of_not_le hbound, rfl⟩
      · exact .inr (.inr rfl)
  case h_4 => exact .inr (.inl rfl)
  case h_5 => exact .inr (.inr rfl)
  case h_6 => exact .inr (.inr (State.opened_onFields _ _ _ _ _))
  case h_7 => exact .inr (.inr (State.opened_onItems _ _ _ _ _))

theorem State.IsSound.of_step (hs : s.IsSound resolver) (h : resolver.step s = some t) :
    t.IsSound resolver := by
  obtain ⟨id, hid, hlt, hopened⟩ | hopened | hopened := opened_of_step h
  · refine ⟨?_, ?_⟩
    · rw [hopened, List.length_append, List.length_singleton]
      exact hlt
    · rw [hopened, List.nodup_append_comm]
      exact List.nodup_cons.2 ⟨hid, hs.nodup⟩
  · refine ⟨?_, ?_⟩
    · rw [hopened]
      exact (List.dropLast_sublist _).length_le.trans hs.length_le
    · rw [hopened]
      exact hs.nodup.sublist (List.dropLast_sublist _)
  · exact ⟨hopened ▸ hs.length_le, hopened ▸ hs.nodup⟩

theorem State.isSound_initial (start : Start) : (initial start).IsSound resolver := by
  cases start <;> exact ⟨Nat.zero_le _, List.nodup_nil⟩

theorem State.IsSound.of_run {n : ℕ} (hs : s.IsSound resolver) (h : resolver.run n s = some t) :
    t.IsSound resolver := by
  induction n generalizing s with
  | zero =>
    cases h
    exact hs
  | succ n ih =>
    obtain ⟨next, hnext, h⟩ := Option.bind_eq_some_iff.1 h
    exact ih (hs.of_step hnext) h

end Step

/-! ## Ways -/

section Proceeds

variable {resolver : Resolver} {base : List Frame} {s t u : State}

theorem Proceeds.trans (h : resolver.Proceeds base s t) (h' : resolver.Proceeds base t u) :
    resolver.Proceeds base s u := by
  induction h with
  | refl => exact h'
  | step hinside hstep _ ih => exact .step hinside hstep (ih h')

theorem State.IsInside.of_cons {frame : Frame} (h : s.IsInside (frame :: base)) :
    s.IsInside base := by
  refine ⟨(List.suffix_cons frame base).trans h.1, fun _ _ heq => ?_⟩
  have hlength := h.1.length_le
  rw [heq, List.length_cons] at hlength
  omega

/-- A way inside of a part is one inside of what waits for the part. -/
theorem Proceeds.of_cons {frame : Frame} (h : resolver.Proceeds (frame :: base) s t) :
    resolver.Proceeds base s t := by
  induction h with
  | refl => exact .refl
  | step hinside hstep _ ih => exact .step hinside.of_cons hstep ih

theorem Proceeds.exists_run (h : resolver.Proceeds base s t) : ∃ n, resolver.run n s = some t := by
  induction h with
  | refl => exact ⟨0, rfl⟩
  | step _ hstep _ ih =>
    obtain ⟨n, hn⟩ := ih
    exact ⟨n + 1, by rw [run, hstep, Option.bind_some, hn]⟩

/-- Something is to be resolved. -/
theorem State.isInside_of_control {control : Control} (h : ∀ result, control ≠ .give result)
    (frames : List Frame) (opened : List Path) : IsInside frames ⟨control, frames, opened⟩ :=
  ⟨List.suffix_rfl, fun result hgive => absurd hgive (h result)⟩

/-- Something else waits before. -/
theorem State.isInside_of_cons (control : Control) (frame : Frame) (frames : List Frame)
    (opened : List Path) : IsInside frames ⟨control, frame :: frames, opened⟩ :=
  ⟨List.suffix_cons frame frames, fun _ _ => List.cons_ne_self frame frames⟩

end Proceeds

/-! ## Parts -/

/-- Inside of the given open files, each file that is to be opened is resolved. -/
def ResolvesFiles (resolver : Resolver) (opened : List Path)
    (content : Path → Except FileError Value) : Prop :=
  ∀ path frames, resolver.Proceeds frames ⟨.enter path, frames, opened⟩
    ⟨.give (content path), frames, opened⟩

section Parts

variable {resolver : Resolver} {content : Path → Except FileError Value} {opened : List Path}

mutual

/-- A part is resolved, if files are. -/
theorem proceeds_expand (hcontent : resolver.ResolvesFiles opened content) (directory : Path) :
    ∀ (tree : Value) (frames : List Frame), resolver.Proceeds frames
      ⟨.visit directory tree, frames, opened⟩
      ⟨.give (expand content directory tree), frames, opened⟩
  | .object fields, frames => by
    refine .step (State.isInside_of_control (by simp) frames opened) rfl ?_
    rw [State.onTree, expand]
    cases target? fields with
    | some target =>
      simp only
      cases Format.ofReference (Path.locate directory target) with
      | error error => exact .refl
      | ok format => exact hcontent _ frames
    | none => exact proceeds_expandFields hcontent directory fields [] frames
  | .array items, frames => by
    refine .step (State.isInside_of_control (by simp) frames opened) rfl ?_
    rw [State.onTree, expand]
    exact proceeds_expandItems hcontent directory items [] frames
  | .null, frames | .bool _, frames | .number _, frames | .string _, frames => by
    refine .step (State.isInside_of_control (by simp) frames opened) rfl ?_
    rw [expand]
    · exact .refl
    · simp
    · simp

theorem proceeds_expandFields (hcontent : resolver.ResolvesFiles opened content)
    (directory : Path) :
    ∀ (fields done : List (String × Value)) (frames : List Frame),
      resolver.Proceeds frames (State.onFields directory frames opened done fields)
        ⟨.give do return .object (done ++ (← expandFields content directory fields)), frames, opened⟩
  | [], done, frames => by
    rw [State.onFields, expandFields]
    simp only [bind, Except.bind, List.append_nil]
    exact .refl
  | (key, v) :: rest, done, frames => by
    rw [State.onFields, expandFields]
    refine (proceeds_expand hcontent directory v _).of_cons.trans ?_
    have hinside (result : Except FileError Value) := State.isInside_of_cons (.give result)
      (.field directory done key rest) frames opened
    cases expand content directory v with
    | error error => exact .step (hinside _) rfl .refl
    | ok w =>
      refine .step (hinside _) rfl ?_
      have hrest := proceeds_expandFields hcontent directory rest (done ++ [(key, w)]) frames
      cases hexpand : expandFields content directory rest with
      | error error => rwa [hexpand] at hrest
      | ok rest' =>
        rw [hexpand] at hrest
        simpa only [bind, Except.bind, pure, Except.pure, List.append_assoc,
          List.singleton_append] using hrest

theorem proceeds_expandItems (hcontent : resolver.ResolvesFiles opened content)
    (directory : Path) :
    ∀ (items done : List Value) (frames : List Frame),
      resolver.Proceeds frames (State.onItems directory frames opened done items)
        ⟨.give do return .array (done ++ (← expandItems content directory items)), frames, opened⟩
  | [], done, frames => by
    rw [State.onItems, expandItems]
    simp only [bind, Except.bind, List.append_nil]
    exact .refl
  | v :: rest, done, frames => by
    rw [State.onItems, expandItems]
    refine (proceeds_expand hcontent directory v _).of_cons.trans ?_
    have hinside (result : Except FileError Value) := State.isInside_of_cons (.give result)
      (.item directory done rest) frames opened
    cases expand content directory v with
    | error error => exact .step (hinside _) rfl .refl
    | ok w =>
      refine .step (hinside _) rfl ?_
      have hrest := proceeds_expandItems hcontent directory rest (done ++ [w]) frames
      cases hexpand : expandItems content directory rest with
      | error error => rwa [hexpand] at hrest
      | ok rest' =>
        rw [hexpand] at hrest
        simpa only [bind, Except.bind, pure, Except.pure, List.append_assoc,
          List.singleton_append] using hrest

end

end Parts

/-! ## Files -/

variable {resolver : Resolver}

/-- A file is resolved, since fewer files may be opened inside of it. -/
theorem proceeds_openFile {left : ℕ} {opened : List Path}
    (hleft : opened.length + left = resolver.maxDepth) (path : Path) (frames : List Frame) :
    resolver.Proceeds frames ⟨.enter path, frames, opened⟩
      ⟨.give (resolver.openFile left opened path), frames, opened⟩ := by
  induction left generalizing opened path frames with
  | zero =>
    refine .step (State.isInside_of_control (by simp) frames opened) rfl ?_
    have hbound : resolver.maxDepth ≤ opened.length := by omega
    rw [enter, openFile]
    simp only [hbound, if_true]
    split_ifs <;> exact .refl
  | succ left ih =>
    refine .step (State.isInside_of_control (by simp) frames opened) rfl ?_
    have hbound : ¬ resolver.maxDepth ≤ opened.length := by omega
    rw [enter, openFile]
    simp only [hbound, if_false]
    split_ifs with hopened
    · exact .refl
    · cases resolver.source.load path with
      | error error => exact .refl
      | ok tree =>
        -- the document is resolved with the file open, and then the file is closed
        have hlength : (opened ++ [resolver.identity path]).length + left = resolver.maxDepth := by
          rw [List.length_append, List.length_singleton]
          omega
        have hcontent : resolver.ResolvesFiles (opened ++ [resolver.identity path])
            (resolver.openFile left (opened ++ [resolver.identity path])) := ih hlength
        refine (proceeds_expand hcontent path.directory tree _).of_cons.trans ?_
        refine .step (State.isInside_of_cons _ _ frames _) rfl ?_
        rw [List.dropLast_concat]
        exact .refl

/-- Whatever is next is done, and what waits for it and the open files are as before. -/
theorem proceeds_answer {s : State} (h : s.IsSound resolver) :
    resolver.Proceeds s.frames s ⟨.give (resolver.answer s), s.frames, s.opened⟩ := by
  obtain ⟨control, frames, opened⟩ := s
  have hleft : opened.length + (resolver.maxDepth - opened.length) = resolver.maxDepth :=
    Nat.add_sub_of_le h.length_le
  cases control with
  | visit directory tree => exact proceeds_expand (proceeds_openFile hleft) directory tree frames
  | enter path => exact proceeds_openFile hleft path frames
  | give result => exact .refl

theorem answer_initial (start : Start) :
    resolver.answer (State.initial start) = resolver.outcome start := by
  cases start <;> rfl

/-- Everything that is resolved is resolved in finitely many steps. On the way there are never more
    files open than may be, and no file twice. Whatever part or file comes next on the way, it is done
    as well, with a value or with an error, before anything is given to what waits for it, and then
    the same files are open as before. -/
theorem run_outcome (resolver : Resolver) (start : Start) :
    (∃ n, resolver.run n (State.initial start) = some ⟨.give (resolver.outcome start), [], []⟩) ∧
    ∀ n s, resolver.run n (State.initial start) = some s →
      s.opened.length ≤ resolver.maxDepth ∧ s.opened.Nodup ∧
      resolver.Proceeds s.frames s ⟨.give (resolver.answer s), s.frames, s.opened⟩ := by
  have hinitial : (State.initial start).IsSound resolver := State.isSound_initial start
  constructor
  · have hproceeds := proceeds_answer hinitial
    rw [answer_initial] at hproceeds
    cases start <;> exact hproceeds.exists_run
  · intro n s hrun
    have hsound : s.IsSound resolver := hinitial.of_run hrun
    exact ⟨hsound.length_le, hsound.nodup, proceeds_answer hsound⟩

/-- Every path has a document, and each document refers to a path with a longer name. -/
def endless : Source where
  load path := .ok (.object [("$ref", .string ("." ++ path.text ++ "/next.yaml"))])

/-- A source that never ends is cut off at the bound. -/
example : (⟨endless, Path.normalize, 2⟩ : Resolver).outcome (.file ⟨"/a.yaml"⟩) =
    .error (.depthExceeded ⟨"/a.yaml/a.yaml/next.yaml/next.yaml"⟩ 2) := rfl

end Resolver

end ScenarioTree
