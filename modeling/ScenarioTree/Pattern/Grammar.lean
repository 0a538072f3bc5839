import ScenarioTree.Pattern.Members
import ScenarioTree.Text.Alphanumeric

/-!
# The common grammar of patterns

Patterns have to satisfy a grammar that many readers of patterns share: groups, alternatives, sets,
escapes, repetition and modes. Looks around and references to groups are beyond it; a pattern that
is well formed up to the first of them is left to the reader of patterns.

A control character that is written by its letter, such as `\cJ`, is put in place of its escape.

`prepare?` is the pattern that is read in the end, if it satisfies the grammar. It is plain if all
of it does; the escapes for common sets then stand for small sets.
-/

namespace ScenarioTree.Pattern

/-! ## Sequences -/

/-- The alternatives of a group while they are read, and the sequence that is read last. Of their
    parts only the depth is kept. -/
structure Level where
  /-- How deep the alternatives before nest, if there are any. -/
  alternatives : Option Nat
  count : Nat
  /-- How deep the parts before the last one nest. -/
  before : Nat
  last : Nat
  /-- Whether the last part can be repeated. -/
  isRepeatable : Bool
  /-- Whether blanks are skipped behind the group. -/
  spacedBehind : Bool

namespace Level

/-- A group without parts. -/
def new (spacedBehind : Bool) : Level := ⟨none, 0, 0, 0, false, spacedBehind⟩

/-- Adds a part. -/
def add (level : Level) (depth : Nat) (isRepeatable : Bool) : Level :=
  { level with
    count := level.count + 1, before := max level.before level.last, last := depth, isRepeatable }

/-- How deep the sequence nests that is read last. -/
def sequenceDepth (level : Level) : Nat :=
  max level.before level.last + if level.count ≤ 1 then 0 else 1

/-- How deep the alternatives nest. -/
def depth (level : Level) : Nat :=
  match level.alternatives with
  | none => level.sequenceDepth
  | some deepest => max deepest level.sequenceDepth + 1

/-- Begins another alternative. -/
def nextAlternative (level : Level) : Level :=
  { new level.spacedBehind with
    alternatives := some (max (level.alternatives.getD 0) level.sequenceDepth) }

/-- Repeats the last part. -/
def repeatLast? (level : Level) : Option Level :=
  if level.isRepeatable then some { level with last := level.last + 1 } else none

end Level

/-! ## Groups -/

/-- Reads the modes behind a question mark, up to the character that ends them: the modes that are
    switched on and those that are switched off. None is named twice. -/
def readModes : List Char → List Char → Option (List Char × List Char × Char × List Char)
  | _, [] => none
  | seen, c :: rest =>
    if c = ':' ∨ c = ')' then
      if seen.getLast? = some '-' then none
      else some (seen.takeWhile (· != '-'), (seen.dropWhile (· != '-')).drop 1, c, rest)
    else if !seen.contains c && "imsUuRx-".toList.contains c then readModes (seen ++ [c]) rest
    else none

/-- Whether a text can be the name of a group. -/
def isGroupName (name : List Char) : Bool :=
  match name with
  | [] => false
  | c :: rest =>
    (c == '_' || Text.alphabetic.contains c)
      && rest.all fun c => Text.isAlphanumeric c || "_.[]".toList.contains c

/-- How a group begins. -/
inductive Opening where
  | plain
  | named (name : List Char)
  /-- Modes for the group. -/
  | moded (on off : List Char)
  /-- Modes for what follows, without a group. -/
  | modes (on off : List Char)

/-- Reads how a group begins, behind its parenthesis. -/
def readOpening (text : List Char) : Except Stop (Opening × List Char) :=
  let named (rest : List Char) : Except Stop (Opening × List Char) :=
    match Text.cutAt? '>' rest with
    | some (name, behind) =>
      if isGroupName name then .ok (.named name, behind) else .error .malformed
    | none => .error .malformed
  match text with
  | '?' :: '=' :: _ | '?' :: '!' :: _ | '?' :: '<' :: '=' :: _ | '?' :: '<' :: '!' :: _ =>
    .error .beyond
  | '?' :: 'P' :: '<' :: rest | '?' :: '<' :: rest => named rest
  | '?' :: rest =>
    match readModes [] rest with
    | some (on, off, ':', rest) => .ok (.moded on off, rest)
    | some ([], [], _, _) | none => .error .malformed
    | some (on, off, _, rest) => .ok (.modes on off, rest)
  | text => .ok (.plain, text)

/-- Whether blanks are skipped after modes have been switched. -/
def spacedAfter (spaced : Bool) (on off : List Char) : Bool :=
  (spaced || on.contains 'x') && !off.contains 'x'

/-! ## Repetition -/

/-- Reads a number with blanks around it. -/
def readCount (spaced : Bool) (text : List Char) : Option Nat × List Char :=
  let rec digits : Nat → List Char → List Char × List Char
    | 0, text => ([], text)
    | bound + 1, c :: rest =>
      if c.isDigit then
        let (more, rest) := digits bound (dropBlanksIf spaced rest)
        (c :: more, rest)
      else ([], c :: rest)
    | _, [] => ([], [])
  let (found, rest) := digits text.length (text.dropWhile Text.isBlank)
  let number := found.foldl (fun n c => 10 * n + (c.toNat - 0x30)) 0
  let rest := dropBlanksIf spaced (rest.dropWhile Text.isBlank)
  (if found.isEmpty || UInt32.size ≤ number then none else some number, rest)

/-- What is behind the bounds of a repetition, if they are in order. -/
def dropBounds? (spaced : Bool) (text : List Char) : Option (List Char) := do
  let (least, rest) := readCount spaced (dropBlanksIf spaced text)
  let least ← least
  match rest with
  | '\x7d' :: rest => some rest
  | ',' :: rest =>
    match dropBlanksIf spaced rest with
    | '\x7d' :: rest => some rest
    | rest =>
      let (most, rest) := readCount spaced rest
      match rest with
      | '\x7d' :: rest => if least ≤ (← most) then some rest else none
      | _ => none
  | _ => none

/-- A text without the question mark at its start. -/
def dropQuestion : List Char → List Char
  | '?' :: rest => rest
  | text => text

/-! ## Patterns -/

/-- What has been read of a pattern. -/
structure Scan where
  /-- The groups that are open, the innermost first, and the whole pattern last. -/
  inner : Level
  outer : List Level
  names : List (List Char)
  spaced : Bool
  /-- Whether the bell has been written by its letter. -/
  rings : Bool

namespace Scan

/-- Nothing yet. -/
def start : Scan := ⟨.new false, [], [], false, false⟩

/-- Adds a part to the innermost group. -/
def add (scan : Scan) (depth : Nat) : Scan := { scan with inner := scan.inner.add depth true }

/-- Opens a group. -/
def enter (scan : Scan) (opening : Opening) : Option Scan :=
  let deeper := { scan with inner := .new scan.spaced, outer := scan.inner :: scan.outer }
  match opening with
  | .plain => some deeper
  | .named name =>
    if scan.names.contains name then none else some { deeper with names := name :: scan.names }
  | .moded on off => some { deeper with spaced := spacedAfter scan.spaced on off }
  | .modes on off =>
    some { scan with inner := scan.inner.add 0 false, spaced := spacedAfter scan.spaced on off }

/-- Closes the innermost group. -/
def leave (scan : Scan) : Option Scan :=
  match scan.outer with
  | [] => none
  | level :: outer =>
    some { scan with
      inner := level.add (scan.inner.depth + 1) true, outer, spaced := scan.inner.spacedBehind }

end Scan

/-- Reads one part of a pattern, or what opens, closes or separates parts. -/
def scanPart (scan : Scan) (c : Char) (rest : List Char) : Except Stop (Scan × List Char) :=
  let orMalformed (read : Option Scan) (rest : List Char) : Except Stop (Scan × List Char) :=
    match read with
    | some scan => .ok (scan, rest)
    | none => .error .malformed
  let repeated : Option Scan := scan.inner.repeatLast?.map ({ scan with inner := · })
  match c with
  | '(' => do
    let (opening, rest) ← readOpening (dropBlanksIf scan.spaced rest)
    orMalformed (scan.enter opening) rest
  | ')' => orMalformed scan.leave rest
  | '|' => .ok ({ scan with inner := scan.inner.nextAlternative }, rest)
  | '[' => do
    let (members, rest) ← readSet scan.spaced rest
    return (scan.add (members.depthIn false), rest)
  | '?' | '*' | '+' => orMalformed repeated (dropQuestion rest)
  | '\x7b' =>
    match dropBounds? scan.spaced rest with
    | some rest => orMalformed repeated (dropQuestion (dropBlanksIf scan.spaced rest))
    | none => .error .malformed
  | '\\' => do
    let (escape, rest) ← readEscape scan.spaced rest
    let rings := match escape with
      | .bell => true
      | _ => false
    return ({ scan.add 0 with rings := scan.rings || rings }, rest)
  | _ => .ok (scan.add 0, rest)

/-- Reads a pattern. The bound is on the number of its parts. -/
def scanAll : Nat → Scan → List Char → Except Stop Scan
  | 0, _, _ => .error .malformed
  | bound + 1, scan, text =>
    match dropBlanksIf scan.spaced text with
    | [] => .ok scan
    | c :: rest => do
      let (scan, rest) ← scanPart scan c rest
      scanAll bound scan rest

/-- Checks a text against the grammar. -/
def check (text : List Char) : Except Stop Unit := do
  let scan ← scanAll (text.length + 1) .start text
  if scan.outer.isEmpty && scan.inner.depth ≤ 250 && !scan.rings then return ()
  else throw .malformed

/-- A pattern that satisfies the common grammar. -/
structure Prepared where
  text : List Char
  /-- Whether all of it does. -/
  isPlain : Bool

/-- Puts control characters in place of their escapes, one by one, until the text satisfies the
    grammar or does not. The bound is on the number of these characters. -/
def prepareWithin : Nat → List Char → Option Prepared
  | 0, _ => none
  | bound + 1, text =>
    match check text with
    | .ok () => some ⟨text, true⟩
    | .error .beyond => some ⟨text, false⟩
    | .error .malformed | .error (.control []) => none
    | .error (.control (letter :: rest)) =>
      prepareWithin bound
        (text.take (text.length - rest.length - 3) ++ controlCharacter letter :: rest)

/-- The pattern that is read in the place of a text, if the text satisfies the common grammar. -/
def prepare? (text : List Char) : Option Prepared := prepareWithin (text.length + 1) text

end ScenarioTree.Pattern
