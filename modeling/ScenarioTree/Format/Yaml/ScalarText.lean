import ScenarioTree.Format.Json
import ScenarioTree.Format.Yaml.Cursor

/-!
# Texts of YAML scalars

Scalars of the four styles: plain, between single or double quotes, and blocks. All of them may go
over several lines. Except in literal blocks a single line break is read as a space, and of several
breaks the first one falls away.
-/

namespace ScenarioTree.Yaml

/-! ## Folding -/

/-- White space between two parts of a scalar: the blanks before the first line break, that break,
    and the breaks after it, each in reverse; and whether there has been a line break. -/
structure Gap where
  blanks : List Char
  first : List Char
  further : List Char
  broken : Bool

def Gap.empty : Gap := ⟨[], [], [], false⟩

/-- Adds folded white space to a text in reverse. -/
def Gap.foldInto (gap : Gap) (read : List Char) : List Char :=
  if gap.broken then
    if gap.first = ['\n'] then
      if gap.further.isEmpty then ' ' :: read else gap.further ++ read
    else gap.further ++ gap.first ++ read
  else gap.blanks ++ read

/-- Reads blanks and line breaks. Blanks after a line break do not count; a tab among them is
    refused where the column is below `indent`. -/
def Gap.read (indent fuel : Nat) (gap : Gap) (c : Cursor) : Option (Gap × Cursor) :=
  match fuel, c.peek? with
  | 0, _ | _, none => some (gap, c)
  | fuel + 1, some char =>
    if isBlank char then
      if gap.broken && c.column < indent && char == '\t' then none
      else if gap.broken then Gap.read indent fuel gap (c.advance 1)
      else Gap.read indent fuel { gap with blanks := char :: gap.blanks } (c.advance 1)
    else if isBreak char then
      let gap := if gap.broken then { gap with further := c.breakText ++ gap.further }
        else { gap with blanks := [], first := c.breakText, broken := true }
      Gap.read indent fuel gap c.skipBreak
    else some (gap, c)

/-! ## Quoted scalars -/

/-- The character that an escape of one letter stands for. -/
def letterEscape? : Char → Option Char
  | '0' => some '\x00'
  | 'a' => some '\x07'
  | 'b' => some '\x08'
  | 't' | '\t' => some '\t'
  | 'n' => some '\n'
  | 'v' => some '\x0b'
  | 'f' => some '\x0c'
  | 'r' => some '\r'
  | 'e' => some '\x1b'
  | ' ' => some ' '
  | '"' => some '"'
  | '/' => some '/'
  | '\\' => some '\\'
  | 'N' => some '\u0085'
  | '_' => some '\u00a0'
  | 'L' => some '\u2028'
  | 'P' => some '\u2029'
  | _ => none

/-- How many hexadecimal digits follow the letter of an escape. -/
def escapeLength? : Char → Option Nat
  | 'x' => some 2
  | 'u' => some 4
  | 'U' => some 8
  | _ => none

/-- Reads an escape, with its backslash. -/
def readEscape (c : Cursor) : Option (Char × Cursor) := do
  let letter ← (c.rest.drop 1).head?
  match letterEscape? letter with
  | some char => return (char, c.advance 2)
  | none =>
    let count ← escapeLength? letter
    let digits := (c.rest.drop 2).take count
    let n ← Json.hexNumber? digits
    if digits.length = count ∧ n.isValidChar then return (Char.ofNat n, c.advance (2 + count))
    else none

/-- Reads the part of a quoted scalar before the next white space or the quote that ends it. The
    answer tells whether an escaped line break ended it, which is passed as well. -/
def readQuotedWord (quote : Char) (fuel : Nat) (read : List Char) (c : Cursor) :
    Option (List Char × Bool × Cursor) :=
  match fuel, c.rest with
  | 0, _ | _, [] => some (read, false, c)
  | fuel + 1, char :: rest =>
    if endsWord char then some (read, false, c)
    else if char = quote then
      if quote = '\'' ∧ rest.head? = some '\'' then
        readQuotedWord quote fuel ('\'' :: read) (c.advance 2)
      else some (read, false, c)
    else if quote = '"' ∧ char = '\\' then
      if rest.head?.any isBreak then some (read, true, (c.advance 1).skipBreak)
      else do
        let (escaped, c) ← readEscape c
        readQuotedWord quote fuel (escaped :: read) c
    else readQuotedWord quote fuel (char :: read) (c.advance 1)

/-- Reads a quoted scalar after its opening quote. No document indicator may stand in it. -/
def readQuoted (quote : Char) (fuel : Nat) (read : List Char) (c : Cursor) :
    Option (String × Cursor) :=
  match fuel with
  | 0 => none
  | fuel + 1 => do
    if c.atDocumentIndicator || c.rest.isEmpty then none
    else
      let (read, escaped, c) ← readQuotedWord quote c.rest.length read c
      if c.isAt quote then return (String.ofList read.reverse, c.advance 1)
      else
        let (gap, c) ← Gap.read 0 c.rest.length { Gap.empty with broken := escaped } c
        readQuoted quote fuel (gap.foldInto read) c

/-! ## Plain scalars -/

/-- The characters that structure flow collections. -/
def isFlowIndicator (c : Char) : Bool :=
  c == ',' || c == '[' || c == ']' || c == '{' || c == '}'

/-- Reads the part of a plain scalar before the next white space or the indicator that ends it. In a
    flow collection a colon may not stand before another indicator. -/
def readPlainWord (inFlow : Bool) (fuel : Nat) (read : List Char) (c : Cursor) :
    Option (List Char × Cursor) :=
  match fuel, c.rest with
  | 0, _ | _, [] => some (read, c)
  | fuel + 1, char :: rest =>
    if endsWord char then some (read, c)
    else if inFlow && char == ':' &&
        rest.head?.any (fun next => isFlowIndicator next || next == '?') then none
    else if char == ':' && rest.head?.all endsWord then some (read, c)
    else if inFlow && isFlowIndicator char then some (read, c)
    else readPlainWord inFlow fuel (char :: read) (c.advance 1)

/-- Reads a plain scalar, which must be indented by `indent` in its further lines. The answer tells
    whether a line break stands before the place where reading ended. -/
def readPlain (inFlow : Bool) (indent : Nat) (fuel : Nat) (gap : Gap) (read : List Char)
    (c : Cursor) : Option (String × Bool × Cursor) :=
  let done := some (String.ofList read.reverse, gap.broken, c)
  match fuel with
  | 0 => none
  | fuel + 1 =>
    if c.atDocumentIndicator || c.isAt '#' then done
    else do
      let (word, after) ← readPlainWord inFlow c.rest.length [] c
      let (read, gap) :=
        if word.isEmpty then (read, gap) else (word ++ gap.foldInto read, Gap.empty)
      if after.endsWordAfter 0 && !after.rest.isEmpty then
        let (gap, next) ← Gap.read indent after.rest.length gap after
        if !inFlow && next.column < indent then
          return (String.ofList read.reverse, gap.broken, next)
        else readPlain inFlow indent fuel gap read next
      else return (String.ofList read.reverse, gap.broken, after)

/-! ## Block scalars -/

/-- What is done with the line breaks at the end of a block scalar. -/
inductive Chomping where
  | strip
  | clip
  | keep
  deriving DecidableEq

/-- Reads a chomping indicator. -/
def readChomping (c : Cursor) : Option Chomping × Cursor :=
  match c.peek? with
  | some '+' => (some .keep, c.advance 1)
  | some '-' => (some .strip, c.advance 1)
  | _ => (none, c)

/-- Reads an indentation indicator, which is not zero; zero stands for its absence. -/
def readIncrement (c : Cursor) : Option (Nat × Cursor) :=
  match c.peek? with
  | some char =>
    if char = '0' then none
    else if Json.isDigit char then some (char.toNat - 48, c.advance 1)
    else some (0, c)
  | none => some (0, c)

/-- Reads the two indicators of a block scalar, in either order. -/
def readBlockHeader (c : Cursor) : Option (Chomping × Nat × Cursor) :=
  match readChomping c with
  | (some chomping, c) => (readIncrement c).map fun (increment, c) => (chomping, increment, c)
  | (none, c) => do
    let (increment, c) ← readIncrement c
    if increment = 0 then return (.clip, 0, c)
    else
      let (chomping, c) := readChomping c
      return (chomping.getD .clip, increment, c)

/-- Passes the indentation of a block scalar and its empty lines. An `indent` of zero is not known
    yet: it becomes the deepest column that is seen, and at least `least`. A tab must not take part
    in the indentation. The breaks come in reverse. -/
def readBlockBreaks (least : Nat) (fuel indent deepest : Nat) (breaks : List Char) (c : Cursor) :
    Option (Nat × List Char × Cursor) :=
  let inside (column : Nat) : Bool := indent == 0 || column < indent
  let spaces := (c.takeWhile (· == ' ')).length
  let c := c.advance (if indent = 0 then spaces else min spaces (indent - c.column))
  let deepest := max deepest c.column
  if inside c.column && c.isAt '\t' then none
  else
    match fuel with
    | 0 => none
    | fuel + 1 =>
      if c.atBreak then
        readBlockBreaks least fuel indent deepest (c.breakText ++ breaks) c.skipBreak
      else some (if indent = 0 then max deepest (max least 1) else indent, breaks, c)

/-- What has been read of a block scalar: its text in reverse, the break of the line before, the
    breaks after that, and whether that line began with a blank. -/
structure BlockState where
  read : List Char
  lineBreak : List Char
  breaks : List Char
  afterBlank : Bool

/-- Adds the line breaks before a line. In the folded style a break between two lines that do not
    begin with a blank is folded. -/
def BlockState.join (state : BlockState) (literal beginsBlank : Bool) : List Char :=
  let folded := !literal && state.lineBreak == ['\n'] && !state.afterBlank && !beginsBlank
  if folded then
    if state.breaks.isEmpty then ' ' :: state.read else state.breaks ++ state.read
  else state.breaks ++ state.lineBreak ++ state.read

/-- Reads the lines of a block scalar. -/
def readBlockLines (literal : Bool) (least indent fuel : Nat) (state : BlockState) (c : Cursor) :
    Option (BlockState × Cursor) :=
  match fuel with
  | 0 => none
  | fuel + 1 =>
    if c.column = indent ∧ !c.rest.isEmpty then do
      let read := state.join literal c.atBlank
      let line := c.takeWhile (!isBreak ·)
      let after := c.advance line.length
      let next := if after.atBreak then after.skipBreak else after
      let (_, breaks, next) ← readBlockBreaks least (next.rest.length + 1) indent 0 [] next
      readBlockLines literal least indent fuel
        ⟨line.reverse ++ read, after.breakText, breaks, c.atBlank⟩ next
    else some (state, c)

/-- Reads a block scalar after its indicator, inside of a collection whose indentation is one less
    than `least`. -/
def readBlock (literal : Bool) (least : Nat) (c : Cursor) : Option (String × Cursor) := do
  let (chomping, increment, c) ← readBlockHeader c
  let c ← c.finishLine?
  let indent := if increment = 0 then 0 else (least - 1) + increment
  let (indent, breaks, c) ← readBlockBreaks least (c.rest.length + 1) indent 0 [] c
  let (state, c) ← readBlockLines literal least indent (c.rest.length + 1) ⟨[], [], breaks, false⟩ c
  let read := if chomping = .strip then state.read else state.lineBreak ++ state.read
  let read := if chomping = .keep then state.breaks ++ read else read
  return (String.ofList read.reverse, c)

end ScenarioTree.Yaml
