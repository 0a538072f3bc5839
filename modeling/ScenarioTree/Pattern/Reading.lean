import ScenarioTree.Pattern.Basic
import ScenarioTree.Pattern.Grammar
import ScenarioTree.Pattern.Room

/-!
# Reading patterns

The written form of patterns:

* `a|b`, `ab`, `(a)`, `(?:a)`, `(?<name>a)`, `(?>a)`, `(?=a)`, `(?!a)`, `(?<=a)`, `(?<!a)`
* `a*`, `a+`, `a?` and `a` with bounds in braces; with `?` behind as seldom as possible, with `+`
  behind atomic. Braces without bounds are characters.
* `.`, `[a-z]`, `^`, `$`, and escapes
* `\1`, `\k<name>` and `(?P=name)` for what a group has matched, and `(?(1)a|b)` on a condition
* `(?i)` and `(?i:a)` for modes, `(?#a)` for comments

Groups nest less than 64 deep. A reference leads to a group that has been opened before it. What is
looked for behind a place has to have a fixed width, or alternatives with one each.
-/

namespace ScenarioTree.Pattern

/-! ## What has been read -/

/-- How characters are read. -/
structure Modes where
  ignoresCase : Bool
  /-- Whether `^` and `$` stand for the ends of lines. -/
  isPerLine : Bool
  /-- Whether a dot stands for line breaks, too. -/
  matchesBreaks : Bool
  spaced : Bool
  /-- Whether `?` behind a repetition makes it greedy, and not the other way round. -/
  isSwapped : Bool

/-- What has been read, and the rest of the text. -/
structure Progress where
  text : List Char
  modes : Modes
  /-- How many groups have been opened. -/
  groups : Nat
  names : List (List Char × Nat)
  /-- Whether a group has been referred to by its number. -/
  usesNumbers : Bool

/-- What is read from a text. -/
abbrev Reader := StateT Progress Option

namespace Reader

def text : Reader (List Char) := return (← get).text

def modes : Reader Modes := return (← get).modes

/-- Goes on with a text. -/
def goOn (text : List Char) : Reader Unit := modify ({ · with text })

/-- Goes on behind a character, if it comes next. -/
def accept (c : Char) : Reader Bool := do
  match ← text with
  | d :: rest => if c = d then goOn rest; return true else return false
  | [] => return false

/-- Goes on behind a character, which has to come next. -/
def expect (c : Char) : Reader Unit := do
  if !(← accept c) then failure

/-- Reads something. -/
def take {α : Type} (read : List Char → Option (α × List Char)) : Reader α := do
  let (result, rest) ← read (← text)
  goOn rest
  return result

/-- Reads with the modes of before afterwards. -/
def withinModes {α : Type} (reader : Reader α) : Reader α := do
  let modes ← modes
  let result ← reader
  modify ({ · with modes })
  return result

end Reader

open Reader

/-! ## Blanks and comments -/

/-- What a reader of blanks is in. -/
inductive Ignored where
  | blanks
  | line
  | comment

/-- A text without the comments at its start, and, if they are skipped, without blanks and lines of
    comment. -/
def dropIgnored (spaced : Bool) : Ignored → List Char → Option (List Char)
  | .blanks, '(' :: '?' :: '#' :: rest => dropIgnored spaced .comment rest
  | .blanks, c :: rest =>
    if spaced && c == '#' then dropIgnored spaced .line rest
    else if spaced && [' ', '\t', '\n', '\r'].contains c then dropIgnored spaced .blanks rest
    else some (c :: rest)
  | .line, '\n' :: rest => dropIgnored spaced .blanks rest
  | .line, _ :: rest => dropIgnored spaced .line rest
  | .comment, ')' :: rest => dropIgnored spaced .blanks rest
  | .comment, '\\' :: _ :: rest => dropIgnored spaced .comment rest
  | .comment, _ :: rest => dropIgnored spaced .comment rest
  | .comment, [] => none
  | _, [] => some []

/-- Skips blanks and comments. -/
def skipIgnored : Reader Unit := do
  goOn (← dropIgnored (← modes).spaced .blanks (← text))

/-! ## Numbers and names -/

/-- Reads a decimal number. -/
def readNumber (text : List Char) : Option (Nat × List Char) :=
  match text.takeWhile Char.isDigit with
  | [] => none
  | digits => some (digits.foldl (fun n c => 10 * n + (c.toNat - 0x30)) 0, text.drop digits.length)

/-- Whether a character may stand in the name of a group. -/
def isNameCharacter (c : Char) : Bool := Text.isAlphanumeric c || c == '_'

/-- Reads a name up to a mark. -/
def readName (mark : Char) (text : List Char) : Option (List Char × List Char) :=
  let name := text.takeWhile isNameCharacter
  match text.drop name.length with
  | c :: rest => if c = mark ∧ !name.isEmpty then some (name, rest) else none
  | [] => none

/-- A reference to a group that has been opened. -/
def refer (number : Nat) : Reader Pattern := do
  if number ≤ (← get).groups then return .again number else failure

/-- Reads a number that refers to a group. In a text of a size, only numbers below half of it do. -/
def readReference (size : Nat) : Reader Pattern := do
  let number ← take readNumber
  modify ({ · with usesNumbers := true })
  if number < size / 2 then refer number else failure

/-- Reads a name that refers to a group, or a number; a negative one counts back. -/
def readNamedReference (mark : Char) (countsBack : Bool) : Reader Pattern := do
  let isBack ← if countsBack then accept '-' else pure false
  let name ← take (readName mark)
  let number? := match readNumber name with
    | some (number, []) => some number
    | _ => none
  let now ← get
  if isBack then
    match number? with
    | some number =>
      if 0 < number ∧ number ≤ now.groups then refer (now.groups + 1 - number) else failure
    | none => failure
  else
    match now.names.lookup name, number? with
    | some number, _ | none, some number => refer number
    | none, none => failure

/-! ## Characters and sets -/

/-- One character, with its variants if case is ignored. -/
def character (c : Char) : Reader Pattern :=
  return .one (Members.folded (← modes).ignoresCase (.only c))

/-- The hexadecimal digits as members of a set, and all others. -/
def hexMembers (negated : Bool) : Members :=
  .bracket negated (.ofList [.range '0' '9', .range 'A' 'F', .range 'a' 'f'])

/-- Reads the number of a character: exactly so many hexadecimal digits, or up to eight in braces.
    -/
def readHex (count : Nat) (text : List Char) : Option (Char × List Char) :=
  let digits := text.take count
  if digits.length = count ∧ digits.all Text.isHexDigit then do
    return (← characterOf? digits, text.drop count)
  else
    match text with
    | '\x7b' :: rest =>
      let digits := rest.takeWhile Text.isHexDigit
      match rest.drop digits.length with
      | '\x7d' :: behind =>
        if digits.isEmpty ∨ 8 < digits.length then none
        else do return (← characterOf? digits, behind)
      | _ => none
    | _ => none

/-- Reads an escape that stands for a character or a set, behind its backslash. Between brackets
    more letters stand for themselves. -/
def readCharacterEscape (inSet : Bool) (text : List Char) :
    Option ((Char ⊕ Members) × List Char) := do
  let (c, rest) ← text.head?.map (·, text.drop 1)
  let single (read : Char × List Char) : (Char ⊕ Members) × List Char := (.inl read.1, read.2)
  match commonSet? c, namedCharacter? c with
  | some (set, negated), _ => return (.inr (.common set negated), rest)
  | none, some named => return (.inl named, rest)
  | none, none =>
    match c with
    | 'h' => return (.inr (hexMembers false), rest)
    | 'H' => return (.inr (hexMembers true), rest)
    | 'x' => (readHex 2 rest).map single
    | 'u' => (readHex 4 rest).map single
    | 'U' => (readHex 8 rest).map single
    | 'p' | 'P' =>
      match readProperty false (c == 'P') rest with
      | some (.property name value negated, rest) =>
        return (.inr (.property name value negated), rest)
      | _ => none
    | 'a' => return (.inl '\x07', rest)
    | 'e' => return (.inl '\x1b', rest)
    | 'b' => if inSet then return (.inl '\x08', rest) else none
    | c =>
      if c.isDigit then none
      else if !c.isAlpha || (inSet && ['k', 'A', 'z', 'B', 'K', 'G'].contains c) then
        return (.inl c, rest)
      else none

/-- A set, if the names in it are known. -/
def membersSet (isPlain : Bool) (members : Members) : Reader Pattern := do
  return .one (← members.set? isPlain (← modes).ignoresCase)

/-- A character as it is written between brackets to stand for itself. -/
def quoted (c : Char) : List Char := if isEscapable c then ['\\', c] else [c]

/-- Finds the end of a set behind its opening bracket, with escapes in their common form. Brackets
    are counted. -/
def cutSet : Nat → Nat → List Char → Option (List Char × List Char)
  | 0, _, _ | _, _, [] => none
  | fuel + 1, depth, c :: rest => do
    match c with
    | '\\' => do
      let (escape, behind) ← readCharacterEscape true rest
      let (inside, behind') ← cutSet fuel depth behind
      let written := match escape with
        | .inl c => quoted c
        | .inr (.bracket negated _) => (if negated then "[^0-9A-Fa-f]" else "[0-9A-Fa-f]").toList
        | .inr _ => '\\' :: rest.take (rest.length - behind.length)
      return (written ++ inside, behind')
    | ']' =>
      if depth = 0 then return ([']'], rest)
      else
        let (inside, behind) ← cutSet fuel (depth - 1) rest
        return (']' :: inside, behind)
    | c =>
      let (inside, behind) ← cutSet fuel (if c = '[' then depth + 1 else depth) rest
      return (c :: inside, behind)

/-- Reads a set behind its opening bracket. -/
def readBracket (isPlain : Bool) : Reader Pattern := do
  let (start, rest) := match ← text with
    | '^' :: ']' :: rest => (['^', ']'], rest)
    | '^' :: rest => (['^'], rest)
    | ']' :: rest => ([']'], rest)
    | rest => ([], rest)
  let (inside, rest) ← cutSet (rest.length + 1) 0 rest
  match readSet false (start ++ inside) with
  | .ok (members, []) => goOn rest; membersSet isPlain members
  | _ => failure

/-- Reads what follows a backslash. -/
def readAtomEscape (size : Nat) (isPlain : Bool) : Reader Pattern := do
  let behind (rest : List Char) (pattern : Pattern) : Reader Pattern := do
    goOn rest
    return pattern
  match ← text with
  | [] => failure
  | c :: rest =>
    match c with
    | 'A' => behind rest (.anchor .start)
    | 'z' => behind rest (.anchor .finish)
    | 'b' => if rest.head? = some '\x7b' then failure else behind rest (.anchor (.edge false))
    | 'B' => if rest.head? = some '\x7b' then failure else behind rest (.anchor (.edge true))
    | '<' => behind rest (.anchor .wordStart)
    | '>' => behind rest (.anchor .wordFinish)
    | 'G' => behind rest (.atomic (.anchor .start))
    | 'K' => behind rest (.atomic .empty)
    | 'k' | 'g' =>
      goOn (rest.drop 1)
      match rest.head? with
      | some '<' => readNamedReference '>' true
      | some '\'' => readNamedReference '\'' true
      | _ => failure
    | c =>
      if c.isDigit then readReference size
      else
        match ← take (readCharacterEscape false) with
        | .inl c => character c
        | .inr (.bracket negated members) => membersSet isPlain (.bracket negated members)
        | .inr members => membersSet isPlain members

/-! ## Repetition -/

/-- Reads the least and the greatest number of times behind an opening brace. A missing least number
    is zero. -/
def readBounds (spaced : Bool) (text : List Char) : Option ((Nat × Option Nat) × List Char) := do
  let skip := dropIgnored spaced .blanks
  let text ← skip text
  let (least, text) ← if text.head? = some ',' then some (0, text) else readNumber text
  match ← skip text with
  | '\x7d' :: rest => return ((least, some least), rest)
  | ',' :: rest => do
    let rest ← skip rest
    let (most, rest) := match readNumber rest with
      | some (most, rest) => (some most, rest)
      | none => (none, rest)
    match ← skip rest with
    | '\x7d' :: rest => return ((least, most), rest)
    | _ => none
  | _ => none

/-- Reads how often something is repeated. -/
def readTimes (spaced : Bool) (text : List Char) : Option ((Nat × Option Nat) × List Char) :=
  match text with
  | '*' :: rest => some ((0, none), rest)
  | '+' :: rest => some ((1, none), rest)
  | '?' :: rest => some ((0, some 1), rest)
  | '\x7b' :: rest => readBounds spaced rest
  | _ => none

/-- Reads a part of a sequence with its repetition, if it has one. -/
def readPiece (atom : Reader Pattern) : Reader Pattern := do
  let pattern ← atom
  skipIgnored
  match readTimes (← modes).spaced (← text) with
  | none => return pattern
  | some ((least, most), rest) =>
    if !pattern.isRepeatable || !most.all (fun most => least ≤ most && most < UInt32.size)
        || UInt32.size ≤ least then
      failure
    goOn rest
    skipIgnored
    let isMarked ← accept '?'
    let repeated := .repeated pattern least most (isMarked == (← modes).isSwapped)
    return if ← accept '+' then .atomic repeated else repeated

/-! ## Sequences and groups -/

/-- Reads the parts of a sequence. Reading ends where nothing is read. -/
def readPieces (atom : Reader Pattern) : Nat → Reader (List Pattern)
  | 0 => failure
  | fuel + 1 => do
    let before ← text
    if before.isEmpty then return []
    let piece ← readPiece atom
    if (← text).length = before.length then return []
    let pieces ← readPieces atom fuel
    return match piece with
      | .empty => pieces
      | piece => piece :: pieces

/-- Reads alternatives. -/
def readAlternatives (atom : Reader Pattern) : Nat → Reader (List Pattern)
  | 0 => failure
  | fuel + 1 => do
    let first := sequence (← readPieces atom ((← text).length + 1))
    skipIgnored
    if ← accept '|' then return first :: (← readAlternatives atom fuel) else return [first]

/-- Reads a whole pattern. A single alternative must not refer to groups by number if there are
    named ones. -/
def readWhole (atom : Reader Pattern) : Reader Pattern := do
  let found ← readAlternatives atom ((← text).length + 1)
  let now ← get
  if found.length = 1 && now.usesNumbers && !now.names.isEmpty then failure
  return alternatives found

/-- Switches a mode. -/
def Modes.switch? (modes : Modes) (letter : Char) (on : Bool) : Option Modes :=
  match letter with
  | 'i' => some { modes with ignoresCase := on }
  | 'm' => some { modes with isPerLine := on }
  | 's' => some { modes with matchesBreaks := on }
  | 'x' => some { modes with spaced := on }
  | 'U' => some { modes with isSwapped := on }
  | 'u' => if on then some modes else none
  | _ => none

/-- Reads modes up to the character that ends them, which is given with the number of marks read. -/
def readModeLetters : Nat → Bool → Nat → Reader (Char × Nat × Bool)
  | 0, _, _ => failure
  | fuel + 1, on, count => do
    skipIgnored
    match ← text with
    | [] => failure
    | c :: rest =>
      goOn rest
      if c = ')' ∨ c = ':' then return (c, count, on)
      else if c = '-' then
        if on then readModeLetters fuel false (count + 1) else failure
      else
        let modes ← (← modes).switch? c on
        modify ({ · with modes })
        readModeLetters fuel on (count + 1)

/-- Reads a group with modes, or modes alone, behind its question mark. -/
def readModed (inner : Reader Pattern) : Reader Pattern := do
  let before ← modes
  let (mark, count, on) ← readModeLetters ((← text).length + 1) true 0
  if !on && count = 1 then failure
  if mark = ')' then
    if count = 0 then failure
    return .empty
  else
    let pattern ← inner
    expect ')'
    modify ({ · with modes := before })
    return pattern

/-- Reads a pattern up to its closing parenthesis. -/
def readClosed (inner : Reader Pattern) : Reader Pattern := withinModes do
  let pattern ← inner
  expect ')'
  return pattern

/-- Reads a group whose place may be kept. -/
def readGroup (inner : Reader Pattern) (name : Option (List Char)) : Reader Pattern := do
  let number := (← get).groups + 1
  modify fun now =>
    { now with
      groups := number, names := (name.map (·, number)).toList ++ now.names }
  return .group number (← readClosed inner)

/-- Reads a pattern on a condition, behind the parenthesis of the condition. Without a pattern, it
    is the condition alone. -/
def readChoice (inner : Reader Pattern) (size : Nat) : Reader Pattern := do
  let condition ← match ← text with
    | [] => failure
    | '\'' :: rest => do goOn rest; readNamedReference '\'' true
    | '<' :: rest => do goOn rest; readNamedReference '>' true
    | c :: _ => if c.isDigit then readReference size else inner
  expect ')'
  let before ← text
  let pattern ← inner
  let isAbsent := (← text).length = before.length
  expect ')'
  let (condition, isReference) := match condition with
    | .again number => (.entered number, true)
    | condition => (condition, false)
  match pattern with
  | .either matched otherwise =>
    match matched, otherwise with
    | .empty, .empty => return condition
    | matched, otherwise => return .choice condition matched otherwise
  | .empty => if isAbsent && !isReference then failure else return condition
  | matched => return .choice condition matched .empty

/-- Reads a group behind its opening parenthesis. -/
def readParenthesis (inner : Reader Pattern) (size : Nat) : Reader Pattern := do
  skipIgnored
  let named (rest : List Char) : Reader Pattern := do
    goOn rest
    let name ← take (readName '>')
    readGroup inner (some name)
  let behind (negated : Bool) (rest : List Char) : Reader Pattern := do
    goOn rest
    return .look negated (← (← readClosed inner).behind?)
  match ← text with
  | '?' :: '=' :: rest => goOn rest; return .look false (← readClosed inner)
  | '?' :: '!' :: rest => goOn rest; return .look true (← readClosed inner)
  | '?' :: '<' :: '=' :: rest => behind false rest
  | '?' :: '<' :: '!' :: rest => behind true rest
  | '?' :: 'P' :: '<' :: rest | '?' :: '<' :: rest => named rest
  | '?' :: 'P' :: '=' :: rest => goOn rest; readNamedReference ')' false
  | '?' :: '>' :: rest => goOn rest; return .atomic (← readClosed inner)
  | '?' :: '(' :: rest => goOn rest; readChoice inner size
  | '?' :: rest => goOn rest; readModed inner
  | _ => readGroup inner none

/-! ## Patterns -/

/-- Reads one part of a sequence; nothing where a sequence ends. Groups are read by a reader, if
    they may nest any deeper. -/
def readAtom (size : Nat) (isPlain : Bool) (inner : Option (Reader Pattern)) : Reader Pattern := do
  skipIgnored
  let modes ← modes
  match ← text with
  | [] => return .empty
  | c :: rest =>
    match c with
    | '+' | '*' | '?' | '|' | ')' => return .empty
    | c =>
      goOn rest
      match c with
      | '.' =>
        return .one (if modes.matchesBreaks then .any else .complement (.only '\n'))
      | '^' => return .anchor (if modes.isPerLine then .lineStart else .start)
      | '$' => return .anchor (if modes.isPerLine then .lineFinish else .finish)
      | '(' =>
        match inner with
        | some inner => readParenthesis inner size
        | none => failure
      | '[' => readBracket isPlain
      | '\\' => readAtomEscape size isPlain
      | c => character c

/-- Reads a pattern whose groups nest at most a number of times. -/
def readNested (size : Nat) (isPlain : Bool) : Nat → Reader Pattern
  | 0 => readWhole (readAtom size isPlain none)
  | depth + 1 => readWhole (readAtom size isPlain (some (readNested size isPlain depth)))

/-- The pattern of a text that satisfies the common grammar. -/
def ofPrepared? (prepared : Prepared) : Option Pattern :=
  let size := prepared.text.foldr (fun c size => c.utf8Size + size) 0
  let start : Progress := ⟨prepared.text, ⟨false, false, false, false, false⟩, 0, [], false⟩
  match (readNested size prepared.isPlain 63).run start with
  | some (pattern, now) =>
    if now.text.isEmpty && pattern.fits then some (pattern.keeping pattern.references) else none
  | none => none

/-- The pattern that a text stands for. -/
def parse? (text : String) : Option Pattern := (prepare? text.toList).bind ofPrepared?

end ScenarioTree.Pattern
