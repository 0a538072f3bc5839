import ScenarioTree.Format.Yaml.ScalarText
import ScenarioTree.Format.Yaml.Token

/-!
# The tokens of a YAML text

A text is read from left to right. The indentation of the open block collections is kept on a stack;
a token at a smaller column closes the collections that are deeper. What may turn out to be the key
of a pair is remembered: when the colon comes, the key token is inserted before it. Such a key
stands in one line and is at most 1024 characters long.
-/

namespace ScenarioTree.Yaml

/-- A place that may turn out to be the start of a key. A required one that is not followed by a
    colon is an error. -/
structure PossibleKey where
  required : Bool
  token : Nat
  index : Nat
  line : Nat
  column : Nat

/-- What has been read: the place, the tokens, the columns of the open block collections with the
    innermost first, whether a key may start here, and the possible keys, one for the innermost flow
    collection and one for each thing around it. -/
structure Scan where
  cursor : Cursor
  tokens : Array Token
  indents : List Nat
  keyAllowed : Bool
  possible : Option PossibleKey
  outer : List (Option PossibleKey)
  ended : Bool

namespace Scan

def start (text : List Char) : Scan := ⟨.start text, #[], [], true, none, [], false⟩

def inFlow (s : Scan) : Bool := !s.outer.isEmpty

/-- The least column of what belongs to the innermost block collection. -/
def inner (s : Scan) : Nat := s.indents.head?.elim 0 (· + 1)

/-- Adds a token. -/
def emit (s : Scan) (token : Token) : Scan := { s with tokens := s.tokens.push token }

/-- Puts a token before the one with the given number. -/
def insert (s : Scan) (number : Nat) (token : Token) : Scan :=
  { s with
    tokens := s.tokens.extract 0 number ++ #[token] ++ s.tokens.extract number s.tokens.size }

/-- Moves over characters of a line. -/
def advance (s : Scan) (count : Nat) : Scan := { s with cursor := s.cursor.advance count }

/-! ## Possible keys -/

/-- Gives up possible keys that lie on an earlier line or too far back. -/
def expire? (s : Scan) : Option Scan := do
  let check (key : Option PossibleKey) : Option (Option PossibleKey) :=
    match key with
    | none => some none
    | some key =>
      if key.line < s.cursor.line || key.index + 1024 < s.cursor.index then
        if key.required then none else some none
      else some (some key)
  return { s with possible := ← check s.possible, outer := ← s.outer.mapM check }

/-- Gives up the innermost possible key. -/
def dropKey? (s : Scan) : Option Scan :=
  if s.possible.any (·.required) then none else some { s with possible := none }

/-- Remembers that a key may start here. At the column of a block collection it has to. -/
def saveKey? (s : Scan) : Option Scan := do
  if s.keyAllowed then
    let s ← s.dropKey?
    let required := !s.inFlow && s.indents.head? == some s.cursor.column
    let key := PossibleKey.mk required s.tokens.size s.cursor.index s.cursor.line s.cursor.column
    return { s with possible := some key }
  else return s

/-! ## Indentation -/

/-- Opens a block collection at a column that is deeper than the open ones. Its token comes before
    the one with the given number. -/
def roll (s : Scan) (column number : Nat) (token : Token) : Scan :=
  if s.inFlow || column < s.inner then s
  else { s.insert number token with indents := column :: s.indents }

/-- Closes the block collections that are deeper than a column. -/
def closeDeeper (tokens : Array Token) (least : Nat) : List Nat → Array Token × List Nat
  | [] => (tokens, [])
  | indent :: rest =>
    if least ≤ indent then closeDeeper (tokens.push .blockEnd) least rest
    else (tokens, indent :: rest)

/-- Closes the block collections whose column is at least the given one. -/
def unroll (s : Scan) (least : Nat) : Scan :=
  if s.inFlow then s
  else
    let (tokens, indents) := closeDeeper s.tokens least s.indents
    { s with tokens, indents }

/-! ## Between tokens -/

/-- Moves over blanks, comments and line breaks. In block context a tab may not stand where a key
    may start, and after a line break a key may start. A byte order mark at the start of a line
    takes one column and is passed over. -/
def toNextToken (fuel : Nat) (s : Scan) : Scan :=
  match fuel with
  | 0 => s
  | fuel + 1 =>
    let tabs := s.inFlow || !s.keyAllowed
    let c := if s.cursor.column == 0 && s.cursor.isAt '\ufeff' then s.cursor.advance 1 else s.cursor
    let c := (c.skipWhile fun c => c == ' ' || (tabs && c == '\t')).skipComment
    if c.atBreak then
      toNextToken fuel { s with cursor := c.skipBreak, keyAllowed := s.keyAllowed || !s.inFlow }
    else { s with cursor := c }

/-! ## Directives -/

/-- Reads up to nine digits. -/
def readVersionNumber? (c : Cursor) : Option (Nat × Cursor) :=
  let digits := c.takeWhile Json.isDigit
  if digits.isEmpty || 9 < digits.length then none
  else some (Json.digitsNumber digits, c.advance digits.length)

/-- Reads the handle of a tag: an exclamation mark, or a name between two of them. Only in a
    directive the second one has to be there. -/
def readHandle? (inDirective : Bool) (c : Cursor) : Option (List Char × Cursor) :=
  if c.isAt '!' then
    let name := (c.advance 1).takeWhile isNameChar
    let c := (c.advance 1).advance name.length
    if c.isAt '!' then some ('!' :: name ++ ['!'], c.advance 1)
    else if inDirective && !name.isEmpty then none
    else some ('!' :: name, c)
  else none

def isTagChar (verbatim : Bool) (c : Char) : Bool :=
  isNameChar c || [';', '/', '?', ':', '@', '&', '=', '+', '$', '.', '%', '!', '~', '*', '\'', '(',
    ')'].contains c || (verbatim && (c == ',' || c == '[' || c == ']'))

/-- How many bytes a character takes that begins with a byte. -/
def sequenceLength? (first : Nat) : Option Nat :=
  if first < 0x80 then some 1
  else if first / 0x20 = 6 then some 2
  else if first / 0x10 = 14 then some 3
  else if first / 8 = 30 then some 4
  else none

/-- The bytes of a tag in which bytes may be written as two hexadecimal digits behind `%`. The
    written bytes come in groups that have the form of one character; `missing` is how many are
    missing from the group that has begun. -/
def tagBytes? (missing : Nat) : List Char → Option (List UInt8)
  | [] => if missing = 0 then some [] else none
  | '%' :: a :: b :: rest => do
    let byte := (← Json.hexValue? a) * 16 + (← Json.hexValue? b)
    if missing = 0 then
      return byte.toUInt8 :: (← tagBytes? ((← sequenceLength? byte) - 1) rest)
    else if byte / 0x40 = 2 then return byte.toUInt8 :: (← tagBytes? (missing - 1) rest)
    else none
  | '%' :: _ => none
  | c :: rest =>
    if missing = 0 then do return c.toNat.toUInt8 :: (← tagBytes? 0 rest) else none

/-- Reads characters of a tag behind those of `front`. There must be some character. A zero byte
    ends the tag, but not what is read. -/
def readTagText? (verbatim : Bool) (front : List Char) (c : Cursor) :
    Option (List UInt8 × Cursor) := do
  let text := c.takeWhile (isTagChar verbatim)
  if front.isEmpty && text.isEmpty then none
  else
    let bytes ← tagBytes? 0 text
    let bytes := (String.ofList (front.drop 1)).toUTF8.toList ++ bytes
    return (bytes.takeWhile (· != 0), c.advance text.length)

/-- Reads a directive after its percent sign. -/
def readDirective? (c : Cursor) : Option (Token × Cursor) := do
  let name := c.takeWhile isNameChar
  let c := c.advance name.length
  if name.isEmpty || !c.endsWordAfter 0 then none
  else
    let c := c.skipWhile isBlank
    if name = ['Y', 'A', 'M', 'L'] then
      let (major, c) ← readVersionNumber? c
      if c.isAt '.' then
        let (minor, c) ← readVersionNumber? (c.advance 1)
        return (.versionDirective major minor, ← c.finishLine?)
      else none
    else if name = ['T', 'A', 'G'] then
      let (handle, c) ← readHandle? true c
      if c.atBlank then
        let (meaning, c) ← readTagText? true [] (c.skipWhile isBlank)
        if c.endsWordAfter 0 then
          return (.tagDirective (String.ofList handle) meaning, ← c.finishLine?)
        else none
      else none
    else none

/-! ## Anchors and tags -/

/-- Reads the name of an anchor or an alias after its indicator. -/
def readAnchorName? (c : Cursor) : Option (String × Cursor) :=
  let name := c.takeWhile isNameChar
  let c := c.advance name.length
  if name.isEmpty then none
  else if c.endsWordAfter 0 || c.peek?.any ['?', ':', ',', ']', '}', '%', '@', '`'].contains then
    some (String.ofList name, c)
  else none

/-- Reads a tag. -/
def readTag? (inFlow : Bool) (c : Cursor) : Option (RawTag × Cursor) := do
  let (tag, c) ←
    if (c.rest.drop 1).head? = some '<' then do
      let (text, c) ← readTagText? true [] (c.advance 2)
      if c.isAt '>' then pure (RawTag.mk "" text, c.advance 1) else none
    else do
      let (handle, after) ← readHandle? false c
      if 1 < handle.length ∧ handle.getLast? = some '!' then
        let (suffix, c) ← readTagText? false [] after
        pure (RawTag.mk (String.ofList handle) suffix, c)
      else
        let (suffix, c) ← readTagText? false handle after
        pure (if suffix.isEmpty then RawTag.mk "" "!".toUTF8.toList else RawTag.mk "!" suffix, c)
  if c.endsWordAfter 0 || (inFlow && c.isAt ',') then return (tag, c) else none

/-! ## Tokens -/

/-- Ends the stream: everything open is closed. -/
def fetchEnd? (s : Scan) : Option Scan := do
  let s ← (s.unroll 0).dropKey?
  return { s with keyAllowed := false, ended := true }

def fetchDirective? (s : Scan) : Option Scan := do
  let s ← (s.unroll 0).dropKey?
  let (token, cursor) ← readDirective? (s.cursor.advance 1)
  return { s.emit token with cursor, keyAllowed := false }

def fetchIndicator? (s : Scan) (token : Token) : Option Scan := do
  let s ← (s.unroll 0).dropKey?
  return { (s.emit token).advance 3 with keyAllowed := false }

def fetchFlowStart? (s : Scan) (token : Token) : Option Scan := do
  let s ← s.saveKey?
  return { (s.emit token).advance 1 with
    keyAllowed := true, possible := none, outer := s.possible :: s.outer }

def fetchFlowEnd? (s : Scan) (token : Token) : Option Scan := do
  let s ← s.dropKey?
  let s := match s.outer with
    | possible :: outer => { s with possible, outer }
    | [] => s
  return { (s.emit token).advance 1 with keyAllowed := false }

def fetchFlowEntry? (s : Scan) : Option Scan := do
  let s ← s.dropKey?
  return { (s.emit .flowEntry).advance 1 with keyAllowed := true }

def fetchBlockEntry? (s : Scan) : Option Scan := do
  if !s.inFlow && !s.keyAllowed then none
  else
    let s ← (s.roll s.cursor.column s.tokens.size .blockSequenceStart).dropKey?
    return { (s.emit .blockEntry).advance 1 with keyAllowed := true }

def fetchKey? (s : Scan) : Option Scan := do
  if !s.inFlow && !s.keyAllowed then none
  else
    let s ← (s.roll s.cursor.column s.tokens.size .blockMappingStart).dropKey?
    return { (s.emit .key).advance 1 with keyAllowed := !s.inFlow }

/-- Reads the colon of a pair. If something before it can be the key, it is. -/
def fetchValue? (s : Scan) : Option Scan :=
  match s.possible with
  | some key =>
    let s := (s.insert key.token .key).roll key.column key.token .blockMappingStart
    some { (s.emit .value).advance 1 with possible := none, keyAllowed := false }
  | none =>
    if !s.inFlow && !s.keyAllowed then none
    else
      let s := s.roll s.cursor.column s.tokens.size .blockMappingStart
      some { (s.emit .value).advance 1 with keyAllowed := !s.inFlow }

def fetchAnchor? (s : Scan) (token : String → Token) : Option Scan := do
  let s ← s.saveKey?
  let (name, cursor) ← readAnchorName? (s.cursor.advance 1)
  return { s.emit (token name) with cursor, keyAllowed := false }

def fetchTag? (s : Scan) : Option Scan := do
  let s ← s.saveKey?
  let (tag, cursor) ← readTag? s.inFlow s.cursor
  return { s.emit (.tag tag) with cursor, keyAllowed := false }

def fetchBlockScalar? (s : Scan) (literal : Bool) : Option Scan := do
  let s ← s.dropKey?
  let (text, cursor) ← readBlock literal s.inner (s.cursor.advance 1)
  return { s.emit (.scalar text false) with cursor, keyAllowed := true }

def fetchQuoted? (s : Scan) (quote : Char) : Option Scan := do
  let s ← s.saveKey?
  let c := s.cursor.advance 1
  let (text, cursor) ← readQuoted quote (c.rest.length + 1) [] c
  return { s.emit (.scalar text false) with cursor, keyAllowed := false }

def fetchPlain? (s : Scan) : Option Scan := do
  let s ← s.saveKey?
  let (text, broken, cursor) ←
    readPlain s.inFlow s.inner (s.cursor.rest.length + 1) Gap.empty [] s.cursor
  return { s.emit (.scalar text true) with cursor, keyAllowed := broken }

/-- Whether a plain scalar can start with a character that is followed by what `wordEnds` and
    `blank` tell. -/
def startsPlain (inFlow wordEnds blank : Bool) (c : Char) : Bool :=
  !(endsWord c || ['-', '?', ':', ',', '[', ']', '{', '}', '#', '&', '*', '!', '|', '>', '\'', '"',
    '%', '@', '`'].contains c)
  || (c == '-' && !blank)
  || (!inFlow && (c == '?' || c == ':') && !wordEnds)

/-- Reads the next token. -/
def fetch? (s : Scan) : Option Scan := do
  let s ← (s.toNextToken (s.cursor.rest.length + 1)).expire?
  let s := s.unroll (s.cursor.column + 1)
  let c := s.cursor
  match c.rest with
  | [] => s.fetchEnd?
  | char :: rest =>
    let wordEnds := rest.head?.all endsWord
    let indicates := s.inFlow || wordEnds
    if c.column == 0 && char == '%' then s.fetchDirective?
    else if c.atIndicator '-' then s.fetchIndicator? .documentStart
    else if c.atIndicator '.' then s.fetchIndicator? .documentEnd
    else if char == '[' then s.fetchFlowStart? .flowSequenceStart
    else if char == '{' then s.fetchFlowStart? .flowMappingStart
    else if char == ']' then s.fetchFlowEnd? .flowSequenceEnd
    else if char == '}' then s.fetchFlowEnd? .flowMappingEnd
    else if char == ',' then s.fetchFlowEntry?
    else if char == '-' && wordEnds then s.fetchBlockEntry?
    else if char == '?' && indicates then s.fetchKey?
    else if char == ':' && indicates then s.fetchValue?
    else if char == '*' then s.fetchAnchor? .alias
    else if char == '&' then s.fetchAnchor? .anchor
    else if char == '!' then s.fetchTag?
    else if char == '|' && !s.inFlow then s.fetchBlockScalar? true
    else if char == '>' && !s.inFlow then s.fetchBlockScalar? false
    else if char == '\'' || char == '"' then s.fetchQuoted? char
    else if startsPlain s.inFlow wordEnds (rest.head?.any isBlank) char then s.fetchPlain?
    else none

/-- Reads the tokens up to the end. -/
def run? (fuel : Nat) (s : Scan) : Option Scan :=
  match fuel with
  | 0 => none
  | fuel + 1 => if s.ended then some s else s.fetch?.bind (run? fuel)

end Scan

/-- The characters that may stand in a YAML text. -/
def isTextChar (c : Char) : Bool :=
  let n := c.toNat
  n == 0x09 || n == 0x0A || n == 0x0D || (0x20 ≤ n && n ≤ 0x7E) || n == 0x85
    || (0xA0 ≤ n && n ≤ 0xD7FF) || (0xE000 ≤ n && n ≤ 0xFFFD) || 0x10000 ≤ n

/-- The tokens of a text. -/
def tokens? (text : List Char) : Option (List Token) :=
  if text.all isTextChar then (Scan.run? (text.length + 2) (.start text)).map (·.tokens.toList)
  else none

end ScenarioTree.Yaml
