/-!
# Places in a YAML text

A cursor is what is left of a text, with the number of characters before it, its line and its
column. A line ends with a carriage return, a line feed, both, or one of the three breaks of
Unicode.
-/

namespace ScenarioTree.Yaml

/-- A place in a text. -/
structure Cursor where
  rest : List Char
  index : Nat
  line : Nat
  column : Nat

def isBreak (c : Char) : Bool :=
  c == '\n' || c == '\r' || c == '\u0085' || c == '\u2028' || c == '\u2029'

def isBlank (c : Char) : Bool := c == ' ' || c == '\t'

/-- Whether a character ends a word. -/
def endsWord (c : Char) : Bool := isBlank c || isBreak c

/-- The characters of directive names, anchors and tag handles. -/
def isNameChar (c : Char) : Bool := c.isAlphanum || c == '_' || c == '-'

namespace Cursor

def start (text : List Char) : Cursor := ⟨text, 0, 0, 0⟩

/-- The next character. -/
def peek? (c : Cursor) : Option Char := c.rest.head?

/-- Whether the next character is the given one. -/
def isAt (c : Cursor) (char : Char) : Bool := c.peek? == some char

/-- Whether a line break comes next. -/
def atBreak (c : Cursor) : Bool := c.peek?.any isBreak

/-- Whether a blank comes next. -/
def atBlank (c : Cursor) : Bool := c.peek?.any isBlank

/-- Whether the character after `n` others ends a word, or there is none. -/
def endsWordAfter (c : Cursor) (n : Nat) : Bool := (c.rest.drop n).head?.all endsWord

/-- Moves over characters of a line. -/
def advance (c : Cursor) (count : Nat) : Cursor :=
  ⟨c.rest.drop count, c.index + count, c.line, c.column + count⟩

/-- Moves over a line break. -/
def skipBreak (c : Cursor) : Cursor :=
  match c.rest with
  | '\r' :: '\n' :: rest => ⟨rest, c.index + 2, c.line + 1, 0⟩
  | _ :: rest => ⟨rest, c.index + 1, c.line + 1, 0⟩
  | [] => c

/-- The text that a line break stands for: a line feed, except for the line and the paragraph
    separator, which stay. -/
def breakText (c : Cursor) : List Char :=
  match c.peek? with
  | some '\u2028' => ['\u2028']
  | some '\u2029' => ['\u2029']
  | some char => if isBreak char then ['\n'] else []
  | none => []

/-- The characters that come next and have a property. -/
def takeWhile (c : Cursor) (has : Char → Bool) : List Char := c.rest.takeWhile has

/-- Moves over the characters that come next and have a property, none of them a line break. -/
def skipWhile (c : Cursor) (has : Char → Bool) : Cursor := c.advance (c.takeWhile has).length

/-- Moves over a comment, if one comes next. -/
def skipComment (c : Cursor) : Cursor :=
  if c.isAt '#' then c.skipWhile (!isBreak ·) else c

/-- Moves over blanks and a comment and the end of the line, which must follow. -/
def finishLine? (c : Cursor) : Option Cursor :=
  let c := (c.skipWhile isBlank).skipComment
  if c.atBreak then some c.skipBreak
  else if c.rest.isEmpty then some c
  else none

/-- Whether a document indicator stands here: three times the same character at the start of a line,
    and nothing behind it. -/
def atIndicator (c : Cursor) (char : Char) : Bool :=
  c.column == 0 && [char, char, char].isPrefixOf c.rest && c.endsWordAfter 3

/-- Whether either document indicator stands here. -/
def atDocumentIndicator (c : Cursor) : Bool := c.atIndicator '-' || c.atIndicator '.'

end Cursor

end ScenarioTree.Yaml
