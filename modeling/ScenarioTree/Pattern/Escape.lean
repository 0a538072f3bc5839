import ScenarioTree.Text.Parts
import ScenarioTree.Text.Property

/-!
# Escapes in patterns

What a backslash makes of the characters behind it, by the common grammar of patterns. A pattern can
ask that blanks and comments in it are skipped; that also goes for the digits of an escape.
-/

namespace ScenarioTree.Pattern

/-- Why a pattern is read no further. -/
inductive Stop where
  | malformed
  /-- A look around, or a group that is referred to: there the common grammar ends. -/
  | beyond
  /-- A control character that is written by its letter; the text from the letter on. -/
  | control (text : List Char)
  deriving DecidableEq

/-! ## Blanks -/

/-- A text without the blanks and the comments at its start. -/
def dropBlanks (inComment : Bool) : List Char → List Char
  | [] => []
  | c :: rest =>
    if inComment then dropBlanks (c != '\n') rest
    else if c = '#' then dropBlanks true rest
    else if Text.isBlank c then dropBlanks false rest
    else c :: rest

/-- A text without the blanks and the comments at its start, if these are to be skipped. -/
def dropBlanksIf (spaced : Bool) (text : List Char) : List Char :=
  if spaced then dropBlanks false text else text

/-! ## What an escape stands for -/

/-- The sets of characters that are named by a letter. -/
inductive CommonSet where
  | digit
  | blank
  | word
  deriving DecidableEq

/-- What an escape stands for. -/
inductive Escape where
  | character (c : Char)
  /-- The bell, by its letter. -/
  | bell
  | common (set : CommonSet) (negated : Bool)
  /-- The characters with a property, or with a value of it. -/
  | property (name : List Char) (value : Option (List Char)) (negated : Bool)
  /-- No character, but a condition on a place in the text. -/
  | position

/-- The character that an escape stands for. -/
def Escape.character? : Escape → Option Char
  | .character c => some c
  | .bell => some '\x07'
  | _ => none

/-- The set that a letter names, and whether it is negated. -/
def commonSet? : Char → Option (CommonSet × Bool)
  | 'd' => some (.digit, false)
  | 'D' => some (.digit, true)
  | 's' => some (.blank, false)
  | 'S' => some (.blank, true)
  | 'w' => some (.word, false)
  | 'W' => some (.word, true)
  | _ => none

/-- Whether a character can always be escaped to stand for itself. -/
def isEscapable (c : Char) : Bool :=
  c.toNat < 0x80 && !c.isAlphanum && c != '<' && c != '>'

/-- The character that a letter stands for behind a backslash. -/
def namedCharacter? : Char → Option Char
  | 't' => some '\t'
  | 'n' => some '\n'
  | 'r' => some '\r'
  | 'f' => some '\x0c'
  | 'v' => some '\x0b'
  | _ => none

/-- The control character with a letter. -/
def controlCharacter (letter : Char) : Char := Char.ofNat (letter.toNat % 32)

/-! ## Reading escapes -/

/-- The character with a number, if there is one. -/
def characterOf? (digits : List Char) : Option Char :=
  let n := Text.hexNumber digits
  if n.isValidChar then some (Char.ofNat n) else none

/-- Reads a number of hexadecimal digits. -/
def readDigits (spaced : Bool) : Nat → List Char → Option (List Char × List Char)
  | 0, text => some ([], text)
  | count + 1, text =>
    match dropBlanksIf spaced text with
    | c :: rest =>
      if Text.isHexDigit c then
        (readDigits spaced count rest).map fun (digits, rest) => (c :: digits, rest)
      else none
    | [] => none

/-- Reads up to a closing brace. There is a bound on the length. -/
def readBraced (spaced : Bool) : Nat → List Char → Option (List Char × List Char)
  | 0, _ => none
  | bound + 1, text =>
    match dropBlanksIf spaced text with
    | '\x7d' :: rest => some ([], rest)
    | c :: rest => (readBraced spaced bound rest).map fun (inside, rest) => (c :: inside, rest)
    | [] => none

/-- Reads the number of a character: a number of hexadecimal digits, or some in braces. -/
def readNumbered (spaced : Bool) (count : Nat) (text : List Char) : Option (Char × List Char) := do
  let (digits, rest) ← match dropBlanksIf spaced text with
    | '\x7b' :: rest => readBraced spaced (rest.length + 1) rest
    | text => readDigits spaced count text
  if digits.isEmpty || !digits.all Text.isHexDigit then none
  else return (← characterOf? digits, rest)

/-- Splits a text at the first place where two characters stand. -/
def cutAtPair? (first second : Char) : List Char → Option (List Char × List Char)
  | [] => none
  | c :: rest =>
    if c = first ∧ rest.head? = some second then some ([], rest.drop 1)
    else (cutAtPair? first second rest).map fun (before, behind) => (c :: before, behind)

/-- Reads the property behind the letter `p`. -/
def readProperty (spaced negated : Bool) (text : List Char) : Option (Escape × List Char) :=
  match dropBlanksIf spaced text with
  | [] | '\\' :: _ => none
  | '\x7b' :: rest => do
    let (inside, rest) ← readBraced spaced (rest.length + 1) rest
    return (match cutAtPair? '!' '=' inside with
      | some (name, value) => .property name (some value) (!negated)
      | none =>
        match (Text.cutAt? ':' inside).or (Text.cutAt? '=' inside) with
        | some (name, value) => .property name (some value) negated
        | none => .property inside none negated, rest)
  | c :: rest => some (.property [c] none negated, rest)

/-- The kinds of ends of words that can be named in braces. -/
def edgeNames : List String := ["start", "end", "start-half", "end-half"]

/-- Reads the kind of an end of a word, in braces. Other braces are left to be read as something
    else. -/
def readEdge (spaced : Bool) (text : List Char) : Option (List Char) :=
  match text with
  | '\x7b' :: rest =>
    match dropBlanksIf spaced rest with
    | [] => none
    | c :: _ =>
      if c.isAlpha || c = '-' then
        (readBraced spaced (rest.length + 1) rest).bind fun (inside, behind) =>
          if edgeNames.contains (String.ofList inside) then some behind else none
      else some text
  | text => some text

/-- Reads what follows a backslash. -/
def readEscape (spaced : Bool) (text : List Char) : Except Stop (Escape × List Char) :=
  let orMalformed {α : Type} (read : Option α) : Except Stop α :=
    match read with
    | some read => .ok read
    | none => .error .malformed
  let numbered (count : Nat) (rest : List Char) : Except Stop (Escape × List Char) :=
    orMalformed ((readNumbered spaced count rest).map fun (c, rest) => (.character c, rest))
  match text with
  | [] => .error .malformed
  | c :: rest =>
    if c.isDigit then .error .beyond
    else if isEscapable c then .ok (.character c, rest)
    else
      match commonSet? c, namedCharacter? c with
      | some (set, negated), _ => .ok (.common set negated, rest)
      | none, some named => .ok (.character named, rest)
      | none, none =>
        match c with
        | 'x' => numbered 2 rest
        | 'u' => numbered 4 rest
        | 'U' => numbered 8 rest
        | 'p' => orMalformed (readProperty spaced false rest)
        | 'P' => orMalformed (readProperty spaced true rest)
        | 'a' => .ok (.bell, rest)
        | 'A' | 'z' | 'B' | '<' | '>' => .ok (.position, rest)
        | 'b' => orMalformed ((readEdge spaced rest).map (.position, ·))
        | 'c' =>
          if rest.head?.any Char.isAlpha then .error (.control rest) else .error .malformed
        | _ => .error .malformed

end ScenarioTree.Pattern
