import ScenarioTree.Text.Parts
import ScenarioTree.Text.Ranges

/-!
# Templates of identifiers

Texts with expressions in braces, which stand for the values of variables: `/a/{b}{?c,d*}`. The
names of variables and the escapes are in lower case.
-/

namespace ScenarioTree.Shape

/-- Whether every percent sign has two hexadecimal digits behind it. -/
def hasWholeEscapes : List Char → Bool
  | '%' :: a :: b :: rest => Text.isHexDigit a && Text.isHexDigit b && hasWholeEscapes rest
  | '%' :: _ => false
  | _ :: rest => hasWholeEscapes rest
  | [] => true

/-- Whether a character is a digit of an escape in a template. Its letters are lower-case. -/
def isLowerHexDigit (c : Char) : Bool := c.isDigit || ('a' ≤ c && c ≤ 'f')

/-- Whether a text begins with a variable of a template, and what is behind it. A variable is a
    name, with a length or a star behind it. -/
def dropVariable? (text : List Char) : Option (List Char) :=
  let isPart (c : Char) := c.isDigit || ('a' ≤ c && c ≤ 'z') || c == '_' || c == '%'
  let name := text.takeWhile isPart
  let behind := text.drop name.length
  if name.isEmpty || !hasWholeEscapes name then none
  else
    match behind with
    | '*' :: rest => some rest
    | ':' :: rest =>
      let digits := rest.takeWhile Char.isDigit
      if digits.isEmpty || 4 < digits.length || digits.head? == some '0' then none
      else some (rest.drop digits.length)
    | rest => some rest

/-- Whether a text is a list of variables with commas between them. -/
def isVariableList : Nat → List Char → Bool
  | 0, _ => false
  | bound + 1, text =>
    match dropVariable? text with
    | some [] => true
    | some (',' :: rest) => isVariableList bound rest
    | _ => false

/-- Whether a text is the inside of an expression: an operator, if any, and variables. -/
def isExpression (text : List Char) : Bool :=
  match text with
  | c :: rest =>
    isVariableList (text.length + 1)
      (if "+#./;?&=,!@|".toList.contains c then rest else text)
  | [] => false

/-- Whether a text is a template: literal characters, and expressions in braces. The bound is on the
    number of both. -/
def isTemplateWithin : Nat → List Char → Bool
  | 0, _ => false
  | _ + 1, [] => true
  | bound + 1, '\x7b' :: rest =>
    match Text.cutAt? '\x7d' rest with
    | some (inside, behind) => isExpression inside && isTemplateWithin bound behind
    | none => false
  | bound + 1, '%' :: a :: b :: rest =>
    isLowerHexDigit a && isLowerHexDigit b && isTemplateWithin bound rest
  | bound + 1, c :: rest =>
    ' ' < c && !"\"'<>%\\^\x60\x7b|\x7d".toList.contains c && isTemplateWithin bound rest

/-- Whether a text is a template. -/
def isTemplate (text : List Char) : Bool := isTemplateWithin (text.length + 1) text

end ScenarioTree.Shape
