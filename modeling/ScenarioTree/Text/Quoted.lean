import ScenarioTree.Text.Visible

/-!
# Quoted text

A text between double quotes in which every character can be told apart: quotes and backslashes are
escaped, the common control characters have short escapes, and every other character that is not
visible is written as its code point in lower-case hexadecimal.
-/

namespace ScenarioTree.Text

/-- Lower-case hexadecimal digits, at least one. -/
def hexDigits (n : Nat) : List Char := Nat.toDigits 16 n

/-- One character of a quoted text. -/
def quotedChar (c : Char) : List Char :=
  match c with
  | '"' => ['\\', '"']
  | '\\' => ['\\', '\\']
  | '\n' => ['\\', 'n']
  | '\r' => ['\\', 'r']
  | '\t' => ['\\', 't']
  | '\x00' => ['\\', '0']
  | c => if isVisible c then [c] else ['\\', 'u', '{'] ++ hexDigits c.toNat ++ ['}']

/-- A text between double quotes, with every character visible. -/
def quoted (s : String) : String :=
  String.ofList ('"' :: s.toList.flatMap quotedChar ++ ['"'])

end ScenarioTree.Text
