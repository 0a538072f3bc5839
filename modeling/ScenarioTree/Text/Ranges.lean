import ScenarioTree.Text.Blank

/-!
# Written ranges of code points

Tables of code points are written as words in hexadecimal digits: `41` is one code point, `41-5A`
all from the first to the last, and `100:136` every second one of them. `readRanges` reads such a
table as closed ranges.
-/

namespace ScenarioTree.Text

/-- The value of a hexadecimal digit; zero for any other character. -/
def hexValue (c : Char) : Nat :=
  if c.isDigit then c.toNat - 0x30
  else if 'A' ≤ c ∧ c ≤ 'F' then c.toNat - 0x41 + 10
  else if 'a' ≤ c ∧ c ≤ 'f' then c.toNat - 0x61 + 10
  else 0

/-- Whether a character is a hexadecimal digit. -/
def isHexDigit (c : Char) : Bool :=
  c.isDigit || ('a' ≤ c && c ≤ 'f') || ('A' ≤ c && c ≤ 'F')

/-- The number of hexadecimal digits. -/
def hexNumber (digits : List Char) : Nat := digits.foldl (fun n c => 16 * n + hexValue c) 0

/-- The words of a text, with spaces and line breaks between them. -/
def words (text : List Char) : List (List Char) :=
  (text.foldr (fun c rest =>
    if c = ' ' ∨ c = '\n' then [] :: rest
    else
      match rest with
      | word :: rest => (c :: word) :: rest
      | [] => [[c]]) [[]]).filter (!·.isEmpty)

/-- The first, the distance and the last of the code points that a word stands for. -/
def readRun (word : List Char) : Nat × Nat × Nat :=
  let digits := word.takeWhile isHexDigit
  let first := hexNumber digits
  match word.drop digits.length with
  | '-' :: rest => (first, 1, hexNumber rest)
  | ':' :: rest => (first, 2, hexNumber rest)
  | _ => (first, 1, first)

/-- The closed ranges of a table. -/
def readRanges (text : String) : List (Nat × Nat) :=
  (words text.toList).flatMap fun word =>
    match readRun word with
    | (first, 2, last) =>
      (List.range ((last - first) / 2 + 1)).map fun i => (first + 2 * i, first + 2 * i)
    | (first, _, last) => [(first, last)]

end ScenarioTree.Text
