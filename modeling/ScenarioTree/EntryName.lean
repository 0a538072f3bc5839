import ScenarioTree.Path

/-!
# Names of entries

What stands in a directory has a name of any bytes. Most names are texts, written in UTF-8, and paths
lead to these alone. A name that is no text is listed as well. What it has before its last dot, or
behind it, may be a text all the same.
-/

namespace ScenarioTree

/-! ## Bytes -/

namespace Utf8

/-- The text that bytes stand for. -/
def text? (bytes : List UInt8) : Option String := String.fromUTF8? ⟨bytes.toArray⟩

/-- The number of bytes of the character that a byte begins; one also where none begins. -/
def length (first : UInt8) : Nat :=
  if 0xC2 ≤ first ∧ first ≤ 0xDF then 2
  else if 0xE0 ≤ first ∧ first ≤ 0xEF then 3
  else if 0xF0 ≤ first ∧ first ≤ 0xF4 then 4
  else 1

/-- Whether a byte can be a later one of a character. -/
def isLater (byte : UInt8) : Bool := 0x80 ≤ byte && byte ≤ 0xBF

/-- Whether a byte can be the second one of a character. Some first bytes allow fewer of them. -/
def isSecond (first second : UInt8) : Bool :=
  if first = 0xE0 then 0xA0 ≤ second && second ≤ 0xBF
  else if first = 0xED then 0x80 ≤ second && second ≤ 0x9F
  else if first = 0xF0 then 0x90 ≤ second && second ≤ 0xBF
  else if first = 0xF4 then 0x80 ≤ second && second ≤ 0x8F
  else isLater second

/-- The number of bytes that go on with the character that a byte begins. -/
def continued (first : UInt8) : List UInt8 → Nat
  | [] => 0
  | second :: rest =>
    if 1 < length first && isSecond first second then
      ((rest.take (length first - 2)).takeWhile isLater).length + 1
    else 0

/-- Bytes as they are shown: a replacement character stands for bytes that begin a character and do
    not go on with it, and for a byte that begins none. -/
def shown : List UInt8 → List Char
  | [] => []
  | first :: rest =>
    let count := continued first rest
    let front := (text? (first :: rest.take count)).elim ['\uFFFD'] String.toList
    front ++ shown (rest.drop count)
termination_by bytes => bytes.length

end Utf8

/-! ## Names -/

/-- A name that is no text. -/
structure BrokenName where
  bytes : List UInt8
  noText : Utf8.text? bytes = none
  deriving DecidableEq

namespace BrokenName

variable (name : BrokenName)

/-- The name without its extension, if that is a text. -/
def stem? : Option String := Utf8.text? (splitAtDot 0x2E name.bytes).1

/-- The extension of the name; empty if there is none, or if it is no text. -/
def extension : String := ((splitAtDot 0x2E name.bytes).2.bind Utf8.text?).getD ""

/-- The name as it is shown. -/
def shown : String := String.ofList (Utf8.shown name.bytes)

end BrokenName

/-- The name of an entry of a directory. -/
inductive EntryName where
  | text (name : String)
  | broken (name : BrokenName)
  deriving DecidableEq

instance : Coe String EntryName := ⟨.text⟩

namespace EntryName

/-- The name, if it is a text. -/
def text? : EntryName → Option String
  | text name => some name
  | broken _ => none

/-- The bytes of the name. -/
def bytes : EntryName → List UInt8
  | text name => name.toUTF8.data.toList
  | broken name => name.bytes

/-- The name without its extension, if that is a text. -/
def stem? : EntryName → Option String
  | text name => some (Path.splitName name).1
  | broken name => name.stem?

/-- The name as it is shown. -/
def shown : EntryName → String
  | text name => name
  | broken name => name.shown

end EntryName

/-- The path of an entry of a directory, as it is shown. -/
def Path.entry (directory : Path) (name : EntryName) : Path := directory.child name.shown

end ScenarioTree
