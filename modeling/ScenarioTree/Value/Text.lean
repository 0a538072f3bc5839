import ScenarioTree.Number.Shortest
import ScenarioTree.Text.Quoted
import ScenarioTree.Value

/-!
# The texts of a value

Two one-line texts of a value: compact JSON, with the keys in the order of the fields, and a listing
that names the kind of every part.
-/

namespace ScenarioTree

namespace Text

/-- One character of a JSON string: quotes, backslashes and control characters are escaped, the rest
    stands as it is. -/
def jsonChar (c : Char) : List Char :=
  match c with
  | '"' => ['\\', '"']
  | '\\' => ['\\', '\\']
  | '\n' => ['\\', 'n']
  | '\r' => ['\\', 'r']
  | '\t' => ['\\', 't']
  | '\x08' => ['\\', 'b']
  | '\x0c' => ['\\', 'f']
  | c =>
    if c.toNat < 0x10 then ['\\', 'u', '0', '0', '0'] ++ hexDigits c.toNat
    else if c.toNat < 0x20 then ['\\', 'u', '0', '0'] ++ hexDigits c.toNat
    else [c]

/-- A JSON string, with its quotes. -/
def jsonString (s : String) : String :=
  String.ofList ('"' :: s.toList.flatMap jsonChar ++ ['"'])

end Text

/-- The decimal text of a number; a float always shows a fraction or an exponent. -/
def Number.text : Number → String
  | .int n => toString n
  | .float x => x.text

mutual

/-- Compact JSON. -/
def Value.text : Value → String
  | .null => "null"
  | .bool b => if b then "true" else "false"
  | .number n => n.text
  | .string s => Text.jsonString s
  | .array items => "[" ++ ",".intercalate (Value.itemTexts items) ++ "]"
  | .object fields => "\x7b" ++ ",".intercalate (Value.fieldTexts fields) ++ "\x7d"

def Value.itemTexts : List Value → List String
  | [] => []
  | v :: rest => v.text :: Value.itemTexts rest

def Value.fieldTexts : List (String × Value) → List String
  | [] => []
  | (k, v) :: rest => (Text.jsonString k ++ ":" ++ v.text) :: Value.fieldTexts rest

end

mutual

/-- A listing that names the kind of every part. -/
def Value.listing : Value → String
  | .null => "Null"
  | .bool b => "Bool(" ++ (if b then "true" else "false") ++ ")"
  | .number n => "Number(" ++ n.text ++ ")"
  | .string s => "String(" ++ Text.quoted s ++ ")"
  | .array items => "Array [" ++ ", ".intercalate (Value.itemListings items) ++ "]"
  | .object fields => "Object \x7b" ++ ", ".intercalate (Value.fieldListings fields) ++ "\x7d"

def Value.itemListings : List Value → List String
  | [] => []
  | v :: rest => v.listing :: Value.itemListings rest

def Value.fieldListings : List (String × Value) → List String
  | [] => []
  | (k, v) :: rest => (Text.quoted k ++ ": " ++ v.listing) :: Value.fieldListings rest

end

end ScenarioTree
