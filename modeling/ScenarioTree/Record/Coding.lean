import ScenarioTree.Value.Text

/-!
# Typed parts of documents

How parts of a document are read as values of a type, and written back. A part that does not fit is
reported with its kind and with what was expected in its place.
-/

namespace ScenarioTree

/-- Why a part of a document does not fit its type. -/
inductive MisfitError where
  /-- A value of another kind was expected. -/
  | kind (found : Value) (expected : String)
  /-- The integer does not fit the expected range. -/
  | range (found : Int) (expected : String)
  | missing (field : String)
  /-- The number of items does not fit. -/
  | length (found : Nat) (expected : String)

/-- The kind of a value, with its text where that is short. -/
def Value.describe : Value → String
  | .null => "null"
  | .bool b => "boolean `" ++ (if b then "true" else "false") ++ "`"
  | .number (.int n) => "integer `" ++ toString n ++ "`"
  | .number (.float x) => "floating point `" ++ x.text ++ "`"
  | .string s => "string " ++ Text.quoted s
  | .array _ => "sequence"
  | .object _ => "map"

/-- The wording of a misfit. -/
def MisfitError.message : MisfitError → String
  | .kind found expected => "invalid type: " ++ found.describe ++ ", expected " ++ expected
  | .range found expected =>
    "invalid value: integer `" ++ toString found ++ "`, expected " ++ expected
  | .missing field => "missing field `" ++ field ++ "`"
  | .length found expected => "invalid length " ++ toString found ++ ", expected " ++ expected

/-- A type whose values can be read from parts of a document and written back. -/
class Coded (α : Type) where
  decode : Value → Except MisfitError α
  encode : α → Value

export Coded (decode encode)

instance : Coded Value := ⟨.ok, id⟩

instance : Coded String where
  decode
    | .string s => .ok s
    | v => .error (.kind v "a string")
  encode := .string

instance {α : Type} [Coded α] : Coded (List α) where
  decode
    | .array items => items.mapM decode
    | v => .error (.kind v "a sequence")
  encode items := .array (items.map encode)

instance : Coded UInt16 where
  decode
    | .number (.int n) =>
      if 0 ≤ n ∧ n < UInt16.size then .ok (UInt16.ofNat n.toNat) else .error (.range n "u16")
    | v => .error (.kind v "u16")
  encode n := .number (.int n.toNat)

/-- The fields of any map. -/
def decodeFields : Value → Except MisfitError Fields
  | .object fields => .ok fields
  | v => .error (.kind v "a map")

instance : Coded Fields := ⟨decodeFields, .object⟩

/-- Reads a part that may be absent: null stands for absence. -/
def decodeOptional {α : Type} [Coded α] (v : Value) : Except MisfitError (Option α) :=
  if v.isNull then .ok none else (decode v).map some

/-- The part under a key, or what it is by default. -/
def decodeField {α : Type} [Coded α] (fields : Fields) (key : String) (default : α) :
    Except MisfitError α :=
  match Fields.get? key fields with
  | some v => decode v
  | none => .ok default

end ScenarioTree
