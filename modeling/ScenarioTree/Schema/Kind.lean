import ScenarioTree.Number.Order

/-!
# Kinds of values

The kinds that a schema can ask for. A number without a fraction is also an integer, except where
numbers count as they are written.
-/

namespace ScenarioTree

/-- A kind of values, in the order of the names. -/
inductive Kind where
  | array
  | boolean
  | integer
  | null
  | number
  | object
  | string
  deriving DecidableEq

namespace Kind

def all : List Kind := [array, boolean, integer, null, number, object, string]

def name : Kind → String
  | array => "array"
  | boolean => "boolean"
  | integer => "integer"
  | null => "null"
  | number => "number"
  | object => "object"
  | string => "string"

/-- The kind with a name. -/
def ofName? (name : String) : Option Kind := all.find? (·.name == name)

/-- Whether a value is of the kind. -/
def admits : Kind → Value → Bool
  | array, .array _ => true
  | boolean, .bool _ => true
  | integer, .number n => n.isIntegral
  | null, .null => true
  | number, .number _ => true
  | object, .object _ => true
  | string, .string _ => true
  | _, _ => false

/-- Whether a value is of the kind as it is written: a number with a fraction or an exponent is
    never an integer. -/
def admitsWritten : Kind → Value → Bool
  | integer, .number (.int _) => true
  | integer, _ => false
  | kind, v => kind.admits v

end Kind

end ScenarioTree
