import ScenarioTree.Schema.Kind
import ScenarioTree.Shape.Pointer
import ScenarioTree.Value.Text

/-!
# Violations of schemas

What a part of a document does not satisfy, and the wording of it. Values are shown as compact JSON.
-/

namespace ScenarioTree

/-- What is counted in a value. -/
inductive Countable where
  | items
  | properties
  | characters
  deriving DecidableEq

/-- What a value does not satisfy. -/
inductive Breach where
  | kind (found : Value) (expected : List Kind)
  | notListed (found : Value) (options : List Value)
  | notEqual (expected : Value)
  | tooMany (found : Value) (counted : Countable) (limit : Nat)
  | tooFew (found : Value) (counted : Countable) (limit : Nat)
  | above (found : Value) (limit : Number)
  | atOrAbove (found : Value) (limit : Number)
  | below (found : Value) (limit : Number)
  | atOrBelow (found : Value) (limit : Number)
  | notMultiple (found : Value) (divisor : Binary64)
  | pattern (found : Value) (pattern : String)
  | shape (found : Value) (shape : String)
  | encoding (found : Value) (encoding : String)
  | mediaType (found : Value) (mediaType : String)
  | missing (property : String)
  | repeated (found : Value)
  | unexpectedItems (items : List Value)
  | unexpectedProperties (names : List String)
  | noItem (found : Value)
  | noAlternative (found : Value) (keyword : String)
  | severalAlternatives (found : Value)
  | excluded (found schema : Value)
  | forbidden (found : Value)

namespace Breach

/-- The text of a limit on a count, with the name of what is counted. -/
def countText (limit : Nat) (counted : Countable) : String :=
  let one := limit == 1
  toString limit ++ match counted with
    | .items => if one then " item" else " items"
    | .properties => if one then " property" else " properties"
    | .characters => if one then " character" else " characters"

/-- What is unexpected, as a list in brackets. -/
def unexpectedText (texts : List String) : String :=
  "(" ++ ", ".intercalate texts
    ++ if texts.length == 1 then " was unexpected)" else " were unexpected)"

/-- The wording of a breach. -/
def message : Breach → String
  | .kind found [expected] => s!"{found.text} is not of type \"{expected.name}\""
  | .kind found expected =>
    let names := expected.map fun expected => "\"" ++ expected.name ++ "\""
    s!"{found.text} is not of types " ++ ", ".intercalate names
  | .notListed found options => s!"{found.text} is not one of " ++ (Value.array options).text
  | .notEqual expected => s!"{expected.text} was expected"
  | .tooMany found .characters limit =>
    s!"{found.text} is longer than " ++ countText limit .characters
  | .tooMany found counted limit => s!"{found.text} has more than " ++ countText limit counted
  | .tooFew found .characters limit =>
    s!"{found.text} is shorter than " ++ countText limit .characters
  | .tooFew found counted limit => s!"{found.text} has less than " ++ countText limit counted
  | .above found limit => s!"{found.text} is greater than the maximum of {limit.text}"
  | .atOrAbove found limit =>
    s!"{found.text} is greater than or equal to the maximum of {limit.text}"
  | .below found limit => s!"{found.text} is less than the minimum of {limit.text}"
  | .atOrBelow found limit => s!"{found.text} is less than or equal to the minimum of {limit.text}"
  | .notMultiple found divisor => s!"{found.text} is not a multiple of {divisor.plainText}"
  | .pattern found written => s!"{found.text} does not match \"{written}\""
  | .shape found name => s!"{found.text} is not a \"{name}\""
  | .encoding found name =>
    s!"{found.text} is not compliant with \"{name}\" content encoding"
  | .mediaType found name =>
    s!"{found.text} is not compliant with \"{name}\" media type"
  | .missing property => Text.jsonString property ++ " is a required property"
  | .repeated found => s!"{found.text} has non-unique elements"
  | .unexpectedItems items =>
    "Additional items are not allowed " ++ unexpectedText (items.map Value.text)
  | .unexpectedProperties names =>
    "Additional properties are not allowed "
      ++ unexpectedText (names.map fun name => "'" ++ name ++ "'")
  | .noItem found => s!"None of {found.text} are valid under the given schema"
  | .noAlternative found keyword =>
    s!"{found.text} is not valid under any of the schemas listed in the '{keyword}' keyword"
  | .severalAlternatives found =>
    s!"{found.text} is valid under more than one of the schemas listed in the 'oneOf' keyword"
  | .excluded found schema => s!"{schema.text} is not allowed for {found.text}"
  | .forbidden found => s!"False schema does not allow {found.text}"

end Breach

/-- A breach, with its place in the document and the rule of the schema that it breaks. -/
structure Violation where
  /-- The keys and indices that lead to the value. -/
  place : List String
  /-- The innermost name on the way to the rule: in most cases its keyword. -/
  rule : String
  breach : Breach

/-- The place of a violation, as a pointer. -/
def Violation.pointer (violation : Violation) : String := Pointer.text violation.place

/-- The wording of a violation, without its place. -/
def Violation.message (violation : Violation) : String := violation.breach.message

end ScenarioTree
