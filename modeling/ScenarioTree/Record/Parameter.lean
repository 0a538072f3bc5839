import ScenarioTree.Record.Coding

/-!
# Parameters

A parameter is a map with a key, a value and any further fields. The parameters of a level form
three lists: headers, path variables and query parameters.
-/

namespace ScenarioTree

/-- A keyed parameter of a request. Further fields are kept as they are. -/
structure Parameter where
  key : String
  value : Value
  extra : Fields

namespace Parameter

/-- Reads a parameter. Its key is a string that has to be there, its value null by default. -/
def ofValue : Value → Except MisfitError Parameter
  | .object fields =>
    match Fields.get? "key" fields with
    | none => .error (.missing "key")
    | some key => do
      let extra := Fields.erase "value" (Fields.erase "key" fields)
      return ⟨← decode key, (Fields.get? "value" fields).getD .null, extra⟩
  | v => .error (.kind v "struct Parameter")

def toValue (p : Parameter) : Value :=
  .object (Fields.insert "key" (.string p.key) (Fields.insert "value" p.value p.extra))

end Parameter

instance : Coded Parameter := ⟨Parameter.ofValue, Parameter.toValue⟩

/-- The three lists of parameters. -/
structure Parameters where
  headers : List Parameter
  pathVariables : List Parameter
  queryParams : List Parameter

namespace Parameters

def empty : Parameters := ⟨[], [], []⟩

/-- Reads the three lists from a map, or from a list of up to three lists. Missing ones are
    empty. -/
def ofValue : Value → Except MisfitError Parameters
  | .object fields => do
    return ⟨← decodeField fields "headers" [], ← decodeField fields "path_variables" [],
      ← decodeField fields "query_params" []⟩
  | .array items => do
    let lists ← (items.take 3).mapM (decode (α := List Parameter))
    if 3 < items.length then throw (.length items.length "fewer elements in array")
    else return ⟨lists[0]?.getD [], lists[1]?.getD [], lists[2]?.getD []⟩
  | v => .error (.kind v "struct Parameters")

def toValue (p : Parameters) : Value :=
  .object [("headers", encode p.headers), ("path_variables", encode p.pathVariables),
    ("query_params", encode p.queryParams)]

end Parameters

instance : Coded Parameters := ⟨Parameters.ofValue, Parameters.toValue⟩

end ScenarioTree
