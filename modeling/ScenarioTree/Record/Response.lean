import ScenarioTree.Record.Coding

/-!
# Responses

What came back for a request: a status, headers and a body. Whoever sends requests keeps it with the
route or the scenario; nothing in this library fills it in.
-/

namespace ScenarioTree

/-- A response. The headers are in ascending order of their names. -/
structure Response where
  status : UInt16
  headers : List (String × String)
  body : Value

namespace Response

def decodeHeaders (v : Value) : Except MisfitError (List (String × String)) := do
  (← decodeFields v).mapM fun (name, value) => return (name, ← decode value)

/-- Reads a response from a map, or from a list of its parts. Only the status has to be there. -/
def ofValue : Value → Except MisfitError Response
  | .object fields => do
    let headers ← (Fields.get? "headers" fields).elim (.ok []) decodeHeaders
    match Fields.get? "status" fields with
    | some status => return ⟨← decode status, headers, (Fields.get? "body" fields).getD .null⟩
    | none => throw (.missing "status")
  | .array items => do
    match items with
    | [] => throw (.length 0 "struct CapturedResponse with 3 elements")
    | status :: rest =>
      let status ← decode status
      let headers ← rest.head?.elim (.ok []) decodeHeaders
      if 3 < items.length then throw (.length items.length "fewer elements in array")
      else return ⟨status, headers, rest[1]?.getD .null⟩
  | v => .error (.kind v "struct CapturedResponse")

def toValue (r : Response) : Value :=
  .object [("body", r.body), ("headers", .ofEntries (r.headers.map fun (k, v) => (k, .string v))),
    ("status", encode r.status)]

end Response

instance : Coded Response := ⟨Response.ofValue, Response.toValue⟩

end ScenarioTree
