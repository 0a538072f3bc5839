import ScenarioTree.LoadError
import ScenarioTree.Record.Parameter

/-!
# Records

A record holds the properties of one kind of document, each of which may be unset. What the
properties are is stated once, as a list of fields; reading and writing follow from it.

A record is built with a schema: the properties that the schema declares are read from the document,
and the rest of the document is ignored.
-/

namespace ScenarioTree

/-- A property of a record: its name, how a value is stored in it, and how its value is written. -/
structure Field (R : Type) where
  name : String
  assign : R → Value → Except MisfitError R
  value? : R → Option Value

/-- A property that holds values of a type. Null unsets it. -/
def Field.of {R α : Type} [Coded α] (name : String) (get : R → Option α)
    (set : R → Option α → R) : Field R where
  name
  assign record v := (decodeOptional v).map (set record)
  value? record := (get record).map encode

/-- The sections that records hand down: parameters, metadata and hooks. -/
structure Sections where
  parameters : Option Parameters
  metadata : Option Fields
  hooks : Option (List String)

/-- No section is set. -/
def Sections.unset : Sections := ⟨none, none, none⟩

/-- A kind of records. -/
class Record (R : Type) where
  /-- The name of the kind in messages. -/
  kind : String
  /-- The record without any set property. -/
  unset : R
  fields : List (Field R)
  sections : R → Sections
  withSections : R → Sections → R

namespace Record

variable {R : Type} [Record R]

/-- The names of the properties. -/
def properties (R : Type) [Record R] : List String := (fields (R := R)).map (·.name)

/-- Stores a value in a property. A name that the record does not know changes nothing. -/
def assign (record : R) (property : String) (v : Value) : Except MisfitError R :=
  match fields.find? (·.name == property) with
  | some field => field.assign record v
  | none => .ok record

/-- The set properties of a record, as a document. -/
def toValue (record : R) : Value :=
  .ofEntries (fields.filterMap fun field => (field.value? record).map (field.name, ·))

end Record

/-- The properties that a schema declares, in ascending order. -/
def declaredProperties (schema : Value) : List String :=
  match schema.get? "properties" with
  | some (.object properties) => Fields.keys properties
  | _ => []

namespace Record

variable {R : Type} [Record R]

/-- Stores the declared entries of a document in a record. -/
def assignAll (source : Path) (declared : List String) (record : R) :
    List (String × Value) → Except LoadError R
  | [] => .ok record
  | (key, v) :: rest =>
    if declared.contains key then
      match assign record key v with
      | .ok record => assignAll source declared record rest
      | .error misfit => .error (.invalidData source ("/" ++ key) "type" misfit.message)
    else assignAll source declared record rest

/-- The record of a document that fits its schema. The schema may declare nothing that the record
    does not have. -/
def ofDocument (schema data : Value) (source : Path) : Except LoadError R :=
  let declared := declaredProperties schema
  match declared.find? (!(properties R).contains ·) with
  | some property => .error (.unknownProperty source (kind R) property)
  | none =>
    match data with
    | .object entries => assignAll source declared unset entries
    | _ => .ok unset

/-- The keys of a document that its schema does not declare. -/
def ignoredKeys (schema data : Value) : List String :=
  match data with
  | .object entries => (Fields.keys entries).filter (!(declaredProperties schema).contains ·)
  | _ => []

end Record

end ScenarioTree
