import ScenarioTree.Schema.Check
import ScenarioTree.Schema.Reading
import ScenarioTree.Schema.Registry

/-!
# Schemas with what they refer to

A schema is read together with all schemas that its links lead to, and those that their links lead
to.

`Linked.ofValue` reads a schema, provided that it mentions no resources outside, is well formed, and
that all its references lead somewhere. `Linked.violations` are all violations of it by a value.

Results:

* `tie_nil`: without loose ends nothing is read.
* `ofResource_of_looseEnds`: a schema without loose ends stands alone.
-/

namespace ScenarioTree

open Schema (Link Registry Resource LooseEnd)

/-- A schema with the schemas that its links lead to. -/
structure Linked where
  root : Schema
  parts : List (Link × Schema)

namespace Linked

/-- Reads the schema that a link leads to. -/
def read (registry : Registry) (link : Link) : Except SchemaFault Schema := do
  let (context, contents) ← registry.target link
  return Schema.ofValue context link.kind.keyword contents

/-- Reads the schemas of loose ends, and of the loose ends of those. There is a bound on the number
    of loose ends that are looked at. -/
def tie (registry : Registry) :
    Nat → List (Link × Schema) → List LooseEnd → Except SchemaFault (List (Link × Schema))
  | 0, parts, _ | _, parts, [] => .ok parts
  | _, _, .fault fault :: _ => .error fault
  | bound + 1, parts, .link link :: pending =>
    if parts.any (·.1 = link) then tie registry bound parts pending
    else do
      let schema ← read registry link
      tie registry bound (parts ++ [(link, schema)]) (schema.looseEnds ++ pending)

theorem tie_nil (registry : Registry) (bound : Nat) (parts : List (Link × Schema)) :
    tie registry bound parts [] = .ok parts := by
  cases bound <;> rfl

/-- More loose ends than there can be. A link is a place in a document, seen from another place and
    in a scope, which for each name is one of the resources with names. -/
def looseEndBound (registry : Registry) : Nat :=
  let places := registry.resources.foldr (fun entry count => entry.2.contents.count + count) 0
  Nat.pow (places + 2) (registry.anchors.length + 4)

/-- A schema that is a resource, with what it refers to, whether it is well formed or not. -/
def ofResource (registry : Registry) (base : Uri) (resource : Resource) :
    Except SchemaFault Linked := do
  let around := Registry.contextOf resource.draft base ⟨[], none⟩ resource.contents
  let context ← around.enterAs resource
  let root := Schema.ofValue context "schema" resource.contents
  return ⟨root, ← tie registry (looseEndBound registry) [] root.looseEnds⟩

theorem ofResource_of_looseEnds {registry : Registry} {base : Uri} {resource : Resource}
    {context : Schema.Context}
    (h : (Registry.contextOf resource.draft base ⟨[], none⟩ resource.contents).enterAs resource =
      .ok context)
    (hends : (Schema.ofValue context "schema" resource.contents).looseEnds = []) :
    ofResource registry base resource =
      .ok ⟨Schema.ofValue context "schema" resource.contents, []⟩ := by
  simp [ofResource, h, hends, tie_nil, bind, Except.bind, pure, Except.pure]

/-- The violations that links lead to. There is a bound on how often one is followed. -/
def follow (linked : Linked) : Nat → Schema.Follow
  | 0, _, _, _ => []
  | bound + 1, link, place, v =>
    match linked.parts.lookup link with
    | some schema => schema.violations (linked.follow bound) place v
    | none => []

/-- All violations of a schema by a value, the first one first. A reference that leads back to
    itself on the way to the same value asks nothing of it, so at every depth of the value each
    reference has to be followed only once. -/
def violations (linked : Linked) (v : Value) : List Violation :=
  linked.root.violations (linked.follow ((linked.parts.length + 1) * (v.depth + 1))) [] v

/-- The schema of schemas. It refers to nothing but its own document. -/
def ofSchemas : Linked :=
  (do
    let base ← Schema.locate Schema.defaultBase Draft.draft7.identifier
    let resource : Resource := ⟨.draft7, Schema.Standard.Draft7.document⟩
    let intake ← Registry.empty.including base resource
    ofResource intake.registry base resource).toOption.getD ⟨.always, []⟩

/-- A schema with what it refers to, if it can be used. It is read as one of draft 7. -/
def ofValue (schema : Value) : Except SchemaFault Linked := do
  let resource : Resource := ⟨.draft7, schema⟩
  let base ← match resource.identifier? with
    | none => pure Schema.defaultBase
    | some text => Schema.locate Schema.defaultBase text
  let intake ← Registry.standard.including base resource
  match intake.mentioned.filter (intake.registry.resource? · |>.isNone) with
  | outside :: _ => throw (.unknownResource outside)
  | [] =>
    match ofSchemas.violations schema with
    | violation :: _ => throw (.malformed violation)
    | [] => ofResource intake.registry base resource

end Linked

end ScenarioTree
