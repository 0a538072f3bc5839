import ScenarioTree.Schema.Link
import ScenarioTree.Schema.Standard
import ScenarioTree.Shape.Pointer
import ScenarioTree.Text.Parts

/-!
# Registries of schemas

A registry knows the schemas that references can lead to without a look into their pointers: those
that are documents of their own, and those that give themselves an identifier or a name. Nothing is
fetched from elsewhere. `Registry.including` enters a document and the schemas below it, level by
level; `Registry.target` is where a link leads.
-/

namespace ScenarioTree.Schema

/-- The schemas that references can lead to, the last one first. -/
structure Registry where
  resources : List (Uri × Resource)
  /-- The schemas with names, each with the identifier of the document around it. -/
  anchors : List (Uri × Anchor × Resource)

namespace Registry

def empty : Registry := ⟨[], []⟩

/-- The schema with an identifier. -/
def resource? (registry : Registry) (uri : Uri) : Option Resource :=
  (registry.resources.find? (·.1 = uri)).map (·.2)

/-- Gives a schema an identifier. -/
def insert (registry : Registry) (uri : Uri) (resource : Resource) : Registry :=
  { registry with resources := (uri, resource) :: registry.resources }

/-- Gives a schema its names in a document. -/
def insertAnchors (registry : Registry) (base : Uri) (resource : Resource) : Registry :=
  let anchors := resource.anchors.map fun anchor => (base, anchor, resource)
  { registry with anchors := anchors.reverse ++ registry.anchors }

/-! ## Entering documents -/

/-- A registry while a document is being entered, with the resources outside that have been
    mentioned so far. -/
structure Intake where
  registry : Registry
  mentioned : List Uri

/-- Enters a schema that stands in a document with an identifier. What is left are the schemas right
    below it. -/
def Intake.enter (intake : Intake) (base : Uri) (resource : Resource) :
    Except SchemaFault (Intake × List (Uri × Resource)) := do
  let (base, registry) ← match resource.identifier? with
    | none => pure (base, intake.registry)
    | some text =>
      let base ← locate base text
      pure (base, intake.registry.insert base resource)
  let mentioned ← resource.mentions base
  let below ← resource.below
  return (⟨registry.insertAnchors base resource, intake.mentioned ++ mentioned⟩,
    below.map (base, ·))

/-- Enters the schemas of a level, one by one. What is left is the next level. -/
def Intake.enterLevel (intake : Intake) :
    List (Uri × Resource) → Except SchemaFault (Intake × List (Uri × Resource))
  | [] => .ok (intake, [])
  | (base, resource) :: rest => do
    let (intake, below) ← intake.enter base resource
    let (intake, others) ← intake.enterLevel rest
    return (intake, below ++ others)

/-- Enters the schemas of some levels. -/
def Intake.enterLevels (intake : Intake) :
    Nat → List (Uri × Resource) → Except SchemaFault Intake
  | 0, _ | _, [] => .ok intake
  | levels + 1, level => do
    let (intake, next) ← intake.enterLevel level
    intake.enterLevels levels next

/-- A registry with a document under an identifier, and the resources outside that the document
    mentions. A document has no more levels than values that nest. -/
def including (registry : Registry) (uri : Uri) (resource : Resource) :
    Except SchemaFault Intake :=
  Intake.enterLevels ⟨registry.insert uri resource, []⟩ resource.contents.depth [(uri, resource)]

/-- The registry of the schemas of schemas. -/
def standard : Registry :=
  Standard.documents.foldl (fun registry (draft, text, contents) =>
    let entered := do registry.including (← locate defaultBase text) ⟨draft, contents⟩
    (entered.toOption.map Intake.registry).getD registry) empty

/-! ## Pointers -/

/-- Replaces the escapes of two hexadecimal digits by the bytes that they stand for. -/
def decodePercent (text : List Char) : Option String :=
  let rec bytes : List Char → List UInt8
    | '%' :: a :: b :: rest =>
      if Text.isHexDigit a && Text.isHexDigit b then
        (Text.hexNumber [a, b]).toUInt8 :: bytes rest
      else (String.singleton '%').toUTF8.toList ++ bytes (a :: b :: rest)
    | c :: rest => (String.singleton c).toUTF8.toList ++ bytes rest
    | [] => []
  String.fromUTF8? ⟨(bytes text).toArray⟩

/-- The index that a key of a pointer stands for. -/
def index? (key : List Char) : Option Nat :=
  let digits := if key.head? == some '+' then key.drop 1 else key
  let index := digits.foldl (fun n c => 10 * n + (c.toNat - 0x30)) 0
  if digits.isEmpty || !digits.all Char.isDigit || UInt64.size ≤ index then none else some index

/-- The value under a key of a pointer, with the key; indices have none. -/
def step (pointer : String) (v : Value) (key : List Char) :
    Except SchemaFault (Option String × Value) :=
  match v with
  | .array values =>
    match index? key with
    | none => .error (.badIndex pointer (String.ofList key))
    | some index =>
      match values[index]? with
      | none => .error (.nowhere pointer)
      | some v => .ok (none, v)
  | v =>
    let key := String.ofList (Pointer.unescape key)
    match v.get? key with
    | none => .error (.nowhere pointer)
    | some v => .ok (some key, v)

/-- Follows the keys of a pointer below a resource of a draft. The schemas on the way that give
    themselves an identifier become the document around the ones below; the keys that have been
    followed since then are in order. -/
def walk (pointer : String) (draft : Draft) :
    List (List Char) → List (Option String) → Uri → Value → Except SchemaFault (Uri × Value)
  | [], _, base, v => .ok (base, v)
  | key :: rest, walked, base, v => do
    let (key, v) ← step pointer v key
    let walked := walked ++ [key]
    let resource : Resource := ⟨draft, v⟩
    match if Resource.leadsToSchema draft v walked then resource.identifier? else none with
    | none => walk pointer draft rest walked base v
    | some text =>
      let inner ← locate base text
      walk pointer draft rest (if inner = base then walked else []) inner v

/-- The value that a pointer leads to, with the identifier of the document around it. -/
def follow (pointer : List Char) (base : Uri) (resource : Resource) :
    Except SchemaFault (Uri × Value) :=
  let written := String.ofList pointer
  match decodePercent (pointer.drop 1) with
  | none => .error (.badEncoding written)
  | some keys =>
    walk written resource.draft (Text.partsAt '/' keys.toList) [] base resource.contents

/-! ## Names -/

/-- The schemas that have names in a document. -/
def anchorsOf (registry : Registry) (uri : Uri) : List (Anchor × Resource) :=
  (registry.anchors.filter (·.1 = uri)).map (·.2)

/-- The schema with a name in a document. -/
def anchor? (registry : Registry) (uri : Uri) (name : String) : Option (Anchor × Resource) :=
  (registry.anchorsOf uri).find? (·.1.name = name)

/-- The schema with a name in a resource, which may give itself another identifier. -/
def anchor (registry : Registry) (uri : Uri) (resource : Resource) (name : String) :
    Except SchemaFault (Anchor × Resource) := do
  match registry.anchor? uri name with
  | some found => return found
  | none =>
    let own ← match resource.identifier? with
      | none => pure none
      | some text => pure (registry.anchor? (← locate defaultBase text) name)
    match own with
    | some found => return found
    | none =>
      throw (if name.toList.contains '/' then .badName name else .unknownName name)

/-- Whether a resource recurs: whether resources further out may stand for it. -/
def recurs (registry : Registry) (uri : Uri) : Bool :=
  ((registry.resource? uri).bind (·.contents.get? "$recursiveAnchor")).any fun
    | .bool recurs => recurs
    | _ => false

/-- The scope behind a resource. -/
def extend (registry : Registry) (scope : Scope) (uri : Uri) : Scope :=
  let names := ((registry.anchorsOf uri).filter (·.1.isDynamic)).map (·.1.name)
  { named := names.foldl (fun named name =>
      if named.any (·.1 = name) then named else named ++ [(name, uri)]) scope.named
    recurring := if registry.recurs uri then some (scope.recurring.getD uri) else none }

/-- The schema that a dynamic name means in a scope. -/
def outermost (registry : Registry) (scope : Scope) (name : String) (resource : Resource) :
    Resource :=
  match (scope.named.lookup name).bind fun uri => registry.anchor? uri name with
  | some (_, outer) => outer
  | none => resource

/-! ## Links -/

/-- Where a schema of a resource is, with its context. Its draft is that of the resource. -/
def contextOf (draft : Draft) (base : Uri) (scope : Scope) (contents : Value) : Context :=
  let asked := (draft.detect contents).toOption.getD draft
  ⟨draft, Draft.draft2019 ≤ asked, base, scope⟩

/-- The resource and the part of it that a text names in a document. -/
def split (base : Uri) (text : String) : Except SchemaFault (Uri × List Char) :=
  match text.toList with
  | '#' :: rest => .ok (base, rest)
  | characters => do
    let (resource, part) := (Text.cutAtLast? '#' characters).getD (characters, [])
    return (← locate base (String.ofList resource), part)

/-- The schema that the text of a link names, with its context. -/
def named (registry : Registry) (link : Link) : Except SchemaFault (Context × Value) := do
  let (uri, part) ← split link.base link.text
  let scope := registry.extend link.scope link.base
  match registry.resource? uri with
  | none => throw (.unregistered uri)
  | some resource =>
    match part with
    | [] => return (contextOf resource.draft uri scope resource.contents, resource.contents)
    | '/' :: _ =>
      let (base, contents) ← follow part uri resource
      return (contextOf resource.draft base scope contents, contents)
    | name =>
      let (anchor, found) ← registry.anchor uri resource (String.ofList name)
      if anchor.isDynamic then
        let found := registry.outermost scope anchor.name found
        let context := contextOf found.draft uri scope found.contents
        return (← context.enterAs found, found.contents)
      else return (contextOf found.draft uri scope found.contents, found.contents)

/-- The schema that a link leads to, with its context. A recurring reference means the outermost of
    the resources around it that recur. -/
def target (registry : Registry) (link : Link) : Except SchemaFault (Context × Value) := do
  discard (locate link.base link.text)
  match link.kind with
  | .plain | .dynamic => registry.named link
  | .recurring =>
    let (context, contents) ← registry.named { link with text := "#" }
    match link.scope.recurring with
    | none => return (context, contents)
    | some outer =>
      if registry.recurs link.base then
        match registry.resource? outer with
        | none => throw (.unregistered outer)
        | some resource =>
          return (contextOf resource.draft outer context.scope resource.contents,
            resource.contents)
      else return (context, contents)

end Registry

end ScenarioTree.Schema
