import ScenarioTree.Schema.Draft

/-!
# Resources

A schema that can be referred to, with its draft: what it identifies itself by, the names that it
gives itself, what it refers to, and the schemas below it.

`locate` finds what a text means in a document with an identifier of its own.
-/

namespace ScenarioTree.Schema

/-! ## Identifiers -/

/-- The identifier of a schema that gives itself none. -/
def defaultBase : Uri :=
  ⟨some "json-schema".toList, some ⟨none, .name [], none⟩, ['/'], none, none⟩

/-- Whether a text names a part of a document. -/
def isPart (text : String) : Bool := text.toList.head? == some '#'

/-- What a text means in a document with an identifier. The part that the identifier of the document
    names itself is the document. -/
def locate (base : Uri) (text : String) : Except SchemaFault Uri :=
  if isPart text && text.toList.isSuffixOf base.text.toList then .ok base
  else
    match Uri.parse false text.toList with
    | .error fault => .error (.badIdentifier text fault)
    | .ok uri =>
      match base.resolve uri with
      | .error fault => .error (.unresolvable text base fault)
      | .ok uri => .ok uri

/-- A schema in a draft. -/
structure Resource where
  draft : Draft
  contents : Value

/-- A name that a schema gives itself. A dynamic name stands for a schema further out that gives
    itself the same name, if there is one. -/
structure Anchor where
  name : String
  isDynamic : Bool

namespace Resource

/-- The string under a keyword. -/
def string? (resource : Resource) (keyword : String) : Option String :=
  (resource.contents.get? keyword).bind Value.asString?

/-- The keyword of identifiers. -/
def identifierKeyword (draft : Draft) : String := if draft = .draft4 then "id" else "$id"

/-- The identifier that a schema gives itself. In earlier drafts a schema that is a reference has
    none, and one that begins with `#` is only a name. -/
def identifier? (resource : Resource) : Option String := do
  let text ← resource.string? (identifierKeyword resource.draft)
  let isEarly := resource.draft ≤ .draft7
  if isEarly && (isPart text || (resource.contents.get? "$ref").isSome) then none
  else return Draft.trimPart text

/-- The names that a schema gives itself. -/
def anchors (resource : Resource) : List Anchor :=
  let plain : List Anchor := ((resource.string? "$anchor").map (⟨·, false⟩)).toList
  match resource.draft with
  | .draft4 | .draft6 | .draft7 =>
    match (resource.string? (identifierKeyword resource.draft)).map String.toList with
    | some ('#' :: name) => [⟨String.ofList name, false⟩]
    | _ => []
  | .draft2019 => plain
  | .draft2020 => plain ++ ((resource.string? "$dynamicAnchor").map (⟨·, true⟩)).toList

/-- Whether a text names a schema of schemas, or a part of one. -/
def isStandard (text : String) : Bool :=
  ["http://json-schema.org/draft-04/", "http://json-schema.org/draft-06/",
    "http://json-schema.org/draft-07/", "https://json-schema.org/draft/2019-09/",
    "https://json-schema.org/draft/2020-12/"].any (·.isPrefixOf text)

/-- The resources outside that a schema with an identifier refers to. -/
def mentions (base : Uri) (resource : Resource) : Except SchemaFault (List Uri) :=
  if base.scheme = some "urn".toList then .ok []
  else
    let texts := (["$ref", "$schema"].filterMap resource.string?).filter fun text =>
      !isPart text && !isStandard text
    texts.mapM fun text => return (← locate base.withoutFragment text).withoutFragment

/-! ## Below a schema -/

/-- The schemas below a keyword. -/
def underKeyword (draft : Draft) (keyword : String) (v : Value) : List Value :=
  match draft.below? keyword, v with
  | some .one, v => [v]
  | some .list, .array values | some .oneOrList, .array values => values
  | some .oneOrList, v => [v]
  | some .named, .object fields => fields.map (·.2)
  | some .namedOrNames, .object fields => (fields.map (·.2)).filter (·.asObject?.isSome)
  | _, _ => []

/-- The schemas right below a schema. Each may ask for a draft of its own. -/
def below (resource : Resource) : Except SchemaFault (List Resource) :=
  let fields := resource.contents.asObject?.getD []
  (fields.flatMap fun (keyword, v) => underKeyword resource.draft keyword v).mapM fun contents =>
    return ⟨← resource.draft.detect contents, contents⟩

/-- Whether keys and indices lead from a schema to a schema below it; an index is `none`. Where one
    schema or several may stand, every map counts as one. -/
def leadsToSchema (draft : Draft) (contents : Value) : List (Option String) → Bool
  | [] => true
  | none :: rest => leadsToSchema draft contents rest
  | some key :: rest =>
    match draft.below? key with
    | some .one => leadsToSchema draft contents rest
    | some .oneOrList | some .namedOrNames => contents.asObject?.isSome
    | some .list | some .named =>
      match rest with
      | [] => false
      | _ :: rest => leadsToSchema draft contents rest
    | none => false

end Resource

end ScenarioTree.Schema
