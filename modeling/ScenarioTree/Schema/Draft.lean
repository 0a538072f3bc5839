import ScenarioTree.Schema.Fault

/-!
# Drafts of the schema language

The versions of the language, in the order of their publication, and what differs between them: the
name by which a schema asks for a draft, and the keywords that have schemas below them.
-/

namespace ScenarioTree

/-- A version of the schema language. -/
inductive Draft where
  | draft4
  | draft6
  | draft7
  | draft2019
  | draft2020
  deriving DecidableEq

namespace Draft

def all : List Draft := [draft4, draft6, draft7, draft2019, draft2020]

/-- The place of a draft in the order of publication. -/
def index : Draft → Nat
  | draft4 => 0
  | draft6 => 1
  | draft7 => 2
  | draft2019 => 3
  | draft2020 => 4

instance : LE Draft := ⟨fun earlier later => earlier.index ≤ later.index⟩

instance (earlier later : Draft) : Decidable (earlier ≤ later) :=
  inferInstanceAs (Decidable (earlier.index ≤ later.index))

/-- The identifier of the schema of schemas. -/
def identifier : Draft → String
  | draft4 => "http://json-schema.org/draft-04/schema"
  | draft6 => "http://json-schema.org/draft-06/schema"
  | draft7 => "http://json-schema.org/draft-07/schema"
  | draft2019 => "https://json-schema.org/draft/2019-09/schema"
  | draft2020 => "https://json-schema.org/draft/2020-12/schema"

/-- A text without the marks of an empty part at its end. -/
def trimPart (text : String) : String :=
  String.ofList (text.toList.reverse.dropWhile (· == '#')).reverse

/-- The draft of a schema in a document of a draft. A schema can ask for another one by the
    identifier of its schema of schemas. -/
def detect (draft : Draft) (contents : Value) : Except SchemaFault Draft :=
  match (contents.get? "$schema").bind Value.asString? with
  | none => .ok draft
  | some text =>
    match all.find? (·.identifier == trimPart text) with
    | some asked => .ok asked
    | none => .error (.unknownDraft (trimPart text))

/-! ## Keywords with schemas below them -/

/-- Some drafts in a row. -/
structure Span where
  first : Draft
  last : Draft

/-- A draft and all later ones. -/
def since (draft : Draft) : Span := ⟨draft, draft2020⟩

/-- A draft and all earlier ones. -/
def upTo (draft : Draft) : Span := ⟨draft4, draft⟩

/-- All drafts. -/
def always : Span := ⟨draft4, draft2020⟩

/-- Whether a draft is one of those in a row. -/
def Span.contains (span : Span) (draft : Draft) : Bool := span.first ≤ draft && draft ≤ span.last

/-- What stands below a keyword. -/
inductive Below where
  | one
  | list
  | oneOrList
  /-- Schemas under keys. -/
  | named
  /-- Schemas under keys, among lists of names. -/
  | namedOrNames
  deriving DecidableEq

/-- The keywords that have schemas below them, with what stands there in which drafts. -/
def keywordsBelow : List (String × Below × Span) := [
  ("$defs", .named, since draft2019), ("additionalItems", .one, upTo draft2019),
  ("additionalProperties", .one, always), ("allOf", .list, always), ("anyOf", .list, always),
  ("contains", .one, since draft6), ("contentSchema", .one, since draft2019),
  ("definitions", .named, always), ("dependencies", .namedOrNames, upTo draft7),
  ("dependentSchemas", .named, since draft2019), ("else", .one, since draft7),
  ("if", .one, since draft7), ("items", .oneOrList, upTo draft2019),
  ("items", .one, since draft2020), ("not", .one, always), ("oneOf", .list, always),
  ("patternProperties", .named, always), ("prefixItems", .list, since draft2020),
  ("properties", .named, always), ("propertyNames", .one, since draft6),
  ("then", .one, since draft7), ("unevaluatedItems", .one, since draft2019),
  ("unevaluatedProperties", .one, since draft2019)]

/-- What stands below a keyword of a draft. -/
def below? (draft : Draft) (keyword : String) : Option Below :=
  (keywordsBelow.find? fun (known, _, span) => known = keyword && span.contains draft).map (·.2.1)

/-- What stands below a keyword in the first draft that knows it. -/
def firstBelow? (keyword : String) : Option Below := (keywordsBelow.lookup keyword).map (·.1)

end Draft

end ScenarioTree
