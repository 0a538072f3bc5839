import ScenarioTree.Number.Order
import ScenarioTree.Schema.Basic

/-!
# Reading schemas

Schemas are written as documents: `true`, `false`, or a map whose keys are keywords. Keywords are
looked at in the order of the map, and those without a meaning in the draft are left out. Up to
draft 7 a map with a reference is that reference, whatever else it holds.

The properties of a value are looked at by one rule where the schema also restricts all others:
`properties` and `patternProperties` then belong to `additionalProperties`.

A schema is read as it stands: references are not followed, and what cannot be read becomes a fault
in its place.
-/

namespace ScenarioTree.Schema

/-! ## Keywords -/

/-- The drafts that know a keyword, where these are not all. -/
def spans : List (String × Draft.Span) :=
  let from6 := Draft.since .draft6
  let from2019 := Draft.since .draft2019
  [("$dynamicRef", Draft.since .draft2020), ("$recursiveRef", ⟨.draft2019, .draft2019⟩),
    ("additionalItems", Draft.upTo .draft2019), ("const", from6), ("contains", from6),
    ("contentEncoding", ⟨.draft6, .draft7⟩), ("contentMediaType", ⟨.draft6, .draft7⟩),
    ("dependentRequired", from2019), ("dependentSchemas", from2019),
    ("exclusiveMaximum", from6), ("exclusiveMinimum", from6), ("format", Draft.upTo .draft7),
    ("if", Draft.since .draft7), ("prefixItems", Draft.since .draft2020),
    ("propertyNames", from6)]

/-- Whether a keyword belongs to no vocabulary. -/
def isCore (keyword : String) : Bool :=
  ["$dynamicRef", "$recursiveRef", "$ref", "additionalItems", "dependencies"].contains keyword

/-- Whether a keyword has a meaning. -/
def Context.knows (context : Context) (keyword : String) : Bool :=
  ((spans.lookup keyword).getD Draft.always).contains context.draft
    && (context.draft ≤ .draft7 || context.hasVocabulary || isCore keyword)

/-- The first draft that knows a shape. -/
def firstDraft : Shape → Draft
  | .pointer | .uriReference | .uriTemplate => .draft6
  | .internationalHostname | .iri | .iriReference | .relativePointer => .draft7
  | _ => .draft4

/-! ## Values of keywords -/

/-- A rule that has no meaning. -/
def misused (breach : Breach) : Schema := unreadable (.unreadable breach)

/-- What has no meaning because of its kind. -/
def unexpected (v : Value) (expected : List Kind) : Except Breach α := .error (.kind v expected)

/-- The kind with a name. -/
def readKind (v : Value) : Except Breach Kind :=
  match v with
  | .string name =>
    match Kind.ofName? name with
    | some kind => .ok kind
    | none => .error (.notListed v (Kind.all.map fun kind => .string kind.name))
  | v => unexpected v [.string]

/-- The kinds that are named by a string, or by a list of strings. -/
def readKinds (v : Value) : Except Breach (List Kind) :=
  match v with
  | .string name => return [← readKind (.string name)]
  | .array [listed] => return [← readKind listed]
  | .array listed => do
    let kinds ← listed.mapM readKind
    return Kind.all.filter kinds.contains
  | v => unexpected v [.array, .string]

/-- A list of strings. -/
def readStrings (v : Value) : Except Breach (List String) :=
  match v with
  | .array listed => listed.mapM fun
    | .string s => .ok s
    | v => unexpected v [.string]
  | v => unexpected v [.array]

/-- A number. -/
def readNumber (v : Value) : Except Breach Number :=
  match v with
  | .number n => .ok n
  | v => unexpected v [.number]

/-- A bound on a count of items. -/
def readBound (v : Value) : Except Breach Nat :=
  match v with
  | .number (.int n) => if n < 0 then .error (.below v (.int 0)) else .ok n.toNat
  | .number n =>
    match n.toCount? with
    | some count => .ok count
    | none => unexpected v [.integer]
  | v => unexpected v [.integer]

/-- A count. Draft 4 asks for integers as they are written, which are not negative. -/
def readCount (draft : Draft) (v : Value) : Except Breach Nat :=
  match draft, v with
  | .draft4, .number (.float _) => unexpected v [.integer]
  | .draft4, v => readBound v
  | _, .number (.int n) => .ok ((Number.int n).toCount?.getD 0)
  | _, v => readBound v

/-- The assertion of a keyword that looks at one value alone. -/
def readAssertion (draft : Draft) (keyword : String) (v : Value) :
    Except Breach (Option Assertion) :=
  match keyword, v with
  | "const", v => return some (.equal v)
  | "enum", .array options => return some (.listed options)
  | "enum", v => unexpected v [.array]
  | "exclusiveMaximum", v => return some (.exclusiveMaximum (← readNumber v))
  | "exclusiveMinimum", v => return some (.exclusiveMinimum (← readNumber v))
  | "format", .string name =>
    return ((Shape.ofName? name).filter (firstDraft · ≤ draft)).map (.shape name)
  | "format", v => unexpected v [.string]
  | "maxItems", v => return some (.atMost .items (← readCount draft v))
  | "maxLength", v => return some (.atMost .characters (← readCount draft v))
  | "maxProperties", v => return some (.atMost .properties (← readCount draft v))
  | "maximum", v => return some (.maximum (← readNumber v))
  | "minItems", v => return some (.atLeast .items (← readCount draft v))
  | "minLength", v => return some (.atLeast .characters (← readCount draft v))
  | "minProperties", v => return some (.atLeast .properties (← readCount draft v))
  | "minimum", v => return some (.minimum (← readNumber v))
  | "multipleOf", v => return some (.multipleOf (← readNumber v).toBinary64)
  | "pattern", .string written =>
    match Pattern.parse? written with
    | some pattern => .ok (some (.pattern written pattern))
    | none => .error (.shape v "regex")
  | "pattern", v => unexpected v [.string]
  | "required", v => return some (.required (← readStrings v))
  | "type", v => do
    let kinds ← readKinds v
    return some (if draft = .draft4 then .kindAsWritten kinds else .kind kinds)
  | "uniqueItems", .bool distinct => return if distinct then some .distinctItems else none
  | "uniqueItems", v => unexpected v [.boolean]
  | _, _ => return none

/-- The keyword that a limit stands for. In draft 4 the exclusive limits are marks beside the other
    ones. -/
def effective (draft : Draft) (siblings : Fields) (keyword : String) : String :=
  let isMarked (mark : String) := ((Fields.get? mark siblings).any (·.same (.bool true)))
  match draft, keyword with
  | .draft4, "maximum" => if isMarked "exclusiveMaximum" then "exclusiveMaximum" else keyword
  | .draft4, "minimum" => if isMarked "exclusiveMinimum" then "exclusiveMinimum" else keyword
  | _, keyword => keyword

/-- The rule of a keyword that looks at one value alone. -/
def readAlone (draft : Draft) (siblings : Fields) (keyword : String) (v : Value) : List Schema :=
  let keyword := effective draft siblings keyword
  match readAssertion draft keyword v with
  | .ok (some assertion) => [assert keyword assertion]
  | .ok none => []
  | .error breach => [misused breach]

/-- The names that have to be there. -/
def readRequired (rule : String) (v : Value) : Schema :=
  match readStrings v with
  | .ok listed => assert rule (.required listed)
  | .error breach => misused breach

/-- The rules on what strings hold. An encoding that goes with a kind of content is looked at with
    it. -/
def readContent (siblings : Fields) (v : Value) : List Schema :=
  match v, Fields.get? "contentEncoding" siblings with
  | .string "application/json", none => [assert "contentMediaType" (.content .json)]
  | .string "application/json", some (.string "base64") =>
    [assert "contentEncoding" (.content .base64), assert "contentMediaType" (.content .base64Json)]
  | .string "application/json", some (.string _) => []
  | .string "application/json", some encoding => [misused (.kind encoding [.string])]
  | .string _, _ => []
  | v, _ => [misused (.kind v [.string])]

/-- The rule on the encoding of strings, where nothing is said about the kind of their content. -/
def readEncoding (siblings : Fields) (v : Value) : List Schema :=
  if Fields.contains "contentMediaType" siblings then []
  else
    match v with
    | .string "base64" => [assert "contentEncoding" (.content .base64)]
    | .string _ => []
    | v => [misused (.kind v [.string])]

/-! ## Keywords with schemas below them -/

/-- The schemas below a keyword, once they are read. -/
inductive Subschemas where
  | one (schema : Schema)
  | list (schemas : List Schema)
  | named (schemas : List (String × Schema))
  | matched (schemas : List (Pattern × Schema))

/-- The schemas below the keywords of a map. -/
abbrev Table := List (String × Subschemas)

namespace Table

def one? (table : Table) (keyword : String) : Option Schema :=
  match table.lookup keyword with
  | some (.one schema) => some schema
  | _ => none

def named (table : Table) (keyword : String) : List (String × Schema) :=
  match table.lookup keyword with
  | some (.named schemas) => schemas
  | _ => []

def matched (table : Table) (keyword : String) : List (Pattern × Schema) :=
  match table.lookup keyword with
  | some (.matched schemas) => schemas
  | _ => []

/-- The rule of a keyword with a list of schemas. -/
def listed (table : Table) (keyword : String) (v : Value) (rule : List Schema → Schema) : Schema :=
  match table.lookup keyword with
  | some (.list schemas) => rule schemas
  | _ => misused (.kind v [.array])

end Table

/-- Whether a restriction on all other properties takes `properties` and `patternProperties` with
    it. -/
def restrictsOthers (siblings : Fields) : Bool :=
  match Fields.get? "additionalProperties" siblings with
  | some (.bool false) | some (.object _) => true
  | _ => false

/-- The rule on items behind the first ones. -/
def readAdditionalItems (siblings : Fields) (table : Table) (v : Value) : List Schema :=
  let keyword := "additionalItems"
  match Fields.get? "items" siblings, v with
  | some (.array first), .bool false => [assert keyword (.noItemsAfter first.length)]
  | some (.array first), .object _ => ((table.one? keyword).map (items first.length)).toList
  | some (.bool false), _ => [never keyword]
  | none, _ | some (.array _), _ | some (.object _), _ | some (.bool true), _ => []
  | some _, v => [misused (.kind v [.array, .boolean, .object])]

/-- What is wrong with the schemas of properties beside a restriction on all other properties. -/
def misplacedProperties (siblings : Fields) : List Schema :=
  ["patternProperties", "properties"].filterMap fun keyword =>
    match Fields.get? keyword siblings with
    | none | some (.object _) => none
    | some v => some (misused (.kind v [.object]))

/-- The rule on all other properties. -/
def readAdditionalProperties (siblings : Fields) (table : Table) (v : Value) : List Schema :=
  let named := table.named "properties"
  let matched := table.matched "patternProperties"
  match v with
  | .bool true => []
  | .bool false =>
    if Fields.contains "properties" siblings || Fields.contains "patternProperties" siblings then
      misplacedProperties siblings ++ [members named matched none]
    else [assert "additionalProperties" .noProperties]
  | _ => misplacedProperties siblings ++ [members named matched (table.one? "additionalProperties")]

/-- The rule on some items. The later drafts bound their number. -/
def readContains (draft : Draft) (siblings : Fields) (table : Table) : List Schema :=
  let bound (keyword : String) : Except Breach (Option Nat) :=
    match Fields.get? keyword siblings with
    | some v => if draft ≤ .draft7 then .ok none else return some (← readBound v)
    | none => .ok none
  match bound "minContains", bound "maxContains" with
  | .error breach, _ | _, .error breach => [misused breach]
  | .ok atLeast, .ok atMost => ((table.one? "contains").map (contains atLeast atMost)).toList

/-- The rule on items, all or one by one. Since 2020 all items are those behind the first ones,
    which have a keyword of their own. -/
def readItems (draft : Draft) (siblings : Fields) (table : Table) (v : Value) : List Schema :=
  let skipped := match draft, Fields.get? "prefixItems" siblings with
    | .draft2020, some (.array first) => first.length
    | _, _ => 0
  match table.lookup "items" with
  | some (.one schema) => [items skipped schema]
  | some (.list schemas) =>
    [if draft = .draft2020 then misused (.kind v [.boolean, .object]) else tuple schemas]
  | _ => []

/-- The rules of a keyword, in a map with all its siblings and the schemas below them. -/
def readRules (context : Context) (siblings : Fields) (table : Table) (keyword : String)
    (v : Value) : List Schema :=
  let link (kind : LinkKind) : Schema :=
    match v with
    | .string text => reference (context.link kind text)
    | v => misused (.kind v [.string])
  let named (rule : List (String × Schema) → Schema) : Schema :=
    if v.asObject?.isSome then rule (table.named keyword) else misused (.kind v [.object])
  match keyword with
  | "$dynamicRef" => [link .dynamic]
  | "$recursiveRef" => [link .recurring]
  | "$ref" => [link .plain]
  | "additionalItems" => readAdditionalItems siblings table v
  | "additionalProperties" => readAdditionalProperties siblings table v
  | "allOf" => [table.listed keyword v all]
  | "anyOf" => [table.listed keyword v anyOf]
  | "contains" => readContains context.draft siblings table
  | "contentEncoding" => readEncoding siblings v
  | "contentMediaType" => readContent siblings v
  | "dependencies" | "dependentSchemas" => [named dependent]
  | "dependentRequired" =>
    match v with
    | .object fields => [dependent (fields.map fun (key, v) => (key, readRequired keyword v))]
    | v => [misused (.kind v [.object])]
  | "if" =>
    match table.one? "if", table.one? "then", table.one? "else" with
    | none, _, _ | _, none, none => []
    | some condition, satisfied, otherwise =>
      [branch condition (satisfied.getD always) (otherwise.getD always)]
  | "items" => readItems context.draft siblings table v
  | "not" => ((table.one? keyword).map fun schema => not schema v).toList
  | "oneOf" => [table.listed keyword v oneOf]
  | "patternProperties" =>
    if restrictsOthers siblings then []
    else if v.asObject?.isSome then [patterns (table.matched keyword)]
    else [misused (.kind v [.object])]
  | "prefixItems" => [table.listed keyword v tuple]
  | "properties" => if restrictsOthers siblings then [] else [named properties]
  | "propertyNames" =>
    match v with
    | .bool false => [assert keyword .noNames]
    | .object _ => ((table.one? keyword).map names).toList
    | _ => []
  | keyword => readAlone context.draft siblings keyword v

/-! ## Names of rules -/

/-- Whether a key looks like the index of an item. -/
def isIndex (key : String) : Bool :=
  let digits := match key.toList with
    | '+' :: rest => rest
    | text => text
  !digits.isEmpty && digits.all Char.isDigit
    && digits.foldl (fun n c => 10 * n + (c.toNat - 0x30)) 0 < UInt64.size

/-- The innermost name on the way to a schema under a key of a keyword. -/
def ruleUnder (keyword key : String) : String :=
  if key = "" ∨ isIndex key then keyword else Pointer.escape key

/-! ## Schemas -/

/-- Reads a schema below others, in its own context. -/
def readBelow (context : Context) (v : Value) (read : Context → Schema) : Schema :=
  match context.enter v with
  | .ok context => read context
  | .error fault => unreadable fault

/-- The reference that a map is, in spite of all else. -/
def override? (context : Context) (fields : Fields) : Option Link :=
  match Fields.get? "$ref" fields with
  | some (.string text) => if context.draft ≤ .draft7 then some (context.link .plain text) else none
  | _ => none

mutual

/-- Reads a schema. The rule names violations of a schema that forbids everything. -/
def ofValue (context : Context) (rule : String) : Value → Schema
  | .bool true => always
  | .bool false => never rule
  | .object fields =>
    match override? context fields with
    | some link => reference link
    | none =>
      let table := tableOf context fields
      all (fields.flatMap fun (keyword, v) =>
        if context.knows keyword then readRules context fields table keyword v else [])
  | v => misused (.kind v [.boolean, .object])

/-- Reads the schemas below the keywords of a map. -/
def tableOf (context : Context) : List (String × Value) → Table
  | [] => []
  | (keyword, v) :: rest =>
    let rest := tableOf context rest
    match Draft.firstBelow? keyword, v with
    | some .one, v => (keyword, .one (readBelow context v (ofValue · keyword v))) :: rest
    | some .list, .array values | some .oneOrList, .array values =>
      (keyword, .list (listOf context keyword values)) :: rest
    | some .oneOrList, v => (keyword, .one (readBelow context v (ofValue · keyword v))) :: rest
    | some .named, .object fields =>
      if keyword = "patternProperties" then (keyword, .matched (matchedOf context fields)) :: rest
      else (keyword, .named (namedOf context keyword false fields)) :: rest
    | some .namedOrNames, .object fields =>
      (keyword, .named (namedOf context keyword true fields)) :: rest
    | _, _ => rest

/-- Reads a list of schemas. -/
def listOf (context : Context) (keyword : String) : List Value → List Schema
  | [] => []
  | v :: rest => readBelow context v (ofValue · keyword v) :: listOf context keyword rest

/-- Reads the schemas under the keys of a keyword. Where there may be lists among them, these name
    properties that have to be there. -/
def namedOf (context : Context) (keyword : String) (orNames : Bool) :
    List (String × Value) → List (String × Schema)
  | [] => []
  | (key, v) :: rest =>
    let schema :=
      if orNames && v.asArray?.isSome then readRequired keyword v
      else readBelow context v (ofValue · (ruleUnder keyword key) v)
    (key, schema) :: namedOf context keyword orNames rest

/-- Reads the schemas under patterns. What cannot be read as a pattern is a fault in the place of
    its schema. -/
def matchedOf (context : Context) : List (String × Value) → List (Pattern × Schema)
  | [] => []
  | (key, v) :: rest =>
    let rule := ruleUnder "patternProperties" key
    (match Pattern.parse? key with
      | none => (.empty, misused (.shape v "regex"))
      | some pattern => (pattern, readBelow context v (ofValue · rule v)))
      :: matchedOf context rest

end

end ScenarioTree.Schema
