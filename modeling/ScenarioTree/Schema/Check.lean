import ScenarioTree.Format.Json
import ScenarioTree.Pattern.Matching
import ScenarioTree.Schema.Basic
import ScenarioTree.Shape.Base64

/-!
# Checking values against schemas

All violations of a schema by a value, in the order of the rules. What a reference leads to is a
parameter here: it is another schema, which may lead back to this one.
-/

namespace ScenarioTree

/-! ## Rules on a value alone -/

/-- The size of a value in what is counted; none where there is nothing to count. -/
def Countable.count? : Countable → Value → Option Nat
  | items, .array values => some values.length
  | properties, .object fields => some fields.length
  | characters, .string s => some s.length
  | _, _ => none

/-- Whether a value counts as equal to the one that is expected. Two numbers do when they hardly
    differ. -/
def Value.meets : Value → Value → Bool
  | .number expected, .number found => expected.toBinary64.near found.toBinary64
  | expected, found => expected.alike found

/-- Whether some item equals a later one. -/
def Value.hasRepeatedBy (alike : Value → Value → Bool) : List Value → Bool
  | [] => false
  | item :: rest => rest.any (alike item) || hasRepeatedBy alike rest

/-- Whether some item counts as equal to a later one. Among more than fifteen items, numbers that
    stand for the same number also have to have the same binary64 form. -/
def Value.hasRepeated (items : List Value) : Bool :=
  hasRepeatedBy (if items.length ≤ 15 then Value.alike else Value.alikeNearest) items

/-- The breach of a rule on the content of strings. Strings that cannot be decoded are left to the
    rule on their encoding. -/
def Content.breach? (content : Content) (text : String) : Option Breach :=
  let asJson : Breach := .mediaType (.string text) "application/json"
  match content with
  | base64 =>
    if (Base64.decode? text.toList).isSome then none else some (.encoding (.string text) "base64")
  | json => if (Json.parse? text).isSome then none else some asJson
  | base64Json =>
    match Base64.decode? text.toList with
    | none => none
    | some bytes =>
      if ((String.fromUTF8? ⟨bytes.toArray⟩).bind Json.parse?).isSome then none else some asJson

namespace Assertion

/-- A breach where a condition fails. -/
def ensure (holds : Bool) (breach : Breach) : List Breach := if holds then [] else [breach]

/-- How a value breaches a rule. Rules on one kind of values hold of all others. -/
def breaches : Assertion → Value → List Breach
  | .kind expected, v => ensure (expected.any (·.admits v)) (.kind v expected)
  | .kindAsWritten expected, v => ensure (expected.any (·.admitsWritten v)) (.kind v expected)
  | .listed options, v => ensure (options.any v.alike) (.notListed v options)
  | .equal expected, v => ensure (expected.meets v) (.notEqual expected)
  | .atMost counted limit, v =>
    ensure ((counted.count? v).all (· ≤ limit)) (.tooMany v counted limit)
  | .atLeast counted limit, v =>
    ensure ((counted.count? v).all (limit ≤ ·)) (.tooFew v counted limit)
  | .maximum limit, v@(.number n) => ensure (!limit.lt n) (.above v limit)
  | .exclusiveMaximum limit, v@(.number n) => ensure (n.lt limit) (.atOrAbove v limit)
  | .minimum limit, v@(.number n) => ensure (!n.lt limit) (.below v limit)
  | .exclusiveMinimum limit, v@(.number n) => ensure (limit.lt n) (.atOrBelow v limit)
  | .multipleOf divisor, v@(.number n) =>
    ensure (n.toBinary64.isMultipleOf divisor) (.notMultiple v divisor)
  | .pattern written compiled, v@(.string s) => ensure (compiled.occursIn s) (.pattern v written)
  | .shape name asked, v@(.string s) => ensure (asked.admits s) (.shape v name)
  | .content asked, .string s => (asked.breach? s).toList
  | .required properties, .object fields =>
    (properties.filter (!Fields.contains · fields)).map .missing
  | .distinctItems, v@(.array items) => ensure (!Value.hasRepeated items) (.repeated v)
  | .noItemsAfter count, .array items =>
    ensure (items.length ≤ count) (.unexpectedItems (items.drop count))
  | .noProperties, .object ((_, first) :: _) => [.forbidden first]
  | .noNames, .object (first :: rest) => [.forbidden (.object (first :: rest))]
  | _, _ => []

end Assertion

/-! ## Schemas -/

namespace Schema

/-- What the references of a schema ask of a value at a place. -/
abbrev Follow := Link → List String → Value → List Violation

/-- The rule that a number of items breaks. Without a bound of its own there has to be one. -/
def brokenCount? (atLeast atMost : Option Nat) (count : Nat) : Option String :=
  if atMost.any (· < count) then some "maxContains"
  else
    match atLeast with
    | some bound => if count < bound then some "minContains" else none
    | none =>
      if 0 < count then none else some (if atMost.isSome then "maxContains" else "contains")

mutual

/-- All violations of a schema by the value at a place. -/
def violations (follow : Follow) : Schema → List String → Value → List Violation
  | never rule, place, v => [⟨place, rule, .forbidden v⟩]
  | assert rule assertion, place, v => (assertion.breaches v).map (⟨place, rule, ·⟩)
  | all parts, place, v => violationsOfAll follow parts place v
  | anyOf parts, place, v =>
    if countSatisfied follow parts place v = 0 then [⟨place, "anyOf", .noAlternative v "anyOf"⟩]
    else []
  | oneOf parts, place, v =>
    match countSatisfied follow parts place v with
    | 0 => [⟨place, "oneOf", .noAlternative v "oneOf"⟩]
    | 1 => []
    | _ => [⟨place, "oneOf", .severalAlternatives v⟩]
  | not schema written, place, v =>
    if (schema.violations follow place v).isEmpty then [⟨place, "not", .excluded v written⟩] else []
  | branch condition satisfied otherwise, place, v =>
    if (condition.violations follow place v).isEmpty then satisfied.violations follow place v
    else otherwise.violations follow place v
  | contains atLeast atMost item, place, .array values =>
    let count := values.countP fun v => (item.violations follow place v).isEmpty
    match brokenCount? atLeast atMost count with
    | none => []
    | some rule => [⟨place, rule, .noItem (.array values)⟩]
  | items skipped item, place, .array values =>
    (values.zipIdx.drop skipped).flatMap fun (v, i) =>
      item.violations follow (place ++ [toString i]) v
  | tuple parts, place, .array values => violationsOfTuple follow parts place 0 values
  | properties schemas, place, .object fields => violationsOfNamed follow schemas place fields
  | patterns schemas, place, .object fields => violationsOfMatched follow schemas place fields
  | members named matched others, place, .object fields =>
    let below := fields.flatMap fun (key, v) =>
      let inner := place ++ [key]
      match violationsOfKey follow named key inner v,
          violationsOfMatches follow matched key inner v,
          violationsOfOther follow others inner v with
      | some own, matches', _ => own ++ matches'.getD []
      | none, some matches', _ => matches'
      | none, none, other => other
    let unexpected := (Fields.keys fields).filter fun key =>
      others.isNone && !(named.any (·.1 == key)) && !(matched.any (·.1.occursIn key))
    if unexpected.isEmpty then below
    else below ++ [⟨place, "additionalProperties", .unexpectedProperties unexpected⟩]
  | names name, place, .object fields =>
    (Fields.keys fields).flatMap fun key =>
      (name.violations follow [] (.string key)).map ({ · with place })
  | dependent schemas, place, .object fields => violationsOfDependent follow schemas place fields
  | reference link, place, v => follow link place v
  | _, _, _ => []

/-- The violations of all of some schemas. -/
def violationsOfAll (follow : Follow) : List Schema → List String → Value → List Violation
  | [], _, _ => []
  | schema :: rest, place, v =>
    schema.violations follow place v ++ violationsOfAll follow rest place v

/-- How many of some schemas a value satisfies. -/
def countSatisfied (follow : Follow) : List Schema → List String → Value → Nat
  | [], _, _ => 0
  | schema :: rest, place, v =>
    (if (schema.violations follow place v).isEmpty then 1 else 0) +
      countSatisfied follow rest place v

/-- The violations of schemas by items, one by one. -/
def violationsOfTuple (follow : Follow) :
    List Schema → List String → Nat → List Value → List Violation
  | schema :: rest, place, i, v :: values =>
    schema.violations follow (place ++ [toString i]) v
      ++ violationsOfTuple follow rest place (i + 1) values
  | _, _, _, _ => []

/-- The violations of schemas by the properties with their names. -/
def violationsOfNamed (follow : Follow) :
    List (String × Schema) → List String → Fields → List Violation
  | [], _, _ => []
  | (key, schema) :: rest, place, fields =>
    (match Fields.get? key fields with
      | some v => schema.violations follow (place ++ [key]) v
      | none => []) ++ violationsOfNamed follow rest place fields

/-- The violations of schemas by the properties whose names match their patterns. -/
def violationsOfMatched (follow : Follow) :
    List (Pattern × Schema) → List String → Fields → List Violation
  | [], _, _ => []
  | (pattern, schema) :: rest, place, fields =>
    (fields.filter (pattern.occursIn ·.1)).flatMap (fun (key, v) =>
      schema.violations follow (place ++ [key]) v) ++ violationsOfMatched follow rest place fields

/-- The violations of the schema under a key, if there is one. -/
def violationsOfKey (follow : Follow) :
    List (String × Schema) → String → List String → Value → Option (List Violation)
  | [], _, _, _ => none
  | (name, schema) :: rest, key, place, v =>
    if name = key then some (schema.violations follow place v)
    else violationsOfKey follow rest key place v

/-- The violations of the schemas whose patterns a key matches, if it matches any. -/
def violationsOfMatches (follow : Follow) :
    List (Pattern × Schema) → String → List String → Value → Option (List Violation)
  | [], _, _, _ => none
  | (pattern, schema) :: rest, key, place, v =>
    let others := violationsOfMatches follow rest key place v
    if pattern.occursIn key then some (schema.violations follow place v ++ others.getD [])
    else others

/-- The violations of the schema for all other properties, if there is one. -/
def violationsOfOther (follow : Follow) :
    Option Schema → List String → Value → List Violation
  | none, _, _ => []
  | some schema, place, v => schema.violations follow place v

/-- The violations of schemas by a value that has the properties with their names. -/
def violationsOfDependent (follow : Follow) :
    List (String × Schema) → List String → Fields → List Violation
  | [], _, _ => []
  | (key, schema) :: rest, place, fields =>
    (if Fields.contains key fields then schema.violations follow place (.object fields) else [])
      ++ violationsOfDependent follow rest place fields

end

end Schema

end ScenarioTree
