import ScenarioTree.Pattern.Grammar
import ScenarioTree.Shape.Calendar
import ScenarioTree.Shape.Mail
import ScenarioTree.Shape.Pointer
import ScenarioTree.Shape.Template
import ScenarioTree.Uri.Reading

/-!
# Named shapes of strings

The shapes that a schema can ask of a string by name.
-/

namespace ScenarioTree

/-- A named shape of strings. -/
inductive Shape where
  | date
  | dateTime
  | time
  | email
  | internationalEmail
  | hostname
  | internationalHostname
  | ipv4
  | ipv6
  | uri
  | uriReference
  | uriTemplate
  | iri
  | iriReference
  | pointer
  | relativePointer
  | pattern
  deriving DecidableEq

namespace Shape

/-- All shapes with their names. -/
def names : List (String × Shape) := [
  ("date", date), ("date-time", dateTime), ("time", time), ("email", email),
  ("idn-email", internationalEmail), ("hostname", hostname),
  ("idn-hostname", internationalHostname), ("ipv4", ipv4), ("ipv6", ipv6), ("uri", uri),
  ("uri-reference", uriReference), ("uri-template", uriTemplate), ("iri", iri),
  ("iri-reference", iriReference), ("json-pointer", pointer),
  ("relative-json-pointer", relativePointer), ("regex", pattern)]

/-- The shape with a name. -/
def ofName? (name : String) : Option Shape := names.lookup name

/-- Whether a string has the shape. -/
def admits (shape : Shape) (text : String) : Bool :=
  let characters := text.toList
  let isReference (international : Bool) := (Uri.parse international characters).isOk
  let isAbsolute (international : Bool) :=
    (Uri.parse international characters).toOption.any (·.scheme.isSome)
  match shape with
  | date => isDate characters
  | dateTime => isDateTime characters
  | time => isTime characters
  | email => isEmail characters
  | internationalEmail => isInternationalEmail characters
  | hostname => Host.isName characters
  | internationalHostname => Host.isInternationalName characters
  | ipv4 => isIpv4 characters
  | ipv6 => isIpv6 characters
  | uri => isAbsolute false
  | uriReference => isReference false
  | uriTemplate => isTemplate characters
  | iri => isAbsolute true
  | iriReference => isReference true
  | pointer => Pointer.isPointer characters
  | relativePointer => Pointer.isRelative characters
  | pattern => (Pattern.prepare? characters).isSome

end Shape

end ScenarioTree
