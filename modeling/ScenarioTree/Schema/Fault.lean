import ScenarioTree.Schema.Violation
import ScenarioTree.Uri.Resolution

/-!
# Faults of schemas

Why a schema cannot be used, and the wording of it.
-/

namespace ScenarioTree

/-- Why a schema cannot be used. -/
inductive SchemaFault where
  /-- It violates the schema of schemas. -/
  | malformed (violation : Violation)
  /-- A keyword has no meaning with its value. -/
  | unreadable (breach : Breach)
  | unknownDraft (name : String)
  /-- A text does not identify anything. -/
  | badIdentifier (text : String) (fault : Uri.Fault)
  /-- A text does not identify anything in a document with an identifier. -/
  | unresolvable (text : String) (base : Uri) (fault : Uri.ResolutionFault)
  /-- It refers to a resource outside, which is not fetched. -/
  | unknownResource (resource : Uri)
  /-- A reference in it does not lead to a resource. -/
  | unregistered (resource : Uri)
  | nowhere (pointer : String)
  | badIndex (pointer index : String)
  | badEncoding (pointer : String)
  | unknownName (name : String)
  | badName (name : String)

namespace SchemaFault

/-- Why a resource is not fetched. -/
def retrievalText (resource : Uri) : String :=
  let feature (name kind : String) :=
    s!"\x60{name}\x60 feature or a custom resolver is required to resolve external schemas " ++
      s!"via {kind}"
  match resource.scheme.map String.ofList with
  | some "http" | some "https" => feature "resolve-http" "HTTP"
  | some "file" => feature "resolve-file" "files"
  | scheme => "Unknown scheme " ++ scheme.getD ""

/-- The wording of a resource that is not there. -/
def absenceText (resource : Uri) (cause : String) : String :=
  s!"Resource '{resource.text}' is not present in a registry and retrieving it failed: " ++ cause

/-- The wording of a fault. -/
def message : SchemaFault → String
  | .malformed violation => violation.message
  | .unreadable breach => breach.message
  | .unknownDraft name => "Unknown specification: " ++ name
  | .badIdentifier text fault => s!"Invalid URI reference '{text}': {fault.message}"
  | .unresolvable text base fault =>
    s!"Failed to resolve '{text}' against '{base.text}': {fault.message}"
  | .unknownResource resource => absenceText resource (retrievalText resource)
  | .unregistered resource =>
    absenceText resource
      "Retrieving external resources is not supported once the registry is populated"
  | .nowhere pointer => s!"Pointer '{pointer}' does not exist"
  | .badIndex pointer index => s!"Failed to parse array index '{index}' in pointer '{pointer}'"
  | .badEncoding pointer =>
    s!"Invalid percent encoding in pointer '{pointer}': " ++
      "the decoded bytes do not represent valid UTF-8"
  | .unknownName name => s!"Anchor '{name}' does not exist"
  | .badName name => s!"Anchor '{name}' is invalid"

end SchemaFault

end ScenarioTree
