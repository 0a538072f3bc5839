import ScenarioTree.EntryName
import ScenarioTree.FileError
import ScenarioTree.Format.DotEnv
import ScenarioTree.Format.Json
import ScenarioTree.Format.Toml
import ScenarioTree.Format.Yaml

/-!
# Which format a document has

The format of a document follows from its file name. Documents that others refer to have to be JSON
or YAML.
-/

namespace ScenarioTree.Format

/-- The format that an extension stands for; the case of ASCII letters does not matter. -/
def ofExtension? (extension : String) : Option Format :=
  match String.ofList (extension.toList.map Char.toLower) with
  | "json" => some .json
  | "yaml" | "yml" => some .yaml
  | "toml" => some .toml
  | "env" => some .dotEnv
  | _ => none

/-- The format of a file. A file that is called `.env` needs no extension. -/
def ofPath (path : Path) : Except FileError Format :=
  if path.fileName? = some ".env" then .ok .dotEnv
  else
    match ofExtension? path.extension with
    | some format => .ok format
    | none => .error (.unsupportedFormat path path.extension)

/-- The format of a file that a document refers to. -/
def ofReference (path : Path) : Except FileError Format := do
  match ← ofPath path with
  | .json => return .json
  | .yaml => return .yaml
  | .toml | .dotEnv => throw (.unsupportedFormat path path.extension)

/-- The format of an entry of a directory. -/
def ofEntry (directory : Path) : EntryName → Except FileError Format
  | .text name => ofPath (directory.child name)
  | .broken name =>
    match ofExtension? name.extension with
    | some format => .ok format
    | none => .error (.unsupportedFormat (directory.entry (.broken name)) name.extension)

variable (process : Variables)

/-- Reads a text in a format. Only environment files refer to the variables of the process. -/
def parse? : Format → String → Option Value
  | .json => Json.parse?
  | .yaml => Yaml.parse?
  | .toml => Toml.parse?
  | .dotEnv => DotEnv.parse? process

/-- Reads the text of a file in a format. -/
def parse (format : Format) (text : String) (path : Path) : Except FileError Value :=
  match format.parse? process text with
  | some value => .ok value
  | none => .error (.malformed path format)

end ScenarioTree.Format
