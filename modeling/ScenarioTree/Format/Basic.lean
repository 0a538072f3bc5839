/-!
# Document formats

The four formats that documents are written in, and the variables that one of them refers to.
-/

namespace ScenarioTree

/-- A document format. -/
inductive Format where
  | json
  | yaml
  | toml
  /-- Lines of `KEY=value`, read into a flat map of strings. -/
  | dotEnv
  deriving DecidableEq

/-- The name of a format in messages. -/
def Format.name : Format → String
  | .json => "JSON"
  | .yaml => "YAML"
  | .toml => "TOML"
  | .dotEnv => "dotenv"

/-- The variables of a process, as far as their values are texts. -/
abbrev Variables := String → Option String

end ScenarioTree
