import ScenarioTree.Format.Basic
import ScenarioTree.Text.Alphanumeric
import ScenarioTree.Value

/-!
# Reading environment files

Lines of `KEY=value`. A line goes on where a quote is open at its end; a line that begins with `#`
is passed over, and `#` after a blank begins a comment. A value may be bare, between single quotes,
in which every character stands for itself, or between double quotes; the three can follow each
other. Outside single quotes a backslash escapes a few characters, and `$NAME` or `${NAME}` stands
for the value of a variable: the one that the process has under the name, or else that of an earlier
line of the file.
-/

namespace ScenarioTree.DotEnv

/-! ## Lines -/

/-- What is open at a place of a line. -/
inductive LineState where
  | complete
  | blank
  | escape
  | single
  | singleEscape
  | double
  | doubleEscape
  deriving DecidableEq

/-- The state after a character; none where the character begins a comment. -/
def LineState.next? (state : LineState) (c : Char) : Option LineState :=
  let plain : LineState :=
    if c = '\\' then .escape else if c = '"' then .double else if c = '\'' then .single
    else .complete
  match state with
  | .blank => if c = '#' then none else some plain
  | .escape => some .complete
  | .complete =>
    some (if Text.isBlank c && c != '\n' && c != '\r' then .blank else plain)
  | .double => some (if c = '\\' then .doubleEscape else if c = '"' then .complete else .double)
  | .doubleEscape => some .double
  | .single => some (if c = '\\' then .singleEscape else if c = '\'' then .complete else .single)
  | .singleEscape => some .single

/-- Runs over a line: the state at its end, or the part of it before a comment. -/
def LineState.run (state : LineState) (read : List Char) : List Char → LineState ⊕ List Char
  | [] => .inl state
  | c :: rest =>
    match state.next? c with
    | some state => state.run (c :: read) rest
    | none => .inr read.reverse

/-- The lines of a text, each with its line break. -/
def splitLines : List Char → List (List Char)
  | [] => []
  | '\n' :: rest => ['\n'] :: splitLines rest
  | c :: rest =>
    match splitLines rest with
    | [] => [[c]]
    | line :: lines => (c :: line) :: lines

/-- A line without its line break. -/
def chomp (line : List Char) : List Char :=
  match line.reverse with
  | '\n' :: '\r' :: rest => rest.reverse
  | '\n' :: rest => rest.reverse
  | _ => line

/-! ## Values -/

/-- A variable that is being read: whether it has braces, and its name so far, in reverse. -/
structure Reference where
  braced : Bool
  name : List Char

/-- What has been read of a value. The output is in reverse. -/
structure ValueState where
  output : List Char
  single : Bool := false
  double : Bool := false
  escaped : Bool := false
  ended : Bool := false
  reference : Option Reference := none

def ValueState.start : ValueState := { output := [] }

/-- The keys and values of the lines so far, the last one first. -/
abbrev Lines := List (String × String)

/-- The variables of the process, and behind them the values of the lines so far. -/
def Lines.below (known : Lines) (process : Variables) : Variables := fun name =>
  (process name).or (known.lookup name)

/-- The output with the value of a variable at its end. An unknown variable has no text. -/
def ValueState.substitute (state : ValueState) (known : Variables) (name : List Char) :
    ValueState :=
  let value := (known (String.ofList name.reverse)).getD ""
  { state with output := value.toList.reverse ++ state.output, reference := none }

/-- Reads a character inside of a variable. A character that ends a name without braces is text,
    whatever it is, unless it begins the next variable. -/
def ValueState.readReference (state : ValueState) (known : Variables) (reference : Reference)
    (c : Char) : ValueState :=
  let extended := { state with reference := some { reference with name := c :: reference.name } }
  if Text.isAlphanumeric c then extended
  else if reference.braced then
    if c = '\x7d' then state.substitute known reference.name else extended
  else if c = '\x7b' && reference.name.isEmpty then
    { state with reference := some ⟨true, []⟩ }
  else
    let done := state.substitute known reference.name
    if c = '$' then { done with reference := some ⟨false, []⟩ }
    else { done with output := c :: done.output }

/-- Reads a character outside of variables. -/
def ValueState.readPlain (state : ValueState) (c : Char) : ValueState :=
  if c = '$' then { state with reference := some ⟨false, []⟩ }
  else if state.double then
    if c = '"' then { state with double := false }
    else if c = '\\' then { state with escaped := true }
    else { state with output := c :: state.output }
  else if c = '\'' then { state with single := true }
  else if c = '"' then { state with double := true }
  else if c = '\\' then { state with escaped := true }
  else if c = ' ' || c = '\t' then { state with ended := true }
  else { state with output := c :: state.output }

/-- The character that an escaped character stands for. -/
def unescape? (c : Char) : Option Char :=
  if c = '\\' || c = '\'' || c = '"' || c = '$' || c = ' ' then some c
  else if c = 'n' then some '\n'
  else none

/-- The value that has been read, unless a quote or a brace is open. -/
def ValueState.finish? (state : ValueState) (known : Variables) : Option String :=
  if state.single || state.double || state.reference.any (·.braced) then none
  else
    let name := state.reference.elim [] Reference.name
    some (String.ofList (state.substitute known name).output.reverse)

/-- Reads the rest of a value. After a blank only blanks and a comment may follow. -/
def ValueState.read? (state : ValueState) (known : Variables) : List Char → Option String
  | [] => state.finish? known
  | c :: rest =>
    if state.ended then
      if c = ' ' || c = '\t' then state.read? known rest
      else if c = '#' then state.finish? known
      else none
    else if state.escaped then
      match unescape? c with
      | some c => { state with output := c :: state.output, escaped := false }.read? known rest
      | none => none
    else if state.single then
      if c = '\'' then { state with single := false }.read? known rest
      else { state with output := c :: state.output }.read? known rest
    else
      match state.reference with
      | some reference => (state.readReference known reference c).read? known rest
      | none => (state.readPlain c).read? known rest

/-! ## Assignments -/

/-- Reads a key: an ASCII letter or underscore, then letters, digits, underscores and dots. -/
def key? (line : List Char) : Option (String × List Char) :=
  match line with
  | c :: _ =>
    if c.isAlpha || c == '_' then
      let inKey (c : Char) := c.isAlphanum || c == '_' || c == '.'
      some (String.ofList (line.takeWhile inKey), Text.trimStart (line.dropWhile inKey))
    else none
  | [] => none

/-- The text behind an equals sign. -/
def afterEquals? : List Char → Option (List Char)
  | '=' :: rest => some rest
  | _ => none

/-- Reads the key of a line and its equals sign. The word `export` before the key is passed over,
    unless it is the key. -/
def target? (line : List Char) : Option (String × List Char) := do
  let (key, rest) ← key? line
  match afterEquals? rest with
  | some rest => return (key, rest)
  | none =>
    if key != "export" then none
    else
      let (key, rest) ← key? rest
      return (key, ← afterEquals? rest)

/-- Whether nothing or a comment is left. -/
def isVacant (line : List Char) : Bool := line.isEmpty || line.head? == some '#'

/-- Reads a line with the values of the lines before it, and adds its value to them. -/
def readLine? (process : Variables) (known : Lines) (line : List Char) : Option Lines := do
  let line := Text.trimStart (Text.trimEnd line)
  if isVacant line then return known
  else
    let (key, rest) ← target? line
    let rest := Text.trimStart rest
    let value ← if isVacant rest then some "" else ValueState.start.read? (known.below process) rest
    return (key, value) :: known

/-! ## Files -/

/-- What has been read of a file: what is open, the line that is not finished, and the values. -/
structure FileState where
  state : LineState
  line : List Char
  known : Lines

/-- Takes the next line of a file. -/
def FileState.take? (process : Variables) (file : FileState) (line : List Char) :
    Option FileState := do
  let whole := file.line ++ line
  let finish (line : List Char) : Option FileState :=
    (readLine? process file.known line).map fun known => ⟨.complete, [], known⟩
  if (Text.trimStart whole).head? == some '#' then return ⟨.complete, [], file.known⟩
  else
    match file.state.run [] line with
    | .inl .complete => finish (chomp whole)
    | .inl state => return ⟨state, whole, file.known⟩
    | .inr before => finish (file.line ++ before)

/-- Reads an environment file. Nothing may be open at its end. -/
def parse? (process : Variables) (text : String) : Option Value := do
  let file ← (splitLines text.toList).foldlM (FileState.take? process) ⟨.complete, [], []⟩
  if file.state = .complete then
    return .ofEntries (file.known.reverse.map fun (key, value) => (key, .string value))
  else none

end ScenarioTree.DotEnv
