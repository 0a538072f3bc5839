import ScenarioTree.Pattern.Escape

/-!
# Members of sets

What stands between brackets in a pattern: characters and ranges of them, escapes, named sets such
as `[:alpha:]`, other brackets, and operations on sets: `&&`, `--` and `~~`. A hyphen that comes
first or last is a character, and so is a bracket that closes nothing.

`readMembers` reads what is written, and `Members.set?` is the set of it. Where case is ignored, the
characters of every pair of brackets are joined by their variants before it is negated, and so are
the sets that an operation goes over.
-/

namespace ScenarioTree.Pattern

/-- An operation on two sets. -/
inductive SetOperation where
  | intersection
  | difference
  | symmetricDifference
  deriving DecidableEq

/-- What stands between brackets. -/
inductive Members where
  | nothing
  | range (low high : Char)
  | common (set : CommonSet) (negated : Bool)
  /-- A named set of ASCII characters. -/
  | ascii (name : String) (negated : Bool)
  | property (name : List Char) (value : Option (List Char)) (negated : Bool)
  | both (first second : Members)
  | bracket (negated : Bool) (members : Members)
  | operation (kind : SetOperation) (first second : Members)

namespace Members

/-- All members of a list. -/
def ofList : List Members → Members
  | [] => nothing
  | [member] => member
  | member :: rest => both member (ofList rest)

/-- How deep brackets, operations and lists of members nest. The rest of a list is no deeper than
    the list. -/
def depthIn (inList : Bool) : Members → Nat
  | both first second => (if inList then 0 else 1) + max (first.depthIn false) (second.depthIn true)
  | bracket _ members => members.depthIn false + 1
  | operation _ first second => max (first.depthIn false) (second.depthIn false) + 1
  | _ => 0

/-! ## Sets -/

/-- The named sets of ASCII characters. -/
def asciiSets : List (String × CharacterSet) := [
  ("alnum", .ofTable "30-39 41-5A 61-7A"), ("alpha", .ofTable "41-5A 61-7A"),
  ("ascii", .ofTable "0-7F"), ("blank", .ofTable "9 20"), ("cntrl", .ofTable "0-1F 7F"),
  ("digit", .ofTable "30-39"), ("graph", .ofTable "21-7E"), ("lower", .ofTable "61-7A"),
  ("print", .ofTable "20-7E"), ("punct", .ofTable "21-2F 3A-40 5B-60 7B-7E"),
  ("space", .ofTable "9-D 20"), ("upper", .ofTable "41-5A"),
  ("word", .ofTable "30-39 41-5A 5F 61-7A"),
  ("xdigit", .ofTable "30-39 41-46 61-66")]

/-- The characters of words: letters, marks, digits, what connects them and what joins them. -/
def wordSet : CharacterSet :=
  .unions [Text.alphabetic, Text.categories ["mn", "mc", "me", "nd", "pc"], .ofTable "200C-200D"]

/-- A set together with the variants of its characters, if case is ignored. -/
def folded (ignoresCase : Bool) (set : CharacterSet) : CharacterSet :=
  if ignoresCase then .anyCase set else set

/-- The set that is named by a letter: a small one in plain patterns, and else all characters that
    count as such. -/
def commonSet (isPlain ignoresCase : Bool) (set : CommonSet) (negated : Bool) : CharacterSet :=
  .negatedIf negated <|
    if isPlain then
      folded ignoresCase <| match set with
        | .digit => .ofTable "30-39"
        | .blank => .ofTable "9-D 20 A0 2003 2029 FEFF"
        | .word => .ofTable "30-39 41-5A 5F 61-7A"
    else
      match set with
      | .digit => Text.category "nd"
      | .blank => .ranges Text.blankRanges
      | .word => wordSet

/-- The set of characters with a property. -/
def propertySet? (ignoresCase : Bool) (name : List Char) (value : Option (List Char))
    (negated : Bool) : Option CharacterSet :=
  let set := match value with
    | none => Text.propertySet? name
    | some value => Text.propertyValueSet? name value
  set.map fun set => .negatedIf negated (folded ignoresCase set)

/-- The operation on sets. -/
def operate : SetOperation → CharacterSet → CharacterSet → CharacterSet
  | .intersection => .intersection
  | .difference => .difference
  | .symmetricDifference => .symmetricDifference

/-- The set of the members, if their names are known. -/
def set? (isPlain ignoresCase : Bool) : Members → Option CharacterSet
  | nothing => some .empty
  | range low high => some (.ranges [(low.toNat, high.toNat)])
  | common set negated => some (commonSet isPlain ignoresCase set negated)
  | ascii name negated =>
    (asciiSets.lookup name).map fun set => .negatedIf negated (folded ignoresCase set)
  | property name value negated => propertySet? ignoresCase name value negated
  | both first second => do
    return .union (← first.set? isPlain ignoresCase) (← second.set? isPlain ignoresCase)
  | bracket negated members =>
    (members.set? isPlain ignoresCase).map fun set => .negatedIf negated (folded ignoresCase set)
  | operation kind first second => do
    return operate kind (folded ignoresCase (← first.set? isPlain ignoresCase))
      (folded ignoresCase (← second.set? isPlain ignoresCase))

end Members

/-! ## Reading -/

/-- One character as a member. -/
def Members.only (c : Char) : Members := .range c c

/-- An escape as a member. Conditions on places are none. -/
def Escape.member : Escape → Except Stop Members
  | .character c => .ok (.only c)
  | .bell => .ok (.only '\x07')
  | .common set negated => .ok (.common set negated)
  | .property name value negated => .ok (.property name value negated)
  | .position => .error .malformed

/-- Reads a character or an escape. -/
def readSingle (spaced : Bool) (text : List Char) : Except Stop (Escape × List Char) :=
  match text with
  | [] => .error .malformed
  | '\\' :: rest => readEscape spaced rest
  | c :: rest => .ok (.character c, rest)

/-- The character behind a hyphen. Of blanks and comments, only the blanks and the mark of a comment
    are skipped. -/
def behindHyphen? (spaced : Bool) (text : List Char) : Option Char :=
  if spaced then
    match text.dropWhile Text.isBlank with
    | '#' :: rest => (rest.dropWhile Text.isBlank).head?
    | text => text.head?
  else text.head?

/-- Reads a single member, or a range. -/
def readMember (spaced : Bool) (text : List Char) : Except Stop (Members × List Char) := do
  let (first, rest) ← readSingle spaced text
  match dropBlanksIf spaced rest with
  | [] => throw .malformed
  | '-' :: behind =>
    if (behindHyphen? spaced behind).any (fun c => c == ']' || c == '-') then
      return (← first.member, '-' :: behind)
    else
      let (second, rest) ← readSingle spaced (dropBlanksIf spaced behind)
      match first.character?, second.character? with
      | some low, some high =>
        if low ≤ high then return (.range low high, rest) else throw .malformed
      | _, _ => throw .malformed
  | rest => return (← first.member, rest)

/-- Reads the name of a set behind its opening bracket, with the colons and the closing bracket. -/
def readNamedSet? (text : List Char) : Option (Members × List Char) :=
  match text with
  | ':' :: rest => do
    let (negated, rest) := match rest with
      | '^' :: rest => (true, rest)
      | rest => (false, rest)
    let (name, behind) ← Text.cutAt? ':' rest
    let name := String.ofList name
    match behind with
    | ']' :: behind =>
      if (Members.asciiSets.lookup name).isSome then some (.ascii name negated, behind) else none
    | _ => none
  | _ => none

/-- Reads the hyphens at the start of a set, as characters. -/
def readHyphens (spaced : Bool) : Nat → List Char → List Members × List Char
  | 0, text => ([], text)
  | bound + 1, text =>
    match dropBlanksIf spaced text with
    | '-' :: rest =>
      let (hyphens, rest) := readHyphens spaced bound rest
      (.only '-' :: hyphens, rest)
    | text => ([], text)

/-- Reads the start of a set behind its bracket: whether it is negated, and the members that would
    have another meaning further behind. -/
def readSetStart (spaced : Bool) (text : List Char) : Bool × List Members × List Char :=
  let (negated, text) := match dropBlanksIf spaced text with
    | '^' :: rest => (true, rest)
    | text => (false, text)
  match readHyphens spaced (text.length + 1) text with
  | ([], ']' :: rest) => (negated, [.only ']'], rest)
  | (hyphens, rest) => (negated, hyphens, rest)

/-- The members before an operation, and the operation. -/
abbrev Pending := Option (SetOperation × Members)

/-- Puts members to those before an operation. -/
def Pending.close (pending : Pending) (members : List Members) : Members :=
  match pending with
  | none => .ofList members
  | some (operation, before) => .operation operation before (.ofList members)

/-- The operation at the start of a text. -/
def operation? : List Char → Option (SetOperation × List Char)
  | '&' :: '&' :: rest => some (.intersection, rest)
  | '-' :: '-' :: rest => some (.difference, rest)
  | '~' :: '~' :: rest => some (.symmetricDifference, rest)
  | _ => none

/-- Reads members up to the closing bracket. The bound is on the number of members. -/
def readMembers (spaced : Bool) :
    Nat → Pending → List Members → List Char → Except Stop (Members × List Char)
  | 0, _, _, _ => .error .malformed
  | bound + 1, pending, members, text =>
    match dropBlanksIf spaced text with
    | [] => .error .malformed
    | ']' :: rest => .ok (pending.close members, rest)
    | '[' :: rest =>
      match readNamedSet? rest with
      | some (member, rest) => readMembers spaced bound pending (members ++ [member]) rest
      | none => do
        let (negated, first, rest) := readSetStart spaced rest
        let (inner, rest) ← readMembers spaced bound none first rest
        readMembers spaced bound pending (members ++ [.bracket negated inner]) rest
    | text =>
      match operation? text with
      | some (operation, rest) =>
        readMembers spaced bound (some (operation, pending.close members)) [] rest
      | none => do
        let (member, rest) ← readMember spaced text
        readMembers spaced bound pending (members ++ [member]) rest

/-- Reads a set behind its opening bracket. -/
def readSet (spaced : Bool) (text : List Char) : Except Stop (Members × List Char) := do
  let (negated, first, rest) := readSetStart spaced text
  let (inner, rest) ← readMembers spaced (rest.length + 1) none first rest
  return (.bracket negated inner, rest)

end ScenarioTree.Pattern
