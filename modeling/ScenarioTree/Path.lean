/-!
# Paths

Slash-separated paths as texts, and the components that a text stands for. Empty parts and `.` parts
mean nothing, except for a `.` that begins a relative path. Two paths name the same entry of a table
when their components are equal.

`Path.normalize` folds `.` and `..` without looking at any directory. A `..` that climbs above the
start of a relative path stays, one above the root is dropped.
-/

namespace ScenarioTree

/-- A path, as it is spelled. -/
structure Path where
  text : String
  deriving DecidableEq, Inhabited

/-- A part of a path that means something. -/
inductive Component where
  | root
  | current
  | parent
  | name (text : String)
  deriving DecidableEq

/-- Splits a text at every slash; there is always at least one part. -/
def splitSlashes : List Char → List (List Char)
  | [] => [[]]
  | '/' :: rest => [] :: splitSlashes rest
  | c :: rest =>
    match splitSlashes rest with
    | [] => [[c]]
    | part :: parts => (c :: part) :: parts

/-- The component that a part stands for, unless it is empty or `.`. -/
def Component.ofPart? (part : List Char) : Option Component :=
  if part = [] ∨ part = ['.'] then none
  else if part = ['.', '.'] then some .parent
  else some (.name (String.ofList part))

/-- The text of a component that is not the root. -/
def Component.text : Component → String
  | .root => ""
  | .current => "."
  | .parent => ".."
  | .name text => text

/-- Splits a name before its last dot. A dot that begins the name does not count. -/
def splitAtDot {α : Type} [BEq α] (dot : α) (name : List α) : List α × Option (List α) :=
  let reversed := name.reverse
  let extension := reversed.takeWhile (· != dot)
  match reversed.drop extension.length with
  | _ :: stem@(_ :: _) => (stem.reverse, some extension.reverse)
  | _ => (name, none)

namespace Path

/-- The parts between the slashes, empty ones included. -/
def parts (p : Path) : List (List Char) := splitSlashes p.text.toList

/-- Whether the path starts at the root. -/
def isAbsolute (p : Path) : Bool := p.text.toList.head? == some '/'

/-- The components of a path. -/
def components (p : Path) : List Component :=
  let named := p.parts.filterMap Component.ofPart?
  if p.isAbsolute then .root :: named
  else if p.parts.head? == some ['.'] then .current :: named
  else named

/-- Whether two paths have the same components. -/
def same (p q : Path) : Bool := p.components == q.components

/-- The path of components: the root, if any, comes first, and slashes divide the others. -/
def ofComponents : List Component → Path
  | .root :: rest => ⟨"/" ++ "/".intercalate (rest.map Component.text)⟩
  | components => ⟨"/".intercalate (components.map Component.text)⟩

/-! ## Joining and taking apart -/

/-- A path seen from a directory: an absolute path stands for itself, any other is written behind
    the directory. -/
def join (base p : Path) : Path :=
  if p.isAbsolute then p
  else if base.text.toList.getLast?.all (· == '/') then ⟨base.text ++ p.text⟩
  else ⟨base.text ++ "/" ++ p.text⟩

/-- Joins a text. -/
def child (base : Path) (text : String) : Path := base.join ⟨text⟩

/-- Whether a part stands for no component behind the start of a path. -/
def isIdle (part : List Char) : Bool := part == [] || part == ['.']

/-- The spelled path without its last component; none for the root and the empty path. The parts
    that mean nothing beside that component go with it. -/
def parent? (p : Path) : Option Path :=
  match p.components with
  | [] | [.root] => none
  | _ =>
    let trim (parts : List (List Char)) := parts.dropWhile isIdle
    let front (parts : List (List Char)) := (trim ((trim parts.reverse).drop 1)).reverse
    let text (parts : List (List Char)) := "/".intercalate (parts.map String.ofList)
    match p.parts with
    | [] :: rest => some ⟨"/" ++ text (front rest)⟩
    | ['.'] :: rest => if rest.all isIdle then some ⟨""⟩ else some ⟨text (['.'] :: front rest)⟩
    | parts => some ⟨text (front parts)⟩

/-- The directory of a path, for joining: empty where the path has no parent. -/
def directory (p : Path) : Path := p.parent?.getD ⟨""⟩

/-- The last component, if it is a name. -/
def fileName? (p : Path) : Option String :=
  match p.components.getLast? with
  | some (.name text) => some text
  | _ => none

/-- Splits a file name before its last dot. A dot that begins the name does not count. -/
def splitName (name : String) : String × Option String :=
  let (stem, extension) := splitAtDot '.' name.toList
  (String.ofList stem, extension.map String.ofList)

/-- The file name without its extension. -/
def stem? (p : Path) : Option String := p.fileName?.map fun name => (splitName name).1

/-- The extension of the file name; empty if there is none. -/
def extension (p : Path) : String := (p.fileName?.bind fun name => (splitName name).2).getD ""

/-! ## Normal form -/

/-- Adds a component to a normal form, whose components are in reverse. -/
def stepNormal (reversed : List Component) : Component → List Component
  | .root => [.root]
  | .current => reversed
  | .name text => .name text :: reversed
  | .parent =>
    match reversed with
    | .name _ :: rest => rest
    | [.root] => [.root]
    | reversed => .parent :: reversed

/-- The components of the normal form. -/
def normalComponents (p : Path) : List Component :=
  (p.components.foldl stepNormal []).reverse

/-- The path with `.` and `..` folded, without looking at any directory. -/
def normalize (p : Path) : Path := ofComponents p.normalComponents

/-! ## Targets of references -/

/-- Whether a target is spelled relative to the document that names it. -/
def isRelativeTarget (target : String) : Bool :=
  ['.', '/'].isPrefixOf target.toList || ['.', '.', '/'].isPrefixOf target.toList

/-- The path of a target named by a document in a directory. -/
def locate (base : Path) (target : String) : Path :=
  if isRelativeTarget target then (base.child target).normalize else ⟨target⟩

end Path

end ScenarioTree
