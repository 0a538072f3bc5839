import ScenarioTree.Uri.Reading

/-!
# Resolving resource identifiers

`Uri.normal` is the normal form of a reference: lower-case schemes and hosts, only the escapes that
are needed, and no `.` and `..` in absolute paths. `Uri.resolve` finds what a reference means in a
document with an identifier of its own.
-/

namespace ScenarioTree.Uri

/-! ## Normal forms -/

/-- A text with only the escapes that are needed, these in upper case; in lower case otherwise, if
    that is asked for. -/
def normalText (lower : Bool) : List Char → List Char
  | '%' :: a :: b :: rest =>
    let c := Char.ofNat (Text.hexNumber [a, b])
    if isUnreserved c then (if lower then c.toLower else c) :: normalText lower rest
    else '%' :: a.toUpper :: b.toUpper :: normalText lower rest
  | c :: rest => (if lower then c.toLower else c) :: normalText lower rest
  | [] => []

/-- Folds the `.` and `..` among the parts of a path. The parts before are in reverse. -/
def foldDots : List (List Char) → List (List Char) → List (List Char)
  | before, [] => before.reverse
  | before, [['.']] => ([] :: before).reverse
  | before, [['.', '.']] => ([] :: before.drop 1).reverse
  | before, ['.'] :: rest => foldDots before rest
  | before, ['.', '.'] :: rest => foldDots (before.drop 1) rest
  | before, part :: rest => foldDots (part :: before) rest

/-- A path that begins at the root, with `.` and `..` folded. Other paths stay as they are. -/
def foldPath (path : List Char) : List Char :=
  match path with
  | '/' :: rest => '/' :: List.intercalate ['/'] (foldDots [] (Text.partsAt '/' rest))
  | path => path

/-- The path of a reference, such that it does not look like an authority where there is none. -/
def guardPath (hasAuthority : Bool) (path : List Char) : List Char :=
  match path with
  | '/' :: '/' :: _ => if hasAuthority then path else '/' :: '.' :: path
  | path => path

def Host.normal : Host → Host
  | address groups => address groups
  | literal text => literal text
  | name text => name (normalText true text)

def Authority.normal (authority : Authority) : Authority :=
  { user := authority.user.map (normalText false), host := authority.host.normal,
    port := authority.port.filter (!·.isEmpty) }

/-- The normal form of a reference. -/
def normal (uri : Uri) : Uri :=
  let path := normalText false uri.path
  { scheme := uri.scheme.map (·.map Char.toLower)
    authority := uri.authority.map Authority.normal
    path := if uri.scheme.isSome then guardPath uri.authority.isSome (foldPath path) else path
    query := uri.query.map (normalText false)
    fragment := uri.fragment.map (normalText false) }

/-! ## Resolution -/

/-- Why a reference has no meaning in a document. -/
inductive ResolutionFault where
  /-- The identifier of the document names a part of it. -/
  | baseWithFragment
  /-- The identifier of the document has no hierarchy in which a relative reference could be found.
      -/
  | withoutHierarchy
  deriving DecidableEq

/-- The wording of a fault. -/
def ResolutionFault.message : ResolutionFault → String
  | baseWithFragment => "base URI/IRI with fragment"
  | withoutHierarchy =>
    "relative reference must be empty or start with '#' when resolved against " ++
      "authority-less base with rootless path"

/-- The path of a relative reference, seen from a document. -/
def mergePath (base : Uri) (path : List Char) : List Char :=
  if base.authority.isSome && base.path.isEmpty then '/' :: path
  else (base.path.reverse.dropWhile (· != '/')).reverse ++ path

/-- What a reference means in a document with an identifier, if the identifier has a hierarchy. -/
def locate (base uri : Uri) : Uri :=
  if uri.scheme.isSome then uri
  else if uri.authority.isSome then { uri with scheme := base.scheme }
  else if uri.path.isEmpty then
    { base with query := uri.query.or base.query, fragment := uri.fragment }
  else
    let path := if uri.path.head? == some '/' then uri.path else mergePath base uri.path
    { uri with scheme := base.scheme, authority := base.authority, path }

/-- What a reference means in a document with an identifier, in normal form. -/
def resolve (base uri : Uri) : Except ResolutionFault Uri :=
  let hasHierarchy := base.authority.isSome || base.path.head? == some '/'
  let isPart := uri.authority.isNone && uri.path.isEmpty && uri.query.isNone
  if base.fragment.isSome then .error .baseWithFragment
  else if !hasHierarchy && uri.scheme.isNone && !isPart then .error .withoutHierarchy
  else .ok (locate base uri).normal

end ScenarioTree.Uri
