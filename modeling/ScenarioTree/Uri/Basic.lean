import ScenarioTree.Text.Ranges

/-!
# Resource identifiers

References to resources: a scheme, an authority, a path, a query and a fragment, of which only the
path is always there. An authority is a host, with a user and a port if there are any.

`Uri.text` is the written form.
-/

namespace ScenarioTree

namespace Uri

/-- A host. -/
inductive Host where
  /-- An address of eight groups of sixteen bits. -/
  | address (groups : List Nat)
  /-- An address of a kind of its own, as it is written between brackets. -/
  | literal (text : List Char)
  | name (text : List Char)
  deriving DecidableEq

/-- Where a resource is. -/
structure Authority where
  user : Option (List Char)
  host : Host
  port : Option (List Char)
  deriving DecidableEq

end Uri

/-- A reference to a resource. Without a scheme it is relative. -/
structure Uri where
  scheme : Option (List Char)
  authority : Option Uri.Authority
  path : List Char
  query : Option (List Char)
  fragment : Option (List Char)
  deriving DecidableEq

namespace Uri

/-! ## Addresses -/

/-- The longest run of groups that are zero, the first one of several: where it starts and how long
    it is. -/
def zeroRun (groups : List Nat) : Nat × Nat :=
  let runFrom (i : Nat) : Nat := ((groups.drop i).takeWhile (· == 0)).length
  (List.range groups.length).foldl
    (fun best i => if best.2 < runFrom i then (i, runFrom i) else best) (0, 0)

/-- Groups with colons between them. -/
def groupsText (groups : List Nat) : List Char :=
  List.intercalate [':'] (groups.map (Nat.toDigits 16))

/-- The shortest written form of an address: the longest run of zeros is left out, and the addresses
    that stand for four numbers end in these. -/
def addressText (groups : List Nat) : List Char :=
  match groups with
  | [0, 0, 0, 0, 0, 0xFFFF, high, low] =>
    "::ffff:".toList
      ++ List.intercalate ['.']
        ([high / 256, high % 256, low / 256, low % 256].map (Nat.toDigits 10))
  | groups =>
    let (start, length) := zeroRun groups
    if length ≤ 1 then groupsText groups
    else groupsText (groups.take start) ++ [':', ':'] ++ groupsText (groups.drop (start + length))

/-! ## Texts -/

def Host.text : Host → List Char
  | address groups => '[' :: addressText groups ++ [']']
  | literal text => '[' :: text ++ [']']
  | name text => text

def Authority.text (authority : Authority) : List Char :=
  authority.user.elim [] (· ++ ['@']) ++ authority.host.text ++ authority.port.elim [] (':' :: ·)

/-- The text of a reference. -/
def text (uri : Uri) : String :=
  String.ofList <|
    uri.scheme.elim [] (· ++ [':']) ++ uri.authority.elim [] (['/', '/'] ++ ·.text) ++ uri.path
      ++ uri.query.elim [] ('?' :: ·) ++ uri.fragment.elim [] ('#' :: ·)

/-- The resource without a part of it. -/
def withoutFragment (uri : Uri) : Uri := { uri with fragment := none }

end Uri

end ScenarioTree
