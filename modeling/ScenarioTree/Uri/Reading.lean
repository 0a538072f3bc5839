import ScenarioTree.Text.Parts
import ScenarioTree.Uri.Basic

/-!
# Reading resource identifiers

A text is read from its start to its end, part by part. Where it cannot be read, the fault tells the
place: the number of bytes before it.

International identifiers may hold characters beyond ASCII.
-/

namespace ScenarioTree.Uri

/-- Why a text is no reference. -/
inductive Fault where
  | unexpected (index : Nat)
  | badEscape (index : Nat)
  | badAddress (index : Nat)
  deriving DecidableEq

/-- The wording of a fault. -/
def Fault.message : Fault → String
  | unexpected index => s!"unexpected character at index {index}"
  | badEscape index => s!"invalid percent-encoded octet at index {index}"
  | badAddress index => s!"invalid IPv6 address at index {index}"

/-- A place in a text: the number of bytes before it, and what is behind it. -/
structure Rest where
  index : Nat
  text : List Char

/-- How many bytes a text takes. -/
def byteCount (text : List Char) : Nat := text.foldr (fun c count => c.utf8Size + count) 0

/-- The place behind a number of characters. -/
def Rest.skip (rest : Rest) (count : Nat) : Rest :=
  ⟨rest.index + byteCount (rest.text.take count), rest.text.drop count⟩

/-! ## Characters -/

/-- Whether a character beyond ASCII may stand in an international identifier. -/
def isInternational (c : Char) : Bool :=
  let n := c.toNat
  (0xA0 ≤ n && n ≤ 0xD7FF) || (0xF900 ≤ n && n ≤ 0xFDCF) || (0xFDF0 ≤ n && n ≤ 0xFFEF)
    || (0x10000 ≤ n && n ≤ 0xEFFFD && n % 0x10000 ≤ 0xFFFD && !(0xE0000 ≤ n && n < 0xE1000))

/-- Whether a character is left to private agreements. -/
def isPrivate (c : Char) : Bool :=
  let n := c.toNat
  (0xE000 ≤ n && n ≤ 0xF8FF) || (0xF0000 ≤ n && n % 0x10000 ≤ 0xFFFD)

/-- Whether an ASCII character stands for itself everywhere. -/
def isUnreserved (c : Char) : Bool := c.isAlphanum || "-._~".toList.contains c

/-- Whether a character may stand in a name: one that stands for itself, or a delimiter. -/
def isNameCharacter (international : Bool) (c : Char) : Bool :=
  isUnreserved c || "!$&'()*+,;=".toList.contains c || (international && isInternational c)

/-- Whether a character may stand in a path. -/
def isPathCharacter (international : Bool) (c : Char) : Bool :=
  isNameCharacter international c || c == ':' || c == '@' || c == '/'

/-- Whether a character may stand in a fragment. -/
def isFragmentCharacter (international : Bool) (c : Char) : Bool :=
  isPathCharacter international c || c == '?'

/-- Whether a character may stand in a query. -/
def isQueryCharacter (international : Bool) (c : Char) : Bool :=
  isFragmentCharacter international c || (international && isPrivate c)

def isSchemeCharacter (c : Char) : Bool := c.isAlphanum || c == '+' || c == '-' || c == '.'

/-- Reads the characters of a kind, and escapes of two hexadecimal digits behind a percent sign. -/
def readCharacters (isAllowed : Char → Bool) (index : Nat) :
    List Char → Except Fault (List Char × Rest)
  | [] => .ok ([], ⟨index, []⟩)
  | '%' :: a :: b :: rest =>
    if Text.isHexDigit a && Text.isHexDigit b then do
      let (more, rest) ← readCharacters isAllowed (index + 3) rest
      return ('%' :: a :: b :: more, rest)
    else .error (.badEscape index)
  | c :: rest =>
    if c = '%' then .error (.badEscape index)
    else if isAllowed c then do
      let (more, rest) ← readCharacters isAllowed (index + c.utf8Size) rest
      return (c :: more, rest)
    else .ok ([], ⟨index, c :: rest⟩)

/-- Reads the characters of a kind, and escapes, from a place on. -/
def Rest.read (rest : Rest) (isAllowed : Char → Bool) : Except Fault (List Char × Rest) :=
  readCharacters isAllowed rest.index rest.text

/-! ## Addresses -/

/-- Reads a number from 0 to 255. It ends behind a zero at its start. -/
def readOctet? (text : List Char) : Option (Nat × List Char) :=
  match text with
  | '0' :: rest => some (0, rest)
  | text =>
    let digits := (text.take 3).takeWhile Char.isDigit
    let number := digits.foldl (fun n c => 10 * n + (c.toNat - 0x30)) 0
    if digits.isEmpty || 255 < number then none else some (number, text.drop digits.length)

/-- Reads some more numbers from 0 to 255, each behind a dot. -/
def readOctets? : Nat → List Char → Option (List Nat × List Char)
  | 0, text => some ([], text)
  | count + 1, '.' :: rest => do
    let (number, rest) ← readOctet? rest
    let (numbers, rest) ← readOctets? count rest
    return (number :: numbers, rest)
  | _, _ => none

/-- The next part of an address. -/
inductive AddressPart where
  | group (value : Nat) (behindColon : Bool) (rest : List Char)
  /-- Two colons, for some groups. -/
  | gap (rest : List Char)
  /-- Four numbers. -/
  | numbers (behindColon : Bool) (text : List Char)
  | colon
  | nothing

/-- The part that a text starts with. -/
def AddressPart.of (text : List Char) : AddressPart :=
  let (behindColon, text) := match text with
    | ':' :: rest => (true, rest)
    | text => (false, text)
  let digits := (text.take 4).takeWhile Text.isHexDigit
  let rest := text.drop digits.length
  if digits.isEmpty then
    match behindColon, text with
    | true, ':' :: rest => gap rest
    | true, _ => colon
    | false, _ => nothing
  else if digits.length < 4 ∧ rest.head? = some '.' then numbers behindColon text
  else group (Text.hexNumber digits) behindColon rest

/-- The eight groups of an address with a gap behind some of its groups, or without one. -/
def fillGap? (groups : List Nat) (gap : Option Nat) : Option (List Nat) :=
  match gap with
  | none => if groups.length = 8 then some groups else none
  | some i =>
    if groups.length < 8 then
      some (groups.take i ++ List.replicate (8 - groups.length) 0 ++ groups.drop i)
    else none

/-- Reads an address behind some of its groups. The bound is on the number of parts. -/
def readAddressFrom? : Nat → List Nat → Option Nat → List Char → Option (List Nat × List Char)
  | 0, _, _, _ => none
  | bound + 1, groups, gap, text =>
    let count := groups.length
    let done : Option (List Nat × List Char) := (fillGap? groups gap).map (·, text)
    if 8 ≤ count then done
    else
      match AddressPart.of text with
      | .group value behindColon rest =>
        if behindColon = (count = 0 || gap = some count) then none
        else readAddressFrom? bound (groups ++ [value]) gap rest
      | .gap rest => if gap.isSome then none else readAddressFrom? bound groups (some count) rest
      | .numbers behindColon text =>
        if 6 < count ∨ behindColon = decide (gap = some count) then none
        else do
          let (first, rest) ← readOctet? text
          let (others, rest) ← readOctets? 3 rest
          match first :: others with
          | [a, b, c, d] =>
            return (← fillGap? (groups ++ [256 * a + b, 256 * c + d]) gap, rest)
          | _ => none
      | .colon => none
      | .nothing => done

/-- Whether a text starts like an address. -/
def startsAddress (text : List Char) : Bool :=
  match AddressPart.of text with
  | .nothing | .numbers false _ => false
  | _ => true

/-! ## Authorities -/

/-- Reads an address of a kind of its own: a version and a text. -/
def readOwnAddress (rest : Rest) : Except Fault (Host × Rest) :=
  match rest.text with
  | v :: behind =>
    let version := behind.takeWhile Text.isHexDigit
    let afterVersion := rest.skip (version.length + 1)
    if v != 'v' && v != 'V' then .error (.unexpected rest.index)
    else
      match version, afterVersion.text with
      | _ :: _, '.' :: name =>
        let name := name.takeWhile fun c => isNameCharacter false c || c == ':'
        let after := afterVersion.skip (name.length + 1)
        if name.isEmpty then .error (.unexpected after.index)
        else .ok (.literal (v :: version ++ '.' :: name), after)
      | _, _ => .error (.unexpected afterVersion.index)
  | [] => .error (.unexpected rest.index)

/-- Reads an address behind its opening bracket, with the closing one. -/
def readAddress (rest : Rest) : Except Fault (Host × Rest) := do
  let (host, after) ← match readAddressFrom? 10 [] none rest.text with
    | some (groups, behind) =>
      pure (Host.address groups, rest.skip (rest.text.length - behind.length))
    | none =>
      if startsAddress rest.text then throw (.badAddress rest.index) else readOwnAddress rest
  match after.text with
  | ']' :: _ => return (host, after.skip 1)
  | _ => throw (.unexpected after.index)

/-- Reads a host. -/
def readHost (international : Bool) (rest : Rest) : Except Fault (Host × Rest) :=
  match rest.text with
  | '[' :: _ => readAddress (rest.skip 1)
  | _ => do
    let (name, rest) ← rest.read (isNameCharacter international)
    return (.name name, rest)

/-- Reads a port, if there is one. -/
def readPort (rest : Rest) : Option (List Char) × Rest :=
  match rest.text with
  | ':' :: behind =>
    let port := behind.takeWhile Char.isDigit
    (some port, rest.skip (port.length + 1))
  | _ => (none, rest)

/-- The authority of a text without a user: a host, and a port behind a colon. The index is the
    place of the text. -/
def splitPort (index : Nat) (text : List Char) : Except Fault Authority :=
  match Text.cutAtLast? ':' text with
  | none => .ok ⟨none, .name text, none⟩
  | some (host, port) =>
    let colon := index + byteCount host
    if host.contains ':' then .error (.unexpected colon)
    else if port.all Char.isDigit then .ok ⟨none, .name host, some port⟩
    else .error (.unexpected (colon + 1 + (port.takeWhile Char.isDigit).length))

/-- Reads an authority behind its two slashes. -/
def readAuthority (international : Bool) (rest : Rest) : Except Fault (Authority × Rest) := do
  let (text, after) ← rest.read fun c => isNameCharacter international c || c == ':'
  match after.text, text with
  | '@' :: _, user =>
    let (host, after) ← readHost international (after.skip 1)
    let (port, after) := readPort after
    return (⟨some user, host, port⟩, after)
  | '[' :: _, [] =>
    let (host, after) ← readHost international rest
    let (port, after) := readPort after
    return (⟨none, host, port⟩, after)
  | _, text => return (← splitPort rest.index text, after)

/-! ## References -/

/-- Reads what follows a mark, if the mark comes next. -/
def readBehind (mark : Char) (isAllowed : Char → Bool) (rest : Rest) :
    Except Fault (Option (List Char) × Rest) :=
  match rest.text with
  | c :: _ =>
    if c = mark then do
      let (text, rest) ← (rest.skip 1).read isAllowed
      return (some text, rest)
    else .ok (none, rest)
  | [] => .ok (none, rest)

/-- Reads the path, the query and the fragment of a reference that has been read up to there. Behind
    an authority a path starts with a slash; without a scheme and an authority there is no colon in
    the first part of it. -/
def readPath (international : Bool) (scheme : Option (List Char)) (authority : Option Authority)
    (rest : Rest) : Except Fault Uri := do
  let (path, after) ← rest.read (isPathCharacter international)
  if authority.isSome && path.head?.any (· != '/') then throw (.unexpected rest.index)
  let (query, after) ← readBehind '?' (isQueryCharacter international) after
  let (fragment, after) ← readBehind '#' (isFragmentCharacter international) after
  if after.text.isEmpty then return ⟨scheme, authority, path, query, fragment⟩
  else throw (.unexpected after.index)

/-- Reads a reference with its scheme up to the authority, if it has one. -/
def readHierarchy (international : Bool) (scheme : Option (List Char)) (rest : Rest) :
    Except Fault Uri :=
  match rest.text with
  | '/' :: '/' :: _ => do
    let (authority, rest) ← readAuthority international (rest.skip 2)
    readPath international scheme (some authority) rest
  | _ => readPath international scheme none rest

/-- Reads a reference without a scheme. Its path has no colon in its first part. -/
def readRelative (international : Bool) (text : List Char) : Except Fault Uri := do
  let isPlain (c : Char) := isPathCharacter international c && c != ':' && c != '/'
  let (_, after) ← readCharacters isPlain 0 text
  if after.text.head? = some ':' then throw (.unexpected after.index)
  readHierarchy international none ⟨0, text⟩

/-- The reference that a text stands for. -/
def parse (international : Bool) (text : List Char) : Except Fault Uri :=
  let scheme := text.takeWhile isSchemeCharacter
  match text.drop scheme.length with
  | ':' :: rest =>
    if scheme.head?.any Char.isAlpha then
      readHierarchy international (some scheme) ⟨scheme.length + 1, rest⟩
    else .error (.unexpected 0)
  | _ => readRelative international text

end ScenarioTree.Uri
