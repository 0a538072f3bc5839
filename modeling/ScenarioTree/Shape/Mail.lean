import ScenarioTree.Host.Name
import ScenarioTree.Shape.Address
import ScenarioTree.Text.Alphanumeric

/-!
# Addresses of mailboxes

The written form of an address: the name of a mailbox, an `@`, and the name of its host, or an
address of the host in brackets. The whole may stand in angle brackets, with any text in front.

The name of a mailbox consists of words with dots between them, or of any text in quotes.
-/

namespace ScenarioTree.Shape

/-! ## Characters -/

/-- Whether the two bytes of the number of a character look like a written character of two
    bytes. -/
def isBytePair (c : Char) : Bool :=
  let high := c.toNat / 0x100
  0xC2 ≤ high && high ≤ 0xDF && 0x80 ≤ c.toNat % 0x100 && c.toNat % 0x100 ≤ 0xBF

/-- Whether a character may stand in a word. -/
def isWordCharacter (c : Char) : Bool :=
  Text.isAlphanumeric c || "!#$%&'*+-/=?^_\x60\x7b|\x7d~".toList.contains c || isBytePair c

/-- Whether a text consists of characters that may stand in quotes. A backslash makes any visible
    character stand for itself. -/
def isQuotable : List Char → Bool
  | [] => true
  | '\\' :: c :: rest => '!' ≤ c && c ≤ '~' && isQuotable rest
  | c :: rest =>
    (c == '\t' || (' ' ≤ c && c ≤ '~' && c != '"' && c != '\\') || isBytePair c)
      && isQuotable rest

/-! ## Parts of an address -/

/-- How many bytes a text takes. -/
def byteCount (text : List Char) : Nat := text.foldr (fun c count => c.utf8Size + count) 0

def isWord (text : List Char) : Bool := !text.isEmpty && text.all isWordCharacter

/-- Whether a text is the name of a mailbox. -/
def isMailbox (text : List Char) : Bool :=
  byteCount text ≤ 64 &&
    match text with
    | '"' :: rest =>
      if rest.isEmpty || rest.getLast? != some '"' then false
      else 1 < rest.length && isQuotable rest.dropLast
    | text => (Text.partsAt '.' text).all isWord

/-- Whether a text is a word of the name of a host. -/
def isHostWord (text : List Char) : Bool :=
  isWord text && byteCount text ≤ 63 && text.head?.any Text.isAlphanumeric
    && text.getLast?.any Text.isAlphanumeric

/-- Whether a text is the host of a mailbox. Names of hosts have to satisfy a condition. -/
def isMailHost (isName : List Char → Bool) (text : List Char) : Bool :=
  byteCount text ≤ 254 &&
    match text with
    | '[' :: rest =>
      rest.getLast? == some ']' &&
        match rest.dropLast with
        | 'I' :: 'P' :: 'v' :: '6' :: ':' :: address => isIpv6 address
        | address => isIpv4 address
    | text => (Text.partsAt '.' text).all isHostWord && isName text

/-! ## Addresses -/

/-- Splits a text at the last place where an angle bracket opens behind a space. -/
def cutAtBracket? : List Char → Option (List Char × List Char)
  | [] => none
  | c :: rest =>
    match cutAtBracket? rest with
    | some (before, behind) => some (c :: before, behind)
    | none =>
      match c, rest with
      | ' ', '<' :: behind => some ([], behind)
      | _, _ => none

/-- The address in a text: what stands in angle brackets at its end, or else all of it. -/
def bareAddress? (text : List Char) : Option (List Char) :=
  match cutAtBracket? text with
  | none => some text
  | some (_, behind) =>
    let behind := Text.trimEnd (Text.trimStart behind)
    if behind.getLast? = some '>' then some behind.dropLast else none

/-- Whether a text is an address of a mailbox. The names of hosts have to satisfy a condition. -/
def isMailAddress (isName : List Char → Bool) (text : List Char) : Bool :=
  match (bareAddress? text).bind (Text.cutAtLast? '@') with
  | some (mailbox, host) => isMailbox mailbox && isMailHost isName host
  | none => false

/-- Whether a text is an address of a mailbox of a host with a plain name. -/
def isEmail : List Char → Bool := isMailAddress Host.isName

/-- Whether a text is an address of a mailbox of a host with an international name. -/
def isInternationalEmail : List Char → Bool := isMailAddress Host.isInternationalName

end ScenarioTree.Shape
