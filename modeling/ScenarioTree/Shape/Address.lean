import ScenarioTree.Text.Parts
import ScenarioTree.Text.Ranges

/-!
# Addresses

The written forms of the addresses of hosts: four numbers from 0 to 255, or eight groups of
hexadecimal digits.
-/

namespace ScenarioTree.Shape

/-- Whether a text is a number from 0 to 255 without leading zeros. -/
def isOctet (text : List Char) : Bool :=
  !text.isEmpty && text.length ≤ 3 && text.all Char.isDigit
    && (text.length == 1 || text.head? != some '0')
    && text.foldl (fun n c => 10 * n + (c.toNat - 0x30)) 0 ≤ 255

/-- Whether a text is an address of four numbers. -/
def isIpv4 (text : List Char) : Bool :=
  let parts := Text.partsAt '.' text
  parts.length == 4 && parts.all isOctet

/-- How many groups of an address a list of parts stands for. Four numbers at the end stand for two
    groups. -/
def groupCount? : List (List Char) → Option Nat
  | [] => some 0
  | [last] =>
    if isIpv4 last then some 2
    else if !last.isEmpty && last.length ≤ 4 && last.all Text.isHexDigit then some 1
    else none
  | part :: rest =>
    if !part.isEmpty && part.length ≤ 4 && part.all Text.isHexDigit then
      (groupCount? rest).map (· + 1)
    else none

/-- What is before and behind the first double colon. -/
def splitDoubleColon : List Char → Option (List Char × List Char)
  | ':' :: ':' :: rest => some ([], rest)
  | c :: rest => (splitDoubleColon rest).map fun (before, behind) => (c :: before, behind)
  | [] => none

/-- Whether a text is an address of eight groups, of which a double colon may leave out some. -/
def isIpv6 (text : List Char) : Bool :=
  let count? (text : List Char) :=
    if text.isEmpty then some 0 else groupCount? (Text.partsAt ':' text)
  match splitDoubleColon text with
  | none => groupCount? (Text.partsAt ':' text) == some 8
  | some (before, behind) =>
    match count? before, count? behind with
    | some m, some n => m + n ≤ 7 && !(before.contains '.')
    | _, _ => false

end ScenarioTree.Shape
