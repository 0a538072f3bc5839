/-!
# Base 64

Bytes in the standard alphabet of 64 characters. Four characters stand for three bytes; the last
four may end in one or two padding characters, and the bits that are left over then are zero.
-/

namespace ScenarioTree.Base64

/-- The number that a character stands for. -/
def digit? (c : Char) : Option Nat :=
  if 'A' ≤ c ∧ c ≤ 'Z' then some (c.toNat - 0x41)
  else if 'a' ≤ c ∧ c ≤ 'z' then some (c.toNat - 0x61 + 26)
  else if c.isDigit then some (c.toNat - 0x30 + 52)
  else if c = '+' then some 62
  else if c = '/' then some 63
  else none

/-- The bytes that a text stands for. -/
def decode? : List Char → Option (List UInt8)
  | [] => some []
  | [a, b, '=', '='] => do
    let (a, b) := (← digit? a, ← digit? b)
    if b % 16 = 0 then some [(a * 4 + b / 16).toUInt8] else none
  | [a, b, c, '='] => do
    let (a, b, c) := (← digit? a, ← digit? b, ← digit? c)
    if c % 4 = 0 then some [(a * 4 + b / 16).toUInt8, (b * 16 + c / 4).toUInt8] else none
  | a :: b :: c :: d :: rest => do
    let (a, b, c, d) := (← digit? a, ← digit? b, ← digit? c, ← digit? d)
    let first := [(a * 4 + b / 16).toUInt8, (b * 16 + c / 4).toUInt8, (c * 64 + d).toUInt8]
    return first ++ (← decode? rest)
  | _ => none

end ScenarioTree.Base64
