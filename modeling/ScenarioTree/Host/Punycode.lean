/-!
# Labels in ASCII

A label with characters beyond ASCII is written in ASCII: its ASCII characters first, and then, in
the digits of a system with 36 of them, where the others go. The others are ordered by code point;
each is given as a distance from the one before, counted over all code points and all places. The
weights of the digits follow the distances that came before.

`encode` writes a label, `decode?` reads one. Neither takes or gives the `xn--` in front of it.
-/

namespace ScenarioTree.Host.Punycode

/-! ## Digits -/

/-- The digit of a value below 36. -/
def digitOf (value : Nat) : Char :=
  Char.ofNat (if value < 26 then 0x61 + value else 0x30 + (value - 26))

/-- The value of a digit. -/
def valueOf? (c : Char) : Option Nat :=
  if 'a' ≤ c ∧ c ≤ 'z' then some (c.toNat - 0x61)
  else if 'A' ≤ c ∧ c ≤ 'Z' then some (c.toNat - 0x41)
  else if c.isDigit then some (c.toNat - 0x30 + 26)
  else none

/-- The digit below which a digit ends a distance. `position` is 36, 72, … for the first, second, …
    digit. -/
def threshold (position bias : Nat) : Nat :=
  if position ≤ bias then 1 else if bias + 26 ≤ position then 26 else position - bias

theorem threshold_pos (position bias : Nat) : 0 < threshold position bias := by
  unfold threshold
  split
  · omega
  · split <;> omega

/-- Divides by 35 until at most 455 is left, and gives 36 for each division. -/
def shrink (distance : Nat) : Nat × Nat :=
  if 455 < distance then
    let (rest, steps) := shrink (distance / 35)
    (rest, steps + 36)
  else (distance, 0)
termination_by distance
decreasing_by exact Nat.div_lt_self (by omega) (by omega)

/-- The bias behind a distance, where `count` characters are known by then. -/
def nextBias (distance count : Nat) (first : Bool) : Nat :=
  let distance := if first then distance / 700 else distance / 2
  let (rest, steps) := shrink (distance + distance / count)
  steps + 36 * rest / (rest + 38)

/-! ## Writing -/

/-- The digits of a distance. -/
def digitsOf (bias position distance : Nat) : List Char :=
  let t := threshold position bias
  if distance < t then [digitOf distance]
  else
    digitOf (t + (distance - t) % (36 - t))
      :: digitsOf bias (position + 36) ((distance - t) / (36 - t))
termination_by distance
decreasing_by
  have := threshold_pos position bias
  calc (distance - threshold position bias) / (36 - threshold position bias)
      ≤ distance - threshold position bias := Nat.div_le_self _ _
    _ < distance := by omega

/-- What is known while a label is written: the digits so far, the distance since the last of them,
    the bias, and how many characters are written. -/
structure Writing where
  digits : List Char
  distance : Nat
  bias : Nat
  count : Nat

/-- Goes past a character while the ones with a code point are written. -/
def Writing.pass (basic code : Nat) (w : Writing) (n : Nat) : Writing :=
  if n < code then { w with distance := w.distance + 1 }
  else if n = code then
    { digits := w.digits ++ digitsOf w.bias 36 w.distance
      distance := 0
      bias := nextBias w.distance (w.count + 1) (w.count == basic)
      count := w.count + 1 }
  else w

/-- Writes the characters with code points that ascend. -/
def writeFrom (label : List Nat) (basic : Nat) : List Nat → Nat → Writing → Writing
  | [], _, w => w
  | code :: rest, next, w =>
    let w := { w with distance := w.distance + (code - next) * (w.count + 1) }
    let w := label.foldl (Writing.pass basic code) w
    writeFrom label basic rest (code + 1) { w with distance := w.distance + 1 }

/-- The code points beyond ASCII, in order and each once. -/
def codesOf (label : List Nat) : List Nat :=
  (label.filter (0x80 ≤ ·)).mergeSort.eraseDups

/-- A label in ASCII. -/
def encode (label : List Nat) : List Char :=
  let basic := label.filter (· < 0x80)
  let front := if basic.isEmpty then [] else basic.map Char.ofNat ++ ['-']
  front ++ (writeFrom label basic.length (codesOf label) 0x80 ⟨[], 0, 72, basic.length⟩).digits

/-! ## Reading -/

/-- Reads a distance behind what is known of it, and gives the rest of the digits. -/
def readDistance? (bias : Nat) : Nat → Nat → Nat → List Char → Option (Nat × List Char)
  | _, _, _, [] => none
  | position, weight, distance, c :: rest => do
    let digit ← valueOf? c
    let t := threshold position bias
    let distance := distance + digit * weight
    if digit < t then return (distance, rest)
    else readDistance? bias (position + 36) (weight * (36 - t)) distance rest

/-- Reads distances and puts in the characters that they stand for. There are at most as many
    distances as digits. -/
def readInto? (basic : Nat) : Nat → Nat → Nat → Nat → List Nat → List Char → Option (List Nat)
  | _, _, _, _, label, [] => some label
  | 0, _, _, _, _, _ => none
  | bound + 1, code, place, bias, label, digits => do
    let (distance, rest) ← readDistance? bias 36 1 0 digits
    let count := label.length + 1
    let code := code + (place + distance) / count
    let place := (place + distance) % count
    if code < 0xD800 ∨ (0xDFFF < code ∧ code ≤ 0x10FFFF) then
      let label := label.take place ++ code :: label.drop place
      readInto? basic bound code (place + 1) (nextBias distance count (label.length == basic + 1))
        label rest
    else none

/-- The label that a text in ASCII stands for. -/
def decode? (text : List Char) : Option (List Nat) :=
  let digits := (text.reverse.takeWhile (· != '-')).reverse
  let basic := (text.take (text.length - digits.length)).dropLast
  readInto? basic.length (text.length + 1) 0x80 0 72 (basic.map Char.toNat) digits

end ScenarioTree.Host.Punycode
