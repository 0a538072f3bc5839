/-!
# Finite binary64 numbers

A finite number of the 64-bit binary format as its sign and the 63 bits below it. The bits of two
numbers of one sign order as the numbers do, so comparison needs no arithmetic. The other
operations decode the bits into `significand * 2 ^ exponent`, compute exactly on naturals, and
round once, to nearest with ties to the even significand.

Results:

* `Binary64.same_refl`, `Binary64.same_symm`, `Binary64.same_trans`: numeric equality, which
  identifies the two zeros and nothing else, is an equivalence.
-/

namespace ScenarioTree

/-- The bits of positive infinity: the least bits that no finite number has. -/
def Binary64.limit : Nat := 0x7FF0000000000000

/-- The bit of the significand of a normal number that is not stored, `2 ^ 52`. -/
def Binary64.hiddenBit : Nat := 0x10000000000000

/-- A finite binary64 number: the sign, and the bits of exponent and fraction. -/
structure Binary64 where
  negative : Bool
  bits : Nat
  finite : bits < Binary64.limit
  deriving DecidableEq

namespace Binary64

/-! ## Decoding -/

/-- The integer significand, with the hidden bit of a normal number. -/
def significand (x : Binary64) : Nat :=
  if x.bits < hiddenBit then x.bits else hiddenBit + x.bits % hiddenBit

/-- The power of two that the significand is multiplied with. -/
def exponent (x : Binary64) : Int :=
  if x.bits < hiddenBit then -1074 else (x.bits / hiddenBit : Nat) - 1075

/-- Whether the gap to the number below is half the gap to the number above. -/
def narrowBelow (x : Binary64) : Bool :=
  2 * hiddenBit ≤ x.bits && x.bits % hiddenBit == 0

/-- Zero, with the given sign. -/
def zero (negative : Bool) : Binary64 := ⟨negative, 0, by decide⟩

def isZero (x : Binary64) : Bool := x.bits == 0

/-- Numeric equality: the two zeros are equal, other numbers only to themselves. -/
def same (x y : Binary64) : Bool :=
  x.bits == y.bits && (x.negative == y.negative || x.bits == 0)

theorem same_refl (x : Binary64) : x.same x = true := by simp [same]

theorem same_symm {x y : Binary64} (h : x.same y = true) : y.same x = true := by
  simp only [same, Bool.and_eq_true, Bool.or_eq_true, beq_iff_eq] at h ⊢
  obtain ⟨h₁, h₂⟩ := h
  exact ⟨h₁.symm, h₂.imp Eq.symm (fun h => h₁ ▸ h)⟩

theorem same_trans {x y z : Binary64} (hxy : x.same y = true) (hyz : y.same z = true) :
    x.same z = true := by
  simp only [same, Bool.and_eq_true, Bool.or_eq_true, beq_iff_eq] at hxy hyz ⊢
  refine ⟨hxy.1.trans hyz.1, ?_⟩
  rcases hxy.2 with h | h
  · rcases hyz.2 with h' | h'
    · exact .inl (h.trans h')
    · exact .inr (hxy.1.trans h')
  · exact .inr h

/-! ## Rounding -/

/-- `numerator / denominator` rounded to an integer, a half to the even neighbour. -/
def roundHalfEven (numerator denominator : Nat) : Nat :=
  let quotient := numerator / denominator
  let remainder := numerator % denominator
  match compare (2 * remainder) denominator with
  | .lt => quotient
  | .gt => quotient + 1
  | .eq => if quotient % 2 == 0 then quotient else quotient + 1

/-- `numerator / denominator / 2 ^ e`, as a fraction of naturals. -/
def scaled (numerator denominator : Nat) (e : Int) : Nat × Nat :=
  (numerator <<< (-e).toNat, denominator <<< e.toNat)

/-- The exponent at which a positive fraction has 53 significant bits, or the least exponent of the
    format where it has fewer. -/
def unitExponent (numerator denominator : Nat) : Int :=
  let guess : Int := (numerator.log2 : Int) - denominator.log2 - 52
  let (n, d) := scaled numerator denominator guess
  max (if n / d < hiddenBit then guess - 1 else guess) (-1074)

/-- The bits of the number nearest to a fraction. They reach `limit` where the fraction is too large
    for a finite number. -/
def nearestBits (numerator denominator : Nat) : Nat :=
  if numerator = 0 then 0
  else
    let e := unitExponent numerator denominator
    let (n, d) := scaled numerator denominator e
    (e + 1074).toNat * hiddenBit + roundHalfEven n d

/-- The number nearest to `± numerator / denominator`, unless that is too large. -/
def ofFraction? (negative : Bool) (numerator denominator : Nat) : Option Binary64 :=
  let bits := nearestBits numerator denominator
  if h : bits < limit then some ⟨negative, bits, h⟩ else none

/-- The number nearest to `± significand * 2 ^ exponent / divisor`. -/
def ofScaled? (negative : Bool) (significand : Nat) (exponent : Int) (divisor : Nat) :
    Option Binary64 :=
  ofFraction? negative (significand <<< exponent.toNat) (divisor <<< (-exponent).toNat)

/-- The number nearest to a natural; naturals of 64 bits always have one. -/
def ofNat? (n : Nat) : Option Binary64 := ofFraction? false n 1

def neg (x : Binary64) : Binary64 := { x with negative := !x.negative }

/-- The product, rounded once. -/
def mul? (x y : Binary64) : Option Binary64 :=
  ofScaled? (x.negative != y.negative) (x.significand * y.significand) (x.exponent + y.exponent) 1

/-- The quotient by a number other than zero, rounded once. -/
def div? (x y : Binary64) : Option Binary64 :=
  ofScaled? (x.negative != y.negative) x.significand (x.exponent - y.exponent) y.significand

/-- The number nearest to `± digits * 10 ^ exponent`, unless that is too large. A magnitude outside
    the range of the format is recognised before the power is computed. -/
def ofDecimal? (negative : Bool) (digits : Nat) (exponent : Int) : Option Binary64 :=
  if digits = 0 then some (zero negative)
  else
    let scale := exponent + ((Nat.toDigits 10 digits).length : Int)
    if 400 < scale then none
    else if scale < -400 then some (zero negative)
    else ofFraction? negative (digits * Nat.pow 10 exponent.toNat) (Nat.pow 10 (-exponent).toNat)

/-! ## Integral part and order -/

/-- The integer that the number is, if it is one. -/
def toInt? (x : Binary64) : Option Int :=
  let numerator := x.significand <<< x.exponent.toNat
  let denominator := 1 <<< (-x.exponent).toNat
  if numerator % denominator = 0 then
    some (if x.negative then -(numerator / denominator : Nat) else (numerator / denominator : Nat))
  else none

/-- Order of numbers: `x < y`. -/
def lt (x y : Binary64) : Bool :=
  match x.negative, y.negative with
  | false, false => x.bits < y.bits
  | true, true => y.bits < x.bits
  | true, false => !(x.isZero && y.isZero)
  | false, true => false

/-- Order of a number against an integer: `n < x`, exactly. -/
def intLt (n : Int) (x : Binary64) : Bool :=
  let numerator : Int := (x.significand <<< x.exponent.toNat : Nat)
  n * (1 <<< (-x.exponent).toNat : Nat) < if x.negative then -numerator else numerator

/-- Order of a number against an integer: `x < n`, exactly. -/
def ltInt (x : Binary64) (n : Int) : Bool :=
  let numerator : Int := (x.significand <<< x.exponent.toNat : Nat)
  (if x.negative then -numerator else numerator) < n * (1 <<< (-x.exponent).toNat : Nat)

end Binary64

end ScenarioTree
