import ScenarioTree.Number.Shortest
import ScenarioTree.Value

/-!
# Numbers by what they stand for

An integer and a float that stand for the same number differ as values of a document. Schemas look
at what numbers stand for: they compare exactly, and `2.0` is as much of an integer as `2`.
-/

namespace ScenarioTree

namespace Number

/-- Whether the number has no fraction. -/
def isIntegral : Number → Bool
  | .int _ => true
  | .float x => x.toInt?.isSome

/-- Exact order: `m < n`. -/
def lt : Number → Number → Bool
  | .int m, .int n => m < n
  | .int m, .float y => Binary64.intLt m y
  | .float x, .int n => x.ltInt n
  | .float x, .float y => x.lt y

/-- The nearest binary64 number. Integers of documents have at most 64 bits, so there is one. -/
def toBinary64 : Number → Binary64
  | .int n => (Binary64.ofFraction? (n < 0) n.natAbs 1).getD (.zero false)
  | .float x => x

/-- Whether two numbers stand for the same number, exactly. -/
def alike (m n : Number) : Bool := !m.lt n && !n.lt m

/-- Whether two numbers have the same nearest binary64 number. The two zeros differ. -/
def sameNearest (m n : Number) : Bool := m.toBinary64 == n.toBinary64

/-- The count that a number without a fraction stands for. Negative numbers count nothing, and
    counts have 64 bits. -/
def toCount? (n : Number) : Option Nat :=
  let count (n : Int) : Nat := min n.toNat (UInt64.size - 1)
  match n with
  | .int n => some (count n)
  | .float x => x.toInt?.map count

end Number

namespace Binary64

/-- Whether two numbers are less than `2 ^ -52` apart, exactly. -/
def near (x y : Binary64) : Bool :=
  let e := min (min x.exponent y.exponent) 0
  let signed (x : Binary64) : Int :=
    (if x.negative then -1 else 1) * (x.significand <<< (x.exponent - e).toNat : Nat)
  (signed x - signed y).natAbs * hiddenBit < 1 <<< (-e).toNat

/-- Whether the number, without its integral part, is below `2 ^ -52`. A number below zero is. -/
def nearlyIntegral (x : Binary64) : Bool :=
  let numerator := x.significand <<< x.exponent.toNat
  let denominator := 1 <<< (-x.exponent).toNat
  x.negative || numerator % denominator * hiddenBit < denominator

/-- Whether a quotient has no fraction, exactly. -/
def dividesExactly (divisor x : Binary64) : Bool :=
  let numerator := x.significand <<< (x.exponent - divisor.exponent).toNat
  let denominator := divisor.significand <<< (divisor.exponent - x.exponent).toNat
  numerator % denominator == 0

/-- Whether the quotient of the shortest decimals of two numbers has no fraction, exactly. -/
def dividesShortest (divisor x : Binary64) : Bool :=
  let (a, b) := (x.shortest, divisor.shortest)
  let numerator := a.digits * Nat.pow 10 (a.exponent - b.exponent).toNat
  let denominator := b.digits * Nat.pow 10 (b.exponent - a.exponent).toNat
  numerator % denominator == 0

/-- Whether a number counts as a multiple of a divisor other than zero. With an integral divisor
    this is exact. With any other it is the rounded quotient that has to be integral, or nearly so
    above zero; in place of a quotient that is too large to be rounded stands that of the shortest
    decimals. -/
def isMultipleOf (x divisor : Binary64) : Bool :=
  if divisor.toInt?.isSome then x.toInt?.isSome && dividesExactly divisor x
  else
    match x.div? divisor with
    | some quotient => quotient.nearlyIntegral
    | none => dividesShortest divisor x

/-- The shortest text without an exponent, and without a fraction where there is none. -/
def plainText (x : Binary64) : String :=
  let sign := if x.negative then "-" else ""
  if x.isZero then sign ++ "0"
  else
    let d := x.shortest
    let (digits, zeros) := stripZeros (Nat.toDigits 10 d.digits)
    let e := d.exponent + zeros
    let point := (digits.length : Int) + e
    let body :=
      if 0 ≤ e then digits ++ List.replicate e.toNat '0'
      else if 0 < point then digits.take point.toNat ++ '.' :: digits.drop point.toNat
      else '0' :: '.' :: List.replicate (-point).toNat '0' ++ digits
    sign ++ String.ofList body

end Binary64

mutual

/-- Equality of values in which numbers are compared by a given relation. -/
def Value.alikeBy (numbers : Number → Number → Bool) : Value → Value → Bool
  | .null, .null => true
  | .bool a, .bool b => a == b
  | .number a, .number b => numbers a b
  | .string a, .string b => a == b
  | .array a, .array b => Value.alikeItems numbers a b
  | .object a, .object b => Value.alikeFields numbers a b
  | _, _ => false

def Value.alikeItems (numbers : Number → Number → Bool) : List Value → List Value → Bool
  | [], [] => true
  | a :: as, b :: bs => a.alikeBy numbers b && Value.alikeItems numbers as bs
  | _, _ => false

def Value.alikeFields (numbers : Number → Number → Bool) :
    List (String × Value) → List (String × Value) → Bool
  | [], [] => true
  | (k, a) :: as, (l, b) :: bs => k == l && a.alikeBy numbers b && Value.alikeFields numbers as bs
  | _, _ => false

end

/-- Equality of values in which numbers are alike when they stand for the same number. -/
def Value.alike : Value → Value → Bool := Value.alikeBy Number.alike

/-- Equality of values in which numbers also have to have the same nearest binary64 number. -/
def Value.alikeNearest : Value → Value → Bool :=
  Value.alikeBy fun m n => m.alike n && m.sameNearest n

end ScenarioTree
