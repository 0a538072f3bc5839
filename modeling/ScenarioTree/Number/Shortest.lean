import ScenarioTree.Number.Binary64

/-!
# Shortest decimal text

The text of a finite number: the fewest decimal digits that read back to it, and of those the
nearest to it. Numbers whose leading digit has an exponent from -5 to 15 are written positionally
with at least one decimal, all others with a signed exponent.

The search is exact. The reals that round to a number form an interval, whose ends belong to it
when the significand is even. For one, two, … seventeen digits the two neighbours of the number on
that decimal grid are tested; the first grid with a hit wins.
-/

namespace ScenarioTree.Binary64

/-- A decimal number `digits * 10 ^ exponent`. -/
structure Decimal where
  digits : Nat
  exponent : Int
  deriving DecidableEq

/-- Compares `a * 10 ^ i` with `n * 2 ^ j`, exactly. -/
def compareScaled (a : Nat) (i : Int) (n : Nat) (j : Int) : Ordering :=
  compare ((a * Nat.pow 10 i.toNat) <<< (-j).toNat) (n <<< j.toNat * Nat.pow 10 (-i).toNat)

/-- Whether a decimal lies among the reals that round to the number. -/
def readsBack (x : Binary64) (d : Decimal) : Bool :=
  let low := if x.narrowBelow then 4 * x.significand - 1 else 4 * x.significand - 2
  let high := 4 * x.significand + 2
  let closed := x.significand % 2 == 0
  let atLow := compareScaled d.digits d.exponent low (x.exponent - 2)
  let atHigh := compareScaled d.digits d.exponent high (x.exponent - 2)
  (atLow == .gt || (closed && atLow == .eq)) && (atHigh == .lt || (closed && atHigh == .eq))

/-- The least `k` with `x < 10 ^ k`, for a number other than zero, searched upwards from a bound
    below it. -/
def scaleFrom (x : Binary64) (start : Int) : Nat → Int
  | 0 => start
  | steps + 1 =>
    if compareScaled 1 start x.significand x.exponent == .gt then start
    else scaleFrom x (start + 1) steps

/-- The least `k` with `x < 10 ^ k`, for a number other than zero. The binary logarithm gives it up
    to two steps. -/
def decimalScale (x : Binary64) : Int :=
  let binary : Int := x.significand.log2 + x.exponent
  scaleFrom x (binary * 30103 / 100000 - 1) 4

/-- The neighbours of the number on the grid of `count` digits that read back to it, the nearer one
    if both do and the even one on a tie. -/
def nearestOnGrid? (x : Binary64) (scale : Int) (count : Nat) : Option Decimal :=
  let e := scale - count
  let numerator := x.significand <<< x.exponent.toNat * Nat.pow 10 (-e).toNat
  let denominator := 1 <<< (-x.exponent).toNat * Nat.pow 10 e.toNat
  let lower := numerator / denominator
  let nearest := roundHalfEven numerator denominator
  let other := if nearest == lower then lower + 1 else lower
  [nearest, other].map (Decimal.mk · e) |>.find? x.readsBack

/-- The shortest decimal that reads back to a number other than zero. Seventeen digits always
    suffice; the exact value stands behind them. -/
def shortest (x : Binary64) : Decimal :=
  let scale := x.decimalScale
  ((List.range 17).findSome? fun n => x.nearestOnGrid? scale (n + 1)).getD
    ⟨x.significand <<< x.exponent.toNat * Nat.pow 5 (-x.exponent).toNat, min x.exponent 0⟩

/-- Decimal digits without the zeros at their end, and how many there were. -/
def stripZeros (digits : List Char) : List Char × Nat :=
  let zeros := digits.reverse.takeWhile (· == '0')
  ((digits.reverse.dropWhile (· == '0')).reverse, zeros.length)

/-- Lays out significant digits whose first one stands for `10 ^ lead`. -/
def layOut (digits : List Char) (lead : Int) : List Char :=
  if lead < -5 || 15 < lead then
    let sign := if lead < 0 then '-' else '+'
    let fraction := match digits.drop 1 with
      | [] => []
      | rest => '.' :: rest
    digits.take 1 ++ fraction ++ 'e' :: sign :: Nat.toDigits 10 lead.natAbs
  else if lead < 0 then
    '0' :: '.' :: List.replicate (lead.natAbs - 1) '0' ++ digits
  else
    let whole := lead.toNat + 1
    let fraction := match digits.drop whole with
      | [] => ['0']
      | rest => rest
    digits.take whole ++ List.replicate (whole - digits.length) '0' ++ '.' :: fraction

/-- The text of a number: fewest digits, positional for leading exponents from -5 to 15, else with
    an exponent that carries its sign. Zero keeps its sign. -/
def text (x : Binary64) : String :=
  let sign := if x.negative then ['-'] else []
  if x.isZero then String.ofList (sign ++ ['0', '.', '0'])
  else
    let d := x.shortest
    let (digits, zeros) := stripZeros (Nat.toDigits 10 d.digits)
    String.ofList (sign ++ layOut digits (d.exponent + zeros + digits.length - 1))

end ScenarioTree.Binary64
