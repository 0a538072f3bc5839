import ScenarioTree.Format.Json

/-!
# Values of YAML scalars

What the text of a plain scalar stands for: null, a Boolean, an integer, a float, or itself.
Integers may be written to the bases 16, 8 and 2 as well; decimal ones do not begin with a
superfluous zero. Integers of more than 64 bits are refused up to 128 bits and floats beyond. What
is neither finite nor a number becomes null.
-/

namespace ScenarioTree.Yaml

/-- What a text stands for as a number. -/
inductive NumberReading where
  | value (value : Value)
  /-- An integer that has no place in a document. -/
  | tooLarge
  /-- No number at all. -/
  | none

/-- The number that digits of a base stand for, if there is at least one and all are digits. -/
def digits? (base : Nat) (text : List Char) : Option Nat :=
  if text.isEmpty then none
  else text.foldl (fun n c => do
    let digit ← Json.hexValue? c
    if digit < base then return (← n) * base + digit else none) (some 0)

/-- Whether the text consists of decimal digits and has a superfluous zero in front. -/
def hasIdleZero (text : List Char) : Bool :=
  let digits := match text with
    | '-' :: rest | '+' :: rest => rest
    | rest => rest
  1 < digits.length && digits.head? == some '0' && digits.all Json.isDigit

/-- The integer without sign that a text stands for. -/
def unsigned? (text : List Char) : Option Nat :=
  match text with
  | '0' :: 'x' :: rest => digits? 16 rest
  | '0' :: 'o' :: rest => digits? 8 rest
  | '0' :: 'b' :: rest => digits? 2 rest
  | rest => if hasIdleZero rest then none else digits? 10 rest

/-- The integer that a text stands for. -/
def integer? (text : List Char) : Option Int :=
  match text with
  | '-' :: rest => (unsigned? rest).map fun n => -(n : Int)
  | '+' :: rest => (unsigned? rest).map fun n => (n : Int)
  | rest => (unsigned? rest).map fun n => (n : Int)

/-- How an integer is taken: as it is in 64 bits, refused in 128 bits, not at all beyond. -/
def readInteger (n : Int) : NumberReading :=
  if -(1 <<< 63 : Nat) ≤ n ∧ n < (1 <<< 64 : Nat) then .value (.number (.int n))
  else if -(1 <<< 127 : Nat) ≤ n ∧ n < (1 <<< 128 : Nat) then .tooLarge
  else .none

/-- The part of a text before and after one of the characters, the latter only if there is one. -/
def cut (atChar : Char → Bool) (text : List Char) : List Char × Option (List Char) :=
  match text.dropWhile (!atChar ·) with
  | [] => (text, none)
  | _ :: rest => (text.takeWhile (!atChar ·), some rest)

/-- An exponent, with or without a sign. -/
def exponent? (text : List Char) : Option Int :=
  match text with
  | '-' :: rest => (digits? 10 rest).map fun n => -(n : Int)
  | '+' :: rest => (digits? 10 rest).map fun n => (n : Int)
  | rest => (digits? 10 rest).map fun n => (n : Int)

/-- The finite float that a decimal text stands for. The point may be at either end. -/
def decimal? (text : List Char) : Option Binary64 := do
  let (negative, rest) := match text with
    | '-' :: rest => (true, rest)
    | rest => (false, rest)
  let (mantissa, exponent) := cut (fun c => c == 'e' || c == 'E') rest
  let (whole, fraction) := cut (· == '.') mantissa
  let fraction := fraction.getD []
  let power ← exponent.elim (some 0) exponent?
  let digits ← digits? 10 (whole ++ fraction)
  Binary64.ofDecimal? negative digits (power - fraction.length)

/-- The float that a text stands for. An infinity and what is not a number are null. -/
def float? (text : List Char) : Option Value :=
  let unsigned := match text with
    | '+' :: rest => rest
    | rest => rest
  if text.head? = some '+' ∧ (unsigned.head? = some '+' ∨ unsigned.head? = some '-') then none
  else if [".inf", ".Inf", ".INF"].contains (String.ofList unsigned) then some .null
  else if ["-.inf", "-.Inf", "-.INF", ".nan", ".NaN", ".NAN"].contains (String.ofList text) then
    some .null
  else (decimal? unsigned).map fun x => .number (.float x)

def bool? (text : String) : Option Bool :=
  if ["true", "True", "TRUE"].contains text then some true
  else if ["false", "False", "FALSE"].contains text then some false
  else none

def isNullWord (text : String) : Bool := ["null", "Null", "NULL", "~"].contains text

/-- What a text stands for as a number. -/
def readNumber (text : List Char) : NumberReading :=
  let asFloat : NumberReading :=
    if hasIdleZero text then .none
    else
      match float? text with
      | some v => .value v
      | none => .none
  match integer? text with
  | some n =>
    match readInteger n with
    | .none => asFloat
    | reading => reading
  | none => asFloat

/-- The value of a plain scalar; none where its number is refused. -/
def plainValue? (text : String) : Option Value :=
  if text.isEmpty || isNullWord text then some .null
  else
    match bool? text with
    | some b => some (.bool b)
    | none =>
      match readNumber text.toList with
      | .value v => some v
      | .tooLarge => none
      | .none => some (.string text)

/-- The value of a scalar with a tag. The tags of the core types ask for their own texts, all others
    for a string. A tag of one's own is refused. -/
def taggedValue? (tag : String) (text : String) : Option Value :=
  if tag.toList.head? = some '!' then none
  else if tag = "tag:yaml.org,2002:bool" then (bool? text).map .bool
  else if tag = "tag:yaml.org,2002:int" then do
    match readInteger (← integer? text.toList) with
    | .value v => return v
    | _ => none
  else if tag = "tag:yaml.org,2002:float" then float? text.toList
  else if tag = "tag:yaml.org,2002:null" then if isNullWord text then some .null else none
  else some (.string text)

end ScenarioTree.Yaml
