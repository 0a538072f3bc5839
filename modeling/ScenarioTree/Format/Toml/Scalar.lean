import ScenarioTree.Format.Json

/-!
# Words of TOML

Numbers, Booleans and date-times. All of them are read from a whole word: none of the characters
that a word consists of can follow a value.

Integers have 64 bits, with sign. Floats are rounded once; infinities and what is not a number have
no counterpart and become null. A date-time is a map whose one entry holds its text in normal form.
-/

namespace ScenarioTree.Toml

/-- The characters of words. -/
def isWordChar (c : Char) : Bool :=
  c.isAlphanum || c == '+' || c == '-' || c == '_' || c == '.' || c == ':'

/-! ## Numbers -/

/-- Splits a text at every occurrence of a character. -/
def splitAt (separator : Char) : List Char → List (List Char)
  | [] => [[]]
  | c :: rest =>
    if c == separator then [] :: splitAt separator rest
    else
      match splitAt separator rest with
      | [] => [[c]]
      | part :: parts => (c :: part) :: parts

/-- Digits of which single underscores may stand between two. -/
def digits? (isDigit : Char → Bool) (text : List Char) : Option (List Char) :=
  let groups := splitAt '_' text
  if groups.all fun group => !group.isEmpty && group.all isDigit then some groups.flatten else none

/-- Decimal digits that do not begin with a superfluous zero. -/
def wholeDigits? (text : List Char) : Option (List Char) :=
  if 1 < text.length ∧ text.head? = some '0' then none else digits? Json.isDigit text

/-- An integer of 64 bits. -/
def word? (n : Int) : Option Value :=
  if -(1 <<< 63 : Nat) ≤ n ∧ n < (1 <<< 63 : Nat) then some (.number (.int n)) else none

/-- The number that digits of a base stand for. -/
def numberOf (base : Nat) (digits : List Char) : Nat :=
  digits.foldl (fun n c => n * base + (Json.hexValue? c).getD 0) 0

/-- An integer of a base other than ten, after its mark. -/
def radix? (base : Nat) (text : List Char) : Option Value := do
  let digits ← digits? (fun c => (Json.hexValue? c).any (· < base)) text
  word? (numberOf base digits)

/-- The part of a text before and after one of the characters, the latter only if there is one. -/
def cut (atChar : Char → Bool) (text : List Char) : List Char × Option (List Char) :=
  match text.dropWhile (!atChar ·) with
  | [] => (text, none)
  | _ :: rest => (text.takeWhile (!atChar ·), some rest)

/-- An exponent, after its letter. -/
def exponent? (text : List Char) : Option Int :=
  match text with
  | '-' :: rest => (digits? Json.isDigit rest).map fun digits => -(numberOf 10 digits : Int)
  | '+' :: rest => (digits? Json.isDigit rest).map fun digits => (numberOf 10 digits : Int)
  | rest => (digits? Json.isDigit rest).map fun digits => (numberOf 10 digits : Int)

/-- A decimal number after its sign. Without a point and an exponent it is an integer. A negative
    number that is too large is an infinity, a positive one is an error. -/
def decimal? (negative : Bool) (text : List Char) : Option Value := do
  let (mantissa, exponent) := cut (fun c => c == 'e' || c == 'E') text
  let (whole, fraction) := cut (· == '.') mantissa
  let wholeDigits ← wholeDigits? whole
  if exponent.isNone && fraction.isNone then
    let n : Int := numberOf 10 wholeDigits
    word? (if negative then -n else n)
  else
    let fractionDigits ← fraction.elim (some []) (digits? Json.isDigit)
    let power ← exponent.elim (some 0) exponent?
    let digits := numberOf 10 (wholeDigits ++ fractionDigits)
    match Binary64.ofDecimal? negative digits (power - fractionDigits.length) with
    | some x => return .number (.float x)
    | none => if negative then return .null else none

/-- A number, its sign included. -/
def number? (text : List Char) : Option Value :=
  match text with
  | '0' :: 'x' :: rest => radix? 16 rest
  | '0' :: 'o' :: rest => radix? 8 rest
  | '0' :: 'b' :: rest => radix? 2 rest
  | _ =>
    let (negative, rest) := match text with
      | '-' :: rest => (true, rest)
      | '+' :: rest => (false, rest)
      | rest => (false, rest)
    if rest = ['i', 'n', 'f'] ∨ rest = ['n', 'a', 'n'] then some .null
    else decimal? negative rest

/-! ## Date-times -/

/-- Exactly `count` digits at the start of a text. -/
def takeNumber? (count : Nat) (text : List Char) : Option (Nat × List Char) :=
  let digits := text.take count
  if digits.length = count ∧ digits.all Json.isDigit then
    some (numberOf 10 digits, text.drop count)
  else none

/-- The text after a character. -/
def after? (c : Char) (text : List Char) : Option (List Char) :=
  if text.head? = some c then some (text.drop 1) else none

/-- A number with zeros before it, to a width. -/
def padded (width n : Nat) : List Char :=
  let digits := Nat.toDigits 10 n
  List.replicate (width - digits.length) '0' ++ digits

/-- How many days a month has. -/
def daysInMonth (year month : Nat) : Nat :=
  if month = 2 then
    if year % 4 = 0 ∧ (year % 100 ≠ 0 ∨ year % 400 = 0) then 29 else 28
  else if month = 4 ∨ month = 6 ∨ month = 9 ∨ month = 11 then 30
  else 31

/-- A date at the start of a text. -/
def date? (text : List Char) : Option (List Char × List Char) := do
  let (year, text) ← takeNumber? 4 text
  let (month, text) ← takeNumber? 2 (← after? '-' text)
  let (day, text) ← takeNumber? 2 (← after? '-' text)
  if 1 ≤ month ∧ month ≤ 12 ∧ 1 ≤ day ∧ day ≤ daysInMonth year month then
    return (padded 4 year ++ '-' :: padded 2 month ++ '-' :: padded 2 day, text)
  else none

/-- The digits of a second's fraction in normal form: at most nine, and no zeros at their end. -/
def fractionText (digits : List Char) : List Char :=
  match ((digits.take 9).reverse.dropWhile (· == '0')).reverse with
  | [] => []
  | digits => '.' :: digits

/-- A time of day at the start of a text. -/
def time? (text : List Char) : Option (List Char × List Char) := do
  let (hour, text) ← takeNumber? 2 text
  let (minute, text) ← takeNumber? 2 (← after? ':' text)
  let (second, text) ← takeNumber? 2 (← after? ':' text)
  if hour ≤ 23 ∧ minute ≤ 59 ∧ second ≤ 60 then
    let clock := padded 2 hour ++ ':' :: padded 2 minute ++ ':' :: padded 2 second
    match text with
    | '.' :: rest =>
      let digits := rest.takeWhile Json.isDigit
      if digits.isEmpty then none
      else return (clock ++ fractionText digits, rest.dropWhile Json.isDigit)
    | text => return (clock, text)
  else none

/-- The whole of a text as the distance of a time zone; nothing is one too. A distance of zero is
    positive. -/
def zone? (text : List Char) : Option (List Char) := do
  match text with
  | [] => return []
  | ['Z'] | ['z'] => return ['Z']
  | sign :: rest =>
    if sign = '+' ∨ sign = '-' then
      let (hour, rest) ← takeNumber? 2 rest
      let (minute, rest) ← takeNumber? 2 (← after? ':' rest)
      if hour ≤ 23 ∧ minute ≤ 59 ∧ rest = [] then
        let sign := if hour = 0 ∧ minute = 0 then '+' else sign
        return sign :: padded 2 hour ++ ':' :: padded 2 minute
      else none
    else none

/-- The key under which a date-time keeps its text. -/
def dateTimeKey : String := "$__toml_private_datetime"

/-- The value of a date-time's text. -/
def dateTimeValue (text : List Char) : Value :=
  .object [(dateTimeKey, .string (String.ofList text))]

/-- A time of day with a time zone, as the whole of a text. -/
def zonedTime? (text : List Char) : Option (List Char) := do
  let (clock, rest) ← time? text
  return clock ++ (← zone? rest)

/-- A word that is a date, a date with a time, or a time. -/
def dateTime? (text : List Char) : Option Value :=
  match date? text with
  | some (day, []) => some (dateTimeValue day)
  | some (day, 'T' :: rest) | some (day, 't' :: rest) =>
    (zonedTime? rest).map fun time => dateTimeValue (day ++ 'T' :: time)
  | some _ => none
  | none =>
    match time? text with
    | some (clock, []) => some (dateTimeValue clock)
    | _ => none

/-! ## Words -/

/-- The value of a word. -/
def wordValue? (text : List Char) : Option Value :=
  if text = ['t', 'r', 'u', 'e'] then some (.bool true)
  else if text = ['f', 'a', 'l', 's', 'e'] then some (.bool false)
  else (dateTime? text).or (number? text)

/-- Reads a word and what it stands for. A date and a time may have one space between them. -/
def readWord (text : List Char) : Option (Value × List Char) :=
  let first := text.takeWhile isWordChar
  let rest := text.dropWhile isWordChar
  match date? first, rest with
  | some (day, []), ' ' :: c :: more =>
    if Json.isDigit c then
      (zonedTime? ((c :: more).takeWhile isWordChar)).map fun time =>
        (dateTimeValue (day ++ 'T' :: time), (c :: more).dropWhile isWordChar)
    else some (dateTimeValue day, rest)
  | _, _ => (wordValue? first).map (·, rest)

end ScenarioTree.Toml
