/-!
# Dates and times

The written forms of dates and times: `2024-02-29`, `23:59:60Z`, `12:00:00.5+01:00`, and both with a
`T` between them. A sixtieth second is only there at the end of a day of universal time.

The fields take sixteen digits: the six characters behind the `9` stand for ten to fifteen, so that
`2024-0;-01` is a date in November. Only a fraction of a second is limited to the ten common ones.
-/

namespace ScenarioTree.Shape

/-- Whether a character is one of the sixteen digits of a field. -/
def isFieldDigit (c : Char) : Bool := 0x30 ≤ c.toNat && c.toNat ≤ 0x3F

/-- The number that a list of digits stands for, if it has the given length. -/
def digits? (count : Nat) (text : List Char) : Option Nat :=
  if text.length = count ∧ text.all isFieldDigit then
    some (text.foldl (fun n c => 10 * n + (c.toNat - 0x30)) 0)
  else none

def isLeapYear (year : Nat) : Bool := year % 4 == 0 && (year % 100 != 0 || year % 400 == 0)

/-- How many days a month has; none if there is no such month. -/
def daysIn (year month : Nat) : Nat :=
  if month ∈ [1, 3, 5, 7, 8, 10, 12] then 31
  else if month ∈ [4, 6, 9, 11] then 30
  else if month = 2 then if isLeapYear year then 29 else 28
  else 0

/-- Whether a text is a date: year, month and day with hyphens between them. -/
def isDate (text : List Char) : Bool :=
  match digits? 4 (text.take 4), text.drop 4 with
  | some year, '-' :: m₁ :: m₂ :: '-' :: day =>
    match digits? 2 [m₁, m₂], digits? 2 day with
    | some month, some day => 1 ≤ day && day ≤ daysIn year month
    | _, _ => false
  | _, _ => false

/-- The distance from universal time, in minutes: `Z`, or a sign with hours and minutes. -/
def offset? (text : List Char) : Option Int :=
  match text with
  | ['Z'] | ['z'] => some 0
  | [sign, h₁, h₂, ':', m₁, m₂] =>
    match digits? 2 [h₁, h₂], digits? 2 [m₁, m₂] with
    | some hours, some minutes =>
      if hours ≤ 23 ∧ minutes ≤ 59 then
        if sign = '+' then some (60 * hours + minutes : Nat)
        else if sign = '-' then some (-(60 * hours + minutes : Nat))
        else none
      else none
    | _, _ => none
  | _ => none

/-- A text without the fraction of a second that it begins with, if it begins with one. -/
def dropFraction? (text : List Char) : Option (List Char) :=
  match text with
  | '.' :: rest =>
    let behind := rest.dropWhile Char.isDigit
    if behind.length < rest.length then some behind else none
  | text => some text

/-- Whether a text is a time of a day with its distance from universal time. -/
def isTime (text : List Char) : Bool :=
  match text with
  | h₁ :: h₂ :: ':' :: m₁ :: m₂ :: ':' :: s₁ :: s₂ :: rest =>
    match digits? 2 [h₁, h₂], digits? 2 [m₁, m₂], digits? 2 [s₁, s₂],
        (dropFraction? rest).bind offset? with
    | some hour, some minute, some second, some offset =>
      let universal := ((60 * hour + minute : Nat) - offset) % 1440
      hour ≤ 23 && minute ≤ 59 && (second ≤ 59 || (second == 60 && universal == 1439))
    | _, _, _, _ => false
  | _ => false

/-- Whether a text is a date and a time with a `T` between them. -/
def isDateTime (text : List Char) : Bool :=
  let isMark (c : Char) := c == 'T' || c == 't'
  match text.dropWhile (!isMark ·) with
  | _ :: time => isDate (text.takeWhile (!isMark ·)) && isTime time
  | [] => false

end ScenarioTree.Shape
