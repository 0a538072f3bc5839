import ScenarioTree.Value

/-!
# Reading JSON

A reader of one JSON text. It is strict: no comments, no trailing commas, no raw control characters
in strings, no lone surrogates, nothing but white space after the value. Of fields with one key the
last one counts. Lists and maps may nest 127 deep.

Integers of 64 bits, signed or not, are integers. All other numbers are floats: the leading digits
that fit 64 bits are taken as an integer, and that is multiplied with or divided by a power of ten,
one rounding for each operation.
-/

namespace ScenarioTree.Json

/-- What is left of a text after something was read from it: a strictly shorter text. -/
abbrev Rest (cs : List Char) := { rest : List Char // rest.length < cs.length }

/-! ## White space -/

def isSpace (c : Char) : Bool := c == ' ' || c == '\n' || c == '\t' || c == '\r'

/-- The text from its first character that is not white space. -/
def skip (cs : List Char) : List Char := cs.dropWhile isSpace

theorem length_skip (cs : List Char) : (skip cs).length ≤ cs.length :=
  (List.dropWhile_sublist isSpace).length_le

/-! ## Strings -/

def hexValue? (c : Char) : Option Nat :=
  if '0' ≤ c ∧ c ≤ '9' then some (c.toNat - 48)
  else if 'a' ≤ c ∧ c ≤ 'f' then some (c.toNat - 87)
  else if 'A' ≤ c ∧ c ≤ 'F' then some (c.toNat - 55)
  else none

/-- The number that hexadecimal digits stand for. -/
def hexNumber? (digits : List Char) : Option Nat :=
  digits.foldl (fun n c => do return (← n) * 16 + (← hexValue? c)) (some 0)

/-- The character after a backslash that stands for itself or for a control character. -/
def simpleEscape? : Char → Option Char
  | '"' => some '"'
  | '\\' => some '\\'
  | '/' => some '/'
  | 'b' => some '\x08'
  | 'f' => some '\x0c'
  | 'n' => some '\n'
  | 'r' => some '\r'
  | 't' => some '\t'
  | _ => none

/-- The character of a high and a low surrogate. -/
def joinSurrogates? (high low : Nat) : Option Char :=
  if 0xD800 ≤ high ∧ high < 0xDC00 ∧ 0xDC00 ≤ low ∧ low < 0xE000 then
    some (Char.ofNat (0x10000 + (high - 0xD800) * 0x400 + (low - 0xDC00)))
  else none

/-- Reads a string after its opening quote. The characters so far come in reverse. -/
def stringBody (read : List Char) : List Char → Option (String × List Char)
  | [] => none
  | '"' :: rest => some (String.ofList read.reverse, rest)
  | '\\' :: 'u' :: a :: b :: c :: d :: rest =>
    match hexNumber? [a, b, c, d] with
    | none => none
    | some unit =>
      if 0xD800 ≤ unit ∧ unit < 0xE000 then
        match rest with
        | '\\' :: 'u' :: e :: f :: g :: h :: rest =>
          match (hexNumber? [e, f, g, h]).bind (joinSurrogates? unit) with
          | some char => stringBody (char :: read) rest
          | none => none
        | _ => none
      else stringBody (Char.ofNat unit :: read) rest
  | '\\' :: c :: rest =>
    match simpleEscape? c with
    | some char => stringBody (char :: read) rest
    | none => none
  | c :: rest => if c.toNat < 0x20 then none else stringBody (c :: read) rest

theorem length_of_stringBody {read cs : List Char} {s : String} {rest : List Char}
    (h : stringBody read cs = some (s, rest)) : rest.length < cs.length := by
  fun_induction stringBody read cs <;> simp_all <;> omega

/-! ## Numbers -/

def isDigit (c : Char) : Bool := '0' ≤ c && c ≤ '9'

/-- The least number that does not fit 64 bits. -/
def wordLimit : Nat := UInt64.size

/-- Takes decimal digits while the number they stand for fits 64 bits, and counts them. -/
def takeDigits (number count : Nat) : List Char → Nat × Nat × List Char
  | [] => (number, count, [])
  | c :: rest =>
    if isDigit c && number * 10 + (c.toNat - 48) < wordLimit then
      takeDigits (number * 10 + (c.toNat - 48)) (count + 1) rest
    else (number, count, c :: rest)

/-- `10 ^ exponent` for exponents up to 308. -/
def powerOfTen? (exponent : Nat) : Option Binary64 :=
  if exponent ≤ 308 then Binary64.ofDecimal? false 1 exponent else none

/-- Divides by `10 ^ 308` as often as it takes to bring a negative exponent into the range of the
    format, or until the number is zero. -/
def scaleDown (x : Binary64) (exponent : Nat) : Option Binary64 :=
  if h : exponent ≤ 308 then do x.div? (← powerOfTen? exponent)
  else if x.isZero then some x
  else do scaleDown (← x.div? (← powerOfTen? 308)) (exponent - 308)
termination_by exponent
decreasing_by omega

/-- A float from 64 significant bits and a power of ten; none where the result would be infinite. -/
def floatOfParts? (negative : Bool) (significand : Nat) (exponent : Int) : Option Binary64 := do
  let x ← Binary64.ofNat? significand
  let magnitude ←
    if 0 ≤ exponent then
      match powerOfTen? exponent.toNat with
      | some power => x.mul? power
      | none => if x.isZero then some x else none
    else scaleDown x exponent.natAbs
  return if negative then magnitude.neg else magnitude

/-- The least exponent that is too large to be read as a number. -/
def exponentLimit : Nat := 1 <<< 31

/-- The number that decimal digits stand for. -/
def digitsNumber (digits : List Char) : Nat :=
  digits.foldl (fun n c => n * 10 + (c.toNat - 48)) 0

/-- The float whose exponent, after its letter, is the given text. An exponent that is too large
    gives zero, unless it makes the number too large as well. -/
def floatOfExponent? (negative : Bool) (significand : Nat) (start : Int) (cs : List Char) :
    Option Binary64 :=
  let down := cs.head? == some '-'
  let digits := if down || cs.head? == some '+' then cs.drop 1 else cs
  if digits.isEmpty || !digits.all isDigit then none
  else
    let size := digitsNumber digits
    if exponentLimit ≤ size then
      if significand ≠ 0 ∧ !down then none else some (Binary64.zero negative)
    else floatOfParts? negative significand (if down then start - size else start + size)

/-- The float that ends with the given text after its digits: nothing or an exponent. -/
def floatOfEnd? (negative : Bool) (significand : Nat) (exponent : Int) :
    List Char → Option Binary64
  | [] => floatOfParts? negative significand exponent
  | 'e' :: rest | 'E' :: rest => floatOfExponent? negative significand exponent rest
  | _ => none

/-- The float that ends with the given text after its point. Digits beyond 64 bits are passed
    over. -/
def floatOfFraction? (negative : Bool) (significand : Nat) (exponent : Int) (cs : List Char) :
    Option Binary64 :=
  let (significand, count, rest) := takeDigits significand 0 cs
  let tail := rest.dropWhile isDigit
  if tail.length = cs.length then none
  else floatOfEnd? negative significand (exponent - count) tail

/-- The integer `± n`, or the nearest float where it does not fit 64 bits. Minus zero is a float. -/
def integer? (negative : Bool) (n : Nat) : Option Number :=
  if negative then
    if n = 0 ∨ 1 <<< 63 < n then (Binary64.ofNat? n).map (.float ·.neg)
    else some (.int (-(n : Int)))
  else some (.int n)

/-- The number that a text without sign stands for. A leading zero stands alone. -/
def magnitude? (negative : Bool) (cs : List Char) : Option Number :=
  let (number, count, rest) := takeDigits 0 0 cs
  let tail := rest.dropWhile isDigit
  let beyond := rest.length - tail.length
  if count = 0 ∨ (cs.head? = some '0' ∧ count + beyond ≠ 1) then none
  else
    match tail with
    | [] =>
      if beyond = 0 then integer? negative number
      else (floatOfParts? negative number beyond).map .float
    | '.' :: tail => (floatOfFraction? negative number beyond tail).map .float
    | tail => (floatOfEnd? negative number beyond tail).map .float

/-- The number that a text stands for. -/
def number? : List Char → Option Number
  | '-' :: rest => magnitude? true rest
  | cs => magnitude? false cs

/-- The characters of numbers. None of them can follow a number. -/
def isNumberChar (c : Char) : Bool :=
  isDigit c || c == '-' || c == '+' || c == '.' || c == 'e' || c == 'E'

/-! ## Values -/

/-- Reads a word of the language. -/
def word? (word cs : List Char) : Option (List Char) :=
  if word.isPrefixOf cs then some (cs.drop word.length) else none

/-- Reads null, a Boolean, a string or a number. -/
def scalar : List Char → Option (Value × List Char)
  | '"' :: rest => (stringBody [] rest).map fun (s, rest) => (.string s, rest)
  | 'n' :: rest => (word? ['u', 'l', 'l'] rest).map (.null, ·)
  | 't' :: rest => (word? ['r', 'u', 'e'] rest).map (.bool true, ·)
  | 'f' :: rest => (word? ['a', 'l', 's', 'e'] rest).map (.bool false, ·)
  | c :: rest =>
    if isNumberChar c then
      (number? (c :: rest.takeWhile isNumberChar)).map
        fun n => (.number n, rest.dropWhile isNumberChar)
    else none
  | [] => none

theorem length_of_word {word cs rest : List Char} {v v' : Value}
    (h : (word? word cs).map (v', ·) = some (v, rest)) : rest.length ≤ cs.length := by
  obtain ⟨rest', hrest, heq⟩ := Option.map_eq_some_iff.1 h
  obtain ⟨-, rfl⟩ := Prod.mk.inj heq
  simp only [word?, Option.ite_none_right_eq_some, Option.some.injEq] at hrest
  rw [← hrest.2, List.length_drop]
  omega

theorem length_of_scalar {cs rest : List Char} {v : Value} (h : scalar cs = some (v, rest)) :
    rest.length < cs.length := by
  have hdrop := fun cs : List Char => (List.dropWhile_sublist isNumberChar (l := cs)).length_le
  unfold scalar at h
  split at h
  · obtain ⟨⟨s, rest'⟩, hs, heq⟩ := Option.map_eq_some_iff.1 h
    have := length_of_stringBody hs
    obtain ⟨-, rfl⟩ := Prod.mk.inj heq
    rw [List.length_cons]
    omega
  · exact Nat.lt_succ_of_le (length_of_word h)
  · exact Nat.lt_succ_of_le (length_of_word h)
  · exact Nat.lt_succ_of_le (length_of_word h)
  · rename_i rest' _ _ _ _
    split at h
    · obtain ⟨n, hn, heq⟩ := Option.map_eq_some_iff.1 h
      have := hdrop rest'
      obtain ⟨-, rfl⟩ := Prod.mk.inj heq
      rw [List.length_cons]
      omega
    · simp at h
  · simp at h

mutual

/-- Reads a value inside of which lists and maps may still nest `depth - 1` deep. -/
def value (depth : Nat) (cs : List Char) : Option (Value × Rest cs) :=
  match h : skip cs with
  | '[' :: rest =>
    if depth ≤ 1 then none
    else
      match h' : skip rest with
      | ']' :: rest' => some (.array [], ⟨rest', by
          have := length_skip cs; have := length_skip rest; grind⟩)
      | _ => do
        let (items, rest') ← items (depth - 1) rest
        return (.array items, ⟨rest'.1, by
          have := length_skip cs; have := rest'.2; grind⟩)
  | '\x7b' :: rest =>
    if depth ≤ 1 then none
    else
      match h' : skip rest with
      | '\x7d' :: rest' => some (.object [], ⟨rest', by
          have := length_skip cs; have := length_skip rest; grind⟩)
      | _ => do
        let (entries, rest') ← entries (depth - 1) rest
        return (.ofEntries entries, ⟨rest'.1, by
          have := length_skip cs; have := rest'.2; grind⟩)
  | rest =>
    match hs : scalar rest with
    | none => none
    | some (v, rest') => some (v, ⟨rest', by
        have := length_skip cs; have := length_of_scalar hs; grind⟩)
termination_by (cs.length, 0)
decreasing_by
  all_goals
    have := length_skip cs
    simp only [Prod.lex_def]
    grind

/-- Reads the items of a list and its closing bracket. -/
def items (depth : Nat) (cs : List Char) : Option (List Value × Rest cs) := do
  let (v, rest) ← value depth cs
  match h : skip rest.1 with
  | ']' :: rest' => return ([v], ⟨rest', by
      have := length_skip rest.1; have := rest.2; grind⟩)
  | ',' :: rest' =>
    let (vs, rest'') ← items depth rest'
    return (v :: vs, ⟨rest''.1, by
      have := length_skip rest.1; have := rest.2; have := rest''.2; grind⟩)
  | _ => none
termination_by (cs.length, 1)
decreasing_by
  · simp [Prod.lex_def]
  · have := length_skip rest.1
    have := rest.2
    simp only [Prod.lex_def]
    grind

/-- Reads the fields of a map and its closing brace. -/
def entries (depth : Nat) (cs : List Char) : Option (List (String × Value) × Rest cs) :=
  match h : skip cs with
  | '"' :: rest =>
    match hs : stringBody [] rest with
    | none => none
    | some (key, rest) =>
      match hc : skip rest with
      | ':' :: rest => do
        let (v, rest) ← value depth rest
        match h : skip rest.1 with
        | '\x7d' :: rest' => return ([(key, v)], ⟨rest', by
            have := length_skip rest.1; have := rest.2; have := length_skip cs
            have := length_of_stringBody hs; grind [length_skip]⟩)
        | ',' :: rest' =>
          let (fields, rest'') ← entries depth rest'
          return ((key, v) :: fields, ⟨rest''.1, by
            have := length_skip rest.1; have := rest.2; have := length_skip cs
            have := length_of_stringBody hs; have := rest''.2; grind [length_skip]⟩)
        | _ => none
      | _ => none
  | _ => none
termination_by (cs.length, 1)
decreasing_by
  all_goals
    have := length_of_stringBody hs
    simp only [Prod.lex_def]
    grind [length_skip]

end

/-- How deep lists and maps may nest, and one. -/
def nestingLimit : Nat := 128

/-- Reads a JSON text. -/
def parse? (text : String) : Option Value := do
  let (v, rest) ← value nestingLimit text.toList
  if (skip rest.1).isEmpty then return v else none

end ScenarioTree.Json
