import ScenarioTree.Text.Blank

/-!
# Tokens of tag queries

A query consists of parentheses, brackets, commas and words. Words are the maximal runs of other
characters that are not blank; they do not begin with a quote. Positions count the bytes of the
UTF-8 encoding.
-/

namespace ScenarioTree.Tag

/-- A unit of a query. -/
inductive Symbol where
  | openGroup
  | closeGroup
  | openList
  | closeList
  | comma
  | word (text : String)
  deriving DecidableEq

/-- A symbol and the position at which it starts. -/
structure Token where
  position : Nat
  symbol : Symbol
  deriving DecidableEq

/-- The text of a symbol. -/
def Symbol.text : Symbol → String
  | .openGroup => "("
  | .closeGroup => ")"
  | .openList => "["
  | .closeList => "]"
  | .comma => ","
  | .word text => text

/-- Whether a symbol is the given keyword; the case of ASCII letters does not matter. -/
def Symbol.isKeyword (keyword : String) : Symbol → Bool
  | .word text => text.toList.map Char.toLower == keyword.toList
  | _ => false

/-- The words that are no tags. -/
def keywords : List String := ["and", "or", "not", "is", "in"]

/-- Whether a symbol is a keyword. -/
def Symbol.isOperator (s : Symbol) : Bool := keywords.any s.isKeyword

/-- The tag that a symbol names. -/
def Symbol.tag? : Symbol → Option String
  | .word text => if (Symbol.word text).isOperator then none else some text
  | _ => none

/-- The symbol of one character. -/
def punctuation? : Char → Option Symbol
  | '(' => some .openGroup
  | ')' => some .closeGroup
  | '[' => some .openList
  | ']' => some .closeList
  | ',' => some .comma
  | _ => none

/-- Whether a character ends a word. -/
def isDelimiter (c : Char) : Bool := Text.isBlank c || (punctuation? c).isSome

/-- Whether a character is a quote. -/
def isQuote (c : Char) : Bool := c == '"' || c == '\''

/-- The number of bytes that characters take. -/
def byteLength (cs : List Char) : Nat := cs.foldr (fun c length => c.utf8Size + length) 0

/-- The tokens of a text that begins at a position, or the position of the first word that begins
    with a quote. -/
def tokensFrom (position : Nat) : List Char → Except Nat (List Token)
  | [] => .ok []
  | c :: rest =>
    if Text.isBlank c then tokensFrom (position + c.utf8Size) rest
    else
      match punctuation? c with
      | some symbol => (tokensFrom (position + 1) rest).map (⟨position, symbol⟩ :: ·)
      | none =>
        if isQuote c then .error position
        else
          let word := c :: rest.takeWhile (!isDelimiter ·)
          (tokensFrom (position + byteLength word) (rest.dropWhile (!isDelimiter ·))).map
            (⟨position, .word (String.ofList word)⟩ :: ·)
termination_by cs => cs.length
decreasing_by
  · simp
  · simp
  · have := (List.dropWhile_sublist (!isDelimiter ·) (l := rest)).length_le
    simp; omega

/-- The tokens of a query, or the position of the first word that begins with a quote. -/
def tokens (query : String) : Except Nat (List Token) := tokensFrom 0 query.toList

end ScenarioTree.Tag
