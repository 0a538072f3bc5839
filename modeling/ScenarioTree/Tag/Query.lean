import ScenarioTree.Tag.Expr
import ScenarioTree.Tag.Token

/-!
# Tag queries

The language in which tests are selected:

    expr    := and ( "or" and )*
    and     := unary ( "and" unary )*
    unary   := "not" unary | "is" "not"? primary | "in" list | primary
    primary := "(" expr ")" | TAG
    list    := "[" TAG ( "," TAG )* "]"

Keywords may be written in either case, tags may not. Groups and negations in front of an operand
nest at most `maxNesting` deep. Parentheses are checked before anything else.

Every part of the reader takes the tokens that are left and gives the tokens that are left after it,
which are fewer.
-/

namespace ScenarioTree.Tag

/-- How deep groups and negations may nest. -/
def maxNesting : Nat := 128

/-- What a reader hoped to find. -/
inductive Expected where
  | tag
  | closeGroup
  | openList
  | commaOrCloseList
  deriving DecidableEq

/-- Why a query is malformed. -/
inductive Reason where
  | groupsTooDeep (position : Nat)
  | unexpectedClose (position : Nat)
  | unclosed (count : Nat)
  | quotedWord (position : Nat)
  | empty
  /-- Something else was expected than the token that was found, or than the end. -/
  | expected (what : Expected) (found : Option Token)
  | leftover (token : Token)
  | nestedTooDeep (position : Nat)
  | emptyGroup (position : Nat)
  | emptyList (position : Nat)
  deriving DecidableEq

def Expected.text : Expected → String
  | .tag => "a tag"
  | .closeGroup => "')'"
  | .openList => "'['"
  | .commaOrCloseList => "',' or ']'"

/-- The wording of a reason. -/
def Reason.message : Reason → String
  | .groupsTooDeep position =>
    s!"parentheses nested deeper than {maxNesting} levels at position {position}"
  | .unexpectedClose position =>
    s!"unbalanced parentheses: unexpected ')' at position {position}"
  | .unclosed count => s!"unbalanced parentheses: {count} unclosed '('"
  | .quotedWord position => s!"quotes are not allowed in tag names (position {position})"
  | .empty => "empty expression"
  | .expected what (some token) =>
    s!"expected {what.text}, found '{token.symbol.text}' at position {token.position}"
  | .expected what none => s!"expected {what.text}, found end of expression"
  | .leftover token => s!"unexpected '{token.symbol.text}' at position {token.position}"
  | .nestedTooDeep position =>
    s!"expression nested deeper than {maxNesting} levels at position {position}"
  | .emptyGroup position => s!"empty group at position {position}"
  | .emptyList position => s!"empty tag list at position {position}"

/-! ## Parentheses -/

/-- Checks the parentheses of a text that begins at a position, with some already open. Whether they
    stand in a word or not does not matter: they never do. -/
def checkGroups (opened position : Nat) : List Char → Except Reason Unit
  | [] => if opened = 0 then .ok () else .error (.unclosed opened)
  | c :: rest =>
    if c = '(' then
      if opened = maxNesting then .error (.groupsTooDeep position)
      else checkGroups (opened + 1) (position + 1) rest
    else if c = ')' then
      if opened = 0 then .error (.unexpectedClose position)
      else checkGroups (opened - 1) (position + 1) rest
    else checkGroups opened (position + c.utf8Size) rest

/-! ## Expressions -/

/-- What a reader of tokens gives: its result, and fewer tokens. -/
structure Parsed (α : Type) (tokens : List Token) where
  value : α
  rest : List Token
  fewer : rest.length < tokens.length

/-- What a reader gives that may take no token. -/
structure ParsedTail (α : Type) (tokens : List Token) where
  value : α
  rest : List Token
  noMore : rest.length ≤ tokens.length

/-- Whether the next token is the given keyword. -/
def startsWith (keyword : String) (tokens : List Token) : Bool :=
  tokens.head?.any (·.symbol.isKeyword keyword)

/-- The position of the next token, or of the end. -/
def nextPosition (stop : Nat) (tokens : List Token) : Nat :=
  tokens.head?.elim stop Token.position

/-- Reads the tags of a list behind its opening bracket, and the closing bracket. -/
def readTags : (tokens : List Token) → Except Reason (Parsed (List String) tokens)
  | [] => .error (.expected .tag none)
  | token :: rest =>
    match token.symbol.tag? with
    | none => .error (.expected .tag (some token))
    | some tag =>
      match rest with
      | ⟨_, .comma⟩ :: rest => do
        let others ← readTags rest
        return ⟨tag :: others.value, others.rest, Nat.lt_add_right 2 others.fewer⟩
      | ⟨_, .closeList⟩ :: rest => .ok ⟨[tag], rest, Nat.lt_add_of_pos_right Nat.two_pos⟩
      | rest => .error (.expected .commaOrCloseList rest.head?)

/-- Reads a list of tags, as the disjunction of them. -/
def readList : (tokens : List Token) → Except Reason (Parsed Expr tokens)
  | ⟨position, .openList⟩ :: rest =>
    match rest with
    | ⟨_, .closeList⟩ :: _ => .error (.emptyList position)
    | rest => do
      let tags ← readTags rest
      return ⟨Expr.chain .or (tags.value.map .tag), tags.rest, by
        have := tags.fewer; grind⟩
  | tokens => .error (.expected .openList tokens.head?)

mutual

/-- Reads operands divided by `or`, inside of `depth` groups and negations. The query ends at the
    position `stop`. -/
def readOr (stop depth : Nat) (tokens : List Token) : Except Reason (Parsed Expr tokens) := do
  let first ← readAnd stop depth tokens
  let others ← readOrTail stop depth first.rest
  return ⟨Expr.chain .or (first.value :: others.value), others.rest, by
    have := first.fewer; have := others.noMore; omega⟩
termination_by (tokens.length, 3)
decreasing_by
  · simp [Prod.lex_def]
  · have := first.fewer; simp [Prod.lex_def]; omega

/-- Reads the further operands of a disjunction. -/
def readOrTail (stop depth : Nat) (tokens : List Token) :
    Except Reason (ParsedTail (List Expr) tokens) :=
  match tokens with
  | [] => .ok ⟨[], [], by simp⟩
  | token :: rest =>
    if token.symbol.isKeyword "or" then do
      let next ← readAnd stop depth rest
      let others ← readOrTail stop depth next.rest
      return ⟨next.value :: others.value, others.rest, by
        have := next.fewer; have := others.noMore; grind⟩
    else .ok ⟨[], token :: rest, by simp⟩
termination_by (tokens.length, 4)
decreasing_by
  · simp [Prod.lex_def]
  · have := next.fewer; simp [Prod.lex_def]; omega

/-- Reads operands divided by `and`. -/
def readAnd (stop depth : Nat) (tokens : List Token) : Except Reason (Parsed Expr tokens) := do
  let first ← readUnary stop depth tokens
  let others ← readAndTail stop depth first.rest
  return ⟨Expr.chain .and (first.value :: others.value), others.rest, by
    have := first.fewer; have := others.noMore; omega⟩
termination_by (tokens.length, 2)
decreasing_by
  · simp [Prod.lex_def]
  · have := first.fewer; simp [Prod.lex_def]; omega

/-- Reads the further operands of a conjunction. -/
def readAndTail (stop depth : Nat) (tokens : List Token) :
    Except Reason (ParsedTail (List Expr) tokens) :=
  match tokens with
  | [] => .ok ⟨[], [], by simp⟩
  | token :: rest =>
    if token.symbol.isKeyword "and" then do
      let next ← readUnary stop depth rest
      let others ← readAndTail stop depth next.rest
      return ⟨next.value :: others.value, others.rest, by
        have := next.fewer; have := others.noMore; grind⟩
    else .ok ⟨[], token :: rest, by simp⟩
termination_by (tokens.length, 4)
decreasing_by
  · simp [Prod.lex_def]
  · have := next.fewer; simp [Prod.lex_def]; omega

/-- Reads an operand with the keyword before it, if there is one. -/
def readUnary (stop depth : Nat) (tokens : List Token) : Except Reason (Parsed Expr tokens) :=
  match tokens with
  | [] => readPrimary stop depth []
  | token :: rest =>
    if token.symbol.isKeyword "not" then
      if depth = maxNesting then .error (.nestedTooDeep (nextPosition stop rest))
      else do
        let inner ← readUnary stop (depth + 1) rest
        return ⟨.not inner.value, inner.rest, by have := inner.fewer; grind⟩
    else if token.symbol.isKeyword "is" then
      match rest with
      | next :: others =>
        if next.symbol.isKeyword "not" then do
          let inner ← readPrimary stop depth others
          return ⟨.not inner.value, inner.rest, by have := inner.fewer; grind⟩
        else do
          let inner ← readPrimary stop depth (next :: others)
          return ⟨inner.value, inner.rest, by have := inner.fewer; grind⟩
      | [] => .error (.expected .tag none)
    else if token.symbol.isKeyword "in" then do
      let list ← readList rest
      return ⟨list.value, list.rest, by have := list.fewer; grind⟩
    else readPrimary stop depth (token :: rest)
termination_by (tokens.length, 1)
decreasing_by
  · simp [Prod.lex_def]
  · simp [Prod.lex_def]
  · simp only [Prod.lex_def, List.length_cons]
    omega
  · simp [Prod.lex_def]
  · simp [Prod.lex_def]

/-- Reads a group or a tag. -/
def readPrimary (stop depth : Nat) (tokens : List Token) : Except Reason (Parsed Expr tokens) :=
  match tokens with
  | [] => .error (.expected .tag none)
  | ⟨position, .openGroup⟩ :: rest =>
    match rest with
    | ⟨_, .closeGroup⟩ :: _ => .error (.emptyGroup position)
    | rest =>
      if depth = maxNesting then .error (.nestedTooDeep (nextPosition stop rest))
      else do
        let inner ← readOr stop (depth + 1) rest
        match h : inner.rest with
        | ⟨_, .closeGroup⟩ :: others =>
          return ⟨inner.value, others, by
            have := inner.fewer; simp only [h, List.length_cons] at *; omega⟩
        | others => .error (.expected .closeGroup others.head?)
  | token :: rest =>
    match token.symbol.tag? with
    | some tag => .ok ⟨.tag tag, rest, by simp⟩
    | none => .error (.expected .tag (some token))
termination_by (tokens.length, 0)
decreasing_by simp [Prod.lex_def]

end

/-! ## Queries -/

/-- A query that has been read: its text, and the condition it states. -/
structure Query where
  source : String
  expr : Expr
  deriving BEq

/-- Reads a query. -/
def Query.parse (source : String) : Except Reason Query := do
  checkGroups 0 0 source.toList
  let tokens ← (tokens source).mapError .quotedWord
  if tokens.isEmpty then throw .empty
  else
    let parsed ← readOr source.utf8ByteSize 0 tokens
    match parsed.rest with
    | [] => return ⟨source, parsed.value⟩
    | token :: _ => throw (.leftover token)

end ScenarioTree.Tag
