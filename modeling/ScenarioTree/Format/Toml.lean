import ScenarioTree.Format.Toml.Scalar
import ScenarioTree.Format.Toml.Table

/-!
# Reading TOML

A reader of TOML 1.0 documents; its parts give what they read and the rest of the text. First come
the statements (headers and assignments, with their values), then the tables that they build. Lists
and inline tables may nest 79 deep, and dotted keys may have 79 parts.
-/

namespace ScenarioTree.Toml

/-! ## White space and comments -/

def isBlank (c : Char) : Bool := c == ' ' || c == '\t'

/-- The text after blanks. -/
def skipBlanks (text : List Char) : List Char := text.dropWhile isBlank

/-- Whether a character may stand in a comment or a literal string: no control character but the
    tab. -/
def isTextChar (c : Char) : Bool := c == '\t' || (0x20 ≤ c.toNat && c.toNat != 0x7F)

/-- The text after a line break. -/
def afterBreak? : List Char → Option (List Char)
  | '\n' :: rest => some rest
  | '\r' :: '\n' :: rest => some rest
  | _ => none

/-- The text after a comment, if there is one. -/
def skipComment (text : List Char) : List Char :=
  if text.head? = some '#' then text.dropWhile isTextChar else text

/-- The text after the end of a line: blanks, a comment, and a line break or the end. -/
def afterLine? (text : List Char) : Option (List Char) :=
  match skipComment (skipBlanks text) with
  | [] => some []
  | rest => afterBreak? rest

/-- The text after blanks, comments and line breaks. At most `fuel` of each are passed. -/
def skipLines (fuel : Nat) (text : List Char) : Option (List Char) :=
  match fuel with
  | 0 => some text
  | fuel + 1 =>
    match skipComment (skipBlanks text) with
    | rest@('\n' :: _) | rest@('\r' :: _) => (afterBreak? rest).bind (skipLines fuel)
    | rest => some rest

/-! ## Strings -/

/-- Reads the character that an escape of `count` hexadecimal digits stands for. -/
def unicode (count : Nat) (text : List Char) : Option (Char × List Char) := do
  let digits := text.take count
  let n ← Json.hexNumber? digits
  if digits.length = count ∧ n.isValidChar then return (Char.ofNat n, text.drop count) else none

/-- Reads an escape after its backslash. -/
def readEscape : List Char → Option (Char × List Char)
  | 'b' :: rest => some ('\x08', rest)
  | 't' :: rest => some ('\t', rest)
  | 'n' :: rest => some ('\n', rest)
  | 'f' :: rest => some ('\x0c', rest)
  | 'r' :: rest => some ('\r', rest)
  | '"' :: rest => some ('"', rest)
  | '\\' :: rest => some ('\\', rest)
  | 'u' :: rest => unicode 4 rest
  | 'U' :: rest => unicode 8 rest
  | _ => none

/-- Reads a string of one line after its opening quote. The characters so far come in reverse. -/
def readLineString (quote : Char) (fuel : Nat) (read text : List Char) :
    Option (String × List Char) :=
  match fuel, text with
  | 0, _ | _, [] => none
  | fuel + 1, c :: rest =>
    if c = quote then some (String.ofList read.reverse, rest)
    else if c = '\\' ∧ quote = '"' then do
      let (char, rest) ← readEscape rest
      readLineString quote fuel (char :: read) rest
    else if isTextChar c then readLineString quote fuel (c :: read) rest
    else none

/-- The text after a backslash that ends a line: the break, and all blanks and breaks behind it. -/
def afterContinuation? (text : List Char) : Option (List Char) :=
  (afterBreak? (skipBlanks text)).bind fun rest => skipBreaks rest.length rest
where
  /-- The text after blanks and line breaks. -/
  skipBreaks (fuel : Nat) (text : List Char) : Option (List Char) :=
    match fuel with
    | 0 => some text
    | fuel + 1 =>
      match afterBreak? (skipBlanks text) with
      | some rest => skipBreaks fuel rest
      | none => some (skipBlanks text)

/-- Reads a string of several lines after its opening quotes. Up to two quotes may stand before the
    three that close it. Line breaks are read as line feeds. -/
def readBlockString (quote : Char) (fuel : Nat) (read text : List Char) :
    Option (String × List Char) :=
  match fuel, text with
  | 0, _ | _, [] => none
  | fuel + 1, c :: rest =>
    if c = quote then
      let quotes := text.takeWhile (· == quote)
      if quotes.length < 3 then readBlockString quote fuel (c :: read) rest
      else if quotes.length ≤ 5 then
        some (String.ofList (quotes.drop 3 ++ read).reverse, text.drop quotes.length)
      else none
    else if c = '\\' ∧ quote = '"' then
      match afterContinuation? rest with
      | some rest => readBlockString quote fuel read rest
      | none => do
        let (char, rest) ← readEscape rest
        readBlockString quote fuel (char :: read) rest
    else if isTextChar c then readBlockString quote fuel (c :: read) rest
    else do readBlockString quote fuel ('\n' :: read) (← afterBreak? text)

/-- Reads a string that begins with a quote. A break right after three quotes does not count. -/
def readString (quote : Char) (text : List Char) : Option (String × List Char) :=
  if (text.take 3).length = 3 ∧ (text.take 3).all (· == quote) then
    let body := text.drop 3
    let body := (afterBreak? body).getD body
    readBlockString quote (body.length + 1) [] body
  else readLineString quote text.length [] (text.drop 1)

/-! ## Keys -/

/-- How many parts a key has at least that is refused, and how deep values nest that are refused. -/
def nestingLimit : Nat := 80

def isKeyChar (c : Char) : Bool := c.isAlphanum || c == '_' || c == '-'

/-- Reads a part of a key. -/
def readKeyPart (text : List Char) : Option (String × List Char) :=
  match text with
  | '"' :: rest => readLineString '"' text.length [] rest
  | '\'' :: rest => readLineString '\'' text.length [] rest
  | text =>
    let key := text.takeWhile isKeyChar
    if key.isEmpty then none else some (String.ofList key, text.dropWhile isKeyChar)

/-- Reads the parts of a dotted key, of which at most `fuel` are allowed, and the blanks after
    it. -/
def readKey (fuel : Nat) (text : List Char) : Option (List String × List Char) :=
  match fuel with
  | 0 => none
  | fuel + 1 => do
    let (part, rest) ← readKeyPart (skipBlanks text)
    match skipBlanks rest with
    | '.' :: rest =>
      let (parts, rest) ← readKey fuel rest
      return (part :: parts, rest)
    | rest => return ([part], rest)

/-- Splits a key into the path of its table and its last part. -/
def splitKey (key : List String) : Option (List String × String) :=
  key.getLast?.map (key.dropLast, ·)

/-! ## Values -/

mutual

/-- Reads a value, inside of `depth` lists and inline tables. -/
def readValue (fuel depth : Nat) (text : List Char) : Option (Value × List Char) :=
  match fuel with
  | 0 => none
  | fuel + 1 =>
    match text with
    | '"' :: _ => (readString '"' text).map fun (s, rest) => (.string s, rest)
    | '\'' :: _ => (readString '\'' text).map fun (s, rest) => (.string s, rest)
    | '[' :: rest =>
      if nestingLimit ≤ depth + 1 then none
      else (readItems fuel (depth + 1) rest).map fun (items, rest) => (.array items, rest)
    | '\x7b' :: rest =>
      if nestingLimit ≤ depth + 1 then none
      else
        match skipBlanks rest with
        | '\x7d' :: rest => some (.object [], rest)
        | rest => do
          let (entries, rest) ← readPairs fuel (depth + 1) [] rest
          return ((Node.table false false entries).toValue, rest)
    | text => readWord text

/-- Reads the items of a list and its closing bracket. The last comma may be superfluous. -/
def readItems (fuel depth : Nat) (text : List Char) : Option (List Value × List Char) :=
  match fuel with
  | 0 => none
  | fuel + 1 => do
    match ← skipLines text.length text with
    | ']' :: rest => return ([], rest)
    | rest =>
      let (item, rest) ← readValue fuel depth rest
      match ← skipLines rest.length rest with
      | ']' :: rest => return ([item], rest)
      | ',' :: rest =>
        let (items, rest) ← readItems fuel depth rest
        return (item :: items, rest)
      | _ => none

/-- Reads the assignments of an inline table and its closing brace. -/
def readPairs (fuel depth : Nat) (entries : Entries) (text : List Char) :
    Option (Entries × List Char) :=
  match fuel with
  | 0 => none
  | fuel + 1 => do
    let (key, rest) ← readKey (nestingLimit - 1) text
    let (path, last) ← splitKey key
    match rest with
    | '=' :: rest =>
      let (value, rest) ← readValue fuel depth (skipBlanks rest)
      let entries ← assign entries path last value
      match skipBlanks rest with
      | '\x7d' :: rest => return (entries, rest)
      | ',' :: rest => readPairs fuel depth entries rest
      | _ => none
    | _ => none

end

/-! ## Statements -/

/-- A statement of a document. The last part of its key stands apart. -/
inductive Statement where
  | table (path : List String) (key : String)
  | element (path : List String) (key : String)
  | assign (path : List String) (key : String) (value : Value)

/-- Reads a header after its opening brackets. -/
def readHeader (closing : List Char) (text : List Char) :
    Option ((List String × String) × List Char) := do
  let (key, rest) ← readKey (nestingLimit - 1) text
  if closing.isPrefixOf rest then
    return (← splitKey key, ← afterLine? (rest.drop closing.length))
  else none

/-- Reads a statement. -/
def readStatement (text : List Char) : Option (Statement × List Char) :=
  match text with
  | '[' :: '[' :: rest =>
    (readHeader [']', ']'] rest).map fun ((path, key), rest) => (.element path key, rest)
  | '[' :: rest => (readHeader [']'] rest).map fun ((path, key), rest) => (.table path key, rest)
  | text => do
    let (key, rest) ← readKey (nestingLimit - 1) text
    let (path, last) ← splitKey key
    match rest with
    | '=' :: rest =>
      let rest := skipBlanks rest
      let (value, rest) ← readValue (2 * rest.length + 2) 0 rest
      return (.assign path last value, ← afterLine? rest)
    | _ => none

/-- Reads statements up to the end of the text, at most `fuel` of them. -/
def readStatements (fuel : Nat) (text : List Char) : Option (List Statement) :=
  match fuel with
  | 0 => none
  | fuel + 1 => do
    match ← skipLines text.length text with
    | [] => return []
    | text =>
      let (statement, rest) ← readStatement text
      return statement :: (← readStatements fuel rest)

/-! ## Documents -/

/-- The header that assignments stand under. -/
inductive Header where
  | none
  | table (path : List String) (key : String)
  | element (path : List String) (key : String)

/-- A document under construction: the finished part, and the table that assignments go to. -/
structure Draft where
  root : Entries
  header : Header
  current : Entries

/-- Puts the current table where its header says. -/
def Draft.close (draft : Draft) : Option Entries :=
  match draft.header with
  | .none => some draft.current
  | .table path key => closeTable draft.root path key draft.current
  | .element path key => closeElement draft.root path key draft.current

/-- Carries out a statement. -/
def Draft.step (draft : Draft) : Statement → Option Draft
  | .table path key => do
    let (root, current) ← openTable (← draft.close) path key
    return ⟨root, .table path key, current⟩
  | .element path key => do
    let root ← openElement (← draft.close) path key
    return ⟨root, .element path key, []⟩
  | .assign path key value => do
    return { draft with current := ← assign draft.current path key value }

/-- Reads a TOML document. A byte order mark at its start is passed over. -/
def parse? (text : String) : Option Value := do
  let text := match text.toList with
    | '\ufeff' :: rest => rest
    | text => text
  let statements ← readStatements (text.length + 1) text
  let draft ← statements.foldlM Draft.step ⟨[], .none, []⟩
  return (Node.table false false (← draft.close)).toValue

end ScenarioTree.Toml
