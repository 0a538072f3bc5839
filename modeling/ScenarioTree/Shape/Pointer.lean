/-!
# Pointers into documents

A pointer names a part of a document by the keys and indices that lead to it, each behind a slash.
In a key a tilde is written `~0` and a slash `~1`.
-/

namespace ScenarioTree.Pointer

/-- A key as it is written in a pointer. -/
def escape (key : String) : String :=
  String.ofList <| key.toList.flatMap fun
    | '~' => ['~', '0']
    | '/' => ['~', '1']
    | c => [c]

/-- The key that is written in a pointer. -/
def unescape : List Char → List Char
  | '~' :: '0' :: rest => '~' :: unescape rest
  | '~' :: '1' :: rest => '/' :: unescape rest
  | c :: rest => c :: unescape rest
  | [] => []

/-- The pointer of keys and indices. -/
def text (keys : List String) : String := String.join (keys.map fun key => "/" ++ escape key)

/-- Whether every tilde of a text is part of an escape. -/
def isEscaped : List Char → Bool
  | '~' :: '0' :: rest | '~' :: '1' :: rest => isEscaped rest
  | '~' :: _ => false
  | _ :: rest => isEscaped rest
  | [] => true

/-- Whether a text is a pointer. -/
def isPointer (text : List Char) : Bool :=
  match text with
  | [] => true
  | '/' :: rest => isEscaped rest
  | _ => false

/-- Whether a text is a pointer from a part of a document: how far to go up, and then a pointer or a
    `#`. -/
def isRelative (text : List Char) : Bool :=
  let count := text.takeWhile Char.isDigit
  let behind := text.drop count.length
  !count.isEmpty && (count.length == 1 || count.head? != some '0')
    && (behind == ['#'] || isPointer behind)

end ScenarioTree.Pointer
