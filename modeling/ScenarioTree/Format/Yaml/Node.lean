import ScenarioTree.Format.Yaml.Token

/-!
# Nodes of YAML

The tree of nodes that tokens stand for. Tags are resolved against the directives of the document.
Aliases carry the number of the anchor that they mean: a name that is defined again moves on to a
new number, which counts the names known by then. Two names can come to share a number.

Collections are followed 129 deep, one more than any reader of the nodes accepts.
-/

namespace ScenarioTree.Yaml

/-- A node: a scalar, an alias, a list of nodes or a list of pairs. -/
inductive Node where
  | scalar (anchor : Option Nat) (tag : Option String) (plain : Bool) (text : String)
  | alias (anchor : Nat)
  | sequence (anchor : Option Nat) (tag : Option String) (items : List Node)
  | mapping (anchor : Option Nat) (tag : Option String) (pairs : List (Node × Node))

/-- The names of the anchors so far, with the number that each stands for now. -/
abbrev Anchors := List (String × Nat)

/-- Defines a name. -/
def Anchors.define (anchors : Anchors) (name : String) : Nat × Anchors :=
  (anchors.length, (name, anchors.length) :: anchors.filter (·.1 != name))

/-- The handles of tags and what they stand for. -/
abbrev Handles := List (String × List UInt8)

/-- The tag that bytes stand for. Bytes that are no text are not known as a tag: where they would be
    a tag of one's own there is none, and otherwise one without a name. -/
def tagOfBytes (bytes : List UInt8) : Option String :=
  match String.fromUTF8? ⟨bytes.toArray⟩ with
  | some tag => some tag
  | none => if bytes.head? = some 0x21 then none else some ""

/-- The tag that a written tag stands for. Its handle has to be known. -/
def RawTag.resolve? (tag : RawTag) (handles : Handles) : Option (Option String) :=
  if tag.handle.isEmpty then some (tagOfBytes tag.suffix)
  else (handles.lookup tag.handle).map fun front => tagOfBytes (front ++ tag.suffix)

/-- The empty scalar that stands where a node is missing. -/
def Node.missing : Node := .scalar none none true ""

/-- The anchor and the tag of a node, in either order. -/
def readProperties : List Token → Option String × Option RawTag × List Token
  | .anchor name :: .tag tag :: rest => (some name, some tag, rest)
  | .anchor name :: rest => (some name, none, rest)
  | .tag tag :: .anchor name :: rest => (some name, some tag, rest)
  | .tag tag :: rest => (none, some tag, rest)
  | rest => (none, none, rest)

/-- Where a collection stands: what its style allows inside of it. -/
structure Place where
  /-- Block collections may stand here. -/
  block : Bool
  /-- A block list may stand here without indentation. -/
  indentless : Bool

mutual

/-- Reads a node. -/
def readNode (handles : Handles) (fuel depth : Nat) (place : Place) (anchors : Anchors)
    (tokens : List Token) : Option (Node × Anchors × List Token) :=
  match fuel with
  | 0 => none
  | fuel + 1 =>
    match tokens with
    | .alias name :: rest => do return (.alias (← anchors.lookup name), anchors, rest)
    | tokens => do
      let (name, rawTag, tokens) := readProperties tokens
      let tag ← match rawTag with
        | some raw => raw.resolve? handles
        | none => some none
      let (anchor, anchors) := match name with
        | some name => (anchors.define name).map some id
        | none => (none, anchors)
      let sequence (read : Option (List Node × Anchors × List Token)) :=
        read.map fun (items, anchors, rest) => (Node.sequence anchor tag items, anchors, rest)
      let mapping (read : Option (List (Node × Node) × Anchors × List Token)) :=
        read.map fun (pairs, anchors, rest) => (Node.mapping anchor tag pairs, anchors, rest)
      match tokens, depth with
      | .scalar text plain :: rest, _ => return (.scalar anchor tag plain text, anchors, rest)
      | .blockEntry :: _, depth + 1 =>
        if place.indentless then
          sequence (readIndentless handles fuel depth anchors tokens)
        else if name.isSome || rawTag.isSome then
          return (.scalar anchor tag true "", anchors, tokens)
        else none
      | .flowSequenceStart :: rest, depth + 1 =>
        sequence (readFlowSequence handles fuel depth true anchors rest)
      | .flowMappingStart :: rest, depth + 1 =>
        mapping (readFlowMapping handles fuel depth true anchors rest)
      | .blockSequenceStart :: rest, depth + 1 =>
        if place.block then sequence (readBlockSequence handles fuel depth anchors rest)
        else if name.isSome || rawTag.isSome then
          return (.scalar anchor tag true "", anchors, tokens)
        else none
      | .blockMappingStart :: rest, depth + 1 =>
        if place.block then mapping (readBlockMapping handles fuel depth anchors rest)
        else if name.isSome || rawTag.isSome then
          return (.scalar anchor tag true "", anchors, tokens)
        else none
      | _, _ =>
        if name.isSome || rawTag.isSome then
          return (.scalar anchor tag true "", anchors, tokens)
        else none

/-- Reads the entries of a block list that has its own indentation, and its end. -/
def readBlockSequence (handles : Handles) (fuel depth : Nat) (anchors : Anchors)
    (tokens : List Token) : Option (List Node × Anchors × List Token) :=
  match fuel, tokens with
  | 0, _ => none
  | fuel + 1, .blockEntry :: rest => do
    let (item, anchors, rest) ← match rest with
      | .blockEntry :: _ | .blockEnd :: _ => some (Node.missing, anchors, rest)
      | rest => readNode handles fuel depth ⟨true, false⟩ anchors rest
    let (items, anchors, rest) ← readBlockSequence handles fuel depth anchors rest
    return (item :: items, anchors, rest)
  | _ + 1, .blockEnd :: rest => some ([], anchors, rest)
  | _ + 1, _ => none

/-- Reads the entries of a block list without indentation; it has no end of its own. -/
def readIndentless (handles : Handles) (fuel depth : Nat) (anchors : Anchors)
    (tokens : List Token) : Option (List Node × Anchors × List Token) :=
  match fuel, tokens with
  | 0, _ => none
  | fuel + 1, .blockEntry :: rest => do
    let (item, anchors, rest) ← match rest with
      | .blockEntry :: _ | .key :: _ | .value :: _ | .blockEnd :: _ =>
        some (Node.missing, anchors, rest)
      | rest => readNode handles fuel depth ⟨true, false⟩ anchors rest
    let (items, anchors, rest) ← readIndentless handles fuel depth anchors rest
    return (item :: items, anchors, rest)
  | _ + 1, tokens => some ([], anchors, tokens)

/-- Reads a key or value of a block mapping, which may be missing. -/
def readBlockPart (handles : Handles) (fuel depth : Nat) (anchors : Anchors)
    (tokens : List Token) : Option (Node × Anchors × List Token) :=
  match fuel, tokens with
  | 0, _ => none
  | _ + 1, .key :: _ | _ + 1, .value :: _ | _ + 1, .blockEnd :: _ =>
    some (Node.missing, anchors, tokens)
  | fuel + 1, tokens => readNode handles fuel depth ⟨true, true⟩ anchors tokens

/-- Reads the pairs of a block mapping, and its end. -/
def readBlockMapping (handles : Handles) (fuel depth : Nat) (anchors : Anchors)
    (tokens : List Token) : Option (List (Node × Node) × Anchors × List Token) :=
  match fuel, tokens with
  | 0, _ => none
  | fuel + 1, .key :: rest => do
    let (key, anchors, rest) ← readBlockPart handles fuel depth anchors rest
    let (value, anchors, rest) ← match rest with
      | .value :: rest => readBlockPart handles fuel depth anchors rest
      | rest => some (Node.missing, anchors, rest)
    let (pairs, anchors, rest) ← readBlockMapping handles fuel depth anchors rest
    return ((key, value) :: pairs, anchors, rest)
  | _ + 1, .blockEnd :: rest => some ([], anchors, rest)
  | _ + 1, _ => none

/-- Reads the entries of a flow list, and its end. A pair among them is a mapping of one pair. A
    question mark must have a key behind it. -/
def readFlowSequence (handles : Handles) (fuel depth : Nat) (first : Bool) (anchors : Anchors)
    (tokens : List Token) : Option (List Node × Anchors × List Token) :=
  match fuel with
  | 0 => none
  | fuel + 1 =>
    match tokens with
    | .flowSequenceEnd :: rest => some ([], anchors, rest)
    | tokens => do
      let tokens ← match first, tokens with
        | true, tokens => some tokens
        | false, .flowEntry :: rest => some rest
        | false, _ => none
      match tokens, depth with
      | .flowSequenceEnd :: rest, _ => return ([], anchors, rest)
      | .key :: rest, inner + 1 =>
        let (key, anchors, rest) ← match rest with
          | .value :: rest | .flowEntry :: rest | .flowSequenceEnd :: rest =>
            some (Node.missing, anchors, rest)
          | rest => readNode handles fuel inner ⟨false, false⟩ anchors rest
        let (value, anchors, rest) ← match rest with
          | .value :: .flowEntry :: rest => some (Node.missing, anchors, .flowEntry :: rest)
          | .value :: .flowSequenceEnd :: rest =>
            some (Node.missing, anchors, .flowSequenceEnd :: rest)
          | .value :: rest => readNode handles fuel inner ⟨false, false⟩ anchors rest
          | rest => some (Node.missing, anchors, rest)
        let (items, anchors, rest) ← readFlowSequence handles fuel depth false anchors rest
        return (.mapping none none [(key, value)] :: items, anchors, rest)
      | .key :: _, 0 => none
      | tokens, _ =>
        let (item, anchors, rest) ← readNode handles fuel depth ⟨false, false⟩ anchors tokens
        let (items, anchors, rest) ← readFlowSequence handles fuel depth false anchors rest
        return (item :: items, anchors, rest)

/-- Reads the pairs of a flow mapping, and its end. -/
def readFlowMapping (handles : Handles) (fuel depth : Nat) (first : Bool) (anchors : Anchors)
    (tokens : List Token) : Option (List (Node × Node) × Anchors × List Token) :=
  match fuel with
  | 0 => none
  | fuel + 1 =>
    match tokens with
    | .flowMappingEnd :: rest => some ([], anchors, rest)
    | tokens => do
      let tokens ← match first, tokens with
        | true, tokens => some tokens
        | false, .flowEntry :: rest => some rest
        | false, _ => none
      match tokens with
      | .flowMappingEnd :: rest => return ([], anchors, rest)
      | .key :: rest =>
        let (key, anchors, rest) ← match rest with
          | .value :: _ | .flowEntry :: _ | .flowMappingEnd :: _ =>
            some (Node.missing, anchors, rest)
          | rest => readNode handles fuel depth ⟨false, false⟩ anchors rest
        let (value, anchors, rest) ← match rest with
          | .value :: .flowEntry :: rest => some (Node.missing, anchors, .flowEntry :: rest)
          | .value :: .flowMappingEnd :: rest =>
            some (Node.missing, anchors, .flowMappingEnd :: rest)
          | .value :: rest => readNode handles fuel depth ⟨false, false⟩ anchors rest
          | rest => some (Node.missing, anchors, rest)
        let (pairs, anchors, rest) ← readFlowMapping handles fuel depth false anchors rest
        return ((key, value) :: pairs, anchors, rest)
      | tokens =>
        let (key, anchors, rest) ← readNode handles fuel depth ⟨false, false⟩ anchors tokens
        let (pairs, anchors, rest) ← readFlowMapping handles fuel depth false anchors rest
        return ((key, Node.missing) :: pairs, anchors, rest)

end

/-! ## Documents -/

/-- Reads the directives of a document: at most one version, 1.1 or 1.2, and each handle at most
    once. -/
def readDirectives (version : Bool) (handles : Handles) :
    List Token → Option (Handles × List Token)
  | .versionDirective major minor :: rest =>
    if version || major ≠ 1 || (minor ≠ 1 && minor ≠ 2) then none
    else readDirectives true handles rest
  | .tagDirective handle meaning :: rest =>
    if (handles.lookup handle).isSome then none
    else readDirectives version ((handle, meaning) :: handles) rest
  | tokens => some (handles, tokens)

/-- What the handles stand for where no directive says otherwise. -/
def defaultHandles : Handles :=
  [("!", "!".toUTF8.toList), ("!!", "tag:yaml.org,2002:".toUTF8.toList)]

/-- How deep collections are followed. -/
def nodeDepth : Nat := 129

/-- The node of the one document that tokens stand for; none inside if there is no document. Behind
    the document only ends of documents may follow. -/
def documentOfTokens? (tokens : List Token) : Option (Option Node) := do
  if tokens.isEmpty then return none
  else
    let fuel := 4 * tokens.length + 4
    let (node, rest) ← match tokens with
      | .versionDirective .. :: _ | .tagDirective .. :: _ | .documentStart :: _ => do
        let (handles, rest) ← readDirectives false [] tokens
        match rest with
        | .documentStart :: rest =>
          match rest with
          | [] | .versionDirective .. :: _ | .tagDirective .. :: _ | .documentStart :: _
          | .documentEnd :: _ => some (Node.missing, rest)
          | rest =>
            let read := readNode (handles ++ defaultHandles) fuel nodeDepth ⟨true, false⟩ [] rest
            read.map fun (node, _, rest) => (node, rest)
        | _ => none
      | tokens =>
        let read := readNode defaultHandles fuel nodeDepth ⟨true, false⟩ [] tokens
        read.map fun (node, _, rest) => (node, rest)
    let isEnd (token : Token) : Bool := match token with
      | .documentEnd => true
      | _ => false
    if rest.all isEnd then return some node else none

end ScenarioTree.Yaml
