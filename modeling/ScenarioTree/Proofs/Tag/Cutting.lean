import ScenarioTree.Proofs.Tag.Spelling

/-!
# Cutting a text into tokens

A text is cut up in rounds. Each round takes a blank, a sign or a word off the front, and so at least
one character, and gives the token that it finds. Nothing is lost on the way: what the tokens of the
rest say about the rest, they and the token of the round say about the whole.

In the end every token is the slice of the text at its position, the words are the runs of characters
between delimiters, and what is in no token is blank. Only one list of tokens says this of a text.

Results:

* `exists_round`: each round takes something, or finds a quote.
* `Round.isWordAt_iff`, `Round.isCharAt_iff`, `Describes.round`: what a round keeps.
* `describes_tokensFrom`: what a whole run says about a text.
* `IsCut.unique`: tokens are told by what they say about the text.
* `tokens_outcome`: all of it for every text.
-/

namespace ScenarioTree.Tag

/-! ## Lengths -/

theorem byteLength_cons (c : Char) (cs : List Char) :
    byteLength (c :: cs) = c.utf8Size + byteLength cs := rfl

theorem byteLength_append (cs ds : List Char) :
    byteLength (cs ++ ds) = byteLength cs + byteLength ds := by
  induction cs with
  | nil => exact (Nat.zero_add _).symm
  | cons c cs ih => rw [List.cons_append, byteLength_cons, byteLength_cons, ih, Nat.add_assoc]

theorem byteLength_eq (cs : List Char) : byteLength cs = (String.ofList cs).utf8ByteSize := by
  induction cs with
  | nil => rfl
  | cons c cs ih =>
    have hsplit : String.ofList (c :: cs) = String.singleton c ++ String.ofList cs := by
      rw [String.singleton_eq_ofList, ← String.ofList_append, List.singleton_append]
    rw [byteLength_cons, ih, hsplit, String.utf8ByteSize_append, String.utf8ByteSize_singleton]

theorem byteLength_toList (s : String) : byteLength s.toList = s.utf8ByteSize := by
  rw [byteLength_eq, String.ofList_toList]

/-- The position behind a token. -/
def Token.stop (token : Token) : Nat := token.position + token.symbol.text.utf8ByteSize

/-! ## Places -/

/-- A word, and where it begins in a text that begins at a position itself. -/
def IsWordAt (start : Nat) (text : List Char) (place : Nat) (word : List Char) : Prop :=
  ∃ before after, text = before ++ (word ++ after) ∧ IsWordBetween before word after ∧
    start + byteLength before = place

/-- A character, and where it stands. -/
def IsCharAt (start : Nat) (text : List Char) (place : Nat) (c : Char) : Prop :=
  ∃ before after, text = before ++ c :: after ∧ start + byteLength before = place

section Places

variable {start place : Nat} {text rest word : List Char} {c : Char}

theorem isWord_iff_exists_place (start : Nat) :
    IsWord text word ↔ ∃ place, IsWordAt start text place word := by
  rw [isWord_iff]
  constructor
  · rintro ⟨before, after, htext, hbetween⟩
    exact ⟨_, before, after, htext, hbetween, rfl⟩
  · rintro ⟨_, before, after, htext, hbetween, -⟩
    exact ⟨before, after, htext, hbetween⟩

theorem IsWordAt.le (h : IsWordAt start text place word) : start ≤ place := by
  obtain ⟨before, after, -, -, rfl⟩ := h
  exact Nat.le_add_right _ _

theorem not_isWordAt_nil : ¬ IsWordAt start [] place word := fun h =>
  not_isWord_nil ((isWord_iff_exists_place start).2 ⟨place, h⟩)

theorem not_isCharAt_nil : ¬ IsCharAt start [] place c := by
  rintro ⟨before, after, htext, -⟩
  exact List.append_ne_nil_of_right_ne_nil before (List.cons_ne_nil c after) htext.symm

theorem isWordAt_cons_iff (hc : isDelimiter c = true) :
    IsWordAt start (c :: rest) place word ↔
      IsWordAt (start + byteLength [c]) rest place word := by
  unfold IsWordAt
  rw [exists_isWordBetween_cons_iff hc]
  refine exists₂_congr fun before after => ?_
  rw [← List.singleton_append, byteLength_append, Nat.add_assoc]

theorem isWordAt_append_iff {run : List Char} (hne : run ≠ [])
    (hrun : ∀ c ∈ run, isDelimiter c = false) (hrest : ∀ c ∈ rest.head?, isDelimiter c = true) :
    IsWordAt start (run ++ rest) place word ↔
      (word = run ∧ start = place) ∨ IsWordAt (start + byteLength run) rest place word := by
  unfold IsWordAt
  rw [exists_isWordBetween_append_iff hne hrun hrest]
  simp only [byteLength_append, ← Nat.add_assoc]
  rfl

/-- A character of a text is one of its beginning or one of its rest. -/
theorem isCharAt_append_iff {taken : List Char} : IsCharAt start (taken ++ rest) place c ↔
    IsCharAt start taken place c ∨ IsCharAt (start + byteLength taken) rest place c := by
  constructor
  · rintro ⟨before, after, htext, rfl⟩
    rcases List.append_eq_append_iff.1 htext with ⟨between, rfl, rfl⟩ | ⟨between, rfl, hafter⟩
    · refine .inr ⟨between, after, rfl, ?_⟩
      rw [byteLength_append, Nat.add_assoc]
    · cases between with
      | nil =>
        refine .inr ⟨[], after, hafter.symm, ?_⟩
        rw [List.append_nil]
        rfl
      | cons d between =>
        obtain ⟨rfl, -⟩ := List.cons.inj hafter
        exact .inl ⟨before, between, rfl, rfl⟩
  · rintro (⟨before, after, rfl, rfl⟩ | ⟨before, after, rfl, rfl⟩)
    · exact ⟨before, after ++ rest, by rw [List.append_assoc, List.cons_append], rfl⟩
    · refine ⟨taken ++ before, after, (List.append_assoc ..).symm, ?_⟩
      rw [byteLength_append, Nat.add_assoc]

theorem isCharAt_singleton_iff {d : Char} :
    IsCharAt start [d] place c ↔ c = d ∧ start = place := by
  constructor
  · rintro ⟨before, after, htext, rfl⟩
    obtain ⟨rfl, hcons⟩ | ⟨hbefore, hnil⟩ := List.append_eq_singleton_iff.1 htext.symm
    · exact ⟨(List.cons.inj hcons).1, rfl⟩
    · cases hnil
  · rintro ⟨rfl, rfl⟩
    exact ⟨[], [], rfl, rfl⟩

end Places

/-! ## Rounds -/

/-- One round, at a position: what it takes off a text, what it leaves, and the token that it
    finds. -/
inductive Round (start : Nat) : List Char → List Char → Option Token → Prop where
  | blank {c : Char} {rest : List Char} (hc : Text.isBlank c = true) : Round start [c] rest none
  | sign {c : Char} {symbol : Symbol} {rest : List Char} (hc : punctuation? c = some symbol) :
    Round start [c] rest (some ⟨start, symbol⟩)
  | word {name : String} {rest : List Char} (hname : IsPlainWord name)
    (hend : ∀ c ∈ rest.head?, isDelimiter c = true) :
    Round start name.toList rest (some ⟨start, .word name⟩)

theorem text_of_punctuation {c : Char} {symbol : Symbol} (h : punctuation? c = some symbol) :
    symbol.text.toList = [c] := by
  unfold punctuation? at h
  split at h
  case h_6 => cases h
  all_goals
    cases h
    rfl

theorem eq_of_punctuation {c d : Char} {symbol : Symbol} (hc : punctuation? c = some symbol)
    (hd : punctuation? d = some symbol) : c = d := by
  have htext : [c] = [d] := (text_of_punctuation hc).symm.trans (text_of_punctuation hd)
  exact (List.cons.inj htext).1

theorem ne_word_of_punctuation {c : Char} {symbol : Symbol} (h : punctuation? c = some symbol)
    (name : String) : symbol ≠ .word name := by
  unfold punctuation? at h
  split at h
  case h_6 => cases h
  all_goals
    cases h
    exact nofun

section Round

variable {start place : Nat} {taken rest word : List Char} {c : Char} {found : Option Token}

/-- A round gets on. -/
theorem Round.ne_nil (h : Round start taken rest found) : taken ≠ [] := by
  cases h with
  | blank | sign => exact List.cons_ne_nil _ _
  | word hname => exact hname.ne_nil

/-- The token of a round is what the round takes. -/
theorem Round.of_some {token : Token} (h : Round start taken rest (some token)) :
    token.position = start ∧ token.symbol.text.toList = taken := by
  cases h with
  | sign hc => exact ⟨rfl, text_of_punctuation hc⟩
  | word => exact ⟨rfl, rfl⟩

theorem Round.stop_eq {token : Token} (h : Round start taken rest (some token)) :
    token.stop = start + byteLength taken := by
  obtain ⟨rfl, rfl⟩ := h.of_some
  rw [Token.stop, byteLength_toList]

/-- The words of a text are the one that a round takes, if it takes one, and those of the rest. -/
theorem Round.isWordAt_iff (h : Round start taken rest found) :
    IsWordAt start (taken ++ rest) place word ↔
      found = some ⟨place, .word (String.ofList word)⟩ ∨
        IsWordAt (start + byteLength taken) rest place word := by
  cases h with
  | blank hc =>
    rw [List.singleton_append, isWordAt_cons_iff (isDelimiter_of_isBlank hc)]
    simp
  | @sign c symbol _ hc =>
    rw [List.singleton_append, isWordAt_cons_iff (isDelimiter_of_punctuation hc)]
    have hne := ne_word_of_punctuation hc (String.ofList word)
    simp [hne]
  | @word name _ hname hend =>
    rw [isWordAt_append_iff hname.ne_nil hname.isWord hend]
    have hword : word = name.toList ↔ name = String.ofList word := by
      constructor
      · rintro rfl
        exact (String.ofList_toList).symm
      · rintro rfl
        exact (String.toList_ofList).symm
    simp [hword, and_comm]

/-- The signs of a text are the one that a round takes, if it takes one, and those of the rest. -/
theorem Round.isCharAt_iff {symbol : Symbol} (h : Round start taken rest found)
    (hc : punctuation? c = some symbol) :
    IsCharAt start (taken ++ rest) place c ↔
      found = some ⟨place, symbol⟩ ∨ IsCharAt (start + byteLength taken) rest place c := by
  rw [isCharAt_append_iff]
  refine or_congr_left ?_
  cases h with
  | blank hblank =>
    rw [isCharAt_singleton_iff]
    refine iff_of_false ?_ nofun
    rintro ⟨rfl, -⟩
    exact absurd hblank (Bool.eq_false_iff.1 (isBlank_eq_false_of_punctuation hc))
  | @sign d symbol' _ hd =>
    rw [isCharAt_singleton_iff]
    constructor
    · rintro ⟨rfl, rfl⟩
      rw [Option.some.inj (hd.symm.trans hc)]
    · intro h
      obtain ⟨rfl, rfl⟩ : start = place ∧ symbol' = symbol := by simpa using h
      exact ⟨eq_of_punctuation hc hd, rfl⟩
  | @word name _ hname =>
    refine iff_of_false ?_ ?_
    · rintro ⟨before, after, htext, -⟩
      have hmem : c ∈ name.toList := by
        rw [htext]
        exact List.mem_append_right before List.mem_cons_self
      exact absurd (isDelimiter_of_punctuation hc) (Bool.eq_false_iff.1 (hname.isWord c hmem))
    · intro h
      have hsymbol : Symbol.word name = symbol := (by simpa using h : _ ∧ _).2
      exact ne_word_of_punctuation hc name hsymbol.symm

end Round

/-- What is left of a text is cut up in rounds: the next one takes something, or finds a quote. -/
theorem exists_round (start : Nat) (c : Char) (rest : List Char) :
    (isDelimiter c = false ∧ isQuote c = true ∧ tokensFrom start (c :: rest) = .error start) ∨
    ∃ taken others found, c :: rest = taken ++ others ∧ Round start taken others found ∧
      tokensFrom start (c :: rest) =
        (tokensFrom (start + byteLength taken) others).map (found.toList ++ ·) := by
  rw [tokensFrom]
  by_cases hblank : Text.isBlank c = true
  · right
    refine ⟨[c], rest, none, rfl, .blank hblank, ?_⟩
    have hsize : byteLength [c] = c.utf8Size := rfl
    rw [if_pos hblank, hsize]
    cases tokensFrom (start + c.utf8Size) rest <;> rfl
  · rw [if_neg hblank]
    cases hsymbol : punctuation? c with
    | some symbol =>
      right
      refine ⟨[c], rest, some ⟨start, symbol⟩, rfl, .sign hsymbol, ?_⟩
      have hsize : byteLength [c] = 1 := by
        rw [← text_of_punctuation hsymbol, byteLength_toList]
        unfold punctuation? at hsymbol
        split at hsymbol
        case h_6 => cases hsymbol
        all_goals
          cases hsymbol
          rfl
      rw [hsize]
      rfl
    | none =>
      have hc := isDelimiter_eq_false hblank hsymbol
      by_cases hquote : isQuote c = true
      · left
        exact ⟨hc, hquote, if_pos hquote⟩
      · right
        have hname := isPlainWord_firstWord hc (Bool.eq_false_iff.2 hquote) rest
        have hround : Round start (String.ofList _).toList _ _ :=
          .word hname (forall_mem_head?_dropWhile rest)
        rw [String.toList_ofList] at hround
        refine ⟨_, _, _, (firstWord_append c rest).symm, hround, ?_⟩
        simp only [if_neg hquote]
        rfl

/-! ## What a run says about a text -/

/-- What the tokens say about a text that begins at a position. -/
structure IsCutFrom (start : Nat) (text : List Char) (ts : List Token) : Prop where
  slice : ∀ token ∈ ts, ∃ before after, text = before ++ (token.symbol.text.toList ++ after) ∧
    start + byteLength before = token.position
  apart : ts.Pairwise fun first next => first.stop ≤ next.position
  words : ∀ place word, ⟨place, .word (String.ofList word)⟩ ∈ ts ↔ IsWordAt start text place word
  signs : ∀ place symbol c, punctuation? c = some symbol →
    (⟨place, symbol⟩ ∈ ts ↔ IsCharAt start text place c)
  unquoted : ∀ place word, IsWordAt start text place word → ¬ IsQuoted word
  blank : ∀ place c, IsCharAt start text place c →
    (∀ token ∈ ts, ¬ (token.position ≤ place ∧ place < token.stop)) → Text.isBlank c = true

/-- Where the first word begins that begins with a quote. -/
structure IsFirstQuoted (start : Nat) (text : List Char) (place : Nat) : Prop where
  quoted : ∃ word, IsWordAt start text place word ∧ IsQuoted word
  first : ∀ other word, IsWordAt start text other word → IsQuoted word → place ≤ other

/-- What the outcome of a run says about a text. -/
def Describes (start : Nat) (text : List Char) : Except Nat (List Token) → Prop
  | .ok ts => IsCutFrom start text ts
  | .error place => IsFirstQuoted start text place

theorem isCutFrom_nil (start : Nat) : IsCutFrom start [] [] where
  slice := fun _ h => absurd h List.not_mem_nil
  apart := .nil
  words := fun _ _ => iff_of_false List.not_mem_nil not_isWordAt_nil
  signs := fun _ _ _ _ => iff_of_false List.not_mem_nil not_isCharAt_nil
  unquoted := fun _ _ h => absurd h not_isWordAt_nil
  blank := fun _ _ h => absurd h not_isCharAt_nil

section Run

variable {start place : Nat} {taken rest word : List Char} {c : Char} {found : Option Token}

theorem mem_found_append_iff {token : Token} {ts : List Token} :
    token ∈ found.toList ++ ts ↔ found = some token ∨ token ∈ ts := by
  rw [List.mem_append, Option.mem_toList]

/-- A round finds no word with a quote in front. -/
theorem Round.not_isQuoted (h : Round start taken rest found)
    (hfound : found = some ⟨place, .word (String.ofList word)⟩) : ¬ IsQuoted word := by
  subst hfound
  rintro ⟨d, hd, hquote⟩
  cases h with
  | sign hc => exact ne_word_of_punctuation hc _ rfl
  | word hname =>
    have hunquoted := hname.unquoted d (by rwa [String.toList_ofList])
    exact absurd hquote (Bool.eq_false_iff.1 hunquoted)

/-- Every character that a round takes is blank or in the token of the round. -/
theorem Round.isBlank_of_isCharAt (h : Round start taken rest found)
    (hc : IsCharAt start taken place c)
    (hoff : ∀ token ∈ found, ¬ (token.position ≤ place ∧ place < token.stop)) :
    Text.isBlank c = true := by
  cases found with
  | none =>
    cases h with
    | blank hblank =>
      obtain ⟨rfl, -⟩ := isCharAt_singleton_iff.1 hc
      exact hblank
  | some token =>
    obtain ⟨before, after, rfl, rfl⟩ := hc
    refine absurd ?_ (hoff token rfl)
    have hafter : 0 < byteLength (c :: after) := byteLength_pos c after
    rw [h.stop_eq, h.of_some.1, byteLength_append]
    omega

theorem IsCutFrom.round {ts : List Token} (h : Round start taken rest found)
    (hrest : IsCutFrom (start + byteLength taken) rest ts) :
    IsCutFrom start (taken ++ rest) (found.toList ++ ts) where
  slice := by
    intro token htoken
    rcases mem_found_append_iff.1 htoken with rfl | htoken
    · obtain ⟨hposition, htext⟩ := h.of_some
      exact ⟨[], rest, by rw [htext]; rfl, hposition.symm⟩
    · obtain ⟨before, after, rfl, hposition⟩ := hrest.slice token htoken
      refine ⟨taken ++ before, after, (List.append_assoc ..).symm, ?_⟩
      rw [byteLength_append, ← Nat.add_assoc, hposition]
  apart := by
    cases found with
    | none => exact hrest.apart
    | some token =>
      refine hrest.apart.cons fun next hnext => ?_
      obtain ⟨before, after, -, hposition⟩ := hrest.slice next hnext
      rw [h.stop_eq, ← hposition]
      exact Nat.le_add_right _ _
  words := by
    intro place word
    rw [mem_found_append_iff, hrest.words, h.isWordAt_iff]
  signs := by
    intro place symbol c hc
    rw [mem_found_append_iff, hrest.signs place symbol c hc, h.isCharAt_iff hc]
  unquoted := by
    intro place word hword
    rcases h.isWordAt_iff.1 hword with hfound | hword
    · exact h.not_isQuoted hfound
    · exact hrest.unquoted place word hword
  blank := by
    intro place c hc hoff
    rcases isCharAt_append_iff.1 hc with hc | hc
    · exact h.isBlank_of_isCharAt hc fun token htoken =>
        hoff token (mem_found_append_iff.2 (.inl htoken))
    · exact hrest.blank place c hc fun token htoken =>
        hoff token (mem_found_append_iff.2 (.inr htoken))

theorem IsFirstQuoted.round (h : Round start taken rest found)
    (hrest : IsFirstQuoted (start + byteLength taken) rest place) :
    IsFirstQuoted start (taken ++ rest) place where
  quoted := by
    obtain ⟨word, hword, hquoted⟩ := hrest.quoted
    exact ⟨word, h.isWordAt_iff.2 (.inr hword), hquoted⟩
  first := by
    intro other word hword hquoted
    rcases h.isWordAt_iff.1 hword with hfound | hword
    · exact absurd hquoted (h.not_isQuoted hfound)
    · exact hrest.first other word hword hquoted

/-- A word with a quote in front is the first one where the text begins with it. -/
theorem isFirstQuoted_cons (hc : isDelimiter c = false) (hquote : isQuote c = true) :
    IsFirstQuoted start (c :: rest) start where
  quoted := by
    refine ⟨c :: rest.takeWhile (!isDelimiter ·), ?_, c, rfl, hquote⟩
    rw [← firstWord_append c rest]
    exact (isWordAt_append_iff (List.cons_ne_nil _ _) (forall_mem_firstWord hc rest)
      (forall_mem_head?_dropWhile rest)).2 (.inl ⟨rfl, rfl⟩)
  first := fun _ _ hword _ => hword.le

theorem Describes.round {result : Except Nat (List Token)} (h : Round start taken rest found)
    (hrest : Describes (start + byteLength taken) rest result) :
    Describes start (taken ++ rest) (result.map (found.toList ++ ·)) := by
  cases result with
  | ok ts => exact IsCutFrom.round h hrest
  | error place => exact IsFirstQuoted.round h hrest

end Run

/-- A run says of the text what its rounds say: there are fewer characters left after each. -/
theorem describes_tokensFrom (start : Nat) (text : List Char) :
    Describes start text (tokensFrom start text) := by
  induction hn : text.length using Nat.strong_induction_on generalizing start text with
  | h n ih =>
    subst hn
    cases text with
    | nil =>
      rw [tokensFrom]
      exact isCutFrom_nil start
    | cons c rest =>
      rcases exists_round start c rest with ⟨hc, hquote, hrun⟩ |
        ⟨taken, others, found, htext, hround, hrun⟩
      · rw [hrun]
        exact isFirstQuoted_cons hc hquote
      · have hfewer : others.length < (c :: rest).length := by
          have htaken := List.length_pos_iff.2 hround.ne_nil
          rw [htext, List.length_append]
          omega
        rw [hrun, htext]
        exact (ih others.length hfewer _ others rfl).round hround

/-! ## Tokens of a text -/

/-- What the tokens say about a text. -/
structure IsCut (source : String) (ts : List Token) : Prop where
  /-- Every token is the slice of the text between two of its positions. -/
  slice : ∀ token ∈ ts, ∃ first last : source.Pos, first.offset.byteIdx = token.position ∧
    last.offset.byteIdx = token.stop ∧ String.extract first last = token.symbol.text
  ascending : ts.Pairwise (·.position < ·.position)
  apart : ts.Pairwise fun first next => first.stop ≤ next.position
  words : ∀ position word, ⟨position, .word word⟩ ∈ ts ↔
    IsWordAt 0 source.toList position word.toList
  signs : ∀ position symbol c, punctuation? c = some symbol →
    (⟨position, symbol⟩ ∈ ts ↔ IsCharAt 0 source.toList position c)
  unquoted : ∀ word, IsWord source.toList word → ¬ IsQuoted word
  /-- What is in no token is blank. -/
  blank : ∀ (p : source.Pos) (h : p ≠ source.endPos),
    (∀ token ∈ ts, ¬ (token.position ≤ p.offset.byteIdx ∧ p.offset.byteIdx < token.stop)) →
    Text.isBlank (p.get h) = true

theorem exists_extract {source before text after : String}
    (h : source = before ++ (text ++ after)) : ∃ first last : source.Pos,
      first.offset.byteIdx = before.utf8ByteSize ∧
      last.offset.byteIdx = before.utf8ByteSize + text.utf8ByteSize ∧
      String.extract first last = text := by
  have hsplit : source = (before ++ text) ++ after := by rw [h, String.append_assoc]
  let first : source.Pos :=
    ⟨before.rawEndPos, String.Pos.Raw.isValid_iff_exists_append.2 ⟨before, _, h, rfl⟩⟩
  let last : source.Pos :=
    ⟨(before ++ text).rawEndPos, String.Pos.Raw.isValid_iff_exists_append.2 ⟨_, after, hsplit, rfl⟩⟩
  have hsplits : first.Splits before (text ++ after) ∧ last.Splits (before ++ text) after :=
    ⟨⟨h, rfl⟩, ⟨hsplit, rfl⟩⟩
  obtain ⟨hle, hcopy⟩ := String.copy_slice_eq_iff_splits.2 ⟨before, after, hsplits⟩
  refine ⟨first, last, rfl, String.utf8ByteSize_append, ?_⟩
  rw [String.extract_eq_copy_slice first last hle, hcopy]

/-- The character at a position of a text. -/
theorem isCharAt_get {source : String} (p : source.Pos) (h : p ≠ source.endPos) :
    IsCharAt 0 source.toList p.offset.byteIdx (p.get h) := by
  obtain ⟨after, hafter⟩ := p.splits.exists_eq_singleton_append h
  refine ⟨(source.sliceTo p).copy.toList, after.toList, ?_, ?_⟩
  · conv_lhs => rw [p.splits.eq_append, hafter]
    rw [String.toList_append, String.toList_append, String.toList_singleton, List.singleton_append]
  · rw [byteLength_toList, Nat.zero_add, p.splits.offset_eq_rawEndPos]
    rfl

theorem isCut_of_tokens {source : String} {ts : List Token} (hts : tokens source = .ok ts) :
    IsCut source ts := by
  have hcut : IsCutFrom 0 source.toList ts := by
    have hdescribes := describes_tokensFrom 0 source.toList
    rw [show tokensFrom 0 source.toList = .ok ts from hts] at hdescribes
    exact hdescribes
  refine ⟨fun token htoken => ?_, (positions_tokensFrom hts).2, hcut.apart, fun position word => ?_,
    hcut.signs, fun word hword => ?_, fun p hp hoff => ?_⟩
  · obtain ⟨before, after, htext, hposition⟩ := hcut.slice token htoken
    have hsource : source =
        String.ofList before ++ (token.symbol.text ++ String.ofList after) := by
      rw [← String.ofList_toList (s := source), htext, String.ofList_append, String.ofList_append,
        String.ofList_toList]
    obtain ⟨first, last, hfirst, hlast, hextract⟩ := exists_extract hsource
    rw [← byteLength_eq, ← Nat.zero_add (byteLength before), hposition] at hfirst hlast
    exact ⟨first, last, hfirst, hlast, hextract⟩
  · rw [← hcut.words, String.ofList_toList]
  · obtain ⟨place, hplace⟩ := (isWord_iff_exists_place 0).1 hword
    exact hcut.unquoted place word hplace
  · exact hcut.blank _ _ (isCharAt_get p hp) hoff

theorem Symbol.exists_punctuation_or_word (symbol : Symbol) :
    (∃ c, punctuation? c = some symbol) ∨ ∃ name, symbol = .word name := by
  cases symbol with
  | openGroup => exact .inl ⟨'(', rfl⟩
  | closeGroup => exact .inl ⟨')', rfl⟩
  | openList => exact .inl ⟨'[', rfl⟩
  | closeList => exact .inl ⟨']', rfl⟩
  | comma => exact .inl ⟨',', rfl⟩
  | word name => exact .inr ⟨name, rfl⟩

/-- Only one list of tokens says all this about a text. -/
theorem IsCut.unique {source : String} {ts us : List Token} (hts : IsCut source ts)
    (hus : IsCut source us) : ts = us := by
  have hirrefl : Std.Irrefl fun a b : Token => a.position < b.position :=
    ⟨fun a => Nat.lt_irrefl a.position⟩
  have hantisymm : Std.Antisymm fun a b : Token => a.position < b.position :=
    ⟨fun a b hab hba => absurd hba (Nat.lt_asymm hab)⟩
  refine hts.ascending.eq_of_mem_iff hus.ascending fun token => ?_
  obtain ⟨position, symbol⟩ := token
  obtain ⟨c, hc⟩ | ⟨name, rfl⟩ := symbol.exists_punctuation_or_word
  · exact (hts.signs position symbol c hc).trans (hus.signs position symbol c hc).symm
  · exact (hts.words position name).trans (hus.words position name).symm

theorem IsFirstQuoted.unique {start place other : Nat} {text : List Char}
    (h : IsFirstQuoted start text place) (h' : IsFirstQuoted start text other) : place = other := by
  obtain ⟨word, hword, hquoted⟩ := h.quoted
  obtain ⟨word', hword', hquoted'⟩ := h'.quoted
  exact Nat.le_antisymm (h.first other word' hword' hquoted') (h'.first place word hword hquoted)

/-- Every text is cut up into the tokens that it has, or refused at its first word with a quote in
    front. Wherever the run stands in a text, it takes a blank, a sign or a word off the rest, and so
    at least one character, or refuses it. -/
theorem tokens_outcome (source : String) :
    (∀ ts, tokens source = .ok ts ↔ IsCut source ts) ∧
    (∀ position, tokens source = .error position ↔ IsFirstQuoted 0 source.toList position) ∧
    ∀ start c rest, tokensFrom start (c :: rest) = .error start ∨
      ∃ taken others found, c :: rest = taken ++ others ∧ taken ≠ [] ∧
        Round start taken others found ∧ tokensFrom start (c :: rest) =
          (tokensFrom (start + byteLength taken) others).map (found.toList ++ ·) := by
  have hdescribes : Describes 0 source.toList (tokens source) :=
    describes_tokensFrom 0 source.toList
  refine ⟨fun ts => ⟨isCut_of_tokens, fun hcut => ?_⟩, fun position => ⟨fun h => ?_, fun h => ?_⟩,
    fun start c rest => ?_⟩
  · obtain ⟨us, hus⟩ := (exists_tokensFrom_iff 0 source.toList).2 hcut.unquoted
    rw [hcut.unique (isCut_of_tokens hus)]
    exact hus
  · rw [h] at hdescribes
    exact hdescribes
  · cases htokens : tokens source with
    | ok ts =>
      obtain ⟨word, hword, hquoted⟩ := h.quoted
      exact absurd hquoted ((isCut_of_tokens htokens).unquoted word
        ((isWord_iff_exists_place 0).2 ⟨position, hword⟩))
    | error other =>
      rw [htokens] at hdescribes
      rw [IsFirstQuoted.unique hdescribes h]
  · rcases exists_round start c rest with ⟨-, -, hrun⟩ |
      ⟨taken, others, found, htext, hround, hrun⟩
    · exact .inl hrun
    · exact .inr ⟨taken, others, found, htext, hround.ne_nil, hround, hrun⟩

/-- Positions count bytes: the letters before the signs here take two bytes each, as does the blank
    between them. -/
example : tokens "ä(ö\u00a0'ü)" = .error 7 ∧ tokens "ä(ö\u00a0ü')" = .ok
    [⟨0, .word "ä"⟩, ⟨2, .openGroup⟩, ⟨3, .word "ö"⟩, ⟨7, .word "ü'"⟩, ⟨10, .closeGroup⟩] := by
  cbv

end ScenarioTree.Tag
