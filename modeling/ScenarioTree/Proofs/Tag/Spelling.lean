import ScenarioTree.Proofs.Tag.Parsing

/-!
# Spelling queries

A text spells symbols if it consists of them, in their order, and of blanks. Blanks may stand
anywhere and need not stand where a word ends at a sign. The symbols that a text spells are those of
its tokens, and only they decide how it is read: positions do not matter.

Results:

* `spells_of_tokensFrom`, `Spells.exists_tokensFrom`: a text spells the symbols of its tokens.
* `Spells.append`: texts in a row spell the symbols in a row if the first ends at a delimiter.
* `exists_disjunction_of_symbols`: derivations do not depend on positions.
* `Query.parse_eq_ok_iff_of_spells`: how a text is read that spells a derivation.
-/

namespace ScenarioTree.Tag

open Grammar

/-! ## Texts and symbols -/

/-- A word that can stand in a query. -/
structure IsPlainWord (text : String) : Prop where
  ne_nil : text.toList ≠ []
  isWord : ∀ c ∈ text.toList, isDelimiter c = false
  unquoted : ∀ c ∈ text.toList.head?, isQuote c = false

instance (text : String) : Decidable (IsPlainWord text) :=
  -- The characters of the text are looked at one by one, not all characters that there are.
  decidable_of_iff
    (text.toList ≠ [] ∧ text.toList.all (!isDelimiter ·) = true ∧
      text.toList.head?.all (!isQuote ·) = true)
    ⟨fun h => ⟨h.1, by simpa using h.2.1, by simpa [Option.all_eq_true] using h.2.2⟩,
      fun h => ⟨h.ne_nil, by simpa using h.isWord, by simpa [Option.all_eq_true] using h.unquoted⟩⟩

theorem isPlainWord_of_mem_keywords : ∀ keyword ∈ keywords, IsPlainWord keyword := by
  decide

/-- A word that names a tag: it can stand in a query and is no keyword. -/
structure IsTagName (name : String) : Prop extends IsPlainWord name where
  not_keyword : ∀ keyword ∈ keywords, (Symbol.word name).isKeyword keyword = false

instance (name : String) : Decidable (IsTagName name) :=
  decidable_of_iff
    (IsPlainWord name ∧ ∀ keyword ∈ keywords, (Symbol.word name).isKeyword keyword = false)
    ⟨fun h => ⟨h.1, h.2⟩, fun h => ⟨h.toIsPlainWord, h.not_keyword⟩⟩

/-- The leaf that a tag is, at any position. -/
def IsTagName.leaf {name : String} (h : IsTagName name) : TagName where
  token := ⟨0, .word name⟩
  name := name
  isTag := by
    have hoperator : (Symbol.word name).isOperator = false := by
      simpa [Symbol.isOperator] using h.not_keyword
    rw [Symbol.tag?, hoperator]
    rfl

/-- A text consists of the given symbols and of blanks. After a word there is a delimiter, or
    nothing. -/
inductive Spells : List Symbol → List Char → Prop where
  | nil : Spells [] []
  | blank {c : Char} {symbols : List Symbol} {text : List Char} (hc : Text.isBlank c = true)
      (h : Spells symbols text) : Spells symbols (c :: text)
  | sign {c : Char} {symbol : Symbol} {symbols : List Symbol} {text : List Char}
      (hc : punctuation? c = some symbol) (h : Spells symbols text) :
      Spells (symbol :: symbols) (c :: text)
  | word {name : String} {symbols : List Symbol} {text : List Char} (hname : IsPlainWord name)
      (hend : ∀ c ∈ text.head?, isDelimiter c = true) (h : Spells symbols text) :
      Spells (.word name :: symbols) (name.toList ++ text)

/-- A symbol that can stand in a query. -/
def Symbol.IsPlain : Symbol → Prop
  | .word text => IsPlainWord text
  | _ => True

instance : (symbol : Symbol) → Decidable symbol.IsPlain
  | .word text => inferInstanceAs (Decidable (IsPlainWord text))
  | .openGroup | .closeGroup | .openList | .closeList | .comma => isTrue trivial

theorem isBlank_eq_false_of_punctuation {c : Char} {symbol : Symbol}
    (h : punctuation? c = some symbol) : Text.isBlank c = false := by
  unfold punctuation? at h
  split at h
  case h_6 => cases h
  all_goals decide

theorem isPlain_of_punctuation {c : Char} {symbol : Symbol} (h : punctuation? c = some symbol) :
    symbol.IsPlain := by
  unfold punctuation? at h
  split at h
  case h_6 => cases h
  all_goals
    cases h
    trivial

namespace Spells

variable {symbols others : List Symbol} {text rest : List Char}

/-- Texts in a row, the first of which ends where a delimiter stands. -/
theorem append (h : Spells symbols text) (hrest : ∀ c ∈ rest.head?, isDelimiter c = true)
    (hothers : Spells others rest) : Spells (symbols ++ others) (text ++ rest) := by
  induction h with
  | nil => exact hothers
  | blank hc _ ih => exact blank hc ih
  | sign hc _ ih => exact sign hc ih
  | @word name symbols text hname hend _ ih =>
    rw [List.cons_append, List.append_assoc]
    refine word hname ?_ ih
    cases text with
    | nil => exact hrest
    | cons d text => exact hend

theorem isPlain (h : Spells symbols text) : ∀ symbol ∈ symbols, symbol.IsPlain := by
  induction h with
  | nil => exact fun _ hsymbol => absurd hsymbol List.not_mem_nil
  | blank _ _ ih => exact ih
  | sign hc _ ih => exact List.forall_mem_cons.2 ⟨isPlain_of_punctuation hc, ih⟩
  | word hname _ _ ih => exact List.forall_mem_cons.2 ⟨hname, ih⟩

/-- A word with a space behind it. -/
theorem spaced {name : String} (hname : IsPlainWord name) (h : Spells symbols text) :
    Spells (.word name :: symbols) (name.toList ++ ' ' :: text) :=
  word hname (by simp; decide) (blank (by decide) h)

/-- Two texts with a word between them. -/
theorem joined {name : String} (hname : IsPlainWord name) (h : Spells symbols text)
    (hothers : Spells others rest) :
    Spells (symbols ++ .word name :: others) (text ++ ' ' :: (name.toList ++ ' ' :: rest)) :=
  h.append (by simp; decide) (blank (by decide) (spaced hname hothers))

/-- A text in parentheses. -/
theorem group (h : Spells symbols text) :
    Spells (.openGroup :: (symbols ++ [.closeGroup])) ('(' :: (text ++ [')'])) :=
  sign rfl (h.append (by simp; decide) (sign rfl nil))

/-- What a text spells are the symbols of its tokens, wherever the text begins. -/
theorem exists_tokensFrom (h : Spells symbols text) (position : Nat) :
    ∃ ts, tokensFrom position text = .ok ts ∧ ts.map Token.symbol = symbols := by
  induction h generalizing position with
  | nil => exact ⟨[], by rw [tokensFrom], rfl⟩
  | @blank c symbols text hc _ ih =>
    obtain ⟨ts, hts, hsymbols⟩ := ih (position + c.utf8Size)
    exact ⟨ts, by rw [tokensFrom, if_pos hc, hts], hsymbols⟩
  | @sign c symbol symbols text hc _ ih =>
    obtain ⟨ts, hts, hsymbols⟩ := ih (position + 1)
    exact ⟨⟨position, symbol⟩ :: ts,
      tokensFrom_sign (isBlank_eq_false_of_punctuation hc) hc hts, congrArg (symbol :: ·) hsymbols⟩
  | @word name symbols text hname hend _ ih =>
    obtain ⟨c, run, hrun⟩ := List.exists_cons_of_ne_nil hname.ne_nil
    obtain ⟨ts, hts, hsymbols⟩ := ih (position + byteLength (c :: run))
    have hquote : isQuote c = false := hname.unquoted c (by rw [hrun]; rfl)
    have hchars : (c :: run).any isDelimiter = false := by
      rw [← hrun]
      simpa using hname.isWord
    refine ⟨⟨position, .word name⟩ :: ts, ?_, congrArg (Symbol.word name :: ·) hsymbols⟩
    rw [hrun, List.cons_append, tokensFrom_word run hquote hchars hend hts, ← hrun,
      String.ofList_toList]

end Spells

theorem isPlainWord_firstWord {c : Char} (hc : isDelimiter c = false) (hquote : isQuote c = false)
    (rest : List Char) :
    IsPlainWord (String.ofList (c :: rest.takeWhile (!isDelimiter ·))) where
  ne_nil := by simp
  isWord := by simpa only [String.toList_ofList] using forall_mem_firstWord hc rest
  unquoted := by simpa using hquote

theorem spells_of_tokensFrom {position : Nat} {text : List Char} {ts : List Token}
    (h : tokensFrom position text = .ok ts) : Spells (ts.map Token.symbol) text := by
  refine tokensFrom_induction (p := fun _ text ts => Spells (ts.map Token.symbol) text)
    ?nil ?blank ?sign ?word h
  case nil => exact fun _ => .nil
  case blank =>
    intro position c rest ts hblank ih
    exact .blank hblank ih
  case sign =>
    intro position c symbol rest ts hsymbol ih
    exact .sign hsymbol ih
  case word =>
    intro position c rest ts hc hquote ih
    have hspells := Spells.word (isPlainWord_firstWord hc hquote rest)
      (forall_mem_head?_dropWhile rest) ih
    rwa [String.toList_ofList, firstWord_append] at hspells

/-! ## Derivations at other positions -/

namespace Grammar

theorem Keyword.exists_of_symbol {keyword : String} (w : Keyword keyword) {token : Token}
    (h : token.symbol = w.token.symbol) : ∃ w' : Keyword keyword, w'.token = token :=
  ⟨⟨token, h ▸ w.isKeyword⟩, rfl⟩

theorem Sign.exists_of_symbol {symbol : Symbol} (m : Sign symbol) {token : Token}
    (h : token.symbol = m.token.symbol) : ∃ m' : Sign symbol, m'.token = token :=
  ⟨⟨token.position⟩, by rw [Sign.token, ← show token.symbol = symbol from h]⟩

theorem TagName.exists_of_symbol (t : TagName) {token : Token}
    (h : token.symbol = t.token.symbol) : ∃ t' : TagName, t'.token = token ∧ t'.name = t.name :=
  ⟨⟨token, t.name, h ▸ t.isTag⟩, rfl, rfl⟩

theorem Items.exists_of_symbols (items : Items) {ts : List Token}
    (h : ts.map Token.symbol = items.tokens.map Token.symbol) :
    ∃ items' : Items, items'.tokens = ts ∧ items'.names = items.names := by
  induction items generalizing ts with
  | last tag closing =>
    obtain ⟨first, rest, rfl, htag, hrest⟩ := List.map_eq_cons_iff.1 h
    obtain ⟨second, nothing, rfl, hclosing, hnothing⟩ := List.map_eq_cons_iff.1 hrest
    obtain rfl := List.map_eq_nil_iff.1 hnothing
    obtain ⟨tag', rfl, hname⟩ := tag.exists_of_symbol htag
    obtain ⟨closing', rfl⟩ := closing.exists_of_symbol hclosing
    exact ⟨.last tag' closing', rfl, by rw [Items.names, Items.names, hname]⟩
  | more tag comma others ih =>
    obtain ⟨first, rest, rfl, htag, hrest⟩ := List.map_eq_cons_iff.1 h
    obtain ⟨second, further, rfl, hcomma, hfurther⟩ := List.map_eq_cons_iff.1 hrest
    obtain ⟨tag', rfl, hname⟩ := tag.exists_of_symbol htag
    obtain ⟨comma', rfl⟩ := comma.exists_of_symbol hcomma
    obtain ⟨others', rfl, hnames⟩ := ih hfurther
    exact ⟨.more tag' comma' others', rfl, by rw [Items.names, Items.names, hname, hnames]⟩

theorem Items.expr_eq_of_names_eq {items items' : Items} (h : items.names = items'.names) :
    items.expr = items'.expr := by
  rw [← chain_names, ← chain_names, h]

mutual

/-- Tokens with the symbols of a derivation have one that differs in nothing but positions. -/
theorem exists_disjunction_of_symbols : ∀ (d : Disjunction) {ts : List Token},
    ts.map Token.symbol = d.tokens.map Token.symbol → ∃ d' : Disjunction, d'.tokens = ts ∧
      d'.operands = d.operands ∧ ∀ level isNot, d'.nesting level isNot = d.nesting level isNot
  | .one c, ts, h => by
    obtain ⟨c', rfl, hoperands, hnesting⟩ := exists_conjunction_of_symbols c h
    refine ⟨.one c', rfl, ?_, hnesting⟩
    rw [Disjunction.operands, Disjunction.operands, ← chain_and_operands, hoperands,
      chain_and_operands]
  | .or c w d, ts, h => by
    rw [Disjunction.tokens, List.map_append, List.map_cons] at h
    obtain ⟨before, after, rfl, hc, hafter⟩ := List.map_eq_append_iff.1 h
    obtain ⟨token, others, rfl, hw, hd⟩ := List.map_eq_cons_iff.1 hafter
    obtain ⟨c', rfl, hc, hc_nesting⟩ := exists_conjunction_of_symbols c hc
    obtain ⟨w', rfl⟩ := w.exists_of_symbol hw
    obtain ⟨d', rfl, hd, hd_nesting⟩ := exists_disjunction_of_symbols d hd
    refine ⟨.or c' w' d', rfl, ?_, fun level isNot => ?_⟩
    · rw [Disjunction.operands, Disjunction.operands, ← chain_and_operands, hc, chain_and_operands,
        hd]
    · rw [Disjunction.nesting, Disjunction.nesting, hc_nesting, hd_nesting]

theorem exists_conjunction_of_symbols : ∀ (c : Conjunction) {ts : List Token},
    ts.map Token.symbol = c.tokens.map Token.symbol → ∃ c' : Conjunction, c'.tokens = ts ∧
      c'.operands = c.operands ∧ ∀ level isNot, c'.nesting level isNot = c.nesting level isNot
  | .one u, ts, h => by
    obtain ⟨u', rfl, hexpr, hnesting⟩ := exists_unary_of_symbols u h
    exact ⟨.one u', rfl, by rw [Conjunction.operands, Conjunction.operands, hexpr], hnesting⟩
  | .and u w c, ts, h => by
    rw [Conjunction.tokens, List.map_append, List.map_cons] at h
    obtain ⟨before, after, rfl, hu, hafter⟩ := List.map_eq_append_iff.1 h
    obtain ⟨token, others, rfl, hw, hc⟩ := List.map_eq_cons_iff.1 hafter
    obtain ⟨u', rfl, hu, hu_nesting⟩ := exists_unary_of_symbols u hu
    obtain ⟨w', rfl⟩ := w.exists_of_symbol hw
    obtain ⟨c', rfl, hc, hc_nesting⟩ := exists_conjunction_of_symbols c hc
    refine ⟨.and u' w' c', rfl, ?_, fun level isNot => ?_⟩
    · rw [Conjunction.operands, Conjunction.operands, hu, hc]
    · rw [Conjunction.nesting, Conjunction.nesting, hu_nesting, hc_nesting]

theorem exists_unary_of_symbols : ∀ (u : Unary) {ts : List Token},
    ts.map Token.symbol = u.tokens.map Token.symbol → ∃ u' : Unary, u'.tokens = ts ∧
      u'.expr = u.expr ∧ ∀ level isNot, u'.nesting level isNot = u.nesting level isNot
  | .not w u, ts, h => by
    obtain ⟨token, others, rfl, hw, hu⟩ := List.map_eq_cons_iff.1 h
    obtain ⟨w', rfl⟩ := w.exists_of_symbol hw
    obtain ⟨u', rfl, hexpr, hnesting⟩ := exists_unary_of_symbols u hu
    refine ⟨.not w' u', rfl, by rw [Unary.expr, Unary.expr, hexpr], fun level isNot => ?_⟩
    rw [Unary.nesting, Unary.nesting, hnesting]
  | .is w p, ts, h => by
    obtain ⟨token, others, rfl, hw, hp⟩ := List.map_eq_cons_iff.1 h
    obtain ⟨w', rfl⟩ := w.exists_of_symbol hw
    obtain ⟨p', rfl, hexpr, hnesting⟩ := exists_primary_of_symbols p hp
    exact ⟨.is w' p', rfl, hexpr, hnesting⟩
  | .isNot w n p, ts, h => by
    obtain ⟨token, others, rfl, hw, hothers⟩ := List.map_eq_cons_iff.1 h
    obtain ⟨negation, others, rfl, hn, hp⟩ := List.map_eq_cons_iff.1 hothers
    obtain ⟨w', rfl⟩ := w.exists_of_symbol hw
    obtain ⟨n', rfl⟩ := n.exists_of_symbol hn
    obtain ⟨p', rfl, hexpr, hnesting⟩ := exists_primary_of_symbols p hp
    refine ⟨.isNot w' n' p', rfl, by rw [Unary.expr, Unary.expr, hexpr], fun level isNot => ?_⟩
    rw [Unary.nesting, Unary.nesting, hnesting]
  | .isIn w opening items, ts, h => by
    obtain ⟨token, others, rfl, hw, hothers⟩ := List.map_eq_cons_iff.1 h
    obtain ⟨bracket, others, rfl, hopening, hitems⟩ := List.map_eq_cons_iff.1 hothers
    obtain ⟨w', rfl⟩ := w.exists_of_symbol hw
    obtain ⟨opening', rfl⟩ := opening.exists_of_symbol hopening
    obtain ⟨items', rfl, hnames⟩ := items.exists_of_symbols hitems
    exact ⟨.isIn w' opening' items', rfl, Items.expr_eq_of_names_eq hnames, fun _ _ => rfl⟩
  | .primary p, ts, h => by
    obtain ⟨p', rfl, hexpr, hnesting⟩ := exists_primary_of_symbols p h
    exact ⟨.primary p', rfl, hexpr, hnesting⟩

theorem exists_primary_of_symbols : ∀ (p : Primary) {ts : List Token},
    ts.map Token.symbol = p.tokens.map Token.symbol → ∃ p' : Primary, p'.tokens = ts ∧
      p'.expr = p.expr ∧ ∀ level isNot, p'.nesting level isNot = p.nesting level isNot
  | .group opening d closing, ts, h => by
    rw [Primary.tokens, List.map_cons, List.map_append] at h
    obtain ⟨token, others, rfl, hopening, hothers⟩ := List.map_eq_cons_iff.1 h
    obtain ⟨inner, after, rfl, hd, hafter⟩ := List.map_eq_append_iff.1 hothers
    obtain ⟨last, nothing, rfl, hclosing, hnothing⟩ := List.map_eq_cons_iff.1 hafter
    obtain rfl := List.map_eq_nil_iff.1 hnothing
    obtain ⟨opening', rfl⟩ := opening.exists_of_symbol hopening
    obtain ⟨closing', rfl⟩ := closing.exists_of_symbol hclosing
    obtain ⟨d', rfl, hoperands, hnesting⟩ := exists_disjunction_of_symbols d hd
    refine ⟨.group opening' d' closing', rfl, ?_, fun level isNot => ?_⟩
    · rw [Primary.expr, Primary.expr, ← chain_or_operands, hoperands, chain_or_operands]
    · rw [Primary.nesting, Primary.nesting, hnesting]
  | .tag t, ts, h => by
    obtain ⟨token, nothing, rfl, ht, hnothing⟩ := List.map_eq_cons_iff.1 h
    obtain rfl := List.map_eq_nil_iff.1 hnothing
    obtain ⟨t', rfl, hname⟩ := t.exists_of_symbol ht
    exact ⟨.tag t', rfl, by rw [Primary.expr, Primary.expr, hname], fun _ _ => rfl⟩

end

end Grammar

/-! ## Reading a text that spells a derivation -/

theorem spells_of_isDerivation {source : String} {d : Disjunction} (h : IsDerivation source d) :
    Spells (d.tokens.map Token.symbol) source.toList := spells_of_tokensFrom h

/-- A text that spells a derivation has it, at its own positions. -/
theorem exists_isDerivation_of_spells {source : String} {d : Disjunction}
    (h : Spells (d.tokens.map Token.symbol) source.toList) : ∃ d', IsDerivation source d' ∧
      d'.expr = d.expr ∧ ∀ level isNot, d'.nesting level isNot = d.nesting level isNot := by
  obtain ⟨ts, hts, hsymbols⟩ := h.exists_tokensFrom 0
  obtain ⟨d', rfl, hoperands, hnesting⟩ := exists_disjunction_of_symbols d hsymbols
  refine ⟨d', hts, ?_, hnesting⟩
  rw [← chain_or_operands, hoperands, chain_or_operands]

/-- A text that spells a derivation is accepted if there is room for it, and then stands for the
    condition that the derivation states. -/
theorem Query.parse_eq_ok_iff_of_spells {source : String} {d : Disjunction}
    (h : Spells (d.tokens.map Token.symbol) source.toList) {query : Query} :
    Query.parse source = .ok query ↔ d.nesting 1 0 ≤ maxNesting ∧ query = ⟨source, d.expr⟩ := by
  obtain ⟨d', hd', hexpr, hnesting⟩ := exists_isDerivation_of_spells h
  rw [← hexpr, ← hnesting]
  constructor
  · intro hparse
    obtain ⟨d'', hd'', hroom, rfl⟩ := exists_isDerivation_of_parse hparse
    obtain rfl := isDerivation_unique hd' hd''
    exact ⟨hroom, rfl⟩
  · rintro ⟨hroom, rfl⟩
    exact parse_of_isDerivation hd' hroom

end ScenarioTree.Tag
