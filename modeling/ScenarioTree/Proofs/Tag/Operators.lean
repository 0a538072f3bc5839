import ScenarioTree.Proofs.Tag.Spelling
import ScenarioTree.Tag.Filter

/-!
# Operators as queries

Each operator on tags has forms in which a query states it: `t` and `is t`, `not t` and `is not t`,
`a and b`, `a or b`, `in [a, b, …]` and `a or b or …`, `not in [a, b, …]`. A query in such a form
selects what the operator selects, however it is written.

Results:

* `Operator.states_expr`: what is written in a form of an operator has a derivation that
  states the condition of the operator.
* `Operator.select_expr`: the condition selects what the operator selects.
* `Operator.select_eq_of_isWritten`: a query in a form of an operator is read and selects the same.
-/

namespace ScenarioTree.Tag

open Grammar

/-! ## Forms -/

/-- The operators on tags. -/
inductive Operator where
  | is (tag : String)
  | isNot (tag : String)
  | both (a b : String)
  | either (a b : String)
  | anyOf (tags : List String)
  | noneOf (tags : List String)

namespace Operator

/-- The tags that an operator looks at. -/
def tags : Operator → List String
  | is tag => [tag]
  | isNot tag => [tag]
  | both a b => [a, b]
  | either a b => [a, b]
  | anyOf tags => tags
  | noneOf tags => tags

/-- What an operator selects. -/
def select {α : Type} [Tagged α] (items : List α) : Operator → List α
  | is tag => having tag items
  | isNot tag => lacking tag items
  | both a b => havingBoth a b items
  | either a b => havingEither a b items
  | anyOf tags => havingAny tags items
  | noneOf tags => havingNone tags items

/-- The symbols of `[a, b, …]` behind the opening bracket. -/
def listed (tags : List String) : List Symbol :=
  (tags.map .word).intersperse .comma ++ [.closeList]

/-- The forms of queries that state an operator. -/
def forms : Operator → List (List Symbol)
  | is tag => [[.word tag], [.word "is", .word tag]]
  | isNot tag => [[.word "not", .word tag], [.word "is", .word "not", .word tag]]
  | both a b => [[.word a, .word "and", .word b]]
  | either a b => [[.word a, .word "or", .word b]]
  | anyOf tags =>
    [.word "in" :: .openList :: listed tags, (tags.map .word).intersperse (.word "or")]
  | noneOf tags => [.word "not" :: .word "in" :: .openList :: listed tags]

/-- The condition that an operator states. -/
def expr : Operator → Expr
  | is tag => .tag tag
  | isNot tag => .not (.tag tag)
  | both a b => .and [.tag a, .tag b]
  | either a b => .or [.tag a, .tag b]
  | anyOf tags => .chain .or (tags.map .tag)
  | noneOf tags => .not (.chain .or (tags.map .tag))

end Operator

/-! ## Writing -/

/-- A symbol is the one that is asked for. A keyword may be written in either case. -/
def Symbol.Fits (symbol asked : Symbol) : Prop :=
  symbol = asked ∨ ∃ keyword ∈ keywords, asked = .word keyword ∧ symbol.isKeyword keyword = true

/-- A text is written in a form: it has the symbols of the form, keywords in either case and blanks
    anywhere. -/
def IsWritten (form : List Symbol) (source : String) : Prop :=
  ∃ symbols, List.Forall₂ Symbol.Fits symbols form ∧ Spells symbols source.toList

theorem isKeyword_self {keyword : String} (h : keyword ∈ keywords) :
    (Symbol.word keyword).isKeyword keyword = true := by
  revert keyword
  decide

theorem Symbol.Fits.isKeyword {symbol : Symbol} {keyword : String} (h : symbol.Fits (.word keyword))
    (hk : keyword ∈ keywords) : symbol.isKeyword keyword = true := by
  rcases h with rfl | ⟨other, -, hother, hsymbol⟩
  · exact isKeyword_self hk
  · cases hother
    exact hsymbol

theorem Symbol.Fits.eq_of_isTagName {symbol : Symbol} {name : String}
    (h : symbol.Fits (.word name)) (hname : IsTagName name) : symbol = .word name := by
  rcases h with rfl | ⟨keyword, hk, hkeyword, -⟩
  · rfl
  · cases hkeyword
    exact absurd (isKeyword_self hk) (Bool.eq_false_iff.1 (hname.not_keyword name hk))

theorem Symbol.Fits.eq_of_sign {symbol asked : Symbol} (h : symbol.Fits asked)
    (hasked : ∀ name, asked ≠ .word name) : symbol = asked := by
  rcases h with rfl | ⟨keyword, -, hkeyword, -⟩
  · rfl
  · exact absurd hkeyword (hasked keyword)

namespace Operator

/-! ## Derivations -/

theorem listed_singleton (tag : String) : listed [tag] = [.word tag, .closeList] := rfl

theorem listed_cons_cons (tag next : String) (rest : List String) :
    listed (tag :: next :: rest) = .word tag :: .comma :: listed (next :: rest) := rfl

section Fitting

variable {symbols : List Symbol}

theorem exists_items : ∀ {tags : List String} {symbols : List Symbol}, tags ≠ [] →
    (∀ t ∈ tags, IsTagName t) → List.Forall₂ Symbol.Fits symbols (listed tags) →
    ∃ items : Items, items.tokens.map Token.symbol = symbols ∧ items.names = tags
  | [t], symbols, _, htags, h => by
    have ht := htags t List.mem_cons_self
    rw [listed_singleton] at h
    obtain _ | ⟨htag, _ | ⟨hclose, _ | _⟩⟩ := h
    obtain rfl := htag.eq_of_isTagName ht
    obtain rfl := hclose.eq_of_sign (by simp)
    exact ⟨.last ht.leaf ⟨0⟩, rfl, rfl⟩
  | t :: t' :: rest, symbols, _, htags, h => by
    obtain ⟨ht, hothers⟩ := List.forall_mem_cons.1 htags
    rw [listed_cons_cons] at h
    obtain _ | ⟨htag, _ | ⟨hcomma, h⟩⟩ := h
    obtain rfl := htag.eq_of_isTagName ht
    obtain rfl := hcomma.eq_of_sign (by simp)
    obtain ⟨items, rfl, hnames⟩ := exists_items (List.cons_ne_nil t' rest) hothers h
    exact ⟨.more ht.leaf ⟨0⟩ items, rfl, congrArg (t :: ·) hnames⟩

theorem exists_chain : ∀ {tags : List String} {symbols : List Symbol}, tags ≠ [] →
    (∀ t ∈ tags, IsTagName t) →
    List.Forall₂ Symbol.Fits symbols ((tags.map Symbol.word).intersperse (.word "or")) →
    ∃ d : Disjunction, d.tokens.map Token.symbol = symbols ∧ d.operands = tags.map .tag ∧
      d.nesting 1 0 = 0
  | [t], symbols, _, htags, h => by
    have ht := htags t List.mem_cons_self
    rw [List.map_singleton, List.intersperse_singleton] at h
    obtain _ | ⟨htag, _ | _⟩ := h
    obtain rfl := htag.eq_of_isTagName ht
    exact ⟨.one (.one (.primary (.tag ht.leaf))), rfl, rfl, rfl⟩
  | t :: t' :: rest, symbols, _, htags, h => by
    obtain ⟨ht, hothers⟩ := List.forall_mem_cons.1 htags
    -- Behind the first tag and its `or`, the form is that of the other tags.
    rw [List.map_cons, List.map_cons, List.intersperse_cons_cons, ← List.map_cons] at h
    obtain _ | ⟨htag, _ | ⟨hor, h⟩⟩ := h
    obtain rfl := htag.eq_of_isTagName ht
    obtain ⟨d, rfl, hoperands, hnesting⟩ := exists_chain (List.cons_ne_nil t' rest) hothers h
    refine ⟨.or (.one (.primary (.tag ht.leaf))) ⟨⟨0, _⟩, hor.isKeyword (by decide)⟩ d, rfl,
      congrArg (Expr.tag t :: ·) hoperands, ?_⟩
    rw [Disjunction.nesting, hnesting]
    rfl

/-- Symbols have a derivation with one level at most that states a condition. -/
def States (symbols : List Symbol) (e : Expr) : Prop :=
  ∃ d : Disjunction, d.tokens.map Token.symbol = symbols ∧ d.nesting 1 0 ≤ 1 ∧ d.expr = e

theorem states_unary (u : Unary) (h : u.nesting 1 0 ≤ 1) :
    States (u.tokens.map Token.symbol) u.expr := ⟨.one (.one u), rfl, h, rfl⟩

theorem states_is {tag : String} (ht : IsTagName tag) {form : List Symbol}
    (hform : form ∈ (is tag).forms) (h : List.Forall₂ Symbol.Fits symbols form) :
    States symbols (is tag).expr := by
  simp only [forms, List.mem_cons, List.not_mem_nil, or_false] at hform
  rcases hform with rfl | rfl
  · obtain _ | ⟨htag, _ | _⟩ := h
    obtain rfl := htag.eq_of_isTagName ht
    exact states_unary (.primary (.tag ht.leaf)) (Nat.zero_le _)
  · obtain _ | ⟨his, _ | ⟨htag, _ | _⟩⟩ := h
    obtain rfl := htag.eq_of_isTagName ht
    exact states_unary (.is ⟨⟨0, _⟩, his.isKeyword (by decide)⟩ (.tag ht.leaf)) (Nat.zero_le _)

theorem states_isNot {tag : String} (ht : IsTagName tag) {form : List Symbol}
    (hform : form ∈ (isNot tag).forms) (h : List.Forall₂ Symbol.Fits symbols form) :
    States symbols (isNot tag).expr := by
  simp only [forms, List.mem_cons, List.not_mem_nil, or_false] at hform
  rcases hform with rfl | rfl
  · obtain _ | ⟨hnot, _ | ⟨htag, _ | _⟩⟩ := h
    obtain rfl := htag.eq_of_isTagName ht
    exact states_unary (.not ⟨⟨0, _⟩, hnot.isKeyword (by decide)⟩ (.primary (.tag ht.leaf))) le_rfl
  · obtain _ | ⟨his, _ | ⟨hnot, _ | ⟨htag, _ | _⟩⟩⟩ := h
    obtain rfl := htag.eq_of_isTagName ht
    exact states_unary (.isNot ⟨⟨0, _⟩, his.isKeyword (by decide)⟩
      ⟨⟨0, _⟩, hnot.isKeyword (by decide)⟩ (.tag ht.leaf)) (Nat.zero_le _)

theorem states_both {a b : String} (ha : IsTagName a) (hb : IsTagName b)
    (h : List.Forall₂ Symbol.Fits symbols [.word a, .word "and", .word b]) :
    States symbols (both a b).expr := by
  obtain _ | ⟨hfirst, _ | ⟨hand, _ | ⟨hsecond, _ | _⟩⟩⟩ := h
  obtain rfl := hfirst.eq_of_isTagName ha
  obtain rfl := hsecond.eq_of_isTagName hb
  exact ⟨.one (.and (.primary (.tag ha.leaf)) ⟨⟨0, _⟩, hand.isKeyword (by decide)⟩
    (.one (.primary (.tag hb.leaf)))), rfl, Nat.zero_le _, rfl⟩

section Lists

variable {tags : List String} (hne : tags ≠ []) (htags : ∀ t ∈ tags, IsTagName t)

include hne htags

theorem states_chain
    (h : List.Forall₂ Symbol.Fits symbols ((tags.map Symbol.word).intersperse (.word "or"))) :
    States symbols (anyOf tags).expr := by
  obtain ⟨d, hsymbols, hoperands, hnesting⟩ := exists_chain hne htags h
  exact ⟨d, hsymbols, by omega, by rw [← chain_or_operands, hoperands]; rfl⟩

/-- A list behind `in` is one operand. -/
theorem exists_isIn
    (h : List.Forall₂ Symbol.Fits symbols (.word "in" :: .openList :: listed tags)) :
    ∃ u : Unary, u.tokens.map Token.symbol = symbols ∧ u.nesting 1 0 = 0 ∧
      u.expr = (anyOf tags).expr := by
  obtain _ | ⟨hin, _ | ⟨hopen, h⟩⟩ := h
  obtain rfl := hopen.eq_of_sign (by simp)
  obtain ⟨items, rfl, hnames⟩ := exists_items hne htags h
  refine ⟨.isIn ⟨⟨0, _⟩, hin.isKeyword (by decide)⟩ ⟨0⟩ items, rfl, rfl, ?_⟩
  rw [Unary.expr, ← chain_names, hnames]
  rfl

theorem states_anyOf {form : List Symbol} (hform : form ∈ (anyOf tags).forms)
    (h : List.Forall₂ Symbol.Fits symbols form) : States symbols (anyOf tags).expr := by
  simp only [forms, List.mem_cons, List.not_mem_nil, or_false] at hform
  rcases hform with rfl | rfl
  · obtain ⟨u, rfl, hnesting, hexpr⟩ := exists_isIn hne htags h
    rw [← hexpr]
    exact states_unary u (by omega)
  · exact states_chain hne htags h

theorem states_noneOf
    (h : List.Forall₂ Symbol.Fits symbols (.word "not" :: .word "in" :: .openList :: listed tags)) :
    States symbols (noneOf tags).expr := by
  obtain _ | ⟨hnot, h⟩ := h
  obtain ⟨u, rfl, hnesting, hexpr⟩ := exists_isIn hne htags h
  have hstates := states_unary (.not ⟨⟨0, _⟩, hnot.isKeyword (by decide)⟩ u) (by
    rw [Unary.nesting, hnesting])
  rwa [Unary.expr, hexpr] at hstates

end Lists

/-- What fits a form of an operator states the condition of the operator. -/
theorem states_expr {operator : Operator} (hne : operator.tags ≠ [])
    (htags : ∀ t ∈ operator.tags, IsTagName t) {form : List Symbol} (hform : form ∈ operator.forms)
    (h : List.Forall₂ Symbol.Fits symbols form) : States symbols operator.expr := by
  cases operator with
  | is tag => exact states_is (htags tag List.mem_cons_self) hform h
  | isNot tag => exact states_isNot (htags tag List.mem_cons_self) hform h
  | both a b =>
    obtain rfl := List.mem_singleton.1 hform
    exact states_both (htags a (by simp [tags])) (htags b (by simp [tags])) h
  | either a b =>
    obtain rfl := List.mem_singleton.1 hform
    exact states_chain hne htags h
  | anyOf tags => exact states_anyOf hne htags hform h
  | noneOf tags =>
    obtain rfl := List.mem_singleton.1 hform
    exact states_noneOf hne htags h

end Fitting

/-! ## Selecting -/

theorem eval_chain_tags (set : TagSet) {names : List String} (hne : names ≠ []) :
    (Expr.chain .or (names.map .tag)).eval set = names.any set.contains := by
  have hany (names : List String) :
      Expr.evalAny set (names.map .tag) = names.any set.contains := by
    induction names with
    | nil => rfl
    | cons name names ih => rw [List.map_cons, Expr.evalAny, ih, List.any_cons, Expr.eval]
  match names, hne with
  | [name], _ => simp [Expr.chain, Expr.eval]
  | name :: next :: rest, _ => exact hany (name :: next :: rest)

/-- The condition of an operator selects what the operator selects. -/
theorem select_expr (operator : Operator) (hne : operator.tags ≠ []) (source : String) {α : Type}
    [Tagged α] (items : List α) :
    Query.select ⟨source, operator.expr⟩ items = operator.select items := by
  have hchain (tags : List String) (hne : tags ≠ []) (item : α) :=
    eval_chain_tags (Tagged.tags item) hne
  cases operator with
  | is tag => rfl
  | isNot tag => rfl
  | both a b =>
    exact List.filter_congr fun item _ => by simp [expr, Expr.eval, Expr.evalAll]
  | either a b =>
    exact List.filter_congr fun item _ => by simp [expr, Expr.eval, Expr.evalAny]
  | anyOf tags => exact List.filter_congr fun item _ => hchain tags hne item
  | noneOf tags =>
    exact List.filter_congr fun item _ => congrArg (!·) (hchain tags hne item)

/-- A query that is written in a form of an operator is read, and selects what the operator
    selects. -/
theorem select_eq_of_isWritten {operator : Operator} (hne : operator.tags ≠ [])
    (htags : ∀ t ∈ operator.tags, IsTagName t) {form : List Symbol} (hform : form ∈ operator.forms)
    {source : String} (hsource : IsWritten form source) :
    ∃ query, Query.parse source = .ok query ∧
      ∀ {α : Type} [Tagged α] (items : List α), query.select items = operator.select items := by
  obtain ⟨symbols, hfits, hspells⟩ := hsource
  obtain ⟨d, rfl, hnesting, hexpr⟩ := states_expr hne htags hform hfits
  have hroom : d.nesting 1 0 ≤ maxNesting := hnesting.trans (by decide)
  refine ⟨_, (Query.parse_eq_ok_iff_of_spells hspells).2 ⟨hroom, rfl⟩, fun items => ?_⟩
  rw [hexpr]
  exact select_expr operator hne source items

/-- Keywords in another case, blanks of any kind, tags that begin like keywords and with letters
    beyond ASCII. -/
theorem select_eq_noneOf_written :
    ∃ query, Query.parse "NOT  In[inner,\tß, b-2\n]" = .ok query ∧
      ∀ {α : Type} [Tagged α] (items : List α),
        query.select items = havingNone ["inner", "ß", "b-2"] items := by
  have htokens : tokens "NOT  In[inner,\tß, b-2\n]" = .ok
      [⟨0, .word "NOT"⟩, ⟨5, .word "In"⟩, ⟨7, .openList⟩, ⟨8, .word "inner"⟩, ⟨13, .comma⟩,
        ⟨15, .word "ß"⟩, ⟨17, .comma⟩, ⟨19, .word "b-2"⟩, ⟨23, .closeList⟩] := by cbv
  have hfits : List.Forall₂ Symbol.Fits
      [.word "NOT", .word "In", .openList, .word "inner", .comma, .word "ß", .comma, .word "b-2",
        .closeList]
      (.word "not" :: .word "in" :: .openList :: listed ["inner", "ß", "b-2"]) :=
    .cons (.inr ⟨"not", by decide, rfl, by decide⟩) <|
      .cons (.inr ⟨"in", by decide, rfl, by decide⟩) <|
        List.forall₂_same.2 fun symbol _ => .inl rfl
  exact @select_eq_of_isWritten (noneOf ["inner", "ß", "b-2"]) (by decide) (by decide) _
    (List.mem_singleton_self _) _ ⟨_, hfits, spells_of_tokensFrom htokens⟩

end Operator

end ScenarioTree.Tag
