import ScenarioTree.Proofs.Basic
import ScenarioTree.Proofs.Tag.Grammar

/-!
# Reading and derivations

The readers of tokens read exactly the beginnings that have a derivation for which there is enough
room, and give the condition that the derivation states.

Results:

* `reads_readTags_iff`, `reads_readList_iff`: what the readers of lists read.
* `derived`: all that the other readers read has a derivation.
* `reads_disjunction`, `reads_conjunction`, `reads_unary`, `reads_primary`: what has a derivation is
  read, whatever follows that does not go on with a chain.
* `reads_readOr_tokens`, `reads_readAnd_tokens`: whole chains are read as what they state.
-/

namespace ScenarioTree.Tag

open Grammar

/-- A reader succeeds with a value, and leaves the given tokens. -/
def Reads {α : Type} {ts : List Token} (result : Except Reason (Parsed α ts)) (value : α)
    (rest : List Token) : Prop :=
  ∃ fewer, result = .ok ⟨value, rest, fewer⟩

/-- The same of a reader that may take no token. -/
def ReadsTail {α : Type} {ts : List Token} (result : Except Reason (ParsedTail α ts)) (value : α)
    (rest : List Token) : Prop :=
  ∃ noMore, result = .ok ⟨value, rest, noMore⟩

/-! ## Lists of tags -/

theorem reads_readTags_iff {ts : List Token} {names : List String} {rest : List Token} :
    Reads (readTags ts) names rest ↔
      ∃ items : Items, ts = items.tokens ++ rest ∧ items.names = names := by
  constructor
  · rintro ⟨fewer, h⟩
    fun_induction readTags ts generalizing names with
    | case1 => cases h
    | case2 => cases h
    | case3 token tag htag position others ih =>
      obtain ⟨⟨names, rest', _⟩, hothers, h⟩ := bind_eq_ok_iff.1 h
      cases h
      obtain ⟨items, htokens, hnames⟩ := ih _ hothers
      refine ⟨.more ⟨token, tag, htag⟩ ⟨position⟩ items, ?_, ?_⟩
      · rw [Items.tokens, List.cons_append, List.cons_append, ← htokens]
        rfl
      · rw [Items.names, hnames]
    | case4 token tag htag position others =>
      cases h
      exact ⟨.last ⟨token, tag, htag⟩ ⟨position⟩, rfl, rfl⟩
    | case5 => cases h
  · rintro ⟨items, rfl, rfl⟩
    induction items with
    | last tag closing =>
      obtain ⟨token, name, htag⟩ := tag
      refine ⟨by simp [Items.tokens], ?_⟩
      simp only [Items.tokens, List.cons_append, List.nil_append, Sign.token]
      rw [readTags]
      simp only [htag, Items.names]
    | more tag comma others ih =>
      obtain ⟨token, name, htag⟩ := tag
      obtain ⟨fewer, hread⟩ := ih
      refine ⟨by simp [Items.tokens]; omega, ?_⟩
      simp only [Items.tokens, List.cons_append, Sign.token]
      rw [readTags]
      simp only [htag, hread]
      rfl

theorem chain_names (items : Items) : Expr.chain .or (items.names.map .tag) = items.expr := by
  cases items with
  | last tag closing => rfl
  | more tag comma others => cases others <;> rfl

theorem reads_readList_iff {ts : List Token} {e : Expr} {rest : List Token} :
    Reads (readList ts) e rest ↔ ∃ (opening : Sign .openList) (items : Items),
      ts = opening.token :: (items.tokens ++ rest) ∧ items.expr = e := by
  constructor
  · rintro ⟨fewer, h⟩
    unfold readList at h
    split at h
    · rename_i position others
      split at h
      · cases h
      · obtain ⟨⟨names, rest', _⟩, htags, h⟩ := bind_eq_ok_iff.1 h
        cases h
        obtain ⟨items, hothers, rfl⟩ := reads_readTags_iff.1 ⟨_, htags⟩
        exact ⟨⟨position⟩, items, congrArg (List.cons _) hothers, (chain_names items).symm⟩
    · cases h
  · rintro ⟨opening, items, rfl, rfl⟩
    have hread : Reads (readTags (items.tokens ++ rest)) items.names rest :=
      reads_readTags_iff.2 ⟨items, rfl, rfl⟩
    obtain ⟨fewer, htags⟩ := hread
    have hopening (m : Sign .closeList) := items.tokens_ne_sign m rfl rest
    generalize items.tokens ++ rest = ts at *
    refine ⟨Nat.lt_succ_of_lt fewer, ?_⟩
    simp only [readList, Sign.token]
    split
    · exact absurd rfl (hopening ⟨_⟩ _)
    · rw [htags]
      simp only [← chain_names]
      rfl

/-! ## What is read is derived -/

theorem Grammar.Disjunction.operands_ne_nil (d : Disjunction) : d.operands ≠ [] := by
  cases d <;> exact List.cons_ne_nil _ _

theorem Grammar.Conjunction.operands_ne_nil (c : Conjunction) : c.operands ≠ [] := by
  cases c <;> exact List.cons_ne_nil _ _

theorem chain_or_operands (d : Disjunction) : Expr.chain .or d.operands = d.expr := by
  cases d with
  | one operand => rfl
  | or operand word others =>
    obtain ⟨e, es, hes⟩ := List.exists_cons_of_ne_nil others.operands_ne_nil
    rw [Disjunction.operands, Disjunction.expr, hes]
    rfl

theorem chain_and_operands (c : Conjunction) : Expr.chain .and c.operands = c.expr := by
  cases c with
  | one operand => rfl
  | and operand word others =>
    obtain ⟨e, es, hes⟩ := List.exists_cons_of_ne_nil others.operands_ne_nil
    rw [Conjunction.operands, Conjunction.expr, hes]
    rfl

/-- What the readers read from given tokens has a derivation, which nests no deeper than there is
    room for. -/
structure Derived (stop : Nat) (ts : List Token) : Prop where
  or : ∀ {depth : Nat} {e : Expr} {rest : List Token}, depth ≤ maxNesting →
    Reads (readOr stop depth ts) e rest →
    ∃ d : Disjunction, ts = d.tokens ++ rest ∧ d.expr = e ∧ depth + d.nesting 1 0 ≤ maxNesting
  orTail : ∀ {depth : Nat} {es : List Expr} {rest : List Token} {c : Conjunction},
    depth ≤ maxNesting → depth + c.nesting 1 0 ≤ maxNesting →
    ReadsTail (readOrTail stop depth ts) es rest →
    ∃ d : Disjunction, c.tokens ++ ts = d.tokens ++ rest ∧ d.operands = c.expr :: es ∧
      depth + d.nesting 1 0 ≤ maxNesting
  and : ∀ {depth : Nat} {e : Expr} {rest : List Token}, depth ≤ maxNesting →
    Reads (readAnd stop depth ts) e rest →
    ∃ c : Conjunction, ts = c.tokens ++ rest ∧ c.expr = e ∧ depth + c.nesting 1 0 ≤ maxNesting
  andTail : ∀ {depth : Nat} {es : List Expr} {rest : List Token} {u : Unary},
    depth ≤ maxNesting → depth + u.nesting 1 0 ≤ maxNesting →
    ReadsTail (readAndTail stop depth ts) es rest →
    ∃ c : Conjunction, u.tokens ++ ts = c.tokens ++ rest ∧ c.operands = u.expr :: es ∧
      depth + c.nesting 1 0 ≤ maxNesting
  unary : ∀ {depth : Nat} {e : Expr} {rest : List Token}, depth ≤ maxNesting →
    Reads (readUnary stop depth ts) e rest →
    ∃ u : Unary, ts = u.tokens ++ rest ∧ u.expr = e ∧ depth + u.nesting 1 0 ≤ maxNesting
  primary : ∀ {depth : Nat} {e : Expr} {rest : List Token}, depth ≤ maxNesting →
    Reads (readPrimary stop depth ts) e rest →
    ∃ p : Primary, ts = p.tokens ++ rest ∧ p.expr = e ∧ depth + p.nesting 1 0 ≤ maxNesting

section Step

variable {stop depth : Nat} {ts : List Token} {rest : List Token}
  (ih : ∀ fewer : List Token, fewer.length < ts.length → Derived stop fewer)
  (hdepth : depth ≤ maxNesting)

include ih hdepth

theorem primary_of_reads {e : Expr} (h : Reads (readPrimary stop depth ts) e rest) :
    ∃ p : Primary, ts = p.tokens ++ rest ∧ p.expr = e ∧ depth + p.nesting 1 0 ≤ maxNesting := by
  obtain ⟨_, h⟩ := h
  rw [readPrimary.eq_def] at h
  split at h
  · cases h
  · rename_i position others _
    split at h
    · cases h
    · split_ifs at h with hbound
      obtain ⟨⟨inner, between, _⟩, hinner, h⟩ := bind_eq_ok_iff.1 h
      split at h
      · rename_i closing others' hbetween
        cases h
        obtain rfl : between = ⟨closing, .closeGroup⟩ :: rest := hbetween
        obtain ⟨d, hd, rfl, hnesting⟩ :=
          (ih others (Nat.lt_succ_self _)).or (by omega) ⟨_, hinner⟩
        refine ⟨.group ⟨position⟩ d ⟨closing⟩, ?_, rfl, ?_⟩
        · rw [Primary.tokens, List.cons_append, List.append_assoc]
          exact congrArg (_ :: ·) hd
        · rw [Primary.nesting]
          omega
      · cases h
  · rename_i token others hopen
    split at h
    · rename_i tag htag
      cases h
      exact ⟨.tag ⟨_, tag, htag⟩, rfl, rfl, hdepth⟩
    · cases h

theorem unary_of_reads {e : Expr} (h : Reads (readUnary stop depth ts) e rest) :
    ∃ u : Unary, ts = u.tokens ++ rest ∧ u.expr = e ∧ depth + u.nesting 1 0 ≤ maxNesting := by
  obtain ⟨_, h⟩ := h
  rw [readUnary.eq_def] at h
  split at h
  · obtain ⟨p, hp, rfl, hnesting⟩ := primary_of_reads ih hdepth ⟨_, h⟩
    exact ⟨.primary p, hp, rfl, hnesting⟩
  · rename_i token others _
    split_ifs at h with hnot hbound his hin
    · obtain ⟨⟨inner, rest', _⟩, hinner, h⟩ := bind_eq_ok_iff.1 h
      cases h
      obtain ⟨u, hu, rfl, hnesting⟩ :=
        (ih others (Nat.lt_succ_self _)).unary (by omega) ⟨_, hinner⟩
      refine ⟨.not ⟨token, hnot⟩ u, congrArg (token :: ·) hu, rfl, ?_⟩
      rw [Unary.nesting]
      omega
    · split at h
      · rename_i next others _
        split_ifs at h with hnegation
        · obtain ⟨⟨inner, rest', _⟩, hinner, h⟩ := bind_eq_ok_iff.1 h
          cases h
          obtain ⟨p, hp, rfl, hnesting⟩ := (ih others (by simp)).primary hdepth ⟨_, hinner⟩
          exact ⟨.isNot ⟨token, his⟩ ⟨next, hnegation⟩ p, congrArg (token :: next :: ·) hp, rfl,
            hnesting⟩
        · obtain ⟨⟨inner, rest', _⟩, hinner, h⟩ := bind_eq_ok_iff.1 h
          cases h
          obtain ⟨p, hp, rfl, hnesting⟩ :=
            (ih (next :: others) (Nat.lt_succ_self _)).primary hdepth ⟨_, hinner⟩
          exact ⟨.is ⟨token, his⟩ p, congrArg (token :: ·) hp, rfl, hnesting⟩
      · cases h
    · obtain ⟨⟨list, rest', _⟩, hlist, h⟩ := bind_eq_ok_iff.1 h
      cases h
      obtain ⟨opening, items, hitems, rfl⟩ := reads_readList_iff.1 ⟨_, hlist⟩
      exact ⟨.isIn ⟨token, hin⟩ opening items, congrArg (token :: ·) hitems, rfl, hdepth⟩
    · obtain ⟨p, hp, rfl, hnesting⟩ := primary_of_reads ih hdepth ⟨_, h⟩
      exact ⟨.primary p, hp, rfl, hnesting⟩

theorem conjunction_of_reads {e : Expr} (h : Reads (readAnd stop depth ts) e rest) :
    ∃ c : Conjunction, ts = c.tokens ++ rest ∧ c.expr = e ∧
      depth + c.nesting 1 0 ≤ maxNesting := by
  obtain ⟨_, h⟩ := h
  rw [readAnd] at h
  obtain ⟨⟨first, between, hfewer⟩, hfirst, h⟩ := bind_eq_ok_iff.1 h
  obtain ⟨⟨others, rest', _⟩, hothers, h⟩ := bind_eq_ok_iff.1 h
  cases h
  obtain ⟨u, hu, rfl, hnesting⟩ := unary_of_reads ih hdepth ⟨_, hfirst⟩
  obtain ⟨c, hc, hoperands, hnesting⟩ := (ih between hfewer).andTail hdepth hnesting ⟨_, hothers⟩
  refine ⟨c, hu.trans hc, ?_, hnesting⟩
  rw [← chain_and_operands, hoperands]

theorem disjunction_of_reads {e : Expr} (h : Reads (readOr stop depth ts) e rest) :
    ∃ d : Disjunction, ts = d.tokens ++ rest ∧ d.expr = e ∧
      depth + d.nesting 1 0 ≤ maxNesting := by
  obtain ⟨_, h⟩ := h
  rw [readOr] at h
  obtain ⟨⟨first, between, hfewer⟩, hfirst, h⟩ := bind_eq_ok_iff.1 h
  obtain ⟨⟨others, rest', _⟩, hothers, h⟩ := bind_eq_ok_iff.1 h
  cases h
  obtain ⟨c, hc, rfl, hnesting⟩ := conjunction_of_reads ih hdepth ⟨_, hfirst⟩
  obtain ⟨d, hd, hoperands, hnesting⟩ := (ih between hfewer).orTail hdepth hnesting ⟨_, hothers⟩
  refine ⟨d, hc.trans hd, ?_, hnesting⟩
  rw [← chain_or_operands, hoperands]

theorem disjunction_of_readsTail {es : List Expr} {c : Conjunction}
    (hc : depth + c.nesting 1 0 ≤ maxNesting) (h : ReadsTail (readOrTail stop depth ts) es rest) :
    ∃ d : Disjunction, c.tokens ++ ts = d.tokens ++ rest ∧ d.operands = c.expr :: es ∧
      depth + d.nesting 1 0 ≤ maxNesting := by
  obtain ⟨_, h⟩ := h
  rw [readOrTail.eq_def] at h
  split at h
  · cases h
    exact ⟨.one c, rfl, rfl, hc⟩
  · rename_i token others _
    split_ifs at h with hor
    · obtain ⟨⟨next, between, hfewer⟩, hnext, h⟩ := bind_eq_ok_iff.1 h
      obtain ⟨⟨further, rest', _⟩, hfurther, h⟩ := bind_eq_ok_iff.1 h
      cases h
      obtain ⟨c', hc', rfl, hnesting⟩ := (ih others (Nat.lt_succ_self _)).and hdepth ⟨_, hnext⟩
      obtain ⟨d, hd, hoperands, hnesting⟩ :=
        (ih between (Nat.lt_succ_of_lt hfewer)).orTail hdepth hnesting ⟨_, hfurther⟩
      refine ⟨.or c ⟨token, hor⟩ d, ?_, ?_, ?_⟩
      · rw [Disjunction.tokens, List.append_assoc, List.cons_append]
        exact congrArg (c.tokens ++ token :: ·) (hc'.trans hd)
      · rw [Disjunction.operands, hoperands]
      · rw [Disjunction.nesting]
        omega
    · cases h
      exact ⟨.one c, rfl, rfl, hc⟩

theorem conjunction_of_readsTail {es : List Expr} {u : Unary}
    (hu : depth + u.nesting 1 0 ≤ maxNesting) (h : ReadsTail (readAndTail stop depth ts) es rest) :
    ∃ c : Conjunction, u.tokens ++ ts = c.tokens ++ rest ∧ c.operands = u.expr :: es ∧
      depth + c.nesting 1 0 ≤ maxNesting := by
  obtain ⟨_, h⟩ := h
  rw [readAndTail.eq_def] at h
  split at h
  · cases h
    exact ⟨.one u, rfl, rfl, hu⟩
  · rename_i token others _
    split_ifs at h with hand
    · obtain ⟨⟨next, between, hfewer⟩, hnext, h⟩ := bind_eq_ok_iff.1 h
      obtain ⟨⟨further, rest', _⟩, hfurther, h⟩ := bind_eq_ok_iff.1 h
      cases h
      obtain ⟨u', hu', rfl, hnesting⟩ := (ih others (Nat.lt_succ_self _)).unary hdepth ⟨_, hnext⟩
      obtain ⟨c, hc, hoperands, hnesting⟩ :=
        (ih between (Nat.lt_succ_of_lt hfewer)).andTail hdepth hnesting ⟨_, hfurther⟩
      refine ⟨.and u ⟨token, hand⟩ c, ?_, ?_, ?_⟩
      · rw [Conjunction.tokens, List.append_assoc, List.cons_append]
        exact congrArg (u.tokens ++ token :: ·) (hu'.trans hc)
      · rw [Conjunction.operands, hoperands]
      · rw [Conjunction.nesting]
        omega
    · cases h
      exact ⟨.one u, rfl, rfl, hu⟩

end Step

/-- The readers of tokens read only what is derived: each of them hands over fewer tokens than it has,
    or the same ones to a reader below it. -/
theorem derived (stop : Nat) (ts : List Token) : Derived stop ts := by
  induction hn : ts.length using Nat.strong_induction_on generalizing ts with
  | h n ih =>
    subst hn
    have ih (fewer : List Token) (h : fewer.length < ts.length) : Derived stop fewer :=
      ih fewer.length h fewer rfl
    exact
      { or := fun hdepth h => disjunction_of_reads ih hdepth h
        orTail := fun hdepth hc h => disjunction_of_readsTail ih hdepth hc h
        and := fun hdepth h => conjunction_of_reads ih hdepth h
        andTail := fun hdepth hu h => conjunction_of_readsTail ih hdepth hu h
        unary := fun hdepth h => unary_of_reads ih hdepth h
        primary := fun hdepth h => primary_of_reads ih hdepth h }

/-! ## What is derived is read -/

section Chains

variable {stop depth : Nat} {ts between rest : List Token} {first : Expr} {others : List Expr}

theorem reads_readOr (hfirst : Reads (readAnd stop depth ts) first between)
    (hothers : ReadsTail (readOrTail stop depth between) others rest) :
    Reads (readOr stop depth ts) (Expr.chain .or (first :: others)) rest := by
  obtain ⟨hfewer, hfirst⟩ := hfirst
  obtain ⟨hnoMore, hothers⟩ := hothers
  refine ⟨Nat.lt_of_le_of_lt hnoMore hfewer, ?_⟩
  rw [readOr, hfirst]
  simp only [bind, Except.bind, hothers]
  rfl

theorem reads_readAnd (hfirst : Reads (readUnary stop depth ts) first between)
    (hothers : ReadsTail (readAndTail stop depth between) others rest) :
    Reads (readAnd stop depth ts) (Expr.chain .and (first :: others)) rest := by
  obtain ⟨hfewer, hfirst⟩ := hfirst
  obtain ⟨hnoMore, hothers⟩ := hothers
  refine ⟨Nat.lt_of_le_of_lt hnoMore hfewer, ?_⟩
  rw [readAnd, hfirst]
  simp only [bind, Except.bind, hothers]
  rfl

/-- The operands of a derivation are read as what it states. -/
theorem reads_readOr_operands {d : Disjunction} (hfirst : Reads (readAnd stop depth ts) first between)
    (hothers : ReadsTail (readOrTail stop depth between) others rest)
    (hd : d.operands = first :: others) : Reads (readOr stop depth ts) d.expr rest := by
  rw [← chain_or_operands, hd]
  exact reads_readOr hfirst hothers

theorem reads_readAnd_operands {c : Conjunction}
    (hfirst : Reads (readUnary stop depth ts) first between)
    (hothers : ReadsTail (readAndTail stop depth between) others rest)
    (hc : c.operands = first :: others) : Reads (readAnd stop depth ts) c.expr rest := by
  rw [← chain_and_operands, hc]
  exact reads_readAnd hfirst hothers

theorem readsTail_readOrTail (w : Keyword "or") (hfirst : Reads (readAnd stop depth ts) first between)
    (hothers : ReadsTail (readOrTail stop depth between) others rest) :
    ReadsTail (readOrTail stop depth (w.token :: ts)) (first :: others) rest := by
  obtain ⟨hfewer, hfirst⟩ := hfirst
  obtain ⟨hnoMore, hothers⟩ := hothers
  refine ⟨by simp; omega, ?_⟩
  rw [readOrTail, if_pos w.isKeyword, hfirst]
  simp only [bind, Except.bind, hothers]
  rfl

theorem readsTail_readAndTail (w : Keyword "and")
    (hfirst : Reads (readUnary stop depth ts) first between)
    (hothers : ReadsTail (readAndTail stop depth between) others rest) :
    ReadsTail (readAndTail stop depth (w.token :: ts)) (first :: others) rest := by
  obtain ⟨hfewer, hfirst⟩ := hfirst
  obtain ⟨hnoMore, hothers⟩ := hothers
  refine ⟨by simp; omega, ?_⟩
  rw [readAndTail, if_pos w.isKeyword, hfirst]
  simp only [bind, Except.bind, hothers]
  rfl

theorem readOrTail_of_not_startsWith (h : startsWith "or" ts = false) :
    readOrTail stop depth ts = .ok ⟨[], ts, le_rfl⟩ := by
  cases ts with
  | nil => rw [readOrTail]
  | cons token others =>
    rw [readOrTail, if_neg]
    exact Bool.eq_false_iff.1 h

theorem readAndTail_of_not_startsWith (h : startsWith "and" ts = false) :
    readAndTail stop depth ts = .ok ⟨[], ts, le_rfl⟩ := by
  cases ts with
  | nil => rw [readAndTail]
  | cons token others =>
    rw [readAndTail, if_neg]
    exact Bool.eq_false_iff.1 h

theorem readsTail_readOrTail_nil (h : startsWith "or" ts = false) :
    ReadsTail (readOrTail stop depth ts) [] ts := ⟨le_rfl, readOrTail_of_not_startsWith h⟩

theorem readsTail_readAndTail_nil (h : startsWith "and" ts = false) :
    ReadsTail (readAndTail stop depth ts) [] ts := ⟨le_rfl, readAndTail_of_not_startsWith h⟩

end Chains

theorem readUnary_eq_readPrimary {stop depth : Nat} {ts : List Token}
    (hnot : startsWith "not" ts = false) (his : startsWith "is" ts = false)
    (hin : startsWith "in" ts = false) : readUnary stop depth ts = readPrimary stop depth ts := by
  rw [readUnary.eq_def]
  cases ts with
  | nil => rfl
  | cons token others =>
    have hkeyword {keyword : String} (h : startsWith keyword (token :: others) = false) :
        ¬ token.symbol.isKeyword keyword = true := Bool.eq_false_iff.1 h
    simp only
    rw [if_neg (hkeyword hnot), if_neg (hkeyword his), if_neg (hkeyword hin)]

theorem readUnary_of_not_startsWith {stop depth : Nat} {ts : List Token}
    (h : ∀ keyword ∈ keywords, startsWith keyword ts = false) :
    readUnary stop depth ts = readPrimary stop depth ts :=
  readUnary_eq_readPrimary (h "not" (by decide)) (h "is" (by decide)) (h "in" (by decide))

section Operands

variable {stop depth : Nat} {ts rest : List Token} {e : Expr}

theorem readUnary_not (w : Keyword "not") (hdepth : depth < maxNesting) :
    readUnary stop depth (w.token :: ts) = (readUnary stop (depth + 1) ts).map fun inner =>
      ⟨.not inner.value, inner.rest, Nat.lt_succ_of_lt inner.fewer⟩ := by
  rw [readUnary.eq_def]
  simp only [w.isKeyword, if_true]
  rw [if_neg (Nat.ne_of_lt hdepth)]
  rfl

theorem readUnary_is (w : Keyword "is") (hnot : startsWith "not" ts = false) :
    readUnary stop depth (w.token :: ts) = (readPrimary stop depth ts).map fun inner =>
      ⟨inner.value, inner.rest, Nat.lt_succ_of_lt inner.fewer⟩ := by
  have hw : ¬ w.token.symbol.isKeyword "not" = true := fun hkeyword =>
    absurd (isKeyword_unique w.isKeyword hkeyword) (by decide)
  rw [readUnary.eq_def]
  simp only
  rw [if_neg hw, if_pos w.isKeyword]
  cases ts with
  | nil =>
    rw [readPrimary]
    rfl
  | cons token others =>
    have htoken : ¬ token.symbol.isKeyword "not" = true := Bool.eq_false_iff.1 hnot
    simp only
    rw [if_neg htoken]
    rfl

theorem readUnary_isNot (w : Keyword "is") (n : Keyword "not") :
    readUnary stop depth (w.token :: n.token :: ts) = (readPrimary stop depth ts).map fun inner =>
      ⟨.not inner.value, inner.rest, Nat.lt_add_right 2 inner.fewer⟩ := by
  have hw : ¬ w.token.symbol.isKeyword "not" = true := fun hkeyword =>
    absurd (isKeyword_unique w.isKeyword hkeyword) (by decide)
  rw [readUnary.eq_def]
  simp only
  rw [if_neg hw, if_pos w.isKeyword, if_pos n.isKeyword]
  rfl

theorem readUnary_in (w : Keyword "in") :
    readUnary stop depth (w.token :: ts) = (readList ts).map fun list =>
      ⟨list.value, list.rest, Nat.lt_succ_of_lt list.fewer⟩ := by
  have hw (keyword : String) (hne : "in" ≠ keyword) :
      ¬ w.token.symbol.isKeyword keyword = true := fun hkeyword =>
    hne (isKeyword_unique w.isKeyword hkeyword)
  rw [readUnary.eq_def]
  simp only
  rw [if_neg (hw "not" (by decide)), if_neg (hw "is" (by decide)), if_pos w.isKeyword]
  rfl

theorem reads_not (w : Keyword "not") (hdepth : depth < maxNesting)
    (h : Reads (readUnary stop (depth + 1) ts) e rest) :
    Reads (readUnary stop depth (w.token :: ts)) (.not e) rest := by
  obtain ⟨_, h⟩ := h
  exact ⟨_, by rw [readUnary_not w hdepth, h]; rfl⟩

theorem reads_is (w : Keyword "is") (hnot : startsWith "not" ts = false)
    (h : Reads (readPrimary stop depth ts) e rest) :
    Reads (readUnary stop depth (w.token :: ts)) e rest := by
  obtain ⟨_, h⟩ := h
  exact ⟨_, by rw [readUnary_is w hnot, h]; rfl⟩

theorem reads_isNot (w : Keyword "is") (n : Keyword "not")
    (h : Reads (readPrimary stop depth ts) e rest) :
    Reads (readUnary stop depth (w.token :: n.token :: ts)) (.not e) rest := by
  obtain ⟨_, h⟩ := h
  exact ⟨_, by rw [readUnary_isNot w n, h]; rfl⟩

theorem reads_isIn (w : Keyword "in") (h : Reads (readList ts) e rest) :
    Reads (readUnary stop depth (w.token :: ts)) e rest := by
  obtain ⟨_, h⟩ := h
  exact ⟨_, by rw [readUnary_in w, h]; rfl⟩

theorem not_reads_closeGroup (closing : Sign .closeGroup) :
    ¬ Reads (readOr stop depth (closing.token :: ts)) e rest := by
  rintro ⟨_, h⟩
  have hkeyword (keyword : String) (_ : keyword ∈ keywords) :
      startsWith keyword (closing.token :: ts) = false := rfl
  rw [readOr, readAnd, readUnary_of_not_startsWith hkeyword, readPrimary.eq_def] at h
  cases h

theorem reads_group (opening : Sign .openGroup) (closing : Sign .closeGroup)
    (hdepth : depth < maxNesting)
    (h : Reads (readOr stop (depth + 1) ts) e (closing.token :: rest)) :
    Reads (readPrimary stop depth (opening.token :: ts)) e rest := by
  have hts (position : Nat) (others : List Token) : ts ≠ ⟨position, .closeGroup⟩ :: others := by
    rintro rfl
    exact not_reads_closeGroup ⟨position⟩ h
  obtain ⟨hfewer, h⟩ := h
  refine ⟨by simp at hfewer ⊢; omega, ?_⟩
  simp only [Sign.token]
  rw [readPrimary.eq_def]
  simp only
  rw [if_neg (Nat.ne_of_lt hdepth), h]
  rfl

theorem reads_tag (tag : TagName) :
    Reads (readPrimary stop depth (tag.token :: rest)) (.tag tag.name) rest := by
  obtain ⟨⟨position, symbol⟩, name, htag⟩ := tag
  refine ⟨Nat.lt_succ_self _, ?_⟩
  rw [readPrimary.eq_def]
  simp only at htag ⊢
  cases symbol with
  | word text =>
    simp only
    rw [htag]
  | _ => cases htag

end Operands

mutual

/-- The first operand is read as a conjunction, the other ones as the rest of a chain. -/
theorem reads_disjunction (stop depth : Nat) : ∀ (d : Disjunction) (rest : List Token),
    depth + d.nesting 1 0 ≤ maxNesting → startsWith "or" rest = false →
    startsWith "and" rest = false → ∃ first others between,
      Reads (readAnd stop depth (d.tokens ++ rest)) first between ∧
        ReadsTail (readOrTail stop depth between) others rest ∧ d.operands = first :: others
  | .one c, rest, hnesting, hor, hand => by
    obtain ⟨first, others, between, hfirst, hothers, hoperands⟩ :=
      reads_conjunction stop depth c rest hnesting hand
    exact ⟨c.expr, [], rest, reads_readAnd_operands hfirst hothers hoperands,
      readsTail_readOrTail_nil hor, rfl⟩
  | .or c w d, rest, hnesting, hor, hand => by
    rw [Disjunction.nesting] at hnesting
    obtain ⟨next, further, between, hnext, hfurther, hd⟩ :=
      reads_disjunction stop depth d rest (by omega) hor hand
    obtain ⟨first, others, between', hfirst, hothers, hc⟩ :=
      reads_conjunction stop depth c (w.token :: (d.tokens ++ rest)) (by omega)
        (startsWith_keyword_eq_false (by decide) w _)
    refine ⟨c.expr, next :: further, w.token :: (d.tokens ++ rest), ?_,
      readsTail_readOrTail w hnext hfurther, ?_⟩
    · rw [Disjunction.tokens, List.append_assoc, List.cons_append]
      exact reads_readAnd_operands hfirst hothers hc
    · rw [Disjunction.operands, hd]

theorem reads_conjunction (stop depth : Nat) : ∀ (c : Conjunction) (rest : List Token),
    depth + c.nesting 1 0 ≤ maxNesting → startsWith "and" rest = false → ∃ first others between,
      Reads (readUnary stop depth (c.tokens ++ rest)) first between ∧
        ReadsTail (readAndTail stop depth between) others rest ∧ c.operands = first :: others
  | .one u, rest, hnesting, hand =>
    ⟨u.expr, [], rest, reads_unary stop depth u rest hnesting, readsTail_readAndTail_nil hand, rfl⟩
  | .and u w c, rest, hnesting, hand => by
    rw [Conjunction.nesting] at hnesting
    obtain ⟨next, further, between, hnext, hfurther, hc⟩ :=
      reads_conjunction stop depth c rest (by omega) hand
    refine ⟨u.expr, next :: further, w.token :: (c.tokens ++ rest), ?_,
      readsTail_readAndTail w hnext hfurther, ?_⟩
    · rw [Conjunction.tokens, List.append_assoc, List.cons_append]
      exact reads_unary stop depth u _ (by omega)
    · rw [Conjunction.operands, hc]

theorem reads_unary (stop depth : Nat) : ∀ (u : Unary) (rest : List Token),
    depth + u.nesting 1 0 ≤ maxNesting →
      Reads (readUnary stop depth (u.tokens ++ rest)) u.expr rest
  | .not w u, rest, hnesting => by
    rw [Unary.nesting] at hnesting
    exact reads_not w (by omega) (reads_unary stop (depth + 1) u rest (by omega))
  | .is w p, rest, hnesting =>
    reads_is w (p.startsWith_eq_false rest (by decide)) (reads_primary stop depth p rest hnesting)
  | .isNot w n p, rest, hnesting => reads_isNot w n (reads_primary stop depth p rest hnesting)
  | .isIn w opening items, rest, _ =>
    reads_isIn w (reads_readList_iff.2 ⟨opening, items, rfl, rfl⟩)
  | .primary p, rest, hnesting => by
    have h : readUnary stop depth (p.tokens ++ rest) = readPrimary stop depth (p.tokens ++ rest) :=
      readUnary_of_not_startsWith fun keyword hk => p.startsWith_eq_false rest hk
    rw [Unary.tokens, h]
    exact reads_primary stop depth p rest hnesting

theorem reads_primary (stop depth : Nat) : ∀ (p : Primary) (rest : List Token),
    depth + p.nesting 1 0 ≤ maxNesting →
      Reads (readPrimary stop depth (p.tokens ++ rest)) p.expr rest
  | .group opening d closing, rest, hnesting => by
    rw [Primary.nesting] at hnesting
    obtain ⟨first, others, between, hfirst, hothers, hoperands⟩ :=
      reads_disjunction stop (depth + 1) d (closing.token :: rest) (by omega) rfl rfl
    rw [Primary.tokens, List.cons_append, List.append_assoc]
    exact reads_group opening closing (by omega) (reads_readOr_operands hfirst hothers hoperands)
  | .tag tag, rest, _ => reads_tag tag

end

theorem reads_readOr_tokens {stop depth : Nat} {d : Disjunction} {rest : List Token}
    (hnesting : depth + d.nesting 1 0 ≤ maxNesting) (hor : startsWith "or" rest = false)
    (hand : startsWith "and" rest = false) :
    Reads (readOr stop depth (d.tokens ++ rest)) d.expr rest := by
  obtain ⟨first, others, between, hfirst, hothers, hoperands⟩ :=
    reads_disjunction stop depth d rest hnesting hor hand
  exact reads_readOr_operands hfirst hothers hoperands

theorem reads_readAnd_tokens {stop depth : Nat} {c : Conjunction} {rest : List Token}
    (hnesting : depth + c.nesting 1 0 ≤ maxNesting) (hand : startsWith "and" rest = false) :
    Reads (readAnd stop depth (c.tokens ++ rest)) c.expr rest := by
  obtain ⟨first, others, between, hfirst, hothers, hoperands⟩ :=
    reads_conjunction stop depth c rest hnesting hand
  exact reads_readAnd_operands hfirst hothers hoperands

end ScenarioTree.Tag
