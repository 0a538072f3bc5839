import ScenarioTree.Proofs.Tag.Spelling

/-!
# Where reading fails

A reader fails at one of its tokens, or at their end. The tokens before it can be completed to some
that the reader takes, and the ones behind it do not matter: with this token next, all readings fail
in the same way. Only groups and lists that hold nothing are reported at their opening bracket, one
token early.

This holds unless there is no room for a group or a negation. It goes from each reader to the ones
that call it, since what stands around a part can be completed if the part can.

Results:

* `Fails.within`: a failure in a part is one of the whole.
* `readAnd_eq_error_iff`, `readOr_eq_error_iff`: where chains fail.
* `startsWith_of_reads`: chains do not end where they can go on.
* `fails_readTags`, `fails_readList`, `failing`: how the readers fail.
-/

namespace ScenarioTree.Tag

open Grammar

/-! ## What the readers take -/

/-- The tokens of a disjunction for which there is room inside of `depth` groups and negations. -/
def IsDisjunction (depth : Nat) (ts : List Token) : Prop :=
  ∃ d : Disjunction, d.tokens = ts ∧ depth + d.nesting 1 0 ≤ maxNesting

def IsConjunction (depth : Nat) (ts : List Token) : Prop :=
  ∃ c : Conjunction, c.tokens = ts ∧ depth + c.nesting 1 0 ≤ maxNesting

def IsUnary (depth : Nat) (ts : List Token) : Prop :=
  ∃ u : Unary, u.tokens = ts ∧ depth + u.nesting 1 0 ≤ maxNesting

def IsPrimary (depth : Nat) (ts : List Token) : Prop :=
  ∃ p : Primary, p.tokens = ts ∧ depth + p.nesting 1 0 ≤ maxNesting

/-- The tokens of a list behind its opening bracket. -/
def IsItems (ts : List Token) : Prop := ∃ items : Items, items.tokens = ts

def IsList (ts : List Token) : Prop :=
  ∃ (opening : Sign .openList) (items : Items), opening.token :: items.tokens = ts

section Parts

variable {depth : Nat} {ts : List Token}

theorem IsConjunction.isDisjunction (h : IsConjunction depth ts) : IsDisjunction depth ts := by
  obtain ⟨c, rfl, hnesting⟩ := h
  exact ⟨.one c, rfl, hnesting⟩

theorem IsDisjunction.cons {c : Conjunction} (hc : depth + c.nesting 1 0 ≤ maxNesting)
    (w : Keyword "or") (h : IsDisjunction depth ts) :
    IsDisjunction depth (c.tokens ++ w.token :: ts) := by
  obtain ⟨d, rfl, hnesting⟩ := h
  refine ⟨.or c w d, rfl, ?_⟩
  rw [Disjunction.nesting]
  omega

theorem IsUnary.isConjunction (h : IsUnary depth ts) : IsConjunction depth ts := by
  obtain ⟨u, rfl, hnesting⟩ := h
  exact ⟨.one u, rfl, hnesting⟩

theorem IsConjunction.cons {u : Unary} (hu : depth + u.nesting 1 0 ≤ maxNesting)
    (w : Keyword "and") (h : IsConjunction depth ts) :
    IsConjunction depth (u.tokens ++ w.token :: ts) := by
  obtain ⟨c, rfl, hnesting⟩ := h
  refine ⟨.and u w c, rfl, ?_⟩
  rw [Conjunction.nesting]
  omega

theorem IsPrimary.isUnary (h : IsPrimary depth ts) : IsUnary depth ts := by
  obtain ⟨p, rfl, hnesting⟩ := h
  exact ⟨.primary p, rfl, hnesting⟩

theorem IsUnary.not (w : Keyword "not") (h : IsUnary (depth + 1) ts) :
    IsUnary depth (w.token :: ts) := by
  obtain ⟨u, rfl, hnesting⟩ := h
  refine ⟨.not w u, rfl, ?_⟩
  rw [Unary.nesting]
  omega

theorem IsPrimary.is (w : Keyword "is") (h : IsPrimary depth ts) :
    IsUnary depth (w.token :: ts) := by
  obtain ⟨p, rfl, hnesting⟩ := h
  exact ⟨.is w p, rfl, hnesting⟩

theorem IsPrimary.isNot (w : Keyword "is") (n : Keyword "not") (h : IsPrimary depth ts) :
    IsUnary depth (w.token :: n.token :: ts) := by
  obtain ⟨p, rfl, hnesting⟩ := h
  exact ⟨.isNot w n p, rfl, hnesting⟩

theorem IsList.isIn (w : Keyword "in") (hdepth : depth ≤ maxNesting) (h : IsList ts) :
    IsUnary depth (w.token :: ts) := by
  obtain ⟨opening, items, rfl⟩ := h
  exact ⟨.isIn w opening items, rfl, hdepth⟩

theorem IsDisjunction.group (opening : Sign .openGroup) (closing : Sign .closeGroup)
    (h : IsDisjunction (depth + 1) ts) :
    IsPrimary depth (opening.token :: (ts ++ [closing.token])) := by
  obtain ⟨d, rfl, hnesting⟩ := h
  refine ⟨.group opening d closing, rfl, ?_⟩
  rw [Primary.nesting]
  omega

theorem isPrimary_tag (tag : TagName) (hdepth : depth ≤ maxNesting) :
    IsPrimary depth [tag.token] := ⟨.tag tag, rfl, hdepth⟩

theorem IsItems.more (tag : TagName) (comma : Sign .comma) (h : IsItems ts) :
    IsItems (tag.token :: comma.token :: ts) := by
  obtain ⟨items, rfl⟩ := h
  exact ⟨.more tag comma items, rfl⟩

theorem IsItems.isList (opening : Sign .openList) (h : IsItems ts) :
    IsList (opening.token :: ts) := by
  obtain ⟨items, rfl⟩ := h
  exact ⟨opening, items, rfl⟩

end Parts

/-! ## Failures -/

/-- What a reason tells about the tokens that are left where a reader fails: which one comes next,
    or where the brackets are that enclose nothing. -/
inductive Blames : List Token → Reason → Prop where
  | expected (what : Expected) (rest : List Token) : Blames rest (.expected what rest.head?)
  | emptyGroup (opening : Sign .openGroup) (closing : Sign .closeGroup) (rest : List Token) :
    Blames (opening.token :: closing.token :: rest) (.emptyGroup opening.position)
  | emptyList (opening : Sign .openList) (closing : Sign .closeList) (rest : List Token) :
    Blames (opening.token :: closing.token :: rest) (.emptyList opening.position)

/-- Tokens can go on to ones of a kind, in a way that a text can spell, and have to go on. -/
def IsViable (Complete : List Token → Prop) (before : List Token) : Prop :=
  ∃ completion, completion ≠ [] ∧ (∀ token ∈ completion, token.symbol.IsPlain) ∧
    Complete (before ++ completion)

section Failure

variable {α β : Type}

/-- A reader fails between the tokens before and the rest. -/
structure FailsAt (Complete : List Token → Prop)
    (read : (ts : List Token) → Except Reason (Parsed α ts)) (before rest : List Token)
    (reason : Reason) : Prop where
  blames : Blames rest reason
  viable : IsViable Complete before
  /-- Of the rest only the first token counts. -/
  stable : ∀ what found, reason = .expected what found →
    ∀ others : List Token, others.head? = rest.head? → read (before ++ others) = .error reason

/-- A reader of the tokens of a kind fails somewhere in the given ones. -/
def Fails (Complete : List Token → Prop) (read : (ts : List Token) → Except Reason (Parsed α ts))
    (ts : List Token) (reason : Reason) : Prop :=
  ∃ before rest, ts = before ++ rest ∧ FailsAt Complete read before rest reason

variable {Complete Inner : List Token → Prop}
  {read : (ts : List Token) → Except Reason (Parsed α ts)}
  {readInner : (ts : List Token) → Except Reason (Parsed β ts)} {ts : List Token} {reason : Reason}

theorem head?_append_congr {before rest others : List Token} (h : others.head? = rest.head?) :
    (before ++ others).head? = (before ++ rest).head? := by
  rw [List.head?_append, List.head?_append, h]

/-- A reader that fails at the next token, whatever comes behind that. -/
theorem Fails.of_head {what : Expected} (before rest : List Token)
    (hviable : IsViable Complete before)
    (hread : ∀ others : List Token, others.head? = rest.head? →
      read (before ++ others) = .error (.expected what others.head?)) :
    Fails Complete read (before ++ rest) (.expected what rest.head?) :=
  ⟨before, rest, rfl, .expected what rest, hviable, fun _ _ _ others hothers => by
    rw [hread others hothers, hothers]⟩

/-- A reader that fails at brackets which hold nothing. -/
theorem Fails.of_empty (hblames : Blames ts reason)
    (hreason : ∀ what found, reason ≠ .expected what found) (hviable : IsViable Complete []) :
    Fails Complete read ts reason :=
  ⟨[], ts, rfl, hblames, hviable, fun what found h => absurd h (hreason what found)⟩

/-- A reader fails where a part of it fails: what stands before the part has been read, and what
    comes behind it completes it. -/
theorem Fails.within (front back : List Token)
    (hback : ∀ token ∈ back, token.symbol.IsPlain)
    (hcomplete : ∀ inside, Inner inside → Complete (front ++ (inside ++ back)))
    (hread : ∀ others : List Token, others.head? = ts.head? → readInner others = .error reason →
      read (front ++ others) = .error reason)
    (h : Fails Inner readInner ts reason) : Fails Complete read (front ++ ts) reason := by
  obtain ⟨before, rest, rfl, hblames, ⟨completion, hne, hplain, hinner⟩, hstable⟩ := h
  refine ⟨front ++ before, rest, (List.append_assoc ..).symm, hblames,
    ⟨completion ++ back, ?_, ?_, ?_⟩, fun what found hreason others hothers => ?_⟩
  · exact List.append_ne_nil_of_left_ne_nil hne back
  · exact List.forall_mem_append.2 ⟨hplain, hback⟩
  · have hwhole := hcomplete _ hinner
    simpa only [List.append_assoc] using hwhole
  · rw [List.append_assoc]
    exact hread _ (head?_append_congr hothers) (hstable what found hreason others hothers)

/-- The same where the whole ends with the part. -/
theorem Fails.behind (front : List Token)
    (hcomplete : ∀ inside, Inner inside → Complete (front ++ inside))
    (hread : ∀ others : List Token, others.head? = ts.head? → readInner others = .error reason →
      read (front ++ others) = .error reason)
    (h : Fails Inner readInner ts reason) : Fails Complete read (front ++ ts) reason := by
  refine h.within front [] (by simp) (fun inside hinside => ?_) hread
  rw [List.append_nil]
  exact hcomplete inside hinside

end Failure

theorem forall_head?_ne {symbol : Symbol} {ts : List Token}
    (h : ∀ position rest, ts = ⟨position, symbol⟩ :: rest → False) :
    ∀ token ∈ ts.head?, token.symbol ≠ symbol := by
  rintro token htoken rfl
  obtain ⟨rest, rfl⟩ := List.head?_eq_some_iff.1 htoken
  exact h token.position rest rfl

/-! ## Readers that fail -/

/-- A tag with which anything can be completed. -/
def anyTag : TagName := ⟨⟨0, .word "a"⟩, "a", rfl⟩

section Errors

variable {stop depth : Nat} {ts : List Token} {reason : Reason}

theorem readTags_of_not_tag (h : ∀ token ∈ ts.head?, token.symbol.tag? = none) :
    readTags ts = .error (.expected .tag ts.head?) := by
  cases ts with
  | nil => rw [readTags.eq_def]; rfl
  | cons token rest =>
    rw [readTags.eq_def]
    simp only [h token rfl, List.head?_cons]

theorem readTags_of_not_sign (tag : TagName)
    (h : ∀ next ∈ ts.head?, next.symbol ≠ .comma ∧ next.symbol ≠ .closeList) :
    readTags (tag.token :: ts) = .error (.expected .commaOrCloseList ts.head?) := by
  rw [readTags.eq_def]
  simp only [tag.isTag]
  split
  · exact absurd rfl (h _ rfl).1
  · exact absurd rfl (h _ rfl).2
  · rfl

theorem readTags_more (tag : TagName) (comma : Sign .comma) (h : readTags ts = .error reason) :
    readTags (tag.token :: comma.token :: ts) = .error reason := by
  rw [readTags.eq_def]
  simp only [tag.isTag, Sign.token, h]
  rfl

theorem readList_of_not_openList (h : ∀ token ∈ ts.head?, token.symbol ≠ .openList) :
    readList ts = .error (.expected .openList ts.head?) := by
  unfold readList
  split
  · exact absurd rfl (h _ rfl)
  · rfl

theorem readList_of_readTags (opening : Sign .openList)
    (hts : ∀ next ∈ ts.head?, next.symbol ≠ .closeList) (h : readTags ts = .error reason) :
    readList (opening.token :: ts) = .error reason := by
  simp only [readList, Sign.token]
  split
  · exact absurd rfl (hts _ rfl)
  · rw [h]
    rfl

theorem readPrimary_of_not_tag
    (h : ∀ token ∈ ts.head?, token.symbol ≠ .openGroup ∧ token.symbol.tag? = none) :
    readPrimary stop depth ts = .error (.expected .tag ts.head?) := by
  rw [readPrimary.eq_def]
  split
  · rfl
  · exact absurd rfl (h _ rfl).1
  · rename_i token rest _
    simp only [(h token rfl).2, List.head?_cons]

theorem readPrimary_of_readOr (opening : Sign .openGroup)
    (hts : ∀ next ∈ ts.head?, next.symbol ≠ .closeGroup) (hdepth : depth < maxNesting)
    (h : readOr stop (depth + 1) ts = .error reason) :
    readPrimary stop depth (opening.token :: ts) = .error reason := by
  rw [readPrimary.eq_def]
  simp only [Sign.token]
  split
  · exact absurd rfl (hts _ rfl)
  · rw [if_neg (Nat.ne_of_lt hdepth), h]
    rfl

theorem readPrimary_of_not_closeGroup (opening : Sign .openGroup) {e : Expr} {rest : List Token}
    (hdepth : depth < maxNesting) (h : Reads (readOr stop (depth + 1) ts) e rest)
    (hrest : ∀ next ∈ rest.head?, next.symbol ≠ .closeGroup) :
    readPrimary stop depth (opening.token :: ts) = .error (.expected .closeGroup rest.head?) := by
  rw [readPrimary.eq_def]
  simp only [Sign.token]
  split
  · rename_i position others
    exact absurd h (not_reads_closeGroup ⟨position⟩)
  · obtain ⟨hfewer, h⟩ := h
    rw [if_neg (Nat.ne_of_lt hdepth), h]
    simp only [bind, Except.bind]
    split
    · exact absurd rfl (hrest _ rfl)
    · rfl

end Errors

section Chains

variable {stop depth : Nat} {ts : List Token} {reason : Reason}

/-- Behind the keyword a chain goes on like a new one. -/
theorem readAndTail_eq_error_iff (w : Keyword "and") :
    readAndTail stop depth (w.token :: ts) = .error reason ↔
      readAnd stop depth ts = .error reason := by
  rw [readAndTail, if_pos w.isKeyword, readAnd]
  simp only [bind_eq_error_iff, pure, Except.pure, reduceCtorEq, and_false, exists_false, or_false]

theorem readOrTail_eq_error_iff (w : Keyword "or") :
    readOrTail stop depth (w.token :: ts) = .error reason ↔
      readOr stop depth ts = .error reason := by
  rw [readOrTail, if_pos w.isKeyword, readOr]
  simp only [bind_eq_error_iff, pure, Except.pure, reduceCtorEq, and_false, exists_false, or_false]

/-- A chain fails in its first operand, or as the chain does that is left behind it. -/
theorem readAnd_eq_error_iff : readAnd stop depth ts = .error reason ↔
    readUnary stop depth ts = .error reason ∨ ∃ first others, ∃ w : Keyword "and",
      Reads (readUnary stop depth ts) first (w.token :: others) ∧
        readAnd stop depth others = .error reason := by
  rw [readAnd, bind_eq_error_iff]
  simp only [bind_eq_error_iff, pure, Except.pure, reduceCtorEq, and_false, exists_false, or_false]
  refine or_congr_right ⟨?_, ?_⟩
  · rintro ⟨⟨first, between, hfewer⟩, hfirst, htail⟩
    by_cases hand : startsWith "and" between = true
    · obtain ⟨w, others, rfl⟩ := exists_keyword_of_startsWith hand
      exact ⟨first, others, w, ⟨hfewer, hfirst⟩, (readAndTail_eq_error_iff w).1 htail⟩
    · rw [readAndTail_of_not_startsWith (Bool.eq_false_iff.2 hand)] at htail
      cases htail
  · rintro ⟨first, others, w, ⟨hfewer, hfirst⟩, hothers⟩
    exact ⟨_, hfirst, (readAndTail_eq_error_iff w).2 hothers⟩

theorem readOr_eq_error_iff : readOr stop depth ts = .error reason ↔
    readAnd stop depth ts = .error reason ∨ ∃ first others, ∃ w : Keyword "or",
      Reads (readAnd stop depth ts) first (w.token :: others) ∧
        readOr stop depth others = .error reason := by
  rw [readOr, bind_eq_error_iff]
  simp only [bind_eq_error_iff, pure, Except.pure, reduceCtorEq, and_false, exists_false, or_false]
  refine or_congr_right ⟨?_, ?_⟩
  · rintro ⟨⟨first, between, hfewer⟩, hfirst, htail⟩
    by_cases hor : startsWith "or" between = true
    · obtain ⟨w, others, rfl⟩ := exists_keyword_of_startsWith hor
      exact ⟨first, others, w, ⟨hfewer, hfirst⟩, (readOrTail_eq_error_iff w).1 htail⟩
    · rw [readOrTail_of_not_startsWith (Bool.eq_false_iff.2 hor)] at htail
      cases htail
  · rintro ⟨first, others, w, ⟨hfewer, hfirst⟩, hothers⟩
    exact ⟨_, hfirst, (readOrTail_eq_error_iff w).2 hothers⟩

theorem startsWith_and_of_readsTail {es : List Expr} {rest : List Token}
    (h : ReadsTail (readAndTail stop depth ts) es rest) : startsWith "and" rest = false := by
  induction hn : ts.length using Nat.strong_induction_on generalizing ts es with
  | h n ih =>
    subst hn
    by_cases hand : startsWith "and" ts = true
    · obtain ⟨w, others, rfl⟩ := exists_keyword_of_startsWith hand
      obtain ⟨_, h⟩ := h
      rw [readAndTail, if_pos w.isKeyword] at h
      obtain ⟨⟨next, between, hfewer⟩, -, h⟩ := bind_eq_ok_iff.1 h
      obtain ⟨⟨further, rest', _⟩, hfurther, h⟩ := bind_eq_ok_iff.1 h
      cases h
      exact ih _ (Nat.lt_succ_of_lt hfewer) ⟨_, hfurther⟩ rfl
    · obtain ⟨_, h⟩ := h
      rw [readAndTail_of_not_startsWith (Bool.eq_false_iff.2 hand)] at h
      cases h
      exact Bool.eq_false_iff.2 hand

theorem startsWith_and_of_reads {e : Expr} {rest : List Token}
    (h : Reads (readAnd stop depth ts) e rest) : startsWith "and" rest = false := by
  obtain ⟨_, h⟩ := h
  rw [readAnd] at h
  obtain ⟨first, -, h⟩ := bind_eq_ok_iff.1 h
  obtain ⟨⟨others, rest', _⟩, hothers, h⟩ := bind_eq_ok_iff.1 h
  cases h
  exact startsWith_and_of_readsTail ⟨_, hothers⟩

theorem startsWith_of_readsTail {es : List Expr} {rest : List Token}
    (hts : startsWith "and" ts = false) (h : ReadsTail (readOrTail stop depth ts) es rest) :
    startsWith "or" rest = false ∧ startsWith "and" rest = false := by
  induction hn : ts.length using Nat.strong_induction_on generalizing ts es with
  | h n ih =>
    subst hn
    by_cases hor : startsWith "or" ts = true
    · obtain ⟨w, others, rfl⟩ := exists_keyword_of_startsWith hor
      obtain ⟨_, h⟩ := h
      rw [readOrTail, if_pos w.isKeyword] at h
      obtain ⟨⟨next, between, hfewer⟩, hnext, h⟩ := bind_eq_ok_iff.1 h
      obtain ⟨⟨further, rest', _⟩, hfurther, h⟩ := bind_eq_ok_iff.1 h
      cases h
      exact ih _ (Nat.lt_succ_of_lt hfewer) (startsWith_and_of_reads ⟨_, hnext⟩) ⟨_, hfurther⟩ rfl
    · obtain ⟨_, h⟩ := h
      rw [readOrTail_of_not_startsWith (Bool.eq_false_iff.2 hor)] at h
      cases h
      exact ⟨Bool.eq_false_iff.2 hor, hts⟩

/-- Chains do not end where they can go on. -/
theorem startsWith_of_reads {e : Expr} {rest : List Token}
    (h : Reads (readOr stop depth ts) e rest) :
    startsWith "or" rest = false ∧ startsWith "and" rest = false := by
  obtain ⟨_, h⟩ := h
  rw [readOr] at h
  obtain ⟨first, hfirst, h⟩ := bind_eq_ok_iff.1 h
  obtain ⟨⟨others, rest', _⟩, hothers, h⟩ := bind_eq_ok_iff.1 h
  cases h
  exact startsWith_of_readsTail (startsWith_and_of_reads ⟨_, hfirst⟩) ⟨_, hothers⟩

end Chains

/-! ## The failures of the readers -/

theorem isViable_items : IsViable IsItems [] :=
  ⟨[anyTag.token, (⟨0⟩ : Sign .closeList).token], by decide, by decide,
    ⟨.last anyTag ⟨0⟩, rfl⟩⟩

theorem isViable_list : IsViable IsList [] :=
  ⟨[(⟨0⟩ : Sign .openList).token, anyTag.token, (⟨0⟩ : Sign .closeList).token],
    by decide, by decide, ⟨0⟩, .last anyTag ⟨0⟩, rfl⟩

theorem isViable_primary {depth : Nat} (hdepth : depth ≤ maxNesting) :
    IsViable (IsPrimary depth) [] :=
  ⟨[anyTag.token], by decide, by decide, isPrimary_tag anyTag hdepth⟩

theorem fails_readTags {ts : List Token} {reason : Reason} (h : readTags ts = .error reason) :
    Fails IsItems readTags ts reason := by
  fun_induction readTags ts with
  | case1 =>
    cases h
    exact Fails.of_head [] [] isViable_items fun others hothers =>
      readTags_of_not_tag (by simp [hothers])
  | case2 token rest htag =>
    cases h
    exact Fails.of_head [] (token :: rest) isViable_items fun others hothers =>
      readTags_of_not_tag (by simpa [hothers] using htag)
  | case3 token tag htag position others ih =>
    rcases bind_eq_error_iff.1 h with h | ⟨_, -, h⟩
    swap
    · cases h
    exact Fails.behind [token, ⟨position, .comma⟩]
      (fun inside hinside => hinside.more ⟨token, tag, htag⟩ ⟨position⟩)
      (fun others' _ hothers => readTags_more ⟨token, tag, htag⟩ ⟨position⟩ hothers) (ih h)
  | case4 => cases h
  | case5 token tag htag rest hcomma hclose =>
    cases h
    refine Fails.of_head [token] rest ⟨[(⟨0⟩ : Sign .closeList).token], by decide,
      by decide, ⟨.last ⟨token, tag, htag⟩ ⟨0⟩, rfl⟩⟩ fun others hothers =>
        readTags_of_not_sign ⟨token, tag, htag⟩ fun next (hnext : next ∈ others.head?) => ?_
    rw [hothers] at hnext
    exact ⟨forall_head?_ne hcomma next hnext, forall_head?_ne hclose next hnext⟩

theorem fails_readList {ts : List Token} {reason : Reason} (h : readList ts = .error reason) :
    Fails IsList readList ts reason := by
  unfold readList at h
  split at h
  · rename_i position rest
    split at h
    · rename_i closing others
      cases h
      exact Fails.of_empty (.emptyList ⟨position⟩ ⟨closing⟩ others) (by simp) isViable_list
    · rename_i hclose
      rcases bind_eq_error_iff.1 h with h | ⟨_, -, h⟩
      swap
      · cases h
      refine Fails.behind [⟨position, .openList⟩] (fun inside hinside => hinside.isList ⟨position⟩)
        (fun others hothers => readList_of_readTags ⟨position⟩ ?_) (fails_readTags h)
      rw [hothers]
      exact forall_head?_ne hclose
  · rename_i hopen
    cases h
    refine Fails.of_head [] ts isViable_list fun others hothers =>
      readList_of_not_openList fun token (htoken : token ∈ others.head?) => ?_
    rw [hothers] at htoken
    exact forall_head?_ne hopen token htoken

/-- A group that has been read, but is not closed where it ends. -/
theorem fails_of_not_closeGroup {stop depth : Nat} {ts rest : List Token} {e : Expr}
    (opening : Sign .openGroup) (hdepth : depth < maxNesting)
    (h : Reads (readOr stop (depth + 1) ts) e rest)
    (hrest : ∀ next ∈ rest.head?, next.symbol ≠ .closeGroup) :
    Fails (IsPrimary depth) (readPrimary stop depth) (opening.token :: ts)
      (.expected .closeGroup rest.head?) := by
  obtain ⟨hor, hand⟩ := startsWith_of_reads h
  obtain ⟨d, rfl, rfl, hnesting⟩ := (derived stop ts).or hdepth h
  have hviable : IsViable (IsPrimary depth) (opening.token :: d.tokens) :=
    ⟨[(⟨0⟩ : Sign .closeGroup).token], by decide, by decide,
      IsDisjunction.group opening ⟨0⟩ ⟨d, rfl, hnesting⟩⟩
  refine Fails.of_head (opening.token :: d.tokens) rest hviable fun others hothers => ?_
  rw [← startsWith_congr hothers] at hor hand
  refine readPrimary_of_not_closeGroup opening hdepth (reads_readOr_tokens hnesting hor hand) ?_
  rw [hothers]
  exact hrest

/-- How the readers fail that go down into groups. -/
structure Failing (stop : Nat) (ts : List Token) : Prop where
  or : ∀ {depth : Nat} {reason : Reason}, depth ≤ maxNesting →
    (∀ position, reason ≠ .nestedTooDeep position) → readOr stop depth ts = .error reason →
    Fails (IsDisjunction depth) (readOr stop depth) ts reason
  and : ∀ {depth : Nat} {reason : Reason}, depth ≤ maxNesting →
    (∀ position, reason ≠ .nestedTooDeep position) → readAnd stop depth ts = .error reason →
    Fails (IsConjunction depth) (readAnd stop depth) ts reason
  unary : ∀ {depth : Nat} {reason : Reason}, depth ≤ maxNesting →
    (∀ position, reason ≠ .nestedTooDeep position) → readUnary stop depth ts = .error reason →
    Fails (IsUnary depth) (readUnary stop depth) ts reason
  primary : ∀ {depth : Nat} {reason : Reason}, depth ≤ maxNesting →
    (∀ position, reason ≠ .nestedTooDeep position) → readPrimary stop depth ts = .error reason →
    Fails (IsPrimary depth) (readPrimary stop depth) ts reason

section FailureStep

variable {stop depth : Nat} {ts : List Token} {reason : Reason}
  (ih : ∀ fewer : List Token, fewer.length < ts.length → Failing stop fewer)
  (hdepth : depth ≤ maxNesting) (hreason : ∀ position, reason ≠ .nestedTooDeep position)

include ih hdepth hreason

theorem fails_readPrimary_of (h : readPrimary stop depth ts = .error reason) :
    Fails (IsPrimary depth) (readPrimary stop depth) ts reason := by
  rw [readPrimary.eq_def] at h
  split at h
  · cases h
    exact Fails.of_head [] [] (isViable_primary hdepth) fun others hothers =>
      readPrimary_of_not_tag (by simp [hothers])
  · rename_i position rest
    split at h
    · rename_i closing others
      cases h
      exact Fails.of_empty (.emptyGroup ⟨position⟩ ⟨closing⟩ others) (by simp)
        (isViable_primary hdepth)
    · rename_i hclose
      split_ifs at h with hbound
      · cases h
        exact absurd rfl (hreason _)
      have hroom : depth < maxNesting := Nat.lt_of_le_of_ne hdepth hbound
      rcases bind_eq_error_iff.1 h with h | ⟨⟨inner, between, hfewer⟩, hinner, h⟩
      · refine Fails.within [⟨position, .openGroup⟩] [(⟨0⟩ : Sign .closeGroup).token]
          (by decide) (fun inside hinside => hinside.group ⟨position⟩ ⟨0⟩)
          (fun others hothers => readPrimary_of_readOr ⟨position⟩ ?_ hroom)
          ((ih rest (Nat.lt_succ_self _)).or hroom hreason h)
        rw [hothers]
        exact forall_head?_ne hclose
      · split at h
        · cases h
        rename_i hunclosed
        cases h
        exact fails_of_not_closeGroup ⟨position⟩ hroom ⟨_, hinner⟩ (forall_head?_ne hunclosed)
  · rename_i token rest hopen
    split at h
    · cases h
    · rename_i htag
      cases h
      refine Fails.of_head [] (token :: rest) (isViable_primary hdepth) fun others hothers =>
        readPrimary_of_not_tag ?_
      rw [List.nil_append, hothers]
      rintro _ ⟨⟩
      exact ⟨fun h => hopen token.position (h ▸ rfl), htag⟩

theorem fails_readUnary_of (h : readUnary stop depth ts = .error reason) :
    Fails (IsUnary depth) (readUnary stop depth) ts reason := by
  by_cases hnot : startsWith "not" ts = true
  · obtain ⟨w, rest, rfl⟩ := exists_keyword_of_startsWith hnot
    by_cases hbound : depth = maxNesting
    · rw [readUnary.eq_def] at h
      simp only [w.isKeyword, if_true] at h
      rw [if_pos hbound] at h
      cases h
      exact absurd rfl (hreason _)
    have hroom : depth < maxNesting := Nat.lt_of_le_of_ne hdepth hbound
    rw [readUnary_not w hroom, map_eq_error_iff] at h
    exact Fails.behind [w.token] (fun inside hinside => hinside.not w)
      (fun others _ hothers => (readUnary_not w hroom).trans (map_eq_error_iff.2 hothers))
      ((ih rest (Nat.lt_succ_self _)).unary hroom hreason h)
  by_cases his : startsWith "is" ts = true
  · obtain ⟨w, rest, rfl⟩ := exists_keyword_of_startsWith his
    by_cases hnegation : startsWith "not" rest = true
    · obtain ⟨n, rest, rfl⟩ := exists_keyword_of_startsWith hnegation
      rw [readUnary_isNot w n, map_eq_error_iff] at h
      exact Fails.behind [w.token, n.token] (fun inside hinside => hinside.isNot w n)
        (fun others _ hothers => (readUnary_isNot w n).trans (map_eq_error_iff.2 hothers))
        ((ih rest (by simp)).primary hdepth hreason h)
    · have hnegation := Bool.eq_false_iff.2 hnegation
      rw [readUnary_is w hnegation, map_eq_error_iff] at h
      exact Fails.behind [w.token] (fun inside hinside => hinside.is w)
        (fun others hhead hothers =>
          (readUnary_is w ((startsWith_congr hhead).trans hnegation)).trans
            (map_eq_error_iff.2 hothers))
        ((ih rest (Nat.lt_succ_self _)).primary hdepth hreason h)
  by_cases hin : startsWith "in" ts = true
  · obtain ⟨w, rest, rfl⟩ := exists_keyword_of_startsWith hin
    rw [readUnary_in w, map_eq_error_iff] at h
    exact Fails.behind [w.token] (fun inside hinside => hinside.isIn w hdepth)
      (fun others _ hothers => (readUnary_in w).trans (map_eq_error_iff.2 hothers))
      (fails_readList h)
  simp only [Bool.not_eq_true] at hnot his hin
  rw [readUnary_eq_readPrimary hnot his hin] at h
  refine Fails.behind [] (fun inside hinside => hinside.isUnary) (fun others hhead hothers => ?_)
    (fails_readPrimary_of ih hdepth hreason h)
  rw [← startsWith_congr hhead] at hnot his hin
  exact (readUnary_eq_readPrimary hnot his hin).trans hothers

theorem fails_readAnd_of (h : readAnd stop depth ts = .error reason) :
    Fails (IsConjunction depth) (readAnd stop depth) ts reason := by
  rcases readAnd_eq_error_iff.1 h with h | ⟨first, others, w, hfirst, hothers⟩
  · exact Fails.behind [] (fun inside hinside => hinside.isConjunction)
      (fun others _ hothers => readAnd_eq_error_iff.2 (.inl hothers))
      (fails_readUnary_of ih hdepth hreason h)
  · obtain ⟨u, rfl, rfl, hnesting⟩ := (derived stop ts).unary hdepth hfirst
    have hrest := (ih others (by simp; omega)).and hdepth hreason hothers
    rw [List.append_cons]
    refine hrest.behind (u.tokens ++ [w.token]) (fun inside hinside => ?_)
      (fun others' _ hothers' => ?_)
    · rw [← List.append_cons]
      exact hinside.cons hnesting w
    · rw [← List.append_cons]
      exact readAnd_eq_error_iff.2
        (.inr ⟨u.expr, others', w, reads_unary stop depth u _ hnesting, hothers'⟩)

theorem fails_readOr_of (h : readOr stop depth ts = .error reason) :
    Fails (IsDisjunction depth) (readOr stop depth) ts reason := by
  rcases readOr_eq_error_iff.1 h with h | ⟨first, others, w, hfirst, hothers⟩
  · exact Fails.behind [] (fun inside hinside => hinside.isDisjunction)
      (fun others _ hothers => readOr_eq_error_iff.2 (.inl hothers))
      (fails_readAnd_of ih hdepth hreason h)
  · obtain ⟨c, rfl, rfl, hnesting⟩ := (derived stop ts).and hdepth hfirst
    have hrest := (ih others (by simp; omega)).or hdepth hreason hothers
    rw [List.append_cons]
    refine hrest.behind (c.tokens ++ [w.token]) (fun inside hinside => ?_)
      (fun others' _ hothers' => ?_)
    · rw [← List.append_cons]
      exact hinside.cons hnesting w
    · rw [← List.append_cons]
      have hread : Reads (readAnd stop depth (c.tokens ++ w.token :: others')) c.expr
          (w.token :: others') :=
        reads_readAnd_tokens hnesting (startsWith_keyword_eq_false (by decide) w others')
      exact readOr_eq_error_iff.2 (.inr ⟨c.expr, others', w, hread, hothers'⟩)

end FailureStep

/-- The readers fail as they should: each of them hands over fewer tokens than it has, or the same
    ones to a reader below it. -/
theorem failing (stop : Nat) (ts : List Token) : Failing stop ts := by
  induction hn : ts.length using Nat.strong_induction_on generalizing ts with
  | h n ih =>
    subst hn
    have ih (fewer : List Token) (h : fewer.length < ts.length) : Failing stop fewer :=
      ih fewer.length h fewer rfl
    exact
      { or := fun hdepth hreason h => fails_readOr_of ih hdepth hreason h
        and := fun hdepth hreason h => fails_readAnd_of ih hdepth hreason h
        unary := fun hdepth hreason h => fails_readUnary_of ih hdepth hreason h
        primary := fun hdepth hreason h => fails_readPrimary_of ih hdepth hreason h }

end ScenarioTree.Tag
