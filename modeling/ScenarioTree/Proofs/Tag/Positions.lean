import ScenarioTree.Project.Node
import ScenarioTree.Proofs.Tag.Failure

/-!
# Positions in errors

A query whose parentheses and words are in order is refused at the first token with which no query
goes on: up to this token the symbols begin some query that is accepted, with it they begin none. A
query that only lacks its end is refused for that. Groups and lists that hold nothing are reported
at their opening bracket, and nesting is a limit of its own.

Results:

* `isAccepted_iff`: the symbols of the queries that are accepted.
* `IsViable.exists_isAccepted`, `FailsAt.not_begins`: what a failure of the reader says about
  beginnings of queries.
* `Query.error_positions`: what the position in an error says.
-/

namespace ScenarioTree.Tag

open Grammar

/-! ## Beginnings of queries -/

/-- The symbols of a query that is accepted. -/
def IsAccepted (symbols : List Symbol) : Prop :=
  ∃ source query ts, Query.parse source = .ok query ∧ tokens source = .ok ts ∧
    ts.map Token.symbol = symbols

/-- Symbols that a query which is accepted begins with. -/
def Begins (symbols : List Symbol) : Prop := ∃ accepted, IsAccepted accepted ∧ symbols <+: accepted

theorem exists_spells {symbols : List Symbol} (h : ∀ symbol ∈ symbols, symbol.IsPlain) :
    ∃ text, Spells symbols text := by
  induction symbols with
  | nil => exact ⟨[], .nil⟩
  | cons symbol symbols ih =>
    obtain ⟨hsymbol, h⟩ := List.forall_mem_cons.1 h
    obtain ⟨text, htext⟩ := ih h
    cases symbol with
    | openGroup => exact ⟨'(' :: text, .sign rfl htext⟩
    | closeGroup => exact ⟨')' :: text, .sign rfl htext⟩
    | openList => exact ⟨'[' :: text, .sign rfl htext⟩
    | closeList => exact ⟨']' :: text, .sign rfl htext⟩
    | comma => exact ⟨',' :: text, .sign rfl htext⟩
    | word name => exact ⟨_, Spells.spaced hsymbol htext⟩

/-- Which symbols are accepted. -/
theorem isAccepted_iff {symbols : List Symbol} : IsAccepted symbols ↔
    (∀ symbol ∈ symbols, symbol.IsPlain) ∧
      ∃ d : Disjunction, d.tokens.map Token.symbol = symbols ∧ d.nesting 1 0 ≤ maxNesting := by
  constructor
  · rintro ⟨source, query, ts, hparse, hts, rfl⟩
    obtain ⟨d, hd, hnesting, -⟩ := Query.exists_isDerivation_of_parse hparse
    obtain rfl : d.tokens = ts := Except.ok.inj (hd.symm.trans hts)
    exact ⟨(spells_of_isDerivation hd).isPlain, d, rfl, hnesting⟩
  · rintro ⟨hplain, d, rfl, hnesting⟩
    obtain ⟨text, htext⟩ := exists_spells hplain
    rw [← String.toList_ofList (l := text)] at htext
    obtain ⟨ts, hts, hsymbols⟩ := htext.exists_tokensFrom 0
    exact ⟨_, _, ts, (Query.parse_eq_ok_iff_of_spells htext).2 ⟨hnesting, rfl⟩, hts, hsymbols⟩

/-- A query that begins with the symbols of some tokens has a derivation that begins with the
    tokens themselves. -/
theorem Begins.exists_disjunction {ts : List Token} (h : Begins (ts.map Token.symbol)) :
    ∃ (d : Disjunction) (rest : List Token), d.tokens = ts ++ rest ∧ d.nesting 1 0 ≤ maxNesting := by
  obtain ⟨accepted, haccepted, further, rfl⟩ := h
  obtain ⟨-, d, hd, hnesting⟩ := isAccepted_iff.1 haccepted
  obtain ⟨before, rest, hsplit, hbefore, rfl⟩ := List.map_eq_append_iff.1 hd
  have hsymbols : (ts ++ rest).map Token.symbol = d.tokens.map Token.symbol := by
    rw [hsplit, List.map_append, List.map_append, hbefore]
  obtain ⟨d', hd', -, hnesting'⟩ := exists_disjunction_of_symbols d hsymbols
  exact ⟨d', rest, hd', (hnesting' 1 0).trans_le hnesting⟩

/-! ## Failures and beginnings -/

theorem IsViable.exists_isAccepted {before : List Token} (h : IsViable (IsDisjunction 0) before)
    (hplain : ∀ token ∈ before, token.symbol.IsPlain) : ∃ accepted, IsAccepted accepted ∧
      before.map Token.symbol <+: accepted ∧ before.map Token.symbol ≠ accepted := by
  obtain ⟨completion, hne, hcompletion, d, hd, hnesting⟩ := h
  refine ⟨d.tokens.map Token.symbol, isAccepted_iff.2 ⟨?_, d, rfl, ?_⟩, ?_, ?_⟩
  · rw [hd]
    exact List.forall_mem_map.2 (List.forall_mem_append.2 ⟨hplain, hcompletion⟩)
  · exact (Nat.zero_add _).symm.trans_le hnesting
  · rw [hd, List.map_append]
    exact List.prefix_append _ _
  · rw [hd, List.map_append]
    intro h
    exact hne (List.map_eq_nil_iff.1 (List.self_eq_append_right.1 h))

/-- With the token at which the reader fails no query goes on. -/
theorem FailsAt.not_begins {stop : Nat} {before rest : List Token} {what : Expected} {token : Token}
    (h : FailsAt (IsDisjunction 0) (readOr stop 0) before rest (.expected what (some token))) :
    ¬ Begins ((before ++ [token]).map Token.symbol) := by
  intro hbegins
  obtain ⟨d, after, hd, hnesting⟩ := hbegins.exists_disjunction
  have hhead : (token :: after).head? = rest.head? := by
    generalize hfound : some token = found at h
    cases h.blames
    exact hfound
  have herror := h.stable what (some token) rfl _ hhead
  have hread : Reads (readOr stop 0 (d.tokens ++ [])) d.expr [] :=
    reads_readOr_tokens (by omega) rfl rfl
  rw [List.append_nil, hd, ← List.append_cons] at hread
  obtain ⟨_, hread⟩ := hread
  cases herror.symm.trans hread

/-- Nor with a token that is left over. -/
theorem not_begins_of_reads {stop : Nat} {before others : List Token} {token : Token} {e : Expr}
    (h : Reads (readOr stop 0 (before ++ token :: others)) e (token :: others)) :
    ¬ Begins ((before ++ [token]).map Token.symbol) := by
  obtain ⟨d, hd, -, -⟩ := (derived stop _).or (Nat.zero_le _) h
  obtain rfl : before = d.tokens := List.append_cancel_right hd
  intro hbegins
  obtain ⟨d', after, hd', -⟩ := hbegins.exists_disjunction
  obtain ⟨hor, hand⟩ := startsWith_of_reads h
  have hsplit : d'.tokens ++ [] = d.tokens ++ token :: after := by
    rw [List.append_nil, hd', ← List.append_cons]
  -- what is left begins with the same token in both cases
  obtain ⟨-, hrest⟩ := Disjunction.tokens_append_inj hsplit rfl rfl hor hand
  cases hrest

/-! ## Positions -/

theorem filter_append_eq_left {p : Token → Bool} {before rest : List Token}
    (hbefore : ∀ token ∈ before, p token = true) (hrest : ∀ token ∈ rest, ¬ p token = true) :
    (before ++ rest).filter p = before := by
  rw [List.filter_append, List.filter_eq_self.2 hbefore, List.filter_eq_nil_iff.2 hrest,
    List.append_nil]

section Split

variable {before others : List Token} {token : Token}
  (h : (before ++ token :: others).Pairwise (·.position < ·.position))

include h

theorem filter_position_lt :
    (before ++ token :: others).filter (·.position < token.position) = before := by
  obtain ⟨-, hrest, hbefore⟩ := List.pairwise_append.1 h
  have hothers := (List.pairwise_cons.1 hrest).1
  refine filter_append_eq_left (fun t ht => ?_) (List.forall_mem_cons.2 ⟨?_, fun t ht => ?_⟩)
  · exact decide_eq_true (hbefore t ht token List.mem_cons_self)
  · simp
  · simpa using (hothers t ht).le

theorem begins_filter (hbegins : Begins (before.map Token.symbol)) :
    Begins (((before ++ token :: others).filter (·.position < token.position)).map
      Token.symbol) := by
  rwa [filter_position_lt h]

theorem filter_position_le :
    (before ++ token :: others).filter (·.position ≤ token.position) = before ++ [token] := by
  obtain ⟨-, hrest, hbefore⟩ := List.pairwise_append.1 h
  have hothers := (List.pairwise_cons.1 hrest).1
  rw [List.append_cons]
  refine filter_append_eq_left (List.forall_mem_append.2 ⟨fun t ht => ?_, ?_⟩) fun t ht => ?_
  · exact decide_eq_true (hbefore t ht token List.mem_cons_self).le
  · simp
  · simpa using hothers t ht

end Split

/-- The position that a reason names. -/
def Reason.position? : Reason → Option Nat
  | .groupsTooDeep position | .unexpectedClose position | .quotedWord position
  | .nestedTooDeep position | .emptyGroup position | .emptyList position => some position
  | .expected _ found => found.map Token.position
  | .leftover token => some token.position
  | .unclosed _ | .empty => none

/-- A reason to refuse tokens is at the right place. -/
structure IsExact (ts : List Token) (reason : Reason) : Prop where
  /-- What stands before the position is the beginning of a query. -/
  before : ∀ position, reason.position? = some position →
    Begins ((ts.filter (·.position < position)).map Token.symbol)
  /-- With what stands there it is not. -/
  here : ∀ position, reason.position? = some position → reason ≠ .emptyGroup position →
    reason ≠ .emptyList position → (∃ token ∈ ts, token.position = position) ∧
      ¬ Begins ((ts.filter (·.position ≤ position)).map Token.symbol)
  /-- The brackets of what is empty stand there. -/
  emptyGroup : ∀ position, reason = .emptyGroup position →
    ∃ closing, [⟨position, .openGroup⟩, ⟨closing, .closeGroup⟩] <:+: ts
  emptyList : ∀ position, reason = .emptyList position →
    ∃ closing, [⟨position, .openList⟩, ⟨closing, .closeList⟩] <:+: ts
  /-- Where the end is found too early, more symbols make a query. -/
  atEnd : ∀ what, reason = .expected what none → ∃ accepted, IsAccepted accepted ∧
    ts.map Token.symbol <+: accepted ∧ ts.map Token.symbol ≠ accepted

/-- A reason that names a token. -/
theorem isExact_of_token {before others : List Token} {token : Token} {reason : Reason}
    (hpositions : (before ++ token :: others).Pairwise (·.position < ·.position))
    (hreason : reason = .leftover token ∨ ∃ what, reason = .expected what (some token))
    (hbegins : Begins (before.map Token.symbol))
    (hnot : ¬ Begins ((before ++ [token]).map Token.symbol)) :
    IsExact (before ++ token :: others) reason := by
  have hposition : reason.position? = some token.position := by
    rcases hreason with rfl | ⟨what, rfl⟩ <;> rfl
  refine ⟨fun position h => ?_, fun position h _ _ => ?_, ?_, ?_, ?_⟩
  · cases hposition.symm.trans h
    exact begins_filter hpositions hbegins
  · cases hposition.symm.trans h
    rw [filter_position_le hpositions]
    exact ⟨⟨token, by simp, rfl⟩, hnot⟩
  all_goals
    rintro _ rfl
    rcases hreason with h | ⟨_, h⟩ <;> cases h

theorem Fails.isExact {stop : Nat} {ts : List Token} {reason : Reason}
    (h : Fails (IsDisjunction 0) (readOr stop 0) ts reason)
    (hpositions : ts.Pairwise (·.position < ·.position))
    (hplain : ∀ token ∈ ts, token.symbol.IsPlain) : IsExact ts reason := by
  obtain ⟨before, rest, rfl, hfails⟩ := h
  obtain ⟨accepted, haccepted, hbefore, hne⟩ :=
    hfails.viable.exists_isAccepted (List.forall_mem_append.1 hplain).1
  cases hfails.blames with
  | expected what =>
    cases rest with
    | nil =>
      rw [List.append_nil]
      exact ⟨nofun, nofun, nofun, nofun, fun _ _ => ⟨accepted, haccepted, hbefore, hne⟩⟩
    | cons token others =>
      exact isExact_of_token hpositions (.inr ⟨what, rfl⟩) ⟨accepted, haccepted, hbefore⟩
        hfails.not_begins
  | emptyGroup opening closing others =>
    refine ⟨?_, ?_, ?_, nofun, nofun⟩
    · rintro _ ⟨⟩
      exact begins_filter hpositions ⟨accepted, haccepted, hbefore⟩
    · rintro _ ⟨⟩ hne
      exact absurd rfl hne
    · rintro _ ⟨⟩
      exact ⟨closing.position, before, others, by simp [Sign.token]⟩
  | emptyList opening closing others =>
    refine ⟨?_, ?_, nofun, ?_, nofun⟩
    · rintro _ ⟨⟩
      exact begins_filter hpositions ⟨accepted, haccepted, hbefore⟩
    · rintro _ ⟨⟩ _ hne
      exact absurd rfl hne
    · rintro _ ⟨⟩
      exact ⟨closing.position, before, others, by simp [Sign.token]⟩

/-- A token that is left over behind a condition. -/
theorem isExact_of_reads {stop : Nat} {before others : List Token} {token : Token} {e : Expr}
    (h : Reads (readOr stop 0 (before ++ token :: others)) e (token :: others))
    (hpositions : (before ++ token :: others).Pairwise (·.position < ·.position))
    (hplain : ∀ token ∈ before, token.symbol.IsPlain) :
    IsExact (before ++ token :: others) (.leftover token) := by
  obtain ⟨d, hd, -, hnesting⟩ := (derived stop _).or (Nat.zero_le _) h
  obtain rfl : before = d.tokens := List.append_cancel_right hd
  have haccepted : IsAccepted (d.tokens.map Token.symbol) :=
    isAccepted_iff.2 ⟨List.forall_mem_map.2 hplain, d, rfl, (Nat.zero_add _).symm.trans_le hnesting⟩
  exact isExact_of_token hpositions (.inl rfl) ⟨_, haccepted, List.prefix_rfl⟩
    (not_begins_of_reads h)

/-- A query is refused with its own text, and at the right place: unless it nests too deep, an error
    is at the first token with which no query goes on. -/
theorem Query.error_positions {source : String} {reason : Reason}
    (hwords : ∀ word, IsWord source.toList word → ¬ IsQuoted word)
    (hbalanced : IsBalanced source.toList)
    (hnesting : ∀ position, reason ≠ .nestedTooDeep position)
    (h : Query.parse source = .error reason) :
    (∀ application : Application,
      application.select source = .error (.malformedQuery source reason)) ∧
    ∃ ts, tokens source = .ok ts ∧ IsExact ts reason := by
  refine ⟨fun application => by rw [Application.select, h], ?_⟩
  obtain ⟨ts, hts⟩ := (exists_tokensFrom_iff 0 source.toList).2 hwords
  refine ⟨ts, hts, ?_⟩
  have hpositions := (positions_tokensFrom hts).2
  have hplain := List.forall_mem_map.1 (spells_of_tokensFrom hts).isPlain
  have htokens : tokens source = .ok ts := hts
  rw [Query.parse, (checkGroups_eq_ok_iff_isBalanced _).2 hbalanced, htokens] at h
  simp only [bind, Except.bind, Except.mapError] at h
  split_ifs at h with hempty
  · cases h
    exact ⟨nofun, nofun, nofun, nofun, nofun⟩
  · split at h
    · rename_i herror
      cases h
      exact ((failing _ ts).or (Nat.zero_le _) hnesting herror).isExact hpositions hplain
    · rename_i parsed hread
      obtain ⟨e, rest, hfewer⟩ := parsed
      cases rest with
      | nil => cases h
      | cons token others =>
        cases h
        have hread : Reads (readOr source.utf8ByteSize 0 ts) e (token :: others) :=
          ⟨hfewer, hread⟩
        obtain ⟨d, rfl, -, -⟩ := (derived _ ts).or (Nat.zero_le _) hread
        exact isExact_of_reads hread hpositions (List.forall_mem_append.1 hplain).1

/-- The tokens of `not (in [slow fast])`. -/
def slowFast : List Token :=
  [⟨0, .word "not"⟩, ⟨4, .openGroup⟩, ⟨5, .word "in"⟩, ⟨8, .openList⟩, ⟨9, .word "slow"⟩,
    ⟨14, .word "fast"⟩, ⟨18, .closeList⟩, ⟨19, .closeGroup⟩]

theorem tokens_slowFast : tokens "not (in [slow fast])" = .ok slowFast := by cbv

theorem isBalanced_slowFast : IsBalanced "not (in [slow fast])".toList :=
  (checkGroups_eq_ok_iff_isBalanced _).1 (by decide +kernel)

theorem parse_slowFast : Query.parse "not (in [slow fast])" =
    .error (.expected .commaOrCloseList (some ⟨14, .word "fast"⟩)) := by
  have hread : readOr "not (in [slow fast])".utf8ByteSize 0 slowFast =
      .error (.expected .commaOrCloseList (some ⟨14, .word "fast"⟩)) := by
    refine readOr_eq_error_iff.2 (.inl (readAnd_eq_error_iff.2 (.inl ?_)))
    refine (readUnary_not ⟨⟨0, .word "not"⟩, rfl⟩ (by decide)).trans (map_eq_error_iff.2 ?_)
    refine (readUnary_of_not_startsWith (by decide)).trans ?_
    refine readPrimary_of_readOr ⟨4⟩ (by simp) (by decide) ?_
    refine readOr_eq_error_iff.2 (.inl (readAnd_eq_error_iff.2 (.inl ?_)))
    refine (readUnary_in ⟨⟨5, .word "in"⟩, rfl⟩).trans (map_eq_error_iff.2 ?_)
    exact readList_of_readTags ⟨8⟩ (by simp)
      (readTags_of_not_sign ⟨⟨9, .word "slow"⟩, "slow", rfl⟩ (by simp))
  rw [Query.parse, (checkGroups_eq_ok_iff_isBalanced _).2 isBalanced_slowFast, tokens_slowFast]
  simp only [bind, Except.bind, Except.mapError]
  rw [if_neg (by decide), hread]

/-- The comma is missing at the second tag: a list may begin with the first one. -/
theorem Query.error_positions_slowFast :
    Query.parse "not (in [slow fast])" =
      .error (.expected .commaOrCloseList (some ⟨14, .word "fast"⟩)) ∧
    Begins [.word "not", .openGroup, .word "in", .openList, .word "slow"] ∧
    ¬ Begins [.word "not", .openGroup, .word "in", .openList, .word "slow", .word "fast"] := by
  obtain ⟨-, ts, hts, hexact⟩ := Query.error_positions
    ((exists_tokensFrom_iff 0 _).1 ⟨_, tokens_slowFast⟩) isBalanced_slowFast (by simp) parse_slowFast
  obtain rfl : slowFast = ts := Except.ok.inj (tokens_slowFast.symm.trans hts)
  exact ⟨parse_slowFast, hexact.before 14 rfl, (hexact.here 14 rfl (by simp) (by simp)).2⟩

end ScenarioTree.Tag
