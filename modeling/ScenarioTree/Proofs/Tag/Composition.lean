import ScenarioTree.Proofs.Tag.Spelling
import ScenarioTree.Tag.Filter

/-!
# Queries in queries

A query in parentheses means in another query what it means alone. Conjunctions of queries select
one after the other, disjunctions select what one of them selects, and negations what the query
leaves out.

Results:

* `Query.parse_and`, `Query.parse_or`, `Query.parse_not`: how queries made of queries are read.
* `Query.select_and`, `Query.select_or`, `Query.select_not`: what conditions made of conditions
  select.
* `Query.select_composition`: both together.
-/

namespace ScenarioTree.Tag

open Grammar

/-! ## Reading -/

/-- A query with at most so many groups and leading negations around any point. -/
def NestsWithin (source : String) (levels : Nat) : Prop :=
  ∃ d, IsDerivation source d ∧ d.nesting 1 0 ≤ levels

namespace Grammar

/-- The operand that a query in parentheses is, at any position. -/
def Disjunction.grouped (d : Disjunction) : Unary := .primary (.group ⟨0⟩ d ⟨0⟩)

theorem Disjunction.nesting_grouped (d : Disjunction) (level isNot : Nat) :
    d.grouped.nesting level isNot = d.nesting level isNot + level := rfl

end Grammar

theorem spells_grouped {source : String} {d : Disjunction} (h : IsDerivation source d) :
    Spells (d.grouped.tokens.map Token.symbol) ('(' :: (source.toList ++ [')'])) := by
  have hgroup := (spells_of_isDerivation h).group
  simpa [Disjunction.grouped, Unary.tokens, Primary.tokens, Sign.token] using hgroup

namespace Query

/-- The derivation of a query that is read and nests no deeper than given. -/
theorem exists_isDerivation_of_nestsWithin {source : String} {query : Query} {levels : Nat}
    (h : parse source = .ok query) (hwithin : NestsWithin source levels) :
    ∃ d, IsDerivation source d ∧ d.expr = query.expr ∧ d.nesting 1 0 ≤ levels := by
  obtain ⟨d, hd, -, rfl⟩ := exists_isDerivation_of_parse h
  obtain ⟨d', hd', hlevels⟩ := hwithin
  obtain rfl := isDerivation_unique hd hd'
  exact ⟨d, hd, rfl, hlevels⟩

section Reading

variable {first second : String} {p q : Query} (hp : parse first = .ok p)

include hp

theorem parse_and (hq : parse second = .ok q) (hfirst : NestsWithin first (maxNesting - 1))
    (hsecond : NestsWithin second (maxNesting - 1)) :
    parse ("(" ++ first ++ ") and (" ++ second ++ ")") =
      .ok ⟨"(" ++ first ++ ") and (" ++ second ++ ")", .and [p.expr, q.expr]⟩ := by
  obtain ⟨c, hc, hcp, hc_levels⟩ := exists_isDerivation_of_nestsWithin hp hfirst
  obtain ⟨d, hd, hdq, hd_levels⟩ := exists_isDerivation_of_nestsWithin hq hsecond
  -- A query in parentheses is one operand, so its chains end with it.
  let both : Disjunction := .one (.and c.grouped ⟨⟨0, .word "and"⟩, rfl⟩ (.one d.grouped))
  have hspells : Spells (both.tokens.map Token.symbol)
      ("(" ++ first ++ ") and (" ++ second ++ ")").toList := by
    have hjoined := (spells_grouped hc).joined (isPlainWord_of_mem_keywords "and" (by decide))
      (spells_grouped hd)
    simpa [both, Disjunction.tokens, Conjunction.tokens] using hjoined
  have hexpr : both.expr = .and [p.expr, q.expr] := by
    rw [← hcp, ← hdq]
    rfl
  have hnesting : both.nesting 1 0 ≤ maxNesting := by
    simp only [both, Disjunction.nesting, Conjunction.nesting, Disjunction.nesting_grouped]
    simp only [maxNesting] at *
    omega
  exact (parse_eq_ok_iff_of_spells hspells).2 ⟨hnesting, by rw [hexpr]⟩

theorem parse_or (hq : parse second = .ok q) (hfirst : NestsWithin first (maxNesting - 1))
    (hsecond : NestsWithin second (maxNesting - 1)) :
    parse ("(" ++ first ++ ") or (" ++ second ++ ")") =
      .ok ⟨"(" ++ first ++ ") or (" ++ second ++ ")", .or [p.expr, q.expr]⟩ := by
  obtain ⟨c, hc, hcp, hc_levels⟩ := exists_isDerivation_of_nestsWithin hp hfirst
  obtain ⟨d, hd, hdq, hd_levels⟩ := exists_isDerivation_of_nestsWithin hq hsecond
  let either : Disjunction :=
    .or (.one c.grouped) ⟨⟨0, .word "or"⟩, rfl⟩ (.one (.one d.grouped))
  have hspells : Spells (either.tokens.map Token.symbol)
      ("(" ++ first ++ ") or (" ++ second ++ ")").toList := by
    have hjoined := (spells_grouped hc).joined (isPlainWord_of_mem_keywords "or" (by decide))
      (spells_grouped hd)
    simpa [either, Disjunction.tokens, Conjunction.tokens] using hjoined
  have hexpr : either.expr = .or [p.expr, q.expr] := by
    rw [← hcp, ← hdq]
    rfl
  have hnesting : either.nesting 1 0 ≤ maxNesting := by
    simp only [either, Disjunction.nesting, Conjunction.nesting, Disjunction.nesting_grouped]
    simp only [maxNesting] at *
    omega
  exact (parse_eq_ok_iff_of_spells hspells).2 ⟨hnesting, by rw [hexpr]⟩

/-- The negation and the group count for one level each. -/
theorem parse_not (hfirst : NestsWithin first (maxNesting - 2)) :
    parse ("not (" ++ first ++ ")") = .ok ⟨"not (" ++ first ++ ")", .not p.expr⟩ := by
  obtain ⟨d, hd, hdp, hlevels⟩ := exists_isDerivation_of_nestsWithin hp hfirst
  let negated : Disjunction := .one (.one (.not ⟨⟨0, .word "not"⟩, rfl⟩ d.grouped))
  have hspells : Spells (negated.tokens.map Token.symbol) ("not (" ++ first ++ ")").toList := by
    have hspaced := (spells_grouped hd).spaced (isPlainWord_of_mem_keywords "not" (by decide))
    simpa [negated, Disjunction.tokens, Conjunction.tokens, Unary.tokens] using hspaced
  have hexpr : negated.expr = .not p.expr := by
    rw [← hdp]
    rfl
  have hnesting : negated.nesting 1 0 ≤ maxNesting := by
    simp only [negated, Disjunction.nesting, Conjunction.nesting, Unary.nesting,
      Disjunction.nesting_grouped]
    simp only [maxNesting] at *
    omega
  exact (parse_eq_ok_iff_of_spells hspells).2 ⟨hnesting, by rw [hexpr]⟩

end Reading

/-! ## Selecting -/

section Selecting

variable {α : Type} [Tagged α]

theorem mem_select {query : Query} {items : List α} {item : α} :
    item ∈ query.select items ↔ item ∈ items ∧ query.expr.eval (Tagged.tags item) = true := by
  rw [select, keep, List.mem_filter]

theorem select_and (source : String) (p q : Query) (items : List α) :
    select ⟨source, .and [p.expr, q.expr]⟩ items = q.select (p.select items) := by
  simp only [select, keep, List.filter_filter, Expr.eval, Expr.evalAll, Bool.and_true]
  exact List.filter_congr fun item _ => Bool.and_comm _ _

theorem select_comm (p q : Query) (items : List α) :
    q.select (p.select items) = p.select (q.select items) := by
  simp only [select, keep, List.filter_filter, Bool.and_comm]

variable [DecidableEq α]

theorem select_or (source : String) (p q : Query) (items : List α) :
    select ⟨source, .or [p.expr, q.expr]⟩ items =
      items.filter fun item => item ∈ p.select items ∨ item ∈ q.select items := by
  refine List.filter_congr fun item hitem => ?_
  simp [Expr.eval, Expr.evalAny, mem_select, hitem]

theorem select_not (source : String) (p : Query) (items : List α) :
    select ⟨source, .not p.expr⟩ items = items.filter fun item => item ∉ p.select items := by
  refine List.filter_congr fun item hitem => ?_
  simp [Expr.eval, mem_select, hitem]

end Selecting

/-- Queries in parentheses, joined or negated, are read as the conditions of the queries, joined or
    negated. A conjunction selects like its queries one after the other, in either order; a
    disjunction selects what one of its queries selects, and a negation what its query leaves out,
    each as often as it occurs and in the order of the list. -/
theorem select_composition {first second : String} {p q : Query} (hp : parse first = .ok p)
    (hq : parse second = .ok q) :
    (NestsWithin first (maxNesting - 1) → NestsWithin second (maxNesting - 1) →
      (∃ both, parse ("(" ++ first ++ ") and (" ++ second ++ ")") = .ok both ∧
        both.expr = .and [p.expr, q.expr] ∧
        ∀ {α : Type} [Tagged α] (items : List α),
          both.select items = q.select (p.select items) ∧
          both.select items = p.select (q.select items)) ∧
      ∃ either, parse ("(" ++ first ++ ") or (" ++ second ++ ")") = .ok either ∧
        either.expr = .or [p.expr, q.expr] ∧
        ∀ {α : Type} [Tagged α] [DecidableEq α] (items : List α), either.select items =
          items.filter fun item => item ∈ p.select items ∨ item ∈ q.select items) ∧
    (NestsWithin first (maxNesting - 2) →
      ∃ negated, parse ("not (" ++ first ++ ")") = .ok negated ∧ negated.expr = .not p.expr ∧
        ∀ {α : Type} [Tagged α] [DecidableEq α] (items : List α), negated.select items =
          items.filter fun item => item ∉ p.select items) := by
  refine ⟨fun hfirst hsecond => ⟨?_, ?_⟩, fun hfirst => ?_⟩
  · refine ⟨_, parse_and hp hq hfirst hsecond, rfl, fun items => ⟨select_and _ p q items, ?_⟩⟩
    rw [select_and, select_comm]
  · exact ⟨_, parse_or hp hq hfirst hsecond, rfl, fun items => select_or _ p q items⟩
  · exact ⟨_, parse_not hp hfirst, rfl, fun items => select_not _ p items⟩

/-- A chain and a list in one query. The chain must not go on into what stands around it. -/
theorem select_composition_chain_list :
    ∃ p q : Query, parse "a or not b" = .ok p ∧ parse "IN [c, d]" = .ok q ∧
      NestsWithin "a or not b" (maxNesting - 2) ∧ NestsWithin "IN [c, d]" (maxNesting - 1) ∧
      (∃ both, parse ("(" ++ "a or not b" ++ ") and (" ++ "IN [c, d]" ++ ")") = .ok both ∧
        both.expr = .and [p.expr, q.expr]) ∧
      ∃ negated, parse ("not (" ++ "a or not b" ++ ")") = .ok negated ∧
        negated.expr = .not p.expr := by
  let chain : Disjunction := .or (.one (.primary (.tag ⟨⟨0, .word "a"⟩, "a", rfl⟩)))
    ⟨⟨2, .word "or"⟩, rfl⟩ (.one (.one (.not ⟨⟨5, .word "not"⟩, rfl⟩
      (.primary (.tag ⟨⟨9, .word "b"⟩, "b", rfl⟩)))))
  let list : Disjunction := .one (.one (.isIn ⟨⟨0, .word "IN"⟩, rfl⟩ ⟨3⟩
    (.more ⟨⟨4, .word "c"⟩, "c", rfl⟩ ⟨5⟩ (.last ⟨⟨7, .word "d"⟩, "d", rfl⟩ ⟨8⟩))))
  have hchain : IsDerivation "a or not b" chain := by
    unfold IsDerivation
    cbv
  have hlist : IsDerivation "IN [c, d]" list := by
    unfold IsDerivation
    cbv
  have hp := parse_of_isDerivation hchain (by decide)
  have hq := parse_of_isDerivation hlist (by decide)
  have hfirst (levels : Nat) (h : 1 ≤ levels) : NestsWithin "a or not b" levels :=
    ⟨chain, hchain, h⟩
  have hsecond : NestsWithin "IN [c, d]" (maxNesting - 1) := ⟨list, hlist, Nat.zero_le _⟩
  have hcomposition := select_composition hp hq
  obtain ⟨⟨both, hboth, hboth_expr, -⟩, -⟩ :=
    hcomposition.1 (hfirst (maxNesting - 1) (by decide)) hsecond
  obtain ⟨negated, hnegated, hnegated_expr, -⟩ :=
    hcomposition.2 (hfirst (maxNesting - 2) (by decide))
  exact ⟨_, _, hp, hq, hfirst (maxNesting - 2) (by decide), hsecond, ⟨both, hboth, hboth_expr⟩,
    negated, hnegated, hnegated_expr⟩

end Query

end ScenarioTree.Tag
