import ScenarioTree.Proofs.Tag.Parsing

/-!
# How deep queries nest

Groups and leading negations around a point are counted while a query is read, and there are never
more than `maxNesting`. Negations by `is not` are not counted. As only a group leads from one of them
to the next, this lets in twice as many levels, and one more.

Results:

* `Disjunction.nesting_add_le`, `Disjunction.isNots_le`: levels add up, and there are hardly more
  negations by `is not` than other levels.
* `Disjunction.negations_le`: how many negations are on a path of the tree of a derivation.
* `Query.isGreatest_nesting`: the bounds that queries which are accepted obey and reach.
-/

namespace ScenarioTree.Tag

mutual

/-- How many negations there are on a path from the root to a tag, at most. -/
def Expr.negations : Expr → Nat
  | .tag _ => 0
  | .and operands => Expr.negationsIn operands
  | .or operands => Expr.negationsIn operands
  | .not operand => operand.negations + 1

def Expr.negationsIn : List Expr → Nat
  | [] => 0
  | e :: rest => max e.negations (Expr.negationsIn rest)

end

namespace Grammar

/-! ## Bounds -/

section Weights

variable (a b c d : Nat)

mutual

/-- The deepest point for two counts taken together lies no deeper than the deepest ones for each
    of them. -/
theorem Disjunction.nesting_add_le :
    ∀ e : Disjunction, e.nesting (a + c) (b + d) ≤ e.nesting a b + e.nesting c d
  | .one operand => operand.nesting_add_le
  | .or operand _ others => by
    have hoperand := operand.nesting_add_le
    have hothers := others.nesting_add_le
    simp only [Disjunction.nesting]
    omega

theorem Conjunction.nesting_add_le :
    ∀ e : Conjunction, e.nesting (a + c) (b + d) ≤ e.nesting a b + e.nesting c d
  | .one operand => operand.nesting_add_le
  | .and operand _ others => by
    have hoperand := operand.nesting_add_le
    have hothers := others.nesting_add_le
    simp only [Conjunction.nesting]
    omega

theorem Unary.nesting_add_le :
    ∀ e : Unary, e.nesting (a + c) (b + d) ≤ e.nesting a b + e.nesting c d
  | .not _ operand => by
    have hoperand := operand.nesting_add_le
    simp only [Unary.nesting]
    omega
  | .is _ operand => operand.nesting_add_le
  | .isNot _ _ operand => by
    have hoperand := operand.nesting_add_le
    simp only [Unary.nesting]
    omega
  | .isIn _ _ _ => Nat.zero_le _
  | .primary operand => operand.nesting_add_le

theorem Primary.nesting_add_le :
    ∀ e : Primary, e.nesting (a + c) (b + d) ≤ e.nesting a b + e.nesting c d
  | .group _ inner _ => by
    have hinner := inner.nesting_add_le
    simp only [Primary.nesting]
    omega
  | .tag _ => Nat.zero_le _

end

end Weights

mutual

theorem Disjunction.isNots_le : ∀ e : Disjunction, e.nesting 0 1 ≤ e.nesting 1 0 + 1
  | .one operand => operand.isNots_le
  | .or operand _ others => by
    have hoperand := operand.isNots_le
    have hothers := others.isNots_le
    simp only [Disjunction.nesting]
    omega

theorem Conjunction.isNots_le : ∀ e : Conjunction, e.nesting 0 1 ≤ e.nesting 1 0 + 1
  | .one operand => operand.isNots_le
  | .and operand _ others => by
    have hoperand := operand.isNots_le
    have hothers := others.isNots_le
    simp only [Conjunction.nesting]
    omega

theorem Unary.isNots_le : ∀ e : Unary, e.nesting 0 1 ≤ e.nesting 1 0 + 1
  | .not _ operand => Nat.le_succ_of_le operand.isNots_le
  | .is _ operand => Nat.le_succ_of_le operand.isNots_le
  | .isNot _ _ operand => Nat.succ_le_succ operand.isNots_le
  | .isIn _ _ _ => Nat.zero_le _
  | .primary operand => Nat.le_succ_of_le operand.isNots_le

/-- Only a group leads from one `is not` to the next. -/
theorem Primary.isNots_le : ∀ e : Primary, e.nesting 0 1 ≤ e.nesting 1 0
  | .group _ inner _ => inner.isNots_le
  | .tag _ => Nat.zero_le _

end

theorem negationsIn_tags (names : List String) :
    Expr.negationsIn (names.map .tag) = 0 := by
  induction names with
  | nil => rfl
  | cons name names ih => simp [Expr.negationsIn, Expr.negations, ih]

theorem Items.negations_expr (items : Items) : items.expr.negations = 0 := by
  cases items with
  | last tag closing => rfl
  | more tag comma others =>
    exact negationsIn_tags (tag.name :: others.names)

mutual

theorem Disjunction.negationsIn_operands : ∀ e : Disjunction,
    Expr.negationsIn e.operands ≤ e.nesting 1 0 + min 1 (e.nesting 0 1)
  | .one operand => max_le operand.negations_le (Nat.zero_le _)
  | .or operand _ others => by
    have hoperand := operand.negations_le
    have hothers := others.negationsIn_operands
    simp only [Disjunction.operands, Expr.negationsIn, Disjunction.nesting]
    omega

theorem Disjunction.negations_le : ∀ e : Disjunction,
    e.expr.negations ≤ e.nesting 1 0 + min 1 (e.nesting 0 1)
  | .one operand => operand.negations_le
  | .or operand _ others => by
    have hoperand := operand.negations_le
    have hothers := others.negationsIn_operands
    simp only [Disjunction.expr, Expr.negations, Expr.negationsIn, Disjunction.nesting]
    omega

theorem Conjunction.negationsIn_operands : ∀ e : Conjunction,
    Expr.negationsIn e.operands ≤ e.nesting 1 0 + min 1 (e.nesting 0 1)
  | .one operand => max_le operand.negations_le (Nat.zero_le _)
  | .and operand _ others => by
    have hoperand := operand.negations_le
    have hothers := others.negationsIn_operands
    simp only [Conjunction.operands, Expr.negationsIn, Conjunction.nesting]
    omega

theorem Conjunction.negations_le : ∀ e : Conjunction,
    e.expr.negations ≤ e.nesting 1 0 + min 1 (e.nesting 0 1)
  | .one operand => operand.negations_le
  | .and operand _ others => by
    have hoperand := operand.negations_le
    have hothers := others.negationsIn_operands
    simp only [Conjunction.expr, Expr.negations, Expr.negationsIn, Conjunction.nesting]
    omega

theorem Unary.negations_le : ∀ e : Unary,
    e.expr.negations ≤ e.nesting 1 0 + min 1 (e.nesting 0 1)
  | .not _ operand => by
    have hoperand := operand.negations_le
    simp only [Unary.expr, Expr.negations, Unary.nesting]
    omega
  | .is _ operand => (operand.negations_le).trans (Nat.le_add_right _ _)
  | .isNot _ _ operand => by
    have hoperand := operand.negations_le
    simp only [Unary.expr, Expr.negations, Unary.nesting]
    omega
  | .isIn _ _ items => (items.negations_expr).trans_le (Nat.zero_le _)
  | .primary operand => (operand.negations_le).trans (Nat.le_add_right _ _)

theorem Primary.negations_le : ∀ e : Primary, e.expr.negations ≤ e.nesting 1 0
  | .group _ inner _ => by
    have hinner := inner.negations_le
    simp only [Primary.expr, Primary.nesting]
    omega
  | .tag _ => Nat.zero_le _

end

/-! ## Negated groups in negated groups -/

/-- The text `is not (is not (… is not a …))`, with so many groups. -/
def negatedGroups : Nat → List Char
  | 0 => ['i', 's', ' ', 'n', 'o', 't', ' ', 'a']
  | groups + 1 => ['i', 's', ' ', 'n', 'o', 't', ' ', '('] ++ negatedGroups groups ++ [')']

/-- The operand that `negatedGroups` is, in a text where it begins at a position. -/
def negatedGroupsUnary (position : Nat) : Nat → Unary
  | 0 => .isNot ⟨⟨position, .word "is"⟩, rfl⟩ ⟨⟨position + 3, .word "not"⟩, rfl⟩
    (.tag ⟨⟨position + 7, .word "a"⟩, "a", rfl⟩)
  | groups + 1 => .isNot ⟨⟨position, .word "is"⟩, rfl⟩ ⟨⟨position + 3, .word "not"⟩, rfl⟩
    (.group ⟨position + 7⟩ (.one (.one (negatedGroupsUnary (position + 8) groups)))
      ⟨position + 8 + (negatedGroups groups).length⟩)

theorem tokensFrom_isNot {position : Nat} {rest : List Char} {ts : List Token}
    (h : tokensFrom (position + 7) rest = .ok ts) :
    tokensFrom position (['i', 's', ' ', 'n', 'o', 't', ' '] ++ rest) =
      .ok (⟨position, .word "is"⟩ :: ⟨position + 3, .word "not"⟩ :: ts) := by
  have hnot : tokensFrom (position + 3) ('n' :: (['o', 't'] ++ ' ' :: rest)) =
      .ok (⟨position + 3, .word "not"⟩ :: ts) :=
    tokensFrom_word ['o', 't'] (by decide) (by decide) (by simp; decide) (tokensFrom_space h)
  exact tokensFrom_word ['s'] (by decide) (by decide) (by simp; decide)
    (tokensFrom_space hnot)

theorem tokensFrom_negatedGroups (groups : Nat) : ∀ (position : Nat) (rest : List Char)
    {ts : List Token}, (∀ c ∈ rest.head?, isDelimiter c = true) →
    tokensFrom (position + (negatedGroups groups).length) rest = .ok ts →
    tokensFrom position (negatedGroups groups ++ rest) =
      .ok ((negatedGroupsUnary position groups).tokens ++ ts) := by
  induction groups with
  | zero =>
    intro position rest ts hrest h
    exact tokensFrom_isNot (tokensFrom_word [] (by decide) (by decide) hrest h)
  | succ groups ih =>
    intro position rest ts hrest h
    have hclose : tokensFrom (position + 8 + (negatedGroups groups).length) (')' :: rest) =
        .ok (⟨position + 8 + (negatedGroups groups).length, .closeGroup⟩ :: ts) := by
      refine tokensFrom_sign (by decide) rfl ?_
      rw [← h, negatedGroups]
      simp only [List.length_append, List.length_cons, List.length_nil]
      congr 1
      omega
    have hinner := ih (position + 8) (')' :: rest) (by simp; decide) hclose
    have hopen := tokensFrom_isNot (tokensFrom_sign (c := '(') (by decide) rfl hinner)
    rw [negatedGroups, List.append_assoc, List.append_assoc]
    refine hopen.trans ?_
    simp [negatedGroupsUnary, Unary.tokens, Primary.tokens, Disjunction.tokens,
      Conjunction.tokens, Sign.token]

theorem nesting_negatedGroups (groups position level isNot : Nat) :
    (negatedGroupsUnary position groups).nesting level isNot =
      groups * level + (groups + 1) * isNot := by
  induction groups generalizing position with
  | zero => simp [negatedGroupsUnary, Unary.nesting, Primary.nesting]
  | succ groups ih =>
    simp only [negatedGroupsUnary, Unary.nesting, Primary.nesting, Disjunction.nesting,
      Conjunction.nesting, ih]
    ring

theorem negations_negatedGroups (groups position : Nat) :
    (negatedGroupsUnary position groups).expr.negations = groups + 1 := by
  induction groups generalizing position with
  | zero => rfl
  | succ groups ih =>
    simp only [negatedGroupsUnary, Unary.expr, Primary.expr, Disjunction.expr, Conjunction.expr,
      Expr.negations, ih]

theorem isDerivation_negatedGroups (groups : Nat) :
    IsDerivation (String.ofList (negatedGroups groups))
      (.one (.one (negatedGroupsUnary 0 groups))) := by
  have hend : tokensFrom (0 + (negatedGroups groups).length) [] = .ok [] := by rw [tokensFrom]
  have h := tokensFrom_negatedGroups groups 0 [] (by simp) hend
  rw [List.append_nil, List.append_nil] at h
  rw [IsDerivation, tokens, String.toList_ofList, h]
  rfl

end Grammar

open Grammar

/-- Groups and leading negations are what is counted. -/
theorem Query.nesting_le_of_parse {source : String} {query : Query} {d : Disjunction}
    (h : Query.parse source = .ok query) (hd : IsDerivation source d) :
    query.expr = d.expr ∧ d.nesting 1 0 ≤ maxNesting := by
  obtain ⟨d', hd', hnesting, rfl⟩ := exists_isDerivation_of_parse h
  obtain rfl := isDerivation_unique hd hd'
  exact ⟨rfl, hnesting⟩

/-- Negations by `is not` are not counted. With them a tag may lie under twice as many groups and
    negations as without, and one more; a path may go through one more negation. -/
theorem Query.isGreatest_nesting (source : String) :
    (∀ query d, Query.parse source = .ok query → IsDerivation source d →
      d.nesting 1 1 ≤ maxNesting + d.nesting 0 1 ∧
        query.expr.negations ≤ maxNesting + min 1 (d.nesting 0 1)) ∧
    IsGreatest {n | ∃ source query d, Query.parse source = .ok query ∧ IsDerivation source d ∧
      d.nesting 1 1 = n} (2 * maxNesting + 1) ∧
    IsGreatest {n | ∃ source query, Query.parse source = .ok query ∧ query.expr.negations = n}
      (maxNesting + 1) := by
  have hdeep := isDerivation_negatedGroups maxNesting
  have hparse := Query.parse_of_isDerivation hdeep (nesting_negatedGroups maxNesting 0 1 0).le
  refine ⟨fun query d h hd => ?_, ⟨⟨_, _, _, hparse, hdeep, ?_⟩, ?_⟩,
    ⟨⟨_, _, hparse, ?_⟩, ?_⟩⟩
  · obtain ⟨hexpr, hnesting⟩ := nesting_le_of_parse h hd
    have hadd : d.nesting 1 1 ≤ d.nesting 1 0 + d.nesting 0 1 := d.nesting_add_le 1 0 0 1
    have hnegations := d.negations_le
    rw [hexpr]
    omega
  · exact nesting_negatedGroups maxNesting 0 1 1
  · rintro n ⟨source, query, d, h, hd, rfl⟩
    obtain ⟨-, hnesting⟩ := nesting_le_of_parse h hd
    have hadd : d.nesting 1 1 ≤ d.nesting 1 0 + d.nesting 0 1 := d.nesting_add_le 1 0 0 1
    have hisNots := d.isNots_le
    omega
  · exact negations_negatedGroups maxNesting 0
  · rintro n ⟨source, query, h, rfl⟩
    obtain ⟨d, hd, hnesting, rfl⟩ := exists_isDerivation_of_parse h
    have hnegations := d.negations_le
    simp only
    omega

/-- A query may hold a tag under more groups and negations, and even under more negations alone, than
    `maxNesting`. -/
theorem Query.exists_nesting_gt :
    ∃ query d, Query.parse (String.ofList (negatedGroups maxNesting)) = .ok query ∧
      IsDerivation (String.ofList (negatedGroups maxNesting)) d ∧
      maxNesting < d.nesting 1 1 ∧ maxNesting < query.expr.negations := by
  have hdeep := isDerivation_negatedGroups maxNesting
  have hparse := Query.parse_of_isDerivation hdeep (nesting_negatedGroups maxNesting 0 1 0).le
  refine ⟨_, _, hparse, hdeep, ?_, ?_⟩
  · have hnesting := nesting_negatedGroups maxNesting 0 1 1
    simp only [Disjunction.nesting, Conjunction.nesting, hnesting]
    omega
  · have hnegations := negations_negatedGroups maxNesting 0
    simp only [Disjunction.expr, Conjunction.expr, hnegations]
    omega

end ScenarioTree.Tag
