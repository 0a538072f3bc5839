import ScenarioTree.Proofs.Tag.Reading
import ScenarioTree.Proofs.Tag.Words

/-!
# The language of tag queries

A query is accepted exactly if none of its words begins with a quote and its tokens have a
derivation with at most `maxNesting` groups and leading negations around any point. The tree that it
is read as is the one of its derivation.

Results:

* `groupsClose_disjunction`: the check of the parentheses never refuses what has a derivation that
  nests no deeper than `maxNesting`.
* `Query.parse_eq_ok_iff`: which queries are accepted, and what they are read as.
-/

namespace ScenarioTree.Tag

open Grammar

/-! ## Groups of derivations -/

theorem groupsClose_cons_iff {token : Token} (hopen : token.symbol ≠ .openGroup)
    (hclose : token.symbol ≠ .closeGroup) (opened : Nat) (rest : List Token) :
    GroupsClose opened (token :: rest) ↔ GroupsClose opened rest := by
  obtain ⟨position, symbol⟩ := token
  cases symbol with
  | openGroup => exact absurd rfl hopen
  | closeGroup => exact absurd rfl hclose
  | _ => rfl

theorem groupsClose_keyword {keyword : String} (w : Keyword keyword) (opened : Nat)
    (rest : List Token) : GroupsClose opened (w.token :: rest) ↔ GroupsClose opened rest := by
  have hw := w.isKeyword
  refine groupsClose_cons_iff (fun h => ?_) (fun h => ?_) opened rest
  all_goals
    rw [h] at hw
    cases hw

theorem groupsClose_tag (t : TagName) (opened : Nat) (rest : List Token) :
    GroupsClose opened (t.token :: rest) ↔ GroupsClose opened rest := by
  have ht := t.isTag
  refine groupsClose_cons_iff (fun h => ?_) (fun h => ?_) opened rest
  all_goals
    rw [h] at ht
    cases ht

theorem groupsClose_items (items : Items) (opened : Nat) (rest : List Token) :
    GroupsClose opened (items.tokens ++ rest) ↔ GroupsClose opened rest := by
  induction items with
  | last tag closing =>
    rw [Items.tokens, List.cons_append, groupsClose_tag]
    rfl
  | more tag comma others ih =>
    rw [Items.tokens, List.cons_append, groupsClose_tag, ← ih]
    rfl

mutual

/-- The groups of a derivation are closed, and are open together only where they nest. -/
theorem groupsClose_disjunction {opened : Nat} : ∀ (d : Disjunction) {rest : List Token},
    opened + d.nesting 1 0 ≤ maxNesting → GroupsClose opened rest →
      GroupsClose opened (d.tokens ++ rest)
  | .one c, rest, hnesting, hrest => groupsClose_conjunction c hnesting hrest
  | .or c w d, rest, hnesting, hrest => by
    rw [Disjunction.nesting] at hnesting
    rw [Disjunction.tokens, List.append_assoc]
    refine groupsClose_conjunction c (by omega) ((groupsClose_keyword w opened _).2 ?_)
    exact groupsClose_disjunction d (by omega) hrest

theorem groupsClose_conjunction {opened : Nat} : ∀ (c : Conjunction) {rest : List Token},
    opened + c.nesting 1 0 ≤ maxNesting → GroupsClose opened rest →
      GroupsClose opened (c.tokens ++ rest)
  | .one u, rest, hnesting, hrest => groupsClose_unary u hnesting hrest
  | .and u w c, rest, hnesting, hrest => by
    rw [Conjunction.nesting] at hnesting
    rw [Conjunction.tokens, List.append_assoc]
    refine groupsClose_unary u (by omega) ((groupsClose_keyword w opened _).2 ?_)
    exact groupsClose_conjunction c (by omega) hrest

theorem groupsClose_unary {opened : Nat} : ∀ (u : Unary) {rest : List Token},
    opened + u.nesting 1 0 ≤ maxNesting → GroupsClose opened rest →
      GroupsClose opened (u.tokens ++ rest)
  | .not w u, rest, hnesting, hrest => by
    rw [Unary.nesting] at hnesting
    exact (groupsClose_keyword w opened _).2 (groupsClose_unary u (by omega) hrest)
  | .is w p, rest, hnesting, hrest =>
    (groupsClose_keyword w opened _).2 (groupsClose_primary p hnesting hrest)
  | .isNot w n p, rest, hnesting, hrest =>
    (groupsClose_keyword w opened _).2
      ((groupsClose_keyword n opened _).2 (groupsClose_primary p hnesting hrest))
  | .isIn w opening items, rest, _, hrest =>
    (groupsClose_keyword w opened _).2 ((groupsClose_items items opened rest).2 hrest)
  | .primary p, rest, hnesting, hrest => groupsClose_primary p hnesting hrest

theorem groupsClose_primary {opened : Nat} : ∀ (p : Primary) {rest : List Token},
    opened + p.nesting 1 0 ≤ maxNesting → GroupsClose opened rest →
      GroupsClose opened (p.tokens ++ rest)
  | .group opening d closing, rest, hnesting, hrest => by
    rw [Primary.nesting] at hnesting
    rw [Primary.tokens, List.cons_append, List.append_assoc]
    refine ⟨by omega, groupsClose_disjunction d (by omega) ⟨Nat.succ_ne_zero opened, ?_⟩⟩
    exact hrest
  | .tag tag, rest, _, hrest => (groupsClose_tag tag opened rest).2 hrest

end

/-! ## Queries -/

/-- A derivation of a query: its leaves are the tokens of the text. -/
def IsDerivation (source : String) (d : Disjunction) : Prop := tokens source = .ok d.tokens

theorem isDerivation_unique {source : String} {d d' : Disjunction} (h : IsDerivation source d)
    (h' : IsDerivation source d') : d = d' :=
  Disjunction.tokens_injective (Except.ok.inj (h.symm.trans h'))

theorem checkGroups_of_isDerivation {source : String} {d : Disjunction}
    (h : IsDerivation source d) (hnesting : d.nesting 1 0 ≤ maxNesting) :
    checkGroups 0 0 source.toList = .ok () := by
  rw [checkGroups_eq_ok_iff h, ← List.append_nil d.tokens]
  exact groupsClose_disjunction d (by omega) rfl

theorem Query.parse_of_isDerivation {source : String} {d : Disjunction} (h : IsDerivation source d)
    (hnesting : d.nesting 1 0 ≤ maxNesting) : Query.parse source = .ok ⟨source, d.expr⟩ := by
  have hgroups := checkGroups_of_isDerivation h hnesting
  have hread : Reads (readOr source.utf8ByteSize 0 (d.tokens ++ [])) d.expr [] :=
    reads_readOr_tokens (by omega) rfl rfl
  rw [List.append_nil] at hread
  obtain ⟨hfewer, hread⟩ := hread
  have hne : ¬ d.tokens.isEmpty = true := by
    rw [List.isEmpty_iff_length_eq_zero]
    exact Nat.ne_of_gt hfewer
  rw [Query.parse, hgroups, h]
  simp only [bind, Except.bind, Except.mapError]
  rw [if_neg hne, hread]
  rfl

theorem Query.exists_isDerivation_of_parse {source : String} {query : Query}
    (h : Query.parse source = .ok query) : ∃ d : Disjunction, IsDerivation source d ∧
      d.nesting 1 0 ≤ maxNesting ∧ query = ⟨source, d.expr⟩ := by
  rw [Query.parse] at h
  obtain ⟨-, -, h⟩ := bind_eq_ok_iff.1 h
  obtain ⟨ts, hts, h⟩ := bind_eq_ok_iff.1 h
  split_ifs at h
  obtain ⟨⟨e, rest, hfewer⟩, hread, h⟩ := bind_eq_ok_iff.1 h
  obtain ⟨d, rfl, rfl, hnesting⟩ := (derived source.utf8ByteSize ts).or (Nat.zero_le _) ⟨_, hread⟩
  cases rest with
  | cons token others => cases h
  | nil =>
    cases h
    refine ⟨d, ?_, (Nat.zero_add _).symm.trans_le hnesting, rfl⟩
    rw [List.append_nil] at hts
    exact mapError_eq_ok_iff.1 hts

/-- Which queries are accepted. There is one derivation at most, and neither the cutting into tokens
    nor the check of the parentheses refuses anything else. -/
theorem Query.parse_eq_ok_iff (source : String) :
    (∀ query, Query.parse source = .ok query ↔
      (∀ word, IsWord source.toList word → ¬ IsQuoted word) ∧
        ∃ d, IsDerivation source d ∧ d.nesting 1 0 ≤ maxNesting ∧ query = ⟨source, d.expr⟩) ∧
    ((∃ ts, tokens source = .ok ts) ↔ ∀ word, IsWord source.toList word → ¬ IsQuoted word) ∧
    (∀ d d', IsDerivation source d → IsDerivation source d' → d = d') ∧
    ∀ d, IsDerivation source d → d.nesting 1 0 ≤ maxNesting →
      checkGroups 0 0 source.toList = .ok () := by
  refine ⟨fun query => ⟨fun h => ?_, ?_⟩, exists_tokensFrom_iff 0 source.toList,
    fun d d' => isDerivation_unique, fun d => checkGroups_of_isDerivation⟩
  · obtain ⟨d, hd, hnesting, hquery⟩ := Query.exists_isDerivation_of_parse h
    exact ⟨(exists_tokensFrom_iff 0 source.toList).1 ⟨_, hd⟩, d, hd, hnesting, hquery⟩
  · rintro ⟨-, d, hd, hnesting, rfl⟩
    exact Query.parse_of_isDerivation hd hnesting

end ScenarioTree.Tag
