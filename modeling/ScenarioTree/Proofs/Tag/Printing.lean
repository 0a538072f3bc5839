import ScenarioTree.Proofs.Tag.Spelling

/-!
# Printing conditions

A condition is canonical if each chain in it has at least two operands and each tag a name that can
be written. These are the conditions that queries stand for: what is read is canonical, and what is
canonical is read back from its text. The text has a group for each chain and a leading negation for
each negation, so that it nests exactly as deep as the condition does.

Results:

* `isCanonical_disjunction`: derivations with plain words state canonical conditions.
* `Expr.exists_unary`: the text of a canonical condition spells a derivation that states it.
* `Query.parse_render`: printing and reading are inverse up to the bound, and only up to it.
-/

namespace ScenarioTree.Tag

open Grammar

/-! ## Canonical conditions -/

mutual

/-- Chains have at least two operands, and tags have names that can be written. -/
def Expr.IsCanonical : Expr → Prop
  | .tag name => IsTagName name
  | .and operands => 2 ≤ operands.length ∧ Expr.AreCanonical operands
  | .or operands => 2 ≤ operands.length ∧ Expr.AreCanonical operands
  | .not operand => operand.IsCanonical

def Expr.AreCanonical : List Expr → Prop
  | [] => True
  | e :: rest => e.IsCanonical ∧ Expr.AreCanonical rest

end

mutual

/-- How many chains and negations there are on a path from the root to a tag, at most. -/
def Expr.levels : Expr → Nat
  | .tag _ => 0
  | .and operands => Expr.levelsIn operands + 1
  | .or operands => Expr.levelsIn operands + 1
  | .not operand => operand.levels + 1

def Expr.levelsIn : List Expr → Nat
  | [] => 0
  | e :: rest => max e.levels (Expr.levelsIn rest)

end

theorem chain_of_two_le (build : List Expr → Expr) {operands : List Expr}
    (h : 2 ≤ operands.length) : Expr.chain build operands = build operands := by
  match operands, h with
  | _ :: _ :: _, _ => rfl

theorem isCanonical_chain {operands : List Expr} (hne : operands ≠ [])
    (h : Expr.AreCanonical operands) :
    (Expr.chain .and operands).IsCanonical ∧ (Expr.chain .or operands).IsCanonical := by
  match operands, hne with
  | [e], _ => exact ⟨h.1, h.1⟩
  | e :: e' :: rest, _ =>
    have hlength : 2 ≤ (e :: e' :: rest).length := Nat.le_add_left 2 rest.length
    exact ⟨⟨hlength, h⟩, ⟨hlength, h⟩⟩

/-! ## What is read is canonical -/

theorem Grammar.TagName.isTagName (t : TagName) (h : t.token.symbol.IsPlain) :
    IsTagName t.name := by
  obtain ⟨⟨position, symbol⟩, name, htag⟩ := t
  cases symbol with
  | word text =>
    obtain rfl : text = name := by
      simp only [Symbol.tag?, Option.ite_none_left_eq_some, Option.some.injEq] at htag
      exact htag.2
    exact ⟨h, fun keyword hk => isKeyword_eq_false_of_tag htag hk⟩
  | _ => cases htag

theorem areCanonical_items : ∀ items : Items, (∀ t ∈ items.tokens, t.symbol.IsPlain) →
    Expr.AreCanonical (items.names.map .tag)
  | .last tag _, h => ⟨tag.isTagName (List.forall_mem_cons.1 h).1, trivial⟩
  | .more tag _ others, h => by
    obtain ⟨htag, h⟩ := List.forall_mem_cons.1 h
    exact ⟨tag.isTagName htag, areCanonical_items others (List.forall_mem_cons.1 h).2⟩

theorem Grammar.Items.names_ne_nil (items : Items) : items.names ≠ [] := by
  cases items <;> exact List.cons_ne_nil _ _

mutual

/-- The conditions of a derivation are canonical if its words can stand in a query. -/
theorem areCanonical_disjunction : ∀ d : Disjunction, (∀ t ∈ d.tokens, t.symbol.IsPlain) →
    Expr.AreCanonical d.operands
  | .one c, h => ⟨isCanonical_conjunction c h, trivial⟩
  | .or c w d, h => by
    rw [Disjunction.tokens, List.forall_mem_append, List.forall_mem_cons] at h
    exact ⟨isCanonical_conjunction c h.1, areCanonical_disjunction d h.2.2⟩

theorem isCanonical_disjunction : ∀ d : Disjunction, (∀ t ∈ d.tokens, t.symbol.IsPlain) →
    d.expr.IsCanonical
  | d, h => by
    rw [← chain_or_operands]
    exact (isCanonical_chain d.operands_ne_nil (areCanonical_disjunction d h)).2

theorem areCanonical_conjunction : ∀ c : Conjunction, (∀ t ∈ c.tokens, t.symbol.IsPlain) →
    Expr.AreCanonical c.operands
  | .one u, h => ⟨isCanonical_unary u h, trivial⟩
  | .and u w c, h => by
    rw [Conjunction.tokens, List.forall_mem_append, List.forall_mem_cons] at h
    exact ⟨isCanonical_unary u h.1, areCanonical_conjunction c h.2.2⟩

theorem isCanonical_conjunction : ∀ c : Conjunction, (∀ t ∈ c.tokens, t.symbol.IsPlain) →
    c.expr.IsCanonical
  | c, h => by
    rw [← chain_and_operands]
    exact (isCanonical_chain c.operands_ne_nil (areCanonical_conjunction c h)).1

theorem isCanonical_unary : ∀ u : Unary, (∀ t ∈ u.tokens, t.symbol.IsPlain) → u.expr.IsCanonical
  | .not w u, h => isCanonical_unary u (List.forall_mem_cons.1 h).2
  | .is w p, h => isCanonical_primary p (List.forall_mem_cons.1 h).2
  | .isNot w n p, h =>
    isCanonical_primary p (List.forall_mem_cons.1 (List.forall_mem_cons.1 h).2).2
  | .isIn w opening items, h => by
    have hitems := (List.forall_mem_cons.1 (List.forall_mem_cons.1 h).2).2
    rw [Unary.expr, ← chain_names]
    exact (isCanonical_chain (by simpa using items.names_ne_nil)
      (areCanonical_items items hitems)).2
  | .primary p, h => isCanonical_primary p h

theorem isCanonical_primary : ∀ p : Primary, (∀ t ∈ p.tokens, t.symbol.IsPlain) →
    p.expr.IsCanonical
  | .group opening d closing, h =>
    isCanonical_disjunction d (List.forall_mem_append.1 (List.forall_mem_cons.1 h).2).1
  | .tag tag, h => tag.isTagName (List.forall_mem_cons.1 h).1

end

theorem Query.isCanonical_of_parse {source : String} {query : Query}
    (h : Query.parse source = .ok query) : query.expr.IsCanonical := by
  obtain ⟨d, hd, -, rfl⟩ := exists_isDerivation_of_parse h
  have hplain := (spells_of_isDerivation hd).isPlain
  exact isCanonical_disjunction d fun t ht => hplain t.symbol (List.mem_map_of_mem ht)

/-! ## The text of a condition -/

theorem IsTagName.spells {name : String} (h : IsTagName name) :
    Spells [.word name] name.toList := by
  have hspells := Spells.word h.toIsPlainWord (by simp) .nil
  rwa [List.append_nil] at hspells

/-- A query asks for the tag that is its own text exactly if the text can be the name of a tag. -/
theorem Query.parse_eq_tag_iff {name : String} :
    Query.parse name = .ok ⟨name, .tag name⟩ ↔ IsTagName name := by
  constructor
  · exact fun h => isCanonical_of_parse h
  · intro h
    let d : Disjunction := .one (.one (.primary (.tag h.leaf)))
    have hspells : Spells (d.tokens.map Token.symbol) name.toList := h.spells
    exact (Query.parse_eq_ok_iff_of_spells hspells).2 ⟨Nat.zero_le _, rfl⟩

/-- One more text in front of a row of texts that are divided by a word in spaces. -/
theorem Spells.chained {symbols others : List Symbol} {word separator first second : String}
    {rest : List String} (h : Spells symbols first.toList) (hword : IsPlainWord word)
    (hseparator : separator.toList = ' ' :: (word.toList ++ [' ']))
    (hothers : Spells others (separator.intercalate (second :: rest)).toList) :
    Spells (symbols ++ .word word :: others)
      (separator.intercalate (first :: second :: rest)).toList := by
  have hjoined := h.joined hword hothers
  simpa [String.intercalate_cons_cons, String.toList_append, hseparator] using hjoined

mutual

/-- The text of a canonical condition is one operand, which nests as deep as the condition. -/
theorem Expr.exists_unary : ∀ e : Expr, e.IsCanonical → ∃ u : Unary, u.expr = e ∧
    u.nesting 1 0 = e.levels ∧ Spells (u.tokens.map Token.symbol) e.render.toList
  | .tag name, h => ⟨.primary (.tag (IsTagName.leaf h)), rfl, rfl, IsTagName.spells h⟩
  | .and operands, h => by
    -- The printed parentheses are a group that counts for the level of the chain inside.
    obtain ⟨c, hoperands, hnesting, hspells⟩ := Expr.exists_conjunction operands
      (List.length_pos_iff.1 (Nat.zero_lt_of_lt h.1)) h.2
    refine ⟨.primary (.group ⟨0⟩ (.one c) ⟨0⟩), ?_, congrArg (· + 1) hnesting, ?_⟩
    · rw [Unary.expr, Primary.expr, Disjunction.expr, ← chain_and_operands, hoperands,
        chain_of_two_le _ h.1]
    · have hgroup := hspells.group
      rw [Expr.render]
      simpa [Unary.tokens, Primary.tokens, Disjunction.tokens, Sign.token] using hgroup
  | .or operands, h => by
    obtain ⟨d, hoperands, hnesting, hspells⟩ := Expr.exists_disjunction operands
      (List.length_pos_iff.1 (Nat.zero_lt_of_lt h.1)) h.2
    refine ⟨.primary (.group ⟨0⟩ d ⟨0⟩), ?_, congrArg (· + 1) hnesting, ?_⟩
    · rw [Unary.expr, Primary.expr, ← chain_or_operands, hoperands, chain_of_two_le _ h.1]
    · have hgroup := hspells.group
      rw [Expr.render]
      simpa [Unary.tokens, Primary.tokens, Sign.token] using hgroup
  | .not operand, h => by
    obtain ⟨u, hexpr, hnesting, hspells⟩ := Expr.exists_unary operand h
    refine ⟨.not ⟨⟨0, .word "not"⟩, rfl⟩ u, congrArg Expr.not hexpr, congrArg (· + 1) hnesting, ?_⟩
    have hnot := hspells.spaced (isPlainWord_of_mem_keywords "not" (by decide))
    rw [Expr.render]
    simpa [Unary.tokens] using hnot

/-- The operands of a conjunction, with `and` between them. -/
theorem Expr.exists_conjunction : ∀ operands : List Expr, operands ≠ [] →
    Expr.AreCanonical operands → ∃ c : Conjunction, c.operands = operands ∧
      c.nesting 1 0 = Expr.levelsIn operands ∧
      Spells (c.tokens.map Token.symbol) (" and ".intercalate (Expr.renderList operands)).toList
  | [e], _, h => by
    obtain ⟨u, hexpr, hnesting, hspells⟩ := Expr.exists_unary e h.1
    refine ⟨.one u, congrArg ([·]) hexpr, ?_, ?_⟩
    · rw [Conjunction.nesting, hnesting, Expr.levelsIn, Expr.levelsIn, Nat.max_zero]
    · rwa [Expr.renderList, Expr.renderList, String.intercalate_singleton]
  | e :: e' :: rest, _, h => by
    obtain ⟨u, hexpr, hnesting, hspells⟩ := Expr.exists_unary e h.1
    obtain ⟨c, hoperands, hc_nesting, hc_spells⟩ :=
      Expr.exists_conjunction (e' :: rest) (List.cons_ne_nil e' rest) h.2
    refine ⟨.and u ⟨⟨0, .word "and"⟩, rfl⟩ c, ?_, ?_, ?_⟩
    · rw [Conjunction.operands, hexpr, hoperands]
    · rw [Conjunction.nesting, hnesting, hc_nesting, Expr.levelsIn.eq_2 e]
    · rw [Expr.renderList] at hc_spells
      have hchain := hspells.chained (isPlainWord_of_mem_keywords "and" (by decide)) rfl hc_spells
      simpa [Conjunction.tokens, Expr.renderList] using hchain

/-- The operands of a disjunction, with `or` between them. -/
theorem Expr.exists_disjunction : ∀ operands : List Expr, operands ≠ [] →
    Expr.AreCanonical operands → ∃ d : Disjunction, d.operands = operands ∧
      d.nesting 1 0 = Expr.levelsIn operands ∧
      Spells (d.tokens.map Token.symbol) (" or ".intercalate (Expr.renderList operands)).toList
  | [e], _, h => by
    obtain ⟨u, hexpr, hnesting, hspells⟩ := Expr.exists_unary e h.1
    refine ⟨.one (.one u), congrArg ([·]) hexpr, ?_, ?_⟩
    · rw [Disjunction.nesting, Conjunction.nesting, hnesting, Expr.levelsIn, Expr.levelsIn,
        Nat.max_zero]
    · rwa [Expr.renderList, Expr.renderList, String.intercalate_singleton]
  | e :: e' :: rest, _, h => by
    obtain ⟨u, hexpr, hnesting, hspells⟩ := Expr.exists_unary e h.1
    obtain ⟨d, hoperands, hd_nesting, hd_spells⟩ :=
      Expr.exists_disjunction (e' :: rest) (List.cons_ne_nil e' rest) h.2
    refine ⟨.or (.one u) ⟨⟨0, .word "or"⟩, rfl⟩ d, ?_, ?_, ?_⟩
    · rw [Disjunction.operands, Conjunction.expr, hexpr, hoperands]
    · rw [Disjunction.nesting, Conjunction.nesting, hnesting, hd_nesting, Expr.levelsIn.eq_2 e]
    · rw [Expr.renderList] at hd_spells
      have hchain := hspells.chained (isPlainWord_of_mem_keywords "or" (by decide)) rfl hd_spells
      simpa [Disjunction.tokens, Conjunction.tokens, Expr.renderList] using hchain

end

/-! ## Printing and reading -/

/-- What is read is canonical. A canonical condition is read back from its text if it nests no
    deeper than queries may, and its text is refused otherwise. -/
theorem Query.parse_render :
    (∀ source query, Query.parse source = .ok query → query.expr.IsCanonical) ∧
    ∀ e : Expr, e.IsCanonical →
      (e.levels ≤ maxNesting → Query.parse e.render = .ok ⟨e.render, e⟩) ∧
      (maxNesting < e.levels → ∃ reason, Query.parse e.render = .error reason) := by
  refine ⟨fun source query => isCanonical_of_parse, fun e he => ?_⟩
  obtain ⟨u, hexpr, hnesting, hspells⟩ := Expr.exists_unary e he
  have hparse (query : Query) : Query.parse e.render = .ok query ↔
      e.levels ≤ maxNesting ∧ query = ⟨e.render, e⟩ := by
    rw [← hnesting, ← hexpr]
    rw [← hexpr] at hspells
    exact parse_eq_ok_iff_of_spells (d := .one (.one u)) hspells
  refine ⟨fun hroom => (hparse _).2 ⟨hroom, rfl⟩, fun hdeep => ?_⟩
  cases hresult : Query.parse e.render with
  | error reason => exact ⟨reason, rfl⟩
  | ok query => exact absurd ((hparse query).1 hresult).1 (Nat.not_le_of_lt hdeep)

/-- A negated chain in which chains of both kinds stand, and one negation too many. -/
theorem Query.parse_render_chains :
    let e := Expr.not
      (.and [.tag "smoke", .or [.tag "a", .tag "v2.slow"], .and [.tag "b", .tag "ß"]])
    let deep := Nat.repeat Expr.not (maxNesting + 1) (.tag "a")
    (e.IsCanonical ∧ e.levels ≤ maxNesting ∧ Query.parse e.render = .ok ⟨e.render, e⟩) ∧
      deep.IsCanonical ∧ maxNesting < deep.levels ∧
        ∃ reason, Query.parse deep.render = .error reason := by
  intro e deep
  have htag (name : String) (h : IsTagName name) : (Expr.tag name).IsCanonical := h
  have he : e.IsCanonical :=
    ⟨by decide, htag _ (by decide),
      ⟨by decide, htag _ (by decide), htag _ (by decide), trivial⟩,
      ⟨by decide, htag _ (by decide), htag _ (by decide), trivial⟩, trivial⟩
  have hdeep : deep.IsCanonical := htag _ (by decide)
  have hroom : e.levels ≤ maxNesting := by decide
  have hover : maxNesting < deep.levels := by decide +kernel
  exact ⟨⟨he, hroom, (parse_render.2 e he).1 hroom⟩, hdeep, hover,
    (parse_render.2 deep hdeep).2 hover⟩

end ScenarioTree.Tag
