import Mathlib.Tactic
import ScenarioTree.Tag.Query

/-!
# The grammar of tag queries

    expr    := or
    or      := and ( "or" and )*
    and     := unary ( "and" unary )*
    unary   := "not" unary | "is" "not"? primary | "in" list | primary
    primary := "(" expr ")" | TAG
    list    := "[" TAG ( "," TAG )* "]"

A derivation is a tree with tokens at its leaves. Leaves can only hold tokens that fit, so every tree
is a derivation of the tokens that it has at its leaves, from left to right.

Results:

* `Disjunction.tokens_injective`: the grammar is unambiguous.
* `Unary.tokens_append_inj`, `Primary.tokens_append_inj`: where an operand ends is told by its own
  tokens, whatever follows.
-/

namespace ScenarioTree.Tag.Grammar

/-! ## Leaves -/

/-- A token that is a keyword. -/
structure Keyword (keyword : String) where
  token : Token
  isKeyword : token.symbol.isKeyword keyword = true

/-- A token that is no word: a symbol, at some position. -/
structure Sign (symbol : Symbol) where
  position : Nat

def Sign.token {symbol : Symbol} (sign : Sign symbol) : Token := ⟨sign.position, symbol⟩

/-- A token that is a tag: any word but a keyword. -/
structure TagName where
  token : Token
  name : String
  isTag : token.symbol.tag? = some name

/-! ## Derivations -/

/-- The part of a list behind its opening bracket. -/
inductive Items where
  | last (tag : TagName) (closing : Sign .closeList)
  | more (tag : TagName) (comma : Sign .comma) (others : Items)

mutual

inductive Disjunction where
  | one (operand : Conjunction)
  | or (operand : Conjunction) (word : Keyword "or") (others : Disjunction)

inductive Conjunction where
  | one (operand : Unary)
  | and (operand : Unary) (word : Keyword "and") (others : Conjunction)

inductive Unary where
  | not (word : Keyword "not") (operand : Unary)
  | is (word : Keyword "is") (operand : Primary)
  | isNot (word : Keyword "is") (negation : Keyword "not") (operand : Primary)
  | isIn (word : Keyword "in") (opening : Sign .openList) (items : Items)
  | primary (operand : Primary)

inductive Primary where
  | group (opening : Sign .openGroup) (inner : Disjunction) (closing : Sign .closeGroup)
  | tag (tag : TagName)

end

/-! ## Tokens -/

def Items.tokens : Items → List Token
  | .last tag closing => [tag.token, closing.token]
  | .more tag comma others => tag.token :: comma.token :: others.tokens

mutual

/-- The tokens at the leaves. -/
def Disjunction.tokens : Disjunction → List Token
  | .one operand => operand.tokens
  | .or operand word others => operand.tokens ++ word.token :: others.tokens

def Conjunction.tokens : Conjunction → List Token
  | .one operand => operand.tokens
  | .and operand word others => operand.tokens ++ word.token :: others.tokens

def Unary.tokens : Unary → List Token
  | .not word operand => word.token :: operand.tokens
  | .is word operand => word.token :: operand.tokens
  | .isNot word negation operand => word.token :: negation.token :: operand.tokens
  | .isIn word opening items => word.token :: opening.token :: items.tokens
  | .primary operand => operand.tokens

def Primary.tokens : Primary → List Token
  | .group opening inner closing => opening.token :: (inner.tokens ++ [closing.token])
  | .tag tag => [tag.token]

end

/-! ## Meaning -/

/-- The tags of a list, in their order. -/
def Items.names : Items → List String
  | .last tag _ => [tag.name]
  | .more tag _ others => tag.name :: others.names

/-- Any of the tags of a list. -/
def Items.expr : Items → Expr
  | .last tag _ => .tag tag.name
  | .more tag _ others => .or (.tag tag.name :: others.names.map .tag)

mutual

/-- The condition that a derivation states. An operand alone is itself, as is what stands in a
    group. -/
def Disjunction.expr : Disjunction → Expr
  | .one operand => operand.expr
  | .or operand _ others => .or (operand.expr :: others.operands)

/-- The conditions of which one has to hold. -/
def Disjunction.operands : Disjunction → List Expr
  | .one operand => [operand.expr]
  | .or operand _ others => operand.expr :: others.operands

def Conjunction.expr : Conjunction → Expr
  | .one operand => operand.expr
  | .and operand _ others => .and (operand.expr :: others.operands)

/-- The conditions that all have to hold. -/
def Conjunction.operands : Conjunction → List Expr
  | .one operand => [operand.expr]
  | .and operand _ others => operand.expr :: others.operands

def Unary.expr : Unary → Expr
  | .not _ operand => .not operand.expr
  | .is _ operand => operand.expr
  | .isNot _ _ operand => .not operand.expr
  | .isIn _ _ items => items.expr
  | .primary operand => operand.expr

def Primary.expr : Primary → Expr
  | .group _ inner _ => inner.expr
  | .tag tag => .tag tag.name

end

/-! ## Nesting -/

mutual

/-- How deep the points of a derivation lie, at most. Groups and leading negations around a point
    count for `level` each, negations by `is not` for `isNot`. -/
def Disjunction.nesting (level isNot : Nat) : Disjunction → Nat
  | .one operand => operand.nesting level isNot
  | .or operand _ others => max (operand.nesting level isNot) (others.nesting level isNot)

def Conjunction.nesting (level isNot : Nat) : Conjunction → Nat
  | .one operand => operand.nesting level isNot
  | .and operand _ others => max (operand.nesting level isNot) (others.nesting level isNot)

def Unary.nesting (level isNot : Nat) : Unary → Nat
  | .not _ operand => operand.nesting level isNot + level
  | .is _ operand => operand.nesting level isNot
  | .isNot _ _ operand => operand.nesting level isNot + isNot
  | .isIn _ _ _ => 0
  | .primary operand => operand.nesting level isNot

def Primary.nesting (level isNot : Nat) : Primary → Nat
  | .group _ inner _ => inner.nesting level isNot + level
  | .tag _ => 0

end

/-! ## Telling leaves apart -/

theorem isKeyword_unique {symbol : Symbol} {k l : String} (hk : symbol.isKeyword k = true)
    (hl : symbol.isKeyword l = true) : k = l := by
  cases symbol with
  | word text =>
    simp only [Symbol.isKeyword, beq_iff_eq] at hk hl
    exact String.toList_injective (hk.symm.trans hl)
  | _ => cases hk

theorem isKeyword_eq_false_of_tag {symbol : Symbol} {name keyword : String}
    (h : symbol.tag? = some name) (hk : keyword ∈ keywords) : symbol.isKeyword keyword = false := by
  cases symbol with
  | word text =>
    simp only [Symbol.tag?, Option.ite_none_left_eq_some] at h
    refine Bool.eq_false_iff.2 fun hkeyword => h.1 ?_
    exact List.any_eq_true.2 ⟨keyword, hk, hkeyword⟩
  | _ => rfl

theorem Keyword.ext {k : String} {w w' : Keyword k} (h : w.token = w'.token) : w = w' := by
  cases w
  cases w'
  cases h
  rfl

theorem Sign.ext {symbol : Symbol} {m m' : Sign symbol} (h : m.token = m'.token) : m = m' := by
  cases m
  cases m'
  cases h
  rfl

theorem TagName.ext {t t' : TagName} (h : t.token = t'.token) : t = t' := by
  obtain ⟨token, name, htag⟩ := t
  obtain ⟨token', name', htag'⟩ := t'
  obtain rfl : token = token' := h
  rw [htag] at htag'
  cases htag'
  rfl

theorem TagName.token_ne_sign (t : TagName) {symbol : Symbol} (m : Sign symbol)
    (h : symbol.tag? = none) : t.token ≠ m.token := by
  intro htoken
  have htag := t.isTag
  rw [htoken, Sign.token, h] at htag
  cases htag

/-! ## Beginnings -/

theorem startsWith_keyword {k : String} (w : Keyword k) (rest : List Token) (l : String) :
    startsWith l (w.token :: rest) = true ↔ k = l := by
  simp only [startsWith, List.head?_cons, Option.any_some]
  constructor
  · exact isKeyword_unique w.isKeyword
  · rintro rfl
    exact w.isKeyword

theorem startsWith_keyword_eq_false {k l : String} (h : k ≠ l) (w : Keyword k)
    (rest : List Token) : startsWith l (w.token :: rest) = false :=
  Bool.eq_false_iff.2 fun hstarts => h ((startsWith_keyword w rest l).1 hstarts)

theorem exists_keyword_of_startsWith {keyword : String} {ts : List Token}
    (h : startsWith keyword ts = true) :
    ∃ (w : Keyword keyword) (others : List Token), ts = w.token :: others := by
  cases ts with
  | nil => cases h
  | cons token others => exact ⟨⟨token, h⟩, others, rfl⟩

theorem startsWith_congr {keyword : String} {ts others : List Token}
    (h : others.head? = ts.head?) : startsWith keyword others = startsWith keyword ts := by
  rw [startsWith, startsWith, h]

/-- Groups and tags do not begin with a keyword. -/
theorem Primary.startsWith_eq_false (p : Primary) (rest : List Token) {keyword : String}
    (hk : keyword ∈ keywords) : startsWith keyword (p.tokens ++ rest) = false := by
  cases p with
  | group opening inner closing => rfl
  | tag tag => exact isKeyword_eq_false_of_tag tag.isTag hk

theorem Primary.tokens_ne_keyword (p : Primary) {keyword : String} (w : Keyword keyword)
    (hk : keyword ∈ keywords) (rest others : List Token) :
    p.tokens ++ rest ≠ w.token :: others := by
  intro h
  have hstarts := p.startsWith_eq_false rest hk
  rw [h, Bool.eq_false_iff] at hstarts
  exact hstarts ((startsWith_keyword w others keyword).2 rfl)

theorem Items.tokens_ne_sign (items : Items) {symbol : Symbol} (m : Sign symbol)
    (h : symbol.tag? = none) (rest others : List Token) :
    items.tokens ++ rest ≠ m.token :: others := by
  intro htokens
  cases items with
  | last tag closing => exact tag.token_ne_sign m h (List.cons.inj htokens).1
  | more tag comma items => exact tag.token_ne_sign m h (List.cons.inj htokens).1

/-- The keyword that an operand begins with. -/
def Unary.leading : Unary → Option String
  | .not _ _ => some "not"
  | .is _ _ | .isNot _ _ _ => some "is"
  | .isIn _ _ _ => some "in"
  | .primary _ => none

theorem Unary.mem_keywords_of_leading {u : Unary} {keyword : String}
    (h : u.leading = some keyword) : keyword ∈ keywords := by
  cases u with
  | primary operand => cases h
  | _ =>
    cases h
    decide

theorem Unary.startsWith_iff (u : Unary) (rest : List Token) {keyword : String}
    (hk : keyword ∈ keywords) :
    startsWith keyword (u.tokens ++ rest) = true ↔ u.leading = some keyword := by
  cases u with
  | primary operand =>
    simp only [leading, reduceCtorEq, iff_false, Bool.not_eq_true]
    exact operand.startsWith_eq_false rest hk
  | not w _ | is w _ | isNot w _ _ | isIn w _ _ =>
    simp only [leading, Option.some.injEq]
    exact startsWith_keyword w _ keyword

theorem Unary.leading_eq {u u' : Unary} {rest rest' : List Token}
    (h : u.tokens ++ rest = u'.tokens ++ rest') : u.leading = u'.leading := by
  ext keyword
  constructor
  · intro hleading
    have hk := mem_keywords_of_leading hleading
    rwa [← u'.startsWith_iff rest' hk, ← h, u.startsWith_iff rest hk]
  · intro hleading
    have hk := mem_keywords_of_leading hleading
    rwa [← u.startsWith_iff rest hk, h, u'.startsWith_iff rest' hk]

/-! ## Unambiguity -/

theorem Items.tokens_append_inj {items items' : Items} {rest rest' : List Token}
    (h : items.tokens ++ rest = items'.tokens ++ rest') : items = items' ∧ rest = rest' := by
  induction items generalizing items' with
  | last tag closing =>
    cases items' with
    | last tag' closing' =>
      simp only [tokens, List.cons_append, List.nil_append, List.cons.injEq] at h
      rw [TagName.ext h.1, Sign.ext h.2.1]
      exact ⟨rfl, h.2.2⟩
    | more tag' comma' others' =>
      simp [tokens, Sign.token] at h
  | more tag comma others ih =>
    cases items' with
    | last tag' closing' =>
      simp [tokens, Sign.token] at h
    | more tag' comma' others' =>
      simp only [tokens, List.cons_append, List.cons.injEq] at h
      obtain ⟨rfl, hrest⟩ := ih h.2.2
      rw [TagName.ext h.1, Sign.ext h.2.1]
      exact ⟨rfl, hrest⟩

mutual

theorem Disjunction.tokens_append_inj : ∀ {d d' : Disjunction} {rest rest' : List Token},
    d.tokens ++ rest = d'.tokens ++ rest' →
    startsWith "or" rest = false → startsWith "and" rest = false →
    startsWith "or" rest' = false → startsWith "and" rest' = false → d = d' ∧ rest = rest'
  | .one c, .one c', rest, rest', h, _, hand, _, hand' => by
    obtain ⟨rfl, hrest⟩ := Conjunction.tokens_append_inj h hand hand'
    exact ⟨rfl, hrest⟩
  | .one c, .or c' w' others', rest, rest', h, hor, hand, _, _ => by
    simp only [Disjunction.tokens, List.append_assoc, List.cons_append] at h
    have hand' := startsWith_keyword_eq_false (l := "and") (by decide) w' (others'.tokens ++ rest')
    obtain ⟨-, rfl⟩ := Conjunction.tokens_append_inj h hand hand'
    exact absurd ((startsWith_keyword w' _ "or").2 rfl) (Bool.eq_false_iff.1 hor)
  | .or c w others, .one c', rest, rest', h, _, _, hor', hand' => by
    simp only [Disjunction.tokens, List.append_assoc, List.cons_append] at h
    have hand := startsWith_keyword_eq_false (l := "and") (by decide) w (others.tokens ++ rest)
    obtain ⟨-, rfl⟩ := Conjunction.tokens_append_inj h hand hand'
    exact absurd ((startsWith_keyword w _ "or").2 rfl) (Bool.eq_false_iff.1 hor')
  | .or c w others, .or c' w' others', rest, rest', h, hor, hand, hor', hand' => by
    simp only [Disjunction.tokens, List.append_assoc, List.cons_append] at h
    obtain ⟨rfl, hothers⟩ := Conjunction.tokens_append_inj h
      (startsWith_keyword_eq_false (by decide) w _) (startsWith_keyword_eq_false (by decide) w' _)
    obtain ⟨hw, hothers⟩ := List.cons.inj hothers
    obtain ⟨rfl, hrest⟩ := Disjunction.tokens_append_inj hothers hor hand hor' hand'
    rw [Keyword.ext hw]
    exact ⟨rfl, hrest⟩

theorem Conjunction.tokens_append_inj : ∀ {c c' : Conjunction} {rest rest' : List Token},
    c.tokens ++ rest = c'.tokens ++ rest' →
    startsWith "and" rest = false → startsWith "and" rest' = false → c = c' ∧ rest = rest'
  | .one u, .one u', rest, rest', h, _, _ => by
    obtain ⟨rfl, hrest⟩ := Unary.tokens_append_inj h
    exact ⟨rfl, hrest⟩
  | .one u, .and u' w' others', rest, rest', h, hand, _ => by
    simp only [Conjunction.tokens, List.append_assoc, List.cons_append] at h
    obtain ⟨-, rfl⟩ := Unary.tokens_append_inj h
    exact absurd ((startsWith_keyword w' _ "and").2 rfl) (Bool.eq_false_iff.1 hand)
  | .and u w others, .one u', rest, rest', h, _, hand' => by
    simp only [Conjunction.tokens, List.append_assoc, List.cons_append] at h
    obtain ⟨-, rfl⟩ := Unary.tokens_append_inj h
    exact absurd ((startsWith_keyword w _ "and").2 rfl) (Bool.eq_false_iff.1 hand')
  | .and u w others, .and u' w' others', rest, rest', h, hand, hand' => by
    simp only [Conjunction.tokens, List.append_assoc, List.cons_append] at h
    obtain ⟨rfl, hothers⟩ := Unary.tokens_append_inj h
    obtain ⟨hw, hothers⟩ := List.cons.inj hothers
    obtain ⟨rfl, hrest⟩ := Conjunction.tokens_append_inj hothers hand hand'
    rw [Keyword.ext hw]
    exact ⟨rfl, hrest⟩

/-- What follows the first keyword tells where an operand ends. -/
theorem Unary.tokens_append_inj {u u' : Unary} {rest rest' : List Token}
    (h : u.tokens ++ rest = u'.tokens ++ rest') : u = u' ∧ rest = rest' := by
  have hleading : u.leading = u'.leading := Unary.leading_eq h
  cases u with
  | not w operand =>
    cases u' with
    | not w' operand' =>
      obtain ⟨hw, h⟩ := List.cons.inj h
      obtain ⟨rfl, hrest⟩ := Unary.tokens_append_inj h
      rw [Keyword.ext hw]
      exact ⟨rfl, hrest⟩
    | _ => simp [Unary.leading] at hleading
  | is w operand =>
    cases u' with
    | is w' operand' =>
      obtain ⟨hw, h⟩ := List.cons.inj h
      obtain ⟨rfl, hrest⟩ := Primary.tokens_append_inj h
      rw [Keyword.ext hw]
      exact ⟨rfl, hrest⟩
    | isNot w' negation' operand' =>
      exact absurd (List.cons.inj h).2 (operand.tokens_ne_keyword negation' (by decide) _ _)
    | _ => simp [Unary.leading] at hleading
  | isNot w negation operand =>
    cases u' with
    | is w' operand' =>
      exact absurd (List.cons.inj h).2.symm (operand'.tokens_ne_keyword negation (by decide) _ _)
    | isNot w' negation' operand' =>
      obtain ⟨hw, h⟩ := List.cons.inj h
      obtain ⟨hnegation, h⟩ := List.cons.inj h
      obtain ⟨rfl, hrest⟩ := Primary.tokens_append_inj h
      rw [Keyword.ext hw, Keyword.ext hnegation]
      exact ⟨rfl, hrest⟩
    | _ => simp [Unary.leading] at hleading
  | isIn w opening items =>
    cases u' with
    | isIn w' opening' items' =>
      obtain ⟨hw, h⟩ := List.cons.inj h
      obtain ⟨hopening, h⟩ := List.cons.inj h
      obtain ⟨rfl, hrest⟩ := Items.tokens_append_inj h
      rw [Keyword.ext hw, Sign.ext hopening]
      exact ⟨rfl, hrest⟩
    | _ => simp [Unary.leading] at hleading
  | primary operand =>
    cases u' with
    | primary operand' =>
      obtain ⟨rfl, hrest⟩ := Primary.tokens_append_inj h
      exact ⟨rfl, hrest⟩
    | _ => simp [Unary.leading] at hleading

theorem Primary.tokens_append_inj : ∀ {p p' : Primary} {rest rest' : List Token},
    p.tokens ++ rest = p'.tokens ++ rest' → p = p' ∧ rest = rest'
  | .group o d c, .group o' d' c', rest, rest', h => by
    simp only [Primary.tokens, List.append_assoc, List.cons_append, List.nil_append] at h
    obtain ⟨ho, h⟩ := List.cons.inj h
    obtain ⟨rfl, hclosing⟩ := Disjunction.tokens_append_inj h rfl rfl rfl rfl
    obtain ⟨hc, hrest⟩ := List.cons.inj hclosing
    rw [Sign.ext ho, Sign.ext hc]
    exact ⟨rfl, hrest⟩
  | .group o d c, .tag t', rest, rest', h =>
    absurd (List.cons.inj h).1.symm (t'.token_ne_sign o rfl)
  | .tag t, .group o' d' c', rest, rest', h =>
    absurd (List.cons.inj h).1 (t.token_ne_sign o' rfl)
  | .tag t, .tag t', rest, rest', h => by
    obtain ⟨ht, hrest⟩ := List.cons.inj h
    rw [TagName.ext ht]
    exact ⟨rfl, hrest⟩

end

/-- The grammar is unambiguous. -/
theorem Disjunction.tokens_injective : Function.Injective Disjunction.tokens := by
  intro d d' h
  have happend : d.tokens ++ [] = d'.tokens ++ [] := by rw [h]
  exact (Disjunction.tokens_append_inj happend rfl rfl rfl rfl).1

end ScenarioTree.Tag.Grammar
