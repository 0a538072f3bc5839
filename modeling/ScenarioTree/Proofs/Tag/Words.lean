import ScenarioTree.Proofs.Basic
import ScenarioTree.Tag.Query

/-!
# Words and groups of a query

A text can be cut into tokens unless one of its words begins with a quote. The check of the
parentheses, which is made on the characters before that, comes to the same as one on the tokens.

Results:

* `exists_isWordBetween_cons_iff`, `exists_isWordBetween_append_iff`: the words of a text and what
  stands before them.
* `exists_tokensFrom_iff`: which texts have tokens.
* `tokensFrom_word`, `tokensFrom_sign`: what the first token of a text is.
* `tokensFrom_induction`: by what a text begins with.
* `positions_tokensFrom`: the positions of tokens ascend.
* `checkGroups_eq_ok_iff`: the check of the parentheses, in terms of tokens.
* `checkGroups_eq_ok_iff_isBalanced`: the same in terms of how many parentheses there are.
-/

namespace ScenarioTree.Tag

/-! ## Words -/

/-- Characters that a text has in a row, none of them a delimiter, and as many as there are. -/
structure IsWord (text word : List Char) : Prop where
  ne_nil : word ≠ []
  isWord : ∀ c ∈ word, isDelimiter c = false
  /-- The text around the word: a delimiter is next to it on both sides, if there is anything. -/
  around : ∃ before after, text = before ++ (word ++ after) ∧
    (∀ c ∈ before.getLast?, isDelimiter c = true) ∧ ∀ c ∈ after.head?, isDelimiter c = true

/-- A word that begins with a quote. -/
def IsQuoted (word : List Char) : Prop := ∃ c ∈ word.head?, isQuote c = true

/-- What stands before a word and after it: delimiters are next to it, if there is anything. -/
structure IsWordBetween (before word after : List Char) : Prop where
  ne_nil : word ≠ []
  isWord : ∀ c ∈ word, isDelimiter c = false
  left : ∀ c ∈ before.getLast?, isDelimiter c = true
  right : ∀ c ∈ after.head?, isDelimiter c = true

theorem isWord_iff {text word : List Char} : IsWord text word ↔
    ∃ before after, text = before ++ (word ++ after) ∧ IsWordBetween before word after := by
  constructor
  · rintro ⟨hne, hword, before, after, htext, hbefore, hafter⟩
    exact ⟨before, after, htext, hne, hword, hbefore, hafter⟩
  · rintro ⟨before, after, htext, hne, hword, hbefore, hafter⟩
    exact ⟨hne, hword, before, after, htext, hbefore, hafter⟩

theorem IsWordBetween.exists_cons {before word after : List Char}
    (h : IsWordBetween before word after) : ∃ c run, word = c :: run ∧ isDelimiter c = false := by
  obtain ⟨c, run, rfl⟩ := List.exists_cons_of_ne_nil h.ne_nil
  exact ⟨c, run, rfl, h.isWord c List.mem_cons_self⟩

theorem not_isWord_nil {word : List Char} : ¬ IsWord [] word := by
  rintro ⟨hne, -, before, after, htext, -⟩
  simp only [List.nil_eq, List.append_eq_nil_iff] at htext
  exact hne htext.2.1

theorem isWordBetween_cons_iff {c : Char} (hc : isDelimiter c = true)
    {before word after : List Char} :
    IsWordBetween (c :: before) word after ↔ IsWordBetween before word after := by
  have hlast : (c :: before).getLast? = some (before.getLast?.getD c) := List.getLast?_cons
  constructor
  · rintro ⟨hne, hword, hbefore, hafter⟩
    refine ⟨hne, hword, fun x hx => hbefore x ?_, hafter⟩
    rw [hlast, Option.mem_some_iff, Option.mem_def.1 hx, Option.getD_some]
  · rintro ⟨hne, hword, hbefore, hafter⟩
    refine ⟨hne, hword, fun x hx => ?_, hafter⟩
    rw [hlast, Option.mem_some_iff] at hx
    cases hbetween : before.getLast? with
    | none =>
      rw [hbetween] at hx
      exact hx ▸ hc
    | some y =>
      rw [hbetween] at hx
      exact hbefore x (hx ▸ hbetween)

/-- A delimiter is in no word: the words behind it are those of the rest, whatever is asked of what
    stands before them. -/
theorem exists_isWordBetween_cons_iff {c : Char} (hc : isDelimiter c = true)
    (rest word : List Char) {p : List Char → Prop} :
    (∃ before after, c :: rest = before ++ (word ++ after) ∧ IsWordBetween before word after ∧
      p before) ↔
    ∃ before after, rest = before ++ (word ++ after) ∧ IsWordBetween before word after ∧
      p (c :: before) := by
  constructor
  · rintro ⟨before, after, htext, hbetween, hp⟩
    cases before with
    | nil =>
      obtain ⟨d, run, rfl, hd⟩ := hbetween.exists_cons
      obtain ⟨rfl, -⟩ := List.cons.inj htext
      exact absurd hc (Bool.eq_false_iff.1 hd)
    | cons d before =>
      obtain ⟨rfl, rfl⟩ := List.cons.inj htext
      exact ⟨before, after, rfl, (isWordBetween_cons_iff hc).1 hbetween, hp⟩
  · rintro ⟨before, after, rfl, hbetween, hp⟩
    exact ⟨c :: before, after, rfl, (isWordBetween_cons_iff hc).2 hbetween, hp⟩

/-- A delimiter is in no word. -/
theorem isWord_cons_iff {c : Char} (hc : isDelimiter c = true) {rest word : List Char} :
    IsWord (c :: rest) word ↔ IsWord rest word := by
  have h := exists_isWordBetween_cons_iff hc rest word (p := fun _ => True)
  simpa only [and_true, ← isWord_iff] using h

theorem takeWhile_eq_of_append {run rest : List Char} (hrun : ∀ c ∈ run, isDelimiter c = false)
    (hrest : ∀ c ∈ rest.head?, isDelimiter c = true) :
    (run ++ rest).takeWhile (!isDelimiter ·) = run := by
  rw [List.takeWhile_append_of_pos (by simpa using hrun)]
  cases rest with
  | nil => simp
  | cons c rest => simp [hrest c rfl]

/-- What a text begins with, up to the first delimiter, is its first word, and the other words are
    those of the rest, whatever is asked of what stands before them. -/
theorem exists_isWordBetween_append_iff {run rest : List Char} (hne : run ≠ [])
    (hrun : ∀ c ∈ run, isDelimiter c = false) (hrest : ∀ c ∈ rest.head?, isDelimiter c = true)
    (word : List Char) {p : List Char → Prop} :
    (∃ before after, run ++ rest = before ++ (word ++ after) ∧ IsWordBetween before word after ∧
      p before) ↔
    (word = run ∧ p []) ∨ ∃ before after, rest = before ++ (word ++ after) ∧
      IsWordBetween before word after ∧ p (run ++ before) := by
  constructor
  · rintro ⟨before, after, htext, hbetween, hp⟩
    by_cases hempty : before = []
    · left
      subst hempty
      have hfirst : (word ++ after).takeWhile (!isDelimiter ·) = word :=
        takeWhile_eq_of_append hbetween.isWord hbetween.right
      refine ⟨?_, hp⟩
      rw [← hfirst, ← takeWhile_eq_of_append hrun hrest, htext]
      rfl
    · right
      have hlast := List.getLast?_eq_some_getLast hempty
      rcases List.append_eq_append_iff.1 htext with ⟨between, rfl, rfl⟩ | ⟨between, hsplit, -⟩
      · refine ⟨between, after, rfl, ⟨hbetween.ne_nil, hbetween.isWord, fun c hc => ?_,
          hbetween.right⟩, hp⟩
        refine hbetween.left c ?_
        rw [List.getLast?_append, Option.mem_def.1 hc]
        rfl
      · -- the last character before the word would be one of the run
        have hmem : before.getLast hempty ∈ run := by
          rw [hsplit]
          exact List.mem_append_left between (List.getLast_mem hempty)
        exact absurd (hbetween.left _ hlast) (Bool.eq_false_iff.1 (hrun _ hmem))
  · rintro (⟨rfl, hp⟩ | ⟨before, after, rfl, hbetween, hp⟩)
    · exact ⟨[], rest, rfl, ⟨hne, hrun, by simp, hrest⟩, hp⟩
    · refine ⟨run ++ before, after, (List.append_assoc ..).symm,
        ⟨hbetween.ne_nil, hbetween.isWord, ?_, hbetween.right⟩, hp⟩
      cases before with
      | nil =>
        obtain ⟨c, word, rfl, hc⟩ := hbetween.exists_cons
        exact absurd (hrest c rfl) (Bool.eq_false_iff.1 hc)
      | cons c before =>
        intro x hx
        rw [List.getLast?_append_of_ne_nil _ (List.cons_ne_nil c before)] at hx
        exact hbetween.left x hx

/-- What a text begins with, up to the first delimiter, is its first word. -/
theorem isWord_append_iff {run rest : List Char} (hne : run ≠ [])
    (hrun : ∀ c ∈ run, isDelimiter c = false) (hrest : ∀ c ∈ rest.head?, isDelimiter c = true)
    {word : List Char} : IsWord (run ++ rest) word ↔ word = run ∨ IsWord rest word := by
  have h := exists_isWordBetween_append_iff hne hrun hrest word (p := fun _ => True)
  simpa only [and_true, ← isWord_iff] using h

/-! ## Cutting a text into tokens -/

theorem isDelimiter_of_isBlank {c : Char} (h : Text.isBlank c = true) : isDelimiter c = true := by
  rw [isDelimiter, h, Bool.true_or]

theorem isDelimiter_of_punctuation {c : Char} {symbol : Symbol}
    (h : punctuation? c = some symbol) : isDelimiter c = true := by
  rw [isDelimiter, h, Option.isSome_some, Bool.or_true]

theorem isDelimiter_eq_false {c : Char} (hblank : ¬ Text.isBlank c = true)
    (hpunctuation : punctuation? c = none) : isDelimiter c = false := by
  rw [isDelimiter, hpunctuation, Bool.eq_false_iff.2 hblank]
  rfl

theorem firstWord_append (c : Char) (rest : List Char) :
    (c :: rest.takeWhile (!isDelimiter ·)) ++ rest.dropWhile (!isDelimiter ·) = c :: rest := by
  rw [List.cons_append, List.takeWhile_append_dropWhile]

/-- After the first word there is a delimiter, or nothing. -/
theorem forall_mem_head?_dropWhile (rest : List Char) :
    ∀ d ∈ (rest.dropWhile (!isDelimiter ·)).head?, isDelimiter d = true := by
  intro d hd
  have hhead := List.head?_dropWhile_not (!isDelimiter ·) rest
  rw [Option.mem_def.1 hd] at hhead
  simpa using hhead

section FirstWord

variable {c : Char} (hc : isDelimiter c = false) (rest : List Char)

include hc

/-- The characters of the word that a text begins with. -/
theorem forall_mem_firstWord :
    ∀ d ∈ c :: rest.takeWhile (!isDelimiter ·), isDelimiter d = false := by
  intro d hd
  rcases List.mem_cons.1 hd with rfl | hd
  · exact hc
  · have hall := List.all_takeWhile (l := rest) (p := (!isDelimiter ·))
    simpa using List.all_eq_true.1 hall d hd

theorem isWord_firstWord_iff {word : List Char} : IsWord (c :: rest) word ↔
    word = c :: rest.takeWhile (!isDelimiter ·) ∨
      IsWord (rest.dropWhile (!isDelimiter ·)) word := by
  conv_lhs => rw [← firstWord_append c rest]
  exact isWord_append_iff (List.cons_ne_nil _ _) (forall_mem_firstWord hc rest)
    (forall_mem_head?_dropWhile rest)

end FirstWord

/-- A text has tokens exactly if no word of it begins with a quote. -/
theorem exists_tokensFrom_iff (position : Nat) (cs : List Char) :
    (∃ ts, tokensFrom position cs = .ok ts) ↔ ∀ word, IsWord cs word → ¬ IsQuoted word := by
  induction position, cs using tokensFrom.induct with
  | case1 position =>
    rw [tokensFrom]
    simp [not_isWord_nil]
  | case2 position c rest hblank ih =>
    rw [tokensFrom, if_pos hblank, ih]
    simp only [isWord_cons_iff (isDelimiter_of_isBlank hblank)]
  | case3 position c rest hblank symbol hsymbol ih =>
    rw [tokensFrom, if_neg hblank, hsymbol]
    simp only [map_eq_ok_iff, isWord_cons_iff (isDelimiter_of_punctuation hsymbol), ← ih]
    grind
  | case4 position c rest hblank hsymbol hquote =>
    have hc := isDelimiter_eq_false hblank hsymbol
    rw [tokensFrom, if_neg hblank, hsymbol]
    simp only [hquote, if_true, reduceCtorEq, exists_false, false_iff, not_forall, not_not]
    exact ⟨_, (isWord_firstWord_iff hc rest).2 (.inl rfl), c, rfl, hquote⟩
  | case5 position c rest hblank hsymbol hquote word ih =>
    have hc := isDelimiter_eq_false hblank hsymbol
    have hword : ¬ IsQuoted word := by
      rintro ⟨d, hd, hdquote⟩
      cases hd
      exact hquote hdquote
    rw [tokensFrom, if_neg hblank, hsymbol]
    simp only [if_neg hquote, map_eq_ok_iff, isWord_firstWord_iff hc rest, forall_eq_or_imp]
    rw [← ih]
    constructor
    · rintro ⟨-, ts, hts, -⟩
      exact ⟨hword, ts, hts⟩
    · rintro ⟨-, ts, hts⟩
      exact ⟨_, ts, hts, rfl⟩

/-! ## Tokens one by one -/

section Tokens

variable {position : Nat} {rest : List Char} {ts : List Token}

theorem tokensFrom_space (h : tokensFrom (position + 1) rest = .ok ts) :
    tokensFrom position (' ' :: rest) = .ok ts := by
  rw [tokensFrom, if_pos (by decide)]
  exact h

theorem tokensFrom_sign {c : Char} {symbol : Symbol} (hblank : Text.isBlank c = false)
    (hc : punctuation? c = some symbol) (h : tokensFrom (position + 1) rest = .ok ts) :
    tokensFrom position (c :: rest) = .ok (⟨position, symbol⟩ :: ts) := by
  rw [tokensFrom, if_neg (Bool.eq_false_iff.1 hblank), hc]
  simp only [h]
  rfl

/-- A run that ends at a delimiter, or at the end, is one token. -/
theorem tokensFrom_word {c : Char} (run : List Char) (hquote : isQuote c = false)
    (hrun : (c :: run).any isDelimiter = false) (hrest : ∀ d ∈ rest.head?, isDelimiter d = true)
    (h : tokensFrom (position + byteLength (c :: run)) rest = .ok ts) :
    tokensFrom position (c :: (run ++ rest)) =
      .ok (⟨position, .word (String.ofList (c :: run))⟩ :: ts) := by
  have hrun : ∀ d ∈ c :: run, isDelimiter d = false := by simpa using hrun
  have hc := hrun c List.mem_cons_self
  rw [isDelimiter, Bool.or_eq_false_iff, Option.isSome_eq_false_iff, Option.isNone_iff_eq_none] at hc
  have htake := takeWhile_eq_of_append (fun d hd => hrun d (List.mem_cons_of_mem c hd)) hrest
  have hdrop : (run ++ rest).dropWhile (!isDelimiter ·) = rest := by
    have hsplit := List.takeWhile_append_dropWhile (p := (!isDelimiter ·)) (l := run ++ rest)
    rw [htake] at hsplit
    exact List.append_cancel_left hsplit
  rw [tokensFrom, if_neg (Bool.eq_false_iff.1 hc.1), hc.2]
  simp only [htake, hdrop, h]
  rw [if_neg (Bool.eq_false_iff.1 hquote)]
  rfl

/-- What holds of every text that has tokens, by what it begins with. -/
theorem tokensFrom_induction {p : Nat → List Char → List Token → Prop}
    (nil : ∀ position, p position [] [])
    (blank : ∀ {position c rest ts}, Text.isBlank c = true → p (position + c.utf8Size) rest ts →
      p position (c :: rest) ts)
    (sign : ∀ {position c symbol rest ts}, punctuation? c = some symbol → p (position + 1) rest ts →
      p position (c :: rest) (⟨position, symbol⟩ :: ts))
    (word : ∀ {position c rest ts}, isDelimiter c = false → isQuote c = false →
      p (position + byteLength (c :: rest.takeWhile (!isDelimiter ·)))
        (rest.dropWhile (!isDelimiter ·)) ts →
      p position (c :: rest)
        (⟨position, .word (String.ofList (c :: rest.takeWhile (!isDelimiter ·)))⟩ :: ts))
    {cs : List Char} (h : tokensFrom position cs = .ok ts) : p position cs ts := by
  induction position, cs using tokensFrom.induct generalizing ts with
  | case1 position =>
    rw [tokensFrom] at h
    cases h
    exact nil position
  | case2 position c rest hblank ih =>
    rw [tokensFrom, if_pos hblank] at h
    exact blank hblank (ih h)
  | case3 position c rest hblank symbol hsymbol ih =>
    rw [tokensFrom, if_neg hblank, hsymbol] at h
    obtain ⟨others, hothers, rfl⟩ := map_eq_ok_iff.1 h
    exact sign hsymbol (ih hothers)
  | case4 position c rest hblank hsymbol hquote =>
    rw [tokensFrom, if_neg hblank, hsymbol] at h
    simp [hquote] at h
  | case5 position c rest hblank hsymbol hquote =>
    rename_i ih
    rw [tokensFrom, if_neg hblank, hsymbol] at h
    simp only [if_neg hquote, map_eq_ok_iff] at h
    obtain ⟨others, hothers, rfl⟩ := h
    exact word (isDelimiter_eq_false hblank hsymbol) (Bool.eq_false_iff.2 hquote) (ih hothers)

end Tokens

/-! ## Positions -/

theorem byteLength_pos (c : Char) (cs : List Char) : 0 < byteLength (c :: cs) :=
  Nat.add_pos_left c.utf8Size_pos _

/-- Tokens stand one behind the other. -/
theorem positions_tokensFrom {position : Nat} {cs : List Char} {ts : List Token}
    (h : tokensFrom position cs = .ok ts) :
    (∀ token ∈ ts, position ≤ token.position) ∧ ts.Pairwise (·.position < ·.position) := by
  refine tokensFrom_induction (p := fun position _ ts =>
    (∀ token ∈ ts, position ≤ token.position) ∧ ts.Pairwise (·.position < ·.position))
    ?nil ?blank ?sign ?word h
  case nil => simp
  case blank =>
    rintro position c rest ts - ⟨hbound, hpairwise⟩
    exact ⟨fun token htoken => (Nat.le_add_right _ _).trans (hbound token htoken), hpairwise⟩
  case sign =>
    rintro position c symbol rest ts - ⟨hbound, hpairwise⟩
    exact ⟨List.forall_mem_cons.2 ⟨le_rfl, fun token htoken => Nat.le_of_lt (hbound token htoken)⟩,
      hpairwise.cons hbound⟩
  case word =>
    rintro position c rest ts - - ⟨hbound, hpairwise⟩
    have hlt (token : Token) (htoken : token ∈ ts) : position < token.position :=
      (Nat.lt_add_of_pos_right (byteLength_pos c _)).trans_le (hbound token htoken)
    exact ⟨List.forall_mem_cons.2 ⟨le_rfl, fun token htoken => Nat.le_of_lt (hlt token htoken)⟩,
      hpairwise.cons hlt⟩

/-! ## Groups -/

/-- Groups that are open are closed by the tokens that follow, all others are closed too, and there
    are never too many open at once. -/
def GroupsClose (opened : Nat) : List Token → Prop
  | [] => opened = 0
  | ⟨_, .openGroup⟩ :: rest => opened ≠ maxNesting ∧ GroupsClose (opened + 1) rest
  | ⟨_, .closeGroup⟩ :: rest => opened ≠ 0 ∧ GroupsClose (opened - 1) rest
  | _ :: rest => GroupsClose opened rest

/-- The check does not depend on the position at which the text begins. -/
theorem checkGroups_position (opened p q : Nat) (cs : List Char) :
    checkGroups opened p cs = .ok () ↔ checkGroups opened q cs = .ok () := by
  induction cs generalizing opened p q with
  | nil => rfl
  | cons c rest ih =>
    rw [checkGroups, checkGroups]
    split_ifs
    · simp
    · exact ih _ _ _
    · simp
    · exact ih _ _ _
    · exact ih _ _ _

/-- Only parentheses count. -/
theorem checkGroups_cons_iff {c : Char} (hopen : c ≠ '(') (hclose : c ≠ ')') (opened p : Nat)
    (rest : List Char) :
    checkGroups opened p (c :: rest) = .ok () ↔ checkGroups opened p rest = .ok () := by
  rw [checkGroups, if_neg hopen, if_neg hclose]
  exact checkGroups_position opened _ _ rest

/-- Characters of a word do not count. -/
theorem checkGroups_append_iff {run : List Char} (hrun : ∀ c ∈ run, isDelimiter c = false)
    (opened p : Nat) (rest : List Char) :
    checkGroups opened p (run ++ rest) = .ok () ↔ checkGroups opened p rest = .ok () := by
  induction run with
  | nil => rfl
  | cons c run ih =>
    have hopen : c ≠ '(' := by
      rintro rfl
      exact absurd (hrun '(' List.mem_cons_self) (by decide)
    have hclose : c ≠ ')' := by
      rintro rfl
      exact absurd (hrun ')' List.mem_cons_self) (by decide)
    rw [List.cons_append, checkGroups_cons_iff hopen hclose]
    exact ih fun d hd => hrun d (List.mem_cons_of_mem c hd)

/-- A sign counts in a text as its token does among the tokens. -/
theorem checkGroups_punctuation_iff {c : Char} {symbol : Symbol} (hc : punctuation? c = some symbol)
    {rest : List Char} {others : List Token}
    (h : ∀ opened p, checkGroups opened p rest = .ok () ↔ GroupsClose opened others)
    (position opened p : Nat) : checkGroups opened p (c :: rest) = .ok () ↔
      GroupsClose opened (⟨position, symbol⟩ :: others) := by
  unfold punctuation? at hc
  split at hc
  case h_1 =>
    cases hc
    rw [checkGroups, GroupsClose, if_pos rfl]
    split_ifs with hopened
    · simp [hopened]
    · rw [h]
      exact (and_iff_right hopened).symm
  case h_2 =>
    cases hc
    rw [checkGroups, GroupsClose, if_neg (by decide), if_pos rfl]
    split_ifs with hopened
    · simp [hopened]
    · rw [h]
      exact (and_iff_right hopened).symm
  case h_6 => cases hc
  all_goals
    cases hc
    rw [checkGroups_cons_iff (by decide) (by decide), h]
    rfl

/-- The parentheses of a text are in order exactly if those among its tokens are. -/
theorem checkGroups_eq_ok_iff {position : Nat} {cs : List Char} {ts : List Token}
    (h : tokensFrom position cs = .ok ts) (opened p : Nat) :
    checkGroups opened p cs = .ok () ↔ GroupsClose opened ts := by
  refine tokensFrom_induction (p := fun _ cs ts => ∀ opened p,
    checkGroups opened p cs = .ok () ↔ GroupsClose opened ts) ?nil ?blank ?sign ?word h opened p
  case nil => simp [checkGroups, GroupsClose]
  case blank =>
    intro position c rest ts hblank ih opened p
    have hopen : c ≠ '(' := by
      rintro rfl
      exact absurd hblank (by decide)
    have hclose : c ≠ ')' := by
      rintro rfl
      exact absurd hblank (by decide)
    rw [checkGroups_cons_iff hopen hclose, ih]
  case sign =>
    intro position c symbol rest ts hsymbol ih opened p
    exact checkGroups_punctuation_iff hsymbol ih position opened p
  case word =>
    intro position c rest ts hc hquote ih opened p
    rw [← firstWord_append c rest, checkGroups_append_iff (forall_mem_firstWord hc rest), ih]
    rfl

/-! ## Parentheses -/

/-- All groups are closed, none is closed that is not open, and there are never too many open. -/
structure IsBalanced (cs : List Char) : Prop where
  closed : cs.count '(' = cs.count ')'
  opened : ∀ before, before <+: cs → before.count ')' ≤ before.count '('
  bounded : ∀ before, before <+: cs → before.count '(' ≤ before.count ')' + maxNesting

theorem forall_prefix_cons {p : List Char → Prop} {c : Char} {rest : List Char} :
    (∀ before, before <+: c :: rest → p before) ↔
      p [] ∧ ∀ before, before <+: rest → p (c :: before) := by
  simp only [List.prefix_cons_iff]
  grind

/-- The check of the parentheses, with some already open, in terms of how many there are. -/
theorem checkGroups_eq_ok_iff_count {opened : Nat} (hopened : opened ≤ maxNesting)
    (position : Nat) (cs : List Char) : checkGroups opened position cs = .ok () ↔
      opened + cs.count '(' = cs.count ')' ∧
        ∀ before, before <+: cs → before.count ')' ≤ opened + before.count '(' ∧
          opened + before.count '(' ≤ before.count ')' + maxNesting := by
  induction cs generalizing opened position with
  | nil => simp [checkGroups, hopened]
  | cons c rest ih =>
    rw [checkGroups, forall_prefix_cons]
    split_ifs with hopen hbound hclose hzero
    · subst hopen hbound
      refine iff_of_false nofun fun ⟨_, _, hbefore⟩ => ?_
      have hone := (hbefore [] List.nil_prefix).2
      simp at hone
    · subst hopen
      rw [ih (by omega)]
      simp only [List.count_cons_self, List.count_cons_of_ne (show '(' ≠ ')' by decide),
        List.count_nil]
      refine and_congr (by omega) ?_
      rw [and_iff_right (by omega)]
      exact forall₂_congr fun before _ => by omega
    · subst hclose hzero
      refine iff_of_false nofun fun ⟨_, _, hbefore⟩ => ?_
      have hone := (hbefore [] List.nil_prefix).1
      simp at hone
    · subst hclose
      rw [ih (by omega)]
      simp only [List.count_cons_self, List.count_cons_of_ne (show ')' ≠ '(' by decide),
        List.count_nil]
      refine and_congr (by omega) ?_
      rw [and_iff_right (by omega)]
      exact forall₂_congr fun before _ => by omega
    · rw [ih hopened]
      simp only [List.count_cons_of_ne hopen, List.count_cons_of_ne hclose, List.count_nil]
      rw [and_iff_right (by omega : 0 ≤ opened + 0 ∧ opened + 0 ≤ 0 + maxNesting)]

theorem checkGroups_eq_ok_iff_isBalanced (cs : List Char) :
    checkGroups 0 0 cs = .ok () ↔ IsBalanced cs := by
  rw [checkGroups_eq_ok_iff_count (Nat.zero_le _)]
  simp only [Nat.zero_add]
  constructor
  · rintro ⟨hclosed, hbefore⟩
    exact ⟨hclosed, fun before h => (hbefore before h).1, fun before h => (hbefore before h).2⟩
  · intro h
    exact ⟨h.closed, fun before hbefore => ⟨h.opened before hbefore, h.bounded before hbefore⟩⟩

end ScenarioTree.Tag
