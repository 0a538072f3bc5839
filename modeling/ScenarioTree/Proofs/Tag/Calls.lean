import ScenarioTree.Proofs.Tag.Enclosures

/-!
# Calls of a reader

Every call of the machine is answered, with what the reader of tokens gives that is called, and the
levels that have been counted on the way have then been taken back. What waits for the answer does not
matter before. So the machine reads a query as the readers of tokens do, and whatever is true on its way
is true of them.

Results:

* `Answers.bind`, `Answers.enter`: an answer that another call waits for, and one a level deeper.
* `answering`, `returns_answer`: how calls are answered.
* `IsSound.isSafe`, `run_balanced`: what is promised of a run, for all queries whose parentheses are in
  order.
-/

namespace ScenarioTree.Tag

open Grammar

/-! ## What the readers give -/

/-- What a reader gives: a value, and the tokens that are left. -/
def outcome {α : Type} {ts : List Token} (result : Except Reason (Parsed α ts)) :
    Except Reason (α × List Token) := result.map fun parsed => (parsed.value, parsed.rest)

/-- The same of a reader that may take no token. -/
def outcomeTail {α : Type} {ts : List Token} (result : Except Reason (ParsedTail α ts)) :
    Except Reason (α × List Token) := result.map fun parsed => (parsed.value, parsed.rest)

/-- What is read one level deeper, if there is room. -/
def nested (stop depth : Nat) (ts : List Token) (inner : Except Reason (Expr × List Token)) :
    Except Reason (Expr × List Token) :=
  if depth = maxNesting then .error (.nestedTooDeep (nextPosition stop ts)) else inner

/-- Closes a group whose inside has been read. -/
def closeGroup (e : Expr) : List Token → Except Reason (Expr × List Token)
  | ⟨_, .closeGroup⟩ :: others => .ok (e, others)
  | others => .error (.expected .closeGroup others.head?)

section Outcome

variable {α : Type} {stop depth : Nat} {ts : List Token}

theorem length_lt_of_outcome {result : Except Reason (Parsed α ts)} {value : α}
    {rest : List Token} (h : outcome result = .ok (value, rest)) : rest.length < ts.length := by
  obtain ⟨parsed, -, hparsed⟩ := map_eq_ok_iff.1 h
  cases hparsed
  exact parsed.fewer

theorem outcome_readUnary_not (w : Keyword "not") :
    outcome (readUnary stop depth (w.token :: ts)) =
      nested stop depth ts (outcome (readUnary stop (depth + 1) ts)) >>= fun inner =>
        .ok (.not inner.1, inner.2) := by
  rw [readUnary.eq_def]
  simp only [w.isKeyword, if_true]
  unfold nested
  split_ifs
  · rfl
  · cases readUnary stop (depth + 1) ts <;> rfl

theorem outcome_readUnary_isNot (w : Keyword "is") (n : Keyword "not") :
    outcome (readUnary stop depth (w.token :: n.token :: ts)) =
      outcome (readPrimary stop depth ts) >>= fun inner => .ok (.not inner.1, inner.2) := by
  rw [readUnary_isNot]
  cases readPrimary stop depth ts <;> rfl

theorem outcome_readUnary_is (w : Keyword "is") (hnot : startsWith "not" ts = false) :
    outcome (readUnary stop depth (w.token :: ts)) =
      outcome (readPrimary stop depth ts) >>= fun inner => .ok (inner.1, inner.2) := by
  rw [readUnary_is w hnot]
  cases readPrimary stop depth ts <;> rfl

theorem outcome_readUnary_in (w : Keyword "in") :
    outcome (readUnary stop depth (w.token :: ts)) = outcome (readList ts) := by
  rw [readUnary_in]
  cases readList ts <;> rfl

theorem outcome_readPrimary_group (opening : Sign .openGroup)
    (hts : ∀ next ∈ ts.head?, next.symbol ≠ .closeGroup) :
    outcome (readPrimary stop depth (opening.token :: ts)) =
      nested stop depth ts (outcome (readOr stop (depth + 1) ts)) >>= fun inner =>
        closeGroup inner.1 inner.2 := by
  rw [readPrimary.eq_def]
  simp only [Sign.token]
  split
  · exact absurd rfl (hts _ rfl)
  · unfold nested
    split_ifs
    · rfl
    · cases readOr stop (depth + 1) ts with
      | error reason => rfl
      | ok inner =>
        obtain ⟨e, rest, fewer⟩ := inner
        show outcome _ = closeGroup e rest
        simp only [bind, Except.bind]
        unfold closeGroup
        split
        · rfl
        · rename_i hrest
          split
          · exact (hrest _ _ rfl).elim
          · rfl

end Outcome

namespace Reader

/-! ## Answers -/

/-- A call that waits gets a result, and then the cursor is where the tokens begin that are left, and
    the level is what it is now. -/
def Returns (reader : Reader) (s : State) (stack : List Frame)
    (result : Except Reason (Expr × List Token)) : Prop :=
  ∃ behind, reader.Reaches s ⟨.answer (result.map Prod.fst), stack, behind, s.depth⟩ ∧
    ∀ e rest, result = .ok (e, rest) → reader.tokens.drop behind = rest

/-- With the given tokens left, what is next and the frames on top come to a result, whatever the
    frames below are. -/
def Answers (reader : Reader) (control : Control) (frames : List Frame) (depth : Nat)
    (ts : List Token) (result : Except Reason (Expr × List Token)) : Prop :=
  ∀ stack position, reader.tokens.drop position = ts →
    reader.Returns ⟨control, frames ++ stack, position, depth⟩ stack result

section Answers

variable {reader : Reader} {control : Control} {frames : List Frame} {depth : Nat}
  {ts : List Token} {result : Except Reason (Expr × List Token)}

theorem answers_ok (e : Expr) : Answers reader (.answer (.ok e)) [] depth ts (.ok (e, ts)) := by
  intro stack position hposition
  refine ⟨position, .refl, fun _ _ h => ?_⟩
  cases h
  exact hposition

theorem answers_error (reason : Reason) :
    Answers reader (.answer (.error reason)) [] depth ts (.error reason) :=
  fun _ position _ => ⟨position, .refl, by simp⟩

/-- One step further. -/
theorem Answers.of_step {control' : Control} {frames' : List Frame} {ts' : List Token}
    (hstep : ∀ stack position, reader.tokens.drop position = ts → ∃ position',
      reader.tokens.drop position' = ts' ∧
      reader.step ⟨control, frames ++ stack, position, depth⟩ =
        .ok ⟨control', frames' ++ stack, position', depth⟩)
    (h : Answers reader control' frames' depth ts' result) :
    Answers reader control frames depth ts result := by
  intro stack position hposition
  obtain ⟨position', hposition', hfirst⟩ := hstep stack position hposition
  obtain ⟨behind, hreaches, hbehind⟩ := h stack position' hposition'
  exact ⟨behind, .head hfirst hreaches, hbehind⟩

theorem step_error {reason : Reason} {frame : Frame} (hframe : frame ≠ .around .level)
    (stack : List Frame) (position depth : Nat) :
    reader.step ⟨.answer (.error reason), frame :: stack, position, depth⟩ =
      .ok ⟨.answer (.error reason), stack, position, depth⟩ := by
  cases frame with
  | around enclosure =>
    cases enclosure with
    | level => exact absurd rfl hframe
    | group | negation => rfl
  | _ => rfl

/-- A frame waits for an answer, and goes on with it. -/
theorem Answers.bind (frame : Frame) (hframe : frame ≠ .around .level)
    {next : Expr × List Token → Except Reason (Expr × List Token)}
    (h : Answers reader control [] depth ts result)
    (hnext : ∀ e rest, result = .ok (e, rest) →
      Answers reader (.answer (.ok e)) [frame] depth rest (next (e, rest))) :
    Answers reader control [frame] depth ts (result >>= next) := by
  intro stack position hposition
  obtain ⟨between, hreaches, hbetween⟩ := h (frame :: stack) position hposition
  cases result with
  | error reason =>
    refine ⟨between, hreaches.tail (step_error hframe stack between depth), fun e rest h => ?_⟩
    cases h
  | ok parsed =>
    obtain ⟨e, rest⟩ := parsed
    obtain ⟨behind, hrest, hbehind⟩ := hnext e rest rfl stack between (hbetween e rest rfl)
    exact ⟨behind, hreaches.trans hrest, hbehind⟩

theorem peek_of_drop {position : Nat} (h : reader.tokens.drop position = ts) :
    reader.peek position = ts.head? := by
  rw [peek_eq, h]

theorem sees_of_drop {position : Nat} (h : reader.tokens.drop position = ts) (keyword : String) :
    reader.sees keyword position = startsWith keyword ts := by
  rw [sees, peek_of_drop h, startsWith]

theorem drop_succ {position : Nat} {token : Token}
    (h : reader.tokens.drop position = token :: ts) : reader.tokens.drop (position + 1) = ts := by
  rw [← List.drop_drop, h]
  rfl

/-- A level is taken back with the answer. -/
theorem Answers.enter {routine : Routine}
    (h : Answers reader (.call routine) [] (depth + 1) ts result) :
    Answers reader (.enter routine) [] depth ts (nested reader.stop depth ts result) := by
  intro stack position hposition
  unfold nested
  split_ifs with hdepth
  · refine ⟨position, .single ?_, by simp⟩
    show Except.ok (reader.onEnter routine stack position depth) = _
    rw [onEnter, if_pos hdepth, peek_of_drop hposition]
    rfl
  · obtain ⟨behind, hreaches, hbehind⟩ := h (.around .level :: stack) position hposition
    refine ⟨behind, .head ?_ (hreaches.tail ?_), hbehind⟩
    · show Except.ok (reader.onEnter routine stack position depth) = _
      rw [onEnter, if_neg hdepth]
      rfl
    · cases result <;> rfl

end Answers

/-! ## Calls -/

/-- What a call gives. -/
def call (reader : Reader) (depth : Nat) (ts : List Token) :
    Routine → Except Reason (Expr × List Token)
  | .chain .or => outcome (readOr reader.stop depth ts)
  | .chain .and => outcome (readAnd reader.stop depth ts)
  | .unary => outcome (readUnary reader.stop depth ts)
  | .primary => outcome (readPrimary reader.stop depth ts)
  | .list => outcome (readList ts)

/-- What a chain comes to, some of whose operands have been read. -/
def chained (reader : Reader) (chain : Chain) (depth : Nat) (done : List Expr) (ts : List Token) :
    Except Reason (Expr × List Token) :=
  let others :=
    match chain with
    | .or => outcomeTail (readOrTail reader.stop depth ts)
    | .and => outcomeTail (readAndTail reader.stop depth ts)
  others.map fun others => (chain.combine (done ++ others.1), others.2)

/-- What is read by a list, some of whose tags have been read. -/
def items (done : List String) (ts : List Token) : Except Reason (Expr × List Token) :=
  (outcome (readTags ts)).map fun tags => (Expr.chain .or ((done ++ tags.1).map .tag), tags.2)

/-- What comes next, as the readers of tokens give it. -/
def answer (reader : Reader) (s : State) : Except Reason (Expr × List Token) :=
  let ts := reader.tokens.drop s.position
  match s.control with
  | .call routine => reader.call s.depth ts routine
  | .enter routine => nested reader.stop s.depth ts (reader.call (s.depth + 1) ts routine)
  | .items done => items done ts
  | .answer result => result.map fun e => (e, ts)

section Lists

variable {reader : Reader} {depth : Nat} {ts : List Token}

/-- One tag after the other, with what follows it. -/
theorem answers_items (done : List String) :
    Answers reader (.items done) [] depth ts (items done ts) := by
  unfold items
  fun_induction readTags ts generalizing done with
  | case1 =>
    refine .of_step (fun stack position hposition => ⟨position, hposition, ?_⟩) (answers_error _)
    show Except.ok (reader.onItems done stack position depth) = _
    rw [onItems, peek_of_drop hposition]
    rfl
  | case2 token rest htag =>
    refine .of_step (fun stack position hposition => ⟨position, hposition, ?_⟩) (answers_error _)
    show Except.ok (reader.onItems done stack position depth) = _
    simp only [onItems, peek_of_drop hposition, List.head?_cons, Option.bind_some, htag]
    rfl
  | case3 token tag htag comma rest ih =>
    have hrest := ih (done ++ [tag])
    cases hothers : readTags rest
    all_goals
      rw [hothers] at hrest
      refine .of_step (fun stack position hposition =>
        ⟨position + 2, drop_succ (drop_succ hposition), ?_⟩)
        (by simpa [outcome, Except.map] using hrest)
      show Except.ok (reader.onItems done stack position depth) = _
      simp only [onItems, peek_of_drop hposition, peek_of_drop (drop_succ hposition),
        List.head?_cons, Option.bind_some, htag]
      rfl
  | case4 token tag htag closing rest =>
    refine .of_step (fun stack position hposition =>
      ⟨position + 2, drop_succ (drop_succ hposition), ?_⟩) (answers_ok _)
    show Except.ok (reader.onItems done stack position depth) = _
    simp only [onItems, peek_of_drop hposition, peek_of_drop (drop_succ hposition),
      List.head?_cons, Option.bind_some, htag]
    rfl
  | case5 token tag htag rest hcomma hclosing =>
    refine .of_step (fun stack position hposition => ⟨position + 1, drop_succ hposition, ?_⟩)
      (answers_error _)
    show Except.ok (reader.onItems done stack position depth) = _
    simp only [onItems, peek_of_drop hposition, peek_of_drop (drop_succ hposition),
      List.head?_cons, Option.bind_some, htag]
    split
    · rename_i hhead
      exact absurd rfl (forall_head?_ne hcomma _ hhead)
    · rename_i hhead
      exact absurd rfl (forall_head?_ne hclosing _ hhead)
    · rfl

theorem answers_list : Answers reader (.call .list) [] depth ts (outcome (readList ts)) := by
  unfold readList
  split
  · rename_i opening rest
    split
    · refine .of_step (fun stack position hposition => ⟨position + 1, drop_succ hposition, ?_⟩)
        (answers_error _)
      show Except.ok (reader.onList stack position depth) = _
      rw [onList, peek_of_drop hposition, peek_of_drop (drop_succ hposition)]
      rfl
    · rename_i hrest
      refine .of_step (fun stack position hposition => ⟨position + 1, drop_succ hposition, ?_⟩)
        (?_ : Answers reader (.items []) [] depth rest _)
      · show Except.ok (reader.onList stack position depth) = _
        rw [onList, peek_of_drop hposition, peek_of_drop (drop_succ hposition)]
        simp only [List.head?_cons]
        split
        · rename_i hhead
          exact absurd rfl (forall_head?_ne hrest _ hhead)
        · rfl
      · have hitems : Answers reader (.items []) [] depth rest (items [] rest) := answers_items []
        unfold items at hitems
        cases htags : readTags rest
        all_goals
          rw [htags] at hitems
          exact hitems
  · rename_i hopen
    refine .of_step (fun stack position hposition => ⟨position, hposition, ?_⟩) (answers_error _)
    show Except.ok (reader.onList stack position depth) = _
    rw [onList, peek_of_drop hposition]
    split
    · rename_i hhead
      exact absurd rfl (forall_head?_ne hopen _ hhead)
    · rfl

end Lists

section Chains

variable {reader : Reader} {depth : Nat} {ts : List Token} {chain : Chain}

theorem call_chain : reader.call depth ts (.chain chain) =
    reader.call depth ts chain.operand >>= fun first =>
      reader.chained chain depth [first.1] first.2 := by
  cases chain with
  | or =>
    show outcome (readOr reader.stop depth ts) = outcome (readAnd reader.stop depth ts) >>= _
    rw [readOr]
    cases readAnd reader.stop depth ts with
    | error reason => rfl
    | ok first =>
      show outcome (readOrTail reader.stop depth first.rest >>= _) =
        (outcomeTail (readOrTail reader.stop depth first.rest)).map _
      cases readOrTail reader.stop depth first.rest <;> rfl
  | and =>
    show outcome (readAnd reader.stop depth ts) = outcome (readUnary reader.stop depth ts) >>= _
    rw [readAnd]
    cases readUnary reader.stop depth ts with
    | error reason => rfl
    | ok first =>
      show outcome (readAndTail reader.stop depth first.rest >>= _) =
        (outcomeTail (readAndTail reader.stop depth first.rest)).map _
      cases readAndTail reader.stop depth first.rest <;> rfl

theorem chained_of_startsWith (reader : Reader) (depth : Nat) (done : List Expr)
    (h : startsWith chain.keyword ts = true) :
    ∃ token others, ts = token :: others ∧ reader.chained chain depth done ts =
      reader.call depth others chain.operand >>= fun next =>
        reader.chained chain depth (done ++ [next.1]) next.2 := by
  obtain ⟨w, others, rfl⟩ := exists_keyword_of_startsWith h
  refine ⟨w.token, others, rfl, ?_⟩
  unfold chained
  simp only [List.append_assoc, List.singleton_append]
  cases chain with
  | or =>
    have hw : w.token.symbol.isKeyword "or" = true := w.isKeyword
    show _ = outcome (readAnd reader.stop depth others) >>= _
    simp only
    rw [readOrTail, if_pos hw]
    cases readAnd reader.stop depth others with
    | error reason => rfl
    | ok next =>
      show (outcomeTail (readOrTail reader.stop depth next.rest >>= _)).map _ =
        (outcomeTail (readOrTail reader.stop depth next.rest)).map _
      cases readOrTail reader.stop depth next.rest <;> rfl
  | and =>
    have hw : w.token.symbol.isKeyword "and" = true := w.isKeyword
    show _ = outcome (readUnary reader.stop depth others) >>= _
    simp only
    rw [readAndTail, if_pos hw]
    cases readUnary reader.stop depth others with
    | error reason => rfl
    | ok next =>
      show (outcomeTail (readAndTail reader.stop depth next.rest >>= _)).map _ =
        (outcomeTail (readAndTail reader.stop depth next.rest)).map _
      cases readAndTail reader.stop depth next.rest <;> rfl

/-- What is called takes a token. -/
theorem length_lt_of_call {routine : Routine} {e : Expr} {rest : List Token}
    (h : reader.call depth ts routine = .ok (e, rest)) : rest.length < ts.length := by
  cases routine with
  | chain chain => cases chain <;> exact length_lt_of_outcome h
  | unary | primary | list => exact length_lt_of_outcome h

theorem chained_of_not_startsWith {done : List Expr} (h : startsWith chain.keyword ts = false) :
    reader.chained chain depth done ts = .ok (chain.combine done, ts) := by
  unfold chained
  cases chain with
  | or =>
    simp only [readOrTail_of_not_startsWith h, outcomeTail, Except.map, List.append_nil]
  | and =>
    simp only [readAndTail_of_not_startsWith h, outcomeTail, Except.map, List.append_nil]

end Chains

/-- How calls are answered, and chains of which an operand has been read. -/
structure Answering (reader : Reader) (ts : List Token) : Prop where
  call : ∀ routine depth,
    Answers reader (.call routine) [] depth ts (reader.call depth ts routine)
  chained : ∀ chain depth done e, Answers reader (.answer (.ok e)) [.chain chain done] depth ts
    (reader.chained chain depth (done ++ [e]) ts)

/-- A group that is not closed stays open when the error is found, and hands it over. -/
theorem answers_closeGroup {reader : Reader} {depth : Nat} {ts : List Token} (e : Expr) :
    Answers reader (.answer (.ok e)) [.around .group] depth ts (closeGroup e ts) := by
  unfold closeGroup
  split
  · refine .of_step (fun stack position hposition => ⟨position + 1, drop_succ hposition, ?_⟩)
      (answers_ok e)
    show reader.onAnswer e stack position depth (.around .group) = _
    rw [onAnswer, peek_of_drop hposition]
    rfl
  · rename_i hclose
    have herror : Answers reader (.answer (.error (.expected .closeGroup ts.head?)))
        [.around .group] depth ts (.error (.expected .closeGroup ts.head?)) :=
      .of_step (fun stack position hposition => ⟨position, hposition, rfl⟩) (answers_error _)
    refine .of_step (fun stack position hposition => ⟨position, hposition, ?_⟩) herror
    show reader.onAnswer e stack position depth (.around .group) = _
    rw [onAnswer, peek_of_drop hposition]
    split
    · rename_i hhead
      exact absurd rfl (forall_head?_ne hclose _ hhead)
    · show Except.ok (State.fail (.expected .closeGroup (reader.peek position)) _ _ _) = _
      rw [peek_of_drop hposition]
      rfl

/-- What does not begin with a parenthesis is a tag, or nothing that is expected. -/
theorem answers_tag {reader : Reader} {depth : Nat} {ts : List Token}
    (hopen : ∀ token ∈ ts.head?, token.symbol ≠ .openGroup) :
    Answers reader (.call .primary) [] depth ts (outcome (readPrimary reader.stop depth ts)) := by
  cases htag : ts.head?.bind (·.symbol.tag?) with
  | none =>
    have hnone : ∀ token ∈ ts.head?, token.symbol.tag? = none := by
      intro token htoken
      rw [Option.mem_def.1 htoken, Option.bind_some] at htag
      exact htag
    rw [readPrimary_of_not_tag fun token htoken => ⟨hopen token htoken, hnone token htoken⟩]
    refine .of_step (fun stack position hposition => ⟨position, hposition, ?_⟩) (answers_error _)
    show Except.ok (reader.onPrimary stack position depth) = _
    rw [onPrimary, peek_of_drop hposition]
    split
    · rename_i hhead
      exact absurd rfl (hopen _ hhead)
    · rw [htag]
      rfl
  | some tag =>
    obtain ⟨token, htoken, hname⟩ := Option.bind_eq_some_iff.1 htag
    obtain ⟨rest, rfl⟩ := List.head?_eq_some_iff.1 htoken
    have hreads : Reads (readPrimary reader.stop depth (token :: rest)) (.tag tag) rest :=
      reads_tag ⟨token, tag, hname⟩
    obtain ⟨_, hread⟩ := hreads
    rw [hread]
    refine .of_step (fun stack position hposition => ⟨position + 1, drop_succ hposition, ?_⟩)
      (answers_ok (.tag tag))
    show Except.ok (reader.onPrimary stack position depth) = _
    rw [onPrimary, peek_of_drop hposition]
    split
    · rename_i hhead
      exact absurd rfl (hopen _ hhead)
    · rw [htag]
      rfl

section Step

variable {reader : Reader} {depth : Nat} {ts : List Token}
  (ih : ∀ fewer : List Token, fewer.length < ts.length → Answering reader fewer)

include ih

theorem answers_group {opening : Sign .openGroup} {rest : List Token}
    (hts : ts = opening.token :: rest) :
    Answers reader (.call .primary) [] depth ts (outcome (readPrimary reader.stop depth ts)) := by
  subst hts
  by_cases hclose : ∀ next ∈ rest.head?, next.symbol ≠ .closeGroup
  · rw [outcome_readPrimary_group opening hclose]
    refine .of_step (fun stack position hposition => ⟨position + 1, drop_succ hposition, ?_⟩)
      (.bind (.around .group) (by simp)
        (.enter ((ih rest (Nat.lt_succ_self _)).call (.chain .or) (depth + 1)))
        fun inner between _ => answers_closeGroup inner)
    show Except.ok (reader.onPrimary stack position depth) = _
    rw [onPrimary, peek_of_drop hposition, peek_of_drop (drop_succ hposition)]
    simp only [List.head?_cons, Sign.token]
    split
    · rename_i hhead
      exact absurd rfl (hclose _ hhead)
    · rfl
  · push Not at hclose
    obtain ⟨⟨closing, symbol⟩, hhead, rfl⟩ := hclose
    obtain ⟨others, rfl⟩ := List.head?_eq_some_iff.1 hhead
    rw [readPrimary.eq_def]
    refine .of_step (fun stack position hposition => ⟨position + 1, drop_succ hposition, ?_⟩)
      (answers_error (.emptyGroup opening.position))
    show Except.ok (reader.onPrimary stack position depth) = _
    rw [onPrimary, peek_of_drop hposition, peek_of_drop (drop_succ hposition)]
    rfl

theorem answers_primary :
    Answers reader (.call .primary) [] depth ts (outcome (readPrimary reader.stop depth ts)) := by
  by_cases hopen : ∃ (opening : Sign .openGroup) (rest : List Token), ts = opening.token :: rest
  · obtain ⟨opening, rest, hts⟩ := hopen
    exact answers_group ih hts
  · exact answers_tag (forall_head?_ne fun position rest hts => hopen ⟨⟨position⟩, rest, hts⟩)

theorem answers_not (hnot : startsWith "not" ts = true) : Answers reader (.call .unary) [] depth ts
    (outcome (readUnary reader.stop depth ts)) := by
  obtain ⟨w, others, rfl⟩ := exists_keyword_of_startsWith hnot
  rw [outcome_readUnary_not]
  refine .of_step (fun stack position hposition => ⟨position + 1, drop_succ hposition, ?_⟩)
    (.bind (.around .negation) (by simp)
      (.enter ((ih others (Nat.lt_succ_self _)).call .unary (depth + 1))) fun inner rest _ => ?_)
  · show Except.ok (reader.onUnary stack position depth) = _
    rw [onUnary, sees_of_drop hposition, hnot]
    rfl
  · exact (answers_ok _).of_step fun stack position hposition => ⟨position, hposition, rfl⟩

theorem answers_is (hnot : startsWith "not" ts = false) (his : startsWith "is" ts = true) :
    Answers reader (.call .unary) [] depth ts (outcome (readUnary reader.stop depth ts)) := by
  obtain ⟨w, others, rfl⟩ := exists_keyword_of_startsWith his
  cases hnegation : startsWith "not" others with
  | true =>
    obtain ⟨n, others, rfl⟩ := exists_keyword_of_startsWith hnegation
    rw [outcome_readUnary_isNot]
    refine .of_step
      (fun stack position hposition => ⟨position + 2, drop_succ (drop_succ hposition), ?_⟩)
      (.bind (.is true) (by simp) ((ih others (by simp)).call .primary depth)
        fun inner rest _ => ?_)
    · show Except.ok (reader.onUnary stack position depth) = _
      rw [onUnary, sees_of_drop hposition, sees_of_drop hposition, hnot, his,
        sees_of_drop (drop_succ hposition), hnegation]
      rfl
    · exact (answers_ok _).of_step fun stack position hposition => ⟨position, hposition, rfl⟩
  | false =>
    rw [outcome_readUnary_is w hnegation]
    refine .of_step (fun stack position hposition => ⟨position + 1, drop_succ hposition, ?_⟩)
      (.bind (.is false) (by simp) ((ih others (Nat.lt_succ_self _)).call .primary depth)
        fun inner rest _ => ?_)
    · show Except.ok (reader.onUnary stack position depth) = _
      rw [onUnary, sees_of_drop hposition, sees_of_drop hposition, hnot, his,
        sees_of_drop (drop_succ hposition), hnegation]
      rfl
    · exact (answers_ok _).of_step fun stack position hposition => ⟨position, hposition, rfl⟩

/-- An operand with no keyword before it is read in its place, and so is a list. -/
theorem answers_operand (hnot : startsWith "not" ts = false) (his : startsWith "is" ts = false) :
    Answers reader (.call .unary) [] depth ts (outcome (readUnary reader.stop depth ts)) := by
  cases hin : startsWith "in" ts with
  | true =>
    obtain ⟨w, others, rfl⟩ := exists_keyword_of_startsWith hin
    rw [outcome_readUnary_in]
    refine .of_step (fun stack position hposition => ⟨position + 1, drop_succ hposition, ?_⟩)
      answers_list
    show Except.ok (reader.onUnary stack position depth) = _
    rw [onUnary, sees_of_drop hposition, sees_of_drop hposition, sees_of_drop hposition, hnot, his,
      hin]
    rfl
  | false =>
    rw [readUnary_eq_readPrimary hnot his hin]
    refine .of_step (fun stack position hposition => ⟨position, hposition, ?_⟩)
      (answers_primary ih)
    show Except.ok (reader.onUnary stack position depth) = _
    rw [onUnary, sees_of_drop hposition, sees_of_drop hposition, sees_of_drop hposition, hnot, his,
      hin]
    rfl

theorem answers_unary : Answers reader (.call .unary) [] depth ts
    (outcome (readUnary reader.stop depth ts)) := by
  cases hnot : startsWith "not" ts with
  | true => exact answers_not ih hnot
  | false =>
    cases his : startsWith "is" ts with
    | true => exact answers_is ih hnot his
    | false => exact answers_operand ih hnot his

theorem answers_chained (chain : Chain) (done : List Expr) (e : Expr) :
    Answers reader (.answer (.ok e)) [.chain chain done] depth ts
      (reader.chained chain depth (done ++ [e]) ts) := by
  cases hkeyword : startsWith chain.keyword ts with
  | true =>
    obtain ⟨token, others, rfl, hchained⟩ :=
      chained_of_startsWith reader depth (done ++ [e]) hkeyword
    have hothers := ih others (Nat.lt_succ_self _)
    rw [hchained]
    refine .of_step (fun stack position hposition => ⟨position + 1, drop_succ hposition, ?_⟩)
      (.bind (.chain chain (done ++ [e])) (by simp) (hothers.call chain.operand depth)
        fun next rest hnext => ?_)
    · show reader.onAnswer e stack position depth (.chain chain done) = _
      rw [onAnswer, if_pos (by rw [sees_of_drop hposition, hkeyword])]
      rfl
    · have hrest := ih rest (Nat.lt_succ_of_lt (length_lt_of_call hnext))
      exact hrest.chained chain depth (done ++ [e]) next
  | false =>
    rw [chained_of_not_startsWith hkeyword]
    refine (answers_ok _).of_step fun stack position hposition => ⟨position, hposition, ?_⟩
    show reader.onAnswer e stack position depth (.chain chain done) = _
    rw [onAnswer, if_neg (by rw [sees_of_drop hposition, hkeyword]; decide)]
    rfl

theorem answers_chain {chain : Chain} (hoperand : Answers reader (.call chain.operand) [] depth ts
      (reader.call depth ts chain.operand)) :
    Answers reader (.call (.chain chain)) [] depth ts (reader.call depth ts (.chain chain)) := by
  rw [call_chain]
  refine .of_step (fun stack position hposition => ⟨position, hposition, ?_⟩)
    (.bind (.chain chain []) (by simp) hoperand fun first rest hfirst => ?_)
  · rfl
  · exact (ih rest (length_lt_of_call hfirst)).chained chain depth [] first

end Step

/-- Calls are answered: each of them hands over fewer tokens than it has, or the same ones to a call
    below it. -/
theorem answering (reader : Reader) (ts : List Token) : Answering reader ts := by
  induction hn : ts.length using Nat.strong_induction_on generalizing ts with
  | h n ih =>
    subst hn
    have ih (fewer : List Token) (h : fewer.length < ts.length) : Answering reader fewer :=
      ih fewer.length h fewer rfl
    refine ⟨fun routine depth => ?_, fun chain depth done e => answers_chained ih chain done e⟩
    cases routine with
    | chain chain =>
      cases chain with
      | or => exact answers_chain ih (answers_chain ih (answers_unary ih))
      | and => exact answers_chain ih (answers_unary ih)
    | unary => exact answers_unary ih
    | primary => exact answers_primary ih
    | list => exact answers_list

/-- Whatever is next is answered. -/
theorem returns_answer (reader : Reader) (s : State) :
    reader.Returns s s.stack (reader.answer s) := by
  obtain ⟨control, stack, position, depth⟩ := s
  have hanswers : Answers reader control [] depth (reader.tokens.drop position)
      (reader.answer ⟨control, stack, position, depth⟩) := by
    cases control with
    | call routine => exact (answering reader _).call routine depth
    | enter routine => exact .enter ((answering reader _).call routine (depth + 1))
    | items done => exact answers_items done
    | answer result =>
      cases result with
      | ok e => exact answers_ok e
      | error reason => exact answers_error reason
  exact hanswers stack position rfl

/-! ## Queries -/

/-- What is promised of every state on the way. -/
structure IsSafe (reader : Reader) (s : State) : Prop where
  /-- The cursor is at one of the tokens or at their end. -/
  position_le : s.position ≤ reader.tokens.length
  step_ne_underflow : reader.step s ≠ .error .underflow
  /-- What comes next is answered, with a value or with an error. -/
  returns : reader.Returns s s.stack (reader.answer s)
  /-- When what waits is as before, the level is as before. -/
  depth_eq : ∀ t, reader.Reaches s t → t.stack = s.stack → t.depth = s.depth
  /-- Where a query ends too early no group is open, so that no parenthesis is missing there. -/
  ended : ∀ what, s.control = .answer (.error (.expected what none)) →
    .group ∉ s.around ∧ what ≠ .closeGroup
  /-- Where it is nested too deep something is negated. -/
  negated : ∀ t position, reader.Raises s t (.nestedTooDeep position) → .negation ∈ s.around

theorem IsSound.isSafe {reader : Reader} {s : State} (hs : IsSound reader s) :
    IsSafe reader s where
  position_le := hs.position_le
  step_ne_underflow := hs.step_ne_underflow
  returns := reader.returns_answer s
  depth_eq t ht hstack := by
    have hlevel := (hs.of_reaches ht).depth_eq
    rw [State.around, hstack] at hlevel
    exact hlevel.trans hs.depth_eq.symm
  ended := hs.ended
  negated t position := hs.negation_mem

/-- Whatever is expected in a query is expected by the readers of its tokens. -/
theorem readOr_of_parse {source : String} {ts : List Token} {what : Expected} {found : Option Token}
    (hgroups : checkGroups 0 0 source.toList = .ok ()) (htokens : Tag.tokens source = .ok ts)
    (h : Query.parse source = .error (.expected what found)) :
    readOr source.utf8ByteSize 0 ts = .error (.expected what found) := by
  rw [Query.parse, hgroups, htokens] at h
  simp only [bind, Except.bind, Except.mapError] at h
  split_ifs at h
  · cases h
  · split at h
    · rename_i herror
      cases h
      exact herror
    · split at h <;> cases h

/-- A query whose parentheses are in order and that has tokens is read in finitely many steps, with
    the result that the readers of tokens give. All states on the way are safe, and the end of the query
    is never found instead of a closing parenthesis. -/
theorem run_balanced {source : String} {ts : List Token}
    (hgroups : checkGroups 0 0 source.toList = .ok ()) (htokens : Tag.tokens source = .ok ts) :
    let reader : Reader := ⟨ts, source.utf8ByteSize⟩
    reader.Returns .initial [] (outcome (readOr source.utf8ByteSize 0 ts)) ∧
    (∀ s, reader.Reaches .initial s → reader.IsSafe s) ∧
    Query.parse source ≠ .error (.expected .closeGroup none) := by
  intro reader
  have hinitial : IsSound reader .initial :=
    isSound_initial ((checkGroups_eq_ok_iff htokens 0 0).1 hgroups)
  have hreturns : reader.Returns .initial [] (outcome (readOr source.utf8ByteSize 0 ts)) :=
    reader.returns_answer .initial
  refine ⟨hreturns, fun s hs => (hinitial.of_reaches hs).isSafe, fun hparse => ?_⟩
  have hread := readOr_of_parse hgroups htokens hparse
  obtain ⟨behind, hreaches, -⟩ := hreturns
  have hlast := hinitial.of_reaches hreaches
  rw [hread] at hlast
  exact (hlast.ended .closeGroup rfl).2 rfl

/-- The tokens of `(a) and not`. -/
def groupAndNot : List Token :=
  [⟨0, .openGroup⟩, ⟨1, .word "a"⟩, ⟨2, .closeGroup⟩, ⟨4, .word "and"⟩, ⟨8, .word "not"⟩]

theorem readOr_groupAndNot (stop : Nat) :
    readOr stop 0 groupAndNot = .error (.expected .tag none) := by
  have hgroup : Reads (readUnary stop 0 groupAndNot) (.tag "a")
      [⟨4, .word "and"⟩, ⟨8, .word "not"⟩] :=
    reads_unary stop 0 (.primary (.group ⟨0⟩
      (.one (.one (.primary (.tag ⟨⟨1, .word "a"⟩, "a", rfl⟩)))) ⟨2⟩)) _ (by decide)
  have hnot : readUnary stop 0 [⟨8, .word "not"⟩] = .error (.expected .tag none) := by
    refine (readUnary_not ⟨⟨8, .word "not"⟩, rfl⟩ (by decide)).trans (map_eq_error_iff.2 ?_)
    refine (readUnary_of_not_startsWith (by decide)).trans ?_
    exact readPrimary_of_not_tag (by simp)
  refine readOr_eq_error_iff.2 (.inl (readAnd_eq_error_iff.2 (.inr ?_)))
  exact ⟨.tag "a", _, ⟨⟨4, .word "and"⟩, rfl⟩, hgroup, readAnd_eq_error_iff.2 (.inl hnot)⟩

/-- What ends too early here has gone into a group and has left it. -/
theorem run_balanced_groupAndNot :
    checkGroups 0 0 "(a) and not".toList = .ok () ∧ Tag.tokens "(a) and not" = .ok groupAndNot ∧
    ∃ s, Reaches ⟨groupAndNot, "(a) and not".utf8ByteSize⟩ .initial s ∧
      s.control = .answer (.error (.expected .tag none)) ∧
      s.position ≤ groupAndNot.length ∧ s.depth = 0 ∧ .group ∉ s.around := by
  have hgroups : checkGroups 0 0 "(a) and not".toList = .ok () := by decide
  have htokens : Tag.tokens "(a) and not" = .ok groupAndNot := by cbv
  obtain ⟨⟨behind, hreaches, -⟩, hstates, -⟩ := run_balanced hgroups htokens
  rw [readOr_groupAndNot] at hreaches
  have hsafe := hstates _ hreaches
  exact ⟨hgroups, htokens, _, hreaches, rfl, hsafe.position_le, rfl, (hsafe.ended .tag rfl).1⟩

end Reader

end ScenarioTree.Tag
