import ScenarioTree.Proofs.Tag.Failure

/-!
# A reader at work

Reading as a machine that goes step by step. The tokens stand in a row, and a cursor says which one is
next. A counter says how many groups and negations in front of operands the reader has gone into. A
call that waits for the answer of another one is kept as a frame, and so are the operands that it has
read. An error is handed from frame to frame, and every level that has been counted is taken back on
the way. Both counters are numbers that must not go below zero.

Results:

* `change_of_step`: what a step does to the cursor, to the level and to what stands around.
-/

namespace ScenarioTree.Tag

/-- The tokens that are read, and the position at which the query ends. -/
structure Reader where
  tokens : List Token
  stop : Nat

namespace Reader

/-! ## The machine -/

/-- The chains of operands. -/
inductive Chain where
  | or
  | and

/-- What is read by a call. -/
inductive Routine where
  | chain (chain : Chain)
  | unary
  | primary
  | list

/-- What stands around the cursor: a group whose parenthesis has been read and that has not been
    closed, a negation in front of what is read, or a level that has been counted for one of them. -/
inductive Enclosure where
  | group
  | negation
  | level
  deriving DecidableEq

/-- The keyword between the operands of a chain. -/
def Chain.keyword : Chain → String
  | .or => "or"
  | .and => "and"

/-- What is made of the operands. -/
def Chain.combine : Chain → List Expr → Expr
  | .or => Expr.chain .or
  | .and => Expr.chain .and

/-- How an operand is read. -/
def Chain.operand : Chain → Routine
  | .or => .chain .and
  | .and => .unary

/-- What waits for an answer: a chain with the operands that have been read, an operand behind `is`,
    negated or not, or what stands around. -/
inductive Frame where
  | chain (chain : Chain) (done : List Expr)
  | is (negated : Bool)
  | around (enclosure : Enclosure)

/-- What is to be done next: something is to be read, here or one level deeper, a list is to be read
    on, or there is an answer for what waits. -/
inductive Control where
  | call (routine : Routine)
  | enter (routine : Routine)
  | items (done : List String)
  | answer (result : Except Reason Expr)

/-- The frames begin with the one that waits for the next answer. -/
structure State where
  control : Control
  stack : List Frame
  position : Nat
  depth : Nat

/-- Why there is no next step: all is done, or a counter would go below zero. -/
inductive Halt where
  | done
  | underflow

/-- A counter goes down. -/
def decrement (n : Nat) : Except Halt Nat := if n = 0 then .error .underflow else .ok (n - 1)

/-- A reader starts at the first token. -/
def State.initial : State := ⟨.call (.chain .or), [], 0, 0⟩

/-- An error here. -/
def State.fail (reason : Reason) (stack : List Frame) (position depth : Nat) : State :=
  ⟨.answer (.error reason), stack, position, depth⟩

/-- The token at a place. -/
def peek (reader : Reader) (position : Nat) : Option Token := reader.tokens[position]?

/-- Whether the token at a place is the given keyword. -/
def sees (reader : Reader) (keyword : String) (position : Nat) : Bool :=
  (reader.peek position).any (·.symbol.isKeyword keyword)

/-- Reads an operand with the keyword before it, if there is one. -/
def onUnary (reader : Reader) (stack : List Frame) (position depth : Nat) : State :=
  if reader.sees "not" position then
    ⟨.enter .unary, .around .negation :: stack, position + 1, depth⟩
  else if reader.sees "is" position then
    if reader.sees "not" (position + 1) then ⟨.call .primary, .is true :: stack, position + 2, depth⟩
    else ⟨.call .primary, .is false :: stack, position + 1, depth⟩
  else if reader.sees "in" position then ⟨.call .list, stack, position + 1, depth⟩
  else ⟨.call .primary, stack, position, depth⟩

/-- Reads a group or a tag. -/
def onPrimary (reader : Reader) (stack : List Frame) (position depth : Nat) : State :=
  match reader.peek position with
  | some ⟨opening, .openGroup⟩ =>
    match reader.peek (position + 1) with
    | some ⟨_, .closeGroup⟩ => .fail (.emptyGroup opening) stack (position + 1) depth
    | _ => ⟨.enter (.chain .or), .around .group :: stack, position + 1, depth⟩
  | found =>
    match found.bind (·.symbol.tag?) with
    | some tag => ⟨.answer (.ok (.tag tag)), stack, position + 1, depth⟩
    | none => .fail (.expected .tag found) stack position depth

/-- Reads a list of tags. -/
def onList (reader : Reader) (stack : List Frame) (position depth : Nat) : State :=
  match reader.peek position with
  | some ⟨opening, .openList⟩ =>
    match reader.peek (position + 1) with
    | some ⟨_, .closeList⟩ => .fail (.emptyList opening) stack (position + 1) depth
    | _ => ⟨.items [], stack, position + 1, depth⟩
  | found => .fail (.expected .openList found) stack position depth

/-- Reads the next tag of a list, and what follows it. -/
def onItems (reader : Reader) (done : List String) (stack : List Frame) (position depth : Nat) :
    State :=
  match (reader.peek position).bind (·.symbol.tag?) with
  | none => .fail (.expected .tag (reader.peek position)) stack position depth
  | some tag =>
    match reader.peek (position + 1) with
    | some ⟨_, .comma⟩ => ⟨.items (done ++ [tag]), stack, position + 2, depth⟩
    | some ⟨_, .closeList⟩ =>
      ⟨.answer (.ok (Expr.chain .or ((done ++ [tag]).map .tag))), stack, position + 2, depth⟩
    | found => .fail (.expected .commaOrCloseList found) stack (position + 1) depth

/-- Goes one level deeper, if there is room. -/
def onEnter (reader : Reader) (routine : Routine) (stack : List Frame) (position depth : Nat) :
    State :=
  if depth = maxNesting then
    .fail (.nestedTooDeep ((reader.peek position).elim reader.stop Token.position)) stack position
      depth
  else ⟨.call routine, .around .level :: stack, position, depth + 1⟩

/-- Gives an expression to the frame that waits for it. -/
def onAnswer (reader : Reader) (e : Expr) (stack : List Frame) (position depth : Nat) :
    Frame → Except Halt State
  | .chain chain done =>
    if reader.sees chain.keyword position then
      .ok ⟨.call chain.operand, .chain chain (done ++ [e]) :: stack, position + 1, depth⟩
    else .ok ⟨.answer (.ok (chain.combine (done ++ [e]))), stack, position, depth⟩
  | .is negated => .ok ⟨.answer (.ok (if negated then .not e else e)), stack, position, depth⟩
  | .around .negation => .ok ⟨.answer (.ok (.not e)), stack, position, depth⟩
  | .around .group =>
    -- The cursor goes on in any case. It goes back if the group is not closed there.
    match reader.peek position with
    | some ⟨_, .closeGroup⟩ => .ok ⟨.answer (.ok e), stack, position + 1, depth⟩
    | _ => do
      let position ← decrement (position + 1)
      return .fail (.expected .closeGroup (reader.peek position)) (.around .group :: stack) position
        depth
  | .around .level => do return ⟨.answer (.ok e), stack, position, ← decrement depth⟩

/-- Hands an error over from a frame to the next one. -/
def onError (reason : Reason) (stack : List Frame) (position depth : Nat) :
    Frame → Except Halt State
  | .around .level => do return .fail reason stack position (← decrement depth)
  | _ => .ok (.fail reason stack position depth)

/-- One step. An answer for which nothing waits is the last one. -/
def step (reader : Reader) : State → Except Halt State
  | ⟨.call (.chain chain), stack, position, depth⟩ =>
    .ok ⟨.call chain.operand, .chain chain [] :: stack, position, depth⟩
  | ⟨.call .unary, stack, position, depth⟩ => .ok (reader.onUnary stack position depth)
  | ⟨.call .primary, stack, position, depth⟩ => .ok (reader.onPrimary stack position depth)
  | ⟨.call .list, stack, position, depth⟩ => .ok (reader.onList stack position depth)
  | ⟨.items done, stack, position, depth⟩ => .ok (reader.onItems done stack position depth)
  | ⟨.enter routine, stack, position, depth⟩ => .ok (reader.onEnter routine stack position depth)
  | ⟨.answer _, [], _, _⟩ => .error .done
  | ⟨.answer (.ok e), frame :: stack, position, depth⟩ =>
    reader.onAnswer e stack position depth frame
  | ⟨.answer (.error reason), frame :: stack, position, depth⟩ =>
    onError reason stack position depth frame

/-- The machine gets from one state to another one. -/
def Reaches (reader : Reader) : State → State → Prop :=
  Relation.ReflTransGen fun s t => reader.step s = .ok t

/-- A step finds an error, and does not just hand one over. -/
def Raises (reader : Reader) (s t : State) (reason : Reason) : Prop :=
  reader.step s = .ok t ∧ t.control = .answer (.error reason) ∧
    ∀ other, s.control ≠ .answer (.error other)

/-- What a state is about: going on, going one level deeper, or handing over an error. -/
inductive Phase where
  | going
  | entering
  | failed
  deriving DecidableEq

def State.phase (s : State) : Phase :=
  match s.control with
  | .call _ => .going
  | .enter _ => .entering
  | .items _ => .going
  | .answer (.ok _) => .going
  | .answer (.error _) => .failed

def Frame.enclosure? : Frame → Option Enclosure
  | .around enclosure => some enclosure
  | _ => none

/-- What stands around the cursor, the innermost first. -/
def State.around (s : State) : List Enclosure := s.stack.filterMap Frame.enclosure?

/-! ## What a step does -/

/-- The tokens between two places of the cursor. -/
def Takes (reader : Reader) (position : Nat) (taken : List Token) (behind : Nat) : Prop :=
  behind = position + taken.length ∧
    reader.tokens.drop position = taken ++ reader.tokens.drop behind

/-- No parenthesis is among the tokens. -/
def IsFlat (ts : List Token) : Prop :=
  ∀ token ∈ ts, token.symbol ≠ .openGroup ∧ token.symbol ≠ .closeGroup

/-- What a step does to the cursor, to the counter and to what stands around. -/
inductive Change (reader : Reader) (s t : State) : Prop where
  /-- Reading goes on in the same place of the nesting. -/
  | within (taken : List Token) (htaken : reader.Takes s.position taken t.position)
    (hflat : IsFlat taken) (haround : t.around = s.around) (hdepth : t.depth = s.depth)
    (hs : s.phase = .going) (ht : t.phase = .going)
  /-- A group is opened. -/
  | opened (opening : Nat)
    (htaken : reader.Takes s.position [⟨opening, .openGroup⟩] t.position)
    (haround : t.around = .group :: s.around) (hdepth : t.depth = s.depth)
    (hs : s.phase = .going) (ht : t.phase = .entering)
  /-- A group is closed. -/
  | closed (closing : Nat)
    (htaken : reader.Takes s.position [⟨closing, .closeGroup⟩] t.position)
    (haround : s.around = .group :: t.around) (hdepth : t.depth = s.depth)
    (hs : s.phase = .going) (ht : t.phase = .going)
  /-- A negation stands in front. -/
  | negated (token : Token) (htaken : reader.Takes s.position [token] t.position)
    (hflat : IsFlat [token]) (haround : t.around = .negation :: s.around)
    (hdepth : t.depth = s.depth) (hs : s.phase = .going) (ht : t.phase = .entering)
  /-- What is negated has been read. -/
  | affirmed (hposition : t.position = s.position) (haround : s.around = .negation :: t.around)
    (hdepth : t.depth = s.depth) (hs : s.phase = .going) (ht : t.phase = .going)
  /-- A level is counted. -/
  | entered (hposition : t.position = s.position) (haround : t.around = .level :: s.around)
    (hdepth : t.depth = s.depth + 1) (hs : s.phase = .entering) (ht : t.phase = .going)
  /-- There is no room for a level. -/
  | refused (position : Nat) (hposition : t.position = s.position) (haround : t.around = s.around)
    (hdepth : t.depth = s.depth) (hs : s.phase = .entering) (hdeep : s.depth = maxNesting)
    (hcontrol : t.control = .answer (.error (.nestedTooDeep position)))
  /-- A level is taken back. -/
  | left (hposition : t.position = s.position) (haround : s.around = .level :: t.around)
    (hdepth : s.depth = t.depth + 1) (hcontrol : t.control = s.control)
    (hs : s.phase = .going ∨ s.phase = .failed)
  /-- What is found is not what is expected. -/
  | missed (what : Expected) (found : Option Token)
    (htaken : ∃ taken, reader.Takes s.position taken t.position)
    (haround : t.around = s.around) (hdepth : t.depth = s.depth) (hs : s.phase = .going)
    (hcontrol : t.control = .answer (.error (.expected what found)))
    (hend : found = none → IsFlat (reader.tokens.drop s.position))
    (hclose : what = .closeGroup → .group ∈ s.around)
  /-- A group or a list holds nothing. -/
  | emptied (reason : Reason) (htaken : ∃ taken, reader.Takes s.position taken t.position)
    (haround : t.around = s.around) (hdepth : t.depth = s.depth) (hs : s.phase = .going)
    (hcontrol : t.control = .answer (.error reason))
    (hreason : ∃ position, reason = .emptyGroup position ∨ reason = .emptyList position)
  /-- An error is handed over. -/
  | passed (hposition : t.position = s.position)
    (haround : s.around = t.around ∨ ∃ e, e ≠ .level ∧ s.around = e :: t.around)
    (hdepth : t.depth = s.depth) (hcontrol : t.control = s.control) (hs : s.phase = .failed)

section Tokens

variable {reader : Reader} {position : Nat} {token : Token}

theorem peek_eq (reader : Reader) (position : Nat) :
    reader.peek position = (reader.tokens.drop position).head? := List.head?_drop.symm

theorem takes_nil (reader : Reader) (position : Nat) : reader.Takes position [] position := ⟨rfl, rfl⟩

theorem takes_of_peek (h : reader.peek position = some token) :
    reader.Takes position [token] (position + 1) := by
  refine ⟨rfl, ?_⟩
  rw [List.drop_eq_getElem?_toList_append, show reader.tokens[position]? = some token from h]
  rfl

theorem takes_of_peek_of_peek {next : Token} (h : reader.peek position = some token)
    (hnext : reader.peek (position + 1) = some next) :
    reader.Takes position [token, next] (position + 2) := by
  refine ⟨rfl, ?_⟩
  rw [(takes_of_peek h).2, (takes_of_peek hnext).2]
  rfl

theorem drop_eq_nil_of_peek (h : reader.peek position = none) :
    reader.tokens.drop position = [] := by
  rw [peek_eq, List.head?_eq_none_iff] at h
  exact h

theorem Takes.le {taken : List Token} {behind : Nat} (h : reader.Takes position taken behind)
    (hposition : position ≤ reader.tokens.length) : behind ≤ reader.tokens.length := by
  obtain ⟨rfl, hdrop⟩ := h
  have hlength := congrArg List.length hdrop
  rw [List.length_drop, List.length_append, List.length_drop] at hlength
  omega

theorem exists_of_sees {keyword : String} (h : reader.sees keyword position = true) :
    ∃ token, reader.peek position = some token ∧ token.symbol.isKeyword keyword = true := by
  unfold sees at h
  cases htoken : reader.peek position with
  | none =>
    rw [htoken] at h
    cases h
  | some token =>
    rw [htoken] at h
    exact ⟨token, rfl, h⟩

theorem isFlat_nil : IsFlat [] := fun _ h => absurd h List.not_mem_nil

theorem isFlat_cons_iff {ts : List Token} : IsFlat (token :: ts) ↔
    (token.symbol ≠ .openGroup ∧ token.symbol ≠ .closeGroup) ∧ IsFlat ts :=
  List.forall_mem_cons

theorem isFlat_of_isKeyword {keyword : String} (h : token.symbol.isKeyword keyword = true) :
    IsFlat [token] := by
  refine isFlat_cons_iff.2 ⟨⟨fun hsymbol => ?_, fun hsymbol => ?_⟩, isFlat_nil⟩
  all_goals
    rw [hsymbol] at h
    cases h

theorem isFlat_of_tag {tag : String} (h : token.symbol.tag? = some tag) : IsFlat [token] := by
  refine isFlat_cons_iff.2 ⟨⟨fun hsymbol => ?_, fun hsymbol => ?_⟩, isFlat_nil⟩
  all_goals
    rw [hsymbol] at h
    cases h

theorem isFlat_of_eq {symbol : Symbol} (hopen : symbol ≠ .openGroup) (hclose : symbol ≠ .closeGroup) :
    IsFlat [⟨position, symbol⟩] := isFlat_cons_iff.2 ⟨⟨hopen, hclose⟩, isFlat_nil⟩

end Tokens

section Change

variable {reader : Reader} {stack : List Frame} {position depth : Nat}

theorem State.phase_of_error {s : State} {reason : Reason}
    (h : s.control = .answer (.error reason)) : s.phase = .failed := by
  rw [phase, h]

/-- What is found is not what is expected. At the end no parenthesis is left. -/
theorem change_unexpected {control : Control} {what : Expected}
    (hs : State.phase ⟨control, stack, position, depth⟩ = .going)
    (hclose : what = .closeGroup → .group ∈ State.around ⟨control, stack, position, depth⟩) :
    Change reader ⟨control, stack, position, depth⟩
      (.fail (.expected what (reader.peek position)) stack position depth) := by
  refine .missed what _ ⟨[], takes_nil reader position⟩ rfl rfl hs rfl (fun hnone => ?_) hclose
  rw [drop_eq_nil_of_peek hnone]
  exact isFlat_nil

theorem change_onUnary : Change reader ⟨.call .unary, stack, position, depth⟩
    (reader.onUnary stack position depth) := by
  unfold onUnary
  split_ifs with hnot his hnegation hin
  · obtain ⟨token, htoken, hkeyword⟩ := exists_of_sees hnot
    exact .negated token (takes_of_peek htoken) (isFlat_of_isKeyword hkeyword) rfl rfl rfl rfl
  · obtain ⟨token, htoken, hkeyword⟩ := exists_of_sees his
    obtain ⟨next, hnext, hkeyword'⟩ := exists_of_sees hnegation
    have hflat : IsFlat [token, next] := isFlat_cons_iff.2
      ⟨(isFlat_cons_iff.1 (isFlat_of_isKeyword hkeyword)).1, isFlat_of_isKeyword hkeyword'⟩
    exact .within [token, next] (takes_of_peek_of_peek htoken hnext) hflat rfl rfl rfl rfl
  · obtain ⟨token, htoken, hkeyword⟩ := exists_of_sees his
    exact .within [token] (takes_of_peek htoken) (isFlat_of_isKeyword hkeyword) rfl rfl rfl rfl
  · obtain ⟨token, htoken, hkeyword⟩ := exists_of_sees hin
    exact .within [token] (takes_of_peek htoken) (isFlat_of_isKeyword hkeyword) rfl rfl rfl rfl
  · exact .within [] (takes_nil reader position) isFlat_nil rfl rfl rfl rfl

theorem change_onPrimary : Change reader ⟨.call .primary, stack, position, depth⟩
    (reader.onPrimary stack position depth) := by
  unfold onPrimary
  split
  · rename_i opening hopen
    have htaken := takes_of_peek hopen
    split
    · exact .emptied (.emptyGroup opening) ⟨_, htaken⟩ rfl rfl rfl rfl ⟨opening, .inl rfl⟩
    · exact .opened opening htaken rfl rfl rfl rfl
  · split
    · rename_i tag htag
      obtain ⟨token, htoken, htag⟩ := Option.bind_eq_some_iff.1 htag
      exact .within [token] (takes_of_peek htoken) (isFlat_of_tag htag) rfl rfl rfl rfl
    · exact change_unexpected rfl (by simp)

theorem change_onList : Change reader ⟨.call .list, stack, position, depth⟩
    (reader.onList stack position depth) := by
  unfold onList
  split
  · rename_i opening hopen
    have htaken := takes_of_peek hopen
    split
    · exact .emptied (.emptyList opening) ⟨_, htaken⟩ rfl rfl rfl rfl ⟨opening, .inr rfl⟩
    · exact .within _ htaken (isFlat_of_eq (by decide) (by decide)) rfl rfl rfl rfl
  · exact change_unexpected rfl (by simp)

theorem change_onItems {done : List String} :
    Change reader ⟨.items done, stack, position, depth⟩
      (reader.onItems done stack position depth) := by
  unfold onItems
  split
  · exact change_unexpected rfl (by simp)
  · rename_i tag htag
    obtain ⟨token, htoken, htag⟩ := Option.bind_eq_some_iff.1 htag
    have hflat := isFlat_of_tag htag
    split
    · rename_i comma hcomma
      have hflat' : IsFlat [token, ⟨comma, .comma⟩] := isFlat_cons_iff.2
        ⟨(isFlat_cons_iff.1 hflat).1, isFlat_of_eq (by decide) (by decide)⟩
      exact .within _ (takes_of_peek_of_peek htoken hcomma) hflat' rfl rfl rfl rfl
    · rename_i closing hclosing
      have hflat' : IsFlat [token, ⟨closing, .closeList⟩] := isFlat_cons_iff.2
        ⟨(isFlat_cons_iff.1 hflat).1, isFlat_of_eq (by decide) (by decide)⟩
      exact .within _ (takes_of_peek_of_peek htoken hclosing) hflat' rfl rfl rfl rfl
    · refine .missed _ _ ⟨_, takes_of_peek htoken⟩ rfl rfl rfl rfl (fun hnone => ?_) (by simp)
      rw [(takes_of_peek htoken).2, drop_eq_nil_of_peek hnone]
      exact hflat

theorem change_onEnter {routine : Routine} :
    Change reader ⟨.enter routine, stack, position, depth⟩
      (reader.onEnter routine stack position depth) := by
  unfold onEnter
  split_ifs with hdepth
  · exact .refused _ rfl rfl rfl rfl hdepth rfl
  · exact .entered rfl rfl rfl rfl rfl

theorem decrement_eq_ok_iff {n m : Nat} : decrement n = .ok m ↔ n = m + 1 := by
  unfold decrement
  split_ifs with hzero
  · simp [hzero]
  · simp only [Except.ok.injEq]
    omega

theorem change_onAnswer {e : Expr} {frame : Frame} {t : State}
    (h : reader.onAnswer e stack position depth frame = .ok t) :
    Change reader ⟨.answer (.ok e), frame :: stack, position, depth⟩ t := by
  cases frame with
  | chain chain done =>
    rw [onAnswer] at h
    split_ifs at h with hkeyword
    · cases h
      obtain ⟨token, htoken, hkeyword⟩ := exists_of_sees hkeyword
      exact .within [token] (takes_of_peek htoken) (isFlat_of_isKeyword hkeyword) rfl rfl rfl rfl
    · cases h
      exact .within [] (takes_nil reader position) isFlat_nil rfl rfl rfl rfl
  | is negated =>
    cases h
    exact .within [] (takes_nil reader position) isFlat_nil rfl rfl rfl rfl
  | around enclosure =>
    cases enclosure with
    | negation =>
      cases h
      exact .affirmed rfl rfl rfl rfl rfl
    | level =>
      obtain ⟨depth', hdepth, h⟩ := bind_eq_ok_iff.1 h
      cases h
      exact .left rfl rfl (decrement_eq_ok_iff.1 hdepth) rfl (.inl rfl)
    | group =>
      rw [onAnswer] at h
      split at h
      · rename_i closing hclosing
        cases h
        exact .closed closing (takes_of_peek hclosing) rfl rfl rfl rfl
      · cases h
        exact change_unexpected rfl fun _ => List.mem_cons_self

theorem change_onError {reason : Reason} {frame : Frame} {t : State}
    (h : onError reason stack position depth frame = .ok t) :
    Change reader ⟨.answer (.error reason), frame :: stack, position, depth⟩ t := by
  cases frame with
  | chain | is =>
    cases h
    exact .passed rfl (.inl rfl) rfl rfl rfl
  | around enclosure =>
    cases enclosure with
    | group =>
      cases h
      exact .passed rfl (.inr ⟨.group, by decide, rfl⟩) rfl rfl rfl
    | negation =>
      cases h
      exact .passed rfl (.inr ⟨.negation, by decide, rfl⟩) rfl rfl rfl
    | level =>
      obtain ⟨depth', hdepth, h⟩ := bind_eq_ok_iff.1 h
      cases h
      exact .left rfl rfl (decrement_eq_ok_iff.1 hdepth) rfl (.inr rfl)

/-- Whatever a step does, it is one of the changes. -/
theorem change_of_step {s t : State} (h : reader.step s = .ok t) : Change reader s t := by
  obtain ⟨control, stack, position, depth⟩ := s
  cases control with
  | call routine =>
    cases routine with
    | chain chain =>
      cases h
      exact .within [] (takes_nil reader position) isFlat_nil rfl rfl rfl rfl
    | unary =>
      cases h
      exact change_onUnary
    | primary =>
      cases h
      exact change_onPrimary
    | list =>
      cases h
      exact change_onList
  | enter routine =>
    cases h
    exact change_onEnter
  | items done =>
    cases h
    exact change_onItems
  | answer result =>
    cases stack with
    | nil => cases h
    | cons frame stack =>
      cases result with
      | ok e => exact change_onAnswer h
      | error reason => exact change_onError h

end Change

end Reader

end ScenarioTree.Tag
