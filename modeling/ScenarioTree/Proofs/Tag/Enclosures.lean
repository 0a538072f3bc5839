import ScenarioTree.Proofs.Tag.Machine

/-!
# What stands around a reader

The frames of a reader know which groups are open. If the parentheses are in order then the tokens
that are left close these groups. So none is open where no parenthesis is left, and never more than
`maxNesting` are. Every level has been counted for a group or a negation, and stands among the frames.
So it can be taken back, and only where something is negated there is no room for another one.

Results:

* `IsSound.of_step`, `IsSound.of_reaches`: what a step keeps, and a whole run.
* `IsSound.step_ne_underflow`: no counter goes below zero.
* `IsSound.negation_mem`: where a query is nested too deep.
-/

namespace ScenarioTree.Tag

namespace Reader

/-! ## What is kept -/

/-- The groups that are open are closed by the tokens that are left, and every level has been counted
    for a group or a negation. -/
structure IsLive (reader : Reader) (s : State) : Prop where
  bounded : s.around.count .group ≤ maxNesting
  closes : GroupsClose (s.around.count .group) (reader.tokens.drop s.position)
  supported : ∀ inner, inner <:+ s.around →
    inner.count .level ≤ inner.count .group + inner.count .negation
  /-- A level is about to be counted for what has been read last. -/
  entering : s.phase = .entering → ∃ e inner, e ≠ .level ∧ s.around = e :: inner

/-- What is true of every state on the way. -/
structure IsSound (reader : Reader) (s : State) : Prop where
  position_le : s.position ≤ reader.tokens.length
  depth_eq : s.depth = s.around.count .level
  live : s.phase ≠ .failed → IsLive reader s
  /-- What has been found to end too early has no open group. -/
  ended : ∀ what, s.control = .answer (.error (.expected what none)) →
    .group ∉ s.around ∧ what ≠ .closeGroup

section Sound

variable {reader : Reader} {s t : State}

theorem groupsClose_append_iff {taken rest : List Token} (h : IsFlat taken) (opened : Nat) :
    GroupsClose opened (taken ++ rest) ↔ GroupsClose opened rest := by
  induction taken with
  | nil => rfl
  | cons token taken ih =>
    obtain ⟨⟨hopen, hclose⟩, htaken⟩ := isFlat_cons_iff.1 h
    rw [List.cons_append, groupsClose_cons_iff hopen hclose, ih htaken]

/-- No group can be closed where there are no parentheses. -/
theorem eq_zero_of_groupsClose {opened : Nat} {ts : List Token} (hflat : IsFlat ts)
    (h : GroupsClose opened ts) : opened = 0 := by
  rw [← List.append_nil ts, groupsClose_append_iff hflat] at h
  exact h

/-- Something else stands around as well. -/
theorem forall_suffix_cons {p : List Enclosure → Prop} {e : Enclosure} {around : List Enclosure}
    (hcons : p (e :: around)) (h : ∀ inner, inner <:+ around → p inner) :
    ∀ inner, inner <:+ e :: around → p inner := by
  intro inner hinner
  obtain rfl | hinner := List.suffix_cons_iff.1 hinner
  · exact hcons
  · exact h inner hinner

theorem not_entering (h : s.phase = .going) : s.phase ≠ .entering := by
  rw [h]
  decide

theorem IsLive.within (hs : IsLive reader s) {taken : List Token}
    (htaken : reader.Takes s.position taken t.position) (hflat : IsFlat taken)
    (haround : t.around = s.around) (ht : t.phase = .going) : IsLive reader t where
  bounded := by
    rw [haround]
    exact hs.bounded
  closes := by
    have hcloses := hs.closes
    rw [htaken.2, groupsClose_append_iff hflat] at hcloses
    rw [haround]
    exact hcloses
  supported := by
    rw [haround]
    exact hs.supported
  entering h := absurd h (not_entering ht)

theorem IsLive.opened (hs : IsLive reader s) {opening : Nat}
    (htaken : reader.Takes s.position [⟨opening, .openGroup⟩] t.position)
    (haround : t.around = .group :: s.around) : IsLive reader t := by
  have hcloses := hs.closes
  rw [htaken.2, List.singleton_append, GroupsClose] at hcloses
  obtain ⟨hroom, hcloses⟩ := hcloses
  have hgroups : t.around.count .group = s.around.count .group + 1 := by
    rw [haround, List.count_cons_self]
  have hbounded := hs.bounded
  refine ⟨by omega, ?_, ?_, fun _ => ⟨.group, s.around, by decide, haround⟩⟩
  · rw [hgroups]
    exact hcloses
  · rw [haround]
    refine forall_suffix_cons ?_ hs.supported
    have hsupported := hs.supported s.around List.suffix_rfl
    simp only [List.count_cons, beq_iff_eq, reduceCtorEq, if_true, if_false]
    omega

theorem IsLive.negated (hs : IsLive reader s) {token : Token}
    (htaken : reader.Takes s.position [token] t.position) (hflat : IsFlat [token])
    (haround : t.around = .negation :: s.around) : IsLive reader t := by
  have hgroups : t.around.count .group = s.around.count .group := by
    rw [haround]
    rfl
  have hcloses := hs.closes
  rw [htaken.2, groupsClose_append_iff hflat, ← hgroups] at hcloses
  refine ⟨hgroups.trans_le hs.bounded, hcloses, ?_,
    fun _ => ⟨.negation, s.around, by decide, haround⟩⟩
  rw [haround]
  refine forall_suffix_cons ?_ hs.supported
  have hsupported := hs.supported s.around List.suffix_rfl
  simp only [List.count_cons, beq_iff_eq, reduceCtorEq, if_true, if_false]
  omega

/-- What has been read last, a parenthesis or a negation, stands for the level that is counted. -/
theorem IsLive.entered (hs : IsLive reader s) (hposition : t.position = s.position)
    (haround : t.around = .level :: s.around) (hphase : s.phase = .entering)
    (ht : t.phase = .going) : IsLive reader t := by
  have hgroups : t.around.count .group = s.around.count .group := by
    rw [haround]
    rfl
  have hcloses := hs.closes
  rw [← hgroups, ← hposition] at hcloses
  refine ⟨hgroups.trans_le hs.bounded, hcloses, ?_, fun h => absurd h (not_entering ht)⟩
  rw [haround]
  refine forall_suffix_cons ?_ hs.supported
  obtain ⟨e, inner, he, hinner⟩ := hs.entering hphase
  have hsupported := hs.supported inner (hinner ▸ List.suffix_cons e inner)
  rw [hinner]
  cases e with
  | level => exact absurd rfl he
  | group | negation =>
    simp only [List.count_cons, beq_iff_eq, reduceCtorEq, if_true, if_false]
    omega

theorem IsLive.closed (hs : IsLive reader s) {closing : Nat}
    (htaken : reader.Takes s.position [⟨closing, .closeGroup⟩] t.position)
    (haround : s.around = .group :: t.around) (ht : t.phase = .going) : IsLive reader t := by
  have hcloses := hs.closes
  rw [htaken.2, List.singleton_append, GroupsClose, haround, List.count_cons_self] at hcloses
  have hbounded := hs.bounded
  rw [haround, List.count_cons_self] at hbounded
  refine ⟨by omega, hcloses.2, fun inner hinner => ?_, fun h => absurd h (not_entering ht)⟩
  apply hs.supported
  rw [haround]
  exact hinner.trans (List.suffix_cons _ _)

/-- What has been read is no longer negated, or no longer counted. -/
theorem IsLive.inner (hs : IsLive reader s) {e : Enclosure} (he : e ≠ .group)
    (hposition : t.position = s.position) (haround : s.around = e :: t.around)
    (ht : t.phase ≠ .entering) : IsLive reader t := by
  have hgroups : s.around.count .group = t.around.count .group := by
    rw [haround, List.count_cons_of_ne he]
  have hcloses := hs.closes
  rw [hgroups, ← hposition] at hcloses
  refine ⟨hgroups.symm.trans_le hs.bounded, hcloses, fun inner hinner => ?_, fun h => absurd h ht⟩
  apply hs.supported
  rw [haround]
  exact hinner.trans (List.suffix_cons _ _)

/-- Where no parenthesis is left, no group is open. -/
theorem IsLive.group_not_mem (hs : IsLive reader s)
    (hend : IsFlat (reader.tokens.drop s.position)) : .group ∉ s.around :=
  List.count_eq_zero.1 (eq_zero_of_groupsClose hend hs.closes)

theorem isSound_of_isLive (hposition : t.position ≤ reader.tokens.length)
    (hdepth : t.depth = t.around.count .level) (hlive : IsLive reader t)
    (ht : t.phase ≠ .failed) : IsSound reader t :=
  ⟨hposition, hdepth, fun _ => hlive, fun _ h => absurd (State.phase_of_error h) ht⟩

theorem isSound_of_error {reason : Reason} (hposition : t.position ≤ reader.tokens.length)
    (hdepth : t.depth = t.around.count .level) (hcontrol : t.control = .answer (.error reason))
    (hended : ∀ what, reason = .expected what none → .group ∉ t.around ∧ what ≠ .closeGroup) :
    IsSound reader t := by
  refine ⟨hposition, hdepth, fun h => absurd (State.phase_of_error hcontrol) h, fun what h => ?_⟩
  rw [hcontrol] at h
  cases h
  exact hended what rfl

/-- The same error, with less around. -/
theorem IsSound.ended_of_subset (hs : IsSound reader s) (hcontrol : t.control = s.control)
    (haround : t.around ⊆ s.around) (what : Expected)
    (h : t.control = .answer (.error (.expected what none))) :
    .group ∉ t.around ∧ what ≠ .closeGroup := by
  rw [hcontrol] at h
  obtain ⟨hgroup, hwhat⟩ := hs.ended what h
  exact ⟨fun hmem => hgroup (haround hmem), hwhat⟩

/-- A level is taken back, behind what has been read or behind an error. -/
theorem IsSound.left (hsound : IsSound reader s) (hposition : t.position = s.position)
    (haround : s.around = .level :: t.around) (hdepth : s.depth = t.depth + 1)
    (hcontrol : t.control = s.control) (hs : s.phase = .going ∨ s.phase = .failed) :
    IsSound reader t := by
  have hphase : t.phase = s.phase := by
    rw [State.phase, State.phase, hcontrol]
  have hlevel := hsound.depth_eq
  rw [haround, List.count_cons_self] at hlevel
  refine ⟨hposition.trans_le hsound.position_le, by omega, fun ht => ?_,
    hsound.ended_of_subset hcontrol ?_⟩
  · rw [hphase] at ht
    refine (hsound.live ht).inner (by decide) hposition haround ?_
    rw [hphase, hs.resolve_right ht]
    decide
  · rw [haround]
    exact List.subset_cons_self _ _

/-- An error is handed over to what stands around. -/
theorem IsSound.passed (hsound : IsSound reader s) (hposition : t.position = s.position)
    (haround : s.around = t.around ∨ ∃ e, e ≠ .level ∧ s.around = e :: t.around)
    (hdepth : t.depth = s.depth) (hcontrol : t.control = s.control) (hs : s.phase = .failed) :
    IsSound reader t := by
  have hphase : t.phase = .failed := by
    rw [State.phase, hcontrol]
    exact hs
  have hlevel := hsound.depth_eq
  refine ⟨hposition.trans_le hsound.position_le, ?_, fun ht => absurd hphase ht,
    hsound.ended_of_subset hcontrol ?_⟩
  · obtain haround | ⟨e, he, haround⟩ := haround
    · rw [hdepth, ← haround, hlevel]
    · rw [hdepth, hlevel, haround, List.count_cons_of_ne he]
  · obtain haround | ⟨e, he, haround⟩ := haround
    · rw [haround]
      exact List.Subset.refl _
    · rw [haround]
      exact List.subset_cons_self _ _

/-- A step keeps all of it. -/
theorem IsSound.of_step (hsound : IsSound reader s) (h : reader.step s = .ok t) :
    IsSound reader t := by
  have hbefore := hsound.position_le
  have hlevel := hsound.depth_eq
  have hgoing (hs : s.phase = .going) : IsLive reader s := hsound.live (by rw [hs]; decide)
  cases change_of_step h with
  | within taken htaken hflat haround hdepth hs ht =>
    refine isSound_of_isLive (htaken.le hbefore) ?_ ((hgoing hs).within htaken hflat haround ht)
      (by rw [ht]; decide)
    rw [hdepth, haround, hlevel]
  | opened opening htaken haround hdepth hs ht =>
    refine isSound_of_isLive (htaken.le hbefore) ?_ ((hgoing hs).opened htaken haround)
      (by rw [ht]; decide)
    rw [hdepth, haround, hlevel]
    rfl
  | closed closing htaken haround hdepth hs ht =>
    refine isSound_of_isLive (htaken.le hbefore) ?_ ((hgoing hs).closed htaken haround ht)
      (by rw [ht]; decide)
    rw [hdepth, hlevel, haround]
    rfl
  | negated token htaken hflat haround hdepth hs ht =>
    refine isSound_of_isLive (htaken.le hbefore) ?_ ((hgoing hs).negated htaken hflat haround)
      (by rw [ht]; decide)
    rw [hdepth, haround, hlevel]
    rfl
  | affirmed hposition haround hdepth hs ht =>
    refine isSound_of_isLive (hposition.trans_le hbefore) ?_
      ((hgoing hs).inner (by decide) hposition haround (not_entering ht)) (by rw [ht]; decide)
    rw [hdepth, hlevel, haround]
    rfl
  | entered hposition haround hdepth hs ht =>
    have hlive := hsound.live (by rw [hs]; decide)
    refine isSound_of_isLive (hposition.trans_le hbefore) ?_
      (hlive.entered hposition haround hs ht) (by rw [ht]; decide)
    rw [hdepth, haround, hlevel, List.count_cons_self]
  | refused position hposition haround hdepth hs hdeep hcontrol =>
    refine isSound_of_error (hposition.trans_le hbefore) ?_ hcontrol (by simp)
    rw [hdepth, haround, hlevel]
  | left hposition haround hdepth hcontrol hs =>
    exact hsound.left hposition haround hdepth hcontrol hs
  | missed what found htaken haround hdepth hs hcontrol hend hclose =>
    obtain ⟨taken, htaken⟩ := htaken
    refine isSound_of_error (htaken.le hbefore) ?_ hcontrol fun what' hreason => ?_
    · rw [hdepth, haround, hlevel]
    · -- the tokens that are left close no group, so none is open
      obtain ⟨rfl, rfl⟩ := Reason.expected.inj hreason
      have hgroup := (hgoing hs).group_not_mem (hend rfl)
      exact ⟨haround ▸ hgroup, fun hwhat => hgroup (hclose hwhat)⟩
  | emptied reason htaken haround hdepth hs hcontrol hreason =>
    obtain ⟨taken, htaken⟩ := htaken
    refine isSound_of_error (htaken.le hbefore) ?_ hcontrol fun what hwhat => ?_
    · rw [hdepth, haround, hlevel]
    · obtain ⟨position, rfl | rfl⟩ := hreason <;> cases hwhat
  | passed hposition haround hdepth hcontrol hs =>
    exact hsound.passed hposition haround hdepth hcontrol hs

theorem isSound_initial (h : GroupsClose 0 reader.tokens) : IsSound reader State.initial := by
  have hlive : IsLive reader State.initial := by
    refine ⟨Nat.zero_le _, h, fun inner hinner => ?_, fun hentering => ?_⟩
    · rw [List.suffix_nil.1 hinner]
      exact le_rfl
    · cases hentering
  exact isSound_of_isLive (Nat.zero_le _) rfl hlive (by decide)

theorem IsSound.of_reaches (hs : IsSound reader s) (h : reader.Reaches s t) : IsSound reader t := by
  induction h with
  | refl => exact hs
  | tail _ hstep ih => exact ih.of_step hstep

theorem decrement_eq_error_iff {n : Nat} {halt : Halt} :
    decrement n = .error halt ↔ n = 0 ∧ halt = .underflow := by
  unfold decrement
  split_ifs with hzero
  · simp [hzero, eq_comm]
  · simp [hzero]

section Underflow

variable {stack : List Frame} {position depth : Nat} {frame : Frame}

/-- The cursor has gone on before it goes back. -/
theorem level_of_onAnswer {e : Expr}
    (h : reader.onAnswer e stack position depth frame = .error .underflow) :
    depth = 0 ∧ .level ∈ State.around ⟨.answer (.ok e), frame :: stack, position, depth⟩ := by
  cases frame with
  | chain =>
    rw [onAnswer] at h
    split_ifs at h
  | is => cases h
  | around enclosure =>
    cases enclosure with
    | negation => cases h
    | level =>
      obtain hdepth | ⟨_, _, h⟩ := bind_eq_error_iff.1 h
      · exact ⟨(decrement_eq_error_iff.1 hdepth).1, List.mem_cons_self⟩
      · cases h
    | group =>
      rw [onAnswer] at h
      split at h <;> cases h

theorem level_of_onError {reason : Reason}
    (h : onError reason stack position depth frame = .error .underflow) :
    depth = 0 ∧ .level ∈ State.around ⟨.answer (.error reason), frame :: stack, position, depth⟩ := by
  cases frame with
  | chain | is => cases h
  | around enclosure =>
    cases enclosure with
    | group | negation => cases h
    | level =>
      obtain hdepth | ⟨_, _, h⟩ := bind_eq_error_iff.1 h
      · exact ⟨(decrement_eq_error_iff.1 hdepth).1, List.mem_cons_self⟩
      · cases h

end Underflow

/-- Only a level that has been counted is taken back. -/
theorem level_of_underflow (h : reader.step s = .error .underflow) :
    s.depth = 0 ∧ .level ∈ s.around := by
  obtain ⟨control, stack, position, depth⟩ := s
  cases control with
  | call routine => cases routine <;> cases h
  | enter | items => cases h
  | answer result =>
    cases stack with
    | nil => cases h
    | cons frame stack =>
      cases result with
      | ok e => exact level_of_onAnswer h
      | error reason => exact level_of_onError h

theorem IsSound.step_ne_underflow (hs : IsSound reader s) :
    reader.step s ≠ .error .underflow := by
  intro h
  obtain ⟨hdepth, hlevel⟩ := level_of_underflow h
  rw [hs.depth_eq, List.count_eq_zero] at hdepth
  exact hdepth hlevel

/-- Only where there is no room for it a level is refused. -/
theorem refused_of_raises {position : Nat} (h : reader.Raises s t (.nestedTooDeep position)) :
    s.phase = .entering ∧ s.depth = maxNesting := by
  obtain ⟨hstep, hcontrol, hnew⟩ := h
  have hfailed : t.phase = .failed := State.phase_of_error hcontrol
  cases change_of_step hstep with
  | within _ _ _ _ _ _ ht | opened _ _ _ _ _ ht | closed _ _ _ _ _ ht | negated _ _ _ _ _ _ ht
  | affirmed _ _ _ _ ht | entered _ _ _ _ ht =>
    rw [ht] at hfailed
    cases hfailed
  | refused _ _ _ _ hs hdeep => exact ⟨hs, hdeep⟩
  | left _ _ _ hsame | passed _ _ _ hsame => exact absurd (hsame.symm.trans hcontrol) (hnew _)
  | missed _ _ _ _ _ _ hreason =>
    rw [hreason] at hcontrol
    cases hcontrol
  | emptied reason _ _ _ _ hreason hempty =>
    rw [hreason] at hcontrol
    obtain ⟨position, rfl | rfl⟩ := hempty <;> cases hcontrol

/-- A level is refused only where something is negated: groups alone are never too many. -/
theorem IsSound.negation_mem (hsound : IsSound reader s) {position : Nat}
    (h : reader.Raises s t (.nestedTooDeep position)) : .negation ∈ s.around := by
  obtain ⟨hs, hdeep⟩ := refused_of_raises h
  have hlive := hsound.live (by rw [hs]; decide)
  obtain ⟨e, inner, he, haround⟩ := hlive.entering hs
  have hsupported := hlive.supported inner (haround ▸ List.suffix_cons e inner)
  have hbounded := hlive.bounded
  have hlevels := hsound.depth_eq
  rw [haround] at hbounded hlevels ⊢
  cases e with
  | level => exact absurd rfl he
  | negation => exact List.mem_cons_self
  | group =>
    rw [List.count_cons_self] at hbounded
    rw [List.count_cons_of_ne he] at hlevels
    refine List.mem_cons_of_mem _ (List.count_pos_iff.1 ?_)
    omega

end Sound

end Reader

end ScenarioTree.Tag
