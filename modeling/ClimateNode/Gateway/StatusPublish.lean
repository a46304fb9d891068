import ClimateNode.Gateway.Liveness
import ClimateNode.Gateway.Relay
import Mathlib.Algebra.Group.Nat.Even
import Mathlib.Data.List.DropRight

/-!
The loop of `rx_thread` in `gateway/src/relay.cpp` on a bus that may fail:
`liveness_step` has changed the state by the time `publish_status` finds out, and
nothing tries again.

* `statusLoop`: the loop, each turn with the answer `zbus_chan_pub` would give;
  `answers` are the answers it gets.
* `agrees_iff_caughtUp`: transitions alternate, so the last status published is
  the right one exactly when an even number of them has been lost since.
* `status_recovers_iff`: **when a lost transition shows**.
-/

namespace ClimateNode

/-- One turn of the loop: the call of `liveness_step`, and what `zbus_chan_pub`
answers should there be something to publish. -/
structure StatusTurn where
  call : LivenessCall
  rc : ℤ
  deriving DecidableEq, Repr

/-- The machine, and every status whose publish succeeded, oldest first. -/
structure StatusLoop where
  liveness : Liveness
  published : List RelayStatus
  deriving DecidableEq, Repr

/-- One turn of the loop in `rx_thread`: a status is published when the step says
that the state changed, and a failure of the publish is only logged. -/
def statusTurn (timeoutMs : ℤ) (s : StatusLoop) (t : StatusTurn) : StatusLoop :=
  let step := livenessStep s.liveness t.call.frameSeen t.call.nowMs timeoutMs
  ⟨step.1,
    if step.2 && t.rc == 0 then s.published ++ [publishStatus (step.1.state == .online)]
    else s.published⟩

/-- The loop, from `{PEER_UNKNOWN, t0}`. -/
def statusLoop (t0 timeoutMs : ℤ) (turns : List StatusTurn) : StatusLoop :=
  turns.foldl (statusTurn timeoutMs) ⟨⟨.unknown, t0⟩, []⟩

/-- The status that announces a state; none announces `PEER_UNKNOWN`. -/
def statusOf : PeerLiveness → Option RelayStatus
  | .unknown => none
  | .online => some (publishStatus true)
  | .offline => some (publishStatus false)

/-- The last status published says what the machine says. -/
def StatusLoop.agrees (s : StatusLoop) : Prop := s.published.getLast? = statusOf s.liveness.state

instance (s : StatusLoop) : Decidable s.agrees := inferInstanceAs (Decidable (_ = _))

/-- What `zbus_chan_pub` answers at the transitions, oldest first. -/
def answersFrom (timeoutMs : ℤ) : Liveness → List StatusTurn → List ℤ
  | _, [] => []
  | l, t :: turns =>
      let step := livenessStep l t.call.frameSeen t.call.nowMs timeoutMs
      if step.2 then t.rc :: answersFrom timeoutMs step.1 turns
      else answersFrom timeoutMs step.1 turns

/-- The answers over a run of the loop. -/
def answers (t0 timeoutMs : ℤ) (turns : List StatusTurn) : List ℤ :=
  answersFrom timeoutMs ⟨.unknown, t0⟩ turns

/-- No transition has been lost that a later one has not made good: an even
number since the last success, none at all before the first. -/
def caughtUp (rcs : List ℤ) : Prop :=
  if 0 ∈ rcs then Even (rcs.rtakeWhile (· ≠ 0)).length else rcs = []

instance (rcs : List ℤ) : Decidable (caughtUp rcs) := by
  unfold caughtUp; infer_instance

section Loop

variable (t0 timeoutMs : ℤ)

lemma statusLoop_concat (pre : List StatusTurn) (t : StatusTurn) :
    statusLoop t0 timeoutMs (pre ++ [t]) =
      statusTurn timeoutMs (statusLoop t0 timeoutMs pre) t := by
  simp [statusLoop]

/-- The machine does not know what becomes of its transitions. -/
lemma statusLoop_liveness (turns : List StatusTurn) :
    (statusLoop t0 timeoutMs turns).liveness =
      livenessAfter t0 timeoutMs (turns.map (·.call)) := by
  induction turns using List.reverseRecOn with
  | nil => rfl
  | append_singleton pre t ih =>
      rw [statusLoop_concat, List.map_append, List.map_singleton, livenessAfter_concat, ← ih]
      rfl

lemma answersFrom_append (pre post : List StatusTurn) : ∀ l pub,
    answersFrom timeoutMs l (pre ++ post) = answersFrom timeoutMs l pre ++
      answersFrom timeoutMs (pre.foldl (statusTurn timeoutMs) ⟨l, pub⟩).liveness post := by
  induction pre with
  | nil => intro l pub; rfl
  | cons t pre ih =>
      intro l pub
      simp only [List.cons_append, answersFrom, List.foldl_cons]
      split_ifs
      · rw [List.cons_append]
        exact congrArg _ (ih _ _)
      · exact ih _ _

/-- A turn is answered when it finds a transition. -/
lemma answers_concat (pre : List StatusTurn) (t : StatusTurn) :
    answers t0 timeoutMs (pre ++ [t]) = answers t0 timeoutMs pre ++
      if reports t0 timeoutMs (pre.map (·.call)) t.call then [t.rc] else [] := by
  rw [answers, answersFrom_append timeoutMs pre [t] _ [], ← statusLoop, statusLoop_liveness]
  rfl

lemma published_concat (pre : List StatusTurn) (t : StatusTurn) :
    (statusLoop t0 timeoutMs (pre ++ [t])).published =
      (statusLoop t0 timeoutMs pre).published ++
        if reports t0 timeoutMs (pre.map (·.call)) t.call && t.rc == 0 then
          [publishStatus ((statusLoop t0 timeoutMs (pre ++ [t])).liveness.state == .online)]
        else [] := by
  rw [statusLoop_concat, reports, ← statusLoop_liveness]
  simp only [statusTurn]
  split_ifs <;> simp

end Loop

/-! ### Lost transitions -/

lemma statusOf_injective {a b : PeerLiveness} (h : statusOf a = statusOf b) : a = b := by
  cases a <;> cases b <;> first | rfl | exact absurd h (by decide)

lemma statusOf_known {st : PeerLiveness} (h : st ≠ .unknown) :
    statusOf st = some (publishStatus (st == .online)) := by
  cases st <;> first | rfl | exact absurd rfl h

/-- What was published, in terms of the answers: nothing while none was a success,
and since the last success one state or the other, by turns. -/
structure Parity (s : StatusLoop) (rcs : List ℤ) : Prop where
  silent : 0 ∉ rcs → s.published = []
  known : rcs = [] ↔ s.liveness.state = .unknown
  parity : 0 ∈ rcs → ∃ st, st ≠ .unknown ∧ s.published.getLast? = statusOf st ∧
    (Even (rcs.rtakeWhile (· ≠ 0)).length ↔ st = s.liveness.state)

variable (t0 timeoutMs : ℤ)

/-- A turn finds a transition when it changes the state, and never one to
`PEER_UNKNOWN`. -/
lemma transition_iff (pre : List StatusTurn) (t : StatusTurn) :
    (reports t0 timeoutMs (pre.map (·.call)) t.call = true ↔
      (statusLoop t0 timeoutMs (pre ++ [t])).liveness.state ≠
        (statusLoop t0 timeoutMs pre).liveness.state) ∧
    ((statusLoop t0 timeoutMs pre).liveness.state ≠ .unknown ∨
        reports t0 timeoutMs (pre.map (·.call)) t.call = true →
      (statusLoop t0 timeoutMs (pre ++ [t])).liveness.state ≠ .unknown) := by
  rw [statusLoop_liveness, statusLoop_liveness, List.map_append, List.map_singleton]
  refine ⟨reports_iff t0 timeoutMs _ _, fun h => ?_⟩
  rw [livenessAfter_concat]
  exact livenessStep_known timeoutMs _ _ _ h

lemma parity_loop (turns : List StatusTurn) :
    Parity (statusLoop t0 timeoutMs turns) (answers t0 timeoutMs turns) := by
  induction turns using List.reverseRecOn with
  | nil =>
      refine ⟨fun _ => rfl, ?_, ?_⟩ <;> simp [statusLoop, answers, answersFrom]
  | append_singleton pre t ih =>
      obtain ⟨hrep, hknown⟩ := transition_iff t0 timeoutMs pre t
      have hpub := published_concat t0 timeoutMs pre t
      rw [answers_concat]
      by_cases hr : reports t0 timeoutMs (pre.map (·.call)) t.call = true
      · have hne := hrep.mp hr
        have hnew := hknown (.inr hr)
        rw [if_pos hr]
        by_cases hrc : t.rc = 0
        · have hlast : (statusLoop t0 timeoutMs (pre ++ [t])).published.getLast? =
              statusOf (statusLoop t0 timeoutMs (pre ++ [t])).liveness.state := by
            rw [hpub, statusOf_known hnew]
            simp [hr, hrc]
          refine ⟨by simp [hrc], by simp [hnew], fun _ => ⟨_, hnew, hlast, ?_⟩⟩
          simp [hrc]
        · have hsame : (statusLoop t0 timeoutMs (pre ++ [t])).published =
              (statusLoop t0 timeoutMs pre).published := by
            simpa [hrc] using hpub
          have hmem : 0 ∈ answers t0 timeoutMs pre ++ [t.rc] ↔ 0 ∈ answers t0 timeoutMs pre := by
            simp [Ne.symm hrc]
          refine ⟨?_, by simp [hnew], ?_⟩
          · rw [hmem, hsame]
            exact ih.silent
          · rw [hmem, hsame]
            intro hzero
            obtain ⟨st, hst, hlast, hpar⟩ := ih.parity hzero
            have hold : (statusLoop t0 timeoutMs pre).liveness.state ≠ .unknown := fun h =>
              List.ne_nil_of_mem hzero (ih.known.mpr h)
            -- of the two states known, the new one is the one the old one is not
            have hflip : st = (statusLoop t0 timeoutMs (pre ++ [t])).liveness.state ↔
                ¬ st = (statusLoop t0 timeoutMs pre).liveness.state := by
              revert hst hold hnew hne
              generalize (statusLoop t0 timeoutMs (pre ++ [t])).liveness.state = new
              generalize (statusLoop t0 timeoutMs pre).liveness.state = old
              cases st <;> cases new <;> cases old <;> simp
            refine ⟨st, hst, hlast, ?_⟩
            rw [List.rtakeWhile_concat_pos _ _ _ (by simpa using hrc), List.length_append,
              List.length_singleton, Nat.even_add_one, hpar, hflip]
      · rw [if_neg hr, List.append_nil]
        have hsame : (statusLoop t0 timeoutMs (pre ++ [t])).liveness.state =
            (statusLoop t0 timeoutMs pre).liveness.state := by
          by_contra hne
          exact hr (hrep.mpr hne)
        have hpub' : (statusLoop t0 timeoutMs (pre ++ [t])).published =
            (statusLoop t0 timeoutMs pre).published := by
          simpa [hr] using hpub
        refine ⟨?_, ?_, ?_⟩
        · rw [hpub']; exact ih.silent
        · rw [hsame]; exact ih.known
        · rw [hpub', hsame]; exact ih.parity

/-- **Parity**: the last status published is the right one exactly when no
transition is still to be made good. -/
lemma agrees_iff_caughtUp (turns : List StatusTurn) :
    (statusLoop t0 timeoutMs turns).agrees ↔ caughtUp (answers t0 timeoutMs turns) := by
  obtain ⟨hsilent, hknown, hparity⟩ := parity_loop t0 timeoutMs turns
  rw [StatusLoop.agrees, caughtUp]
  split_ifs with hzero
  · obtain ⟨st, -, hlast, hpar⟩ := hparity hzero
    rw [hlast, hpar]
    exact ⟨statusOf_injective, fun h => by rw [h]⟩
  · rw [hsilent hzero, hknown, List.getLast?_nil]
    cases (statusLoop t0 timeoutMs turns).liveness.state <;> simp [statusOf]

/-- A liveness transition is never lost: one turn after publishes succeed again,
whatever failed before, the last status published is the right one. -/
def recovers (turns : List StatusTurn) : Prop :=
  ∀ pre post, pre ++ post <+: turns → post ≠ [] → (∀ t ∈ post, t.rc = 0) →
    (statusLoop t0 timeoutMs (pre ++ post)).agrees

/-- **Lost transitions**: over a run the last status published always recovers
exactly when, at every turn whose publish would succeed, an even number of
transitions has been lost since the last one published, and none if none was.
In particular it is right after every turn of a run in which the publish of every
transition succeeds. -/
theorem status_recovers_iff (turns : List StatusTurn) :
    (recovers t0 timeoutMs turns ↔
      ∀ pre t, pre ++ [t] <+: turns → t.rc = 0 → caughtUp (answers t0 timeoutMs (pre ++ [t]))) ∧
    ((∀ rc ∈ answers t0 timeoutMs turns, rc = 0) →
      ∀ pre, pre <+: turns → (statusLoop t0 timeoutMs pre).agrees) := by
  refine ⟨⟨?_, ?_⟩, ?_⟩
  · intro h pre t hpre hrc
    rw [← agrees_iff_caughtUp]
    exact h pre [t] hpre (by simp) (by simpa using hrc)
  · intro h pre post hpre hne hok
    obtain ⟨post, t, rfl⟩ := List.eq_nil_or_concat post |>.resolve_left hne
    rw [List.concat_eq_append, ← List.append_assoc] at hpre ⊢
    rw [agrees_iff_caughtUp]
    exact h (pre ++ post) t hpre (hok t (by simp))
  · intro h pre hpre
    obtain ⟨post, rfl⟩ := hpre
    rw [agrees_iff_caughtUp, caughtUp]
    have hall : ∀ rc ∈ answers t0 timeoutMs pre, rc = 0 := by
      intro rc hrc
      refine h rc ?_
      rw [answers, answersFrom_append timeoutMs pre post _ []]
      exact List.mem_append_left _ hrc
    split_ifs with hzero
    · have hnone : (answers t0 timeoutMs pre).rtakeWhile (· ≠ 0) = [] :=
        List.rtakeWhile_eq_nil_iff.mpr fun hne => by simpa using hall _ (List.getLast_mem hne)
      rw [hnone]
      exact Even.zero
    · exact List.eq_nil_iff_forall_not_mem.mpr fun rc hrc => hzero (hall rc hrc ▸ hrc)

/-- The peer comes up and is announced, falls silent, and the publish of that
fails with `-ENOMEM`: a turn later, with the bus working, the last status
published is still "online". -/
theorem offline_lost :
    ¬ recovers 0 kHeartbeatTimeoutMs
      [⟨⟨true, 100⟩, 0⟩, ⟨⟨false, 4000⟩, -12⟩, ⟨⟨false, 4100⟩, 0⟩] := by
  intro h
  have hagree := h [⟨⟨true, 100⟩, 0⟩, ⟨⟨false, 4000⟩, -12⟩] [⟨⟨false, 4100⟩, 0⟩]
    List.prefix_rfl (by simp) (by simp)
  exact absurd hagree (by decide)

end ClimateNode
