import ClimateNode.Gateway.Passes

/-!
The timers of the sessions in the passes of `main` of `gateway/src/main.cpp`: what a
call can do to the deadlines and the backoff of a session, said once, and the passes
by a clock that does not run backwards.

* `Session.timers`: what `next_deadline_ms` and `session_drop` read.
* `Move`, `move_next`: **the moves of a session**: nothing, an attempt, one that
  fails, an accepted CONNACK, a drop.
* `clocked`: the passes by the clock; `armed_inductive`: how far ahead a deadline
  lies.
-/

namespace ClimateNode.Gateway

open Automata Wire

/-! ### The timers of a session -/

namespace Session

/-- The state of a session, its backoff and its deadlines. -/
def timers (s : Session) : SessionState × ℤ × ℤ × ℤ :=
  (s.state, s.backoffMs, s.retryAt, s.connackDue)

variable {s t : Session}

@[simp] lemma emit_timers (e : Event) : (s.emit e).timers = s.timers := rfl

@[simp] lemma publish_timers (topic : Topic) (payload : Bytes) (qos : Qos) (retain : Bool) (rc : ℤ) :
    (s.publish topic payload qos retain rc).timers = s.timers := by
  obtain ⟨messageId, param, h⟩ := s.publish_eq topic payload qos retain rc
  rw [h, emit_timers]
  rfl

@[simp] lemma connack_timers (result : ℤ) : (s.connack result).timers = s.timers := by
  rw [connack]
  split_ifs <;> rfl

/-- What two sessions alike in their timers share. -/
lemma timers_eq_iff : t.timers = s.timers ↔ t.state = s.state ∧ t.backoffMs = s.backoffMs ∧
    t.retryAt = s.retryAt ∧ t.connackDue = s.connackDue := by
  simp [timers]

lemma serving_backoffMs (i : SessionId) (status : Option RelayStatus) (publishRc subscribeRc : ℤ) :
    (s.serving i status publishRc subscribeRc).backoffMs = kBackoffMinMs := by
  rcases s.serving_eq i status publishRc subscribeRc with heq | ⟨topic, payload, heq⟩
  · rw [heq]
    rfl
  · have h := publish_timers (s := { s with state := .serving, backoffMs := kBackoffMinMs }) topic
      payload .atLeastOnce true publishRc
    rw [heq]
    exact (timers_eq_iff.mp h).2.1

end Session

/-! ### Moves -/

/-- What a call makes of a session: whether it attempts a connection, and what it
reads off the clock, are given. -/
inductive Move (s t : Session) (attempted : Bool) (uptime : Option ℤ) : Prop
  | keep (hatt : attempted = false) (h : t.timers = s.timers)
  | attempt (hatt : attempted = true) (hs : s.state = .idle) (u : ℤ) (hu : uptime = some u)
      (ht : t.state = .connecting) (hback : t.backoffMs = s.backoffMs)
      (hdue : t.connackDue = u + kConnackTimeoutMs)
  | fail (hatt : attempted = true) (hs : s.state = .idle) (u : ℤ) (hu : uptime = some u)
      (ht : t.state = .idle) (hback : t.backoffMs = min (s.backoffMs * 2) kBackoffMaxMs)
      (hretry : t.retryAt = u + t.backoffMs)
  | accept (hatt : attempted = false) (hs : s.state = .connecting) (ht : t.state = .serving)
      (hback : t.backoffMs = kBackoffMinMs)
  | drop (hatt : attempted = false) (hs : s.state ≠ .idle) (u : ℤ) (hu : uptime = some u)
      (ht : t.state = .idle)
      (hback : t.backoffMs =
        if s.state = .serving then kBackoffMinMs else min (s.backoffMs * 2) kBackoffMaxMs)
      (hretry : t.retryAt = u + t.backoffMs)

section Session

variable {s : Session}

/-- A move depends on the timers only. -/
lemma Move.congr {s' t : Session} {attempted : Bool} {uptime : Option ℤ}
    (h : Move s' t attempted uptime) (heq : s'.timers = s.timers) : Move s t attempted uptime := by
  obtain ⟨hstate, hback, -⟩ := Session.timers_eq_iff.mp heq
  cases h with
  | keep hatt hkeep => exact .keep hatt (hkeep.trans heq)
  | attempt hatt hs u hu ht hb hdue => exact .attempt hatt (hstate ▸ hs) u hu ht (hback ▸ hb) hdue
  | fail hatt hs u hu ht hb hretry => exact .fail hatt (hstate ▸ hs) u hu ht (hback ▸ hb) hretry
  | accept hatt hs ht hb => exact .accept hatt (hstate ▸ hs) ht hb
  | drop hatt hs u hu ht hb hretry =>
      exact .drop hatt (hstate ▸ hs) u hu ht (hstate ▸ hback ▸ hb) hretry

lemma move_drop (hs : s.state ≠ .idle) {reachedConnack : Bool}
    (hreached : reachedConnack = decide (s.state = .serving)) (uptime : ℤ) :
    Move s (s.drop reachedConnack uptime) false (some uptime) := by
  refine .drop rfl hs uptime rfl rfl ?_ rfl
  rw [Session.drop_backoffMs, hreached]
  simp only [decide_eq_true_eq]

lemma move_retry (now rc uptime : ℤ) :
    Move s (s.retry now rc uptime) (decide (s.state = .idle ∧ s.retryAt ≤ now)) (some uptime) := by
  rw [Session.retry]
  split_ifs with hdue
  · have hatt : decide (s.state = .idle ∧ s.retryAt ≤ now) = true := decide_eq_true hdue
    rw [hatt, Session.connect]
    split_ifs with hrc
    · exact .fail rfl hdue.1 uptime rfl rfl (by rw [Session.drop_backoffMs]; rfl) rfl
    · exact .attempt rfl hdue.1 uptime rfl rfl rfl rfl
  · exact .keep (decide_eq_false hdue) rfl

lemma move_input (hs : s.state ≠ .idle) (rc uptime : ℤ) :
    Move s (s.input rc uptime) false (some uptime) := by
  rw [Session.input]
  split_ifs
  · exact move_drop hs rfl uptime
  · exact .keep rfl rfl

lemma move_step (i : SessionId) (now : ℤ) (answers : StepAnswers) :
    Move s (s.step i now answers) false (some answers.uptime) := by
  rw [Session.step]
  cases hst : s.state with
  | idle => exact .keep rfl rfl
  | connecting =>
      have hne : s.state ≠ .idle := by simp [hst]
      dsimp only
      split_ifs
      · exact .accept rfl hst (Session.serving_state _ _ _ _ _) (Session.serving_backoffMs _ _ _ _)
      · exact move_drop hne (by simp [hst]) answers.uptime
      · exact move_drop hne (by simp [hst]) answers.uptime
      · exact .keep rfl rfl
  | serving =>
      have hne : s.state ≠ .idle := by simp [hst]
      dsimp only
      split_ifs
      · exact move_drop hne (by simp [hst]) answers.uptime
      · exact .keep rfl rfl
      · exact move_drop hne (by simp [hst]) answers.uptime

lemma move_flush (pb : Nanopb) (c : ChanId) (msg : Option c.Msg) (rc uptime : ℤ) :
    Move s (s.flush pb c msg rc uptime) false (some uptime) := by
  rw [Session.flush]
  split_ifs with hst
  · rcases Passes.publishPending_eq pb s c msg rc with heq | ⟨payload, heq⟩
    · rw [heq]
      exact .keep rfl rfl
    · rw [heq]
      dsimp only
      have hkeep := Session.publish_timers (s := s) c.topic payload c.qos c.retain rc
      split_ifs
      · exact (move_drop (by simp [hst]) (by simp [hst]) uptime).congr hkeep
      · exact .keep rfl hkeep
  · exact .keep rfl rfl

variable {t : Session} {attempted : Bool} {uptime : Option ℤ}

lemma Move.backoff (h : Move s t attempted uptime)
    (hback : kBackoffMinMs ≤ s.backoffMs ∧ s.backoffMs ≤ kBackoffMaxMs) :
    kBackoffMinMs ≤ t.backoffMs ∧ t.backoffMs ≤ kBackoffMaxMs := by
  cases h with
  | keep _ hkeep => rwa [(Session.timers_eq_iff.mp hkeep).2.1]
  | attempt _ _ _ _ _ hb => rwa [hb]
  | fail _ _ _ _ _ hb =>
      rw [hb]
      simp only [kBackoffMinMs, kBackoffMaxMs] at hback ⊢
      omega
  | accept _ _ _ hb =>
      rw [hb]
      simp [kBackoffMinMs, kBackoffMaxMs]
  | drop _ _ _ _ _ hb =>
      rw [hb]
      simp only [kBackoffMinMs, kBackoffMaxMs] at hback ⊢
      split_ifs <;> omega

/-- A deadline a move arms lies the backoff ahead. -/
lemma Move.retryAt (h : Move s t attempted uptime) (ht : t.state = .idle) :
    (s.state = .idle ∧ attempted = false ∧ t.retryAt = s.retryAt) ∨
      ∃ u ∈ uptime, t.retryAt = u + t.backoffMs := by
  cases h with
  | keep hatt hkeep =>
      obtain ⟨hstate, -, hretry, -⟩ := Session.timers_eq_iff.mp hkeep
      exact .inl ⟨hstate ▸ ht, hatt, hretry⟩
  | attempt _ _ _ _ ht' => simp [ht'] at ht
  | fail _ _ u hu _ _ hretry => exact .inr ⟨u, hu, hretry⟩
  | accept _ _ ht' => simp [ht'] at ht
  | drop _ _ u hu _ _ hretry => exact .inr ⟨u, hu, hretry⟩

/-- The deadline of a CONNECT that a move arms lies the CONNACK time-out ahead. -/
lemma Move.connackDue (h : Move s t attempted uptime) (ht : t.state = .connecting) :
    (s.state = .connecting ∧ t.connackDue = s.connackDue) ∨
      ∃ u ∈ uptime, t.connackDue = u + kConnackTimeoutMs := by
  cases h with
  | keep _ hkeep =>
      obtain ⟨hstate, -, -, hdue⟩ := Session.timers_eq_iff.mp hkeep
      exact .inl ⟨hstate ▸ ht, hdue⟩
  | attempt _ _ u hu _ _ hdue => exact .inr ⟨u, hu, hdue⟩
  | fail _ _ _ _ ht' => simp [ht'] at ht
  | accept _ _ ht' => simp [ht'] at ht
  | drop _ _ _ _ ht' => simp [ht'] at ht

end Session

namespace Passes

section Moves

variable {pb : Nanopb} {node : NodeIdentity} {s : State} {l : Label}

/-- The call attempts a connection for a session. -/
def attempts (s : State) (i : SessionId) : Label → Bool
  | .connect j _ _ => j = i ∧ (s.sessions i).state = .idle ∧ (s.sessions i).retryAt ≤ s.now
  | _ => false

/-- What the call reads off the clock, the last time it does. -/
def Label.uptime : Label → Option ℤ
  | .top now | .clock now => some now
  | .connect _ _ uptime | .input _ _ uptime | .publish _ _ _ uptime => some uptime
  | .step _ answers => some answers.uptime
  | _ => none

/-- A move of one session is a move of each. -/
lemma move_on {ss : Sessions} {f : Session → Session} {i : SessionId} {attempted : Bool}
    {uptime : Option ℤ} (h : Move (ss i) (f (ss i)) attempted uptime) (j : SessionId) :
    Move (ss j) (ss.on i f j) (decide (i = j) && attempted) uptime := by
  by_cases hij : i = j
  · subst hij
    simpa [Sessions.on] using h
  · rw [decide_eq_false hij, Bool.false_and]
    exact .keep rfl (by simp [Sessions.on, Ne.symm hij])

lemma move_on_false {ss : Sessions} {f : Session → Session} {i : SessionId} {uptime : Option ℤ}
    (h : Move (ss i) (f (ss i)) false uptime) (j : SessionId) :
    Move (ss j) (ss.on i f j) false uptime :=
  Bool.and_false _ ▸ move_on h j

lemma Sends.timers_eq {i : SessionId} {a b : Session} (h : Sends i a b) : b.timers = a.timers := by
  induction h with
  | refl => rfl
  | tail _ hstep ih =>
      obtain ⟨op, hop, rfl⟩ := hstep
      rw [← ih]
      cases op <;> simp_all [Session.Op.send, Session.next]

/-- No callback touches the timers of a session. -/
lemma mqttEvtHandler_timers (ss : Sessions) (commands : CommandState) (evt : MqttEvt)
    (i j : SessionId) : ((ss.mqttEvtHandler pb node commands i evt).1 j).timers = (ss j).timers := by
  have hon {f : Session → Session} (hf : (f (ss i)).timers = (ss i).timers) :
      (ss.on i f j).timers = (ss j).timers := by
    by_cases hji : j = i
    · subst hji
      simpa [Sessions.on] using hf
    · simp [Sessions.on, hji]
  cases evt with
  | publish pub answers =>
      exact (sends_handleIncomingPublish pb node ss commands pub answers i j).timers_eq
  | other => rfl
  | connack result => exact hon (Session.connack_timers result)
  | disconnect | puback messageId | suback messageId => exact hon rfl

variable (pb node) in
/-- **The moves of a session**, whatever a call answers. -/
theorem move_next (hl : enabled s l) (hp : Polled s) (i : SessionId) :
    Move (s.sessions i) ((next pb node s l).sessions i) (attempts s i l) l.uptime := by
  cases l with
  | top now | clock now => exact .keep rfl rfl
  | poll revents => cases revents <;> exact .keep rfl rfl
  | connect j rc uptime =>
      have h : Move (s.sessions i) (s.sessions.on j (fun t => t.retry s.now rc uptime) i)
          (decide (j = i) && decide ((s.sessions j).state = .idle ∧ (s.sessions j).retryAt ≤ s.now))
          (some uptime) := move_on (move_retry s.now rc uptime) i
      have hatt : (decide (j = i) && decide ((s.sessions j).state = .idle ∧
          (s.sessions j).retryAt ≤ s.now)) = attempts s i (.connect j rc uptime) := by
        by_cases hji : j = i
        · simp [attempts, hji]
        · simp [attempts, hji]
      exact hatt ▸ h
  | event j evt => exact .keep rfl (mqttEvtHandler_timers s.sessions s.commands evt j i)
  | input j rc uptime =>
      by_cases hread : s.readable (.sock j)
      · have hst : (s.sessions j).state ≠ .idle := hp j j hl (.inl rfl) hread.1
        simp only [next, if_pos hread]
        exact move_on_false (f := fun t => t.input rc uptime) (move_input hst rc uptime) i
      · exact .keep rfl (by simp [next, hread])
  | step j answers =>
      exact move_on_false (f := fun t => t.step j s.now answers) (move_step j s.now answers) i
  | publish c msg rc uptime =>
      by_cases hread : s.readable (.evt c)
      · simp only [next, if_pos hread]
        exact move_on_false (f := fun t => t.flush pb c msg rc uptime)
          (move_flush pb c msg rc uptime) i
      · exact .keep rfl (by simp [next, hread])
  | disconnected j =>
      refine .keep rfl ?_
      by_cases hij : i = j
      · subst hij
        simp [next, Sessions.on, Session.timers]
      · simp [next, Sessions.on, hij]

end Moves

/-! ### By the clock -/

/-- The clock does not run backwards. -/
def onTime (s : State × ℤ) (l : Label) : Prop := ∀ t ∈ l.uptime, s.2 ≤ t

instance (s : State × ℤ) (l : Label) : Decidable (onTime s l) :=
  inferInstanceAs (Decidable (∀ t ∈ l.uptime, s.2 ≤ t))

/-- The passes by a clock, which is kept beside them: a call ends no earlier than the
one before it. -/
def clocked (pb : Nanopb) (node : NodeIdentity) : Machine (State × ℤ) Label :=
  ((machine pb node).annotate 0 fun _ t l => l.uptime.getD t).restrict onTime

instance (pb : Nanopb) (node : NodeIdentity) (s : State × ℤ) (l : Label) :
    Decidable ((clocked pb node).enabled s l) :=
  inferInstanceAs (Decidable (enabled s.1 l ∧ onTime s l))

/-- The connect phase of this pass is over for a session. -/
def connectDone (pc : Pc) (i : SessionId) : Prop := pc = .poll ∨ pc = .connect .peer ∧ i = .own

/-- How far ahead the deadlines lie. -/
structure Armed (s : State × ℤ) : Prop where
  polled : Polled s.1
  now_le : s.1.now ≤ s.2
  backoff : ∀ i, kBackoffMinMs ≤ (s.1.sessions i).backoffMs ∧
    (s.1.sessions i).backoffMs ≤ kBackoffMaxMs
  retry_le : ∀ i, (s.1.sessions i).state = .idle → (s.1.sessions i).retryAt ≤ s.2 + kBackoffMaxMs
  due_le : ∀ i, (s.1.sessions i).state = .connecting →
    (s.1.sessions i).connackDue ≤ s.2 + kConnackTimeoutMs
  ahead : ∀ i, connectDone s.1.pc i → (s.1.sessions i).state = .idle →
    s.1.now < (s.1.sessions i).retryAt

section Clock

variable {pb : Nanopb} {node : NodeIdentity} {s : State × ℤ} {l : Label}

/-- The clock after a call. -/
lemma onTime.le (h : onTime s l) : s.2 ≤ l.uptime.getD s.2 := by
  cases hu : l.uptime with
  | none => exact le_rfl
  | some u => exact h u hu

/-- The clock `main` works by is one it has read. -/
lemma now_next (hnow : s.1.now ≤ s.2) (ht : onTime s l) :
    (next pb node s.1 l).now ≤ l.uptime.getD s.2 := by
  have hle := hnow.trans ht.le
  cases l with
  | top now | clock now => exact le_rfl
  | poll revents => cases revents <;> exact hle
  | _ => exact hle

variable (pb node) in
/-- A call after which the connect phase is over for a session, or was before. -/
lemma connectDone_next {i : SessionId} (hl : enabled s.1 l)
    (h : connectDone (next pb node s.1 l).pc i) :
    (next pb node s.1 l).now = s.1.now ∧
      (connectDone s.1.pc i ∨ ∃ rc uptime, l = .connect i rc uptime) := by
  cases l with
  | top now | clock now => rcases h with h | h <;> simp [next] at h
  | connect j rc uptime =>
      have hpc : s.1.pc = .connect j := hl
      refine ⟨rfl, ?_⟩
      cases j with
      | own =>
          obtain ⟨-, rfl⟩ : _ ∧ i = .own := h.resolve_left (by simp [next, SessionId.succ])
          exact .inr ⟨rc, uptime, rfl⟩
      | peer =>
          cases i with
          | own => exact .inl (.inr ⟨hpc, rfl⟩)
          | peer => exact .inr ⟨rc, uptime, rfl⟩
  | poll revents => cases revents <;> rcases h with h | h <;> simp [next] at h
  | event j evt =>
      have hpc : s.1.pc = .input j := hl.1
      rcases h with h | h <;> simp [next, hpc] at h
  | input j rc uptime => cases j <;> rcases h with h | h <;> simp [next, SessionId.succ] at h
  | step j answers => cases j <;> rcases h with h | h <;> simp [next, SessionId.succ] at h
  | publish c msg rc uptime => cases c <;> rcases h with h | h <;> simp [next, ChanId.succ] at h
  | disconnected j => exact ⟨rfl, .inl h⟩

/-- **The step lemma of the deadlines.** -/
theorem armed_inductive (pb : Nanopb) (node : NodeIdentity) :
    (clocked pb node).Inductive Armed where
  init := by
    refine ⟨(polled_inductive pb node).init, le_rfl, fun _ => ?_, fun _ _ => ?_,
      fun _ h => (by cases h), fun _ h => ?_⟩
    · exact (by decide : kBackoffMinMs ≤ kBackoffMinMs ∧ kBackoffMinMs ≤ kBackoffMaxMs)
    · exact (by decide : (0 : ℤ) ≤ 0 + kBackoffMaxMs)
    · rcases h with h | h
      · cases h
      · cases h.1
  step s l h hl := by
    obtain ⟨hen, ht⟩ := hl
    have hmove := move_next pb node hen h.polled
    have hclock := onTime.le ht
    have hread {u : ℤ} (hu : u ∈ l.uptime) : u = l.uptime.getD s.2 := by
      rw [Option.mem_def.mp hu, Option.getD_some]
    refine ⟨(polled_inductive pb node).step s.1 l h.polled hen, now_next h.now_le ht,
      fun i => (hmove i).backoff (h.backoff i), fun i hidle => ?_, fun i hconn => ?_,
      fun i hdone hidle => ?_⟩
    · rcases (hmove i).retryAt hidle with ⟨hs, -, heq⟩ | ⟨u, hu, heq⟩
      · calc ((next pb node s.1 l).sessions i).retryAt = (s.1.sessions i).retryAt := heq
          _ ≤ s.2 + kBackoffMaxMs := h.retry_le i hs
          _ ≤ l.uptime.getD s.2 + kBackoffMaxMs := by omega
      · calc ((next pb node s.1 l).sessions i).retryAt
            = u + ((next pb node s.1 l).sessions i).backoffMs := heq
          _ ≤ l.uptime.getD s.2 + kBackoffMaxMs :=
              Int.add_le_add (hread hu).le ((hmove i).backoff (h.backoff i)).2
    · rcases (hmove i).connackDue hconn with ⟨hs, heq⟩ | ⟨u, hu, heq⟩
      · calc ((next pb node s.1 l).sessions i).connackDue = (s.1.sessions i).connackDue := heq
          _ ≤ s.2 + kConnackTimeoutMs := h.due_le i hs
          _ ≤ l.uptime.getD s.2 + kConnackTimeoutMs := by omega
      · exact (heq.trans (congrArg (· + kConnackTimeoutMs) (hread hu))).le
    · obtain ⟨hnow, hbefore⟩ := connectDone_next pb node hen hdone
      have hgoal : s.1.now < ((next pb node s.1 l).sessions i).retryAt := by
        rcases (hmove i).retryAt hidle with ⟨hs, hatt, heq⟩ | ⟨u, hu, heq⟩
        · rw [heq]
          rcases hbefore with hdone' | ⟨rc, uptime, rfl⟩
          · exact h.ahead i hdone' hs
          · simpa [attempts, hs] using hatt
        · have hback := ((hmove i).backoff (h.backoff i)).1
          have hu' := ht u hu
          have hnow' := h.now_le
          rw [heq]
          simp only [kBackoffMinMs] at hback
          omega
      exact hnow ▸ hgoal

end Clock

end Passes

end ClimateNode.Gateway
