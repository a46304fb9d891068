import ClimateNode.Gateway.Deadline
import ClimateNode.Gateway.PollSet

/-!
Whether `main` of `gateway/src/main.cpp` can spin: what a poll reports that the pass
after it neither consumes nor gets rid of is reported again at once.  The loop looks
at `ZSOCK_POLLIN` only, while a poll also reports errors and hangups.

* `watched`: the passes, with what each was woken for and what it did about it.
* `NoSpin`: nothing a pass was woken for is left as it was.
* `noSpin_iff`: **when a pass leaves nothing**, over every run.
* `hangup_spins`: and a hangup is left.
-/

namespace ClimateNode.Gateway

open Automata

/-- The order in which the channels are published. -/
def ChanId.place : ChanId → ℕ
  | .telemetry => 0
  | .relayTelemetry => 1
  | .relayAck => 2
  | .relayStatus => 3

namespace Passes

/-! ### A pass, watched -/

/-- A call, and the descriptors for which the poll, if it is one, reports `POLLERR`,
`POLLHUP` or `POLLNVAL`. -/
structure Call where
  act : Label
  trouble : Descriptor → Bool

/-- What a pass was woken for, and what it did about it.  `timers` and `now` are those
at the poll. -/
structure Pass where
  failed : Bool
  reported : Descriptor → Bool
  readable : Descriptor → Bool
  /-- The sessions for which `next_deadline_ms` counted zero. -/
  overdue : SessionId → Bool
  timers : SessionId → SessionState × ℤ × ℤ × ℤ
  now : ℤ
  consumed : Descriptor → Bool
  changed : SessionId → Bool
  stirred : SessionId → Bool

/-- No pass yet, before the first poll. -/
def Pass.none : Pass :=
  ⟨false, fun _ => false, fun _ => false, fun _ => false, fun _ => (.idle, 0, 0, 0), 0,
    fun _ => false, fun _ => false, fun _ => false⟩

/-- A session without an accepted CONNACK whose time left is counted as zero. -/
def overdue (s : State) (i : SessionId) : Bool := (s.sessions i).armed.any fun a => a - s.now ≤ 0

/-- A call consumes a readable descriptor: `mqtt_input` on the socket, or the read of
the eventfd that the functions of the publish phase begin with. -/
def consumes (s : State) (l : Label) (d : Descriptor) : Bool :=
  match l with
  | .input i _ _ => d = .sock i ∧ s.readable d
  | .publish c _ _ _ => d = .evt c ∧ s.readable d ∧ (s.sessions c.session).state = .serving
  | _ => false

section Machine

variable (pb : Nanopb) (node : NodeIdentity)

/-- A call gives a session a reason to leave its state: `mqtt_input` fails, a CONNACK
is in or overdue, a connection is lost or `mqtt_live` says so, a publish fails. -/
def stirs (s : State) (l : Label) (i : SessionId) : Bool :=
  match l with
  | .input j rc _ => j = i ∧ s.readable (.sock i) ∧ rc ≠ 0
  | .step j answers => j = i &&
      match (s.sessions i).state with
      | .connecting => (s.sessions i).connected || (s.sessions i).connectFailed ||
          (s.sessions i).connackDue ≤ s.now
      | .serving => !(s.sessions i).connected || (answers.live ≠ 0 ∧ answers.live ≠ -eAgain)
      | .idle => false
  | .publish c msg rc _ => c.session = i ∧ s.readable (.evt c) ∧
      (s.sessions i).state = .serving ∧ (msg.bind (payloadOf pb c)).isSome ∧ rc ≠ 0
  | _ => false

/-- The watch: a poll starts it anew, and the calls after it add to it. -/
def Pass.update (s : State) (p : Pass) (k : Call) : Pass :=
  match k.act with
  | .poll revents =>
      { failed := revents.isNone
        reported := fun d => d ∈ pollSet s.sessions ∧
          revents.any fun r => r d || k.trouble d
        readable := fun d => d ∈ pollSet s.sessions ∧ revents.any fun r => r d
        overdue := Passes.overdue s
        timers := fun i => (s.sessions i).timers
        now := s.now
        consumed := fun _ => false
        changed := fun _ => false
        stirred := fun _ => false }
  | l =>
      { p with
        consumed := fun d => p.consumed d || consumes s l d
        changed := fun i => p.changed i ||
          ((next pb node s l).sessions i).state != (s.sessions i).state
        stirred := fun i => p.stirred i || stirs pb s l i }

/-- The passes by the clock, watched. -/
def watched : Machine ((State × ℤ) × Pass) Call :=
  ((clocked pb node).relabel Call.act).annotate Pass.none fun s => Pass.update pb node s.1

end Machine

/-- A pass leaves nothing it was woken for as it was: each descriptor the poll reported
is consumed or its session has changed its state, and so has each session for which
no time was left. -/
def NoSpin (p : Pass) : Prop :=
  (∀ d, p.reported d = true → p.consumed d = true ∨ p.changed d.session = true) ∧
    ∀ i, p.overdue i = true → p.changed i = true

/-- Whatever the poll reported is readable, or the session has a reason of its own to
leave its state; and the poll did not fail with no time left for a session. -/
def Roused (p : Pass) : Prop :=
  (∀ d, p.reported d = true → p.readable d = true ∨ p.stirred d.session = true) ∧
    (p.failed = true → ∀ i, p.overdue i = false)

/-- What is consumed was readable. -/
lemma readable_of_consumes {s : State} {l : Label} {d : Descriptor} (h : consumes s l d = true) :
    s.readable d := by
  cases l <;> simp only [consumes, Bool.false_eq_true, decide_eq_true_eq] at h
  · exact h.2
  · exact h.2.1

/-! ### What changes a session -/

section Stir

variable {pb : Nanopb} {node : NodeIdentity} {s : State} {l : Label} {i : SessionId}

lemma on_state_ne {ss : Sessions} {f : Session → Session} {j : SessionId} :
    (ss.on j f i).state ≠ (ss i).state ↔ j = i ∧ (f (ss i)).state ≠ (ss i).state := by
  by_cases hji : j = i
  · subst hji
    simp [Sessions.on]
  · simp [Sessions.on, hji, Ne.symm hji]

lemma input_state_ne {t : Session} (ht : t.state ≠ .idle) (rc uptime : ℤ) :
    (t.input rc uptime).state ≠ t.state ↔ rc ≠ 0 := by
  by_cases hrc : rc = 0
  · simp [Session.input, hrc]
  · simp [Session.input, hrc, Ne.symm ht]

lemma flush_state_ne {t : Session} (c : ChanId) (msg : Option c.Msg) (rc uptime : ℤ) :
    (t.flush pb c msg rc uptime).state ≠ t.state ↔
      t.state = .serving ∧ (msg.bind (payloadOf pb c)).isSome ∧ rc ≠ 0 := by
  rw [Session.flush]
  by_cases hst : t.state = .serving
  · rw [if_pos hst]
    cases hmsg : msg.bind (payloadOf pb c) with
    | none => simp [Session.publishPending, hmsg]
    | some payload =>
        by_cases hrc : rc = 0 <;> simp [Session.publishPending, hmsg, hrc, hst]
  · simp [hst]

lemma step_state_ne {t : Session} (j : SessionId) (now : ℤ) (answers : StepAnswers) :
    (t.step j now answers).state ≠ t.state ↔
      (match t.state with
        | .connecting => t.connected || t.connectFailed || decide (t.connackDue ≤ now)
        | .serving => !t.connected || decide (answers.live ≠ 0 ∧ answers.live ≠ -eAgain)
        | .idle => false) = true := by
  rw [Session.step]
  cases hst : t.state with
  | idle => simp [hst]
  | connecting =>
      dsimp only
      split_ifs with hconn hfail hdue <;> simp_all
  | serving =>
      dsimp only
      split_ifs with hconn hlive
      · simpa [hconn] using hlive
      · simpa [hst, hconn] using hlive
      · simp_all

variable (pb node) in
/-- **What changes a session**: in the calls after the poll, a session leaves its state
if and only if it has a reason to. -/
lemma state_ne_iff_stirs (hl : enabled s l) (hp : Polled s)
    (hl' : ∀ j rc uptime, l ≠ .connect j rc uptime) :
    ((next pb node s l).sessions i).state ≠ (s.sessions i).state ↔ stirs pb s l i = true := by
  cases l with
  | top now | clock now => simp [next, stirs]
  | connect j rc uptime => exact absurd rfl (hl' j rc uptime)
  | poll revents => cases revents <;> simp [next, stirs]
  | event j evt => simp [next, stirs, mqttEvtHandler_state]
  | input j rc uptime =>
      by_cases hread : s.readable (.sock j)
      · have hst : (s.sessions j).state ≠ .idle := hp j j hl (.inl rfl) hread.1
        simp only [next, if_pos hread]
        rw [on_state_ne]
        by_cases hji : j = i
        · subst hji
          simp [stirs, hread, input_state_ne hst]
        · simp [stirs, hji]
      · have hkeep : (next pb node s (.input j rc uptime)).sessions = s.sessions := by
          simp [next, hread]
        by_cases hji : j = i
        · subst hji
          simp [hkeep, stirs, hread]
        · simp [hkeep, stirs, hji]
  | step j answers =>
      simp only [next]
      rw [on_state_ne, step_state_ne]
      by_cases hji : j = i <;> simp [stirs, hji]
  | publish c msg rc uptime =>
      by_cases hread : s.readable (.evt c)
      · simp only [next, if_pos hread]
        rw [on_state_ne, flush_state_ne]
        simp [stirs, hread]
      · have hkeep : (next pb node s (.publish c msg rc uptime)).sessions = s.sessions := by
          simp [next, hread]
        simp [hkeep, stirs, hread]
  | disconnected j =>
      simp only [next]
      rw [on_state_ne]
      simp [stirs]

end Stir

/-! ### The watch along a run -/

/-- `main` is in a pass, the poll behind it. -/
def Pc.inPass : Pc → Bool
  | .input _ | .clock | .step _ | .publish _ => true
  | _ => false

/-- The descriptor has yet to be looked at in the pass. -/
def Pc.toRead : Pc → Descriptor → Bool
  | .input .own, _ => true
  | .input .peer, .sock i => i = .peer
  | .input .peer, .evt _ | .clock, .evt _ | .step _, .evt _ => true
  | .publish c', .evt c => c'.place ≤ c.place
  | _, _ => false

/-- The session has yet to be stepped in the pass. -/
def Pc.toStep : Pc → SessionId → Bool
  | .input _, _ | .clock, _ | .step .own, _ => true
  | .step .peer, i => i = .peer
  | _, _ => false

/-- The watch against the pass. -/
structure Watching (s : State) (p : Pass) : Prop where
  seen : s.pc.inPass → ∀ d, p.readable d = true ↔ s.readable d
  timers : s.pc.inPass → ∀ i, p.changed i = false → (s.sessions i).timers = p.timers i
  now_le : s.pc.inPass → p.now ≤ s.now
  serving : ∀ c, p.readable (.evt c) = true → (p.timers c.session).1 = .serving
  overdue : ∀ i, p.overdue i = true →
    (p.timers i).1 = .connecting ∧ (p.timers i).2.2.2 ≤ p.now
  consumed : ∀ d, p.consumed d = true → p.readable d = true
  stirred : s.pc.inPass ∨ s.pc = .top → ∀ i, p.changed i = p.stirred i
  read : s.pc.inPass ∨ s.pc = .top → ∀ d, p.readable d = true →
    s.pc.toRead d = true ∨ p.consumed d = true ∨ p.changed d.session = true
  stepped : s.pc.inPass ∨ s.pc = .top → p.failed = false → ∀ i, p.overdue i = true →
    s.pc.toStep i = true ∨ p.changed i = true
  failed : p.failed = true → s.pc.inPass = false ∧ (s.pc = .top → ∀ i, p.changed i = false)

section Watch

variable {pb : Nanopb} {node : NodeIdentity} {s : State} {t : ℤ} {p : Pass} {k : Call}

/-- A session that keeps its state keeps its timers. -/
lemma timers_of_state_eq {i : SessionId} {l : Label} (hl : enabled s l) (hp : Polled s)
    (hl' : ∀ j rc uptime, l ≠ .connect j rc uptime)
    (hstate : ((next pb node s l).sessions i).state = (s.sessions i).state) :
    ((next pb node s l).sessions i).timers = (s.sessions i).timers := by
  have hatt : attempts s i l = false := by
    cases l with
    | connect j rc uptime => exact absurd rfl (hl' j rc uptime)
    | _ => rfl
  cases move_next pb node hl hp i with
  | keep _ h => exact h
  | attempt hatt' => simp [hatt] at hatt'
  | fail hatt' => simp [hatt] at hatt'
  | accept _ hs ht => simp [hs, ht] at hstate
  | drop _ hs _ _ ht => exact absurd (hstate ▸ ht) hs

/-- A session with no time left, at a poll, waits for its CONNACK: one that waits to
retry has just been given its turn. -/
lemma overdue_connecting (h : Armed (s, t)) (hpc : s.pc = .poll) {i : SessionId}
    (hdue : overdue s i = true) :
    (s.sessions i).timers.1 = .connecting ∧ (s.sessions i).timers.2.2.2 ≤ s.now := by
  cases hst : (s.sessions i).state with
  | idle =>
      have hpast : (s.sessions i).retryAt ≤ s.now := by
        simpa [overdue, Session.armed, hst] using hdue
      exact absurd hpast (not_le.mpr (h.ahead i (.inl hpc) hst))
  | connecting =>
      have hpast : (s.sessions i).connackDue ≤ s.now := by
        simpa [overdue, Session.armed, hst] using hdue
      exact ⟨hst, hpast⟩
  | serving => simp [overdue, Session.armed, hst] at hdue

/-- The poll: the watch starts. -/
lemma Watching.poll (h : Armed (s, t)) (hpc : s.pc = .poll) (revents : Option (Descriptor → Bool))
    (trouble : Descriptor → Bool) :
    Watching (next pb node s (.poll revents)) (Pass.update pb node s p ⟨.poll revents, trouble⟩) := by
  have hdue (i : SessionId) (hi : Passes.overdue s i = true) := overdue_connecting h hpc hi
  have hserving (c : ChanId) (hc : .evt c ∈ pollSet s.sessions) :
      (s.sessions c.session).timers.1 = .serving :=
    (mem_pollSet.mp hc : Descriptor.polled _ (.evt c))
  cases revents with
  | none =>
      exact ⟨by simp [next, Pc.inPass], by simp [next, Pc.inPass], by simp [next, Pc.inPass],
        fun c hc => by simp [Pass.update] at hc, hdue, by simp [Pass.update],
        fun _ _ => rfl, fun _ d hd => by simp [Pass.update] at hd, by simp [Pass.update],
        by simp [Pass.update, next, Pc.inPass]⟩
  | some revents =>
      refine ⟨fun _ d => by simp [Pass.update, next, State.readable], fun _ _ _ => rfl,
        fun _ => le_rfl, fun c hc => hserving c ?_, hdue, by simp [Pass.update], fun _ _ => rfl,
        fun _ d _ => .inl rfl, fun _ _ i _ => .inl rfl, by simp [Pass.update]⟩
      exact (by simpa [Pass.update] using hc : _ ∧ _).1

/-- What a call other than a poll adds to the watch. -/
lemma Pass.update_eq (hnotPoll : ∀ revents, k.act ≠ .poll revents) :
    Pass.update pb node s p k =
      { p with
        consumed := fun d => p.consumed d || consumes s k.act d
        changed := fun i => p.changed i ||
          ((next pb node s k.act).sessions i).state != (s.sessions i).state
        stirred := fun i => p.stirred i || stirs pb s k.act i } := by
  rw [Pass.update]
  split
  · next revents hact => exact absurd hact (hnotPoll revents)
  · rfl

/-- A call in a pass that starts no watch and no connection: what it looks at is looked
at, and what is left is for the calls to come. -/
lemma Watching.goOn (h : Watching s p) (hp : Polled s) (hl : enabled s k.act)
    (hin : s.pc.inPass = true) (hnotPoll : ∀ revents, k.act ≠ .poll revents)
    (hnotConnect : ∀ j rc uptime, k.act ≠ .connect j rc uptime)
    (hfds : (next pb node s k.act).fds = s.fds ∧ (next pb node s k.act).revents = s.revents)
    (hnow : s.now ≤ (next pb node s k.act).now)
    (hread : ∀ d, p.readable d = true → s.pc.toRead d = true →
      (next pb node s k.act).pc.toRead d = true ∨ (Pass.update pb node s p k).consumed d = true ∨
        (Pass.update pb node s p k).changed d.session = true)
    (hstep : ∀ i, p.overdue i = true → s.pc.toStep i = true →
      (next pb node s k.act).pc.toStep i = true ∨
        (Pass.update pb node s p k).changed i = true) :
    Watching (next pb node s k.act) (Pass.update pb node s p k) := by
  have hnotFailed : p.failed = false := by
    by_contra hfailed
    have := (h.failed (by simpa using hfailed)).1
    simp [hin] at this
  have hstir (i : SessionId) := state_ne_iff_stirs (i := i) pb node hl hp hnotConnect
  rw [Pass.update_eq hnotPoll] at hread hstep ⊢
  refine ⟨fun _ d => ?_, fun _ i hi => ?_, fun _ => (h.now_le hin).trans hnow, h.serving, h.overdue,
    fun d hd => ?_, fun _ i => ?_, fun _ d hd => ?_, fun _ _ i hi => ?_, fun hfailed => ?_⟩
  · rw [State.readable, hfds.1, hfds.2]
    exact h.seen hin d
  · obtain ⟨hold, hstate⟩ : p.changed i = false ∧
        ((next pb node s k.act).sessions i).state = (s.sessions i).state := by
      simpa using hi
    exact (timers_of_state_eq hl hp hnotConnect hstate).trans (h.timers hin i hold)
  · rcases Bool.or_eq_true_iff.mp hd with hd | hd
    · exact h.consumed d hd
    · exact (h.seen hin d).mpr (readable_of_consumes hd)
  · have hnew : (((next pb node s k.act).sessions i).state != (s.sessions i).state) =
        stirs pb s k.act i := Bool.eq_iff_iff.mpr (bne_iff_ne.trans (hstir i))
    exact congrArg₂ (· || ·) (h.stirred (.inl hin) i) hnew
  · rcases h.read (.inl hin) d hd with hto | hcons | hch
    · exact hread d hd hto
    · exact .inr (.inl (by simp [hcons]))
    · exact .inr (.inr (by simp [hch]))
  · rcases h.stepped (.inl hin) hnotFailed i hi with hto | hch
    · exact hstep i hi hto
    · exact .inr (by simp [hch])
  · exact absurd hfailed (by simp [hnotFailed])

/-- A session without time is given up or accepted where it is stepped. -/
lemma Watching.changed_of_step (h : Watching s p) (hp : Polled s) {i : SessionId}
    {answers : StepAnswers} {trouble : Descriptor → Bool} (hpc : s.pc = .step i)
    (hdue : p.overdue i = true) :
    (Pass.update pb node s p ⟨.step i answers, trouble⟩).changed i = true := by
  have hin : s.pc.inPass = true := by rw [hpc]; rfl
  rw [Pass.update_eq (by simp)]
  by_cases hch : p.changed i = true
  · simp [hch]
  · have htimers := h.timers hin i (by simpa using hch)
    obtain ⟨hconn, hpast⟩ := h.overdue i hdue
    have hst : (s.sessions i).state = .connecting := by
      rw [← htimers] at hconn
      exact hconn
    have hlate : (s.sessions i).connackDue ≤ s.now := by
      rw [← htimers] at hpast
      exact hpast.trans (h.now_le hin)
    have hstirs : stirs pb s (.step i answers) i = true := by simp [stirs, hst, hlate]
    have hne : ((next pb node s (.step i answers)).sessions i).state ≠ (s.sessions i).state :=
      (state_ne_iff_stirs (l := .step i answers) pb node hpc hp (by simp)).mpr hstirs
    simp [hne]

/-- A readable eventfd is drained where its channel is published, unless the session
has been given up. -/
lemma Watching.read_of_publish (h : Watching s p) {c : ChanId} {msg : Option c.Msg}
    {rc uptime : ℤ} {trouble : Descriptor → Bool} (hpc : s.pc = .publish c)
    (hread : p.readable (.evt c) = true) :
    (Pass.update pb node s p ⟨.publish c msg rc uptime, trouble⟩).consumed (.evt c) = true ∨
      (Pass.update pb node s p ⟨.publish c msg rc uptime, trouble⟩).changed c.session = true := by
  have hin : s.pc.inPass = true := by rw [hpc]; rfl
  rw [Pass.update_eq (by simp)]
  by_cases hch : p.changed c.session = true
  · exact .inr (by simp [hch])
  · have hst : (s.sessions c.session).state = .serving := by
      have hserving := h.serving c hread
      rw [← h.timers hin c.session (by simpa using hch)] at hserving
      exact hserving
    have hreadable := (h.seen hin _).mp hread
    exact .inl (by simp [consumes, hst, hreadable])

/-- A call outside of the pass. -/
lemma Watching.outside (h : Watching s p) (hnotPoll : ∀ revents, k.act ≠ .poll revents)
    (hout : (next pb node s k.act).pc.inPass = false)
    (hconsumes : ∀ d, consumes s k.act d = false)
    (htop : (next pb node s k.act).pc = .top → s.pc = .top ∧ ∀ i,
      ((next pb node s k.act).sessions i).state = (s.sessions i).state ∧
        stirs pb s k.act i = false) :
    Watching (next pb node s k.act) (Pass.update pb node s p k) := by
  have hin {P : Prop} (hP : (next pb node s k.act).pc.inPass = true) : P := by simp [hout] at hP
  have hback (hscope : (next pb node s k.act).pc.inPass = true ∨
      (next pb node s k.act).pc = .top) := htop (hscope.resolve_left (by simp [hout]))
  rw [Pass.update_eq hnotPoll]
  refine ⟨fun hP => hin hP, fun hP => hin hP, fun hP => hin hP, h.serving, h.overdue, fun d hd => ?_,
    fun hscope i => ?_, fun hscope d hd => ?_, fun hscope hf i hi => ?_, fun hf => ⟨hout, ?_⟩⟩
  · exact h.consumed d (by simpa [hconsumes d] using hd)
  · obtain ⟨hpc, hsame⟩ := hback hscope
    simp [h.stirred (.inr hpc) i, (hsame i).1, (hsame i).2]
  · obtain ⟨hpc, -⟩ := hback hscope
    rcases h.read (.inr hpc) d hd with hto | hcons | hch
    · simp [hpc, Pc.toRead] at hto
    · exact .inr (.inl (by simp [hcons]))
    · exact .inr (.inr (by simp [hch]))
  · obtain ⟨hpc, -⟩ := hback hscope
    rcases h.stepped (.inr hpc) hf i hi with hto | hch
    · simp [hpc, Pc.toStep] at hto
    · exact .inr (by simp [hch])
  · intro hpc' i
    obtain ⟨hpc, hsame⟩ := htop hpc'
    simp [(h.failed hf).2 hpc i, (hsame i).1]

lemma watching_boot : Watching boot Pass.none where
  seen hin := absurd hin Bool.false_ne_true
  timers hin := absurd hin Bool.false_ne_true
  now_le hin := absurd hin Bool.false_ne_true
  serving _ hread := absurd hread Bool.false_ne_true
  overdue _ hdue := absurd hdue Bool.false_ne_true
  consumed _ hcons := absurd hcons Bool.false_ne_true
  stirred _ _ := rfl
  read _ _ hread := absurd hread Bool.false_ne_true
  stepped _ _ _ hdue := absurd hdue Bool.false_ne_true
  failed hfailed := absurd hfailed Bool.false_ne_true

/-- **The step lemma of the watch.** -/
theorem watching_inductive (pb : Nanopb) (node : NodeIdentity) :
    (watched pb node).Inductive fun s => Armed s.1 ∧ Watching s.1.1 s.2 := by
  refine Machine.Inductive.and (((armed_inductive pb node).relabel Call.act).annotate) ?_ ?_
  · exact watching_boot
  · rintro ⟨⟨s, t⟩, p⟩ ⟨l, trouble⟩ harmed h ⟨hl, ht⟩
    have hp : Polled s := harmed.polled
    have hclock (u : ℤ) (hu : u ∈ l.uptime) : s.now ≤ u := harmed.now_le.trans (ht u hu)
    cases l with
    | top now =>
        exact h.outside (k := ⟨.top now, trouble⟩) (by simp) rfl (fun _ => rfl) (by simp [next])
    | connect i rc uptime =>
        refine h.outside (k := ⟨.connect i rc uptime, trouble⟩) (by simp) ?_ (fun _ => rfl) ?_
        · cases i <;> rfl
        · cases i <;> simp [next, SessionId.succ]
    | poll revents => exact Watching.poll (p := p) harmed hl revents trouble
    | event i evt =>
        have hpc : s.pc = .input i := hl.1
        exact h.goOn (k := ⟨.event i evt, trouble⟩) hp hl (by rw [hpc]; rfl) (by simp) (by simp)
          ⟨rfl, rfl⟩ le_rfl (fun d _ hto => .inl hto) fun i _ hto => .inl hto
    | input i rc uptime =>
        have hpc : s.pc = .input i := hl
        have hin : s.pc.inPass = true := by rw [hpc]; rfl
        refine h.goOn (k := ⟨.input i rc uptime, trouble⟩) hp hl hin (by simp) (by simp)
          ⟨rfl, rfl⟩ le_rfl (fun d hd hto => ?_) fun j _ _ => .inl (by cases i <;> rfl)
        -- the socket read here is consumed, the others are still to come
        by_cases hsock : d = .sock i
        · have hread := (h.seen hin d).mp hd
          subst hsock
          refine .inr (.inl ?_)
          rw [Pass.update_eq (by simp)]
          simp [consumes, hread]
        · refine .inl ?_
          rw [hpc] at hto
          cases d with
          | evt c => cases i <;> rfl
          | sock j =>
              cases i <;> cases j
              · exact absurd rfl hsock
              · rfl
              · exact absurd hto Bool.false_ne_true
              · exact absurd rfl hsock
    | clock now =>
        have hpc : s.pc = .clock := hl
        refine h.goOn (k := ⟨.clock now, trouble⟩) hp hl (by rw [hpc]; rfl) (by simp) (by simp)
          ⟨rfl, rfl⟩ (hclock now rfl) (fun d _ hto => .inl ?_) fun i _ _ => .inl rfl
        cases d with
        | sock i => simp [hpc, Pc.toRead] at hto
        | evt c => rfl
    | step i answers =>
        have hpc : s.pc = .step i := hl
        refine h.goOn (k := ⟨.step i answers, trouble⟩) hp hl (by rw [hpc]; rfl) (by simp) (by simp)
          ⟨rfl, rfl⟩ le_rfl (fun d _ hto => .inl ?_) fun j hj hto => ?_
        · cases d with
          | sock j => simp [hpc, Pc.toRead] at hto
          | evt c => cases i <;> cases c <;> rfl
        · -- the session stepped here changes if it was overdue
          by_cases hij : j = i
          · subst hij
            exact .inr (h.changed_of_step hp hpc hj)
          · refine .inl ?_
            rw [hpc] at hto
            cases i <;> cases j <;> simp_all [next, SessionId.succ, Pc.toStep]
    | publish c msg rc uptime =>
        have hpc : s.pc = .publish c := hl
        refine h.goOn (k := ⟨.publish c msg rc uptime, trouble⟩) hp hl (by rw [hpc]; rfl) (by simp)
          (by simp) ⟨rfl, rfl⟩ le_rfl (fun d hd hto => ?_) fun j _ hto => ?_
        · rw [hpc] at hto
          cases d with
          | sock j => simp [Pc.toRead] at hto
          | evt c' =>
              -- the channel read here is consumed, those behind it are still to come
              by_cases hcc : c' = c
              · subst hcc
                exact .inr (h.read_of_publish hpc hd)
              · refine .inl ?_
                cases c <;> cases c' <;> simp_all [next, ChanId.succ, Pc.toRead, ChanId.place]
        · simp [hpc, Pc.toStep] at hto
    | disconnected i =>
        by_cases hin : s.pc.inPass = true
        · exact h.goOn (k := ⟨.disconnected i, trouble⟩) hp hl hin (by simp) (by simp)
            ⟨rfl, rfl⟩ le_rfl (fun d _ hto => .inl hto) fun i _ hto => .inl hto
        · refine h.outside (k := ⟨.disconnected i, trouble⟩) (by simp)
            (Bool.eq_false_of_not_eq_true hin) (fun _ => rfl)
            fun hpc => ⟨hpc, fun j => ⟨on_state rfl j, rfl⟩⟩

end Watch

/-! ### Passes that leave nothing -/

/-- **When a pass leaves nothing**: at the end of each pass of a run, nothing the pass
was woken for is left as it was if and only if each descriptor the poll reported was
readable, or its session had a reason of its own to leave its state, and the poll
did not fail with no time left for a session. -/
theorem noSpin_iff {pb : Nanopb} {node : NodeIdentity} {ks : List Call}
    {s : (State × ℤ) × Pass} (hrun : (watched pb node).Run ks s) (hpc : s.1.1.pc = .top) :
    NoSpin s.2 ↔ Roused s.2 := by
  obtain ⟨-, h⟩ := hrun.invariant (watching_inductive pb node)
  constructor
  · rintro ⟨hleft, hover⟩
    refine ⟨fun d hd => ?_, fun hfailed i => ?_⟩
    · rcases hleft d hd with hcons | hch
      · exact .inl (h.consumed d hcons)
      · exact .inr (h.stirred (.inr hpc) d.session ▸ hch)
    · by_contra hdue
      have hch := hover i (by simpa using hdue)
      simp [(h.failed hfailed).2 hpc i] at hch
  · rintro ⟨hroused, hfine⟩
    refine ⟨fun d hd => ?_, fun i hi => ?_⟩
    · rcases hroused d hd with hread | hstir
      · have hto : s.1.1.pc.toRead d = false := by rw [hpc]; rfl
        simpa [hto] using h.read (.inr hpc) d hread
      · exact .inr (h.stirred (.inr hpc) d.session ▸ hstir)
    · have hfailed : s.2.failed = false := by
        by_contra hf
        have := hfine (by simpa using hf) i
        simp [this] at hi
      have hto : s.1.1.pc.toStep i = false := by rw [hpc]; rfl
      simpa [hto] using h.stepped (.inr hpc) hfailed i hi

instance (pb : Nanopb) (node : NodeIdentity) (s : (State × ℤ) × Pass) (k : Call) :
    Decidable ((watched pb node).enabled s k) :=
  inferInstanceAs (Decidable (enabled s.1.1 k.act ∧ onTime s.1 k.act))

/-- A pass in which the own session connects, and the poll has something to say about
its socket. -/
def socketPass (readable trouble : Bool) : List Call :=
  [.top 0, .connect .own 0 5, .connect .peer (-116) 6,
    .poll (some fun d => d == .sock .own && readable), .input .own 0 7, .input .peer 0 7, .clock 8,
    .step .own ⟨none, 0, 0, 0, 8⟩, .step .peer ⟨none, 0, 0, 0, 8⟩, .publish .telemetry none 0 8,
    .publish .relayTelemetry none 0 8, .publish .relayAck none 0 8,
    .publish .relayStatus none 0 8].map fun l => ⟨l, fun d => d == .sock .own && trouble⟩

/-- A hangup with something to read is consumed. -/
theorem readablePass_noSpin : ∃ s,
    (watched Nanopb.proto3 ⟨cstr "nucleo_h753zi", cstr "nucleo-1"⟩).Run (socketPass true true) s ∧
      NoSpin s.2 := by
  have hrun : (watched Nanopb.proto3 ⟨cstr "nucleo_h753zi", cstr "nucleo-1"⟩).Run
    (socketPass true true) _ := Machine.run_of_exec rfl
  refine ⟨_, hrun, (noSpin_iff hrun rfl).mpr ⟨fun d hd => .inl ?_, fun hfailed => ?_⟩⟩
  · rcases d with i | c
    · cases i <;> exact hd
    · cases c <;> exact hd
  · exact absurd hfailed Bool.false_ne_true

/-- **A hangup spins**: a poll that reports `POLLHUP` without `POLLIN` wakes a pass that
leaves the session as it was, so that the next poll reports it again. -/
theorem hangup_spins : ¬ ∀ ks s,
    (watched Nanopb.proto3 ⟨cstr "nucleo_h753zi", cstr "nucleo-1"⟩).Run ks s →
    s.1.1.pc = .top → NoSpin s.2 := by
  intro h
  have hrun : (watched Nanopb.proto3 ⟨cstr "nucleo_h753zi", cstr "nucleo-1"⟩).Run
    (socketPass false true) _ := Machine.run_of_exec rfl
  rcases (h _ _ hrun rfl).1 (.sock .own) rfl with hconsumed | hchanged
  · exact absurd hconsumed Bool.false_ne_true
  · exact absurd hchanged Bool.false_ne_true

end Passes

end ClimateNode.Gateway
