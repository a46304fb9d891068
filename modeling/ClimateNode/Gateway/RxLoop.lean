import ClimateNode.Automata.Product
import ClimateNode.Gateway.HeartbeatQueue
import ClimateNode.Gateway.Relay

/-!
`rx_thread` of `gateway/src/relay.cpp`: its start, which may fail, and its loop, with the
heartbeat interrupt and the clock beside it.  A turn drains the heartbeat queue, reads
the clock, takes a step of the liveness machine and publishes what changed; a frame that
finds the queue full is lost.

* `thread`: the thread, with the frames heard since the last drain was over.
* `orderly_inductive`: the turns follow each other, and each frame is heard in one.
* `machine`: the thread and the queue.
* `sees_inductive`: **what a turn sees** of the frames heard: a beat that is lost is made
  up for by one that is not, unless it found the queue full of frames of another layout.
* `presence_of_frames`: **the verdict on the peer**, from the frames heard alone.
-/

namespace ClimateNode.RxLoop

open Automata HeartbeatQueue

/-! ### The thread -/

/-- A frame of the heartbeat filter, when it arrived, and the frames it found queued. -/
structure Arrival where
  time : ℤ
  frame : CanFrame
  found : List CanFrame
  deriving DecidableEq, Repr

/-- The frame is a heartbeat. -/
def Arrival.Beat (a : Arrival) : Prop := IsHeartbeat a.frame.bytes

instance (a : Arrival) : Decidable a.Beat := inferInstanceAs (Decidable (IsHeartbeat _))

/-- The frame found the queue full of frames of another layout. -/
def Arrival.ShutOut (a : Arrival) : Prop :=
  kHeartbeatQueueLen ≤ a.found.length ∧ ∀ frame ∈ a.found, ¬ IsHeartbeat frame.bytes

instance (a : Arrival) : Decidable a.ShutOut := inferInstanceAs (Decidable (_ ∧ _))

/-- One call of `drain_heartbeats`: when the one before it was over, the frames heard
since, those lost included, when it was over itself, and what it answered. -/
structure Drain where
  opened : ℤ
  heard : List Arrival
  closed : ℤ
  seen : Bool
  deriving DecidableEq, Repr

/-- One step of the liveness machine: the drain and the clock it was called with. -/
structure Turn extends Drain where
  clock : ℤ
  deriving DecidableEq, Repr

/-- The call of `liveness_step`. -/
def Turn.call (turn : Turn) : LivenessCall := ⟨turn.seen, turn.clock⟩

/-- Where `rx_thread` stands: in front of each of its four calls at the start, about to
set up the liveness machine, or gone, the relay disabled; in `isotp_recv`, evaluating the
arguments of `liveness_step`, or in `publish_status`. -/
inductive Pc where
  | start
  | canStart
  | addFilter
  | bind
  | watch
  | disabled
  | recv
  | turn
  | publish (online : Bool)
  deriving DecidableEq, Repr

/-- `EALREADY`, as the target numbers it. -/
def eAlready : ℤ := 120

/-- The thread and its clock.  `drained` and `clock` are the arguments evaluated so far;
`since` is when the liveness machine was set up. -/
structure State where
  pc : Pc
  now : ℤ
  /-- The heartbeat filter is installed. -/
  filtered : Bool
  since : ℤ
  liveness : Liveness
  opened : ℤ
  heard : List Arrival
  drained : Option Drain
  clock : Option ℤ
  turns : List Turn
  /-- The statuses `publish_status` was called with. -/
  attempted : List RelayStatus
  /-- Those of them stored. -/
  published : List RelayStatus
  deriving DecidableEq, Repr

/-- The atomic actions of the thread, and the arrival of a frame, with what it finds in the
queue.  The order in which the two arguments are evaluated is the compiler's. -/
inductive Label where
  | tick (ms : ℕ)
  | ready (ok : Bool)
  | canStart (rc : ℤ)
  | addFilter (rc : ℤ)
  | bind (rc : ℤ)
  | watch
  | put (frame : CanFrame) (found : List CanFrame)
  | recv
  | call
  | get (seen : Bool) (uninit : Heartbeat)
  | done (seen : Bool)
  | readClock
  | step (drain : Drain) (clock : ℤ)
  | publish (online : Bool)
  | publishFail (online : Bool)
  deriving DecidableEq, Repr

/-- Which actions may fire. -/
def enabled (s : State) : Label → Prop
  | .tick _ => True
  | .ready _ => s.pc = .start
  | .canStart _ => s.pc = .canStart
  | .addFilter _ => s.pc = .addFilter
  | .bind _ => s.pc = .bind
  | .watch => s.pc = .watch
  | .put _ _ => s.filtered = true
  | .recv => s.pc = .recv
  | .call | .get _ _ | .done _ => s.pc = .turn ∧ s.drained = none
  | .readClock => s.pc = .turn ∧ s.clock = none
  | .step drain clock => s.pc = .turn ∧ s.drained = some drain ∧ s.clock = some clock
  | .publish online | .publishFail online => s.pc = .publish online

instance (s : State) (l : Label) : Decidable (enabled s l) := by
  cases l <;> dsimp only [enabled] <;> infer_instance

/-- What the step of the liveness machine answers. -/
def State.verdict (s : State) (drain : Drain) (clock : ℤ) : Liveness × Bool :=
  livenessStep s.liveness drain.seen clock kHeartbeatTimeoutMs

/-- What each action does. -/
def next (s : State) : Label → State
  | .tick ms => { s with now := s.now + ms }
  | .ready ok => { s with pc := if ok then .canStart else .disabled }
  | .canStart rc => { s with pc := if rc ≠ 0 ∧ rc ≠ -eAlready then .disabled else .addFilter }
  | .addFilter rc =>
      if rc < 0 then { s with pc := .disabled } else { s with pc := .bind, filtered := true }
  | .bind rc => { s with pc := if rc ≠ 0 then .disabled else .watch }
  | .watch => { s with pc := .recv, since := s.now, liveness := ⟨.unknown, s.now⟩ }
  | .put frame found => { s with heard := s.heard ++ [⟨s.now, frame, found⟩] }
  | .recv => { s with pc := .turn }
  | .call | .get _ _ => s
  | .done seen =>
      { s with drained := some ⟨s.opened, s.heard, s.now, seen⟩, opened := s.now, heard := [] }
  | .readClock => { s with clock := some s.now }
  | .step drain clock =>
      { s with pc := if (s.verdict drain clock).2 then
                  .publish ((s.verdict drain clock).1.state == .online) else .recv,
               liveness := (s.verdict drain clock).1, drained := none, clock := none,
               turns := s.turns ++ [⟨drain, clock⟩] }
  | .publish online =>
      { s with pc := .recv, attempted := s.attempted ++ [publishStatus online],
               published := s.published ++ [publishStatus online] }
  | .publishFail online =>
      { s with pc := .recv, attempted := s.attempted ++ [publishStatus online] }

/-- The thread is created at `t0`. -/
def boot (t0 : ℤ) : State :=
  ⟨.start, t0, false, t0, ⟨.unknown, t0⟩, t0, [], none, none, [], [], []⟩

/-- The machine of the thread. -/
def thread (t0 : ℤ) : Machine State Label := ⟨boot t0, enabled, next⟩

instance (t0 : ℤ) (s : State) (l : Label) : Decidable ((thread t0).enabled s l) :=
  inferInstanceAs (Decidable (enabled s l))

/-! ### The thread and its clock -/

/-- Only `publish_status` stores a status, or fails to. -/
lemma stored_next {s : State} {l : Label}
    (h : ∀ online, l ≠ .publish online ∧ l ≠ .publishFail online) :
    (next s l).published = s.published ∧ (next s l).attempted = s.attempted := by
  cases l with
  | publish online => exact absurd rfl (h online).1
  | publishFail online => exact absurd rfl (h online).2
  | addFilter rc => by_cases hrc : rc < 0 <;> simp [next, hrc]
  | _ => exact ⟨rfl, rfl⟩

/-- The statuses of the changes announced. -/
def statuses (states : List PeerLiveness) : List RelayStatus :=
  states.map fun st => publishStatus (st == .online)

/-- The status in hand. -/
def Pc.pending : Pc → List RelayStatus
  | .publish online => [publishStatus online]
  | _ => []

/-- The thread has not set up the liveness machine. -/
def Pc.starting : Pc → Prop
  | .start | .canStart | .addFilter | .bind | .watch | .disabled => True
  | _ => False

/-- The frames of a drain arrived while it was open. -/
structure Drain.Timed (drain : Drain) (now : ℤ) : Prop where
  closed : drain.opened ≤ drain.closed ∧ drain.closed ≤ now
  heard : ∀ a ∈ drain.heard, drain.opened ≤ a.time ∧ a.time ≤ drain.closed

/-- When the window of the turn under way was opened. -/
def State.turnOpened (s : State) : ℤ := s.drained.elim s.opened (·.opened)

/-- The thread against the clock and against the liveness machine. -/
structure Kept (s : State) : Prop where
  starting : s.pc.starting → s.turns = [] ∧ s.attempted = []
  liveness : s.liveness = livenessAfter s.since kHeartbeatTimeoutMs (s.turns.map Turn.call)
  attempted : s.attempted ++ s.pc.pending =
    statuses (announced s.since kHeartbeatTimeoutMs (s.turns.map Turn.call))
  published : s.published.Sublist s.attempted
  opened : s.opened ≤ s.now
  heard : ∀ a ∈ s.heard, s.opened ≤ a.time ∧ a.time ≤ s.now
  clock : ∀ t ∈ s.clock, s.turnOpened ≤ t ∧ t ≤ s.now ∧ ∀ turn ∈ s.turns, turn.clock ≤ t
  clocked : Clocked (s.turns.map Turn.call)
  drained : ∀ drain ∈ s.drained, drain.Timed s.now
  turns : ∀ turn ∈ s.turns, turn.opened ≤ turn.clock ∧ turn.clock ≤ s.now ∧ turn.Timed s.now

variable {s : State} {t0 : ℤ}

lemma Drain.Timed.mono {drain : Drain} {now now' : ℤ} (h : drain.Timed now) (hnow : now ≤ now') :
    drain.Timed now' :=
  ⟨⟨h.closed.1, h.closed.2.trans hnow⟩, h.heard⟩

/-- A call of the start. -/
def Label.starts : Label → Prop
  | .ready _ | .canStart _ | .addFilter _ | .bind _ => True
  | _ => False

/-- The start moves on or gives up, and may have installed the filter. -/
lemma start_cases {l : Label} (hl : enabled s l) (hstart : l.starts) :
    s.pc.starting ∧ ∃ (pc : Pc) (filtered : Bool), pc.starting ∧
      next s l = { s with pc := pc, filtered := filtered } := by
  cases l with
  | ready ok =>
      have hpc : s.pc = .start := hl
      refine ⟨hpc ▸ trivial, _, s.filtered, ?_, rfl⟩
      split_ifs <;> trivial
  | canStart rc =>
      have hpc : s.pc = .canStart := hl
      refine ⟨hpc ▸ trivial, _, s.filtered, ?_, rfl⟩
      split_ifs <;> trivial
  | addFilter rc =>
      have hpc : s.pc = .addFilter := hl
      refine ⟨hpc ▸ trivial, ?_⟩
      rw [next]
      split_ifs
      · exact ⟨.disabled, s.filtered, trivial, rfl⟩
      · exact ⟨.bind, true, trivial, rfl⟩
  | bind rc =>
      have hpc : s.pc = .bind := hl
      refine ⟨hpc ▸ trivial, _, s.filtered, ?_, rfl⟩
      split_ifs <;> trivial
  | _ => exact absurd hstart id

lemma Pc.starting.pending {pc : Pc} (h : pc.starting) : pc.pending = [] := by
  cases pc with
  | publish online => exact absurd h id
  | _ => rfl

/-- A step that moves the thread on, and nothing else. -/
lemma Kept.of_same (h : Kept s) {pc : Pc} {now : ℤ} {filtered : Bool} (hnow : s.now ≤ now)
    (hpc : pc.pending = s.pc.pending) (hstart : pc.starting → s.pc.starting) :
    Kept { s with pc := pc, now := now, filtered := filtered } where
  starting hs := h.starting (hstart hs)
  liveness := h.liveness
  attempted := by
    rw [hpc]
    exact h.attempted
  published := h.published
  opened := h.opened.trans hnow
  heard a ha := ⟨(h.heard a ha).1, (h.heard a ha).2.trans hnow⟩
  clock t ht := ⟨(h.clock t ht).1, (h.clock t ht).2.1.trans hnow, (h.clock t ht).2.2⟩
  clocked := h.clocked
  drained drain hd := (h.drained drain hd).mono hnow
  turns turn ht :=
    ⟨(h.turns turn ht).1, (h.turns turn ht).2.1.trans hnow, (h.turns turn ht).2.2.mono hnow⟩

/-- The liveness machine is set up. -/
lemma Kept.watch (h : Kept s) (hpc : s.pc = .watch) : Kept (next s .watch) := by
  obtain ⟨hturns, hnone⟩ := h.starting (by rw [hpc]; trivial)
  refine ⟨fun hs => absurd hs id, ?_, ?_, h.published, h.opened, h.heard, h.clock, h.clocked,
    h.drained, h.turns⟩
  · simp only [next, hturns]
    rfl
  · simp only [next, hturns, hnone]
    rfl

/-- A frame arrives. -/
lemma Kept.put (h : Kept s) (frame : CanFrame) (found : List CanFrame) :
    Kept (next s (.put frame found)) := by
  refine { h with heard := fun a ha => ?_ }
  rcases List.mem_append.mp ha with ha | ha
  · exact h.heard a ha
  · rw [List.mem_singleton.mp ha]
    exact ⟨h.opened, le_rfl⟩

/-- A drain is over. -/
lemma Kept.done (h : Kept s) (hnone : s.drained = none) (seen : Bool) :
    Kept (next s (.done seen)) where
  starting := h.starting
  liveness := h.liveness
  attempted := h.attempted
  published := h.published
  opened := le_rfl
  heard a ha := absurd ha List.not_mem_nil
  clock t ht := by
    have hclock := h.clock t ht
    rwa [State.turnOpened, hnone] at hclock
  clocked := h.clocked
  drained drain hd := by
    obtain rfl := Option.some.inj hd
    exact ⟨⟨h.opened, le_rfl⟩, h.heard⟩
  turns := h.turns

/-- The clock is read. -/
lemma Kept.readClock (h : Kept s) : Kept (next s .readClock) := by
  refine { h with clock := fun t ht => ?_ }
  obtain rfl := Option.some.inj ht
  refine ⟨?_, le_rfl, fun turn hturn => (h.turns turn hturn).2.1⟩
  change s.turnOpened ≤ s.now
  rw [State.turnOpened]
  cases hd : s.drained with
  | none => exact h.opened
  | some drain => exact (h.drained drain hd).closed.1.trans (h.drained drain hd).closed.2

/-- The liveness machine takes its step. -/
lemma Kept.step (h : Kept s) {drain : Drain} {clock : ℤ} (hpc : s.pc = .turn)
    (hdrain : s.drained = some drain) (hclock : s.clock = some clock) :
    Kept (next s (.step drain clock)) where
  starting hs := by
    simp only [next] at hs
    split_ifs at hs <;> exact absurd hs id
  liveness := by
    simp only [next, List.map_append, List.map_cons, List.map_nil, livenessAfter_concat,
      ← h.liveness]
    rfl
  attempted := by
    have hsame : s.attempted =
        statuses (announced s.since kHeartbeatTimeoutMs (s.turns.map Turn.call)) := by
      simpa [hpc, Pc.pending] using h.attempted
    -- the call reports what the verdict of this turn does
    have hreports : reports s.since kHeartbeatTimeoutMs (s.turns.map Turn.call)
        (Turn.call ⟨drain, clock⟩) = (s.verdict drain clock).2 := by
      rw [reports, State.verdict, h.liveness]
      rfl
    have hafter : livenessAfter s.since kHeartbeatTimeoutMs (s.turns.map Turn.call ++
        [Turn.call ⟨drain, clock⟩]) = (s.verdict drain clock).1 := by
      rw [livenessAfter_concat, State.verdict, h.liveness]
      rfl
    simp only [next, List.map_append, List.map_cons, List.map_nil, announced_concat, hreports,
      hafter, hsame, statuses]
    by_cases hchanged : (s.verdict drain clock).2 = true <;> simp [hchanged, Pc.pending]
  published := h.published
  opened := h.opened
  heard := h.heard
  clock t ht := by simp [next] at ht
  clocked := by
    have hc := h.clock clock hclock
    simp only [next, List.map_append, List.map_cons, List.map_nil, Clocked, List.map_map]
    refine List.pairwise_append.mpr
      ⟨by simpa [Clocked] using h.clocked, List.pairwise_singleton _ _, fun a ha b hb => ?_⟩
    obtain ⟨turn, hturn, rfl⟩ := List.mem_map.mp ha
    obtain rfl := List.mem_singleton.mp hb
    exact hc.2.2 turn hturn
  drained drain hd := by simp [next] at hd
  turns turn ht := by
    rcases List.mem_append.mp ht with ht | ht
    · exact h.turns turn ht
    · obtain rfl := List.mem_singleton.mp ht
      obtain ⟨hopened, hnow, -⟩ := h.clock clock hclock
      rw [State.turnOpened, hdrain] at hopened
      exact ⟨hopened, hnow, h.drained drain hdrain⟩

/-- **The step lemma of the thread.** -/
theorem kept_inductive (t0 : ℤ) : (thread t0).Inductive Kept where
  init := by
    refine ⟨fun _ => ⟨rfl, rfl⟩, rfl, rfl, .slnil, le_rfl, ?_, ?_, .nil, ?_, ?_⟩ <;>
      simp [thread, boot]
  step s l h hl := by
    change Kept (next s l)
    have hl : enabled s l := hl
    cases l with
    | tick ms =>
        exact h.of_same (Int.le_add_of_nonneg_right (Int.natCast_nonneg ms)) rfl id
    | ready _ | canStart _ | addFilter _ | bind _ =>
        obtain ⟨hpc, pc, filtered, hpc', heq⟩ := start_cases hl trivial
        rw [heq]
        exact h.of_same le_rfl (hpc'.pending.trans hpc.pending.symm) fun _ => hpc
    | watch => exact h.watch hl
    | put frame found => exact h.put frame found
    | recv =>
        have hpc : s.pc = .recv := hl
        exact h.of_same le_rfl (by rw [hpc]; rfl) fun hs => absurd hs id
    | call | get seen uninit => exact h
    | done seen => exact h.done hl.2 seen
    | readClock => exact h.readClock
    | step drain clock => exact h.step hl.1 hl.2.1 hl.2.2
    | publish online =>
        have hpc : s.pc = .publish online := hl
        have hsame := h.attempted
        rw [hpc, Pc.pending] at hsame
        refine { h with starting := fun hs => absurd hs id, attempted := ?_, published := ?_ }
        · simpa [next, Pc.pending] using hsame
        · exact h.published.append (List.Sublist.refl _)
    | publishFail online =>
        have hpc : s.pc = .publish online := hl
        have hsame := h.attempted
        rw [hpc, Pc.pending] at hsame
        refine { h with starting := fun hs => absurd hs id, attempted := ?_, published := ?_ }
        · simpa [next, Pc.pending] using hsame
        · exact h.published.trans (List.sublist_append_left _ _)

/-! ### The frames heard -/

/-- All the frames heard, oldest first. -/
def State.allHeard (s : State) : List Arrival :=
  s.turns.flatMap (·.heard) ++ (s.drained.elim [] (·.heard) ++ s.heard)

/-- The frame a label brings. -/
def brought (s : State) : Label → List Arrival
  | .put frame found => [⟨s.now, frame, found⟩]
  | _ => []

lemma allHeard_next {l : Label} (hl : enabled s l) :
    (next s l).allHeard = s.allHeard ++ brought s l := by
  cases l with
  | put frame found => simp [State.allHeard, next, brought]
  | done seen =>
      have hnone : s.drained = none := hl.2
      simp [State.allHeard, next, brought, hnone]
  | step drain clock =>
      have hdrain : s.drained = some drain := hl.2.1
      simp [State.allHeard, next, brought, hdrain]
  | addFilter rc =>
      rw [next]
      split_ifs <;> simp [State.allHeard, brought]
  | _ => simp [State.allHeard, next, brought]

/-- The clock stands still but for its ticks. -/
lemma now_next {l : Label} (hl : ∀ ms, l ≠ .tick ms) : (next s l).now = s.now := by
  cases l with
  | tick ms => exact absurd rfl (hl ms)
  | addFilter rc =>
      rw [next]
      split_ifs <;> rfl
  | _ => rfl

/-- The windows of the turns follow each other, and whoever gets as far as to set up the
liveness machine has installed the filter. -/
structure Orderly (s : State) : Prop where
  closed : ∀ turn ∈ s.turns, turn.closed ≤ s.turnOpened
  drained : ∀ drain ∈ s.drained, drain.closed ≤ s.opened
  listening : s.filtered = true ∨
    s.pc = .start ∨ s.pc = .canStart ∨ s.pc = .addFilter ∨ s.pc = .disabled

lemma orderly_inductive (t0 : ℤ) : (thread t0).Inductive fun s => Kept s ∧ Orderly s := by
  refine (kept_inductive t0).and ⟨?_, ?_, .inr (.inl rfl)⟩ fun s l hkept h hl => ?_
  · simp [thread, boot]
  · simp [thread, boot]
  cases l with
  | tick ms | put frame found | call | get seen uninit | readClock =>
      exact ⟨h.closed, h.drained, h.listening⟩
  | ready ok =>
      refine ⟨h.closed, h.drained, .inr ?_⟩
      cases ok <;> simp [thread, next]
  | canStart rc =>
      refine ⟨h.closed, h.drained, .inr ?_⟩
      by_cases hrc : rc ≠ 0 ∧ rc ≠ -eAlready <;> simp [thread, next, hrc]
  | addFilter rc =>
      by_cases hrc : rc < 0
      · simp only [thread, next, if_pos hrc]
        exact ⟨h.closed, h.drained, by simp⟩
      · simp only [thread, next, if_neg hrc]
        exact ⟨h.closed, h.drained, .inl rfl⟩
  | done seen =>
      have hpc : s.pc = .turn ∧ s.drained = none := hl
      refine ⟨fun turn ht => ?_, fun drain hd => ?_, h.listening⟩
      · have hclosed := h.closed turn ht
        rwa [State.turnOpened, hpc.2] at hclosed
      · obtain rfl := Option.some.inj hd
        exact le_rfl
  | step drain clock =>
      obtain ⟨hpc, hdrain, -⟩ : s.pc = .turn ∧ s.drained = some drain ∧ _ := hl
      have hopened : drain.closed ≤ s.opened := h.drained drain hdrain
      refine ⟨fun turn ht => ?_, fun d hd => absurd hd (Option.not_mem_none _),
        .inl (h.listening.resolve_right (by simp [hpc]))⟩
      change turn.closed ≤ s.opened
      rcases List.mem_append.mp ht with ht | ht
      · have hclosed := h.closed turn ht
        rw [State.turnOpened, hdrain] at hclosed
        exact hclosed.trans ((hkept.drained drain hdrain).closed.1.trans hopened)
      · rw [List.mem_singleton.mp ht]
        exact hopened
  | bind rc | watch | recv | publish online | publishFail online =>
      refine ⟨h.closed, h.drained, .inl (h.listening.resolve_right ?_)⟩
      have hpc := (show s.pc = _ from hl)
      simp [hpc]

/-- What arrived before the last turn was over was heard in a turn. -/
lemma Orderly.heard_in_turn (h : Orderly s) (hkept : Kept s) {turn : Turn} (hturn : turn ∈ s.turns)
    {a : Arrival} (ha : a ∈ s.allHeard) (hbefore : a.time < turn.closed) :
    ∃ earlier ∈ s.turns, a ∈ earlier.heard := by
  have hclosed := h.closed turn hturn
  rw [State.turnOpened] at hclosed
  rcases List.mem_append.mp ha with ha | ha
  · obtain ⟨earlier, hmem, ha⟩ := List.mem_flatMap.mp ha
    exact ⟨earlier, hmem, ha⟩
  exfalso
  cases hdrain : s.drained with
  | none =>
      simp only [hdrain, Option.elim_none, List.nil_append] at ha hclosed
      exact absurd (hkept.heard a ha).1 (not_le.mpr (hbefore.trans_le hclosed))
  | some drain =>
      have htimed := hkept.drained drain hdrain
      have hopened := h.drained drain hdrain
      simp only [hdrain, Option.elim_some] at ha hclosed
      rcases List.mem_append.mp ha with ha | ha
      · exact absurd (htimed.heard a ha).1 (not_le.mpr (hbefore.trans_le hclosed))
      · have := (hkept.heard a ha).1
        have := htimed.closed.1
        omega

/-! ### The thread and the queue -/

/-- What a label is to the queue. -/
def Label.toQueue : Label → Option HeartbeatQueue.Label
  | .put frame _ => some (.put frame)
  | .call => some .call
  | .get seen uninit => some (.get seen uninit)
  | .done seen => some (.done seen)
  | _ => none

/-- A frame finds what is queued, and the two arguments are evaluated one after the other. -/
def agreed (s : (HeartbeatQueue.State × List CanFrame) × State) : Label → Prop
  | .put _ found => found = s.1.1.frames
  | .readClock => s.1.1.pc = .outside
  | _ => True

instance (s : (HeartbeatQueue.State × List CanFrame) × State) (l : Label) :
    Decidable (agreed s l) := by
  cases l <;> dsimp only [agreed] <;> infer_instance

/-- The thread, and the queue the interrupt fills. -/
def machine (t0 : ℤ) : Machine ((HeartbeatQueue.State × List CanFrame) × State) Label :=
  .pair queue (thread t0) Label.toQueue some agreed

instance (t0 : ℤ) (s : (HeartbeatQueue.State × List CanFrame) × State) (l : Label) :
    Decidable ((machine t0).enabled s l) :=
  inferInstanceAs (Decidable ((Machine.pair queue (thread t0) Label.toQueue some
    agreed).enabled s l))

/-- What a drain sees of the frames heard: a beat, if one is queued; and a beat that it
misses found the queue full of frames that are none, of those heard since the last drain. -/
structure Drain.Sees (drain : Drain) : Prop where
  heard : drain.seen = true → ∃ a ∈ drain.heard, a.Beat
  missed : drain.seen = false → ∀ a ∈ drain.heard, a.Beat → a.ShutOut
  found : ∀ a ∈ drain.heard, ∀ frame ∈ a.found, ∃ b ∈ drain.heard, b.frame = frame

/-- The frames queued since the last drain was over are those heard that did not find the
queue full; and whatever a frame found was queued since then. -/
structure Heard (s : (HeartbeatQueue.State × List CanFrame) × State) : Prop where
  heard : ∀ frame ∈ s.1.2, ∃ a ∈ s.2.heard, a.frame = frame
  queued : ∀ a ∈ s.2.heard, a.frame ∈ s.1.2 ∨ kHeartbeatQueueLen ≤ a.found.length
  found : ∀ a ∈ s.2.heard, a.found ⊆ s.1.2
  drained : ∀ drain ∈ s.2.drained, drain.Sees
  turns : ∀ turn ∈ s.2.turns, turn.Sees

variable {s : (HeartbeatQueue.State × List CanFrame) × State}

/-- A frame arrives. -/
lemma Heard.put (h : Heard s) (hq : Accounted s.1) (frame : CanFrame) :
    Heard ((HeartbeatQueue.next s.1.1 (.put frame), arrived s.1.1 s.1.2 (.put frame)),
      next s.2 (.put frame s.1.1.frames)) := by
  by_cases hroom : s.1.1.frames.length < kHeartbeatQueueLen
  · simp only [arrived, if_pos hroom]
    refine ⟨fun f hf => ?_, fun a ha => ?_, fun a ha => ?_, h.drained, h.turns⟩
    · rcases List.mem_append.mp hf with hf | hf
      · obtain ⟨a, ha, heq⟩ := h.heard f hf
        exact ⟨a, List.mem_append_left _ ha, heq⟩
      · obtain rfl := List.mem_singleton.mp hf
        exact ⟨_, List.mem_append_right _ (List.mem_singleton_self _), rfl⟩
    · rcases List.mem_append.mp ha with ha | ha
      · exact (h.queued a ha).imp_left (List.mem_append_left _)
      · obtain rfl := List.mem_singleton.mp ha
        exact .inl (List.mem_append_right _ (List.mem_singleton_self _))
    · rcases List.mem_append.mp ha with ha | ha
      · exact List.Subset.trans (h.found a ha) (List.subset_append_left _ _)
      · obtain rfl := List.mem_singleton.mp ha
        exact List.Subset.trans hq.frames_subset (List.subset_append_left _ _)
  · -- the frame is lost
    simp only [arrived, if_neg hroom]
    refine ⟨fun f hf => ?_, fun a ha => ?_, fun a ha => ?_, h.drained, h.turns⟩
    · obtain ⟨a, ha, heq⟩ := h.heard f hf
      exact ⟨a, List.mem_append_left _ ha, heq⟩
    · rcases List.mem_append.mp ha with ha | ha
      · exact h.queued a ha
      · obtain rfl := List.mem_singleton.mp ha
        exact .inr (not_lt.mp hroom)
    · rcases List.mem_append.mp ha with ha | ha
      · exact h.found a ha
      · obtain rfl := List.mem_singleton.mp ha
        exact hq.frames_subset

/-- A drain is over. -/
lemma Heard.done (h : Heard s) (hq : Accounted s.1) {seen : Bool}
    (hpc : s.1.1.pc = .draining seen) (hnone : s.1.1.frames = []) (opened closed : ℤ) :
    Drain.Sees ⟨opened, s.2.heard, closed, seen⟩ := by
  have hseen := hq.seen_iff hpc hnone
  refine ⟨fun htrue => ?_, fun hfalse a ha hbeat => ?_, fun a ha frame hframe => ?_⟩
  · obtain ⟨frame, hmem, hframe⟩ := hseen.mp htrue
    obtain ⟨a, ha, rfl⟩ := h.heard frame hmem
    exact ⟨a, ha, hframe⟩
  · obtain rfl : seen = false := hfalse
    -- what was queued is none of it a beat
    have hsilent : ∀ frame ∈ s.1.2, ¬ IsHeartbeat frame.bytes := fun frame hmem hframe =>
      Bool.false_ne_true (hseen.mpr ⟨frame, hmem, hframe⟩)
    refine ⟨(h.queued a ha).resolve_left fun hmem => hsilent _ hmem hbeat, ?_⟩
    exact fun frame hframe => hsilent frame (h.found a ha hframe)
  · exact h.heard frame (h.found a ha hframe)

/-- **The step lemma of the drains.** -/
theorem sees_inductive (t0 : ℤ) : (machine t0).Inductive fun s => Accounted s.1 ∧ Heard s := by
  refine accounted_inductive.fst.and ?_ fun s l hq h hl => ?_
  · refine ⟨?_, ?_, ?_, ?_, ?_⟩ <;> simp [Machine.pair, queue, Machine.annotate, thread, boot]
  · obtain ⟨hqueue, hthread, hagreed⟩ := hl
    cases l with
    | put frame found =>
        obtain rfl : found = s.1.1.frames := hagreed
        exact h.put hq frame
    | done seen =>
        obtain ⟨hpc, hnone⟩ : s.1.1.pc = .draining seen ∧ s.1.1.frames = [] := hqueue _ rfl
        refine ⟨fun _ hf => absurd hf List.not_mem_nil, fun _ ha => absurd ha List.not_mem_nil,
          fun _ ha => absurd ha List.not_mem_nil, fun drain hd => ?_, h.turns⟩
        obtain rfl := Option.some.inj hd
        exact h.done hq hpc hnone _ _
    | step drain clock =>
        obtain ⟨-, hdrain, -⟩ : _ ∧ s.2.drained = some drain ∧ _ := hthread _ rfl
        refine ⟨h.heard, h.queued, h.found, fun drain hd => absurd hd (Option.not_mem_none _),
          fun turn ht => ?_⟩
        rcases List.mem_append.mp ht with ht | ht
        · exact h.turns turn ht
        · rw [List.mem_singleton.mp ht]
          exact h.drained drain hdrain
    | addFilter rc =>
        by_cases hrc : rc < 0
        · simp only [Machine.pair, Machine.nextAt, thread, Option.elim, next, if_pos hrc]
          exact ⟨h.heard, h.queued, h.found, h.drained, h.turns⟩
        · simp only [Machine.pair, Machine.nextAt, thread, Option.elim, next, if_neg hrc]
          exact ⟨h.heard, h.queued, h.found, h.drained, h.turns⟩
    | _ => exact ⟨h.heard, h.queued, h.found, h.drained, h.turns⟩

/-! ### The verdict -/

/-- The last beat is that of a call that saw one, and none saw one later; or none did. -/
lemma lastBeat_spec (since : ℤ) {calls : List LivenessCall} (hclock : Clocked calls) :
    (∀ c ∈ calls, c.frameSeen = false) ∧ lastBeat since calls = since ∨
      ∃ b ∈ calls, b.frameSeen = true ∧ lastBeat since calls = b.nowMs ∧
        ∀ c ∈ calls, c.frameSeen = true → c.nowMs ≤ b.nowMs := by
  induction calls using List.reverseRecOn with
  | nil => exact .inl ⟨by simp, rfl⟩
  | append_singleton pre c ih =>
      rw [lastBeat_concat]
      cases hc : c.frameSeen with
      | true =>
          refine .inr ⟨c, by simp, hc, rfl, fun d hd _ => ?_⟩
          rcases List.mem_append.mp hd with hd | hd
          · exact hclock.le hd
          · rw [List.mem_singleton.mp hd]
      | false =>
          rcases ih (hclock.restrict (List.prefix_append _ _)) with ⟨hnone, heq⟩ | ⟨b, hb, hrest⟩
          · refine .inl ⟨fun d hd => ?_, heq⟩
            rcases List.mem_append.mp hd with hd | hd
            · exact hnone d hd
            · rw [List.mem_singleton.mp hd, hc]
          · obtain ⟨hseen, heq, hlater⟩ := hrest
            refine .inr ⟨b, by simp [hb], hseen, heq, fun d hd hdseen => ?_⟩
            rcases List.mem_append.mp hd with hd | hd
            · exact hlater d hd hdseen
            · rw [List.mem_singleton.mp hd, hc] at hdseen
              exact absurd hdseen Bool.false_ne_true

/-- The verdict over a list of calls, without the last beat. -/
lemma stateOf_iff (since timeoutMs : ℤ) {calls : List LivenessCall} (hclock : Clocked calls)
    {last : LivenessCall} (hlast : calls.getLast? = some last) :
    (stateOf since timeoutMs calls = .online ↔
      ∃ c ∈ calls, c.frameSeen = true ∧ last.nowMs - c.nowMs < timeoutMs) ∧
    (stateOf since timeoutMs calls = .unknown ↔
      (∀ c ∈ calls, c.frameSeen = false) ∧ last.nowMs - since < timeoutMs) := by
  rw [stateOf, hlast]
  rcases lastBeat_spec since hclock with ⟨hnone, heq⟩ | ⟨b, hb, hseen, heq, hlater⟩
  · have hany : calls.any (·.frameSeen) = false := List.any_eq_false.mpr fun c hc => by
      simp [hnone c hc]
    have hno : ¬ ∃ c ∈ calls, c.frameSeen = true ∧ last.nowMs - c.nowMs < timeoutMs := by
      rintro ⟨c, hc, hcseen, -⟩
      exact absurd (hnone c hc) (by simp [hcseen])
    simp only [heq, hany, Bool.false_eq_true, if_false, iff_false_intro hno, iff_false]
    split_ifs with hlate
    · simp [hlate]
    · simpa [hlate] using ⟨hnone, by omega⟩
  · have hany : calls.any (·.frameSeen) = true := List.any_eq_true.mpr ⟨b, hb, hseen⟩
    have hsome : ¬ ∀ c ∈ calls, c.frameSeen = false := fun hnone => by
      simpa [hseen] using hnone b hb
    have hiff : (∃ c ∈ calls, c.frameSeen = true ∧ last.nowMs - c.nowMs < timeoutMs) ↔
        last.nowMs - b.nowMs < timeoutMs := by
      constructor
      · rintro ⟨c, hc, hcseen, hless⟩
        have := hlater c hc hcseen
        omega
      · exact fun hless => ⟨b, hb, hseen, hless⟩
    simp only [heq, hany, if_true, hiff, hsome, false_and, iff_false]
    split_ifs with hlate <;> simp <;> omega

variable {ls : List Label} {last : Turn}

/-- The verdict on the peer after a turn, from the frames heard.  With ONLINE, a beat was
heard less than the timeout, and the turn that saw it, before the clock was last read.
Otherwise the turns in which a beat was heard are past by the timeout, beats apart that
found the queue full of frames of another layout, heard in the same turn.  And UNKNOWN
lasts no longer than the timeout. -/
structure Verdict (th : State) (last : Turn) : Prop where
  heard : ∀ turn ∈ th.turns, ∀ a ∈ turn.heard, (turn.opened ≤ a.time ∧ a.time ≤ turn.closed) ∧
    ∀ frame ∈ a.found, ∃ b ∈ turn.heard, b.frame = frame
  online : th.liveness.state = .online → ∃ turn ∈ th.turns, ∃ a ∈ turn.heard, a.Beat ∧
    last.clock - a.time < kHeartbeatTimeoutMs + (turn.clock - turn.opened)
  silent : th.liveness.state ≠ .online → ∀ turn ∈ th.turns, ∀ a ∈ turn.heard, a.Beat →
    ¬ a.ShutOut → kHeartbeatTimeoutMs ≤ last.clock - turn.clock
  unknown : th.liveness.state = .unknown → last.clock - th.since < kHeartbeatTimeoutMs ∧
    ∀ turn ∈ th.turns, ∀ a ∈ turn.heard, a.Beat → a.ShutOut

lemma Kept.verdict {th : State} (h : Kept th) (hsees : ∀ turn ∈ th.turns, turn.Sees)
    (hlast : th.turns.getLast? = some last) : Verdict th last := by
  have hcall : (th.turns.map Turn.call).getLast? = some last.call := by
    rw [List.getLast?_map, hlast, Option.map_some]
  obtain ⟨honline, hunknown⟩ := stateOf_iff th.since kHeartbeatTimeoutMs h.clocked hcall
  rw [← livenessAfter_state (by decide) _ h.clocked, ← h.liveness] at honline hunknown
  refine ⟨fun turn ht a ha => ⟨(h.turns turn ht).2.2.heard a ha, (hsees turn ht).found a ha⟩,
    fun hst => ?_, fun hst turn ht a ha hbeat hroom => ?_, fun hst => ?_⟩
  · obtain ⟨c, hc, hseen, hless⟩ := honline.mp hst
    obtain ⟨turn, ht, rfl⟩ := List.mem_map.mp hc
    obtain ⟨a, ha, hbeat⟩ := (hsees turn ht).heard hseen
    refine ⟨turn, ht, a, ha, hbeat, ?_⟩
    have hopened := ((h.turns turn ht).2.2.heard a ha).1
    simp only [Turn.call] at hless
    omega
  · by_contra hless
    refine hst (honline.mpr ⟨turn.call, List.mem_map_of_mem ht, ?_, not_le.mp hless⟩)
    cases hseen : turn.seen with
    | true => exact hseen
    | false => exact absurd ((hsees turn ht).missed hseen a ha hbeat) hroom
  · obtain ⟨hnone, hless⟩ := hunknown.mp hst
    refine ⟨hless, fun turn ht => (hsees turn ht).missed ?_⟩
    exact hnone turn.call (List.mem_map_of_mem ht)

/-- **The verdict on the peer**, in every run of the thread, whatever is on the bus and
however long anything takes. -/
theorem presence_of_frames (hrun : (machine t0).Run ls s) :
    ∀ last ∈ s.2.turns.getLast?, Verdict s.2 last := fun _ hlast =>
  (hrun.snd.invariant (kept_inductive t0)).verdict (hrun.invariant (sees_inductive t0)).2.turns
    hlast

/-- A beat of a peer that is well. -/
def someBeat : CanFrame := .ofHeartbeat ⟨.ok, 7, 3⟩

/-- The first turn of the thread. -/
def firstTurn : Turn := ⟨⟨0, [⟨200, someBeat, []⟩], 200, true⟩, 200⟩

/-- The relay starts, and the first turn sees a beat. -/
def firstBeat : List Label :=
  [.ready true, .canStart (-eAlready), .addFilter 0, .bind 0, .watch, .recv, .tick 200,
    .put someBeat [], .call, .get false ⟨.boot, 0, 0⟩, .done true, .readClock,
    .step firstTurn.toDrain firstTurn.clock]

/-- The peer is online, and its beat was heard 200 ms after boot. -/
theorem firstBeat_presence : ∃ s, (machine 0).Run firstBeat s ∧
    s.2.liveness.state = .online ∧ s.2.pc = .publish true ∧
    ∃ turn ∈ s.2.turns, ∃ a ∈ turn.heard, a.Beat := by
  have h : (machine 0).Run firstBeat _ := Machine.run_of_exec rfl
  obtain ⟨turn, ht, a, ha, hbeat, -⟩ := (presence_of_frames h firstTurn rfl).online rfl
  exact ⟨_, h, rfl, rfl, turn, ht, a, ha, hbeat⟩

end ClimateNode.RxLoop
