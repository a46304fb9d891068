import ClimateNode.Peer.InFlight

/-!
The beat schedule of `main` in `peer-node/src/main.cpp`, which is re-based on itself
and not on the clock, and the verdict `send_heartbeat` forms from the beats that
have completed.

* `scheduled`: the loop, counting the beat slots it handles.
* `beat_schedule`: **the cadence never drifts**, whatever any call takes, and catching
  up comes to an end.
* `healthy`: the loop on a bus that takes and completes every beat in time.
* `reportsUp_iff`: **when a healthy bus is reported up**: only if no earlier beat is
  still under way, which a late loop does not wait for.
-/

namespace ClimateNode.Peer.Loop

open Automata

/-! ### The schedule -/

/-- The beat slots handled so far.  Then, of the catching up under way: how late its
first slot was, the slots handled in it, the steps `main` has made in it, when
`main` last looked at the clock, and whether each slot was over within a period. -/
structure Slots where
  handled : ℕ
  late : ℤ
  inARow : ℕ
  steps : ℕ
  lookedAt : ℤ
  quick : Bool
  deriving DecidableEq, Repr

/-- What a step adds to the history of the schedule. -/
def Slots.update (s : State) (c : Slots) : Label → Slots
  | .look =>
      if s.nextBeat - s.now ≤ 0 then
        { c with late := if c.inARow = 0 then s.now - s.nextBeat else c.late,
                 steps := c.steps + 1, lookedAt := s.now,
                 quick := c.inARow = 0 ∨ c.quick ∧ s.now - c.lookedAt < kHeartbeatPeriodMs }
      else { c with inARow := 0, steps := 0 }
  | .noteBeat _ _ =>
      { c with handled := c.handled + 1, inARow := c.inARow + 1, steps := c.steps + 1 }
  | .busState _ | .canSend _ | .inc _ | .readError _ | .readInFlight _ =>
      { c with steps := c.steps + 1 }
  | _ => c

/-- The loop with the history of its schedule. -/
def scheduled (t0 : ℤ) : Machine (State × Slots) Label :=
  (machine t0).annotate ⟨0, 0, 0, 0, t0, true⟩ Slots.update

instance (t0 : ℤ) (s : State × Slots) (l : Label) : Decidable ((scheduled t0).enabled s l) :=
  inferInstanceAs (Decidable (enabled s.1 l))

/-- How far into a slot `main` is. -/
def Pc.inSlot : Pc → ℕ
  | .beatDue => 1
  | .beatSend => 2
  | .beatSent _ => 3
  | .beatJudge _ => 4
  | .beatCount _ => 5
  | .beatNote _ _ => 6
  | _ => 0

/-- A step of `main`, and not of the clock or the interrupt. -/
def ofMain : Label → Bool
  | .tick _ | .complete _ => false
  | _ => true

/-- The schedule against the clock and the history. -/
structure OnSchedule (t0 : ℤ) (s : State × Slots) : Prop where
  nextBeat_eq : s.1.nextBeat = t0 + kHeartbeatPeriodMs * s.2.handled
  /-- No slot is handled early. -/
  last_due : s.1.nextBeat ≤ s.1.now + kHeartbeatPeriodMs
  lookedAt_le : s.2.lookedAt ≤ s.1.now
  late_nonneg : 0 ≤ s.2.late
  waiting : s.1.pc ≠ .top → s.1.pc.inSlot = 0 → s.2.inARow = 0
  steps_le : s.2.steps ≤ 7 * s.2.inARow + s.1.pc.inSlot
  /-- Each slot in a row brings the loop closer to its schedule. -/
  slot : 0 < s.1.pc.inSlot → s.1.nextBeat ≤ s.2.lookedAt ∧
    (s.2.quick → s.2.lookedAt + s.2.inARow ≤ s.1.nextBeat + s.2.late)
  between : s.1.pc = .top → 0 < s.2.inARow → s.2.quick → s.2.inARow ≤ s.2.late + 1 ∧
    s.2.lookedAt + s.2.inARow + kHeartbeatPeriodMs ≤ s.1.nextBeat + s.2.late + 1

/-- A step that leaves the schedule and its history alone. -/
lemma OnSchedule.of_same {t0 : ℤ} {s t : State × Slots} (h : OnSchedule t0 s)
    (hbeat : t.1.nextBeat = s.1.nextBeat) (hnow : s.1.now ≤ t.1.now) (hc : t.2 = s.2)
    (hpc : t.1.pc = s.1.pc ∨ s.1.pc.inSlot = 0 ∧ t.1.pc.inSlot = 0 ∧ s.1.pc ≠ .top) :
    OnSchedule t0 t := by
  -- inside a slot or outside of one, as before
  have hslot : t.1.pc.inSlot = s.1.pc.inSlot := by
    rcases hpc with heq | ⟨hs, ht, -⟩
    · rw [heq]
    · rw [hs, ht]
  refine ⟨by rw [hbeat, hc, h.nextBeat_eq], ?_, ?_, hc ▸ h.late_nonneg, ?_, ?_, ?_, ?_⟩
  · have := h.last_due
    omega
  · rw [hc]
    exact h.lookedAt_le.trans hnow
  · intro htop hzero
    rw [hc]
    rcases hpc with heq | ⟨hs, -, hntop⟩
    · exact h.waiting (heq ▸ htop) (hslot ▸ hzero)
    · exact h.waiting hntop hs
  · rw [hc, hslot]
    exact h.steps_le
  · rw [hc, hbeat, hslot]
    exact h.slot
  · rw [hc, hbeat]
    intro htop hrow
    rcases hpc with heq | ⟨hs, -, hntop⟩
    · exact h.between (heq ▸ htop) hrow
    · exact absurd (h.waiting hntop hs) (by omega)

/-- A step inside a slot. -/
lemma OnSchedule.goOn {t0 : ℤ} {s t : State × Slots} {pc : Pc} (h : OnSchedule t0 s)
    (hpc : s.1.pc = pc) (hin : 0 < pc.inSlot) (hbeat : t.1.nextBeat = s.1.nextBeat)
    (hnow : t.1.now = s.1.now) (hc : t.2 = { s.2 with steps := s.2.steps + 1 })
    (hlt : pc.inSlot < t.1.pc.inSlot) : OnSchedule t0 t := by
  subst hpc
  have hntop : t.1.pc ≠ .top := by
    intro htop
    rw [htop] at hlt
    exact absurd hlt (Nat.not_lt_zero _)
  refine ⟨by rw [hbeat, hc, h.nextBeat_eq], by rw [hbeat, hnow]; exact h.last_due,
    by rw [hc, hnow]; exact h.lookedAt_le, hc ▸ h.late_nonneg, fun _ hzero => by omega, ?_, ?_,
    fun htop => absurd htop hntop⟩
  · have := h.steps_le
    rw [hc]
    dsimp only
    omega
  · rw [hc, hbeat]
    exact fun _ => h.slot hin

/-- `main` looks at the clock: a slot is due, and the one before it, if any, made
good some of the delay; or none is, and it waits. -/
lemma OnSchedule.look {t0 : ℤ} {s : State × Slots} (h : OnSchedule t0 s) (hpc : s.1.pc = .top) :
    OnSchedule t0 (next s.1 .look, s.2.update s.1 .look) := by
  have hzero : s.1.pc.inSlot = 0 := by rw [hpc]; rfl
  have hsteps := h.steps_le
  have hbetween := h.between hpc
  have hlooked := h.lookedAt_le
  have hlate := h.late_nonneg
  by_cases hdue : s.1.nextBeat - s.1.now ≤ 0
  · simp only [next, Slots.update, if_pos hdue]
    refine ⟨h.nextBeat_eq, h.last_due, le_rfl, ?_, fun _ hz => by simp [Pc.inSlot] at hz, ?_, ?_,
      by simp⟩
    · dsimp only
      split_ifs <;> omega
    · dsimp only [Pc.inSlot]
      omega
    · refine fun _ => ⟨by dsimp only; omega, fun hquick => ?_⟩
      dsimp only at hquick ⊢
      rcases of_decide_eq_true hquick with hfirst | ⟨hq, hless⟩
      · rw [if_pos hfirst]
        omega
      · by_cases hfirst : s.2.inARow = 0
        · rw [if_pos hfirst]
          omega
        · have := hbetween (by omega) hq
          rw [if_neg hfirst]
          omega
  · simp only [next, Slots.update, if_neg hdue]
    exact ⟨h.nextBeat_eq, h.last_due, hlooked, hlate, fun _ _ => rfl, Nat.zero_le _,
      fun hz => by simp [Pc.inSlot] at hz, by simp⟩

/-- A slot is over. -/
lemma OnSchedule.noteBeat {t0 : ℤ} {s : State × Slots} (h : OnSchedule t0 s) {what : Source}
    {err : ℤ} (hpc : s.1.pc = .beatNote what err) :
    OnSchedule t0 (next s.1 (.noteBeat what err), s.2.update s.1 (.noteBeat what err)) := by
  have hslot := h.slot (by rw [hpc]; exact Nat.succ_pos 5)
  have hsteps := h.steps_le
  have hlooked := h.lookedAt_le
  rw [hpc] at hsteps
  simp only [next, Slots.update]
  refine ⟨?_, ?_, h.lookedAt_le, h.late_nonneg, by simp, ?_,
    fun hz => by simp [Pc.inSlot] at hz, fun _ _ hquick => ?_⟩
  · dsimp only
    rw [h.nextBeat_eq]
    push_cast
    ring
  · dsimp only
    omega
  · dsimp only [Pc.inSlot] at hsteps ⊢
    omega
  · have := hslot.2 hquick
    dsimp only
    push_cast
    omega

/-- A step of `main` that has nothing to do with beats. -/
lemma OnSchedule.elsewhere {t0 : ℤ} {s t : State × Slots} {pc : Pc} (h : OnSchedule t0 s)
    (hpc : s.1.pc = pc) (hzero : pc.inSlot = 0) (hbeat : t.1.nextBeat = s.1.nextBeat)
    (hnow : t.1.now = s.1.now) (hc : t.2 = s.2) (htop : pc ≠ .top) (hzero' : t.1.pc.inSlot = 0) :
    OnSchedule t0 t :=
  h.of_same hbeat hnow.ge hc (.inr ⟨hpc ▸ hzero, hzero', hpc ▸ htop⟩)

/-- At boot the first slot is due at once. -/
lemma onSchedule_boot (t0 : ℤ) : OnSchedule t0 (scheduled t0).init where
  nextBeat_eq := by
    change t0 = t0 + kHeartbeatPeriodMs * ((0 : ℕ) : ℤ)
    rw [Nat.cast_zero, mul_zero, add_zero]
  last_due := Int.le_add_of_nonneg_right (by decide)
  lookedAt_le := le_rfl
  late_nonneg := le_rfl
  waiting _ _ := rfl
  steps_le := le_rfl
  slot hin := absurd hin (Nat.lt_irrefl 0)
  between _ hrow := absurd hrow (Nat.lt_irrefl 0)

/-- **The step lemma of the schedule.** -/
lemma onSchedule_inductive (t0 : ℤ) : (scheduled t0).Inductive (OnSchedule t0) where
  init := onSchedule_boot t0
  step s l h hen := by
    cases l with
    | tick ms =>
        exact h.of_same rfl (Int.le_add_of_nonneg_right (Int.natCast_nonneg ms)) rfl (.inl rfl)
    | complete error => exact h.of_same rfl le_rfl rfl (.inl rfl)
    | look => exact h.look hen
    | busState transmittable =>
        -- off the bus the slot goes straight to its verdict
        refine h.goOn hen (by decide) rfl rfl rfl ?_
        cases transmittable with
        | true => exact Nat.lt_succ_self 1
        | false => exact (by omega : 1 < 6)
    | canSend rc => exact h.goOn hen (Nat.succ_pos 1) rfl rfl rfl (Nat.lt_succ_self 2)
    | inc rc => exact h.goOn hen (Nat.succ_pos 2) rfl rfl rfl (Nat.lt_succ_self 3)
    | readError rc => exact h.goOn hen (Nat.succ_pos 3) rfl rfl rfl (Nat.lt_succ_self 4)
    | readInFlight err => exact h.goOn hen (Nat.succ_pos 4) rfl rfl rfl (Nat.lt_succ_self 5)
    | noteBeat what err => exact h.noteBeat hen
    | semTake rc | chanRead rc =>
        refine h.elsewhere hen rfl rfl rfl rfl (by simp) ?_
        by_cases hrc : rc = 0 <;> simp [scheduled, Machine.annotate, machine, next, hrc, Pc.inSlot]
    | tryLink transmittable =>
        have hkeep : (next s.1 (.tryLink transmittable)).nextBeat = s.1.nextBeat ∧
            (next s.1 (.tryLink transmittable)).now = s.1.now ∧
            (next s.1 (.tryLink transmittable)).pc.inSlot = 0 := by
          rw [next]
          split_ifs <;> exact ⟨rfl, rfl, rfl⟩
        exact h.elsewhere hen rfl hkeep.1 hkeep.2.1 rfl (by simp) hkeep.2.2
    | received untilBeat len | transferred rc | noteTelemetry rc =>
        exact h.elsewhere hen rfl rfl rfl rfl (by simp) rfl

/-- Catching up comes to an end: each slot that takes less than a period leaves
fewer of them to handle. -/
lemma OnSchedule.catchUp {t0 : ℤ} {s : State × Slots} (h : OnSchedule t0 s)
    (hquick : s.2.quick) : s.2.inARow ≤ s.2.late + 1 ∧ s.2.steps ≤ 7 * (s.2.late + 1) := by
  have hlate := h.late_nonneg
  have hsteps := h.steps_le
  -- between two slots the bound is kept, inside one it follows from the slots left
  rcases Nat.eq_zero_or_pos s.1.pc.inSlot with hzero | hpos
  · by_cases hfirst : s.2.inARow = 0
    · omega
    · have hpc : s.1.pc = .top := by
        by_contra hne
        exact hfirst (h.waiting hne hzero)
      have := h.between hpc (by omega) hquick
      omega
  · have hslot := h.slot hpos
    have hclose := hslot.2 hquick
    have hsix : s.1.pc.inSlot ≤ 6 := by cases s.1.pc <;> simp [Pc.inSlot]
    omega

/-- `main` is never stuck. -/
lemma exists_ofMain (s : State) : ∃ l, ofMain l = true ∧ enabled s l := by
  cases hpc : s.pc with
  | top => exact ⟨.look, rfl, hpc⟩
  | beatDue => exact ⟨.busState true, rfl, hpc⟩
  | beatSend => exact ⟨.canSend 0, rfl, hpc⟩
  | beatSent rc => exact ⟨.inc rc, rfl, hpc⟩
  | beatJudge rc => exact ⟨.readError rc, rfl, hpc⟩
  | beatCount err => exact ⟨.readInFlight err, rfl, hpc⟩
  | beatNote what err => exact ⟨.noteBeat what err, rfl, hpc⟩
  | recv untilBeat => exact ⟨.received untilBeat 0, rfl, hpc⟩
  | pending => exact ⟨.semTake 0, rfl, hpc⟩
  | reading => exact ⟨.chanRead 0, rfl, hpc⟩
  | gate => exact ⟨.tryLink true, rfl, hpc⟩
  | transfer => exact ⟨.transferred 0, rfl, hpc⟩
  | note rc => exact ⟨.noteTelemetry rc, rfl, hpc⟩

/-- **The cadence never drifts**: in every run, the next beat is the start and a
period for each slot handled; where `main` goes on to `isotp_recv` the slots handled
are those up to the clock it looked at, and it waits for the next one, a period at
most.  While the slots it catches up on take less than a period each, there are no
more of them than milliseconds it was late, and `main` is never stuck in one. -/
theorem beat_schedule {t0 : ℤ} {ls : List Label} {s : State × Slots}
    (hrun : (scheduled t0).Run ls s) :
    s.1.nextBeat = t0 + kHeartbeatPeriodMs * s.2.handled ∧
    (∀ untilBeat, s.1.pc = .top → (next s.1 .look).pc = .recv untilBeat →
      (s.2.handled : ℤ) = (s.1.now - t0) / kHeartbeatPeriodMs + 1 ∧
      s.1.now + untilBeat = s.1.nextBeat ∧ 0 < untilBeat ∧ untilBeat ≤ kHeartbeatPeriodMs) ∧
    (s.2.quick → s.2.inARow ≤ s.2.late + 1 ∧ s.2.steps ≤ 7 * (s.2.late + 1)) ∧
    ∃ l, ofMain l = true ∧ (scheduled t0).enabled s l := by
  have h := hrun.invariant (onSchedule_inductive t0)
  refine ⟨h.nextBeat_eq, fun untilBeat _ hrecv => ?_, h.catchUp, exists_ofMain s.1⟩
  have hbeat := h.nextBeat_eq
  have hdue := h.last_due
  rw [next] at hrecv
  split_ifs at hrecv with hlook
  obtain rfl : s.1.nextBeat - s.1.now = untilBeat := by simpa using hrecv
  simp only [kHeartbeatPeriodMs] at hbeat hdue ⊢
  omega

/-- A beat at boot, then a command that takes three and a half seconds, and the three
slots it ran over noted as bus-off. -/
def lateRun : List Label :=
  [.look, .busState true, .canSend 0, .inc 0, .readError 0, .readInFlight 0,
    .noteBeat .heartbeat 0, .tick 1, .complete 0, .look, .received 999 8, .tick 3500,
    .semTake (-eBusy), .look, .busState false, .tick 10, .noteBeat .bus (-eNetUnreach),
    .look, .busState false, .tick 10, .noteBeat .bus (-eNetUnreach),
    .look, .busState false, .tick 10, .noteBeat .bus (-eNetUnreach)]

/-- After it the loop waits for the fifth slot, at its time. -/
theorem lateRun_schedule : ∃ s, (scheduled 0).Run lateRun s ∧
    s.1.nextBeat = 0 + kHeartbeatPeriodMs * s.2.handled ∧
    (s.2.handled : ℤ) = (s.1.now - 0) / kHeartbeatPeriodMs + 1 ∧ s.1.now + 469 = s.1.nextBeat ∧
    s.2.inARow ≤ s.2.late + 1 := by
  have hrun : (scheduled 0).Run lateRun _ := Machine.run_of_exec rfl
  obtain ⟨hbeat, hrecv, hquick, -⟩ := beat_schedule hrun
  obtain ⟨hslots, huntil, -⟩ := hrecv 469 rfl rfl
  exact ⟨_, hrun, hbeat, hslots, huntil, (hquick rfl).1⟩

/-! ### Beats in flight -/

/-- When the frames of the run were accepted, and how many of them have completed,
taken to be the oldest: if the frames complete in time in any order, they do so in
this one. -/
structure Frames where
  accepted : List ℤ
  completed : ℕ
  deriving DecidableEq, Repr

/-- The frames accepted and not completed. -/
def Frames.underWay (f : Frames) : List ℤ := f.accepted.drop f.completed

/-- What a step adds to the history of the frames. -/
def Frames.update (s : State) (f : Frames) : Label → Frames
  | .canSend rc => if rc = 0 then { f with accepted := f.accepted ++ [s.now] } else f
  | .complete _ => { f with completed := f.completed + 1 }
  | _ => f

/-- The steps of a healthy bus: every heartbeat is accepted, and completes without an
error less than a period later. -/
def onHealthyBus (s : State × Frames) : Label → Prop
  | .canSend rc => rc = 0
  | .complete error => error = 0
  | .tick ms => ∀ t ∈ s.2.underWay, s.1.now + ms < t + kHeartbeatPeriodMs
  | _ => True

instance (s : State × Frames) (l : Label) : Decidable (onHealthyBus s l) := by
  apply l.casesOn (motive := fun l => Decidable (onHealthyBus s l)) <;> intros <;>
    dsimp only [onHealthyBus] <;> infer_instance

/-- The loop on a healthy bus. -/
def healthy (t0 : ℤ) : Machine (State × Frames) Label :=
  ((machine t0).annotate ⟨[], 0⟩ Frames.update).restrict onHealthyBus

instance (t0 : ℤ) (s : State × Frames) (l : Label) : Decidable ((healthy t0).enabled s l) :=
  inferInstanceAs (Decidable (enabled s.1 l ∧ onHealthyBus s l))

lemma next_healthy (t0 : ℤ) (s : State × Frames) (l : Label) :
    (healthy t0).next s l = (next s.1 l, s.2.update s.1 l) := rfl

/-- `send_heartbeat` does not report the link down: it goes on to `note_link` with no
error. -/
def reportsUp (s : State × Frames) (l : Label) (_ : List Label) : Prop :=
  match l with
  | .readInFlight err => (next s.1 (.readInFlight err)).pc = .beatNote .heartbeat 0
  | _ => True

/-- Where `send_heartbeat` forms its verdict, the frames accepted before the one it is
about have completed. -/
def earlierCompleted (s : State × Frames) (l : Label) (_ : List Label) : Prop :=
  match l with
  | .readInFlight _ => s.2.accepted.length ≤ s.2.completed + 1
  | _ => True

instance (s : State × Frames) (l : Label) (ls : List Label) : Decidable (reportsUp s l ls) := by
  apply l.casesOn (motive := fun l => Decidable (reportsUp s l ls)) <;> intros <;>
    dsimp only [reportsUp] <;> infer_instance

instance (s : State × Frames) (l : Label) (ls : List Label) :
    Decidable (earlierCompleted s l ls) := by
  apply l.casesOn (motive := fun l => Decidable (earlierCompleted s l ls)) <;> intros <;>
    dsimp only [earlierCompleted] <;> infer_instance

/-- The result a verdict under way is formed from. -/
def Pc.judged : Pc → Option ℤ
  | .beatSent rc | .beatJudge rc | .beatCount rc => some rc
  | _ => none

/-- The counters against the frames.  A frame may complete before `atomic_inc` counts
it. -/
structure Counted (s : State × Frames) : Prop where
  onBus_eq : s.2.accepted.length = s.2.completed + s.1.onBus
  inFlight_eq : s.1.beatsInFlight + (if s.1.pc = .beatSent 0 then 1 else 0) = s.1.onBus
  noError : s.1.lastBeatError = 0
  sent : ∀ rc ∈ s.1.pc.judged, rc = 0

/-- A step of `main` that leaves the bus and the frames alone, and no verdict under
way. -/
lemma Counted.elsewhere {s : State × Frames} {l : Label} (h : Counted s) (hen : enabled s.1 l)
    (hf : s.2.update s.1 l = s.2) (hbus : (next s.1 l).onBus = s.1.onBus)
    (herr : (next s.1 l).lastBeatError = s.1.lastBeatError)
    (hnone : (next s.1 l).pc.judged = none) : Counted (next s.1 l, s.2.update s.1 l) where
  onBus_eq := by rw [hf, hbus, h.onBus_eq]
  inFlight_eq := counted_onBus_next hen h.inFlight_eq
  noError := herr.trans h.noError
  sent := by simp [hnone]

/-- A frame is accepted. -/
lemma Counted.canSend {s : State × Frames} (h : Counted s) (hen : enabled s.1 (.canSend 0)) :
    Counted (next s.1 (.canSend 0), s.2.update s.1 (.canSend 0)) where
  onBus_eq := by simp [next, Frames.update, h.onBus_eq, Nat.add_assoc]
  inFlight_eq := counted_onBus_next hen h.inFlight_eq
  noError := h.noError
  sent := by simp [next, Pc.judged]

/-- A frame completes. -/
lemma Counted.complete {s : State × Frames} (h : Counted s) (hen : enabled s.1 (.complete 0)) :
    Counted (next s.1 (.complete 0), s.2.update s.1 (.complete 0)) where
  onBus_eq := by
    have heq := h.onBus_eq
    have hbus : 0 < s.1.onBus := hen
    show s.2.accepted.length = s.2.completed + 1 + (s.1.onBus - 1)
    omega
  inFlight_eq := counted_onBus_next hen h.inFlight_eq
  noError := rfl
  sent := h.sent

/-- **The step lemma of the counters.** -/
lemma counted_inductive (t0 : ℤ) : (healthy t0).Inductive Counted where
  init := ⟨rfl, rfl, rfl, fun rc hrc => by cases hrc⟩
  step s l h hen := by
    obtain ⟨hen, hok⟩ : enabled s.1 l ∧ onHealthyBus s l := hen
    cases l with
    | tick ms => exact ⟨h.onBus_eq, h.inFlight_eq, h.noError, h.sent⟩
    | complete error =>
        obtain rfl : error = 0 := hok
        exact h.complete hen
    | look =>
        refine h.elsewhere hen rfl rfl rfl ?_
        by_cases hdue : s.1.nextBeat - s.1.now ≤ 0 <;> simp [next, hdue, Pc.judged]
    | busState transmittable =>
        refine h.elsewhere hen rfl rfl rfl ?_
        cases transmittable <;> rfl
    | canSend rc =>
        obtain rfl : rc = 0 := hok
        exact h.canSend hen
    | inc rc =>
        -- on a healthy bus the frame was taken, so the counter goes up
        have hpc : s.1.pc = .beatSent rc := hen
        obtain rfl : rc = 0 := h.sent rc (by simp [hpc, Pc.judged])
        exact ⟨h.onBus_eq, counted_onBus_next hen h.inFlight_eq, h.noError,
          by simp [next_healthy, next, Pc.judged]⟩
    | readError rc =>
        have hpc : s.1.pc = .beatJudge rc := hen
        obtain rfl : rc = 0 := h.sent rc (by simp [hpc, Pc.judged])
        exact ⟨h.onBus_eq, counted_onBus_next hen h.inFlight_eq, h.noError,
          by simp [next_healthy, next, Pc.judged, h.noError]⟩
    | semTake rc | chanRead rc =>
        refine h.elsewhere hen rfl rfl rfl ?_
        by_cases hrc : rc = 0 <;> simp [next, hrc, Pc.judged]
    | tryLink transmittable =>
        obtain ⟨hbus, herr, hnone⟩ : (next s.1 (.tryLink transmittable)).onBus = s.1.onBus ∧
            (next s.1 (.tryLink transmittable)).lastBeatError = s.1.lastBeatError ∧
            (next s.1 (.tryLink transmittable)).pc.judged = none := by
          rw [next]
          split_ifs <;> exact ⟨rfl, rfl, rfl⟩
        exact h.elsewhere hen rfl hbus herr hnone
    | readInFlight err | noteBeat what err | received untilBeat len | transferred rc
    | noteTelemetry rc => exact h.elsewhere hen rfl rfl rfl rfl

/-- A verdict is that the link is up if and only if no frame accepted earlier is still
under way. -/
lemma Counted.reportsUp_iff {t0 : ℤ} {s : State × Frames} {l : Label} {ls : List Label}
    (h : Counted s) (hen : (healthy t0).enabled s l) :
    reportsUp s l ls ↔ earlierCompleted s l ls := by
  cases l with
  | readInFlight err =>
      have hpc : s.1.pc = .beatCount err := hen.1
      obtain rfl : err = 0 := h.sent err (by simp [hpc, Pc.judged])
      have hfl := h.inFlight_eq
      have hbus := h.onBus_eq
      rw [hpc, if_neg (by simp)] at hfl
      by_cases hmore : 1 < s.1.beatsInFlight
      · have hlink : ¬ reportsUp s (.readInFlight 0) ls := by
          simp [reportsUp, next, hmore, eBusy]
        refine iff_of_false hlink ?_
        dsimp only [earlierCompleted]
        omega
      · have hlink : reportsUp s (.readInFlight 0) ls := by simp [reportsUp, next, hmore]
        refine iff_of_true hlink ?_
        dsimp only [earlierCompleted]
        omega
  | _ => exact Iff.rfl

/-- **When a healthy bus is reported up**: in every run in which every heartbeat is
accepted and completes without an error in less than a period, `send_heartbeat`
never reports the link down if and only if at each of its verdicts the frames
accepted earlier have completed. -/
theorem neverDown_iff {t0 : ℤ} {ls : List Label} {s : State × Frames}
    (hrun : (healthy t0).Run ls s) :
    (healthy t0).Along reportsUp (healthy t0).init ls ↔
      (healthy t0).Along earlierCompleted (healthy t0).init ls := by
  have hI := counted_inductive t0
  constructor
  · exact hrun.path.along hI (fun _ _ _ _ h hen _ => (h.reportsUp_iff hen).mp) hI.init
  · exact hrun.path.along hI (fun _ _ _ _ h hen _ => (h.reportsUp_iff hen).mpr) hI.init

/-- No beat is sent less than a period after one before it. -/
def beatsApart (s : State × Frames) (l : Label) : Prop :=
  ∀ rc, l = .canSend rc → ∀ t ∈ s.2.accepted, t + kHeartbeatPeriodMs ≤ s.1.now

/-- The frames under way are in time, and where beats are apart there is one at most. -/
structure InTime (s : State × Frames) : Prop where
  timely : ∀ t ∈ s.2.underWay, s.1.now < t + kHeartbeatPeriodMs
  single : s.2.accepted.length ≤ s.2.completed + 1

lemma inTime_inductive (t0 : ℤ) : ((healthy t0).restrict beatsApart).Inductive InTime where
  init := ⟨fun t (ht : t ∈ []) => absurd ht List.not_mem_nil, Nat.zero_le _⟩
  step s l h hen := by
    obtain ⟨⟨hen, hok⟩, hapart⟩ := hen
    cases l with
    | tick ms => exact ⟨hok, h.single⟩
    | complete error =>
        refine ⟨fun t ht => h.timely t ?_, h.single.trans (Nat.le_succ _)⟩
        -- what is still under way was under way before
        have hdrop : t ∈ (s.2.accepted.drop s.2.completed).drop 1 := by
          rw [List.drop_drop]
          exact ht
        exact List.mem_of_mem_drop hdrop
    | canSend rc =>
        obtain rfl : rc = 0 := hok
        -- a period has passed since the frame before, which is in time
        have hnone : s.2.underWay = [] := by
          refine List.eq_nil_iff_forall_not_mem.mpr fun t ht => ?_
          have hlt := h.timely t ht
          have hle := hapart 0 rfl t (List.mem_of_mem_drop ht)
          omega
        have hlen : s.2.accepted.length ≤ s.2.completed := List.drop_eq_nil_iff.mp hnone
        refine ⟨fun t ht => ?_, ?_⟩
        · obtain rfl : t = s.1.now := by
            have hmem : t ∈ (s.2.accepted ++ [s.1.now]).drop s.2.completed := ht
            rw [List.drop_append, List.drop_eq_nil_iff.mpr hlen, List.nil_append] at hmem
            exact List.mem_singleton.mp (List.mem_of_mem_drop hmem)
          exact Int.lt_add_of_pos_right _ (by decide)
        · show (s.2.accepted ++ [s.1.now]).length ≤ s.2.completed + 1
          simpa using hlen
    | tryLink transmittable =>
        have hnow : (next s.1 (.tryLink transmittable)).now = s.1.now := by
          rw [next]
          split_ifs <;> rfl
        exact ⟨fun t ht => hnow.symm ▸ h.timely t ht, h.single⟩
    | _ => exact ⟨h.timely, h.single⟩

/-- Beats a period apart find the ones before them completed. -/
theorem apart_reportsUp {t0 : ℤ} {ls : List Label} {s : State × Frames}
    (hrun : ((healthy t0).restrict beatsApart).Run ls s) :
    (healthy t0).Along reportsUp (healthy t0).init ls := by
  have hI := inTime_inductive t0
  refine (neverDown_iff hrun.of_restrict).mpr (Machine.along_restrict.mp
    (hrun.path.along_of hI (fun s l ls h _ => ?_) hI.init))
  cases l with
  | readInFlight err => exact h.single
  | _ => trivial

/-- A beat. -/
def beatSteps (err : ℤ) : List Label :=
  [.look, .busState true, .canSend 0, .inc 0, .readError 0, .readInFlight 0,
    .noteBeat .heartbeat err]

/-- Two beats a second apart. -/
def punctualRun : List Label :=
  beatSteps 0 ++ [.tick 1, .complete 0, .look, .tick 999, .received 999 0, .semTake (-eBusy)] ++
    beatSteps 0

/-- The second finds the first completed. -/
theorem punctualRun_up : ∃ s, (healthy 0).Run punctualRun s ∧
    (healthy 0).Along reportsUp (healthy 0).init punctualRun :=
  ⟨_, Machine.run_of_exec rfl, (neverDown_iff (Machine.run_of_exec rfl)).mpr (by decide)⟩

/-- A transfer of telemetry takes a little more than a second, and the two slots it
runs over are handled back to back. -/
def backToBackRun : List Label :=
  beatSteps 0 ++ [.tick 1, .complete 0, .look, .tick 998, .received 999 0, .semTake 0, .chanRead 0,
    .tryLink true, .tick 1100, .transferred 0, .noteTelemetry 0] ++ beatSteps 0 ++
    beatSteps (-eBusy)

/-- **A healthy bus is reported down**: the second of the two beats finds the first,
accepted a moment before, still under way. -/
theorem backToBackRun_down : ¬ ∀ ls s, (healthy 0).Run ls s →
    (healthy 0).Along reportsUp (healthy 0).init ls := by
  intro h
  have hrun : (healthy 0).Run backToBackRun _ := Machine.run_of_exec rfl
  have hdown : ¬ (healthy 0).Along reportsUp (healthy 0).init backToBackRun := by decide
  exact hdown (h _ _ hrun)

end ClimateNode.Peer.Loop
