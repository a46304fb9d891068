import ClimateNode.Peer.MainLoop

/-!
`beats_in_flight` of `peer-node/src/main.cpp`: counted up by `main` once `can_send` has
accepted a heartbeat, and down by `heartbeat_sent` in the interrupt, which may come
before `main` has counted.

* `accepted`, `completed`: the heartbeats of a run, read off its labels.
* `counted_next`, `onBus_next`: what a step adds to the counter and to the frames on
  the bus is the same.
* `beats_counted`: **the counter never drifts**, and the check never sees it below
  zero.
-/

namespace ClimateNode.Peer.Loop

open Automata

/-- `can_send` accepts a heartbeat. -/
def Label.accepts : Label → Bool
  | .canSend rc => rc == 0
  | _ => false

/-- A heartbeat completes. -/
def Label.completes : Label → Bool
  | .complete _ => true
  | _ => false

/-- The heartbeats accepted in a run. -/
def accepted (ls : List Label) : ℕ := ls.countP Label.accepts

/-- The heartbeats completed in a run. -/
def completed (ls : List Label) : ℕ := ls.countP Label.completes

/-- What a step adds to the heartbeats accepted and not completed. -/
def Label.beats (l : Label) : ℤ :=
  (if l.accepts then 1 else 0) - (if l.completes then 1 else 0)

/-- One, while a heartbeat has been accepted that `main` has not counted. -/
def uncounted (s : State) : ℤ := if s.pc = .beatSent 0 then 1 else 0

lemma sum_beats (ls : List Label) : (ls.map Label.beats).sum = accepted ls - completed ls := by
  induction ls with
  | nil => rfl
  | cons l ls ih =>
      rw [List.map_cons, List.sum_cons, ih, Label.beats, accepted, completed, accepted, completed,
        List.countP_cons, List.countP_cons]
      push_cast
      ring

section Steps

variable {s : State} {l : Label}

/-- A step of `main` that neither sends nor counts. -/
lemma counted_of_same {t : State} {pc : Pc} (hpc : s.pc = pc) (hs : pc ≠ .beatSent 0)
    (hfl : t.beatsInFlight = s.beatsInFlight) (ht : t.pc ≠ .beatSent 0) (hl : l.beats = 0) :
    t.beatsInFlight + uncounted t = s.beatsInFlight + uncounted s + l.beats := by
  rw [hfl, uncounted, uncounted, hpc, if_neg hs, if_neg ht, hl, add_zero, add_zero]

/-- What a step adds to the counter, what is not counted yet included. -/
lemma counted_next (hen : enabled s l) :
    (next s l).beatsInFlight + uncounted (next s l) = s.beatsInFlight + uncounted s + l.beats := by
  cases l with
  | tick ms => exact (add_zero _).symm
  | complete error =>
      show s.beatsInFlight - 1 + uncounted s = s.beatsInFlight + uncounted s + -1
      ring
  | canSend rc =>
      have hpc : s.pc = .beatSend := hen
      by_cases hrc : rc = 0 <;>
        simp [next, uncounted, hpc, hrc, Label.beats, Label.accepts, Label.completes]
  | inc rc =>
      have hpc : s.pc = .beatSent rc := hen
      by_cases hrc : rc = 0 <;>
        simp [next, uncounted, hpc, hrc, Label.beats, Label.accepts, Label.completes]
  | look =>
      refine counted_of_same hen (by simp) rfl ?_ rfl
      by_cases hdue : s.nextBeat - s.now ≤ 0 <;> simp [next, hdue]
  | busState transmittable =>
      refine counted_of_same hen (by simp) rfl ?_ rfl
      cases transmittable <;> simp [next]
  | semTake rc | chanRead rc =>
      refine counted_of_same hen (by simp) rfl ?_ rfl
      by_cases hrc : rc = 0 <;> simp [next, hrc]
  | tryLink transmittable =>
      rw [next]
      split_ifs <;> exact counted_of_same hen (by simp) rfl (by simp) rfl
  | readError rc | readInFlight err | noteBeat what err | received untilBeat len | transferred rc
  | noteTelemetry rc =>
      exact counted_of_same hen (by simp) rfl (by simp [next]) rfl

/-- What a step adds to the frames on the bus. -/
lemma onBus_next (hen : enabled s l) : ((next s l).onBus : ℤ) = s.onBus + l.beats := by
  cases l with
  | complete error =>
      have hbus : 0 < s.onBus := hen
      show ((s.onBus - 1 : ℕ) : ℤ) = s.onBus + -1
      omega
  | canSend rc =>
      by_cases hrc : rc = 0 <;> simp [next, hrc, Label.beats, Label.accepts, Label.completes]
  | tryLink transmittable =>
      rw [next]
      split_ifs <;> exact (add_zero _).symm
  | _ => exact (add_zero _).symm

/-- The counter keeps up with the bus. -/
lemma counted_onBus_next (hen : enabled s l) (h : s.beatsInFlight + uncounted s = s.onBus) :
    (next s l).beatsInFlight + uncounted (next s l) = (next s l).onBus := by
  rw [counted_next hen, onBus_next hen, h]

end Steps

section Runs

variable {t0 : ℤ} {ls : List Label} {s : State}

/-- The counter, what is not counted yet included, is the heartbeats under way. -/
lemma beatsInFlight_run (hrun : (machine t0).Run ls s) :
    s.beatsInFlight + uncounted s = accepted ls - completed ls := by
  have h := hrun.sum (f := fun s => s.beatsInFlight + uncounted s) fun _ _ => counted_next
  rwa [sum_beats, show (machine t0).init.beatsInFlight + uncounted (machine t0).init = 0 from rfl,
    zero_add] at h

/-- The frames on the bus are the heartbeats under way. -/
lemma onBus_run (hrun : (machine t0).Run ls s) : (s.onBus : ℤ) = accepted ls - completed ls := by
  have h := hrun.sum (f := fun s => (s.onBus : ℤ)) fun _ _ => onBus_next
  rwa [sum_beats, show ((machine t0).init.onBus : ℤ) = 0 from rfl, zero_add] at h

/-- What is assumed of the interrupt: a heartbeat completes after it is accepted, and
once. -/
theorem complete_enabled_iff (hrun : (machine t0).Run ls s) (error : ℤ) :
    (machine t0).enabled s (.complete error) ↔ completed ls < accepted ls := by
  have hbus := onBus_run hrun
  show 0 < s.onBus ↔ _
  omega

lemma uncounted_eq_zero (hpc : s.pc ≠ .beatSent 0) : uncounted s = 0 := if_neg hpc

/-- **The counter never drifts**: in every run, where `send_heartbeat` checks it, it is
the heartbeats accepted and not completed, and not negative.  Over any stretch of a run
it grows by those accepted and shrinks by those completed; one that `can_send` rejects
leaves it alone; it is zero when all have completed; and it is below zero only between
an early completion and `atomic_inc`. -/
theorem beats_counted (hrun : (machine t0).Run ls s) :
    (∀ err, (machine t0).enabled s (.readInFlight err) →
      s.beatsInFlight = accepted ls - completed ls ∧ 0 ≤ s.beatsInFlight) ∧
    (∀ mid t, (machine t0).Run (ls ++ mid) t → s.pc ≠ .beatSent 0 → t.pc ≠ .beatSent 0 →
      t.beatsInFlight = s.beatsInFlight + accepted mid - completed mid) ∧
    (∀ rc, rc ≠ 0 → (next s (.canSend rc)).beatsInFlight = s.beatsInFlight ∧
      (next s (.inc rc)).beatsInFlight = s.beatsInFlight) ∧
    (completed ls = accepted ls → s.pc ≠ .beatSent 0 → s.beatsInFlight = 0) ∧
    (s.beatsInFlight < 0 → s.beatsInFlight = -1 ∧ s.pc = .beatSent 0) := by
  have hcount := beatsInFlight_run hrun
  have hbus := onBus_run hrun
  refine ⟨fun err hen => ?_, fun mid t hrun' hs ht => ?_, fun rc hrc => ⟨rfl, ?_⟩,
    fun hall hs => ?_, fun hneg => ?_⟩
  · have hpc : s.pc = .beatCount err := hen
    rw [uncounted_eq_zero (by simp [hpc])] at hcount
    omega
  · have hcount' := beatsInFlight_run hrun'
    rw [uncounted_eq_zero hs] at hcount
    rw [uncounted_eq_zero ht, accepted, completed, List.countP_append, List.countP_append]
      at hcount'
    simp only [accepted, completed] at hcount ⊢
    omega
  · simp [next, hrc]
  · rw [uncounted_eq_zero hs] at hcount
    omega
  · by_cases hpc : s.pc = .beatSent 0
    · rw [uncounted, if_pos hpc] at hcount
      exact ⟨by omega, hpc⟩
    · rw [uncounted_eq_zero hpc] at hcount
      omega

end Runs

/-- The first beat completes before it is counted, the second is rejected, and the third
is accepted. -/
def earlyRun : List Label :=
  [.look, .busState true, .canSend 0, .complete 0, .inc 0, .readError 0, .readInFlight 0,
    .noteBeat .heartbeat 0, .look, .received 1000 0, .semTake (-eBusy), .tick 1000,
    .look, .busState true, .canSend (-11), .inc (-11), .readError (-11), .readInFlight (-11),
    .noteBeat .heartbeat (-11), .look, .received 1000 0, .semTake (-eBusy), .tick 1000,
    .look, .busState true, .canSend 0, .inc 0, .readError 0]

/-- The check then sees one beat in flight. -/
theorem earlyRun_counted : ∃ s, (machine 0).Run earlyRun s ∧
    s.beatsInFlight = accepted earlyRun - completed earlyRun ∧ 0 ≤ s.beatsInFlight ∧
    accepted earlyRun = completed earlyRun + 1 := by
  have hrun : (machine 0).Run earlyRun _ := Machine.run_of_exec rfl
  obtain ⟨hcount, hpos⟩ := (beats_counted hrun).1 0 rfl
  exact ⟨_, hrun, hcount, hpos, rfl⟩

/-- Before the first is counted, the counter is below zero. -/
example : ((machine 0).exec (machine 0).init (earlyRun.take 4)).map State.beatsInFlight =
    some (-1) := rfl

end ClimateNode.Peer.Loop
