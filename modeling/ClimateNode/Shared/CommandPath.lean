import ClimateNode.Shared.Commands
import ClimateNode.Shared.SensorThread

/-!
Commands on a node from end to end: `handle_command` on the transport thread, and the
sensor thread that obeys, which meet in `chan_sensor_cmd`.

* `machine`: the two threads, one delivery of a Command at a time.
* `oneChannel_inductive`: both see one channel, and the commands state is that of the
  deliveries so far.
* `commands_reach_sensor`: **what becomes of a run of deliveries**.
-/

namespace ClimateNode.CommandPath

open Automata

/-- The commands state, the sensor thread, and the Commands delivered so far, oldest
first. -/
structure State where
  commands : CommandState
  thread : SensorThread.State
  inputs : List Delivery

/-- A Command is handled, or the sensor thread makes a step. -/
inductive Label where
  | deliver (x : Delivery)
  | thread (l : SensorThread.Label)
  deriving DecidableEq, Repr

/-- The message `handle_command` publishes on `chan_sensor_cmd`, should it come to
that. -/
def publishes (st : CommandState) (cmd : Command) : Option SensorCmd :=
  if st.haveLastCommand && cmd.sequence == st.lastCommandSequence then none else sensorCmdOf cmd

/-- A label of the sensor thread alone publishes nothing. -/
def Label.apart : Label → Prop
  | .thread (.pub _ _) => False
  | _ => True

instance (l : Label) : Decidable l.apart := by
  unfold Label.apart
  split <;> infer_instance

/-- Which actions may fire. -/
def enabled (s : State) : Label → Prop
  | .deliver _ => True
  | .thread l => SensorThread.enabled s.thread l ∧ (Label.thread l).apart

instance (s : State) (l : Label) : Decidable (enabled s l) := by
  cases l <;> dsimp only [enabled] <;> infer_instance

variable (node : NodeIdentity)

/-- What each action does; what `handle_command` publishes is put on the thread's queue. -/
def next (s : State) : Label → State
  | .deliver x =>
      { commands := (handleCommand node s.commands x.cmd x.bus).2
        thread := (publishes s.commands x.cmd).elim s.thread fun sc =>
          SensorThread.next s.thread (.pub sc x.bus)
        inputs := s.inputs ++ [x] }
  | .thread l => { s with thread := SensorThread.next s.thread l }

/-- A node started at `t0`. -/
def machine (powerUpMs : ℕ) (t0 : ℤ) : Machine State Label :=
  ⟨⟨.initial, (SensorThread.machine powerUpMs t0).init, []⟩, enabled, next node⟩

instance (powerUpMs : ℕ) (t0 : ℤ) (s : State) (l : Label) :
    Decidable ((machine node powerUpMs t0).enabled s l) :=
  inferInstanceAs (Decidable (enabled s l))

variable {node} {powerUpMs : ℕ} {t0 : ℤ} {ls : List Label} {s : State}

/-- **The thread** is the one of `Shared.SensorThread`. -/
theorem thread_simulates :
    (SensorThread.machine powerUpMs t0).Simulates (machine node powerUpMs t0) State.thread where
  init := .init _
  step s l hl := by
    cases l with
    | deliver x =>
        simp only [machine, next]
        cases publishes s.commands x.cmd with
        | none => exact .inl rfl
        | some sc => exact .inr ⟨.pub sc x.bus, trivial, rfl⟩
    | thread l => exact .inr ⟨l, hl.1, rfl⟩

/-- What a Command makes of the channel is its publish, if it comes to one. -/
lemma handleCommand_chan (st : CommandState) (cmd : Command) (bus : ℤ) :
    (handleCommand node st cmd bus).2.chanSensorCmd =
      (publishes st cmd).elim st.chanSensorCmd fun sc => (st.chanSensorCmd.pub sc bus).2 := by
  rw [handleCommand, publishes]
  split_ifs with hdup
  · rfl
  · cases hsc : sensorCmdOf cmd with
    | none => exact (applyCommand_other node hsc).1
    | some sc =>
        simp only [applyCommand_sensor node hsc, forwardToSensor, Option.elim_some]
        split_ifs <;> rfl

/-- The two threads see one channel, and the commands state is that of the run of
deliveries. -/
structure OneChannel (node : NodeIdentity) (s : State) : Prop where
  chan : s.thread.chan = s.commands.chanSensorCmd
  commands : s.commands = runCommands node s.inputs

/-- Only a publish changes the thread's view of the channel. -/
lemma chan_next {th : SensorThread.State} {l : SensorThread.Label} (h : (Label.thread l).apart) :
    (SensorThread.next th l).chan = th.chan := by
  cases l with
  | pub sc bus => exact absurd h id
  | obey cmd =>
      obtain ⟨kind, intervalMs⟩ := cmd
      cases kind <;> rfl
  | _ => rfl

theorem oneChannel_inductive : (machine node powerUpMs t0).Inductive (OneChannel node) where
  init := ⟨rfl, rfl⟩
  step s l h hl := by
    cases l with
    | deliver x =>
        refine ⟨?_, ?_⟩
        · simp only [machine, next, handleCommand_chan]
          cases publishes s.commands x.cmd with
          | none => exact h.chan
          | some sc =>
              simp only [Option.elim_some, SensorThread.next]
              rw [h.chan]
        · simp only [machine, next]
          rw [runCommands_concat, ← h.commands]
    | thread l => exact ⟨(chan_next hl.2).trans h.chan, h.commands⟩

/-! ### What the sensor thread has been told -/

/-- The interval last set, if any. -/
def lastInterval (cmds : List SensorCmd) : UInt32 :=
  ((cmds.filter (·.kind = .setInterval)).getLast?.map (·.intervalMs)).getD samplePeriodDefaultMs

/-- The triggers among them. -/
def triggersOf (cmds : List SensorCmd) : ℕ := (cmds.filter (·.kind = .trigger)).length

lemma periodInForce_eq (log : List SensorThread.Event) :
    SensorThread.periodInForce log = lastInterval (SensorThread.dequeued log) := by
  induction log with
  | nil => rfl
  | cons e earlier ih =>
      cases e with
      | sampled time sequence => exact ih
      | dequeued time cmd =>
          obtain ⟨kind, intervalMs⟩ := cmd
          cases kind with
          | setInterval => simp [SensorThread.periodInForce, lastInterval, SensorThread.dequeued]
          | trigger =>
              have hskip : SensorThread.periodInForce (.dequeued time ⟨.trigger, intervalMs⟩ ::
                  earlier) = SensorThread.periodInForce earlier := rfl
              rw [hskip, ih]
              simp [lastInterval, SensorThread.dequeued]

lemma triggers_eq (log : List SensorThread.Event) :
    SensorThread.triggers log = triggersOf (SensorThread.dequeued log) := by
  induction log with
  | nil => rfl
  | cons e earlier ih =>
      cases e with
      | sampled time sequence => exact ih
      | dequeued time cmd =>
          obtain ⟨kind, intervalMs⟩ := cmd
          cases kind <;> simp [SensorThread.triggers, triggersOf, SensorThread.dequeued, ih]

/-- **What becomes of a run of deliveries**, at either node and whatever they are: the
commands that a run of deliveries should store, and no others, come to the sensor thread,
once each and in order.  So once it has caught up its period is the interval last
accepted, and each trigger accepted has a sample of its own, if only the one now due. -/
theorem commands_reach_sensor
    (hrun : (machine node kSensorPowerUpMs t0).Run ls s ∨ (machine node 0 t0).Run ls s) :
    SensorThread.dequeued s.thread.log ++ s.thread.queue = expectedStores s.inputs ∧
    (s.thread.queue = [] → (∀ cmd, s.thread.pc ≠ .obey cmd) →
      s.thread.periodMs = lastInterval (expectedStores s.inputs)) ∧
    (s.thread.queue = [] → s.thread.log ≠ [] →
      triggersOf (expectedStores s.inputs) <
        SensorThread.samples s.thread.log + (SensorThread.triggered s.thread.log).toNat) := by
  obtain ⟨hchan, hsched⟩ : OneChannel node s ∧ SensorThread.OnSchedule s.thread := by
    rcases hrun with hrun | hrun
    · exact ⟨hrun.invariant oneChannel_inductive,
        thread_simulates.invariant (SensorThread.onSchedule_inductive _ _) hrun⟩
    · exact ⟨hrun.invariant oneChannel_inductive,
        thread_simulates.invariant (SensorThread.onSchedule_inductive _ _) hrun⟩
  have hstored : SensorThread.dequeued s.thread.log ++ s.thread.queue =
      expectedStores s.inputs := by
    rw [← hsched.order, hchan.chan, hchan.commands, stored_run]
  refine ⟨hstored, fun hqueue hpc => ?_, fun hqueue hne => ?_⟩
  · have hobeyed : SensorThread.obeyed s.thread = s.thread.log := by
      rw [SensorThread.obeyed]
      split
      · exact absurd ‹_› (hpc _)
      · rfl
    rw [hsched.period, hobeyed, periodInForce_eq, ← hstored, hqueue, List.append_nil]
  · rw [← hstored, hqueue, List.append_nil, ← triggers_eq]
    exact SensorThread.triggers_lt_samples hsched.onTime hne

/-- An interval, redelivered, while the sensor powers up. -/
def twoDeliveries : List Label :=
  [.deliver ⟨⟨1, 6, setIntervalTag, 2000⟩, 0⟩, .deliver ⟨⟨1, 6, setIntervalTag, 2000⟩, 0⟩] ++
    ([.tick 100, .poweredUp, .sample, .look, .receive 5100 ⟨.setInterval, 2000⟩,
      .obey ⟨.setInterval, 2000⟩] : List SensorThread.Label).map .thread

/-- The interval is obeyed once. -/
theorem twoDeliveries_reach : ∃ s,
    (machine ⟨cstr "nucleo_h753zi", cstr "nucleo-1"⟩ kSensorPowerUpMs 0).Run twoDeliveries s ∧
    s.thread.queue = [] ∧ s.thread.periodMs = 2000 ∧
    s.thread.periodMs = lastInterval (expectedStores s.inputs) := by
  have hrun : (machine ⟨cstr "nucleo_h753zi", cstr "nucleo-1"⟩ kSensorPowerUpMs 0).Run
    twoDeliveries _ := Machine.run_of_exec rfl
  refine ⟨_, hrun, rfl, rfl, (commands_reach_sensor (.inl hrun)).2.1 rfl fun cmd h => ?_⟩
  have hpc : SensorThread.Pc.look = .obey cmd := h
  exact SensorThread.Pc.noConfusion hpc

end ClimateNode.CommandPath
