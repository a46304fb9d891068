import ClimateNode.Automata.Product
import ClimateNode.Automata.Replay
import ClimateNode.Peer.Telemetry
import ClimateNode.Shared.Readings

/-!
The peer's sensor thread and the telemetry of its `main`, which meet in
`chan_telemetry`.

* `machine`: the two, a reading stored on the channel being a step of both.
* `taken_of_history`: the channel holds readings the thread took, in their order.
* `handed_replays`: **what `main` hands on** are readings the thread took, replayed.
-/

namespace ClimateNode.Peer.Publish

open Automata

/-- The atomic actions: the sensor thread's, a reading stored on the channel, the
listener's and those of `main`. -/
inductive Label where
  | sensor (l : Readings.Label)
  | publish (reading : SensorReading)
  | main (l : Peer.Label)

/-- What a label is to the sensor thread. -/
def Label.toSensor : Label → Option Readings.Label
  | .sensor l => some l
  | .publish reading => some (.publish reading)
  | .main _ => none

/-- What a label is on the channel. -/
def Label.toChan : Label → Option Peer.Label
  | .sensor _ => none
  | .publish reading => some (.store reading)
  | .main l => some l

/-- A label of one side alone stores nothing on the channel. -/
def Label.apart : Label → Prop
  | .sensor (.publish _) | .main (.store _) => False
  | _ => True

instance (l : Label) : Decidable l.apart := by
  unfold Label.apart
  split <;> infer_instance

variable (pb : Nanopb) (conv : Conversions) (deviceOk : Bool) (t0 : ℤ)

/-- The sensor thread and `main` of the peer. -/
def machine : Machine (Readings.State × Peer.State) Label :=
  .pair (Peer.readings conv deviceOk t0) (Peer.machine pb) Label.toSensor Label.toChan
    fun _ l => l.apart

variable {pb conv deviceOk t0} {ls : List Label} {s : Readings.State × Peer.State}

/-- The channel of the peer is a doorbell that is read when it has rung. -/
lemma chan_simulates : ((Doorbell.machine SensorReading .binary).restrict
    Doorbell.announced).Simulates (Peer.machine pb) Peer.State.chan where
  init := ⟨[.create], Machine.Run.nil.snoc ⟨rfl, trivial⟩⟩
  step s l hl := by
    refine .inr ⟨Peer.effect l, ⟨hl.1, ?_⟩, rfl⟩
    cases l <;> trivial

/-- The channel holds what the thread published. -/
lemma history_inductive : (machine pb conv deviceOk t0).Inductive fun s =>
    s.2.chan.history = s.1.published where
  init := rfl
  step s l h hl := by
    obtain ⟨-, -, hapart⟩ := hl
    cases l with
    | publish reading => exact congrArg (· ++ [reading]) h
    | sensor l =>
        cases l with
        | publish reading => exact absurd hapart id
        | loop l | sample sample | busy ms | publishFail => exact h
    | main l =>
        cases l with
        | store reading => exact absurd hapart id
        | _ => exact h

/-- The readings of a run are numbered as they were taken. -/
lemma numbered (hrun : (machine pb conv deviceOk t0).Run ls s) :
    Readings.Numbered (readBme280 conv deviceOk) s.1 :=
  hrun.fst.invariant (Readings.numbered_inductive ((bme280_reads conv).uptimeMs deviceOk))

/-- The channel holds readings the thread took, in their order. -/
lemma taken_of_history (hrun : (machine pb conv deviceOk t0).Run ls s) :
    s.2.chan.history.Sublist s.1.taken := by
  rw [hrun.invariant history_inductive]
  exact (List.sublist_append_left _ _).trans (numbered hrun).published

/-- **What `main` hands on** are readings the thread took, replayed. -/
theorem handed_replays {β : Type*} [DecidableEq β] (f : SensorReading → β)
    (hrun : (machine pb conv deviceOk t0).Run ls s) :
    Replays (s.2.chan.handed.map fun h => f h.2) (s.1.taken.map f) := by
  obtain ⟨hsound, hpos⟩ := chan_simulates.invariant (Doorbell.positive_inductive .binary) hrun.snd
  have hread := Replays.of_destutter
    (Doorbell.handed_destutter_sublist hsound hpos (List.Sublist.refl _) f)
  exact hread.trans (.of_sublist ((taken_of_history hrun).map _))

end ClimateNode.Peer.Publish
