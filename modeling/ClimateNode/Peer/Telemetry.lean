import ClimateNode.Automata.Doorbell
import ClimateNode.Peer.Node

/-!
Telemetry on the peer, `peer-node/src/main.cpp`: the sensor thread publishes a
reading, the listener gives `telemetry_pending`, and `main` takes the semaphore,
reads the channel and sends what it finds, if the link is worth trying.

* `Peer.machine`: the two threads, one atomic action a label.
* `chan_simulates_orderly`: the channel is a doorbell with a bell that stays at
  one.
* `sent_inductive`: what is transmitted is what `main` handed on.
-/

namespace ClimateNode.Peer

open Automata Wire

/-- `chan_telemetry`, its semaphore and its reader, and the frames transmitted so
far under the numbers of their readings. -/
structure State where
  chan : Doorbell.State SensorReading
  sent : List (ℕ × Bytes)

/-- The atomic actions: the sensor thread's three, and those of `main`.  `gated`
is a reading not sent: the bus is off, the link is backed off, or the reading
does not encode. -/
inductive Label where
  | store (reading : SensorReading)
  | notify
  | unlock
  | take
  | read
  | readFail
  | send (ok : Bool)
  | gated

/-- What a label does on the channel. -/
def effect : Label → Doorbell.Label SensorReading
  | .store reading => .store reading
  | .notify => .notify
  | .unlock => .unlock
  | .take => .drain
  | .read => .read
  | .readFail => .readFail
  | .send _ => .hand
  | .gated => .discard

variable (pb : Nanopb)

/-- The frame a reading goes out as, if it does. -/
def telemetryFrame (reading : SensorReading) : Option Bytes :=
  (sendTelemetry pb reading).bind (sendMessage .telemetry)

/-- Which labels may fire. -/
def enabled (s : State) (l : Label) : Prop :=
  Doorbell.enabled s.chan (effect l) ∧
    match l with
    | .send _ => (telemetryFrame pb s.chan.buffer.2).isSome = true
    | _ => True

instance (s : State) (l : Label) : Decidable (enabled pb s l) := by
  cases l <;> dsimp only [enabled] <;> infer_instance

/-- The frame a label transmits. -/
def transmitted (s : State) : Label → List (ℕ × Bytes)
  | .send true => [(s.chan.buffer.1, (telemetryFrame pb s.chan.buffer.2).getD [])]
  | _ => []

/-- What each label does. -/
def next (s : State) (l : Label) : State :=
  ⟨Doorbell.next .binary s.chan (effect l), s.sent ++ transmitted pb s l⟩

/-- Boot: the semaphore is there from the start. -/
def boot : State := ⟨Doorbell.next .binary Doorbell.State.empty .create, []⟩

/-- The machine of the peer's telemetry. -/
def machine : Machine State Label := ⟨boot, enabled pb, next pb⟩

instance (s : State) (l : Label) : Decidable ((machine pb).enabled s l) :=
  inferInstanceAs (Decidable (enabled pb s l))

/-- The listener does not give the semaphore while `main`, having taken it, has
yet to read. -/
def quietRead (s : State) (l : Label) : Prop := Doorbell.unhurried s.chan (effect l)

instance (s : State) (l : Label) : Decidable (quietRead s l) :=
  inferInstanceAs (Decidable (Doorbell.unhurried s.chan (effect l)))

/-- The channel, in the runs in which the listener keeps out of the way. -/
theorem chan_simulates_orderly :
    ((Doorbell.machine SensorReading .binary).restrict Doorbell.orderly).Simulates
      ((machine pb).restrict quietRead) State.chan where
  init := ⟨[.create], Machine.Run.nil.snoc ⟨rfl, trivial, trivial⟩⟩
  step s l hl := by
    refine .inr ⟨effect l, ⟨hl.1.1, ?_, hl.2⟩, rfl⟩
    cases l <;> trivial

/-- What was transmitted was handed on by `main`. -/
theorem sent_inductive : (machine pb).Inductive fun s =>
    s.sent.Sublist (s.chan.handed.map fun h => (h.1, (telemetryFrame pb h.2).getD [])) where
  init := List.nil_sublist _
  step s l h _ := by
    cases l with
    | send ok =>
        simp only [machine, next, effect, Doorbell.next, List.map_append]
        refine h.append ?_
        cases ok <;> simp [transmitted]
    | _ => simpa [machine, next, effect, Doorbell.next, transmitted] using h

end ClimateNode.Peer
