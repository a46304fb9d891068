import Mathlib.Data.List.Basic

/-!
`shared/app_channels.h`: the messages that cross the bus between the sensor
thread and the transport thread, and the rule the `chan_sensor_cmd` validator
enforces.  Both nodes link this header, each for its own sensor.

A float is its 32-bit pattern throughout: nothing here computes with one.
-/

namespace ClimateNode

/-- `SAMPLE_PERIOD_DEFAULT_MS`. -/
def samplePeriodDefaultMs : UInt32 := 5000

/-- `SAMPLE_PERIOD_MIN_MS`. -/
def samplePeriodMinMs : UInt32 := 1000

/-- `SAMPLE_PERIOD_MAX_MS`. -/
def samplePeriodMaxMs : UInt32 := 300000

/-- `enum sensor_reading_status`. -/
inductive SensorReadingStatus where
  | ok | warmingUp | error
  deriving DecidableEq, Repr, Inhabited

/-- `struct sensor_reading`: a presence flag beside each measurement, so that a
node leaves out what it cannot measure instead of sending a zero. -/
structure SensorReading where
  sequence : UInt32
  uptimeMs : UInt32
  hasCo2Ppm : Bool
  co2Ppm : UInt32
  hasTemperatureC : Bool
  temperatureC : UInt32
  hasHumidityRh : Bool
  humidityRh : UInt32
  hasPressurePa : Bool
  pressurePa : UInt32
  status : SensorReadingStatus
  deriving DecidableEq, Repr, Inhabited

/-- `enum sensor_cmd_kind`. -/
inductive SensorCmdKind where
  | setInterval | trigger
  deriving DecidableEq, Repr, Inhabited

/-- `struct sensor_cmd`; the interval only means something when it is set. -/
structure SensorCmd where
  kind : SensorCmdKind
  intervalMs : UInt32
  deriving DecidableEq, Repr, Inhabited

/-- `sensor_cmd_in_range`, the rule behind the validator. -/
def sensorCmdInRange (cmd : SensorCmd) : Bool :=
  match cmd.kind with
  | .setInterval => samplePeriodMinMs ≤ cmd.intervalMs && cmd.intervalMs ≤ samplePeriodMaxMs
  | .trigger => true

/-! ### The command channel -/

/-- `ENOMSG`, what `zbus_chan_pub` answers (negated) when the validator
refuses. -/
def eNoMsg : Int := 35

/-- `chan_sensor_cmd`: its content, every message stored on it, oldest first,
and the fact the validator guarantees about both. -/
structure SensorCmdChan where
  content : SensorCmd
  stored : List SensorCmd
  valid : ∀ sc ∈ content :: stored, sensorCmdInRange sc = true

namespace SensorCmdChan

@[ext] lemma ext {a b : SensorCmdChan} (hc : a.content = b.content) (hs : a.stored = b.stored) :
    a = b := by
  cases a; cases b; simp_all

/-- `ZBUS_MSG_INIT(SENSOR_CMD_SET_INTERVAL, SAMPLE_PERIOD_DEFAULT_MS)`: the
initial contents, stored by nobody. -/
def initial : SensorCmdChan := ⟨⟨.setInterval, samplePeriodDefaultMs⟩, [], by decide⟩

/-- A message the validator accepted and the bus took. -/
def store (ch : SensorCmdChan) (sc : SensorCmd) (h : sensorCmdInRange sc = true) :
    SensorCmdChan where
  content := sc
  stored := ch.stored ++ [sc]
  valid c hc := by
    simp only [List.mem_cons, List.mem_append, List.not_mem_nil, or_false] at hc
    rcases hc with rfl | hc | rfl
    · exact h
    · exact ch.valid c (List.mem_cons_of_mem _ hc)
    · exact h

/-- `zbus_chan_pub(&chan_sensor_cmd, ..)`: the validator first, then whatever
the bus itself answers, zero when it took the message. -/
def pub (ch : SensorCmdChan) (sc : SensorCmd) (bus : Int) : Int × SensorCmdChan :=
  if h : sensorCmdInRange sc = true then
    if bus = 0 then (0, ch.store sc h) else (bus, ch)
  else (-eNoMsg, ch)

variable {ch : SensorCmdChan} {sc : SensorCmd} {bus : Int}

lemma pub_accepted (h : sensorCmdInRange sc = true) :
    ch.pub sc 0 = (0, ch.store sc h) := by
  simp [pub, h]

/-- A publish that is refused, by the validator or by the bus, reports a
failure and leaves the channel as it was. -/
lemma pub_refused (h : sensorCmdInRange sc = false ∨ bus ≠ 0) :
    (ch.pub sc bus).1 ≠ 0 ∧ (ch.pub sc bus).2 = ch := by
  rw [pub]
  split_ifs with hr hb
  · simp [hr, hb] at h
  · exact ⟨hb, rfl⟩
  · exact ⟨by simp [eNoMsg], rfl⟩

end SensorCmdChan

end ClimateNode
