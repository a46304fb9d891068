import ClimateNode.Wire.Proto3
import ClimateNode.Shared.AppChannels

/-!
`shared/protocol.cpp`: where the internal types become the protobuf contract of
`proto/node.proto`, and back.  The generated nanopb code is a parameter
(`Nanopb`); `Nanopb.proto3` is the proto3 reading of the schema, with nanopb's
refusals of a known field on the wrong wire type and of an integer too large
for its field.

A C string is the bytes before its NUL.
-/

namespace ClimateNode

open Wire

/-! ### The generated messages -/

/-- `kSchemaVersion`. -/
def kSchemaVersion : UInt32 := 1

/-- `node_Command_size`, `node_Telemetry_size`, `node_Ack_size`: the generated
bounds on the encodings. -/
def nodeCommandSize : ℕ := 20

@[inherit_doc nodeCommandSize] def nodeTelemetrySize : ℕ := 42

@[inherit_doc nodeCommandSize] def nodeAckSize : ℕ := 140

/-- `node_Command_set_interval_tag`. -/
def setIntervalTag : UInt16 := 10

/-- `node_Command_trigger_measurement_tag`. -/
def triggerMeasurementTag : UInt16 := 11

/-- `node_Command_get_device_info_tag`. -/
def getDeviceInfoTag : UInt16 := 12

/-- `node_Command`.  Of the `oneof` only `set_interval` has a field, so the union
is that field. -/
structure Command where
  schemaVersion : UInt32
  sequence : UInt32
  whichPayload : UInt16
  intervalMs : UInt32
  deriving DecidableEq, Repr, Inhabited

/-- `node_SensorStatus`. -/
inductive SensorStatus where
  | unspecified | ok | warmingUp | error
  deriving DecidableEq, Repr, Inhabited

/-- The number a status has on the wire. -/
def SensorStatus.wire : SensorStatus → ℕ
  | .unspecified => 0
  | .ok => 1
  | .warmingUp => 2
  | .error => 3

/-- `node_Telemetry`, a `has_` bit and its value being an option. -/
structure Telemetry where
  schemaVersion : UInt32
  sequence : UInt32
  uptimeMs : UInt32
  co2Ppm : Option UInt32
  temperatureC : Option UInt32
  humidityRh : Option UInt32
  sensorStatus : SensorStatus
  pressurePa : Option UInt32
  deriving DecidableEq, Repr, Inhabited

/-- `node_AckStatus`. -/
inductive AckStatus where
  | unspecified | ok | invalidArgument | unsupported | failed | malformed
  deriving DecidableEq, Repr, Inhabited

/-- The number a status has on the wire. -/
def AckStatus.wire : AckStatus → ℕ
  | .unspecified => 0
  | .ok => 1
  | .invalidArgument => 2
  | .unsupported => 3
  | .failed => 4
  | .malformed => 5

/-- `node_DeviceInfo`. -/
structure DeviceInfo where
  firmwareVersion : Bytes
  board : Bytes
  clientId : Bytes
  deriving DecidableEq, Repr, Inhabited

/-- `node_Ack`. -/
structure Ack where
  schemaVersion : UInt32
  sequence : UInt32
  status : AckStatus
  detail : Bytes
  deviceInfo : Option DeviceInfo
  deriving DecidableEq, Repr, Inhabited

/-! ### The generated code -/

/-- The generated nanopb code, as `protocol.cpp` uses it: `pb_decode` of a
Command, and `pb_encode` of the other two into a buffer of a given size, `none`
where the library returns false. -/
structure Nanopb where
  decodeCommand : Bytes → Option Command
  encodeTelemetry : Telemetry → ℕ → Option Bytes
  encodeAck : Ack → ℕ → Option Bytes

namespace Nanopb

/-- A proto3 integer or enum: not written when zero. -/
def implicit (number n : ℕ) : List Field := if n = 0 then [] else [⟨number, .varint n⟩]

/-- A proto3 string: not written when empty. -/
def implicitString (number : ℕ) (s : Bytes) : List Field :=
  if s.isEmpty then [] else [⟨number, .len s⟩]

/-- The four bytes of a float, least significant first. -/
def float32 (bits : UInt32) : Bytes :=
  [bits.toUInt8, (bits >>> 8).toUInt8, (bits >>> 16).toUInt8, (bits >>> 24).toUInt8]

/-- An `optional` integer: written whenever present. -/
def optionalInt (number : ℕ) (v : Option UInt32) : List Field :=
  v.toList.map fun n => ⟨number, .varint n.toNat⟩

/-- An `optional` float: written whenever present. -/
def optionalFloat (number : ℕ) (v : Option UInt32) : List Field :=
  v.toList.map fun bits => ⟨number, .fixed32 (float32 bits)⟩

/-- The fields of a Telemetry, in number order. -/
def telemetryFields (m : Telemetry) : List Field :=
  implicit 1 m.schemaVersion.toNat ++ implicit 2 m.sequence.toNat ++
    implicit 3 m.uptimeMs.toNat ++ optionalInt 4 m.co2Ppm ++ optionalFloat 5 m.temperatureC ++
    optionalFloat 6 m.humidityRh ++ implicit 7 m.sensorStatus.wire ++ optionalInt 8 m.pressurePa

/-- The fields of a DeviceInfo. -/
def deviceInfoFields (i : DeviceInfo) : List Field :=
  implicitString 1 i.firmwareVersion ++ implicitString 2 i.board ++ implicitString 3 i.clientId

/-- The fields of an Ack. -/
def ackFields (m : Ack) : List Field :=
  implicit 1 m.schemaVersion.toNat ++ implicit 2 m.sequence.toNat ++ implicit 3 m.status.wire ++
    implicitString 4 m.detail ++
    m.deviceInfo.toList.map fun i => ⟨5, .len (encodeFields (deviceInfoFields i))⟩

/-- An encoding that has to fit its buffer. -/
def bounded (outLen : ℕ) (bs : Bytes) : Option Bytes := if bs.length ≤ outLen then some bs else none

/-- The strings of a DeviceInfo leave room for their NUL in the arrays
`node.options` gives them. -/
def infoTerminated (i : DeviceInfo) : Bool :=
  i.firmwareVersion.length < 16 && i.board.length < 32 && i.clientId.length < 24

/-- The strings of an Ack leave room for theirs: nanopb does not encode an array without one. -/
def ackTerminated (m : Ack) : Bool :=
  m.detail.length < 48 && m.deviceInfo.all infoTerminated

/-- A `uint32` field, which refuses a larger integer and another wire type. -/
def uint32Field : Value → Option UInt32
  | .varint n => if n < 2 ^ 32 then some (UInt32.ofNat n) else none
  | _ => none

/-- One field of a SetInterval: its interval, or something to skip. -/
def setIntervalField (interval : UInt32) (f : Field) : Option UInt32 :=
  if f.number = 1 then uint32Field f.value else some interval

/-- The contents of a submessage. -/
def submessage : Value → Option (List Field)
  | .len bs => decodeFields bs
  | _ => none

/-- One field of a Command.  An arm of the `oneof` replaces another arm and
merges with itself; an unknown field is skipped. -/
def commandField (c : Command) (f : Field) : Option Command :=
  match f.number with
  | 1 => (uint32Field f.value).map fun v => { c with schemaVersion := v }
  | 2 => (uint32Field f.value).map fun v => { c with sequence := v }
  | 10 => (submessage f.value).bind fun fs =>
      (fs.foldlM setIntervalField (if c.whichPayload = setIntervalTag then c.intervalMs else 0)).map
        fun v => { c with whichPayload := setIntervalTag, intervalMs := v }
  | 11 => (submessage f.value).map fun _ =>
      { c with whichPayload := triggerMeasurementTag, intervalMs := 0 }
  | 12 => (submessage f.value).map fun _ =>
      { c with whichPayload := getDeviceInfoTag, intervalMs := 0 }
  | _ => some c

/-- The proto3 reading of `proto/node.proto`. -/
def proto3 : Nanopb where
  decodeCommand bs := (decodeFields bs).bind fun fs => fs.foldlM commandField default
  encodeTelemetry m outLen := bounded outLen (encodeFields (telemetryFields m))
  encodeAck m outLen :=
    if ackTerminated m then bounded outLen (encodeFields (ackFields m)) else none

end Nanopb

/-! ### `protocol.cpp` -/

variable (pb : Nanopb)

/-- The explicit mapping of the internal status to the wire's. -/
def SensorReadingStatus.toWire : SensorReadingStatus → SensorStatus
  | .ok => .ok
  | .warmingUp => .warmingUp
  | .error => .error

/-- The message `encode_telemetry` fills in: each value copied only if its flag
is set. -/
def telemetryOf (reading : SensorReading) : Telemetry where
  schemaVersion := kSchemaVersion
  sequence := reading.sequence
  uptimeMs := reading.uptimeMs
  co2Ppm := if reading.hasCo2Ppm then some reading.co2Ppm else none
  temperatureC := if reading.hasTemperatureC then some reading.temperatureC else none
  humidityRh := if reading.hasHumidityRh then some reading.humidityRh else none
  sensorStatus := reading.status.toWire
  pressurePa := if reading.hasPressurePa then some reading.pressurePa else none

/-- `encode_telemetry`: the bytes written, none of them on failure. -/
def encodeTelemetry (reading : SensorReading) (outLen : ℕ) : Bytes :=
  (pb.encodeTelemetry (telemetryOf reading) outLen).getD []

/-- `strncpy(dst, src, n)` into a zeroed array of more than `n` bytes. -/
def strncpy (src : Bytes) (n : ℕ) : Bytes := (src.takeWhile (· ≠ 0)).take n

/-- `encode_ack`: `detail` and `info` may be absent, and the detail is truncated
to the 47 characters its field holds. -/
def encodeAck (seq : UInt32) (status : AckStatus) (detail : Option Bytes)
    (info : Option DeviceInfo) (outLen : ℕ) : Bytes :=
  (pb.encodeAck ⟨kSchemaVersion, seq, status, strncpy (detail.getD []) 47, info⟩ outLen).getD []

/-- `decode_command`: whether the bytes decoded, and the Command left in
`*out`. -/
def decodeCommand (buf : Bytes) (oversized : Bool) : Bool × Command :=
  if oversized then (false, default)
  else
    match pb.decodeCommand buf with
    | some cmd => (true, cmd)
    | none => (false, default)

end ClimateNode
