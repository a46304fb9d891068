import Mathlib.Data.List.Basic

/-!
`shared/can_link.h`: what the two ends of the CAN link agree on.  An ISO-TP
payload is one type byte and then protobuf bytes verbatim; the heartbeat is a
raw frame, of which this file has the cadence and `Shared.Heartbeat` the bytes.
-/

namespace ClimateNode

/-- `kFirstPeerNodeId`, the node id of the peer. -/
def kFirstPeerNodeId : UInt8 := 2

/-- `enum relay_msg_type`. -/
inductive RelayMsgType where
  | telemetry | ack | command
  deriving DecidableEq, Repr

/-- The byte a message type is on the wire. -/
def RelayMsgType.byte : RelayMsgType → UInt8
  | .telemetry => 1
  | .ack => 2
  | .command => 3

/-- Read a type byte; anything else is a protocol this node does not have. -/
def RelayMsgType.ofByte (b : UInt8) : Option RelayMsgType :=
  if b = 1 then some .telemetry
  else if b = 2 then some .ack
  else if b = 3 then some .command
  else none

@[simp] lemma RelayMsgType.ofByte_byte (t : RelayMsgType) : ofByte t.byte = some t := by
  cases t <;> rfl

/-- `kHeartbeatPeriodMs`. -/
def kHeartbeatPeriodMs : Int := 1000

/-- `kHeartbeatTimeoutMs`. -/
def kHeartbeatTimeoutMs : Int := 3500

end ClimateNode
