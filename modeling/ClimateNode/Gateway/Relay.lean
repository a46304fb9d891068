import ClimateNode.Shared.CanLink
import ClimateNode.Shared.Protocol

/-!
`gateway/src/relay.h` and the functions of `gateway/src/relay.cpp` that move one
payload: the messages of the relay's channels, the routing of what arrives from
the peer, the frame a command travels in, and the Ack the gateway authors when
the peer does not.

A message holds the bytes its `len` counts; what lies beyond them in the array is
zero and nobody reads it.
-/

namespace ClimateNode

open Wire

/-- `kRelayUpMax`. -/
def kRelayUpMax : ℕ := 160

/-- `sizeof(relay_down::bytes)`. -/
def kRelayDownMax : ℕ := 24

/-- `kPeerNodeId`. -/
def kPeerNodeId : UInt8 := kFirstPeerNodeId

/-- `struct relay_up`: the first `len` of `bytes`, and that they fit. -/
structure RelayUp where
  nodeId : UInt8
  payload : Bytes
  fits : payload.length ≤ kRelayUpMax
  deriving DecidableEq, Repr

/-- `ZBUS_MSG_INIT(0)`. -/
instance : Inhabited RelayUp := ⟨⟨0, [], Nat.zero_le _⟩⟩

/-- `struct relay_down`: the first `len` of `bytes`, and that they fit. -/
structure RelayDown where
  nodeId : UInt8
  sequence : UInt32
  payload : Bytes
  fits : payload.length ≤ kRelayDownMax
  deriving DecidableEq, Repr

/-- `struct relay_status`. -/
structure RelayStatus where
  nodeId : UInt8
  online : Bool
  deriving DecidableEq, Repr, Inhabited

/-- The upward channels that carry a `relay_up`. -/
inductive UpChannel where
  | telemetry | ack
  deriving DecidableEq, Repr

/-- The message `publish_up` puts on a channel; a payload too large for it is
dropped. -/
def publishUp (bytes : Bytes) : Option RelayUp :=
  if h : bytes.length ≤ kRelayUpMax then some ⟨kPeerNodeId, bytes, h⟩ else none

/-- The message `publish_status` puts on its channel. -/
def publishStatus (online : Bool) : RelayStatus := ⟨kPeerNodeId, online⟩

/-- What `handle_relayed` does with a payload: the publish it makes, and whether
it gives `ack_received`. -/
structure Relayed where
  publish : Option (UpChannel × RelayUp)
  give : Bool
  deriving DecidableEq, Repr

/-- `handle_relayed`: route on the type byte and forward the rest. -/
def handleRelayed (buf : Bytes) : Relayed :=
  match buf with
  | [] => ⟨none, false⟩
  | type :: bytes =>
      match RelayMsgType.ofByte type with
      | some .telemetry => ⟨(publishUp bytes).map (.telemetry, ·), false⟩
      | some .ack => ⟨(publishUp bytes).map (.ack, ·), true⟩
      | _ => ⟨none, false⟩

/-- The frame `tx_thread` hands to `isotp_send`. -/
def commandFrame (cmd : RelayDown) : Bytes := RelayMsgType.command.byte :: cmd.payload

/-- The message `send_synthetic_ack` publishes; nothing when the Ack does not
encode. -/
def syntheticAck (pb : Nanopb) (sequence : UInt32) (detail : Bytes) : Option RelayUp :=
  let bytes := encodeAck pb sequence .failed (some detail) none nodeAckSize
  if 0 < bytes.length then publishUp bytes else none

/-- A payload of either upward type that fits its message is published as it is,
on the channel of its type. -/
lemma handleRelayed_telemetry {bytes : Bytes} (h : bytes.length ≤ kRelayUpMax) :
    handleRelayed (RelayMsgType.telemetry.byte :: bytes) =
      ⟨some (.telemetry, ⟨kPeerNodeId, bytes, h⟩), false⟩ := by
  simp [handleRelayed, publishUp, h]

@[inherit_doc handleRelayed_telemetry]
lemma handleRelayed_ack {bytes : Bytes} (h : bytes.length ≤ kRelayUpMax) :
    handleRelayed (RelayMsgType.ack.byte :: bytes) =
      ⟨some (.ack, ⟨kPeerNodeId, bytes, h⟩), true⟩ := by
  simp [handleRelayed, publishUp, h]

end ClimateNode
