import ClimateNode.Gateway.Relay
import ClimateNode.Shared.Ack

/-!
`handle_incoming_publish` and `forward_to_peer` of `gateway/src/main.cpp`: what
becomes of a command the broker delivers.
-/

namespace ClimateNode

open Wire

variable (pb : Nanopb)

/-- `sizeof(payload)` in `handle_incoming_publish`. -/
def incomingPayloadSize : ℕ := 128

/-- `forward_to_peer`: the message it publishes on `chan_relay_command`, or the
detail of the FAILED Ack it answers with. -/
def forwardToPeer (payload : Bytes) (sequence : UInt32) (bus : Int) : Except String RelayDown :=
  if h : payload.length ≤ kRelayDownMax then
    if bus = 0 then .ok ⟨kFirstPeerNodeId, sequence, payload, h⟩ else .error "relay busy"
  else .error "command too large to relay"

/-- `publish_ack`: the payload it publishes, unless the Ack does not encode. -/
def publishAck (seq : UInt32) (status : AckStatus) (detail : Option Bytes)
    (info : Option DeviceInfo) : Option Bytes :=
  let payload := encodeAck pb seq status detail info nodeAckSize
  if payload.length = 0 then none else some payload

/-- `encode_ack` does not fail, as long as the strings of a DeviceInfo end. -/
def AcksEncode : Prop :=
  ∀ seq status detail (info : Option DeviceInfo), (∀ i ∈ info, Nanopb.infoTerminated i = true) →
    ∃ payload, publishAck pb seq status detail info = some payload

variable {pb} in
/-- What `publish_ack` then publishes is what `encode_ack` makes of the Ack. -/
lemma AcksEncode.publishAck_eq (h : AcksEncode pb) (seq : UInt32) (status : AckStatus)
    (detail : Option Bytes) {info : Option DeviceInfo}
    (hinfo : ∀ i ∈ info, Nanopb.infoTerminated i = true) :
    publishAck pb seq status detail info =
      some (encodeAck pb seq status detail info nodeAckSize) := by
  obtain ⟨payload, hack⟩ := h seq status detail info hinfo
  rw [publishAck] at hack ⊢
  split_ifs at hack ⊢ with hempty
  rfl

/-- The encoder of the schema does not. -/
lemma acksEncode_proto3 : AcksEncode Nanopb.proto3 := by
  intro seq status detail info hi
  have hpos := (encodeAck_length seq status detail hi).1
  rw [publishAck]
  exact ⟨_, if_neg (by omega)⟩

/-- What `handle_incoming_publish` leaves behind: the Ack it publishes, or a
command queued for the peer. -/
inductive Incoming where
  | ack (payload : Option Bytes)
  | relayed (down : RelayDown)
  deriving DecidableEq, Repr

/-- `decode_command` as `handle_incoming_publish` calls it. -/
def decodePublish (message : Bytes) : Bool × Command :=
  decodeCommand pb (message.take incomingPayloadSize) (decide (incomingPayloadSize < message.length))

/-- `handle_incoming_publish`, from the moment the bytes have left the socket.
The Ack goes to the topic of the node the command was for. -/
def handleIncomingPublish (node : NodeIdentity) (st : CommandState) (forPeer : Bool)
    (message : Bytes) (bus : Int) : Incoming × CommandState :=
  let kept := message.take incomingPayloadSize
  let oversized := decide (incomingPayloadSize < message.length)
  let decoded := decodeCommand pb kept oversized
  if decoded.1 = false then
    (.ack (publishAck pb 0 .malformed
      (some (cstr (if oversized then "payload too large" else "decode failed"))) none), st)
  else if forPeer then
    match forwardToPeer kept decoded.2.sequence bus with
    | .ok down => (.relayed down, st)
    | .error detail =>
        (.ack (publishAck pb decoded.2.sequence .failed (some (cstr detail)) none), st)
  else
    let handled := handleCommand node st decoded.2 bus
    (.ack (publishAck pb decoded.2.sequence handled.1.status
      (if handled.1.detail = [] then none else some handled.1.detail)
      (if handled.1.hasInfo then some handled.1.info else none)), handled.2)

/-- What `forward_to_peer` publishes carries the payload it was given. -/
lemma forwardToPeer_ok {payload : Bytes} {sequence : UInt32} {bus : Int} {down : RelayDown}
    (h : forwardToPeer payload sequence bus = .ok down) :
    down.payload = payload ∧ down.sequence = sequence ∧ payload.length ≤ kRelayDownMax := by
  rw [forwardToPeer] at h
  split_ifs at h with hle hbus
  obtain rfl := Except.ok.inj h
  exact ⟨rfl, rfl, hle⟩

/-- A command that is relayed is the message the broker delivered, which decoded
here. -/
lemma handleIncomingPublish_relayed {node : NodeIdentity} {st : CommandState} {forPeer : Bool}
    {message : Bytes} {bus : Int} {down : RelayDown}
    (h : (handleIncomingPublish pb node st forPeer message bus).1 = .relayed down) :
    (decodeCommand pb message false).1 = true ∧
      forwardToPeer message (decodeCommand pb message false).2.sequence bus = .ok down := by
  rw [handleIncomingPublish] at h
  by_cases hbig : incomingPayloadSize < message.length
  · simp [hbig, decodeCommand] at h
  · have htake : message.take incomingPayloadSize = message :=
      List.take_of_length_le (not_lt.mp hbig)
    simp only [hbig, decide_false, htake, Bool.false_eq_true, if_false] at h
    split_ifs at h with hdec hpeer
    cases hfwd : forwardToPeer message (decodeCommand pb message false).2.sequence bus with
    | error detail => simp [hfwd] at h
    | ok down' =>
        simp only [hfwd, Incoming.relayed.injEq] at h
        exact ⟨by simpa using hdec, by rw [h]⟩

section Answers

variable {pb} {node : NodeIdentity} {st : CommandState} {message : Bytes} {bus : Int}

/-- A message that does not decode is answered as such, whoever it is for. -/
lemma handleIncomingPublish_malformed (forPeer : Bool) (h : (decodePublish pb message).1 = false) :
    handleIncomingPublish pb node st forPeer message bus =
      (.ack (publishAck pb 0 .malformed (some (cstr (if incomingPayloadSize < message.length then
        "payload too large" else "decode failed"))) none), st) := by
  simp only [decodePublish] at h
  simp [handleIncomingPublish, h]

/-- A command for the peer is forwarded. -/
lemma handleIncomingPublish_forPeer (h : (decodePublish pb message).1 = true) :
    handleIncomingPublish pb node st true message bus =
      match forwardToPeer (message.take incomingPayloadSize) (decodePublish pb message).2.sequence
        bus with
      | .ok down => (.relayed down, st)
      | .error detail =>
          (.ack (publishAck pb (decodePublish pb message).2.sequence .failed (some (cstr detail))
            none), st) := by
  simp only [decodePublish] at h
  simp only [handleIncomingPublish, decodePublish, h]
  rfl

/-- A command for this node is executed, and its result is the Ack. -/
lemma handleIncomingPublish_own (h : (decodePublish pb message).1 = true) :
    handleIncomingPublish pb node st false message bus =
      let handled := handleCommand node st (decodePublish pb message).2 bus
      (.ack (publishAck pb (decodePublish pb message).2.sequence handled.1.status
        (if handled.1.detail = [] then none else some handled.1.detail)
        (if handled.1.hasInfo then some handled.1.info else none)), handled.2) := by
  simp only [decodePublish] at h
  simp only [handleIncomingPublish, decodePublish, h]
  rfl

end Answers

end ClimateNode
