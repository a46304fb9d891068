import ClimateNode.Gateway.Incoming
import ClimateNode.Peer.Node
import ClimateNode.Shared.Ack

/-!
The Ack to a command, from either node.  The gateway passes `nullptr` for an
empty detail and the peer passes the empty detail; both skip an Ack that encodes
to nothing, and the peer's has to fit the frame it travels in and the message it
is republished from.

* `encodeAck_nullptr`: the two conventions write the same message.
* `handleIncoming_decoded`, `handleIncomingPublish_decoded`: what each node
  answers to bytes that are a Command.
* `ack_never_dropped`: **the Ack**: it encodes, fits, and reads back.
-/

namespace ClimateNode

open Wire Nanopb

/-- The Ack to a command result, as the peer encodes it. -/
def resultAck (pb : Nanopb) (seq : UInt32) (result : CommandResult) : Bytes :=
  encodeAck pb seq result.status (some result.detail)
    (if result.hasInfo then some result.info else none) nodeAckSize

/-- No detail and an empty one are the same Ack. -/
lemma encodeAck_nullptr (pb : Nanopb) (seq : UInt32) (status : AckStatus)
    (info : Option DeviceInfo) (outLen : ℕ) :
    encodeAck pb seq status none info outLen = encodeAck pb seq status (some []) info outLen := rfl

/-- The gateway's Ack to a command result is the peer's. -/
lemma publishAck_result (pb : Nanopb) (seq : UInt32) (result : CommandResult) :
    publishAck pb seq result.status (if result.detail = [] then none else some result.detail)
        (if result.hasInfo then some result.info else none) =
      if (resultAck pb seq result).length = 0 then none else some (resultAck pb seq result) := by
  rw [publishAck, resultAck]
  split_ifs with hd <;> simp_all [encodeAck_nullptr]

section Handlers

variable {pb : Nanopb} {node : NodeIdentity} {st : CommandState} {bs : Bytes} {bus : Int}

/-- The peer on bytes that are a Command. -/
lemma handleIncoming_decoded (h : (decodeCommand pb bs false).1 = true) :
    Peer.handleIncoming pb node st (RelayMsgType.command.byte :: bs) bus =
      let cmd := (decodeCommand pb bs false).2
      let handled := handleCommand node st cmd bus
      (if (resultAck pb cmd.sequence handled.1).length > 0
        then some (resultAck pb cmd.sequence handled.1) else none, handled.2) := by
  have hdec : Peer.decodeIncoming pb (RelayMsgType.command.byte :: bs) =
      some (true, (decodeCommand pb bs false).2) := by
    rw [Peer.decodeIncoming, if_neg (by simp), ← h]
  rw [Peer.handleIncoming, hdec]
  rfl

/-- The gateway on bytes that are a Command for itself. -/
lemma handleIncomingPublish_decoded (hlen : bs.length ≤ incomingPayloadSize)
    (h : (decodeCommand pb bs false).1 = true) :
    handleIncomingPublish pb node st false bs bus =
      let cmd := (decodeCommand pb bs false).2
      let handled := handleCommand node st cmd bus
      (.ack (if (resultAck pb cmd.sequence handled.1).length = 0
        then none else some (resultAck pb cmd.sequence handled.1)), handled.2) := by
  have hbig : ¬ incomingPayloadSize < bs.length := not_lt.mpr hlen
  rw [handleIncomingPublish]
  simp only [List.take_of_length_le hlen, hbig, decide_false, h, Bool.true_eq_false, if_false,
    Bool.false_eq_true, publishAck_result]

end Handlers

/-- **The Ack**: whatever the sequence, the status, the detail and the DeviceInfo,
`encode_ack` writes between 1 and 140 bytes that read back as them, the detail cut
to 47 characters.  So the Ack to a command is never dropped: on the gateway it is
published, on the peer it is sent and its frame is republished whole, and both
nodes would write the same bytes. -/
theorem ack_never_dropped :
    (∀ seq status (detail : Option Bytes) info, (∀ d ∈ detail, (0 : UInt8) ∉ d) →
      (∀ i ∈ info, infoTerminated i = true) →
      1 ≤ (encodeAck proto3 seq status detail info 140).length ∧
      (encodeAck proto3 seq status detail info 140).length ≤ 140 ∧
      decodeAck (encodeAck proto3 seq status detail info 140) = some
        ⟨1, seq, UInt32.ofNat status.wire, (detail.getD []).take 47, info⟩) ∧
    (∀ node st bs bus, (decodeCommand proto3 bs false).1 = true →
      ∃ payload, ∃ hfits : payload.length ≤ kRelayUpMax,
        (Peer.handleIncoming proto3 node st (RelayMsgType.command.byte :: bs) bus).1 =
          some payload ∧
        Peer.sendMessage .ack payload = some (RelayMsgType.ack.byte :: payload) ∧
        handleRelayed (RelayMsgType.ack.byte :: payload) =
          ⟨some (.ack, ⟨kPeerNodeId, payload, hfits⟩), true⟩ ∧
        (bs.length ≤ incomingPayloadSize →
          (handleIncomingPublish proto3 node st false bs bus).1 = .ack (some payload))) ∧
    ∀ pb seq status info outLen,
      encodeAck pb seq status none info outLen = encodeAck pb seq status (some []) info outLen := by
  refine ⟨?_, ?_, encodeAck_nullptr⟩
  · intro seq status detail info hd hi
    obtain ⟨hpos, hle⟩ := encodeAck_length seq status detail hi
    refine ⟨hpos, hle, ?_⟩
    have hcut : strncpy (detail.getD []) 47 = (detail.getD []).take 47 := by
      cases detail with
      | none => rfl
      | some d => exact strncpy_eq_take (hd d rfl) 47
    rw [← hcut]
    exact decodeAck_encodeAck seq status detail hi
  · intro node st bs bus hdec
    set cmd := (decodeCommand proto3 bs false).2 with hcmd
    set result := (handleCommand node st cmd bus).1 with hresult
    obtain ⟨hpos, hle⟩ : 1 ≤ (resultAck proto3 cmd.sequence result).length ∧
        (resultAck proto3 cmd.sequence result).length ≤ nodeAckSize :=
      encodeAck_length cmd.sequence result.status (some result.detail) (resultInfo_terminated cmd)
    have hfits : (resultAck proto3 cmd.sequence result).length ≤ kRelayUpMax :=
      hle.trans (by decide)
    refine ⟨resultAck proto3 cmd.sequence result, hfits, ?_, ?_, handleRelayed_ack hfits, ?_⟩
    · rw [handleIncoming_decoded hdec]
      exact if_pos hpos
    · rw [Peer.sendMessage, if_neg (by omega)]
    · intro hlen
      rw [handleIncomingPublish_decoded hlen hdec]
      exact congrArg Incoming.ack (if_neg (by rw [← hcmd, ← hresult]; omega))

end ClimateNode
