import ClimateNode.Link.Acks

/-!
`schema_version` is on the wire of every Command and neither node reads it, so
bytes of another schema, or of another message, that happen to set an arm are
acted on.

* `refusesForeign`: what a node that checked the version would guarantee.
* `handleCommand_refuses_iff`: when `handle_command` happens to guarantee it.
* `foreign_version_refused_iff`: **the same of the two nodes**, bytes in and Ack
  out.
-/

namespace ClimateNode

open Wire Nanopb

/-- The payload reads as an Ack of status OK. -/
def saysOk (payload : Bytes) : Prop :=
  ∃ ack, decodeAck payload = some ack ∧ ack.status = UInt32.ofNat AckStatus.ok.wire

/-- What processing a payload comes to when it is a Command of another version:
nothing is published on `chan_sensor_cmd`, and the Ack, if there is one, is not
OK. -/
def refusesForeign (decoded : Bool × Command) (st : CommandState)
    (answered : Option Bytes × CommandState) : Prop :=
  decoded.1 = true → decoded.2.schemaVersion ≠ kSchemaVersion →
    answered.2.chanSensorCmd = st.chanSensorCmd ∧ ∀ payload ∈ answered.1, ¬ saysOk payload

/-- The Command does nothing whatever its version: it does not decode, it is of
this version, or it is fresh and asks for nothing that could be done. -/
def harmless (st : CommandState) (decoded : Bool × Command) (bus : Int) : Prop :=
  decoded.1 = false ∨ decoded.2.schemaVersion = kSchemaVersion ∨
    st.lastSequence ≠ some decoded.2.sequence ∧ ¬ Delivery.executes ⟨decoded.2, bus⟩

/-- The Ack of `handle_incoming_publish`, and the commands state after. -/
def answerPublish (pb : Nanopb) (node : NodeIdentity) (st : CommandState) (forPeer : Bool)
    (message : Bytes) (bus : Int) : Option Bytes × CommandState :=
  let handled := handleIncomingPublish pb node st forPeer message bus
  (match handled.1 with
    | .ack payload => payload
    | .relayed _ => none, handled.2)

/-- An Ack says OK when its status does. -/
lemma saysOk_encodeAck (seq : UInt32) (status : AckStatus) (detail : Option Bytes)
    {info : Option DeviceInfo} (hi : ∀ i ∈ info, infoTerminated i = true) :
    saysOk (encodeAck proto3 seq status detail info nodeAckSize) ↔ status = .ok := by
  rw [saysOk, decodeAck_encodeAck seq status detail hi]
  simp only [Option.some.injEq, exists_eq_left']
  constructor
  · intro h
    refine AckStatus.wire_injective ?_
    rw [← AckStatus.toNat_wire status, h, AckStatus.toNat_wire]
  · rintro rfl
    rfl

section Node

variable {node : NodeIdentity} {st : CommandState} {bus : Int}

/-- The Ack to a command result says OK when the result does. -/
lemma saysOk_resultAck (cmd : Command) :
    saysOk (resultAck proto3 cmd.sequence (handleCommand node st cmd bus).1) ↔
      st.lastSequence = some cmd.sequence ∨ Delivery.executes ⟨cmd, bus⟩ := by
  rw [resultAck, saysOk_encodeAck _ _ _ (resultInfo_terminated cmd), handleCommand_ok_iff]

/-- **`handle_command`** treats every version alike, so it refuses another one
exactly when it would have refused its own. -/
lemma handleCommand_refuses_iff {decoded : Bool × Command} (hdec : decoded.1 = true)
    {answered : Option Bytes × CommandState}
    (hack : answered.1 =
      some (resultAck proto3 decoded.2.sequence (handleCommand node st decoded.2 bus).1))
    (hst : answered.2 = (handleCommand node st decoded.2 bus).2) :
    refusesForeign decoded st answered ↔ harmless st decoded bus := by
  simp only [refusesForeign, harmless, hdec, hack, hst, Option.mem_some_iff, forall_eq',
    saysOk_resultAck, Bool.true_eq_false, false_or, forall_const, not_or]
  by_cases hv : decoded.2.schemaVersion = kSchemaVersion
  · simp [hv]
  · simp only [hv, ne_eq, not_false_eq_true, forall_const, false_or, and_iff_right_iff_imp]
    intro hno
    refine handleCommand_chan_of_not_ok node ?_
    rw [Ne, handleCommand_ok_iff, not_or]
    exact hno

lemma resultAck_length_pos (cmd : Command) :
    0 < (resultAck proto3 cmd.sequence (handleCommand node st cmd bus).1).length :=
  (encodeAck_length _ _ _ (resultInfo_terminated cmd)).1

/-- What does not decode is harmless, and refused. -/
lemma refuses_iff_of_not_decoded {decoded : Bool × Command} (hdec : decoded.1 = false)
    (answered : Option Bytes × CommandState) :
    refusesForeign decoded st answered ↔ harmless st decoded bus := by
  simp [refusesForeign, harmless, hdec]

/-- An Ack without a DeviceInfo and with another status does not say OK. -/
lemma not_saysOk_publishAck (seq : UInt32) {status : AckStatus} (detail : Option Bytes)
    (h : status ≠ .ok) : ∀ payload ∈ publishAck proto3 seq status detail none, ¬ saysOk payload := by
  intro payload hmem
  rw [publishAck] at hmem
  split_ifs at hmem
  · simp at hmem
  · obtain rfl := Option.some.inj hmem
    rw [saysOk_encodeAck _ _ _ (by simp)]
    exact h

variable {message : Bytes}

lemma answerPublish_undecoded (pb : Nanopb) (forPeer : Bool)
    (h : (decodePublish pb message).1 = false) :
    ∃ detail, answerPublish pb node st forPeer message bus =
      (publishAck pb 0 .malformed (some detail) none, st) := by
  rw [decodePublish] at h
  rw [answerPublish, handleIncomingPublish]
  simp only [h, if_true]
  exact ⟨_, rfl⟩

/-- The gateway hands a command for the peer on, or says that it could not. -/
lemma answerPublish_forPeer :
    (answerPublish proto3 node st true message bus).2 = st ∧
      ∀ payload ∈ (answerPublish proto3 node st true message bus).1, ¬ saysOk payload := by
  by_cases hdec : (decodePublish proto3 message).1 = false
  · obtain ⟨detail, heq⟩ := answerPublish_undecoded proto3 true hdec
    rw [heq]
    exact ⟨rfl, not_saysOk_publishAck 0 (some detail) (by decide)⟩
  · rw [decodePublish] at hdec
    rw [answerPublish, handleIncomingPublish]
    simp only [hdec, if_true]
    cases forwardToPeer (message.take incomingPayloadSize) _ bus with
    | ok down => exact ⟨rfl, by simp⟩
    | error detail => exact ⟨rfl, not_saysOk_publishAck _ (some (cstr detail)) (by decide)⟩

/-- Bytes that are a Command for the gateway itself get the Ack to its result. -/
lemma answerPublish_decoded (h : (decodePublish proto3 message).1 = true) :
    let cmd := (decodePublish proto3 message).2
    (answerPublish proto3 node st false message bus).1 =
        some (resultAck proto3 cmd.sequence (handleCommand node st cmd bus).1) ∧
      (answerPublish proto3 node st false message bus).2 = (handleCommand node st cmd bus).2 := by
  have hpos : 0 < (resultAck proto3 (decodePublish proto3 message).2.sequence
      (handleCommand node st (decodePublish proto3 message).2 bus).1).length :=
    resultAck_length_pos _
  rw [decodePublish] at h hpos
  rw [answerPublish, handleIncomingPublish, decodePublish]
  simp only [h, Bool.true_eq_false, Bool.false_eq_true, if_false, publishAck_result, and_true]
  exact if_neg (Nat.pos_iff_ne_zero.mp hpos)

end Node

/-- **No node reads the version.**  Bytes that decode to a Command of another
version are refused, on either node, exactly when they would have come to nothing
as a Command of this one; or when the gateway only forwards them. -/
theorem foreign_version_refused_iff (node : NodeIdentity) (st : CommandState) (bus : Int)
    (bs : Bytes) :
    (refusesForeign (decodeCommand proto3 bs false) st
        (Peer.handleIncoming proto3 node st (RelayMsgType.command.byte :: bs) bus) ↔
      harmless st (decodeCommand proto3 bs false) bus) ∧
    ∀ forPeer, refusesForeign (decodePublish proto3 bs) st
        (answerPublish proto3 node st forPeer bs bus) ↔
      forPeer = true ∨ harmless st (decodePublish proto3 bs) bus := by
  constructor
  · cases hdec : (decodeCommand proto3 bs false).1 with
    | false => exact refuses_iff_of_not_decoded hdec _
    | true =>
        have hack : (Peer.handleIncoming proto3 node st (RelayMsgType.command.byte :: bs) bus).1 =
            some (resultAck proto3 (decodeCommand proto3 bs false).2.sequence
              (handleCommand node st (decodeCommand proto3 bs false).2 bus).1) := by
          rw [handleIncoming_decoded hdec]
          exact if_pos (resultAck_length_pos _)
        have hst : (Peer.handleIncoming proto3 node st (RelayMsgType.command.byte :: bs) bus).2 =
            (handleCommand node st (decodeCommand proto3 bs false).2 bus).2 := by
          rw [handleIncoming_decoded hdec]
        exact handleCommand_refuses_iff hdec hack hst
  · intro forPeer
    cases forPeer with
    | true =>
        simp only [true_or, iff_true]
        intro _ _
        exact ⟨congrArg _ answerPublish_forPeer.1, answerPublish_forPeer.2⟩
    | false =>
        simp only [Bool.false_eq_true, false_or]
        cases hdec : (decodePublish proto3 bs).1 with
        | false => exact refuses_iff_of_not_decoded hdec _
        | true =>
            exact handleCommand_refuses_iff hdec (answerPublish_decoded hdec).1
              (answerPublish_decoded hdec).2

/-- Two bytes, an empty field 11 and no version at all, trigger a measurement on
either node. -/
theorem unversioned_trigger_executed :
    ¬ refusesForeign (decodeCommand proto3 [0x5A, 0x00] false) .initial
        (Peer.handleIncoming proto3 ⟨cstr "nucleo_f072rb", cstr "nucleo-2"⟩ .initial
          (RelayMsgType.command.byte :: [0x5A, 0x00]) 0) ∧
    ¬ refusesForeign (decodePublish proto3 [0x5A, 0x00]) .initial
        (answerPublish proto3 ⟨cstr "nucleo_h753zi", cstr "nucleo-1"⟩ .initial false
          [0x5A, 0x00] 0) := by
  constructor
  · intro h
    have hstored := congrArg SensorCmdChan.stored (h rfl (by decide)).1
    exact absurd hstored (by decide)
  · intro h
    have hstored := congrArg SensorCmdChan.stored (h rfl (by decide)).1
    exact absurd hstored (by decide)

end ClimateNode
