import ClimateNode.Gateway.Incoming
import ClimateNode.Link.IsoTp
import ClimateNode.Peer.Node

/-!
A command on its way down: from the broker's message through `relay_down` and an
ISO-TP transfer into the buffer `main` of the peer receives with.  The three
buffers on the way have three sizes, and `arrivesWhole_iff` says for which
payloads they agree.
-/

namespace ClimateNode

open Wire

/-- The calls of the peer's `handle_incoming` that one completed transfer of a
command leads to. -/
def peerReceives (down : RelayDown) : List Bytes :=
  IsoTp.recvCalls Peer.recvSize (commandFrame down)

/-- The peer handles the transfer in one call, with the bytes the broker
delivered behind the type byte, and decodes the Command the gateway decoded. -/
def arrivesWhole (pb : Nanopb) (message : Bytes) (down : RelayDown) : Prop :=
  peerReceives down = [RelayMsgType.command.byte :: message] ∧
    (peerReceives down).map (Peer.decodeIncoming pb) =
      [some (true, (decodeCommand pb message false).2)]

/-- **Which commands arrive whole**: of the payloads the gateway relays, up to 24
bytes, those that fit the peer's buffer behind the type byte, up to 20. -/
theorem arrivesWhole_iff (pb : Nanopb) (node : NodeIdentity) (st : CommandState) (forPeer : Bool)
    (message : Bytes) (bus : Int) (down : RelayDown)
    (h : (handleIncomingPublish pb node st forPeer message bus).1 = .relayed down) :
    arrivesWhole pb message down ↔ message.length ≤ nodeCommandSize := by
  obtain ⟨hdec, hfwd⟩ := handleIncomingPublish_relayed pb h
  have hframe : commandFrame down = RelayMsgType.command.byte :: message := by
    rw [commandFrame, (forwardToPeer_ok hfwd).1]
  have hfits : (RelayMsgType.command.byte :: message).length ≤ Peer.recvSize ↔
      message.length ≤ nodeCommandSize := by
    rw [List.length_cons, Peer.recvSize]
    omega
  rw [arrivesWhole, peerReceives, hframe,
    IsoTp.recvCalls_eq_singleton_iff (List.cons_ne_nil _ _), hfits]
  refine ⟨fun hw => hw.1, fun hle => ⟨hle, ?_⟩⟩
  rw [IsoTp.recvCalls_of_le (List.cons_ne_nil _ _) (hfits.mpr hle)]
  simp only [List.map_cons, List.map_nil, Peer.decodeIncoming, ne_eq, not_true, if_false, ← hdec]

/-- `{schema_version: 1, sequence: 1, trigger_measurement: {}}` as this schema
encodes it. -/
def triggerCommand : Bytes := [0x08, 0x01, 0x10, 0x01, 0x5A, 0x00]

/-- The same command from a newer host: a field 15 of 13 bytes behind it. -/
def longTriggerCommand : Bytes := triggerCommand ++ [0x7A, 0x0D] ++ List.replicate 13 0x41

theorem arrivesWhole_trigger :
    arrivesWhole Nanopb.proto3 triggerCommand ⟨2, 1, triggerCommand, by decide⟩ ↔
      triggerCommand.length ≤ nodeCommandSize :=
  arrivesWhole_iff Nanopb.proto3 ⟨cstr "nucleo_h753zi", cstr "nucleo-1"⟩ .initial true
    triggerCommand 0 _ (by decide +kernel)

/-- The gateway relays the 21 bytes, and the peer handles them in two calls, the
first of which no longer decodes. -/
theorem longTriggerCommand_arrives_cut :
    (handleIncomingPublish Nanopb.proto3 ⟨cstr "nucleo_h753zi", cstr "nucleo-1"⟩ .initial true
      longTriggerCommand 0).1 = .relayed ⟨2, 1, longTriggerCommand, by decide⟩ ∧
    ¬ arrivesWhole Nanopb.proto3 longTriggerCommand ⟨2, 1, longTriggerCommand, by decide⟩ ∧
    (peerReceives ⟨2, 1, longTriggerCommand, by decide⟩).map (Peer.decodeIncoming Nanopb.proto3) =
      [some (false, default), none] := by
  refine ⟨by decide +kernel, fun hw => ?_, by decide +kernel⟩
  have hone : (peerReceives ⟨2, 1, longTriggerCommand, by decide⟩).length = 1 := by
    rw [hw.1]
    rfl
  exact absurd hone (by decide)

end ClimateNode
