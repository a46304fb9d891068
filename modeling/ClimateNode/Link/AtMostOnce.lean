import ClimateNode.Gateway.MainLoop
import ClimateNode.Peer.Telemetry

/-!
No message goes out twice: the gateway's telemetry and relay channels and the
peer's telemetry channel, each a signal apart from its value.

* `published_at_most_once`: so it is for a channel in every run in which its listener
  does not signal between the consumer's drain and the read that follows.
* `republished`: a publish that does land there is published now and again on the
  next signal.
-/

namespace ClimateNode

open Automata

namespace Gateway

/-- The listener of a channel does not signal while the loop, having drained it, has
yet to read. -/
def quietRead (c : ChanId) (s : State) : Label → Prop
  | .notify c' => c' = c → (s.chan c).progress ≠ .drained
  | _ => True

instance (c : ChanId) (s : State) (l : Label) : Decidable (quietRead c s l) :=
  match l with
  | .notify c' => decidable_of_iff (¬ (c' = c ∧ (s.chan c).progress = .drained)) not_and
  | .store .. | .unlock _ | .create _ | .connect .. | .poll _ | .drop _ | .incoming .. | .inputDone
  | .serve _ | .announceRead | .announceReadFail | .announceNothing | .announce _ | .sessionsDone
  | .skip _ | .drain _ | .read _ | .readFail _ | .hand .. | .discard _ => isTrue trivial

variable (pb : Nanopb)

/-- A channel, in the runs in which its listener keeps out of the way. -/
theorem chan_simulates_orderly {c : ChanId} (hc : c ≠ .relayStatus) :
    ((Doorbell.machine c.Msg .counting).restrict Doorbell.orderly).Simulates
      ((machine pb).restrict (quietRead c)) fun s => s.chan c where
  init := .init _
  step s l hl := by
    rcases step_chan hl.1 c with heq | ⟨b, hact, hen, heq⟩
    · exact .inl heq
    · refine .inr ⟨b, ⟨hen, hact.announced hc _, ?_⟩, heq⟩
      have hq := hl.2
      cases hact <;> first | trivial | exact hq rfl

/-- What is published from a channel is published once. -/
lemma published_nodup {c : ChanId} (hc : c ≠ .relayStatus) {ls : List Label} {s : State}
    (h : ((machine pb).restrict (quietRead c)).Run ls s) :
    ((s.published c).map (·.1)).Nodup := by
  have honce := (chan_simulates_orderly pb hc).invariant (Doorbell.once_inductive .counting) h
  have hsub := (h.of_restrict.invariant (logged_inductive pb)).sublist c
  refine (hsub.map _).nodup ?_
  rw [handedOn, List.map_map]
  exact honce.2.nodup

end Gateway

/-- What the peer transmits is transmitted once. -/
lemma Peer.sent_nodup (pb : Nanopb) {ls : List Peer.Label} {s : Peer.State}
    (h : ((Peer.machine pb).restrict Peer.quietRead).Run ls s) : (s.sent.map (·.1)).Nodup := by
  have honce := (Peer.chan_simulates_orderly pb).invariant (Doorbell.once_inductive .binary) h
  refine ((h.of_restrict.invariant (Peer.sent_inductive pb)).map _).nodup ?_
  rw [List.map_map]
  exact honce.2.nodup

/-- **At most once**: in the runs in which a channel's listener never signals between
a drain and the read that follows it, each message stored on `chan_telemetry`,
`chan_relay_telemetry` or `chan_relay_ack` is published at most once, and each
reading stored on the peer's `chan_telemetry` is transmitted at most once. -/
theorem published_at_most_once (pb : Nanopb) :
    (∀ c, c ≠ .relayStatus → ∀ ls s,
      ((Gateway.machine pb).restrict (Gateway.quietRead c)).Run ls s →
        ((s.published c).map (·.1)).Nodup) ∧
    (∀ ls s, ((Peer.machine pb).restrict Peer.quietRead).Run ls s → (s.sent.map (·.1)).Nodup) :=
  ⟨fun _ hc _ _ h => Gateway.published_nodup pb hc h, fun _ _ h => Peer.sent_nodup pb h⟩

namespace Gateway

/-- Two payloads, the second stored once the first is published. -/
def orderlyRun : List Label :=
  peerServing ++ publishOn .relayTelemetry ⟨2, [1], by decide⟩ ++ drainTelemetry ++
    [.read .relayTelemetry, .hand .relayTelemetry true, .skip .relayAck, .skip .relayStatus] ++
    publishOn .relayTelemetry ⟨2, [2], by decide⟩ ++ drainTelemetry ++
    [.read .relayTelemetry, .hand .relayTelemetry true]

/-- Two payloads, the second stored between the drain and the read for the
first. -/
def republishRun : List Label :=
  peerServing ++ publishOn .relayTelemetry ⟨2, [1], by decide⟩ ++ drainTelemetry ++
    publishOn .relayTelemetry ⟨2, [2], by decide⟩ ++
    [.read .relayTelemetry, .hand .relayTelemetry true, .skip .relayAck, .skip .relayStatus] ++
    drainTelemetry ++ [.read .relayTelemetry, .hand .relayTelemetry true]

end Gateway

/-- Two readings of the peer, each sent before the next is stored. -/
def Peer.orderlyRun : List Peer.Label :=
  [.store default, .notify, .unlock, .take, .read, .send true,
    .store { (default : SensorReading) with sequence := 1 }, .notify, .unlock, .take, .read,
    .send true]

/-- Two readings of the peer, the second stored before the first is read. -/
def Peer.resendRun : List Peer.Label :=
  [.store default, .notify, .unlock, .take, .store { (default : SensorReading) with sequence := 1 },
    .notify, .unlock, .read, .send true, .take, .read, .send true]

theorem orderlyRun_once :
    (∃ s, ((Gateway.machine Nanopb.proto3).restrict (Gateway.quietRead .relayTelemetry)).Run
        Gateway.orderlyRun s ∧ s.published .relayTelemetry = [(1, [1]), (2, [2])] ∧
      ((s.published .relayTelemetry).map (·.1)).Nodup) ∧
    ∃ s, ((Peer.machine Nanopb.proto3).restrict Peer.quietRead).Run Peer.orderlyRun s ∧
      s.sent.map (·.1) = [1, 2] ∧ (s.sent.map (·.1)).Nodup := by
  obtain ⟨hgateway, hpeer⟩ := published_at_most_once Nanopb.proto3
  constructor
  · obtain ⟨s, hrun, hpub⟩ : ∃ s,
        ((Gateway.machine Nanopb.proto3).restrict (Gateway.quietRead .relayTelemetry)).Run
          Gateway.orderlyRun s ∧ s.published .relayTelemetry = [(1, [1]), (2, [2])] :=
      ⟨_, Machine.run_of_exec rfl, rfl⟩
    exact ⟨s, hrun, hpub, hgateway .relayTelemetry (by decide) _ s hrun⟩
  · obtain ⟨s, hrun, hsent⟩ : ∃ s, ((Peer.machine Nanopb.proto3).restrict Peer.quietRead).Run
        Peer.orderlyRun s ∧ s.sent.map (·.1) = [1, 2] :=
      ⟨_, Machine.run_of_exec rfl, rfl⟩
    exact ⟨s, hrun, hsent, hpeer _ s hrun⟩

/-- **A publish between drain and read goes out twice**: the second message of the
channel is published by both passes, and the second reading sent twice. -/
theorem republished :
    (∃ s, (Gateway.machine Nanopb.proto3).Run Gateway.republishRun s ∧
      s.published .relayTelemetry = [(2, [2]), (2, [2])] ∧
      ¬ ((s.published .relayTelemetry).map (·.1)).Nodup) ∧
    ∃ s, (Peer.machine Nanopb.proto3).Run Peer.resendRun s ∧ s.sent.map (·.1) = [2, 2] :=
  ⟨⟨_, Machine.run_of_exec rfl, rfl, by decide⟩, ⟨_, Machine.run_of_exec rfl, rfl⟩⟩

end ClimateNode
