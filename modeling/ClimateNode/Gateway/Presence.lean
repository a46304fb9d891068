import ClimateNode.Gateway.RxLoop
import ClimateNode.Gateway.StatusTopic

/-!
The peer's presence, from the frames on the bus to the text on `node/2/status`:
`rx_thread` with its heartbeat queue, and the main loop, which meet in
`chan_relay_status`.

* `machine`: the two, while the calls into zbus and MQTT succeed.
* `topic_tells_presence`: **what the topic says** whenever the loop is done with what it
  was told: the verdict on the frames heard.
-/

namespace ClimateNode.Presence

open Automata Wire

/-- The atomic actions: those of the RX thread and its queue, a status stored on
`chan_relay_status`, and those of the main loop. -/
inductive Label where
  | rx (l : RxLoop.Label)
  | publish (online : Bool)
  | gateway (l : Gateway.Label)

/-- What a label is to the RX thread. -/
def Label.toRx : Label → Option RxLoop.Label
  | .rx l => some l
  | .publish online => some (.publish online)
  | .gateway _ => none

/-- What a label is to the main loop. -/
def Label.toGateway : Label → Option Gateway.Label
  | .rx _ => none
  | .publish online => some (.store .relayStatus (publishStatus online))
  | .gateway l => some l

/-- A label of one side alone stores nothing on the channel, and no publish fails. -/
def Label.apart : Label → Prop
  | .rx (.publish _) | .rx (.publishFail _) => False
  | .gateway (.store .relayStatus _) => False
  | _ => True

instance (l : Label) : Decidable l.apart := by
  unfold Label.apart
  split <;> infer_instance

/-- What the two threads keep. -/
abbrev State := ((HeartbeatQueue.State × List HeartbeatQueue.CanFrame) × RxLoop.State) ×
  Gateway.State

variable (pb : Nanopb) (t0 : ℤ)

/-- The RX thread and the main loop. -/
def machine : Machine State Label :=
  .pair (RxLoop.machine t0) ((Gateway.machine pb).restrict Gateway.callsSucceed) Label.toRx
    Label.toGateway fun _ l => l.apart

variable {pb t0} {ls : List Label} {s : State}

/-- The channel holds what the thread published, and every publish went through. -/
lemma history_inductive : (machine pb t0).Inductive fun s =>
    s.2.status.history = s.1.2.published ∧ s.1.2.published = s.1.2.attempted where
  init := ⟨rfl, rfl⟩
  step s l h hl := by
    obtain ⟨-, -, hapart⟩ := hl
    cases l with
    | publish online =>
        refine ⟨?_, congrArg (· ++ [publishStatus online]) h.2⟩
        change ((Gateway.next pb s.2 (.store .relayStatus (publishStatus online))).chan
          .relayStatus).history = _
        rw [Gateway.history_store]
        exact congrArg (· ++ [publishStatus online]) h.1
    | rx l =>
        obtain ⟨hpublished, hattempted⟩ := RxLoop.stored_next (s := s.1.2) (l := l) fun online => by
          refine ⟨?_, ?_⟩ <;>
          · rintro rfl
            exact hapart
        exact ⟨h.1.trans hpublished.symm, hpublished.trans (h.2.trans hattempted.symm)⟩
    | gateway l =>
        refine ⟨(Gateway.history_next pb fun m heq => ?_).trans h.1, h.2⟩
        subst heq
        exact hapart

/-- What has been announced says what the state is, and nothing has only if it is still
unknown. -/
lemma announced_getLast?_eq (t0 timeoutMs : ℤ) (calls : List LivenessCall) :
    (announced t0 timeoutMs calls).getLast? =
      match (livenessAfter t0 timeoutMs calls).state with
      | .unknown => none
      | st => some st := by
  induction calls using List.reverseRecOn with
  | nil => rfl
  | append_singleton pre c ih =>
      rw [announced_concat]
      split_ifs with hrep
      · rw [List.getLast?_concat, livenessAfter_concat]
        have hknown := livenessStep_known timeoutMs (livenessAfter t0 timeoutMs pre) c.frameSeen
          c.nowMs (.inr hrep)
        revert hknown
        cases (livenessStep (livenessAfter t0 timeoutMs pre) c.frameSeen c.nowMs
          timeoutMs).1.state <;> simp
      · rw [reports_iff, not_not] at hrep
        rw [List.append_nil, ih, hrep]

/-- The text for a verdict; none while there is none. -/
def presenceText : PeerLiveness → Option Bytes
  | .unknown => none
  | .online => some (cstr "online")
  | .offline => some (cstr "offline")

/-- What the topic should say for the status stored last. -/
lemma believed_last {states : List PeerLiveness} {published : List RelayStatus}
    (h : published = RxLoop.statuses states) :
    Gateway.believed (published.getLastD default) =
      (states.getLast?.map fun st => cstr (if st = .online then "online" else "offline")) := by
  rw [h, RxLoop.statuses, List.getLastD_eq_getLast?, List.getLast?_map]
  cases states.getLast? with
  | none => rfl
  | some st => cases st <;> rfl

/-- At the top of a pass, with no listener running and no signal pending, the last text on
the connection is what the channel holds. -/
lemma lastStatus_settled {g : Gateway.State} (hpace : Gateway.Paced g)
    (hann : Gateway.Announcing g) (hserving : g.session .peer = .serving) (hpc : g.pc = .connect)
    (hfree : g.status.phase = .free) (hquiet : ¬ g.status.signalled) :
    g.lastStatus = Gateway.believed g.status.content := by
  rcases hann.current hserving with hne | hnews | hne | hlast
  · simp [hpc] at hne
  · exact absurd hnews (by simp [Gateway.news, hquiet, hfree])
  · exact absurd (hpace.idle (by simp [hpc]) (by simp [hpc])) hne
  · exact hlast

/-- A thread that is not about to publish, and whose publishes went through, has left its
verdict in the channel. -/
lemma believed_verdict {th : RxLoop.State} {chan : Doorbell.State RelayStatus}
    (hkept : RxLoop.Kept th) (hidle : th.pc.pending = []) (hhist : chan.history = th.published)
    (hall : th.published = th.attempted) :
    Gateway.believed chan.content = presenceText th.liveness.state := by
  have hattempted := hkept.attempted
  rw [hidle, List.append_nil] at hattempted
  rw [Doorbell.State.content, hhist, believed_last (hall.trans hattempted),
    announced_getLast?_eq, ← hkept.liveness]
  cases th.liveness.state <;> rfl

/-- **What the topic says**, in every run in which the calls into zbus and MQTT succeed:
with the peer session serving, the loop at the top of a pass, no listener running and no
signal pending, and the RX thread not about to publish, the last text on this connection
is the verdict on the frames heard, and there is none before a verdict. -/
theorem topic_tells_presence (hrun : (machine pb t0).Run ls s)
    (hserving : s.2.session .peer = .serving) (hpc : s.2.pc = .connect)
    (hfree : s.2.status.phase = .free) (hquiet : ¬ s.2.status.signalled)
    (hidle : s.1.2.pc.pending = []) :
    s.2.lastStatus = presenceText s.1.2.liveness.state ∧
      ∀ last ∈ s.1.2.turns.getLast?, RxLoop.Verdict s.1.2 last := by
  obtain ⟨⟨⟨hpace, -⟩, -⟩, hann⟩ := hrun.snd.invariant (Gateway.announcing_inductive pb)
  have hkept : RxLoop.Kept s.1.2 := hrun.fst.snd.invariant (RxLoop.kept_inductive t0)
  have hsees := (hrun.fst.invariant (RxLoop.sees_inductive t0)).2.turns
  obtain ⟨hhist, hall⟩ := hrun.invariant history_inductive
  refine ⟨?_, fun last hlast => hkept.verdict hsees hlast⟩
  calc s.2.lastStatus = Gateway.believed s.2.status.content :=
        lastStatus_settled hpace hann hserving hpc hfree hquiet
    _ = presenceText s.1.2.liveness.state := believed_verdict hkept hidle hhist hall

/-- The peer session comes up, the RX thread hears a beat, and the next pass publishes
what it says. -/
def beatToTopic : List Label :=
  Gateway.peerServing.map .gateway ++ RxLoop.firstBeat.map .rx ++ [.publish true] ++
    ([.notify .relayStatus, .unlock .relayStatus, .poll fun c => c == .relayStatus, .inputDone,
      .sessionsDone, .skip .telemetry, .skip .relayTelemetry, .skip .relayAck,
      .drain .relayStatus, .read .relayStatus, .hand .relayStatus true]
      : List Gateway.Label).map .gateway

theorem beatToTopic_tells : ∃ s, (machine Nanopb.proto3 0).Run beatToTopic s ∧
    s.2.lastStatus = some (cstr "online") ∧
    s.2.lastStatus = presenceText s.1.2.liveness.state := by
  have hrun : (Machine.pair (.pair HeartbeatQueue.queue (RxLoop.thread 0) RxLoop.Label.toQueue some
      RxLoop.agreed) ((Gateway.machine Nanopb.proto3).restrict Gateway.callsSucceed) Label.toRx
      Label.toGateway fun _ l => l.apart).Run beatToTopic _ := Machine.run_of_exec rfl
  have h : (machine Nanopb.proto3 0).Run beatToTopic _ := hrun
  exact ⟨_, h, by decide, (topic_tells_presence h (by decide) (by decide) (by decide) (by decide)
    (by decide)).1⟩

end ClimateNode.Presence
