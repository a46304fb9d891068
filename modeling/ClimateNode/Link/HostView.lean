import ClimateNode.Automata.Product
import ClimateNode.Automata.Replay
import ClimateNode.Link.Uplink
import ClimateNode.Peer.Publish
import ClimateNode.Shared.Telemetry

/-!
Telemetry from end to end: from the samples of a node's sensor thread to what a host
decodes from the node's topic.  On its way a reading passes one channel that keeps the
latest only, and the peer's an ISO-TP transfer and a second such channel.

* `DecodedTelemetry.measured`: `HasField`, as `host/monitor.py` asks it.
* `Told`: what a host learns from one message.
* `OwnPath.gateway_seen_by_host`: **the gateway's telemetry**, its sensor thread and its
  main loop put together.
* `PeerPath.peer_seen_by_host`: **the peer's**, with its `main`, the link and the relay between.
-/

namespace ClimateNode

open Automata Wire Nanopb

/-! ### The host -/

/-- A measurement of a message, if it has one. -/
def DecodedTelemetry.measured (d : DecodedTelemetry) : Measurement → Option UInt32
  | .co2Ppm => d.co2Ppm
  | .temperatureC => d.temperatureC
  | .humidityRh => d.humidityRh
  | .pressurePa => d.pressurePa

/-- What a message tells the host of the `k`-th reading, as it was taken: its number, and
all that the sensor measures if the sensor is well, and nothing if not. -/
structure Told (measures : Measures) (k : ℕ) (r : SensorReading) (d : DecodedTelemetry) :
    Prop where
  sequence : d.sequence = UInt32.ofNat k
  uptimeMs : d.uptimeMs = r.uptimeMs
  measured : ∀ m, d.measured m = r.measured m
  present_iff : ∀ m, (d.measured m).isSome = true ↔ d.sensorStatus = 1 ∧ measures m = true
  declared : d.sensorStatus = 1 ∨ d.sensorStatus = 2 ∨ d.sensorStatus = 3

/-- The payload of a reading. -/
def telemetryPayload (r : SensorReading) : Bytes := encodeTelemetry proto3 r nodeTelemetrySize

lemma telemetryPayload_length_pos (r : SensorReading) : 0 < (telemetryPayload r).length := by
  rw [telemetryPayload, encodeTelemetry_eq le_rfl]
  exact encodeFields_length_pos
    (DecodedTelemetry.fields_ne_nil (show kSchemaVersion ≠ 0 by decide))

lemma decodeTelemetry_payload (r : SensorReading) :
    decodeTelemetry (telemetryPayload r) = some (telemetryOf r).decoded := by
  rw [telemetryPayload, encodeTelemetry_eq le_rfl, DecodedTelemetry.decode_fields]

/-- The status of a reading, as it is decoded. -/
lemma sensorStatus_decoded (r : SensorReading) :
    ((telemetryOf r).decoded.sensorStatus = 1 ↔ r.status = .ok) ∧
      ((telemetryOf r).decoded.sensorStatus = 1 ∨ (telemetryOf r).decoded.sensorStatus = 2 ∨
        (telemetryOf r).decoded.sensorStatus = 3) := by
  cases hst : r.status <;> simp [Telemetry.decoded, telemetryOf, hst, SensorReadingStatus.toWire,
    SensorStatus.wire]

/-- What was taken is what is told. -/
lemma Told.of_takenAs {measures : Measures} {read : Bool → Sample → SensorReading → SensorReading}
    (hread : Reads measures read) {deviceOk : Bool} {k : ℕ} {r : SensorReading}
    (h : Readings.TakenAs (read deviceOk) k r) : Told measures k r (telemetryOf r).decoded := by
  obtain ⟨hseq, hreported, -⟩ := h.spec hread
  have hmeasured : ∀ m, (telemetryOf r).decoded.measured m = r.measured m := by
    intro m
    cases m <;> rfl
  refine ⟨hseq, rfl, hmeasured, fun m => ?_, (sensorStatus_decoded r).2⟩
  rw [hmeasured, hreported m, (sensorStatus_decoded r).1]

/-- The gateway never tells of a pressure, nor of 0 ppm. -/
structure ToldByGateway (k : ℕ) (r : SensorReading) (d : DecodedTelemetry) : Prop extends
    Told scd40Measures k r d where
  co2_ne_zero : d.co2Ppm ≠ some 0

/-- The peer never tells of CO2, nor of warming up. -/
structure ToldByPeer (k : ℕ) (r : SensorReading) (d : DecodedTelemetry) : Prop extends
    Told bme280Measures k r d where
  warm : d.sensorStatus ≠ 2

lemma ToldByGateway.of_takenAs {conv : Conversions} {deviceOk : Bool} {k : ℕ} {r : SensorReading}
    (h : Readings.TakenAs (readScd40 conv deviceOk) k r) :
    ToldByGateway k r (telemetryOf r).decoded where
  toTold := .of_takenAs (scd40_reads conv) h
  co2_ne_zero := by
    obtain ⟨sample, now, rfl⟩ := h
    exact readScd40_co2_ne_zero conv deviceOk sample _ _

lemma ToldByPeer.of_takenAs {conv : Conversions} {deviceOk : Bool} {k : ℕ} {r : SensorReading}
    (h : Readings.TakenAs (readBme280 conv deviceOk) k r) :
    ToldByPeer k r (telemetryOf r).decoded where
  toTold := .of_takenAs (bme280_reads conv) h
  warm := by
    obtain ⟨sample, now, rfl⟩ := h
    have hstatus := readBme280_status conv deviceOk sample
      (blankReading (UInt32.ofNat k) (UInt32.ofInt now))
    cases hst : (readBme280 conv deviceOk sample
      (blankReading (UInt32.ofNat k) (UInt32.ofInt now))).status <;>
        simp_all [Telemetry.decoded, telemetryOf, SensorReadingStatus.toWire, SensorStatus.wire]

/-- A host's view of the payloads on a topic: each decodes and is one of the readings,
which come in their order, some left out and some again. -/
def HostSees (tells : ℕ → SensorReading → DecodedTelemetry → Prop) (taken : List SensorReading)
    (payloads : List Bytes) : Prop :=
  ∃ ks : List ℕ, ks.Pairwise (· ≤ ·) ∧
    List.Forall₂ (fun payload k => ∃ r d, taken[k]? = some r ∧
      decodeTelemetry payload = some d ∧ tells k r d) payloads ks

/-- A replay of the readings' payloads is what a host sees. -/
lemma HostSees.of_replays {tells : ℕ → SensorReading → DecodedTelemetry → Prop}
    {taken : List SensorReading} {payloads : List Bytes}
    (htaken : ∀ k r, taken[k]? = some r → tells k r (telemetryOf r).decoded)
    (h : Replays payloads (taken.map telemetryPayload)) : HostSees tells taken payloads := by
  obtain ⟨ks, hks, hall⟩ := h.exists_indices
  refine ⟨ks, hks, hall.imp fun payload k => ?_⟩
  rintro ⟨r, hr, rfl⟩
  exact ⟨r, _, hr, decodeTelemetry_payload r, htaken k r hr⟩

/-! ### The gateway's own telemetry -/

namespace OwnPath

/-- The atomic actions: the sensor thread's, the main loop's, and a reading stored on
`chan_telemetry`, which is one of both. -/
inductive Label where
  | sensor (l : Readings.Label)
  | publish (reading : SensorReading)
  | loop (l : Gateway.Label)

/-- What a label is to the sensor thread. -/
def Label.toSensor : Label → Option Readings.Label
  | .sensor l => some l
  | .publish reading => some (.publish reading)
  | .loop _ => none

/-- What a label is to the main loop. -/
def Label.toLoop : Label → Option Gateway.Label
  | .sensor _ => none
  | .publish reading => some (.store .telemetry reading)
  | .loop l => some l

/-- A label of one side alone stores nothing on the channel. -/
def Label.apart : Label → Prop
  | .sensor (.publish _) => False
  | .loop (.store .telemetry _) => False
  | _ => True

instance (l : Label) : Decidable l.apart := by
  unfold Label.apart
  split <;> infer_instance

variable (conv : Conversions) (deviceOk : Bool) (t0 : ℤ)

/-- The two threads of the gateway. -/
def machine : Machine (Readings.State × Gateway.State) Label :=
  .pair (Gateway.readings conv deviceOk t0) (Gateway.machine proto3) Label.toSensor Label.toLoop
    fun _ l => l.apart

variable {conv deviceOk t0} {ls : List Label} {s : Readings.State × Gateway.State}

/-- The channel holds what the thread published. -/
lemma history_inductive : (machine conv deviceOk t0).Inductive fun s =>
    (s.2.chan .telemetry).history = s.1.published where
  init := rfl
  step s l h hl := by
    obtain ⟨-, -, hapart⟩ := hl
    cases l with
    | publish reading =>
        change ((Gateway.next proto3 s.2 (.store .telemetry reading)).chan .telemetry).history = _
        rw [Gateway.history_store]
        exact congrArg (· ++ [reading]) h
    | sensor l =>
        cases l with
        | publish reading => exact absurd hapart id
        | loop l | sample sample | busy ms | publishFail => exact h
    | loop l =>
        refine (Gateway.history_next proto3 fun m heq => ?_).trans h
        subst heq
        exact hapart

/-- The own telemetry topic has one source. -/
lemma payloadsOn_own {g : Gateway.State} (h : Gateway.Logged proto3 g) :
    g.payloadsOn (.telemetry .own) = (g.published .telemetry).map (·.2) := by
  rw [Gateway.State.payloadsOn, Gateway.State.published, List.map_filterMap,
    ← List.filterMap_eq_map, List.filterMap_filter]
  refine List.filterMap_congr fun p hp => ?_
  cases hsrc : p.source with
  | none => rcases h.other p hp hsrc with htopic | ⟨i, htopic⟩ <;> simp [htopic]
  | some q =>
      have htopic := h.topic p hp q.1 q.2 hsrc
      obtain ⟨c, n⟩ := q
      cases c <;> simp [htopic, Gateway.ChanId.topic]

/-- **The gateway's telemetry, end to end**: in every run of its sensor thread and its
main loop, whatever sessions come and go and whatever reads and publishes fail, a host
that decodes `node/1/telemetry` sees readings the thread took, in their order. -/
theorem gateway_seen_by_host (hrun : (machine conv deviceOk t0).Run ls s) :
    HostSees ToldByGateway s.1.taken (s.2.payloadsOn (.telemetry .own)) := by
  have hnum : Readings.Numbered (readScd40 conv deviceOk) s.1 :=
    hrun.fst.invariant (Readings.numbered_inductive ((scd40_reads conv).uptimeMs deviceOk))
  have hgw := hrun.snd
  have hpayload : (fun r : SensorReading => (Gateway.payloadOf proto3 .telemetry r).getD []) =
      telemetryPayload := by
    funext r
    have hpos := telemetryPayload_length_pos r
    rw [telemetryPayload] at hpos ⊢
    rw [Gateway.payloadOf, if_neg (by omega), Option.getD_some]
  refine .of_replays (fun k r hr => .of_takenAs (hnum.taken k r hr)) ?_
  rw [payloadsOn_own (hgw.invariant (Gateway.logged_inductive proto3))]
  have hread := Replays.of_destutter
    (Gateway.published_destutter_sublist hgw (c := .telemetry) (by decide))
  refine hread.trans (.of_sublist ?_)
  rw [hrun.invariant history_inductive, hpayload]
  exact ((List.sublist_append_left _ _).trans hnum.published).map _

/-- The gateway's first reading, of a sensor that is warming up. -/
def firstReading : SensorReading :=
  readScd40 Readings.plainConversions true (Readings.evenSample 0) (blankReading 0 100)

/-- The own session serves, and the first reading is published. -/
def firstRun : List Label :=
  ([.create .telemetry, .create .relayTelemetry, .create .relayAck, .create .relayStatus,
      .connect .own true, .poll fun _ => false, .inputDone, .serve .own, .sessionsDone,
      .skip .telemetry, .skip .relayTelemetry, .skip .relayAck,
      .skip .relayStatus] : List Gateway.Label).map .loop ++
    [.sensor (.loop (.tick 100)), .sensor (.loop .poweredUp),
      .sensor (.sample (Readings.evenSample 0)), .publish firstReading, .loop (.notify .telemetry),
      .loop (.unlock .telemetry)] ++
    ([.poll fun c => c == .telemetry, .inputDone, .sessionsDone, .drain .telemetry,
      .read .telemetry, .hand .telemetry true] : List Gateway.Label).map .loop

theorem firstReading_seen : ∃ s, (machine Readings.plainConversions true 0).Run firstRun s ∧
    s.2.payloadsOn (.telemetry .own) = [telemetryPayload firstReading] ∧
    HostSees ToldByGateway s.1.taken (s.2.payloadsOn (.telemetry .own)) := by
  have hrun : (Machine.pair (Readings.machine (readScd40 Readings.plainConversions true)
      kSensorPowerUpMs 0) (Gateway.machine proto3) Label.toSensor Label.toLoop
      fun _ l => l.apart).Run firstRun _ := Machine.run_of_exec rfl
  have h : (machine Readings.plainConversions true 0).Run firstRun _ := hrun
  exact ⟨_, h, rfl, gateway_seen_by_host h⟩

end OwnPath

/-! ### The peer's telemetry -/

namespace PeerPath

/-- The atomic actions: those of the peer, a reading sent, an Ack sent, and those of the
link and the gateway. -/
inductive Label where
  | peer (l : Peer.Publish.Label)
  | send (payload : Bytes) (ok delivered : Bool)
  | ack (payload : Bytes) (delivered : Bool)
  | uplink (l : Uplink.Label)

/-- What a label is to the peer. -/
def Label.toPeer : Label → Option Peer.Publish.Label
  | .peer l => some l
  | .send _ ok _ => some (.main (.send ok))
  | _ => none

/-- What a label is to the link and the gateway. -/
def Label.toUplink : Label → Option Uplink.Label
  | .send payload _ delivered => some (.send .telemetry payload delivered)
  | .ack payload delivered => some (.send .ack payload delivered)
  | .uplink l => some l
  | .peer _ => none

variable (conv : Conversions) (deviceOk : Bool) (t0 : ℤ)

/-- The payload `main` of the peer hands to `send_message` for the reading it has
read. -/
def sending (s : Readings.State × Peer.State) : Bytes :=
  (Peer.sendTelemetry proto3 s.2.chan.buffer.2).getD []

/-- What the peer and the link ask of each other: what is sent is what `main` has read,
and the peer sends nothing else but Acks. -/
def agreed (s : (Readings.State × Peer.State) × Uplink.State) : Label → Prop
  | .send payload _ _ => payload = sending s.1
  | .peer (.main (.send _)) | .uplink (.send ..) => False
  | _ => True

instance (s : (Readings.State × Peer.State) × Uplink.State) (l : Label) :
    Decidable (agreed s l) := by
  unfold agreed
  split <;> infer_instance

/-- The peer, the link and the gateway. -/
def machine : Machine ((Readings.State × Peer.State) × Uplink.State) Label :=
  .pair (Peer.Publish.machine proto3 conv deviceOk t0) (Uplink.machine proto3) Label.toPeer
    Label.toUplink agreed

variable {conv deviceOk t0} {ls : List Label} {s : (Readings.State × Peer.State) × Uplink.State}

/-- The payloads passed to the link are those of the readings `main` handed on. -/
lemma passed_inductive : (machine conv deviceOk t0).Inductive fun s =>
    s.2.passedAs .telemetry = s.1.2.chan.handed.map fun h =>
      (Peer.sendTelemetry proto3 h.2).getD [] where
  init := rfl
  step s l h hl := by
    obtain ⟨-, -, hagreed⟩ := hl
    cases l with
    | peer l =>
        cases l with
        | sensor l | publish reading => exact h
        | main l =>
            cases l with
            | send ok => exact absurd hagreed id
            | _ => exact h
    | send payload ok delivered =>
        obtain rfl : payload = sending s.1 := hagreed
        change (Uplink.next proto3 s.2 (.send .telemetry (sending s.1) delivered)).passedAs
          .telemetry = (s.1.2.chan.handed ++ [s.1.2.chan.buffer]).map _
        rw [Uplink.passedAs_send, if_pos rfl, h, List.map_append]
        rfl
    | ack payload delivered =>
        change (Uplink.next proto3 s.2 (.send .ack payload delivered)).passedAs .telemetry = _
        rw [Uplink.passedAs_send, if_neg (by decide), List.append_nil]
        exact h
    | uplink l =>
        cases l with
        | send type payload delivered => exact absurd hagreed id
        | publish t =>
            refine Eq.trans ?_ h
            change ((s.2.thread t).step.elim s.2 (s.2.publish proto3 t)).passedAs .telemetry = _
            cases (s.2.thread t).step <;> rfl
        | _ => exact h

/-- **The peer's telemetry, end to end**: in every run of its sensor thread, its `main`,
the link and the gateway, whatever is lost on the way and whatever comes and goes, a
host that decodes `node/2/telemetry` sees readings the peer took, in their order. -/
theorem peer_seen_by_host (hrun : (machine conv deviceOk t0).Run ls s) :
    HostSees ToldByPeer s.1.1.taken (s.2.gateway.payloadsOn (.telemetry .peer)) := by
  have hpeer := hrun.fst
  obtain ⟨ks, hgw⟩ := (Uplink.gateway_simulates proto3).reachable hrun.snd
  have hsend : (fun r => (Peer.sendTelemetry proto3 r).getD []) = telemetryPayload := by
    funext r
    have hpos := telemetryPayload_length_pos r
    rw [telemetryPayload] at hpos ⊢
    rw [Peer.sendTelemetry, if_neg (by omega), Option.getD_some]
  have hpassed : s.2.passedAs .telemetry =
      s.1.2.chan.handed.map fun h => telemetryPayload h.2 := by
    rw [hrun.invariant passed_inductive, ← hsend]
  refine .of_replays (fun k r hr => .of_takenAs ((Peer.Publish.numbered hpeer).taken k r hr)) ?_
  rw [Gateway.payloadsOn_telemetry (hgw.invariant (Gateway.logged_inductive proto3))]
  have hread := Replays.of_destutter
    (Gateway.published_destutter_sublist hgw (c := .relayTelemetry) (by decide))
  have hcarried : ((s.2.gateway.chan .relayTelemetry).history.map RelayUp.payload).Sublist
      (s.2.passedAs .telemetry) :=
    (List.sublist_append_left _ _).trans
      (hrun.snd.invariant (Uplink.carried_inductive proto3)).telemetry
  refine hread.trans ((Replays.of_sublist hcarried).trans ?_)
  rw [hpassed]
  exact Peer.Publish.handed_replays telemetryPayload hpeer

/-- The peer's first reading. -/
def firstReading : SensorReading :=
  readBme280 Readings.plainConversions true (Readings.evenSample 101) (blankReading 0 0)

/-- A reading of the peer goes all the way. -/
def firstRun : List Label :=
  Uplink.sessionUp.map .uplink ++
    ([.sensor (.loop .poweredUp), .sensor (.sample (Readings.evenSample 101)),
      .publish firstReading, .main .notify, .main .unlock, .main .take,
      .main .read] : List Peer.Publish.Label).map .peer ++
    [.send (telemetryPayload firstReading) true true] ++
    ([.recv, .publish .rx, .publish .rx, .publish .rx] ++ Uplink.drainTelemetry ++
      [.gateway (.read .relayTelemetry),
        .gateway (.hand .relayTelemetry true)] : List Uplink.Label).map .uplink

theorem relayedReading_seen : ∃ s, (machine Readings.plainConversions true 0).Run firstRun s ∧
    s.2.gateway.payloadsOn (.telemetry .peer) = [telemetryPayload firstReading] ∧
    HostSees ToldByPeer s.1.1.taken (s.2.gateway.payloadsOn (.telemetry .peer)) := by
  have hrun : (Machine.pair (.pair (Readings.machine (readBme280 Readings.plainConversions true)
      0 0) (Peer.machine proto3) Peer.Publish.Label.toSensor Peer.Publish.Label.toChan
      fun _ l => l.apart) (Uplink.machine proto3) Label.toPeer Label.toUplink agreed).Run
      firstRun _ := Machine.run_of_exec rfl
  have h : (machine Readings.plainConversions true 0).Run firstRun _ := hrun
  exact ⟨_, h, rfl, peer_seen_by_host h⟩

end PeerPath

end ClimateNode
