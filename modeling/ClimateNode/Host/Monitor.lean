import ClimateNode.Gateway.Published
import ClimateNode.Host.Command
import ClimateNode.Link.HostView

/-!
`host/monitor.py`: every topic of every node, decoded and printed, up to the formats in which
it prints numbers.

* `kind`, `onMessage`: the last part of a topic says how its payload is read; `Body` is what
  is printed, a measurement that was not made as `--`.
* `monitor_shows`: **what the gateway publishes is shown**, in any run of it and its channels:
  nothing that it says itself fails to decode, and the rest is what the relay stored.
* `monitor_shows_command`: every command that the command tool sends is shown.
-/

namespace ClimateNode.Host

open Gateway Wire Nanopb

/-! ### The monitor -/

/-- The topics as the gateway spells them. -/
def topicText : Topic → String
  | .telemetry .own => "node/1/telemetry"
  | .telemetry .peer => "node/2/telemetry"
  | .ack .own => "node/1/ack"
  | .ack .peer => "node/2/ack"
  | .status .own => "node/1/status"
  | .status .peer => "node/2/status"

/-- `kind`: what is behind the last slash. -/
def kind (topic : String) : List Char := (topic.toList.reverse.takeWhile (· != '/')).reverse

/-- `SensorStatus.Name`, which raises for a number that has none. -/
def sensorStatusName (n : UInt32) : Option SensorStatus :=
  [SensorStatus.unspecified, .ok, .warmingUp, .error].find? fun st => UInt32.ofNat st.wire = n

/-- `AckStatus.Name`. -/
def ackStatusName (n : UInt32) : Option AckStatus :=
  [AckStatus.unspecified, .ok, .invalidArgument, .unsupported, .failed, .malformed].find?
    fun st => UInt32.ofNat st.wire = n

/-- What `describe_telemetry` prints; `measurement` prints `none` as `--`. -/
structure TelemetryLine where
  sequence : UInt32
  measurement : List (Option UInt32)
  uptimeMs : UInt32
  status : SensorStatus
  schemaVersion : UInt32
  deriving DecidableEq, Repr

/-- The columns of a line. -/
def columns : List Measurement := [.co2Ppm, .temperatureC, .humidityRh, .pressurePa]

/-- `describe_telemetry`; `none` where it raises. -/
def describeTelemetry (msg : DecodedTelemetry) : Option TelemetryLine :=
  (sensorStatusName msg.sensorStatus).map fun status =>
    ⟨msg.sequence, columns.map msg.measured, msg.uptimeMs, status, msg.schemaVersion⟩

/-- What `describe_ack` prints: the detail unless it is empty, and a DeviceInfo if there is
one. -/
structure AckLine where
  sequence : UInt32
  status : AckStatus
  detail : Option Bytes
  deviceInfo : Option DeviceInfo
  deriving DecidableEq, Repr

/-- `describe_ack`. -/
def describeAck (msg : DecodedAck) : Option AckLine :=
  (ackStatusName msg.status).map fun status =>
    ⟨msg.sequence, status, if msg.detail = [] then none else some msg.detail, msg.deviceInfo⟩

/-- What `on_message` prints of a payload. -/
inductive Body where
  | text (payload : Bytes)
  | telemetry (line : TelemetryLine)
  | ack (line : AckLine)
  | command (sequence : UInt32) (which : UInt16)
  | unknown (length : ℕ)
  | decodeFailed (payload : Bytes)
  deriving DecidableEq, Repr

/-- `on_message`: the payload is read as its topic says. -/
def onMessage (topic : String) (payload : Bytes) : Body :=
  if kind topic = "status".toList then .text payload
  else
    let body :=
      if kind topic = "telemetry".toList then
        ((decodeTelemetry payload).bind describeTelemetry).map .telemetry
      else if kind topic = "ack".toList then ((decodeAck payload).bind describeAck).map .ack
      else if kind topic = "command".toList then
        (proto3.decodeCommand payload).map fun cmd => .command cmd.sequence cmd.whichPayload
      else some (.unknown payload.length)
    body.getD (.decodeFailed payload)

/-! ### What is shown -/

/-- The line of a reading. -/
def lineOf (r : SensorReading) : TelemetryLine :=
  ⟨r.sequence, columns.map r.measured, r.uptimeMs, r.status.toWire, kSchemaVersion⟩

/-- The line of an Ack, from what `encode_ack` was given. -/
def lineOfAck (seq : UInt32) (status : AckStatus) (detail : Option Bytes)
    (info : Option DeviceInfo) : AckLine :=
  let text := strncpy (detail.getD []) 47
  ⟨seq, status, if text = [] then none else some text, info⟩

/-- What the gateway says itself, with what is shown of it: a reading that its sensor thread
stored, an Ack that it encoded, or whether a node is online. -/
inductive Shown (s : WholeLoop.State) : Topic → Bytes → Body → Prop
  | telemetry {r : SensorReading} (hr : r ∈ (s.chan .telemetry).history) :
      Shown s (.telemetry .own) (telemetryPayload r) (.telemetry (lineOf r))
  | ack (i : SessionId) (seq : UInt32) (status : AckStatus) (detail : Option Bytes)
      (info : Option DeviceInfo) :
      Shown s (.ack i) (encodeAck proto3 seq status detail info nodeAckSize)
        (.ack (lineOfAck seq status detail info))
  | online (i : SessionId) : Shown s (.status i) (cstr "online") (.text (cstr "online"))
  | offline : Shown s (.status .peer) (cstr "offline") (.text (cstr "offline"))

/-- A payload that the relay stored, on the topic of its type. -/
inductive Relayed (s : WholeLoop.State) : Topic → Bytes → Prop
  | telemetry {up : RelayUp} (hup : up ∈ (s.chan .relayTelemetry).history) :
      Relayed s (.telemetry .peer) up.payload
  | ack {up : RelayUp} (hup : up ∈ (s.chan .relayAck).history) :
      Relayed s (.ack .peer) up.payload

lemma sensorStatusName_wire (st : SensorStatus) :
    sensorStatusName (UInt32.ofNat st.wire) = some st := by
  cases st <;> rfl

lemma ackStatusName_wire (st : AckStatus) : ackStatusName (UInt32.ofNat st.wire) = some st := by
  cases st <;> rfl

/-- A reading is shown as it is. -/
lemma onMessage_telemetry (i : SessionId) (r : SensorReading) :
    onMessage (topicText (.telemetry i)) (telemetryPayload r) = .telemetry (lineOf r) := by
  have hline : (decodeTelemetry (telemetryPayload r)).bind describeTelemetry = some (lineOf r) := by
    rw [decodeTelemetry_payload, Option.bind_some, describeTelemetry]
    change (sensorStatusName (UInt32.ofNat r.status.toWire.wire)).map _ = _
    rw [sensorStatusName_wire]
    rfl
  have hstatus : kind (topicText (.telemetry i)) ≠ "status".toList := by cases i <;> decide
  have hkind : kind (topicText (.telemetry i)) = "telemetry".toList := by cases i <;> decide
  rw [onMessage, if_neg hstatus]
  simp only [if_pos hkind, hline, Option.map_some, Option.getD_some]

/-- An Ack is shown as it was encoded. -/
lemma onMessage_ack (i : SessionId) (seq : UInt32) (status : AckStatus) (detail : Option Bytes)
    {info : Option DeviceInfo} (hinfo : ∀ d ∈ info, infoTerminated d = true) :
    onMessage (topicText (.ack i)) (encodeAck proto3 seq status detail info nodeAckSize) =
      .ack (lineOfAck seq status detail info) := by
  have hstatus : kind (topicText (.ack i)) ≠ "status".toList := by cases i <;> decide
  have htelemetry : kind (topicText (.ack i)) ≠ "telemetry".toList := by cases i <;> decide
  have hkind : kind (topicText (.ack i)) = "ack".toList := by cases i <;> decide
  rw [onMessage, if_neg hstatus]
  simp only [if_neg htelemetry, if_pos hkind, decodeAck_encodeAck seq status detail hinfo,
    Option.bind_some, describeAck, ackStatusName_wire, Option.map_some, Option.getD_some]
  rfl

/-- A status is shown as text. -/
lemma onMessage_status (i : SessionId) (payload : Bytes) :
    onMessage (topicText (.status i)) payload = .text payload :=
  if_pos (by cases i <;> decide)

variable {s : WholeLoop.State}

/-- What the gateway says itself does not fail to decode. -/
lemma Shown.decoded {topic : Topic} {payload : Bytes} {body : Body}
    (h : Shown s topic payload body) (p : Bytes) : body ≠ .decodeFailed p := by
  cases h <;> simp

/-- What `publish_ack` publishes is shown. -/
lemma shown_publishAck (i : SessionId) {payload : Bytes} {seq : UInt32} {status : AckStatus}
    {detail : Option Bytes} {info : Option DeviceInfo} (hinfo : ∀ d ∈ info, infoTerminated d = true)
    (h : publishAck proto3 seq status detail info = some payload) :
    Shown s (.ack i) payload (onMessage (topicText (.ack i)) payload) := by
  rw [publishAck] at h
  split_ifs at h
  obtain rfl := Option.some.inj h
  rw [onMessage_ack i seq status detail hinfo]
  exact .ack i seq status detail info

/-- Every answer of `handle_incoming_publish` is shown. -/
lemma shown_answer (i : SessionId) {node : NodeIdentity} {commands : CommandState} {forPeer : Bool}
    {message : Bytes} {bus : Int} {payload : Bytes}
    (h : (handleIncomingPublish proto3 node commands forPeer message bus).1 = .ack (some payload)) :
    Shown s (.ack i) payload (onMessage (topicText (.ack i)) payload) := by
  cases hdec : (decodePublish proto3 message).1 with
  | false =>
      rw [handleIncomingPublish_malformed forPeer hdec] at h
      exact shown_publishAck i (by simp) (Incoming.ack.inj h)
  | true =>
      cases forPeer with
      | false =>
          rw [handleIncomingPublish_own hdec] at h
          exact shown_publishAck i (resultInfo_terminated _) (Incoming.ack.inj h)
      | true =>
          rw [handleIncomingPublish_forPeer hdec] at h
          split at h
          · cases h
          · exact shown_publishAck i (by simp) (Incoming.ack.inj h)

/-- The status of the peer is shown. -/
lemma shown_status (st : RelayStatus) :
    Shown s (.status .peer) (statusText st)
      (onMessage (topicText (.status .peer)) (statusText st)) := by
  rw [onMessage_status]
  cases hon : st.online <;> simp only [statusText, hon, Bool.false_eq_true, if_false, if_true]
  · exact .offline
  · exact .online .peer

/-- What is published is shown, or comes from the relay. -/
lemma shown_or_relayed {node : NodeIdentity} {j : SessionId} {topic : Topic} {payload : Bytes}
    {qos : Qos} {retain : Bool} (h : Published proto3 node s.stored j topic payload qos retain) :
    Shown s topic payload (onMessage (topicText topic) payload) ∨ Relayed s topic payload := by
  cases h with
  | online => exact .inl (onMessage_status .own _ ▸ .online .own)
  | status st => exact .inl (shown_status st)
  | answer j i h => exact .inl (shown_answer _ h)
  | pending c m hm h =>
      cases c with
      | telemetry =>
          change (if (telemetryPayload m).length = 0 then none
            else some (telemetryPayload m)) = _ at h
          split_ifs at h
          obtain rfl := Option.some.inj h
          exact .inl (onMessage_telemetry .own m ▸ .telemetry (hm.resolve_left (by simp)))
      | relayTelemetry =>
          obtain rfl := Option.some.inj h
          exact .inr (.telemetry (hm.resolve_left (by simp)))
      | relayAck =>
          obtain rfl := Option.some.inj h
          exact .inr (.ack (hm.resolve_left (by simp)))
      | relayStatus =>
          obtain rfl := Option.some.inj h
          exact .inl (shown_status m)

/-- **What the gateway publishes is shown**, in every run of its main loop and of the channels
it reads, whatever the library answers: the readings that its sensor thread stored, with each
measurement that was made and no other, its Acks, and of each node whether it is online.  The
rest is what the relay stored, and only of that may anything fail to decode. -/
theorem monitor_shows {node : NodeIdentity} {ls : List WholeLoop.Label}
    (hrun : (WholeLoop.machine proto3 node).Run ls s) {j : SessionId} {st : SessionState}
    {param : PublishParam} {rc : ℤ} (hmem : ⟨st, .publish param rc⟩ ∈ (s.loop.sessions j).log) :
    (Shown s param.topic param.payload (onMessage (topicText param.topic) param.payload) ∨
      Relayed s param.topic param.payload) ∧
      ∀ p, onMessage (topicText param.topic) param.payload = .decodeFailed p →
        Relayed s param.topic param.payload := by
  have h := shown_or_relayed (WholeLoop.published_of_run hrun hmem)
  exact ⟨h, fun p hfail => h.resolve_left fun hshown => hshown.decoded p hfail⟩

/-- A reading in which nothing was measured. -/
def firstReading : SensorReading :=
  { (default : SensorReading) with sequence := 1, uptimeMs := 5000, status := .ok }

/-- The own session comes up, and the next pass publishes a reading. -/
def readingRun : List WholeLoop.Label :=
  [.create .telemetry, .create .relayTelemetry, .create .relayAck, .create .relayStatus] ++
    Passes.firstPass.map .call ++
    [.store .telemetry firstReading, .notify .telemetry, .unlock .telemetry] ++
    ([.top 10, .connect .own 0 0, .connect .peer (-116) 0,
      .poll (some fun d => d == .evt .telemetry), .input .own 0 0, .input .peer 0 0, .clock 11,
      .step .own ⟨none, 0, 0, 0, 0⟩, .step .peer ⟨none, 0, 0, 0, 0⟩] :
      List Passes.Label).map .call ++
    [.drain .telemetry, .read .telemetry, .call (.publish .telemetry (some firstReading) 0 0)]

theorem monitor_shows_reading : ∃ s : WholeLoop.State,
    (WholeLoop.machine proto3 ⟨cstr "nucleo_h753zi", cstr "nucleo-1"⟩).Run readingRun s ∧
    ⟨.serving, .publish ⟨.telemetry .own, telemetryPayload firstReading, .atMostOnce, 0, false⟩ 0⟩ ∈
      (s.loop.sessions .own).log ∧
    (Shown s (.telemetry .own) (telemetryPayload firstReading)
        (onMessage (topicText (.telemetry .own)) (telemetryPayload firstReading)) ∨
      Relayed s (.telemetry .own) (telemetryPayload firstReading)) := by
  obtain ⟨s, hrun, hmem⟩ : ∃ s : WholeLoop.State,
      (WholeLoop.machine proto3 ⟨cstr "nucleo_h753zi", cstr "nucleo-1"⟩).Run readingRun s ∧
      ⟨.serving, .publish ⟨.telemetry .own, telemetryPayload firstReading, .atMostOnce, 0,
        false⟩ 0⟩ ∈ (s.loop.sessions .own).log :=
    ⟨_, Automata.Machine.run_of_exec rfl, List.mem_of_getElem? (i := 4) rfl⟩
  exact ⟨s, hrun, hmem, (monitor_shows hrun hmem).1⟩

/-- **What the command tool sends is shown**, to either node. -/
theorem monitor_shows_command (c : HostCommand) {topic : String}
    (htopic : topic = kTopicCommand ∨ topic = kPeerTopicCommand) :
    onMessage topic c.serialize = .command c.sequence c.command.whichPayload := by
  have hdec : proto3.decodeCommand c.serialize = some c.command := by
    have h := c.decode
    rw [decodeCommand, if_neg (by simp)] at h
    split at h
    · rename_i cmd hcmd
      rw [hcmd, (Prod.mk.inj h).2]
    · simp at h
  have hsequence : c.command.sequence = c.sequence := by
    rw [HostCommand.command]
    rcases c.payload with _ | _ | _ | _ <;> rfl
  have hkind : kind topic = "command".toList := by rcases htopic with rfl | rfl <;> decide
  rw [onMessage, hkind, if_neg (by decide), if_neg (by decide), if_neg (by decide), if_pos rfl]
  simp only [hdec, hsequence, Option.map_some, Option.getD_some]

end ClimateNode.Host
