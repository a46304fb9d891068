import ClimateNode.Gateway.Incoming
import ClimateNode.Gateway.MainLoop
import Mathlib.Data.List.DropRight

/-!
`struct node_session` of `gateway/src/main.cpp` and the functions that act on one:
a connection to the broker that is opened, announced, published on and given up,
with a packet identifier counter of its own.

* `Session`: the fields the code reads, and a log of the calls into the MQTT
  library and of what the library reported.
* `Session.drop`, `Session.connect`, `Session.serving`, `Session.publish`: the
  source's functions; what the library and the clock answer is an argument.
* `Session.machine`: one session on its own, an operation a label.
-/

namespace ClimateNode.Gateway

open Automata Wire

/-! ### The session -/

/-- `kBackoffMinMs`. -/
def kBackoffMinMs : ℤ := 1000

/-- `kBackoffMaxMs`. -/
def kBackoffMaxMs : ℤ := 30000

/-- `kConnackTimeoutMs`. -/
def kConnackTimeoutMs : ℤ := 5000

/-- `kTopicCommand`. -/
def kTopicCommand : String := "node/1/command"

/-- `kPeerTopicCommand`. -/
def kPeerTopicCommand : String := "node/2/command"

/-- `command_topics` of each session. -/
def commandTopics : SessionId → List String
  | .own => [kTopicCommand]
  | .peer => [kPeerTopicCommand]

/-- `enum mqtt_qos`. -/
inductive Qos where
  | atMostOnce | atLeastOnce | exactlyOnce
  deriving DecidableEq, Repr

/-- `struct mqtt_publish_param`, as `publish` fills it. -/
structure PublishParam where
  topic : Topic
  payload : Bytes
  qos : Qos
  messageId : UInt16
  retain : Bool
  deriving DecidableEq, Repr

/-- A call into the MQTT library with its answer, or what the library reported. -/
inductive Event where
  | connect (rc : ℤ)
  | abort
  | disconnect
  | publish (param : PublishParam) (rc : ℤ)
  | subscribe (topics : List String) (messageId : UInt16) (rc : ℤ)
  | puback (messageId : UInt16)
  | connack (result : ℤ)
  | gotPuback (messageId : UInt16)
  | gotSuback (messageId : UInt16)
  deriving DecidableEq, Repr

/-- An event, and the state the session was in. -/
structure Entry where
  state : SessionState
  event : Event
  deriving DecidableEq, Repr

/-- `struct node_session`: what the code writes, and the log, oldest first. -/
structure Session where
  state : SessionState
  connected : Bool
  connectFailed : Bool
  backoffMs : ℤ
  retryAt : ℤ
  connackDue : ℤ
  nextMessageId : UInt16
  log : List Entry
  deriving DecidableEq, Repr

namespace Session

/-- A session as `main` first sees it: connect immediately. -/
def initial : Session := ⟨.idle, false, false, kBackoffMinMs, 0, 0, 0, []⟩

variable (s : Session)

/-- Log an event. -/
def emit (event : Event) : Session := { s with log := s.log ++ [⟨s.state, event⟩] }

/-- `publish`; `rc` is what `mqtt_publish` answers. -/
def publish (topic : Topic) (payload : Bytes) (qos : Qos) (retain : Bool) (rc : ℤ) : Session :=
  if qos = .atMostOnce then s.emit (.publish ⟨topic, payload, qos, 0, retain⟩ rc)
  else
    let messageId := if s.nextMessageId + 1 = 0 then 1 else s.nextMessageId + 1
    { s with nextMessageId := messageId }.emit
      (.publish ⟨topic, payload, qos, messageId, retain⟩ rc)

/-- `subscribe_to_commands`; `rc` is what `mqtt_subscribe` answers. -/
def subscribeToCommands (i : SessionId) (rc : ℤ) : Session :=
  s.emit (.subscribe (commandTopics i) 1 rc)

/-- `session_drop`. -/
def drop (reachedConnack : Bool) (uptime : ℤ) : Session :=
  let s :=
    match s.state with
    | .serving => s.emit .disconnect
    | .connecting => s.emit .abort
    | .idle => s
  let backoffMs := if reachedConnack then kBackoffMinMs else min (s.backoffMs * 2) kBackoffMaxMs
  { s with
    backoffMs := backoffMs
    state := .idle
    connected := false
    retryAt := uptime + backoffMs }

/-- `session_connect`; `rc` is what `mqtt_connect` answers. -/
def connect (rc uptime : ℤ) : Session :=
  let s := { s with connected := false, connectFailed := false }.emit (.connect rc)
  if rc ≠ 0 then { s with state := .idle }.drop false uptime
  else { s with state := .connecting, connackDue := uptime + kConnackTimeoutMs }

/-- The announcement of `session_serving`; `status` is what it reads off
`chan_relay_status` for the peer, if the read succeeds. -/
def announce (i : SessionId) (status : Option RelayStatus) (rc : ℤ) : Session :=
  match i, status with
  | .own, _ => s.publish (.status .own) (cstr "online") .atLeastOnce true rc
  | .peer, none => s
  | .peer, some st =>
      if st.nodeId ≠ 0 then s.publish (.status .peer) (statusText st) .atLeastOnce true rc else s

/-- `session_serving`. -/
def serving (i : SessionId) (status : Option RelayStatus) (publishRc subscribeRc : ℤ) : Session :=
  let s := { s with state := .serving, backoffMs := kBackoffMinMs }
  (s.announce i status publishRc).subscribeToCommands i subscribeRc

/-- `mqtt_evt_handler` on `MQTT_EVT_CONNACK`. -/
def connack (result : ℤ) : Session :=
  let s := if result ≠ 0 then { s with connectFailed := true } else { s with connected := true }
  s.emit (.connack result)

/-! ### One session -/

/-- What is done to a session.  `connack`, `disconnected`, `gotPuback` and
`gotSuback` are the library's reports. -/
inductive Op where
  | connect (rc uptime : ℤ)
  | drop (reachedConnack : Bool) (uptime : ℤ)
  | serving (status : Option RelayStatus) (publishRc subscribeRc : ℤ)
  | publish (topic : Topic) (payload : Bytes) (qos : Qos) (retain : Bool) (rc : ℤ)
  | puback (messageId : UInt16)
  | connack (result : ℤ)
  | disconnected
  | gotPuback (messageId : UInt16)
  | gotSuback (messageId : UInt16)

/-- A send of `handle_incoming_publish` or of the publish phase. -/
def Op.send : Op → Bool
  | .publish _ _ _ _ _ | .puback _ => true
  | _ => false

/-- When the code does it, as far as the state of the session goes; a send is
held back by nothing here. -/
def enabled : Op → Prop
  | .connect _ _ => s.state = .idle
  | .serving _ _ _ => s.state = .connecting ∧ s.connected = true
  | .drop _ _ | .connack _ | .disconnected | .gotPuback _ | .gotSuback _ => s.state ≠ .idle
  | .publish _ _ _ _ _ | .puback _ => True

/-- What an operation does. -/
def next (i : SessionId) : Op → Session
  | .connect rc uptime => s.connect rc uptime
  | .drop reachedConnack uptime => s.drop reachedConnack uptime
  | .serving status publishRc subscribeRc => s.serving i status publishRc subscribeRc
  | .publish topic payload qos retain rc => s.publish topic payload qos retain rc
  | .puback messageId => s.emit (.puback messageId)
  | .connack result => s.connack result
  | .disconnected => { s with connected := false }
  | .gotPuback messageId => s.emit (.gotPuback messageId)
  | .gotSuback messageId => s.emit (.gotSuback messageId)

/-- One session, taken on its own. -/
def machine (i : SessionId) : Machine Session Op := ⟨initial, enabled, fun s => next s i⟩

/-- A send goes out on a serving session. -/
def sendsServing (s : Session) (op : Op) : Prop := op.send = true → s.state = .serving

/-! ### What the functions leave alone -/

@[simp] lemma emit_state (e : Event) : (s.emit e).state = s.state := rfl
@[simp] lemma emit_connected (e : Event) : (s.emit e).connected = s.connected := rfl
@[simp] lemma emit_backoffMs (e : Event) : (s.emit e).backoffMs = s.backoffMs := rfl
@[simp] lemma emit_nextMessageId (e : Event) : (s.emit e).nextMessageId = s.nextMessageId := rfl
@[simp] lemma emit_log (e : Event) : (s.emit e).log = s.log ++ [⟨s.state, e⟩] := rfl

variable {s} in
lemma connecting_or_serving (h : s.state ≠ .idle) : s.state = .connecting ∨ s.state = .serving := by
  cases hs : s.state with
  | idle => exact absurd hs h
  | connecting => exact .inl rfl
  | serving => exact .inr rfl

section Publish

variable (topic : Topic) (payload : Bytes) (qos : Qos) (retain : Bool) (rc : ℤ)

/-- A publish logs one event, and but for its packet identifier does nothing
else. -/
lemma publish_eq : ∃ messageId param, s.publish topic payload qos retain rc =
    { s with nextMessageId := messageId }.emit (.publish param rc) := by
  by_cases hqos : qos = .atMostOnce
  · exact ⟨s.nextMessageId, _, if_pos hqos⟩
  · exact ⟨_, _, if_neg hqos⟩

@[simp] lemma publish_state : (s.publish topic payload qos retain rc).state = s.state := by
  obtain ⟨messageId, param, h⟩ := s.publish_eq topic payload qos retain rc
  rw [h, emit_state]

/-- The packet it logs, under some identifier. -/
lemma publish_log : ∃ messageId, (s.publish topic payload qos retain rc).log =
    s.log ++ [⟨s.state, .publish ⟨topic, payload, qos, messageId, retain⟩ rc⟩] := by
  by_cases hqos : qos = .atMostOnce
  · exact ⟨0, by simp [publish, hqos]⟩
  · exact ⟨_, by rw [publish, if_neg hqos]; rfl⟩

end Publish

/-- An announcement is one publish or nothing. -/
lemma announce_eq (i : SessionId) (status : Option RelayStatus) (rc : ℤ) :
    s.announce i status rc = s ∨
      ∃ topic payload, s.announce i status rc = s.publish topic payload .atLeastOnce true rc := by
  rw [announce.eq_def]
  split
  · exact .inr ⟨_, _, rfl⟩
  · exact .inl rfl
  · split_ifs
    · exact .inr ⟨_, _, rfl⟩
    · exact .inl rfl

/-- Serving is the announcement, if there is one, and the SUBSCRIBE. -/
lemma serving_eq (i : SessionId) (status : Option RelayStatus) (publishRc subscribeRc : ℤ) :
    let accepted := { s with state := .serving, backoffMs := kBackoffMinMs }
    s.serving i status publishRc subscribeRc = accepted.subscribeToCommands i subscribeRc ∨
      ∃ topic payload, s.serving i status publishRc subscribeRc =
        (accepted.publish topic payload .atLeastOnce true publishRc).subscribeToCommands i
          subscribeRc := by
  intro accepted
  rcases accepted.announce_eq i status publishRc with heq | ⟨topic, payload, heq⟩
  · exact .inl (congrArg (fun t : Session => t.subscribeToCommands i subscribeRc) heq)
  · exact .inr ⟨topic, payload,
      congrArg (fun t : Session => t.subscribeToCommands i subscribeRc) heq⟩

@[simp] lemma serving_state (i : SessionId) (status : Option RelayStatus)
    (publishRc subscribeRc : ℤ) : (s.serving i status publishRc subscribeRc).state = .serving := by
  rcases s.serving_eq i status publishRc subscribeRc with heq | ⟨topic, payload, heq⟩ <;>
    simp [heq, subscribeToCommands]

@[simp] lemma drop_state (reachedConnack : Bool) (uptime : ℤ) :
    (s.drop reachedConnack uptime).state = .idle := rfl

@[simp] lemma connack_state (result : ℤ) : (s.connack result).state = s.state := by
  rw [connack]; split_ifs <;> rfl

@[simp] lemma connack_backoffMs (result : ℤ) : (s.connack result).backoffMs = s.backoffMs := by
  rw [connack]; split_ifs <;> rfl

@[simp] lemma connack_log (result : ℤ) :
    (s.connack result).log = s.log ++ [⟨s.state, .connack result⟩] := by
  rw [connack]; split_ifs <;> rfl

/-- What giving up tears down. -/
def teardown : SessionState → List Entry
  | .serving => [⟨.serving, .disconnect⟩]
  | .connecting => [⟨.connecting, .abort⟩]
  | .idle => []

lemma drop_log (reachedConnack : Bool) (uptime : ℤ) :
    (s.drop reachedConnack uptime).log = s.log ++ teardown s.state := by
  cases h : s.state <;> simp [drop, h, teardown]

/-- A connect that fails leaves nothing to tear down. -/
lemma connect_log (rc uptime : ℤ) :
    (s.connect rc uptime).log = s.log ++ [⟨s.state, .connect rc⟩] := by
  by_cases hrc : rc = 0
  · simp [connect, hrc]
  · simp [connect, hrc, drop_log, teardown]

lemma drop_nextMessageId (reachedConnack : Bool) (uptime : ℤ) :
    (s.drop reachedConnack uptime).nextMessageId = s.nextMessageId := by
  cases h : s.state <;> simp [drop, h]

lemma connect_nextMessageId (rc uptime : ℤ) :
    (s.connect rc uptime).nextMessageId = s.nextMessageId := by
  by_cases hrc : rc = 0
  · simp [connect, hrc]
  · simp [connect, hrc, drop_nextMessageId]

lemma connack_nextMessageId (result : ℤ) :
    (s.connack result).nextMessageId = s.nextMessageId := by
  rw [connack]; split_ifs <;> rfl

lemma drop_backoffMs (reachedConnack : Bool) (uptime : ℤ) :
    (s.drop reachedConnack uptime).backoffMs =
      if reachedConnack then kBackoffMinMs else min (s.backoffMs * 2) kBackoffMaxMs := by
  cases h : s.state <;> simp [drop, h]

end Session

end ClimateNode.Gateway
