import ClimateNode.Gateway.Discipline

/-!
The passes of `main` in `gateway/src/main.cpp` over its two sessions: connect,
poll, input, stepping, publishing.  The clock, the poll and the MQTT library answer
what they like; a label carries the answers.  `Gateway.machine` follows the channels
through the same loop; here what is read from them is an answer too.

* `Passes.machine`: a call of `main` a label.
* `session_reachable`: whatever a pass does, each session goes through operations
  of its own, and sends only while it serves, as long as the broker delivers on
  subscriptions only.
* `sessions_disciplined`: **what the MQTT library is asked to do**.
-/

namespace ClimateNode.Gateway

open Automata Wire

/-! ### The sessions -/

/-- `sessions`. -/
abbrev Sessions := SessionId → Session

/-- The session after this one. -/
def SessionId.succ : SessionId → Option SessionId
  | .own => some .peer
  | .peer => none

/-- A message the broker delivers: `struct mqtt_publish_param` as the library
fills it, with the payload the connection holds for it. -/
structure Arrival where
  topic : String
  qos : Qos
  messageId : UInt16
  payload : Bytes
  deriving DecidableEq, Repr

/-- What `handle_incoming_publish` is answered: whether the payload reads
succeed, and what `zbus_chan_pub` and `mqtt_publish` return. -/
structure ArrivalAnswers where
  read : Bool
  bus : Int
  publish : ℤ
  deriving DecidableEq, Repr

/-- `struct mqtt_evt`. -/
inductive MqttEvt where
  | connack (result : ℤ)
  | disconnect
  | publish (pub : Arrival) (answers : ArrivalAnswers)
  | puback (messageId : UInt16)
  | suback (messageId : UInt16)
  | other
  deriving DecidableEq, Repr

/-- What `session_serving` and `mqtt_live` are answered, and what `session_drop`
reads off the clock. -/
structure StepAnswers where
  status : Option RelayStatus
  publish : ℤ
  subscribe : ℤ
  live : ℤ
  uptime : ℤ

/-- `EAGAIN`. -/
def eAgain : ℤ := 11

section Calls

variable (pb : Nanopb) (node : NodeIdentity)

/-- Act on one session. -/
def Sessions.on (ss : Sessions) (i : SessionId) (f : Session → Session) : Sessions :=
  Function.update ss i (f (ss i))

/-- The PUBACK of `handle_incoming_publish`. -/
def Sessions.puback (ss : Sessions) (i : SessionId) (pub : Arrival) : Sessions :=
  if pub.qos = .atLeastOnce then ss.on i fun s => s.emit (.puback pub.messageId) else ss

/-- `handle_incoming_publish` on session `i`.  The Ack of `forward_to_peer` goes
out on the session of the peer, whichever this one is. -/
def Sessions.handleIncomingPublish (ss : Sessions) (commands : CommandState) (i : SessionId)
    (pub : Arrival) (answers : ArrivalAnswers) : Sessions × CommandState :=
  if answers.read then
    let ss := ss.puback i pub
    let forPeer := decide (pub.topic = kPeerTopicCommand)
    let handled := ClimateNode.handleIncomingPublish pb node commands forPeer pub.payload answers.bus
    let decoded := (decodePublish pb pub.payload).1
    match handled.1 with
    | .ack (some payload) =>
        (ss.on (if decoded && forPeer then .peer else i) fun s =>
          s.publish (.ack (if forPeer then .peer else i)) payload .atLeastOnce false answers.publish,
          handled.2)
    | _ => (ss, handled.2)
  else (ss, commands)

/-- `mqtt_evt_handler`, called for session `i`. -/
def Sessions.mqttEvtHandler (ss : Sessions) (commands : CommandState) (i : SessionId) :
    MqttEvt → Sessions × CommandState
  | .connack result => (ss.on i fun s => s.connack result, commands)
  | .disconnect => (ss.on i fun s => { s with connected := false }, commands)
  | .publish pub answers => Sessions.handleIncomingPublish pb node ss commands i pub answers
  | .puback messageId => (ss.on i fun s => s.emit (.gotPuback messageId), commands)
  | .suback messageId => (ss.on i fun s => s.emit (.gotSuback messageId), commands)
  | .other => (ss, commands)

/-- The connect phase of `main` for one session. -/
def Session.retry (s : Session) (now rc uptime : ℤ) : Session :=
  if s.state = .idle ∧ s.retryAt ≤ now then s.connect rc uptime else s

/-- The input phase, after `mqtt_input` has returned `rc`. -/
def Session.input (s : Session) (rc uptime : ℤ) : Session :=
  if rc ≠ 0 then s.drop (s.state = .serving) uptime else s

/-- The stepping phase. -/
def Session.step (s : Session) (i : SessionId) (now : ℤ) (answers : StepAnswers) : Session :=
  match s.state with
  | .connecting =>
      if s.connected then s.serving i answers.status answers.publish answers.subscribe
      else if s.connectFailed then s.drop false answers.uptime
      else if s.connackDue ≤ now then s.drop false answers.uptime
      else s
  | .serving =>
      if ¬ s.connected then s.drop true answers.uptime
      else if answers.live ≠ 0 ∧ answers.live ≠ -eAgain then s.drop true answers.uptime
      else s
  | .idle => s

/-- The QoS of a channel. -/
def ChanId.qos : ChanId → Qos
  | .telemetry | .relayTelemetry => .atMostOnce
  | .relayAck | .relayStatus => .atLeastOnce

/-- Whether the broker is to retain what a channel carries. -/
def ChanId.retain : ChanId → Bool
  | .relayStatus => true
  | _ => false

/-- `publish_pending_telemetry`, `publish_relayed` and `publish_relayed_status`:
the result and the session.  `msg` is what was read, if the descriptor was drained
and the channel read. -/
def Session.publishPending (s : Session) (c : ChanId) (msg : Option c.Msg) (rc : ℤ) : ℤ × Session :=
  match msg.bind (payloadOf pb c) with
  | none => (0, s)
  | some payload => (rc, s.publish c.topic payload c.qos c.retain rc)

/-- The publishing phase for one channel, whose descriptor was found readable. -/
def Session.flush (s : Session) (c : ChanId) (msg : Option c.Msg) (rc uptime : ℤ) : Session :=
  if s.state = .serving then
    let published := s.publishPending pb c msg rc
    if published.1 ≠ 0 then published.2.drop true uptime else published.2
  else s

end Calls

/-! ### The poll set -/

/-- A descriptor of the poll set: the socket of a session, or the eventfd of a
channel. -/
inductive Descriptor where
  | sock (i : SessionId)
  | evt (c : ChanId)
  deriving DecidableEq, Repr

/-- The session a descriptor is polled for. -/
def Descriptor.session : Descriptor → SessionId
  | .sock i => i
  | .evt c => c.session

/-- The poll set `main` assembles. -/
def pollSet (ss : Sessions) : List Descriptor :=
  ([SessionId.own, .peer].filter fun i => (ss i).state ≠ .idle).map .sock ++
    ([ChanId.telemetry, .relayTelemetry, .relayAck, .relayStatus].filter fun c =>
      (ss c.session).state = .serving).map .evt

/-- A session without a connection contributes nothing. -/
lemma session_ne_idle_of_mem {ss : Sessions} {d : Descriptor} (h : d ∈ pollSet ss) :
    (ss d.session).state ≠ .idle := by
  rcases List.mem_append.mp h with h | h
  · obtain ⟨i, hi, rfl⟩ := List.mem_map.mp h
    simpa [Descriptor.session] using (List.mem_filter.mp hi).2
  · obtain ⟨c, hc, rfl⟩ := List.mem_map.mp h
    have hserving : (ss c.session).state = .serving := by simpa using (List.mem_filter.mp hc).2
    simp [Descriptor.session, hserving]

/-! ### The machine -/

namespace Passes

/-- Where `main` stands in a pass. -/
inductive Pc where
  | top
  | connect (i : SessionId)
  | poll
  | input (i : SessionId)
  | clock
  | step (i : SessionId)
  | publish (c : ChanId)
  deriving DecidableEq, Repr

/-- What `main` works on. -/
structure State where
  sessions : Sessions
  commands : CommandState
  pc : Pc
  now : ℤ
  /-- The poll set, and what the poll made of it. -/
  fds : List Descriptor
  revents : Descriptor → Bool

/-- The calls, with their answers.  `event` is a callback inside `mqtt_input`, and
`disconnected` the one the library makes when a call of its own fails. -/
inductive Label where
  | top (now : ℤ)
  | connect (i : SessionId) (rc uptime : ℤ)
  | poll (revents : Option (Descriptor → Bool))
  | event (i : SessionId) (evt : MqttEvt)
  | input (i : SessionId) (rc uptime : ℤ)
  | clock (now : ℤ)
  | step (i : SessionId) (answers : StepAnswers)
  | publish (c : ChanId) (msg : Option c.Msg) (rc uptime : ℤ)
  | disconnected (i : SessionId)

/-- A descriptor that was polled and is readable. -/
def State.readable (s : State) (d : Descriptor) : Prop := d ∈ s.fds ∧ s.revents d = true

instance (s : State) (d : Descriptor) : Decidable (s.readable d) :=
  inferInstanceAs (Decidable (_ ∧ _))

section Machine

variable (pb : Nanopb) (node : NodeIdentity)

/-- Which call may come next. -/
def enabled (s : State) : Label → Prop
  | .top _ => s.pc = .top
  | .connect i _ _ => s.pc = .connect i
  | .poll _ => s.pc = .poll
  | .event i _ => s.pc = .input i ∧ s.readable (.sock i)
  | .input i _ _ => s.pc = .input i
  | .clock _ => s.pc = .clock
  | .step i _ => s.pc = .step i
  | .publish c _ _ _ => s.pc = .publish c
  | .disconnected i => (s.sessions i).state ≠ .idle

instance (s : State) (l : Label) : Decidable (enabled s l) := by
  cases l <;> dsimp only [enabled] <;> infer_instance

/-- What a call does. -/
def next (s : State) : Label → State
  | .top now => { s with now := now, pc := .connect .own }
  | .connect i rc uptime =>
      { s with sessions := s.sessions.on i fun t => t.retry s.now rc uptime
               pc := i.succ.elim .poll .connect }
  | .poll none => { s with fds := pollSet s.sessions, pc := .top }
  | .poll (some revents) =>
      { s with fds := pollSet s.sessions, revents := revents, pc := .input .own }
  | .event i evt =>
      let handled := Sessions.mqttEvtHandler pb node s.sessions s.commands i evt
      { s with sessions := handled.1, commands := handled.2 }
  | .input i rc uptime =>
      { s with sessions :=
                 if s.readable (.sock i) then s.sessions.on i fun t => t.input rc uptime
                 else s.sessions
               pc := i.succ.elim .clock .input }
  | .clock now => { s with now := now, pc := .step .own }
  | .step i answers =>
      { s with sessions := s.sessions.on i fun t => t.step i s.now answers
               pc := i.succ.elim (.publish .telemetry) .step }
  | .publish c msg rc uptime =>
      { s with sessions :=
                 if s.readable (.evt c) then
                   s.sessions.on c.session fun t => t.flush pb c msg rc uptime
                 else s.sessions
               pc := c.succ.elim .top .publish }
  | .disconnected i => { s with sessions := s.sessions.on i fun t => { t with connected := false } }

/-- Boot, the descriptors created. -/
def boot : State := ⟨fun _ => Session.initial, CommandState.initial, .top, 0, [], fun _ => false⟩

/-- The machine of the passes. -/
def machine : Machine State Label := ⟨boot, enabled, next pb node⟩

instance (s : State) (l : Label) : Decidable ((machine pb node).enabled s l) :=
  inferInstanceAs (Decidable (enabled s l))

end Machine

/-- The broker delivers a message on a connection that has sent SUBSCRIBE for its
topic. -/
def brokerDelivers (s : State) : Label → Prop
  | .event i (.publish pub _) => pub.topic ∈ subscriptions (s.sessions i).log
  | _ => True

instance (s : State) (l : Label) : Decidable (brokerDelivers s l) := by
  cases l with
  | event i evt => cases evt <;> dsimp only [brokerDelivers] <;> infer_instance
  | _ => exact inferInstanceAs (Decidable True)

/-! ### What a pass does to a session -/

section Steps

/-- A session that sends while it serves. -/
abbrev servingMachine (i : SessionId) : Machine Session Session.Op :=
  (Session.machine i).restrict Session.sendsServing

/-- Any number of operations of a session. -/
abbrev Steps (i : SessionId) : Session → Session → Prop :=
  Relation.ReflTransGen (servingMachine i).Step

variable {s : Session} {i : SessionId}

lemma Steps.one (op : Session.Op) (hop : s.enabled op) (hsend : Session.sendsServing s op) :
    Steps i s (s.next i op) :=
  .single ⟨op, ⟨hop, hsend⟩, rfl⟩

lemma steps_drop (hst : s.state ≠ .idle) (reachedConnack : Bool) (uptime : ℤ) :
    Steps i s (s.drop reachedConnack uptime) :=
  .one (.drop reachedConnack uptime) hst (by simp [Session.sendsServing, Session.Op.send])

lemma steps_retry (now rc uptime : ℤ) : Steps i s (s.retry now rc uptime) := by
  rw [Session.retry]
  split_ifs with h
  · exact .one (.connect rc uptime) h.1 (by simp [Session.sendsServing, Session.Op.send])
  · exact .refl

lemma steps_input (hst : s.state ≠ .idle) (rc uptime : ℤ) : Steps i s (s.input rc uptime) := by
  rw [Session.input]
  split_ifs
  · exact steps_drop hst _ uptime
  · exact .refl

lemma steps_step (now : ℤ) (answers : StepAnswers) : Steps i s (s.step i now answers) := by
  rw [Session.step]
  cases hst : s.state with
  | idle => exact .refl
  | connecting =>
      have hne : s.state ≠ .idle := by simp [hst]
      dsimp only
      split_ifs with hconn
      · exact .one (.serving answers.status answers.publish answers.subscribe) ⟨hst, hconn⟩
          (by simp [Session.sendsServing, Session.Op.send])
      · exact steps_drop hne false _
      · exact steps_drop hne false _
      · exact .refl
  | serving =>
      have hne : s.state ≠ .idle := by simp [hst]
      dsimp only
      split_ifs
      · exact steps_drop hne true _
      · exact .refl
      · exact steps_drop hne true _

/-- A pending message is published or there is nothing to publish. -/
lemma publishPending_eq (pb : Nanopb) (s : Session) (c : ChanId) (msg : Option c.Msg) (rc : ℤ) :
    s.publishPending pb c msg rc = (0, s) ∨ ∃ payload,
      s.publishPending pb c msg rc = (rc, s.publish c.topic payload c.qos c.retain rc) := by
  rw [Session.publishPending]
  cases msg.bind (payloadOf pb c) with
  | none => exact .inl rfl
  | some payload => exact .inr ⟨payload, rfl⟩

lemma steps_flush (pb : Nanopb) (c : ChanId) (msg : Option c.Msg) (rc uptime : ℤ) :
    Steps i s (s.flush pb c msg rc uptime) := by
  rw [Session.flush]
  split_ifs with hst
  · rcases publishPending_eq pb s c msg rc with heq | ⟨payload, heq⟩
    · rw [heq]
      exact .refl
    · have hpub : Steps i s (s.publish c.topic payload c.qos c.retain rc) :=
        .one (.publish c.topic payload c.qos c.retain rc) trivial fun _ => hst
      rw [heq]
      dsimp only
      split_ifs
      · exact hpub.trans (steps_drop (by simp [hst]) true uptime)
      · exact hpub
  · exact .refl

/-- What is done to one session is done to no other. -/
lemma steps_on {ss : Sessions} {f : Session → Session} (h : Steps i (ss i) (f (ss i)))
    (j : SessionId) : Steps j (ss j) (ss.on i f j) := by
  by_cases hji : j = i
  · subst hji
    simpa [Sessions.on] using h
  · simpa [Sessions.on, hji] using Relation.ReflTransGen.refl

end Steps

/-! ### Arrivals -/

section Arrivals

variable {s t : Session} {i : SessionId}

/-- Any number of sends, whatever the session is doing. -/
abbrev Sends (i : SessionId) : Session → Session → Prop :=
  Relation.ReflTransGen fun s t => ∃ op : Session.Op, op.send = true ∧ s.next i op = t

lemma send_state {op : Session.Op} (h : op.send = true) : (s.next i op).state = s.state := by
  cases op <;> simp_all [Session.Op.send, Session.next]

lemma Sends.state_eq (h : Sends i s t) : t.state = s.state := by
  induction h with
  | refl => rfl
  | tail _ hstep ih =>
      obtain ⟨op, hop, rfl⟩ := hstep
      rw [send_state hop, ih]

/-- Sends are operations. -/
lemma Sends.steps (h : Sends i s t) : Relation.ReflTransGen (Session.machine i).Step s t := by
  refine Relation.ReflTransGen.mono ?_ s t h
  rintro s t ⟨op, hop, rfl⟩
  exact ⟨op, by cases op <;> simp_all [Session.Op.send, Session.machine, Session.enabled], rfl⟩

/-- A session that serves may send. -/
lemma Sends.steps_serving (h : Sends i s t) (hst : s.state = .serving) : Steps i s t := by
  induction h with
  | refl => exact .refl
  | tail hsends hstep ih =>
      obtain ⟨op, hop, rfl⟩ := hstep
      refine ih.tail ⟨op, ⟨?_, fun _ => ?_⟩, rfl⟩
      · cases op <;> simp_all [Session.Op.send, Session.machine, Session.enabled]
      · rw [Sends.state_eq hsends, hst]

variable (pb : Nanopb) (node : NodeIdentity) (ss : Sessions) (commands : CommandState)
  (pub : Arrival) (answers : ArrivalAnswers)

lemma sends_on {f : Session → Session} (op : Session.Op) (hop : op.send = true)
    (hf : f (ss i) = (ss i).next i op) (j : SessionId) : Sends j (ss j) (ss.on i f j) := by
  by_cases hji : j = i
  · subst hji
    exact .single ⟨op, hop, by simp [Sessions.on, hf]⟩
  · simpa [Sessions.on, hji] using Relation.ReflTransGen.refl

lemma sends_publish (i : SessionId) (topic : Topic) (payload : Bytes) (qos : Qos) (retain : Bool)
    (rc : ℤ) (j : SessionId) :
    Sends j (ss j) (ss.on i (fun s => s.publish topic payload qos retain rc) j) :=
  sends_on ss (.publish topic payload qos retain rc) rfl rfl j

lemma sends_puback (i j : SessionId) : Sends j (ss j) (ss.puback i pub j) := by
  rw [Sessions.puback]
  split_ifs
  · exact sends_on ss (.puback pub.messageId) rfl rfl j
  · exact .refl

/-- An arrival makes the sessions send, and nothing else. -/
lemma sends_handleIncomingPublish (i j : SessionId) :
    Sends j (ss j) ((ss.handleIncomingPublish pb node commands i pub answers).1 j) := by
  rw [Sessions.handleIncomingPublish]
  split
  · dsimp only
    split
    · exact (sends_puback ss pub i j).trans (sends_publish _ _ _ _ _ _ _ j)
    · exact sends_puback ss pub i j
  · exact .refl

/-- A message makes no session send but the one it arrives on, when commands for
the peer arrive on the session of the peer. -/
lemma handleIncomingPublish_other (htopic : pub.topic = kPeerTopicCommand → i = .peer)
    {j : SessionId} (hji : j ≠ i) :
    (ss.handleIncomingPublish pb node commands i pub answers).1 j = ss j := by
  have hacker : (if (decodePublish pb pub.payload).1 &&
      decide (pub.topic = kPeerTopicCommand) then SessionId.peer else i) = i := by
    split_ifs with h
    · exact (htopic (by simpa using And.right (by simpa using h))).symm
    · rfl
  have hpuback : ss.puback i pub j = ss j := by
    rw [Sessions.puback]
    split_ifs <;> simp [Sessions.on, hji]
  rw [Sessions.handleIncomingPublish]
  split
  · dsimp only
    rw [hacker]
    split
    · simpa [Sessions.on, hji] using hpuback
    · exact hpuback
  · rfl

variable {ss} in
lemma on_state {f : Session → Session} (h : (f (ss i)).state = (ss i).state) (j : SessionId) :
    (ss.on i f j).state = (ss j).state := by
  by_cases hji : j = i
  · subst hji
    simpa [Sessions.on] using h
  · simp [Sessions.on, hji]

/-- No callback changes the state of a session. -/
lemma mqttEvtHandler_state (evt : MqttEvt) (i j : SessionId) :
    ((ss.mqttEvtHandler pb node commands i evt).1 j).state = (ss j).state := by
  cases evt with
  | publish pub answers =>
      exact (sends_handleIncomingPublish pb node ss commands pub answers i j).state_eq
  | other => rfl
  | connack result => exact on_state (Session.connack_state _ result) j
  | disconnect | puback messageId | suback messageId => exact on_state rfl j

end Arrivals

/-! ### Runs -/

/-- The sockets `main` has still to read belong to sessions with a connection. -/
def Polled (s : State) : Prop :=
  ∀ i j, s.pc = .input i → j = i ∨ i.succ = some j → .sock j ∈ s.fds →
    (s.sessions j).state ≠ .idle

section Runs

variable {pb : Nanopb} {node : NodeIdentity} {s : State} {l : Label} {ls : List Label}

variable (pb node) in
theorem polled_inductive : (machine pb node).Inductive Polled where
  init i j hpc := absurd hpc (by simp [machine, boot])
  step s l h hl := by
    intro i j hpc hj hfd
    cases l with
    | top now | clock now => exact absurd hpc (by simp [machine, next])
    | connect i' rc uptime => cases i' <;> exact absurd hpc (by simp [machine, next, SessionId.succ])
    | step i' answers => cases i' <;> exact absurd hpc (by simp [machine, next, SessionId.succ])
    | publish c msg rc uptime => cases c <;> exact absurd hpc (by simp [machine, next, ChanId.succ])
    | poll revents =>
        cases revents with
        | none => exact absurd hpc (by simp [machine, next])
        | some revents => exact session_ne_idle_of_mem hfd
    | event i' evt =>
        have hold := h i j hpc hj hfd
        simpa [machine, next, mqttEvtHandler_state] using hold
    | input i' rc uptime =>
        -- only from the own session to that of the peer, which is as it was
        cases i' with
        | peer => exact absurd hpc (by simp [machine, next, SessionId.succ])
        | own =>
            obtain rfl : SessionId.peer = i := Pc.input.inj hpc
            obtain rfl : j = .peer := by simpa [SessionId.succ] using hj
            have hold := h .own .peer hl (.inr rfl) hfd
            by_cases hread : s.readable (.sock .own) <;>
              simpa [machine, next, hread, Sessions.on] using hold
    | disconnected i' =>
        have hsame : (s.sessions.on i' (fun t => { t with connected := false }) j).state =
            (s.sessions j).state := on_state rfl j
        exact hsame ▸ h i j hpc hj hfd

/-- What a call does to each session, arrivals apart. -/
lemma steps_next (hl : enabled s l) (hp : Polled s)
    (hpub : ∀ i pub answers, l ≠ .event i (.publish pub answers)) (j : SessionId) :
    Steps j (s.sessions j) ((next pb node s l).sessions j) := by
  cases l with
  | top now | clock now => exact .refl
  | poll revents => cases revents <;> exact .refl
  | connect i rc uptime => exact steps_on (steps_retry s.now rc uptime) j
  | event i evt =>
      have hst : (s.sessions i).state ≠ .idle := hp i i hl.1 (.inl rfl) hl.2.1
      have hsend {op : Session.Op} (h : op.send = false) :
          Session.sendsServing (s.sessions i) op := by simp [Session.sendsServing, h]
      cases evt with
      | connack result =>
          simp only [next, Sessions.mqttEvtHandler]
          refine steps_on ?_ j
          exact .one (.connack result) hst (hsend rfl)
      | disconnect =>
          simp only [next, Sessions.mqttEvtHandler]
          refine steps_on ?_ j
          exact .one .disconnected hst (hsend rfl)
      | puback messageId =>
          simp only [next, Sessions.mqttEvtHandler]
          refine steps_on ?_ j
          exact .one (.gotPuback messageId) hst (hsend rfl)
      | suback messageId =>
          simp only [next, Sessions.mqttEvtHandler]
          refine steps_on ?_ j
          exact .one (.gotSuback messageId) hst (hsend rfl)
      | other => exact .refl
      | publish pub answers => exact absurd rfl (hpub i pub answers)
  | input i rc uptime =>
      by_cases hread : s.readable (.sock i)
      · have hst : (s.sessions i).state ≠ .idle := hp i i hl (.inl rfl) hread.1
        simp only [next, hread, if_true]
        refine steps_on ?_ j
        exact steps_input hst rc uptime
      · simpa [next, hread] using Relation.ReflTransGen.refl
  | step i answers =>
      simp only [next]
      refine steps_on ?_ j
      exact steps_step s.now answers
  | publish c msg rc uptime =>
      by_cases hread : s.readable (.evt c)
      · simp only [next, hread, if_true]
        refine steps_on ?_ j
        exact steps_flush pb c msg rc uptime
      · simpa [next, hread] using Relation.ReflTransGen.refl
  | disconnected i =>
      simp only [next]
      refine steps_on ?_ j
      exact .one .disconnected hl (by simp [Session.sendsServing, Session.Op.send])

/-- **Each session on its own**: whatever the calls answer, a session goes through
operations of its own. -/
theorem session_reachable (h : (machine pb node).Run ls s) (j : SessionId) :
    (Session.machine j).Reachable (s.sessions j) := by
  induction h with
  | nil => exact .init _
  | @snoc ls s l hrun hl ih =>
      refine ih.steps ?_
      by_cases hpub : ∃ i pub answers, l = .event i (.publish pub answers)
      · obtain ⟨i, pub, answers, rfl⟩ := hpub
        exact (sends_handleIncomingPublish pb node s.sessions s.commands pub answers i j).steps
      · refine Machine.steps_of_restrict
          (steps_next hl (hrun.invariant (polled_inductive pb node)) ?_ j)
        exact fun i pub answers heq => hpub ⟨i, pub, answers, heq⟩

/-- **Each session in order**: with a broker that delivers on subscriptions only, a session
sends while it serves. -/
theorem session_reachable_serving (h : ((machine pb node).restrict brokerDelivers).Run ls s) :
    ∀ j, (servingMachine j).Reachable (s.sessions j) := by
  induction h with
  | nil => exact fun j => .init _
  | @snoc ls s l hrun hl ih =>
      intro j
      refine (ih j).steps ?_
      have hp := hrun.invariant ((polled_inductive pb node).restrict brokerDelivers)
      by_cases hpub : ∃ i pub answers, l = .event i (.publish pub answers)
      · obtain ⟨i, pub, answers, rfl⟩ := hpub
        have hidle : (s.sessions i).state ≠ .idle := hp i i hl.1.1 (.inl rfl) hl.1.2.1
        obtain ⟨ops, hops⟩ := ih i
        obtain ⟨htopic, hconnecting⟩ := hops.invariant ((subscribed_inductive i).restrict _) _ hl.2
        by_cases hji : j = i
        · subst hji
          exact (sends_handleIncomingPublish pb node s.sessions s.commands pub answers j j
            ).steps_serving ((Session.connecting_or_serving hidle).resolve_left hconnecting)
        · -- the other session has nothing to do with it
          change Steps j _ ((s.sessions.handleIncomingPublish pb node s.commands i pub answers).1 j)
          rw [handleIncomingPublish_other pb node _ _ pub answers ?_ hji]
          intro hpeer
          cases i with
          | own => simp [hpeer, commandTopics, kTopicCommand, kPeerTopicCommand] at htopic
          | peer => rfl
      · refine steps_next hl.1 hp ?_ j
        exact fun i pub answers heq => hpub ⟨i, pub, answers, heq⟩

/-- A session is disciplined wherever a run ends. -/
theorem disciplined_of_run (h : ((machine pb node).restrict brokerDelivers).Run ls s)
    (i : SessionId) : Disciplined (s.sessions i) := by
  obtain ⟨ops, hops⟩ := session_reachable_serving h i
  exact hops.invariant (disciplined_inductive i)

/-- **What the MQTT library is asked to do**: sends go out on a serving session
whose CONNACK was accepted on this connection, connections are torn down once, a
session without one is not polled for, and the backoff stays in its bounds. -/
theorem sessions_disciplined (h : ((machine pb node).restrict brokerDelivers).Run ls s)
    (i : SessionId) :
    SendsAccepted (s.sessions i).log ∧ TornDownOnce (s.sessions i).log ∧
      ((s.sessions i).state = .idle → ∀ d ∈ pollSet s.sessions, d.session ≠ i) ∧
      1000 ≤ (s.sessions i).backoffMs ∧ (s.sessions i).backoffMs ≤ 30000 := by
  obtain ⟨⟨p, hp, -⟩, hback⟩ := disciplined_of_run h i
  refine ⟨sendsAccepted_of_phase hp, tornDownOnce_of_phase hp, ?_, hback⟩
  rintro hidle d hd rfl
  exact session_ne_idle_of_mem hd hidle

/-- A pass in which the own session, and it alone, is connected and accepted. -/
def firstPass : List Label :=
  [.top 0, .connect .own 0 5, .connect .peer (-116) 6, .poll (some fun d => d == .sock .own),
    .event .own (.connack 0), .input .own 0 0, .input .peer 0 0, .clock 7,
    .step .own ⟨none, 0, 0, 0, 0⟩, .step .peer ⟨none, 0, 0, 0, 0⟩, .publish .telemetry none 0 0,
    .publish .relayTelemetry none 0 0, .publish .relayAck none 0 0, .publish .relayStatus none 0 0]

/-- A pass in which the own session answers a command that does not decode and is
given up after, and the first calls of the next. -/
def lostPass : List Label :=
  [.top 900, .connect .own 0 0, .connect .peer 0 0, .poll (some fun d => d == .sock .own),
    .event .own (.publish ⟨kTopicCommand, .atLeastOnce, 9, [0xff]⟩ ⟨true, 0, 0⟩),
    .input .own (-104) 901, .input .peer 0 0, .clock 902, .step .own ⟨none, 0, 0, 0, 0⟩,
    .step .peer ⟨none, 0, 0, 0, 0⟩, .publish .telemetry none 0 0, .publish .relayTelemetry none 0 0,
    .publish .relayAck none 0 0, .publish .relayStatus none 0 0, .top 1901, .connect .own 0 1902]

theorem lostPass_disciplined : ∃ s,
    ((machine Nanopb.proto3 ⟨cstr "nucleo_h753zi", cstr "nucleo-1"⟩).restrict brokerDelivers).Run
      (firstPass ++ lostPass) s ∧ (s.sessions .own).log.length = 8 ∧
      SendsAccepted (s.sessions .own).log ∧ TornDownOnce (s.sessions .own).log := by
  have hrun : ((machine Nanopb.proto3 ⟨cstr "nucleo_h753zi", cstr "nucleo-1"⟩).restrict
      brokerDelivers).Run (firstPass ++ lostPass) _ := Machine.run_of_exec rfl
  have h := sessions_disciplined hrun .own
  exact ⟨_, hrun, rfl, h.1, h.2.1⟩

end Runs

end Passes

end ClimateNode.Gateway
