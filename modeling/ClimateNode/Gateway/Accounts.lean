import ClimateNode.Gateway.Passes

/-!
What a session has handed to the MQTT library, connection by connection, and the same of
the channels' model of `gateway/src/main.cpp`, so that the two can be compared.

* `Session.account`: read off the log of the calls of a session.
* `State.account`: read off what the channels' model publishes.
* `account_drop` to `flush_of_none`: **what a call of `main` adds to the account**, one
  lemma a function.

The text `online` of the gateway itself is left out of both: `session_serving` does not
look at what `mqtt_publish` answers for it, and the channels' model does not ask.
-/

namespace ClimateNode.Gateway

open Wire

/-- A message the library took: on which connection of its session, and what. -/
structure Sent where
  connection : ℕ
  topic : Topic
  payload : Bytes
  deriving DecidableEq, Repr

/-- The node a topic is of. -/
def Topic.node : Topic → SessionId
  | .telemetry i | .ack i | .status i => i

/-- A call in the account: how many connections were opened, and what was taken. -/
def tally (a : ℕ × List Sent) (e : Entry) : ℕ × List Sent :=
  match e.event with
  | .connect rc => if rc = 0 then (a.1 + 1, a.2) else a
  | .publish param rc =>
      if rc = 0 ∧ param.topic ≠ .status .own then
        (a.1, a.2 ++ [⟨a.1, param.topic, param.payload⟩])
      else a
  | _ => a

/-- The account of a log. -/
def accountOf (log : List Entry) : ℕ × List Sent := log.foldl tally (0, [])

/-- The account of a session. -/
abbrev Session.account (s : Session) : ℕ × List Sent := accountOf s.log

/-- A publication of the channels' model, as an account has it. -/
def Publication.sent (p : Publication) : Sent := ⟨p.connection, p.topic, p.payload⟩

/-- What counts for the session of a node. -/
def Publication.counted (i : SessionId) (p : Publication) : Bool :=
  p.topic.node = i ∧ p.topic ≠ .status .own

/-- The account of a session in the channels' model. -/
def State.account (g : State) (i : SessionId) : ℕ × List Sent :=
  (g.connection i, (g.log.filter (Publication.counted i)).map Publication.sent)

/-- What a step of the channels' model adds. -/
lemma account_next (pb : Nanopb) (g : State) (k : Label) (i : SessionId) :
    (next pb g k).account i = ((move g k).connection i,
      (g.account i).2 ++
        ((written pb g k).filter (Publication.counted i)).map Publication.sent) := by
  simp [State.account, next]

lemma accountOf_concat (log : List Entry) (e : Entry) :
    accountOf (log ++ [e]) = tally (accountOf log) e := by
  simp [accountOf]

section Calls

variable (s : Session) (rc uptime : ℤ)

lemma account_drop (reachedConnack : Bool) :
    (s.drop reachedConnack uptime).account = s.account := by
  rw [Session.account, Session.drop_log]
  cases s.state with
  | idle => rw [Session.teardown, List.append_nil]
  | connecting | serving => exact accountOf_concat _ _

lemma account_connack (result : ℤ) : (s.connack result).account = s.account := by
  rw [Session.account, Session.connack_log]
  exact accountOf_concat _ _

/-- A connect the library accepts opens a connection. -/
lemma account_connect :
    (s.connect rc uptime).account =
      if rc = 0 then (s.account.1 + 1, s.account.2) else s.account := by
  rw [Session.account, Session.connect_log, accountOf_concat]
  rfl

lemma account_publish (topic : Topic) (payload : Bytes) (qos : Qos) (retain : Bool) :
    (s.publish topic payload qos retain rc).account =
      if rc = 0 ∧ topic ≠ .status .own then
        (s.account.1, s.account.2 ++ [⟨s.account.1, topic, payload⟩])
      else s.account := by
  obtain ⟨messageId, hlog⟩ := s.publish_log topic payload qos retain rc
  rw [Session.account, hlog, accountOf_concat]
  rfl

/-- `session_serving` of the gateway itself announces `online`, which is not counted. -/
lemma account_serving_own (status : Option RelayStatus) (subscribeRc : ℤ) :
    (s.serving .own status rc subscribeRc).account = s.account := by
  have hann : (Session.announce { s with state := .serving, backoffMs := kBackoffMinMs } .own
      status rc).account = s.account := by
    rw [Session.announce, account_publish, if_neg (by simp)]
  rw [Session.account, Session.serving]
  exact (accountOf_concat _ _).trans hann

/-- `session_serving` of the peer announces what it read, if the relay has a status. -/
lemma account_serving_peer (status : Option RelayStatus) (subscribeRc : ℤ) :
    (s.serving .peer status rc subscribeRc).account =
      match status with
      | none => s.account
      | some st =>
          if st.nodeId ≠ 0 ∧ rc = 0 then
            (s.account.1, s.account.2 ++ [⟨s.account.1, .status .peer, statusText st⟩])
          else s.account := by
  have hsub : (s.serving .peer status rc subscribeRc).account =
      (Session.announce { s with state := .serving, backoffMs := kBackoffMinMs } .peer
        status rc).account := accountOf_concat _ _
  rw [hsub]
  cases status with
  | none => rfl
  | some st =>
      by_cases hid : st.nodeId = 0
      · simp [Session.announce, hid]
      · simp [Session.announce, hid, account_publish]

/-- The session was left alone or given up. -/
def Session.Kept (s t : Session) : Prop :=
  t.account = s.account ∧ (t.state = s.state ∨ t.state = .idle)

lemma kept_drop (reachedConnack : Bool) : s.Kept (s.drop reachedConnack uptime) :=
  ⟨account_drop s uptime reachedConnack, .inr rfl⟩

lemma kept_input : s.Kept (s.input rc uptime) := by
  rw [Session.input]
  split_ifs
  · exact kept_drop s uptime _
  · exact ⟨rfl, .inl rfl⟩

/-- The stepping phase, of a session that is not to serve from now on. -/
lemma kept_step {i : SessionId} {now : ℤ} {answers : StepAnswers}
    (h : ¬ (s.state = .connecting ∧ s.connected = true)) : s.Kept (s.step i now answers) := by
  rw [Session.step]
  cases hst : s.state with
  | idle => exact ⟨rfl, .inl rfl⟩
  | connecting =>
      have hconn : s.connected ≠ true := fun hconn => h ⟨hst, hconn⟩
      simp only [hconn, Bool.false_eq_true, if_false]
      split_ifs
      · exact kept_drop s _ _
      · exact kept_drop s _ _
      · exact ⟨rfl, .inl rfl⟩
  | serving =>
      dsimp only
      split_ifs
      · exact kept_drop s _ _
      · exact ⟨rfl, .inl rfl⟩
      · exact kept_drop s _ _

/-- The stepping phase of a session that was accepted is `session_serving`. -/
lemma step_of_accepted {i : SessionId} {now : ℤ} {answers : StepAnswers}
    (h : s.state = .connecting ∧ s.connected = true) :
    s.step i now answers = s.serving i answers.status answers.publish answers.subscribe := by
  simp [Session.step, h]

/-- The publishing phase of a session that serves: what was read goes out, and the session
goes down if the library does not take it. -/
lemma flush_of_payload {pb : Nanopb} {c : ChanId} {m : c.Msg} {payload : Bytes}
    (hst : s.state = .serving) (hpay : payloadOf pb c m = some payload) :
    (s.flush pb c (some m) rc uptime).state = (if rc = 0 then .serving else .idle) ∧
      (s.flush pb c (some m) rc uptime).account =
        (s.publish c.topic payload c.qos c.retain rc).account := by
  rw [Session.flush, if_pos hst, Session.publishPending]
  simp only [Option.bind_some, hpay]
  by_cases hrc : rc = 0
  · simp [hrc, hst]
  · simp only [hrc, ne_eq, not_false_eq_true, if_true, if_false]
    exact ⟨rfl, account_drop _ _ _⟩

/-- The publishing phase of a session with nothing to publish does nothing. -/
lemma flush_of_none {pb : Nanopb} {c : ChanId} {msg : Option c.Msg}
    (h : msg.bind (payloadOf pb c) = none) : s.flush pb c msg rc uptime = s := by
  rw [Session.flush]
  split_ifs
  · simp [Session.publishPending, h]
  · rfl

end Calls

/-! ### Both sessions -/

lemma Sessions.on_self (ss : Sessions) (i : SessionId) (f : Session → Session) :
    ss.on i f i = f (ss i) := by
  simp [Sessions.on]

lemma Sessions.on_of_ne (ss : Sessions) {i j : SessionId} (h : j ≠ i) (f : Session → Session) :
    ss.on i f j = ss j := by
  simp [Sessions.on, h]

lemma Sessions.account_on {ss : Sessions} {i : SessionId} {f : Session → Session}
    (h : (f (ss i)).account = (ss i).account) (j : SessionId) :
    (ss.on i f j).account = (ss j).account := by
  by_cases hji : j = i
  · subst hji
    rw [ss.on_self, h]
  · rw [ss.on_of_ne hji]

lemma Sessions.account_puback (ss : Sessions) (i : SessionId) (pub : Arrival) (j : SessionId) :
    (ss.puback i pub j).account = (ss j).account := by
  rw [Sessions.puback]
  split_ifs
  · exact Sessions.account_on (accountOf_concat _ _) j
  · rfl

/-- A message that comes in on the session of the node it is for: the Ack goes out on that
session, on the topic of that node. -/
lemma Sessions.handleIncomingPublish_eq (pb : Nanopb) (node : NodeIdentity) (ss : Sessions)
    (commands : CommandState) (i : SessionId) (pub : Arrival) (answers : ArrivalAnswers)
    (htopic : pub.topic = kPeerTopicCommand ↔ i = .peer) :
    (ss.handleIncomingPublish pb node commands i pub answers).1 =
      if answers.read then
        match (ClimateNode.handleIncomingPublish pb node commands
            (decide (pub.topic = kPeerTopicCommand)) pub.payload answers.bus).1 with
        | .ack (some payload) => (ss.puback i pub).on i fun s =>
            s.publish (.ack i) payload .atLeastOnce false answers.publish
        | _ => ss.puback i pub
      else ss := by
  have hacker (b : Bool) : (if b && decide (pub.topic = kPeerTopicCommand) then SessionId.peer
      else i) = i := by
    split_ifs with h
    · exact (htopic.mp (of_decide_eq_true (Bool.and_eq_true_iff.mp h).2)).symm
    · rfl
  have hnode : (if decide (pub.topic = kPeerTopicCommand) then SessionId.peer else i) = i :=
    hacker true
  rw [Sessions.handleIncomingPublish]
  dsimp only
  rw [hacker, hnode]
  cases answers.read with
  | false => rfl
  | true =>
      generalize (ClimateNode.handleIncomingPublish pb node commands
        (decide (pub.topic = kPeerTopicCommand)) pub.payload answers.bus).1 = handled
      cases handled with
      | ack payload => cases payload <;> rfl
      | relayed down => rfl

end ClimateNode.Gateway
