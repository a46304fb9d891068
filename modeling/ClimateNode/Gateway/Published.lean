import ClimateNode.Gateway.WholeLoop

/-!
What `main` of the gateway publishes: the announcements of `session_serving`, what the
publishing phase takes from the channels, and the Acks of `handle_incoming_publish`.

* `Published`: what is published on a session, with its topic, its QoS and whether it is to
  be retained.  An `Origin` says which messages may come from the channels.
* `adds_next`: **what a step of the main loop adds to a log**; what holds of a log is proved
  from this alone.
* `published_of_run`: it is all there is in the log of any run.
* `WholeLoop.published_of_run`: and where the channels are part of the run, what is taken
  from one was stored there.
* `Published.retained`: only a status is to be retained.
-/

namespace ClimateNode.Gateway

open Automata Wire

/-- Which messages `main` may have taken from a channel. -/
abbrev Origin := (c : ChanId) → c.Msg → Prop

/-- Any at all, where a run says nothing about the channels. -/
def Origin.any : Origin := fun _ _ => True

/-- What `main` publishes on a session. -/
inductive Published (pb : Nanopb) (node : NodeIdentity) (src : Origin) :
    SessionId → Topic → Bytes → Qos → Bool → Prop
  | online : Published pb node src .own (.status .own) (cstr "online") .atLeastOnce true
  | status (st : RelayStatus) (hst : src .relayStatus st) :
      Published pb node src .peer (.status .peer) (statusText st) .atLeastOnce true
  | pending (c : ChanId) (m : c.Msg) (hm : src c m) {payload : Bytes}
      (h : payloadOf pb c m = some payload) :
      Published pb node src c.session c.topic payload c.qos c.retain
  | answer (j i : SessionId) {commands : CommandState} {forPeer : Bool} {message : Bytes}
      {bus : Int} {payload : Bytes}
      (h : (ClimateNode.handleIncomingPublish pb node commands forPeer message bus).1 =
        .ack (some payload)) :
      Published pb node src j (.ack (if forPeer then .peer else i)) payload .atLeastOnce false

/-- Only a status is to be retained, of the node of the session, and of the gateway only that
it is online. -/
lemma Published.retained {pb : Nanopb} {node : NodeIdentity} {src : Origin} {i : SessionId}
    {topic : Topic} {payload : Bytes} {qos : Qos} {retain : Bool}
    (h : Published pb node src i topic payload qos retain) (hretain : retain = true) :
    topic = .status i ∧ (payload = cstr "online" ∨ i = .peer ∧ payload = cstr "offline") := by
  have hword (st : RelayStatus) :
      statusText st = cstr "online" ∨ statusText st = cstr "offline" := by
    cases hon : st.online <;> simp [statusText, hon]
  cases h with
  | online => exact ⟨rfl, .inl rfl⟩
  | status st => exact ⟨rfl, (hword st).imp_right fun h => ⟨rfl, h⟩⟩
  | pending c m _ h =>
      cases c with
      | relayStatus =>
          obtain rfl := Option.some.inj h
          exact ⟨rfl, (hword m).imp_right fun h => ⟨rfl, h⟩⟩
      | telemetry | relayTelemetry | relayAck => cases hretain
  | answer j i h => cases hretain

/-- With more that may come from the channels, more may be published. -/
lemma Published.mono {pb : Nanopb} {node : NodeIdentity} {src src' : Origin} {i : SessionId}
    {topic : Topic} {payload : Bytes} {qos : Qos} {retain : Bool}
    (h : Published pb node src i topic payload qos retain) (hsrc : ∀ c m, src c m → src' c m) :
    Published pb node src' i topic payload qos retain := by
  cases h with
  | online => exact .online
  | status st hst => exact .status st (hsrc .relayStatus st hst)
  | pending c m hm h => exact .pending c m (hsrc c m hm) h
  | answer _ i h => exact .answer _ i h

/-! ### What a step adds to a log -/

/-- What a step takes from the channels has that origin. -/
def Takes (src : Origin) (s : Passes.State) : Passes.Label → Prop
  | .step i answers => i = .peer → (s.sessions i).state = .connecting →
      (s.sessions i).connected = true → ∀ st ∈ answers.status, src .relayStatus st
  | .publish c msg _ _ => ∀ m ∈ msg, src c m
  | _ => True

lemma takes_any (s : Passes.State) (l : Passes.Label) : Takes .any s l := by
  cases l <;> simp [Takes, Origin.any]

/-- A call that no CONNACK brought about. -/
def quiet (pb : Nanopb) (node : NodeIdentity) (src : Origin) (i : SessionId) : Event → Prop
  | .publish param _ => Published pb node src i param.topic param.payload param.qos param.retain
  | .connack result => result ≠ 0
  | _ => True

/-- The session made such calls only. -/
def Adds (pb : Nanopb) (node : NodeIdentity) (src : Origin) (i : SessionId) (s t : Session) :
    Prop :=
  ∃ entries, t.log = s.log ++ entries ∧ ∀ e ∈ entries, quiet pb node src i e.event

section Adds

variable {pb : Nanopb} {node : NodeIdentity} {src : Origin} {i : SessionId} {s t u : Session}

lemma Adds.of_log (h : t.log = s.log) : Adds pb node src i s t := ⟨[], by simp [h], by simp⟩

lemma Adds.refl (s : Session) : Adds pb node src i s s := .of_log rfl

lemma Adds.trans (h : Adds pb node src i s t) (h' : Adds pb node src i t u) :
    Adds pb node src i s u := by
  obtain ⟨es, hlog, hes⟩ := h
  obtain ⟨es', hlog', hes'⟩ := h'
  refine ⟨es ++ es', by rw [hlog', hlog, List.append_assoc], fun e he => ?_⟩
  exact (List.mem_append.mp he).elim (hes e) (hes' e)

/-- One event. -/
lemma Adds.one {e : Event} (he : quiet pb node src i e) (h : t.log = s.log ++ [⟨s.state, e⟩]) :
    Adds pb node src i s t :=
  ⟨_, h, fun _ he' => List.mem_singleton.mp he' ▸ he⟩

lemma adds_publish {topic : Topic} {payload : Bytes} {qos : Qos} {retain : Bool}
    (h : Published pb node src i topic payload qos retain) (rc : ℤ) :
    Adds pb node src i s (s.publish topic payload qos retain rc) := by
  obtain ⟨messageId, hlog⟩ := s.publish_log topic payload qos retain rc
  exact .one (e := .publish ⟨topic, payload, qos, messageId, retain⟩ rc) h hlog

lemma adds_drop (reachedConnack : Bool) (uptime : ℤ) :
    Adds pb node src i s (s.drop reachedConnack uptime) := by
  refine ⟨Session.teardown s.state, s.drop_log _ _, fun e he => ?_⟩
  cases hst : s.state <;> simp_all [Session.teardown, quiet]

lemma adds_retry (now rc uptime : ℤ) : Adds pb node src i s (s.retry now rc uptime) := by
  rw [Session.retry]
  split_ifs
  · exact .one (e := .connect rc) trivial (s.connect_log rc uptime)
  · exact .refl s

lemma adds_input (rc uptime : ℤ) : Adds pb node src i s (s.input rc uptime) := by
  rw [Session.input]
  split_ifs
  · exact adds_drop _ uptime
  · exact .refl s

/-- `session_serving`: the announcement. -/
lemma adds_announce (status : Option RelayStatus) (rc : ℤ)
    (hsrc : i = .peer → ∀ st ∈ status, src .relayStatus st) :
    Adds pb node src i s (s.announce i status rc) := by
  rw [Session.announce.eq_def]
  split
  · exact adds_publish .online rc
  · exact .refl s
  · rename_i st
    split_ifs
    · exact adds_publish (.status st (hsrc rfl st rfl)) rc
    · exact .refl s

lemma adds_serving (status : Option RelayStatus) (publishRc subscribeRc : ℤ)
    (hsrc : i = .peer → ∀ st ∈ status, src .relayStatus st) :
    Adds pb node src i s (s.serving i status publishRc subscribeRc) := by
  let accepted := { s with state := .serving, backoffMs := kBackoffMinMs }
  have hlog : Adds pb node src i s accepted := .of_log rfl
  refine hlog.trans ((adds_announce status publishRc hsrc).trans ?_)
  exact .one (e := .subscribe (commandTopics i) 1 subscribeRc) trivial rfl

lemma adds_step (now : ℤ) (answers : StepAnswers)
    (hsrc : i = .peer → s.state = .connecting → s.connected = true →
      ∀ st ∈ answers.status, src .relayStatus st) :
    Adds pb node src i s (s.step i now answers) := by
  rw [Session.step]
  cases hst : s.state with
  | idle => exact .refl s
  | connecting =>
      dsimp only
      split_ifs with hconn
      · exact adds_serving _ _ _ fun hi => hsrc hi hst hconn
      · exact adds_drop _ _
      · exact adds_drop _ _
      · exact .refl s
  | serving =>
      dsimp only
      split_ifs
      · exact adds_drop _ _
      · exact .refl s
      · exact adds_drop _ _

/-- The publishing phase: what was pending. -/
lemma adds_flush (c : ChanId) (msg : Option c.Msg) (rc uptime : ℤ) (hsrc : ∀ m ∈ msg, src c m) :
    Adds pb node src c.session s (s.flush pb c msg rc uptime) := by
  have hpub : Adds pb node src c.session s (s.publishPending pb c msg rc).2 := by
    rw [Session.publishPending]
    cases hpay : msg.bind (payloadOf pb c) with
    | none => exact .refl s
    | some payload =>
        obtain ⟨m, hmsg, hm⟩ := Option.bind_eq_some_iff.mp hpay
        exact adds_publish (.pending c m (hsrc m hmsg) hm) rc
  rw [Session.flush]
  split_ifs with hst
  · dsimp only
    split_ifs
    · exact hpub.trans (adds_drop _ _)
    · exact hpub
  · exact .refl s

variable {ss : Sessions} {j : SessionId}

lemma adds_on {f : Session → Session} (h : Adds pb node src i (ss i) (f (ss i))) :
    Adds pb node src j (ss j) (ss.on i f j) := by
  by_cases hji : j = i
  · subst hji
    simpa [Sessions.on] using h
  · simpa [Sessions.on, hji] using Adds.refl (ss j)

/-- An arrival is acknowledged and answered. -/
lemma adds_handleIncomingPublish (commands : CommandState) (pub : Arrival)
    (answers : ArrivalAnswers) :
    Adds pb node src j (ss j) ((ss.handleIncomingPublish pb node commands i pub answers).1 j) := by
  have hpuback : Adds pb node src j (ss j) (ss.puback i pub j) := by
    rw [Sessions.puback]
    split_ifs
    · exact adds_on (.one (e := .puback pub.messageId) trivial rfl)
    · exact .refl _
  rw [Sessions.handleIncomingPublish]
  split
  · dsimp only
    split
    · rename_i hack
      exact hpuback.trans (adds_on (adds_publish (.answer _ i hack) _))
    · exact hpuback
  · exact .refl _

/-- **What a step of the main loop adds to a log**, a CONNACK that accepts apart. -/
theorem adds_next {s : Passes.State} {l : Passes.Label} (hsrc : Takes src s l)
    (hl : l ≠ .event j (.connack 0)) :
    Adds pb node src j (s.sessions j) ((Passes.next pb node s l).sessions j) := by
  cases l with
  | top now | clock now => exact .refl _
  | poll revents => cases revents <;> exact .refl _
  | connect i rc uptime => exact adds_on (adds_retry s.now rc uptime)
  | event i evt =>
      cases evt with
      | connack result =>
          by_cases hji : j = i
          · subst hji
            have hne : result ≠ 0 := fun h => hl (by rw [h])
            exact adds_on (.one (e := .connack result) hne (Session.connack_log _ _))
          · simpa [Passes.next, Sessions.mqttEvtHandler, Sessions.on, hji] using Adds.refl _
      | disconnect => exact adds_on (.of_log rfl)
      | puback messageId => exact adds_on (.one (e := .gotPuback messageId) trivial rfl)
      | suback messageId => exact adds_on (.one (e := .gotSuback messageId) trivial rfl)
      | other => exact .refl _
      | publish pub answers => exact adds_handleIncomingPublish _ pub answers
  | input i rc uptime =>
      rw [Passes.next]
      dsimp only
      split_ifs
      · exact adds_on (adds_input rc uptime)
      · exact .refl _
  | step i answers => exact adds_on (adds_step s.now answers hsrc)
  | publish c msg rc uptime =>
      rw [Passes.next]
      dsimp only
      split_ifs
      · exact adds_on (adds_flush c msg rc uptime hsrc)
      · exact .refl _
  | disconnected i => exact adds_on (.of_log rfl)

/-- What a session publishes in a step. -/
lemma published_of_step {s : Passes.State} {l : Passes.Label} (hsrc : Takes src s l)
    {st : SessionState} {param : PublishParam} {rc : ℤ}
    (hmem : ⟨st, .publish param rc⟩ ∈ ((Passes.next pb node s l).sessions j).log) :
    ⟨st, .publish param rc⟩ ∈ (s.sessions j).log ∨
      Published pb node src j param.topic param.payload param.qos param.retain := by
  by_cases hl : l = .event j (.connack 0)
  · have hlog : ((Passes.next pb node s l).sessions j).log =
        (s.sessions j).log ++ [⟨(s.sessions j).state, .connack 0⟩] := by
      simp [hl, Passes.next, Sessions.mqttEvtHandler, Sessions.on]
    rw [hlog] at hmem
    exact .inl (by simpa using hmem)
  · obtain ⟨entries, hlog, hquiet⟩ : Adds pb node src j (s.sessions j)
      ((Passes.next pb node s l).sessions j) := adds_next hsrc hl
    rw [hlog] at hmem
    exact (List.mem_append.mp hmem).imp_right (hquiet _)

/-- **What is in the log of a session** in any run, as far as it is published. -/
theorem published_of_run {s : Passes.State} {ls : List Passes.Label}
    (hrun : (Passes.machine pb node).Run ls s) {st : SessionState} {param : PublishParam} {rc : ℤ}
    (hmem : ⟨st, .publish param rc⟩ ∈ (s.sessions j).log) :
    Published pb node .any j param.topic param.payload param.qos param.retain := by
  induction hrun with
  | nil => simp [Passes.machine, Passes.boot, Session.initial] at hmem
  | @snoc ls s l _ _ ih => exact (published_of_step (takes_any s l) hmem).elim ih id

end Adds

/-! ### Where it comes from -/

namespace WholeLoop

variable {pb : Nanopb} {node : NodeIdentity} {s : State} {l : Label}

/-- What was stored on the channels; of a status it does not matter here. -/
def State.stored (s : State) : Origin := fun c m => c = .relayStatus ∨ m ∈ (s.chan c).history

/-- A channel allows what is done to it, and only the status channel is ever read
unannounced. -/
lemma enabled_of_effect (hl : enabled s l) {c : ChanId} {b : Doorbell.Label c.Msg}
    (h : effect pb s l = some ⟨c, b⟩) :
    Doorbell.enabled (s.chan c) b ∧ (c ≠ .relayStatus → Doorbell.announced (s.chan c) b) := by
  cases l with
  | notify | unlock =>
      obtain ⟨rfl, heq⟩ := Sigma.mk.inj (Option.some.inj h)
      obtain rfl := eq_of_heq heq
      exact ⟨hl, fun _ => trivial⟩
  | store | create | drain | read =>
      obtain ⟨rfl, heq⟩ := Sigma.mk.inj (Option.some.inj h)
      obtain rfl := eq_of_heq heq
      exact ⟨hl.2, fun _ => trivial⟩
  | peek =>
      obtain ⟨rfl, heq⟩ := Sigma.mk.inj (Option.some.inj h)
      obtain rfl := eq_of_heq heq
      exact ⟨hl.2, fun hc => absurd rfl hc⟩
  | call l =>
      cases l with
      | step i answers =>
          cases i with
          | own => simp [effect] at h
          | peer =>
              obtain ⟨st, htaken, heq⟩ := Option.map_eq_some_iff.mp h
              have hhold : (s.chan .relayStatus).progress = .holding := by
                by_contra hne
                simp [State.taken, hne] at htaken
              obtain ⟨rfl, heq⟩ := Sigma.mk.inj heq
              obtain rfl := eq_of_heq heq
              split_ifs <;> exact ⟨hhold, fun _ => trivial⟩
      | publish c' msg rc uptime =>
          simp only [effect] at h
          split at h
          · cases h
          · rename_i hprog
            obtain ⟨rfl, heq⟩ := Sigma.mk.inj (Option.some.inj h)
            obtain rfl := eq_of_heq heq
            exact ⟨hprog, fun _ => trivial⟩
          · rename_i hprog
            obtain ⟨rfl, heq⟩ := Sigma.mk.inj (Option.some.inj h)
            obtain rfl := eq_of_heq heq
            split_ifs <;> exact ⟨hprog, fun _ => trivial⟩
      | _ => simp [effect] at h

variable (pb node) in
/-- **A channel of the loop is a doorbell**, read only when it rang, the status apart. -/
theorem chan_simulates {c : ChanId} (hc : c ≠ .relayStatus) :
    ((Doorbell.machine c.Msg .counting).restrict Doorbell.announced).Simulates (machine pb node)
      fun s => s.chan c where
  init := .init _
  step s l hl := by
    by_cases hact : ∃ b, effect pb s l = some ⟨c, b⟩
    · obtain ⟨b, hb⟩ := hact
      obtain ⟨hen, hann⟩ := enabled_of_effect hl hb
      exact .inr ⟨b, ⟨hen, hann hc⟩, chan_of_effect hb⟩
    · exact .inl (chan_of_not_effect (not_exists.mp hact))

/-- What `main` takes was stored. -/
lemma stored_of_taken {ls : List Label} (hrun : (machine pb node).Run ls s) {c : ChanId}
    {m : c.Msg} (h : s.taken c = some m) : s.stored c m := by
  by_cases hc : c = .relayStatus
  · exact .inl hc
  · obtain ⟨hsound, hpos⟩ :=
      (chan_simulates pb node hc).invariant (Doorbell.positive_inductive .counting) hrun
    rw [State.taken] at h
    split_ifs at h with hhold
    obtain rfl := Option.some.inj h
    exact .inr (hsound.mem_history hpos hhold)

/-- A call takes from the channels what is in hand. -/
lemma takes_of_enabled {ls : List Label} (hrun : (machine pb node).Run ls s) {l : Passes.Label}
    (hl : enabled s (.call l)) : Takes s.stored s.loop l := by
  obtain ⟨-, hcall, hans⟩ := hl
  cases l with
  | step i answers => exact fun _ _ _ _ _ => .inl rfl
  | publish c msg rc uptime => exact fun m hm => stored_of_taken hrun (hans.1 ▸ hm)
  | _ => trivial

/-- What was stored stays. -/
lemma stored_next (c : ChanId) (m : c.Msg) (h : s.stored c m) : (next pb node s l).stored c m := by
  refine h.imp_right fun hmem => ?_
  by_cases hstore : ∃ m', l = .store c m'
  · obtain ⟨m', rfl⟩ := hstore
    rw [chan_of_effect (b := .store m') rfl]
    exact List.mem_append_left _ hmem
  · rwa [history_of_ne_store (not_exists.mp hstore)]

/-- **What is in the log of a session**, in any run of the loop and its channels: what comes
from a channel was stored there. -/
theorem published_of_run {ls : List Label} (hrun : (machine pb node).Run ls s) {j : SessionId}
    {st : SessionState} {param : PublishParam} {rc : ℤ}
    (hmem : ⟨st, .publish param rc⟩ ∈ (s.loop.sessions j).log) :
    Published pb node s.stored j param.topic param.payload param.qos param.retain := by
  induction hrun with
  | nil => simp [machine, boot, Passes.boot, Session.initial] at hmem
  | @snoc ls s l hrun hl ih =>
      refine Published.mono ?_ fun c m => stored_next (l := l) c m
      cases l with
      | call l => exact (published_of_step (takes_of_enabled hrun hl) hmem).elim ih id
      | _ => exact ih hmem

end WholeLoop

end ClimateNode.Gateway
