import ClimateNode.Gateway.PollSet

/-!
The two sessions of `main` in `gateway/src/main.cpp` do not interfere.  They share
the loop, its clock, the poll set and the handling of incoming commands; what one
of them becomes is settled by what it is told itself.

* `Session.fields`: a session without its log; `Blind` the operations that only
  look at it.
* `ownInput`: what of a run concerns a session.
* `sessions_independent`: **two runs that treat a session alike leave it alike**.
-/

namespace ClimateNode.Gateway

open Automata Wire

/-! ### What the log does not decide -/

namespace Session

/-- The fields of a session, its log left out. -/
def fields (s : Session) : Session := { s with log := [] }

/-- An operation that does not look at the log. -/
def Blind (f : Session → Session) : Prop := ∀ s log, (f { s with log := log }).fields = (f s).fields

lemma fields_log (s : Session) (log : List Entry) : { s with log := log }.fields = s.fields := rfl

/-- Sessions with the same fields differ in their logs. -/
lemma exists_log {s t : Session} (h : s.fields = t.fields) : t = { s with log := t.log } := by
  cases s
  cases t
  simp only [fields, Session.mk.injEq, and_true] at h
  simp [h]

lemma Blind.congr {f : Session → Session} (hf : Blind f) {s t : Session}
    (h : s.fields = t.fields) : (f s).fields = (f t).fields :=
  calc (f s).fields = (f { s with log := t.log }).fields := (hf s t.log).symm
    _ = (f t).fields := by rw [← exists_log h]

lemma Blind.comp {f g : Session → Session} (hg : Blind g) (hf : Blind f) :
    Blind fun s => g (f s) :=
  fun s log => hg.congr (hf s log)

/-- Which of two operations it is may depend on anything but the log. -/
lemma Blind.ite {p : Session → Prop} [DecidablePred p] {f g : Session → Session} (hf : Blind f)
    (hg : Blind g) (hp : ∀ s log, p { s with log := log } ↔ p s) :
    Blind fun s => if p s then f s else g s := by
  intro s log
  by_cases h : p s
  · simpa [h, hp s log] using hf s log
  · simpa [h, hp s log] using hg s log

lemma blind_id : Blind id := fun _ _ => rfl

lemma blind_emit (e : Event) : Blind fun s => s.emit e := fun _ _ => rfl

lemma blind_publish (topic : Topic) (payload : Bytes) (qos : Qos) (retain : Bool) (rc : ℤ) :
    Blind fun s => s.publish topic payload qos retain rc := by
  intro s log
  simp only [publish]
  split_ifs <;> rfl

lemma blind_drop (reachedConnack : Bool) (uptime : ℤ) :
    Blind fun s => s.drop reachedConnack uptime := by
  intro s log
  cases h : s.state <;> simp only [drop, h] <;> rfl

lemma blind_connack (result : ℤ) : Blind fun s => s.connack result := by
  intro s log
  simp only [connack]
  split_ifs <;> rfl

lemma blind_serving (i : SessionId) (status : Option RelayStatus) (publishRc subscribeRc : ℤ) :
    Blind fun s => s.serving i status publishRc subscribeRc := by
  have hannounce : Blind fun s => s.announce i status publishRc := by
    intro s log
    cases i with
    | own => exact blind_publish _ _ _ _ _ s log
    | peer =>
        cases status with
        | none => rfl
        | some st =>
            simp only [announce]
            split_ifs
            · exact blind_publish _ _ _ _ _ s log
            · rfl
  have haccept : Blind fun s => { s with state := .serving, backoffMs := kBackoffMinMs } :=
    fun _ _ => rfl
  exact (blind_emit _).comp (hannounce.comp haccept)

lemma blind_retry (now rc uptime : ℤ) : Blind fun s => s.retry now rc uptime := by
  refine Blind.ite ?_ blind_id fun _ _ => Iff.rfl
  intro s log
  by_cases hrc : rc = 0
  · simp only [connect, hrc, ne_eq, not_true_eq_false, if_false]
    rfl
  · simp only [connect, ne_eq, hrc, not_false_eq_true, if_true]
    rfl

lemma blind_input (rc uptime : ℤ) : Blind fun s => s.input rc uptime := by
  refine Blind.ite (p := fun _ => rc ≠ 0) ?_ blind_id fun _ _ => Iff.rfl
  exact fun s log => blind_drop (s.state = .serving) uptime s log

lemma blind_step (i : SessionId) (now : ℤ) (answers : StepAnswers) :
    Blind fun s => s.step i now answers := by
  rintro ⟨state, connected, connectFailed, backoffMs, retryAt, connackDue, nextMessageId, log₀⟩ log
  have hdrop (state : SessionState) (b : Bool) := blind_drop b answers.uptime
    ⟨state, connected, connectFailed, backoffMs, retryAt, connackDue, nextMessageId, log₀⟩ log
  cases state with
  | idle => rfl
  | connecting =>
      have hserving := blind_serving i answers.status answers.publish answers.subscribe
        ⟨.connecting, connected, connectFailed, backoffMs, retryAt, connackDue, nextMessageId,
          log₀⟩ log
      simp only [step]
      split_ifs
      · exact hserving
      · exact hdrop .connecting false
      · exact hdrop .connecting false
      · rfl
  | serving =>
      simp only [step]
      split_ifs
      · exact hdrop .serving true
      · rfl
      · exact hdrop .serving true

lemma blind_flush (pb : Nanopb) (c : ChanId) (msg : Option c.Msg) (rc uptime : ℤ) :
    Blind fun s => s.flush pb c msg rc uptime := by
  refine Blind.ite ?_ blind_id fun _ _ => Iff.rfl
  intro s log
  cases hmsg : msg.bind (payloadOf pb c) with
  | none => simp only [publishPending, hmsg, ne_eq, not_true_eq_false, if_false, fields_log]
  | some payload =>
      have hpub := blind_publish c.topic payload c.qos c.retain rc
      simp only [publishPending, hmsg]
      split_ifs
      · exact (blind_drop true uptime).comp hpub s log
      · exact hpub s log

end Session

/-! ### Arrivals -/

section Arrivals

variable (node : NodeIdentity) (pub : Arrival) (answers : ArrivalAnswers) (i : SessionId)

/-- What the gateway has executed so far does not decide whether a message is
answered by an Ack or relayed. -/
lemma handleIncomingPublish_answer (forPeer : Bool) (message : Bytes) (bus : Int) :
    (∀ st, ∃ payload, (ClimateNode.handleIncomingPublish Nanopb.proto3 node st forPeer message
      bus).1 = .ack (some payload)) ∨
    ∃ down, ∀ st, (ClimateNode.handleIncomingPublish Nanopb.proto3 node st forPeer message bus).1 =
      .relayed down := by
  cases hdec : (decodePublish Nanopb.proto3 message).1 with
  | false =>
      refine .inl fun st => ?_
      obtain ⟨payload, hpayload⟩ := acksEncode_proto3 0 .malformed (some (cstr
        (if incomingPayloadSize < message.length then "payload too large" else "decode failed")))
        none (by simp)
      exact ⟨payload, by rw [handleIncomingPublish_malformed forPeer hdec, hpayload]⟩
  | true =>
      cases forPeer with
      | true =>
          simp only [handleIncomingPublish_forPeer hdec]
          cases forwardToPeer (message.take incomingPayloadSize)
            (decodePublish Nanopb.proto3 message).2.sequence bus with
          | ok down => exact .inr ⟨down, fun _ => rfl⟩
          | error detail =>
              obtain ⟨payload, hpayload⟩ := acksEncode_proto3
                (decodePublish Nanopb.proto3 message).2.sequence .failed (some (cstr detail)) none
                (by simp)
              exact .inl fun st => ⟨payload, by simp only [hpayload]⟩
      | false =>
          refine .inl fun st => ?_
          simp only [handleIncomingPublish_own hdec]
          obtain ⟨payload, hpayload⟩ := acksEncode_proto3 _ _ _ _ (resultInfo_terminated _)
          exact ⟨payload, congrArg Incoming.ack hpayload⟩

/-- What a session becomes by a message is settled by its own fields and by the
message, whatever was executed before. -/
lemma handleIncomingPublish_fields (htopic : pub.topic = kPeerTopicCommand → i = .peer)
    {ss tt : Sessions} (st st' : CommandState) (h : (ss i).fields = (tt i).fields) :
    ((ss.handleIncomingPublish Nanopb.proto3 node st i pub answers).1 i).fields =
      ((tt.handleIncomingPublish Nanopb.proto3 node st' i pub answers).1 i).fields := by
  have hacker : (if (decodePublish Nanopb.proto3 pub.payload).1 &&
      decide (pub.topic = kPeerTopicCommand) then SessionId.peer else i) = i := by
    split_ifs with hpeer
    · exact (htopic (by simpa using And.right (by simpa using hpeer))).symm
    · rfl
  have hpuback : ((ss.puback i pub) i).fields = ((tt.puback i pub) i).fields := by
    simp only [Sessions.puback]
    split_ifs
    · simpa [Sessions.on] using (Session.blind_emit _).congr h
    · exact h
  have hpublish (topic : Topic) (payload payload' : Bytes) (rc : ℤ) :
      (((ss.puback i pub) i).publish topic payload .atLeastOnce false rc).fields =
        (((tt.puback i pub) i).publish topic payload' .atLeastOnce false rc).fields :=
    -- the payload only goes to the log
    (Session.blind_publish topic payload .atLeastOnce false rc).congr hpuback
  by_cases hread : answers.read = true
  · simp only [Sessions.handleIncomingPublish, hacker, hread, if_true]
    obtain hans | ⟨down, hdown⟩ := handleIncomingPublish_answer node
      (decide (pub.topic = kPeerTopicCommand)) pub.payload answers.bus
    · obtain ⟨payload, hpayload⟩ := hans st
      obtain ⟨payload', hpayload'⟩ := hans st'
      simp only [hpayload, hpayload']
      simpa [Sessions.on] using hpublish _ payload payload' answers.publish
    · simp only [hdown]
      exact hpuback
  · simpa [Sessions.handleIncomingPublish, hread] using h

end Arrivals

/-! ### Two runs -/

namespace Passes

/-- The broker delivers the commands of each node on its own session. -/
def brokerSeparates (_ : State) : Label → Prop
  | .event i (.publish pub _) =>
      (pub.topic = kTopicCommand → i = .own) ∧ (pub.topic = kPeerTopicCommand → i = .peer)
  | _ => True

instance (s : State) (l : Label) : Decidable (brokerSeparates s l) := by
  apply l.casesOn (motive := fun l => Decidable (brokerSeparates s l)) <;> intros
  case event i evt =>
    apply evt.casesOn (motive := fun evt => Decidable (brokerSeparates s (.event i evt))) <;>
      intros <;> dsimp only [brokerSeparates] <;> infer_instance
  all_goals exact inferInstanceAs (Decidable True)

/-- The readiness of the descriptors of a session. -/
def ownReady (i : SessionId) (revents : Descriptor → Bool) (d : Descriptor) : Bool :=
  decide (d.session = i) && revents d

/-- What of a run concerns a session: the clock, the readiness of its descriptors,
and the calls made for it with their answers. -/
def ownInput (i : SessionId) : Label → Option Label
  | .top now => some (.top now)
  | .clock now => some (.clock now)
  | .poll revents => some (.poll (revents.map (ownReady i)))
  | .connect j rc uptime => if j = i then some (.connect j rc uptime) else none
  | .event j evt => if j = i then some (.event j evt) else none
  | .input j rc uptime => if j = i then some (.input j rc uptime) else none
  | .step j answers => if j = i then some (.step j answers) else none
  | .publish c msg rc uptime => if c.session = i then some (.publish c msg rc uptime) else none
  | .disconnected j => if j = i then some (.disconnected j) else none

/-- Two states that session `i` cannot tell apart. -/
structure Alike (i : SessionId) (s t : State) : Prop where
  fields : (s.sessions i).fields = (t.sessions i).fields
  now : s.now = t.now
  fds : ∀ d, d.session = i → (d ∈ s.fds ↔ d ∈ t.fds)
  revents : ∀ d, d.session = i → s.revents d = t.revents d

section Runs

variable {node : NodeIdentity} {i j : SessionId} {s t : State}

lemma Alike.refl (i : SessionId) (s : State) : Alike i s s :=
  ⟨rfl, rfl, fun _ _ => Iff.rfl, fun _ _ => rfl⟩

lemma Alike.symm (h : Alike i s t) : Alike i t s :=
  ⟨h.fields.symm, h.now.symm, fun d hd => (h.fds d hd).symm, fun d hd => (h.revents d hd).symm⟩

lemma Alike.state (h : Alike i s t) : (s.sessions i).state = (t.sessions i).state := by
  have hst : (s.sessions i).fields.state = (t.sessions i).fields.state := by rw [h.fields]
  exact hst

lemma Alike.readable (h : Alike i s t) {d : Descriptor} (hd : d.session = i) :
    s.readable d ↔ t.readable d := by
  rw [State.readable, State.readable, h.fds d hd, h.revents d hd]

/-- What a session contributes to the poll set is its own affair. -/
lemma Alike.mem_pollSet (h : Alike i s t) {d : Descriptor} (hd : d.session = i) :
    d ∈ pollSet s.sessions ↔ d ∈ pollSet t.sessions := by
  have hst := h.state
  rw [Gateway.mem_pollSet, Gateway.mem_pollSet]
  cases d with
  | sock j =>
      obtain rfl : j = i := hd
      simp only [Descriptor.polled, hst]
  | evt c =>
      obtain rfl : c.session = i := hd
      simp only [Descriptor.polled, hst]

/-- The sessions after what is done to one of them. -/
lemma Alike.on (h : Alike i s t) {f : Session → Session} (hf : Session.Blind f) :
    (s.sessions.on i f i).fields = (t.sessions.on i f i).fields := by
  simpa [Sessions.on] using hf.congr h.fields

/-- What is done to the other session does not matter. -/
lemma Alike.other (h : Alike i s t) {s' : State} (hsess : s'.sessions i = s.sessions i)
    (hnow : s'.now = s.now) (hfds : s'.fds = s.fds) (hrev : s'.revents = s.revents) :
    Alike i s' t where
  fields := by rw [hsess, h.fields]
  now := hnow.trans h.now
  fds := by rw [hfds]; exact h.fds
  revents := by rw [hrev]; exact h.revents

/-- Two labels a session cannot tell apart are one, or two polls. -/
lemma eq_or_poll {a b : Label} (h : ownInput i a = ownInput i b) (hsome : (ownInput i a).isSome) :
    a = b ∨ ∃ r r', a = .poll r ∧ b = .poll r' ∧ r.map (ownReady i) = r'.map (ownReady i) := by
  have hown {l k : Label} (hl : ownInput i l = some k) :
      l = k ∨ ∃ r, l = .poll r ∧ k = .poll (r.map (ownReady i)) := by
    cases l <;> simp only [ownInput, Option.some.injEq, Option.ite_none_right_eq_some] at hl
    case poll r => exact .inr ⟨r, rfl, hl.symm⟩
    case top | clock => exact .inl hl
    all_goals exact .inl hl.2
  obtain ⟨k, hk⟩ := Option.isSome_iff_exists.mp hsome
  have hk' : ownInput i b = some k := h ▸ hk
  rcases hown hk with rfl | ⟨r, rfl, rfl⟩
  · rcases hown hk' with rfl | ⟨r', rfl, hr'⟩
    · exact .inl rfl
    · subst hr'
      exact .inr ⟨_, r', rfl, rfl, Label.poll.inj (Option.some.inj (hk.trans rfl))⟩
  · rcases hown hk' with rfl | ⟨r', rfl, hr'⟩
    · exact .inr ⟨r, _, rfl, rfl, (Label.poll.inj (Option.some.inj hk')).symm⟩
    · exact .inr ⟨r, r', rfl, rfl, Label.poll.inj hr'⟩

variable {l : Label}

/-- A label that does not concern a session leaves it alone. -/
lemma sessions_unseen (hl : ownInput i l = none) (hsep : brokerSeparates s l) :
    (next Nanopb.proto3 node s l).sessions i = s.sessions i := by
  have hother {j : SessionId} (hj : j ≠ i) (f : Session → Session) :
      s.sessions.on j f i = s.sessions i := by simp [Sessions.on, hj.symm]
  cases l <;> simp only [ownInput, ite_eq_right_iff, reduceCtorEq, imp_false] at hl <;>
    simp only [next]
  case connect j rc uptime => exact hother hl _
  case step j answers => exact hother hl _
  case disconnected j => exact hother hl _
  case input j rc uptime =>
    split_ifs
    · exact hother hl _
    · rfl
  case publish c msg rc uptime =>
    split_ifs
    · exact hother hl _
    · rfl
  case event j evt =>
    cases evt with
    | publish pub answers =>
        exact handleIncomingPublish_other _ node _ _ pub answers hsep.2 (Ne.symm hl)
    | other => rfl
    | connack result | disconnect | puback messageId | suback messageId =>
        simp only [Sessions.mqttEvtHandler]
        exact hother hl _

/-- A label that does concern it does the same in states it cannot tell apart. -/
lemma fields_seen (hl : (ownInput i l).isSome) (hsep : brokerSeparates s l) (h : Alike i s t) :
    ((next Nanopb.proto3 node s l).sessions i).fields =
      ((next Nanopb.proto3 node t l).sessions i).fields := by
  have hown {j : SessionId} (hj : j = i) {f : Session → Session} (hf : Session.Blind f) :
      (s.sessions.on j f i).fields = (t.sessions.on j f i).fields := hj ▸ h.on hf
  cases l <;> simp only [ownInput, Option.isSome_some, Option.isSome_ite] at hl <;>
    simp only [next]
  case top | clock => exact h.fields
  case poll r => cases r <;> exact h.fields
  case connect j rc uptime =>
    rw [h.now]
    exact hown hl (Session.blind_retry t.now rc uptime)
  case step j answers =>
    rw [h.now]
    exact hown hl (Session.blind_step j t.now answers)
  case disconnected j => exact hown hl fun _ _ => rfl
  case input j rc uptime =>
    have hready := h.readable (d := .sock j) hl
    by_cases hs : s.readable (.sock j)
    · rw [if_pos hs, if_pos (hready.mp hs)]
      exact hown hl (Session.blind_input rc uptime)
    · rw [if_neg hs, if_neg (mt hready.mpr hs)]
      exact h.fields
  case publish c msg rc uptime =>
    have hready := h.readable (d := .evt c) hl
    by_cases hs : s.readable (.evt c)
    · rw [if_pos hs, if_pos (hready.mp hs)]
      exact hown hl (Session.blind_flush Nanopb.proto3 c msg rc uptime)
    · rw [if_neg hs, if_neg (mt hready.mpr hs)]
      exact h.fields
  case event j evt =>
    cases evt with
    | publish pub answers =>
        obtain rfl : j = i := hl
        exact handleIncomingPublish_fields node pub answers j hsep.2 _ _ h.fields
    | other => exact h.fields
    | connack result => exact hown hl (Session.blind_connack result)
    | disconnect => exact hown hl fun _ _ => rfl
    | puback messageId => exact hown hl (Session.blind_emit _)
    | suback messageId => exact hown hl (Session.blind_emit _)

/-- The poll set is assembled and answered alike. -/
lemma Alike.poll (h : Alike i s t) {r r' : Option (Descriptor → Bool)}
    (hr : r.map (ownReady i) = r'.map (ownReady i)) :
    Alike i (next Nanopb.proto3 node s (.poll r)) (next Nanopb.proto3 node t (.poll r')) := by
  cases r with
  | none =>
      obtain rfl : r' = none := by cases r' <;> simp_all
      exact ⟨h.fields, h.now, fun d hd => h.mem_pollSet hd, h.revents⟩
  | some revents =>
      obtain ⟨revents', rfl⟩ : ∃ x, r' = some x := by cases r' <;> simp_all
      refine ⟨h.fields, h.now, fun d hd => h.mem_pollSet hd, fun d hd => ?_⟩
      have hd' : revents d = revents' d := by
        simpa [ownReady, hd] using congrFun (Option.some.inj hr) d
      exact hd'

end Runs

/-- **One step at a time**: what a session is not told leaves it alone, and what
it is told does the same to it in either run. -/
theorem ownInput_unwinding (node : NodeIdentity) (i : SessionId) :
    ((machine Nanopb.proto3 node).restrict brokerSeparates).Unwinding (ownInput i) (Alike i) where
  init := Alike.refl i _
  symm _ _ h := h.symm
  unseen s t l hl hen h := by
    refine h.other (sessions_unseen hl hen.2) ?_ ?_ ?_ <;>
      cases l <;> first | rfl | simp [ownInput] at hl
  seen s t a b hab hsome ha _ h := by
    rcases eq_or_poll hab hsome with rfl | ⟨r, r', rfl, rfl, hr⟩
    · have hfields : ((next Nanopb.proto3 node s a).sessions i).fields =
          ((next Nanopb.proto3 node t a).sessions i).fields := fields_seen hsome ha.2 h
      cases a with
      | top now | clock now => exact ⟨hfields, rfl, h.fds, h.revents⟩
      | poll r => exact h.poll rfl
      | _ => exact ⟨hfields, h.now, h.fds, h.revents⟩
    · exact h.poll hr

/-- What `main` reads at the slots of the array is what the descriptors are told,
wherever the states of the sessions put them. -/
lemma readable_poll (node : NodeIdentity) (s : State) (answers : ℕ → Bool) (d : Descriptor) :
    (next Nanopb.proto3 node s (.poll (some fun d =>
      answers ((pollSet s.sessions).idxOf d)))).readable d ↔ readyAt s.sessions answers d :=
  (readyAt_iff s.sessions answers d).symm

/-- **The sessions do not interfere**: in runs in which the broker delivers the
commands of each node on its own session, two runs that agree on the clock, on the
readiness of the descriptors of a session and on the calls made for it leave it
with the same fields, so that they are a function of these; and the readiness is
that of its own descriptors, whichever slots they have. -/
theorem sessions_independent (node : NodeIdentity) (i : SessionId) {ls₁ ls₂ : List Label}
    {s₁ s₂ : State} (h₁ : ((machine Nanopb.proto3 node).restrict brokerSeparates).Run ls₁ s₁)
    (h₂ : ((machine Nanopb.proto3 node).restrict brokerSeparates).Run ls₂ s₂)
    (heq : ls₁.filterMap (ownInput i) = ls₂.filterMap (ownInput i)) :
    (s₁.sessions i).fields = (s₂.sessions i).fields ∧
    (∃ evolution : List Label → Session,
      ∀ ls s, ((machine Nanopb.proto3 node).restrict brokerSeparates).Run ls s →
        (s.sessions i).fields = evolution (ls.filterMap (ownInput i))) ∧
    ∀ s answers d, (next Nanopb.proto3 node s (.poll (some fun d =>
      answers ((pollSet s.sessions).idxOf d)))).readable d ↔ readyAt s.sessions answers d := by
  have hU := ownInput_unwinding node i
  refine ⟨(hU.runs h₁ h₂ heq).fields, ?_, readable_poll node⟩
  exact hU.function (fun s => (s.sessions i).fields) fun s t h => h.fields

/-- A pass in which the session of the peer is accepted too, and loses its
connection at once. -/
def peerBusyPass : List Label :=
  [.top 0, .connect .own 0 5, .connect .peer 0 6, .poll (some fun d =>
    d == .sock .own || d == .sock .peer),
    .event .own (.connack 0), .input .own 0 0, .event .peer (.connack 5), .event .peer .disconnect,
    .input .peer (-104) 7, .clock 7, .step .own ⟨none, 0, 0, 0, 0⟩, .step .peer ⟨none, 0, 0, 0, 0⟩,
    .publish .telemetry none 0 0, .publish .relayTelemetry none 0 0, .publish .relayAck none 0 0,
    .publish .relayStatus none 0 0]

/-- The own session serves after the pass, whether the peer's connected or not. -/
theorem peerBusyPass_independent : ∃ s₁ s₂,
    ((machine Nanopb.proto3 ⟨cstr "nucleo_h753zi", cstr "nucleo-1"⟩).restrict
      brokerSeparates).Run firstPass s₁ ∧
    ((machine Nanopb.proto3 ⟨cstr "nucleo_h753zi", cstr "nucleo-1"⟩).restrict
      brokerSeparates).Run peerBusyPass s₂ ∧
    (s₁.sessions .peer).connectFailed = false ∧ (s₂.sessions .peer).connectFailed = true ∧
    (s₁.sessions .own).fields = (s₂.sessions .own).fields := by
  have h₁ : ((machine Nanopb.proto3 ⟨cstr "nucleo_h753zi", cstr "nucleo-1"⟩).restrict
    brokerSeparates).Run firstPass _ := Machine.run_of_exec rfl
  have h₂ : ((machine Nanopb.proto3 ⟨cstr "nucleo_h753zi", cstr "nucleo-1"⟩).restrict
    brokerSeparates).Run peerBusyPass _ := Machine.run_of_exec rfl
  refine ⟨_, _, h₁, h₂, rfl, rfl, (sessions_independent _ .own h₁ h₂ ?_).1⟩
  have hready : ownReady .own (fun d => d == .sock .own) =
      ownReady .own fun d => d == .sock .own || d == .sock .peer := by
    funext d
    cases d with
    | sock j => cases j <;> rfl
    | evt c => cases c <;> rfl
  simp [firstPass, peerBusyPass, ownInput, ChanId.session, hready]

end Passes

end ClimateNode.Gateway
