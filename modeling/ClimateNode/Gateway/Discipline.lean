import ClimateNode.Automata.Monitor
import ClimateNode.Gateway.Session

/-!
The order of the calls into the MQTT library on one session, read off its log by a
monitor: opened, accepted, torn down.

* `Phase`, `phaseStep`: the monitor.
* `disciplined_inductive`: the log of a session whose sends go out while it serves
  reads through, and the phase it ends in fits the session.
* `SendsAccepted`, `TornDownOnce`: what a log that reads through says.
* `subscribed_inductive`: a connection that subscribed is past its CONNACK.
-/

namespace ClimateNode.Gateway

open Automata Monitor Wire

/-! ### Events -/

namespace Event

/-- `mqtt_connect`, whatever it answered. -/
def opens : Event → Bool
  | .connect _ => true
  | _ => false

/-- `mqtt_abort` or `mqtt_disconnect`. -/
def tearsDown : Event → Bool
  | .abort | .disconnect => true
  | _ => false

/-- `mqtt_publish`, `mqtt_subscribe` or `mqtt_publish_qos1_ack`. -/
def sends : Event → Bool
  | .publish _ _ | .subscribe _ _ _ | .puback _ => true
  | _ => false

end Event

/-! ### The monitor -/

/-- Where a log stands: no connection, or one whose CONNACK came with result zero
or has yet to. -/
inductive Phase where
  | closed
  | opened (accepted : Bool)
  deriving DecidableEq, Repr

/-- What may come next. -/
def phaseStep : Phase → Entry → Option Phase
  | .closed, ⟨.idle, .connect rc⟩ => some (if rc = 0 then .opened false else .closed)
  | .opened accepted, ⟨.connecting, event⟩ =>
      match event with
      | .connack result => some (.opened (accepted || result = 0))
      | .abort => some .closed
      | .gotPuback _ | .gotSuback _ => some (.opened accepted)
      | _ => none
  | .opened true, ⟨.serving, event⟩ =>
      match event with
      | .disconnect => some .closed
      | .connect _ | .abort => none
      | _ => some (.opened true)
  | _, _ => none

/-- The phase of a log. -/
def phaseOf (log : List Entry) : Option Phase := read phaseStep .closed log

/-- A session in a phase. -/
def Phase.Fits (s : Session) : Phase → Prop
  | .closed => s.state = .idle
  | .opened accepted =>
      (s.state = .connecting ∧ (s.connected = true → accepted = true)) ∨
        (s.state = .serving ∧ accepted = true)

/-- The log reads through, and the backoff is within its bounds. -/
structure Disciplined (s : Session) : Prop where
  phase : ∃ p, phaseOf s.log = some p ∧ p.Fits s
  backoff : kBackoffMinMs ≤ s.backoffMs ∧ s.backoffMs ≤ kBackoffMaxMs

/-- Reading on. -/
lemma phaseOf_append {log : List Entry} {p : Phase} (h : phaseOf log = some p)
    (entries : List Entry) : phaseOf (log ++ entries) = read phaseStep p entries := by
  rw [phaseOf, read_append, ← phaseOf, h, Option.bind_some]

/-- What an operation has to show of the entries it logs. -/
lemma Disciplined.extend {s t : Session} (h : Disciplined s) (entries : List Entry)
    (hlog : t.log = s.log ++ entries)
    (hread : ∀ p : Phase, p.Fits s → ∃ q, read phaseStep p entries = some q ∧ q.Fits t)
    (hback : kBackoffMinMs ≤ t.backoffMs ∧ t.backoffMs ≤ kBackoffMaxMs) : Disciplined t := by
  obtain ⟨p, hp, hfits⟩ := h.phase
  obtain ⟨q, hq, hfits'⟩ := hread p hfits
  exact ⟨⟨q, by rw [hlog, phaseOf_append hp, hq], hfits'⟩, hback⟩

/-- The backoff after giving up. -/
lemma Disciplined.drop_backoff {s : Session} (h : Disciplined s) (reachedConnack : Bool)
    (uptime : ℤ) : kBackoffMinMs ≤ (s.drop reachedConnack uptime).backoffMs ∧
      (s.drop reachedConnack uptime).backoffMs ≤ kBackoffMaxMs := by
  have hback := h.backoff
  rw [Session.drop_backoffMs]
  simp only [kBackoffMinMs, kBackoffMaxMs] at hback ⊢
  split_ifs <;> omega

/-! ### What each operation does to the phase -/

section Steps

variable {s : Session}

lemma disciplined_drop (h : Disciplined s) (reachedConnack : Bool) (uptime : ℤ) :
    Disciplined (s.drop reachedConnack uptime) := by
  refine h.extend (Session.teardown s.state) (s.drop_log _ _) ?_ (h.drop_backoff _ _)
  rintro (_ | accepted) hfits
  · rw [show s.state = .idle from hfits]
    exact ⟨.closed, rfl, rfl⟩
  · rcases hfits with ⟨hst, -⟩ | ⟨hst, rfl⟩
    · rw [hst]
      exact ⟨.closed, rfl, rfl⟩
    · rw [hst]
      exact ⟨.closed, rfl, rfl⟩

lemma disciplined_connect (h : Disciplined s) (hidle : s.state = .idle) (rc uptime : ℤ) :
    Disciplined (s.connect rc uptime) := by
  by_cases hrc : rc = 0
  · refine h.extend [⟨.idle, .connect rc⟩] (by simp [Session.connect, hrc, hidle]) ?_ ?_
    · rintro (_ | accepted) hfits
      · exact ⟨.opened false, by simp [phaseStep, hrc], .inl (by simp [Session.connect, hrc])⟩
      · simp [Phase.Fits, hidle] at hfits
    · simpa [Session.connect, hrc] using h.backoff
  · -- a failed attempt is given up on the spot, from idle
    have hfailed : Disciplined
        { { s with connected := false, connectFailed := false }.emit (.connect rc) with
          state := .idle } := by
      refine h.extend [⟨.idle, .connect rc⟩] (by simp [hidle]) ?_ h.backoff
      rintro (_ | accepted) hfits
      · exact ⟨.closed, by simp [phaseStep, hrc], rfl⟩
      · simp [Phase.Fits, hidle] at hfits
    simpa [Session.connect, hrc] using disciplined_drop hfailed false uptime

/-- A session about to serve. -/
lemma fits_serving {p : Phase} (hst : s.state = .connecting) (hconn : s.connected = true)
    (h : p.Fits s) : p = .opened true := by
  cases p with
  | closed => simp [Phase.Fits, hst] at h
  | opened accepted => simpa [Phase.Fits, hst, hconn] using h

lemma disciplined_serving (h : Disciplined s) (hst : s.state = .connecting)
    (hconn : s.connected = true) (i : SessionId) (status : Option RelayStatus)
    (publishRc subscribeRc : ℤ) : Disciplined (s.serving i status publishRc subscribeRc) := by
  have hback : kBackoffMinMs ≤ kBackoffMinMs ∧ kBackoffMinMs ≤ kBackoffMaxMs := by decide
  rcases s.serving_eq i status publishRc subscribeRc with heq | ⟨topic, payload, heq⟩
  · rw [heq]
    refine h.extend [⟨.serving, .subscribe (commandTopics i) 1 subscribeRc⟩] rfl ?_ hback
    intro p hp
    rw [fits_serving hst hconn hp]
    exact ⟨.opened true, rfl, .inr ⟨rfl, rfl⟩⟩
  · obtain ⟨messageId, param, hpub⟩ := Session.publish_eq
      { s with state := .serving, backoffMs := kBackoffMinMs } topic payload .atLeastOnce true
      publishRc
    rw [heq, hpub]
    refine h.extend [⟨.serving, .publish param publishRc⟩,
      ⟨.serving, .subscribe (commandTopics i) 1 subscribeRc⟩]
      (by simp [Session.subscribeToCommands]) ?_ hback
    intro p hp
    rw [fits_serving hst hconn hp]
    exact ⟨.opened true, rfl, .inr ⟨rfl, rfl⟩⟩

/-- A serving session may log whatever keeps its connection. -/
lemma Disciplined.serve (h : Disciplined s) (hst : s.state = .serving) {t : Session}
    {event : Event} (hstate : t.state = s.state) (hback : t.backoffMs = s.backoffMs)
    (hlog : t.log = s.log ++ [⟨s.state, event⟩])
    (hevent : phaseStep (.opened true) ⟨.serving, event⟩ = some (.opened true)) :
    Disciplined t := by
  refine h.extend [⟨s.state, event⟩] hlog ?_ (hback ▸ h.backoff)
  rintro (_ | accepted) hfits
  · simp [Phase.Fits, hst] at hfits
  · obtain rfl : accepted = true := by simpa [Phase.Fits, hst] using hfits
    exact ⟨.opened true, by simp [hst, hevent], .inr ⟨hstate.trans hst, rfl⟩⟩

/-- What the library reports of a session that is not idle. -/
lemma Disciplined.report (h : Disciplined s) (hst : s.state ≠ .idle) {t : Session}
    {event : Event} (hstate : t.state = s.state) (hback : t.backoffMs = s.backoffMs)
    (hlog : t.log = s.log ++ [⟨s.state, event⟩])
    (hopened : ∀ accepted, (s.connected = true → accepted = true) →
      ∃ accepted', phaseStep (.opened accepted) ⟨.connecting, event⟩ = some (.opened accepted') ∧
        (t.connected = true → accepted' = true))
    (hserving : phaseStep (.opened true) ⟨.serving, event⟩ = some (.opened true)) :
    Disciplined t := by
  rcases Session.connecting_or_serving hst with hs | hs
  · refine h.extend [⟨s.state, event⟩] hlog ?_ (hback ▸ h.backoff)
    rintro (_ | accepted) hfits
    · simp [Phase.Fits, hs] at hfits
    · have hconn : s.connected = true → accepted = true := by simpa [Phase.Fits, hs] using hfits
      obtain ⟨accepted', hstep, hconn'⟩ := hopened accepted hconn
      exact ⟨.opened accepted', by simp [hs, hstep], .inl ⟨hstate.trans hs, hconn'⟩⟩
  · exact h.serve hs hstate hback hlog hserving

lemma disciplined_connack (h : Disciplined s) (hst : s.state ≠ .idle) (result : ℤ) :
    Disciplined (s.connack result) := by
  refine h.report hst (s.connack_state result) (s.connack_backoffMs result) (s.connack_log result)
    ?_ rfl
  intro accepted hconn
  refine ⟨accepted || result = 0, rfl, ?_⟩
  by_cases hres : result = 0
  · simp [hres]
  · simpa [Session.connack, hres] using hconn

lemma disciplined_disconnected (h : Disciplined s) :
    Disciplined { s with connected := false } := by
  obtain ⟨p, hp, hfits⟩ := h.phase
  refine ⟨⟨p, hp, ?_⟩, h.backoff⟩
  cases p with
  | closed => exact hfits
  | opened accepted => exact hfits.imp (fun hst => ⟨hst.1, by simp⟩) id

end Steps

/-- **The discipline of one session**: as long as it sends while it serves, its
log reads through. -/
theorem disciplined_inductive (i : SessionId) :
    ((Session.machine i).restrict Session.sendsServing).Inductive Disciplined where
  init := ⟨⟨.closed, rfl, rfl⟩, le_refl _, (by decide : kBackoffMinMs ≤ kBackoffMaxMs)⟩
  step s op h hop := by
    obtain ⟨hen, hsend⟩ := hop
    cases op with
    | connect rc uptime => exact disciplined_connect h hen rc uptime
    | drop reachedConnack uptime => exact disciplined_drop h reachedConnack uptime
    | serving status publishRc subscribeRc =>
        exact disciplined_serving h hen.1 hen.2 i status publishRc subscribeRc
    | publish topic payload qos retain rc =>
        obtain ⟨messageId, param, heq⟩ := s.publish_eq topic payload qos retain rc
        change Disciplined (s.publish topic payload qos retain rc)
        rw [heq]
        exact h.serve (hsend rfl) rfl rfl rfl rfl
    | puback messageId => exact h.serve (hsend rfl) rfl rfl rfl rfl
    | connack result => exact disciplined_connack h hen result
    | disconnected => exact disciplined_disconnected h
    | gotPuback messageId | gotSuback messageId =>
        exact h.report hen rfl rfl rfl (fun accepted hconn => ⟨accepted, rfl, hconn⟩) rfl

/-! ### What a log that reads through says -/

section Read

variable {log : List Entry} {p : Phase}

/-- A send is read where the CONNACK has been accepted. -/
lemma phaseStep_send {e : Entry} {a b : Phase} (h : phaseStep a e = some b)
    (hsend : e.event.sends = true) : a = .opened true ∧ e.state = .serving := by
  obtain ⟨st, event⟩ := e
  rcases a with _ | _ | _ <;> cases st <;> cases event <;>
    simp_all [phaseStep, Event.sends]

/-- A connection is opened by a connect that succeeds. -/
lemma phaseStep_opened {e : Entry} {accepted : Bool}
    (h : phaseStep .closed e = some (.opened accepted)) :
    e = ⟨.idle, .connect 0⟩ ∧ accepted = false := by
  obtain ⟨st, event⟩ := e
  cases st <;> cases event <;> simp only [phaseStep, reduceCtorEq, Option.some.injEq] at h
  split_ifs at h with hrc
  rw [hrc]
  exact ⟨rfl, (Phase.opened.inj h).symm⟩

/-- A connection is accepted by a CONNACK with result zero. -/
lemma phaseStep_accepted {e : Entry} (h : phaseStep (.opened false) e = some (.opened true)) :
    e.event = .connack 0 := by
  obtain ⟨st, event⟩ := e
  cases st <;> cases event <;> simp_all [phaseStep]

/-- An open connection is neither opened again nor torn down. -/
lemma phaseStep_within {e : Entry} {a b : Bool} (h : phaseStep (.opened a) e = some (.opened b)) :
    e.event.opens = false ∧ e.event.tearsDown = false := by
  obtain ⟨st, event⟩ := e
  cases a <;> cases st <;> cases event <;> simp_all [phaseStep, Event.opens, Event.tearsDown]

/-- A connection is closed by an abort before it serves, and by a disconnect then. -/
lemma phaseStep_closed {e : Entry} {a : Bool} (h : phaseStep (.opened a) e = some .closed) :
    e = ⟨.connecting, .abort⟩ ∨ e = ⟨.serving, .disconnect⟩ := by
  obtain ⟨st, event⟩ := e
  cases a <;> cases st <;> cases event <;> simp_all [phaseStep]

/-- A closed connection can only be opened. -/
lemma phaseStep_closed_opens {e : Entry} {b : Phase} (h : phaseStep .closed e = some b) :
    e.event.opens = true := by
  obtain ⟨st, event⟩ := e
  cases st <;> cases event <;> simp_all [phaseStep, Event.opens]

/-- Only a closed connection is opened. -/
lemma phaseStep_opens {e : Entry} {a b : Phase} (h : phaseStep a e = some b)
    (hopens : e.event.opens = true) : a = .closed := by
  obtain ⟨st, event⟩ := e
  rcases a with _ | _ | _ <;> cases st <;> cases event <;> simp_all [phaseStep, Event.opens]

lemma phaseStep_connect {e : Entry} {a b : Phase} (h : phaseStep a e = some b)
    (hconnect : e.event = .connect 0) : b = .opened false := by
  obtain ⟨st, event⟩ := e
  subst hconnect
  obtain rfl := phaseStep_opens h rfl
  cases st <;> simp_all [phaseStep]

/-- A send goes out while the session serves, and since the last connect that
succeeded a CONNACK was accepted and nothing was opened or torn down. -/
def SendsAccepted (log : List Entry) : Prop :=
  ∀ pre e post, log = pre ++ e :: post → e.event.sends = true →
    e.state = .serving ∧ ∃ before since, pre = before ++ ⟨.idle, .connect 0⟩ :: since ∧
      (∃ x ∈ since, x.event = .connack 0) ∧
      ∀ x ∈ since, x.event.opens = false ∧ x.event.tearsDown = false

/-- Between a connect that succeeded and the next connect there is exactly one
teardown, an abort before the session served or a disconnect then. -/
def TornDownOnce (log : List Entry) : Prop :=
  ∀ pre opened mid again post, log = pre ++ opened :: (mid ++ again :: post) →
    opened.event = .connect 0 → again.event.opens = true →
    (∀ x ∈ mid, x.event.opens = false) →
    ∃ t, mid.filter (fun x => x.event.tearsDown) = [t] ∧
      (t = ⟨.connecting, .abort⟩ ∨ t = ⟨.serving, .disconnect⟩)

theorem sendsAccepted_of_phase (h : phaseOf log = some p) : SendsAccepted log := by
  intro pre e post hlog hsend
  obtain ⟨a, b, hpre, hstep, -⟩ := read_split (hlog ▸ h)
  obtain ⟨rfl, hserving⟩ := phaseStep_send hstep hsend
  refine ⟨hserving, ?_⟩
  -- where the connection was opened
  obtain ⟨before, c, since, a, b, rfl, -, ha, hc, ⟨accepted, rfl⟩, hsince, hwithin⟩ :=
    read_since (P := fun p => ∃ accepted, p = .opened accepted)
      (K := fun x => x.event.opens = false ∧ x.event.tearsDown = false)
      (by rintro _ x _ ⟨a, rfl⟩ hx ⟨b, rfl⟩; exact phaseStep_within hx) hpre (by simp) ⟨true, rfl⟩
  obtain rfl : a = .closed := by
    cases a with
    | closed => rfl
    | opened accepted => exact absurd ⟨accepted, rfl⟩ ha
  obtain ⟨rfl, rfl⟩ := phaseStep_opened hc
  -- and where it was accepted
  obtain ⟨u, k, v, a, b, rfl, hu, ha, hk, rfl, -, -⟩ :=
    read_since (P := fun p => p = .opened true) (K := fun _ => True)
      (fun _ _ _ _ _ _ => trivial) hsince (by simp) rfl
  obtain rfl : a = .opened false := by
    cases a with
    | closed => exact absurd (phaseStep_opened hk).2 (by simp)
    | opened accepted => simpa using ha
  exact ⟨before, _, rfl, ⟨k, by simp, phaseStep_accepted hk⟩, hwithin⟩

/-- From an open connection to the next connect there is one teardown. -/
lemma one_teardown {mid : List Entry} {accepted : Bool}
    (h : read phaseStep (.opened accepted) mid = some .closed)
    (hopens : ∀ x ∈ mid, x.event.opens = false) :
    ∃ t, mid.filter (fun x => x.event.tearsDown) = [t] ∧
      (t = ⟨.connecting, .abort⟩ ∨ t = ⟨.serving, .disconnect⟩) := by
  induction mid generalizing accepted with
  | nil => simp at h
  | cons e mid ih =>
      obtain ⟨b, hstep, hrest⟩ := Option.bind_eq_some_iff.mp h
      cases b with
      | closed =>
          obtain rfl : mid = [] := by
            cases mid with
            | nil => rfl
            | cons x mid =>
                obtain ⟨c, hx, -⟩ := Option.bind_eq_some_iff.mp hrest
                have hno := hopens x (by simp)
                rw [phaseStep_closed_opens hx] at hno
                exact absurd hno (by simp)
          have ht := phaseStep_closed hstep
          refine ⟨e, ?_, ht⟩
          rcases ht with rfl | rfl <;> rfl
      | opened accepted' =>
          obtain ⟨t, hfilter, ht⟩ := ih hrest fun x hx => hopens x (List.mem_cons_of_mem e hx)
          refine ⟨t, ?_, ht⟩
          rw [List.filter_cons_of_neg (by simp [(phaseStep_within hstep).2]), hfilter]

theorem tornDownOnce_of_phase (h : phaseOf log = some p) : TornDownOnce log := by
  intro pre opened mid again post hlog hopened hagain hmid
  obtain ⟨a, b, -, hstep, hrest⟩ := read_split (hlog ▸ h)
  obtain ⟨c, d, hc, hagain', -⟩ := read_split hrest
  obtain rfl := phaseStep_connect hstep hopened
  obtain rfl := phaseStep_opens hagain' hagain
  exact one_teardown hc hmid

end Read

/-! ### Subscriptions -/

/-- The topics the current connection has sent SUBSCRIBE for. -/
def subscriptions (log : List Entry) : List String :=
  log.foldl (fun topics e =>
    match e.event with
    | .connect _ => []
    | .subscribe more _ _ => topics ++ more
    | _ => topics) []

/-- A connection subscribes to the commands of its node, and only past its
CONNACK. -/
def Subscribed (i : SessionId) (s : Session) : Prop :=
  ∀ topic ∈ subscriptions s.log, topic ∈ commandTopics i ∧ s.state ≠ .connecting

section Subscribe

variable {s : Session} {i : SessionId}

@[simp] lemma subscriptions_concat (log : List Entry) (e : Entry) :
    subscriptions (log ++ [e]) = match e.event with
      | .connect _ => []
      | .subscribe more _ _ => subscriptions log ++ more
      | _ => subscriptions log := by
  simp [subscriptions]

lemma subscriptions_publish (topic : Topic) (payload : Bytes) (qos : Qos) (retain : Bool) (rc : ℤ) :
    subscriptions (s.publish topic payload qos retain rc).log = subscriptions s.log := by
  obtain ⟨messageId, param, heq⟩ := s.publish_eq topic payload qos retain rc
  simp [heq]

lemma subscriptions_drop (reachedConnack : Bool) (uptime : ℤ) :
    subscriptions (s.drop reachedConnack uptime).log = subscriptions s.log := by
  rw [Session.drop_log]
  cases s.state <;> simp [Session.teardown]

lemma subscriptions_serving (status : Option RelayStatus) (publishRc subscribeRc : ℤ) :
    subscriptions (s.serving i status publishRc subscribeRc).log =
      subscriptions s.log ++ commandTopics i := by
  rcases s.serving_eq i status publishRc subscribeRc with heq | ⟨topic, payload, heq⟩ <;>
    simp [heq, Session.subscribeToCommands, subscriptions_publish]

variable (i)

/-- **A connection that subscribed is past its CONNACK.** -/
theorem subscribed_inductive : (Session.machine i).Inductive (Subscribed i) where
  init := by simp [Subscribed, subscriptions, Session.machine, Session.initial]
  step s op h hop := by
    intro topic htopic
    cases op with
    | connect rc uptime =>
        simp [Session.machine, Session.next, Session.connect_log] at htopic
    | drop reachedConnack uptime =>
        refine ⟨(h topic ?_).1, by simp [Session.machine, Session.next]⟩
        simpa [Session.machine, Session.next, subscriptions_drop] using htopic
    | serving status publishRc subscribeRc =>
        refine ⟨?_, by simp [Session.machine, Session.next]⟩
        rcases List.mem_append.mp (subscriptions_serving _ _ _ ▸ htopic) with hold | hnew
        · exact (h topic hold).1
        · exact hnew
    | publish topic' payload qos retain rc =>
        have hold := h topic (subscriptions_publish topic' payload qos retain rc ▸ htopic)
        simpa [Session.machine, Session.next] using hold
    | connack result =>
        have hold := h topic (by simpa [Session.machine, Session.next] using htopic)
        simpa [Session.machine, Session.next] using hold
    | puback messageId | gotPuback messageId | gotSuback messageId =>
        exact h topic (by simpa [Session.machine, Session.next] using htopic)
    | disconnected => exact h topic htopic

end Subscribe

end ClimateNode.Gateway
