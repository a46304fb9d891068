import ClimateNode.Gateway.LoopView

/-!
The calls of `main`, answered in the channels' model: the timers, the poll, the input of
the sessions with its callbacks, `session_serving`, and the publishing phase.

* `Accounts`: the sessions alone, as both models have them.
* `Accounts.update`: one session changes, and the channels' model follows with a step.
* `Turned`: a path of the channels' model over what a step does to a session.
* `answered_connect` to `answered_flush`: **each call is answered**.
-/

namespace ClimateNode.Gateway.WholeLoop

open Automata Wire

section Calls

variable {pb : Nanopb} {node : NodeIdentity} {s : State} {g : Gateway.State}

/-! ### The sessions in both models -/

/-- The sessions of the channels' model are those of the passes. -/
structure Accounts (ss : Sessions) (g : Gateway.State) : Prop where
  session : ∀ i, g.session i = (ss i).state
  account : ∀ i, g.account i = (ss i).account

/-- Away from the read of `session_serving` the sessions show as they are. -/
lemma Shows.accounts (h : Shows s g) (hplace : s.place = placeOf s.loop.pc) :
    Accounts s.loop.sessions g where
  session i := by
    rw [h.session, State.shown, if_neg fun hann => placeOf_ne_announced _ (hplace ▸ hann.1)]
  account := h.account

/-- After a call the sessions show as they are. -/
lemma Accounts.shows (hand : InHand s) {l : Passes.Label} (hl : enabled s (.call l))
    (h : Accounts (Passes.next pb node s.loop l).sessions g)
    (hchan : g.chan = (next pb node s (.call l)).chan)
    (hpc : g.pc = placeOf (Passes.next pb node s.loop l).pc)
    (hready : polled (Passes.next pb node s.loop l).pc → ∀ c,
      g.ready c = decide ((Passes.next pb node s.loop l).readable (.evt c))) :
    Shows (next pb node s (.call l)) g where
  chan := hchan
  pc := hpc.trans (call_place hand hl).symm
  session i := by
    have hplace : (next pb node s (.call l)).place = placeOf (Passes.next pb node s.loop l).pc :=
      call_place hand hl
    rw [h.session, State.shown, if_neg fun hann => placeOf_ne_announced _ (hplace ▸ hann.1)]
    rfl
  ready := hready
  account := h.account

/-- One session changes, and the channels' model follows with a step. -/
lemma Accounts.update {ss : Sessions} (h : Accounts ss g) {k : Gateway.Label} (i : SessionId)
    (t : Session) (hsession : (Gateway.move g k).session = Function.update g.session i t.state)
    (haccount : (Gateway.next pb g k).account i = t.account)
    (hother : ∀ j, j ≠ i → (Gateway.next pb g k).account j = g.account j) :
    Accounts (Function.update ss i t) (Gateway.next pb g k) where
  session j := by
    change (Gateway.move g k).session j = _
    rw [hsession]
    by_cases hji : j = i
    · simp [hji]
    · simp [hji, h.session]
  account j := by
    by_cases hji : j = i
    · subst hji
      rw [haccount, Function.update_self]
    · rw [hother j hji, h.account, Function.update_of_ne hji]

variable (pb) in
/-- A step that opens no connection and publishes nothing that counts. -/
lemma account_silent (k : Gateway.Label) (hconn : (Gateway.move g k).connection = g.connection)
    (hwritten : ∀ i, (Gateway.written pb g k).filter (Publication.counted i) = []) (i : SessionId) :
    (Gateway.next pb g k).account i = g.account i := by
  rw [account_next, hconn, hwritten, List.map_nil, List.append_nil]
  rfl

variable (pb) in
/-- No session changes. -/
lemma Accounts.silent {ss : Sessions} (h : Accounts ss g) (k : Gateway.Label)
    (hsession : (Gateway.move g k).session = g.session)
    (hconn : (Gateway.move g k).connection = g.connection)
    (hwritten : ∀ i, (Gateway.written pb g k).filter (Publication.counted i) = []) :
    Accounts ss (Gateway.next pb g k) where
  session i := (congrFun hsession i).trans (h.session i)
  account i := (account_silent pb k hconn hwritten i).trans (h.account i)

variable (pb) in
/-- A session left alone or given up. -/
lemma Accounts.kept {ss : Sessions} (h : Accounts ss g) (hpc : g.pc = .input ∨ g.pc = .sessions)
    {i : SessionId} {t : Session} (ht : (ss i).Kept t) :
    ∃ g', (Gateway.machine pb).Path g (givenUp i (ss i) t) g' ∧
      Accounts (Function.update ss i t) g' ∧ g'.chan = g.chan ∧ g'.pc = g.pc ∧
      g'.ready = g.ready := by
  obtain ⟨hacc, hstate⟩ := ht
  rw [givenUp]
  split_ifs with hsame
  · refine ⟨g, .nil g, ⟨fun j => ?_, fun j => ?_⟩, rfl, rfl, rfl⟩
    · rw [h.session]
      by_cases hji : j = i
      · simp [hji, hsame]
      · simp [hji]
    · rw [h.account]
      by_cases hji : j = i
      · subst hji
        simp [hacc]
      · simp [hji]
  · have hidle : t.state = .idle := hstate.resolve_left hsame
    have hne : g.session i ≠ .idle := by
      rw [h.session]
      exact fun heq => hsame (hidle.trans heq.symm)
    have hsilent := account_silent (g := g) pb (.drop i) rfl fun _ => rfl
    refine ⟨_, Machine.Path.one ⟨⟨hpc, hne⟩, trivial⟩, h.update i t ?_ ?_ ?_, rfl, rfl, rfl⟩
    · rw [hidle]
      rfl
    · rw [hsilent, h.account, hacc]
    · exact fun j _ => hsilent j

/-! ### The timers and the poll -/

/-- A call that is not answered. -/
lemma answered_none (h : Shows s g) (hand : InHand s) {l : Passes.Label}
    (hl : enabled s (.call l)) (hanswer : s.answerCall pb node l = [])
    (heff : effect pb s (.call l) = none) (hplace : s.place = placeOf s.loop.pc)
    (hpc : placeOf (Passes.next pb node s.loop l).pc = placeOf s.loop.pc)
    (hstate : ∀ i, ((Passes.next pb node s.loop l).sessions i).state = (s.loop.sessions i).state)
    (haccount : ∀ i, ((Passes.next pb node s.loop l).sessions i).account =
      (s.loop.sessions i).account)
    (hready : polled (Passes.next pb node s.loop l).pc → polled s.loop.pc ∧
      ∀ d, (Passes.next pb node s.loop l).readable d = s.loop.readable d) :
    Answered pb node s g (.call l) := by
  have hacc := h.accounts hplace
  have hpath : (Gateway.machine pb).Path g (answer pb node s (.call l)) g := by
    rw [answer, hanswer]
    exact .nil g
  refine ⟨g, hpath, Accounts.shows hand hl ⟨fun i => ?_, fun i => ?_⟩ ?_ ?_ fun hp c => ?_⟩
  · exact (hacc.session i).trans (hstate i).symm
  · exact (hacc.account i).trans (haccount i).symm
  · simp only [next, heff, State.chanNext, h.chan]
  · exact h.pc.trans (hplace.trans hpc.symm)
  · obtain ⟨hp', hread⟩ := hready hp
    simp only [h.ready hp' c, hread]

lemma answered_top (h : Shows s g) (hand : InHand s) (now : ℤ)
    (hl : enabled s (.call (.top now))) : Answered pb node s g (.call (.top now)) := by
  have hpc : s.loop.pc = .top := hl.2.1
  exact answered_none h hand hl rfl rfl (place_eq hl.1 (.inl (by simp [hpc]))) (by rw [hpc]; rfl)
    (fun _ => rfl) (fun _ => rfl) fun hp => absurd hp id

lemma answered_pollFail (h : Shows s g) (hand : InHand s)
    (hl : enabled s (.call (.poll none))) : Answered pb node s g (.call (.poll none)) := by
  have hpc : s.loop.pc = .poll := hl.2.1
  exact answered_none h hand hl rfl rfl (place_eq hl.1 (.inl (by simp [hpc]))) (by rw [hpc]; rfl)
    (fun _ => rfl) (fun _ => rfl) fun hp => absurd hp id

lemma answered_disconnected (h : Shows s g) (hand : InHand s) (i : SessionId)
    (hl : enabled s (.call (.disconnected i))) :
    Answered pb node s g (.call (.disconnected i)) := by
  have hidle : s.taken .relayStatus = none := taken_of_idle (hl.2.2 _)
  exact answered_none h hand hl rfl rfl (place_eq hl.1 (.inr hidle)) rfl
    (Passes.on_state (i := i) rfl) (Sessions.account_on (i := i) rfl) fun hp => ⟨hp, fun _ => rfl⟩

/-- A connect that opens a connection, or fails to. -/
lemma Accounts.connect {ss : Sessions} (h : Accounts ss g) (i : SessionId) (rc uptime : ℤ)
    (hidle : (ss i).state = .idle) :
    Accounts (Function.update ss i ((ss i).connect rc uptime))
      (Gateway.next pb g (.connect i (rc = 0))) := by
  by_cases hrc : rc = 0
  · refine h.update i _ ?_ ?_ fun j hji => ?_
    · simp [Gateway.move, hrc, Session.connect]
    · rw [account_next, account_connect, if_pos hrc, ← h.account]
      simp [Gateway.move, Gateway.written, hrc]
      rfl
    · rw [account_next]
      simp [Gateway.move, Gateway.written, hrc, hji]
      rfl
  · have hsilent := account_silent (g := g) pb (.connect i (rc = 0))
      (by simp [hrc, Gateway.move]) fun _ => rfl
    refine h.update i _ ?_ ?_ fun j _ => hsilent j
    · have hkeep : Function.update g.session i .idle = g.session :=
        Function.update_eq_self_iff.mpr ((h.session i).trans hidle).symm
      simp [Gateway.move, hrc, Session.connect, hkeep]
    · rw [hsilent, account_connect, if_neg hrc, h.account]

lemma answered_connect (h : Shows s g) (hand : InHand s) (i : SessionId) (rc uptime : ℤ)
    (hl : enabled s (.call (.connect i rc uptime))) :
    Answered pb node s g (.call (.connect i rc uptime)) := by
  have hpc : s.loop.pc = .connect i := hl.2.1
  have hplace := place_eq hl.1 (.inl (by simp [hpc]))
  have hpc' : placeOf (Passes.next pb node s.loop (.connect i rc uptime)).pc =
      placeOf s.loop.pc := by
    rw [hpc]
    cases i <;> rfl
  have hpolled : ¬ polled (Passes.next pb node s.loop (.connect i rc uptime)).pc := by
    cases i <;> exact id
  by_cases hdue : (s.loop.sessions i).state = .idle ∧ (s.loop.sessions i).retryAt ≤ s.loop.now
  · have hacc := h.accounts hplace
    have hk : Gateway.enabled pb g (.connect i (rc = 0)) :=
      ⟨⟨h.at hplace hpc, (hacc.session i).trans hdue.1⟩, trivial⟩
    have hkeep : (Gateway.next pb g (.connect i (rc = 0))).pc = g.pc := by
      change (Gateway.move g (.connect i (rc = 0))).pc = g.pc
      by_cases hrc : rc = 0 <;> simp [Gateway.move, hrc]
    refine ⟨Gateway.next pb g (.connect i (rc = 0)), ?_, Accounts.shows hand hl ?_ h.chan ?_
      fun hp => absurd hp hpolled⟩
    · rw [answer, State.answerCall, if_pos hdue]
      exact .one hk
    · change Accounts (Function.update s.loop.sessions i
        ((s.loop.sessions i).retry s.loop.now rc uptime)) _
      rw [Session.retry, if_pos hdue]
      exact hacc.connect i rc uptime hdue.1
    · rw [hkeep, h.pc, hplace, hpc']
  · have hsame : (Passes.next pb node s.loop (.connect i rc uptime)).sessions =
        s.loop.sessions := by
      change Function.update s.loop.sessions i
        ((s.loop.sessions i).retry s.loop.now rc uptime) = _
      rw [Session.retry, if_neg hdue, Function.update_eq_self]
    exact answered_none h hand hl (if_neg hdue) rfl hplace hpc' (fun j => by rw [hsame])
      (fun j => by rw [hsame]) fun hp => absurd hp hpolled

lemma answered_poll (h : Shows s g) (hand : InHand s) (revents : Descriptor → Bool)
    (hl : enabled s (.call (.poll (some revents)))) :
    Answered pb node s g (.call (.poll (some revents))) := by
  have hpc : s.loop.pc = .poll := hl.2.1
  have hplace := place_eq hl.1 (.inl (by simp [hpc]))
  have hacc := h.accounts hplace
  let ready : ChanId → Bool := fun c =>
    decide (.evt c ∈ pollSet s.loop.sessions ∧ revents (.evt c) = true)
  have hpoll : Gateway.enabled pb g (.poll ready) := by
    refine ⟨⟨h.at hplace hpc, fun c hc => ?_⟩, trivial⟩
    obtain ⟨hmem, hrev⟩ := of_decide_eq_true hc
    have hserving : (s.loop.sessions c.session).state = .serving := by
      simp only [pollSet, List.mem_append, List.mem_map, List.mem_filter] at hmem
      simp_all
    exact ⟨(hacc.session _).trans hserving, h.chan ▸ hl.2.2 c hserving hrev⟩
  exact ⟨_, Machine.Path.one hpoll, Accounts.shows hand hl
    (hacc.silent pb (.poll ready) rfl rfl fun _ => rfl) h.chan rfl fun _ _ => rfl⟩

/-! ### Input -/

/-- A callback that publishes nothing. -/
lemma answered_event (h : Shows s g) (hand : InHand s) (i : SessionId) (evt : MqttEvt)
    (hl : enabled s (.call (.event i evt)))
    (hanswer : s.answerCall pb node (.event i evt) = [])
    (haccount : ∀ j, ((Passes.next pb node s.loop (.event i evt)).sessions j).account =
      (s.loop.sessions j).account) : Answered pb node s g (.call (.event i evt)) := by
  have hpc : s.loop.pc = .input i := hl.2.1.1
  exact answered_none h hand hl hanswer rfl (place_eq hl.1 (.inl (by simp [hpc]))) rfl
    (Passes.mqttEvtHandler_state _ _ _ _ _ _) haccount fun hp => ⟨hp, fun _ => rfl⟩

variable (pb) in
/-- The Ack of a command goes out. -/
lemma Accounts.incoming {ss : Sessions} (h : Accounts ss g) (i : SessionId) (payload : Bytes) :
    Accounts (ss.on i fun t => t.publish (.ack i) payload .atLeastOnce false 0)
      (Gateway.next pb g (.incoming i payload)) := by
  refine h.update i _ ?_ ?_ fun j hji => ?_
  · rw [Session.publish_state, ← h.session, Function.update_eq_self]
    rfl
  · rw [account_next, account_publish, if_pos ⟨rfl, by simp⟩, ← h.account]
    simp [Gateway.move, Gateway.written, Publication.counted, Topic.node, Publication.sent]
    rfl
  · rw [account_next]
    simp [Gateway.move, Gateway.written, Publication.counted, Topic.node, Ne.symm hji]
    rfl

/-- A message is answered on the session it came in on. -/
lemma answered_publish (h : Shows s g) (hand : InHand s) (i : SessionId) (pub : Arrival)
    (answers : ArrivalAnswers) (hl : enabled s (.call (.event i (.publish pub answers))))
    (hne : (s.loop.sessions i).state ≠ .idle)
    (htopic : pub.topic = kPeerTopicCommand ↔ i = .peer) :
    Answered pb node s g (.call (.event i (.publish pub answers))) := by
  have hpc : s.loop.pc = .input i := hl.2.1.1
  have hplace := place_eq hl.1 (.inl (by simp [hpc]))
  have hacc := h.accounts hplace
  have hpc' : g.pc = .input := h.at hplace hpc
  have hsessions : (Passes.next pb node s.loop (.event i (.publish pub answers))).sessions = _ :=
    Sessions.handleIncomingPublish_eq pb node s.loop.sessions s.loop.commands i pub answers htopic
  by_cases hread : answers.read = true
  · rw [if_pos hread] at hsessions
    cases hack : (ClimateNode.handleIncomingPublish pb node s.loop.commands
        (decide (pub.topic = kPeerTopicCommand)) pub.payload answers.bus).1 with
    | ack payload =>
        simp only [hack] at hsessions
        cases payload with
        | none =>
            refine answered_event h hand i _ hl ?_ fun j => ?_
            · simp [State.answerCall, State.acked, hack]
            · rw [hsessions]
              exact Sessions.account_puback _ _ _ _
        | some payload =>
            have hpuback := Sessions.account_puback s.loop.sessions i pub
            by_cases hrc : answers.publish = 0
            · have hpath : (Gateway.machine pb).Path g
                  (answer pb node s (.call (.event i (.publish pub answers))))
                  (Gateway.next pb g (.incoming i payload)) := by
                rw [answer, State.answerCall, State.acked, if_pos ⟨hread, hrc⟩, hack]
                exact .one ⟨⟨hpc', fun heq => hne ((hacc.session i).symm.trans heq)⟩, trivial⟩
              have hpub : Accounts (s.loop.sessions.puback i pub) g :=
                ⟨fun j => (hacc.session j).trans
                    (Passes.sends_puback s.loop.sessions pub i j).state_eq.symm,
                  fun j => (hacc.account j).trans (hpuback j).symm⟩
              refine ⟨_, hpath, Accounts.shows hand hl ?_ h.chan (h.pc.trans hplace) h.ready⟩
              rw [hsessions, hrc]
              exact hpub.incoming pb i payload
            · refine answered_event h hand i _ hl ?_ fun j => ?_
              · simp [State.answerCall, State.acked, hrc]
              · rw [hsessions, ← hpuback j]
                exact Sessions.account_on
                  (by rw [account_publish, if_neg fun hok => hrc hok.1]) j
    | relayed down =>
        refine answered_event h hand i _ hl ?_ fun j => ?_
        · simp [State.answerCall, State.acked, hack]
        · simp only [hack] at hsessions
          rw [hsessions]
          exact Sessions.account_puback _ _ _ _
  · refine answered_event h hand i _ hl (if_neg fun hok => hread hok.1) fun j => ?_
    rw [hsessions, if_neg hread]

lemma answered_input (h : Shows s g) (hand : InHand s) (i : SessionId) (rc uptime : ℤ)
    (hl : enabled s (.call (.input i rc uptime))) :
    Answered pb node s g (.call (.input i rc uptime)) := by
  have hpc : s.loop.pc = .input i := hl.2.1
  have hplace := place_eq hl.1 (.inl (by simp [hpc]))
  have hpc' : placeOf (Passes.next pb node s.loop (.input i rc uptime)).pc =
      placeOf s.loop.pc := by
    rw [hpc]
    cases i <;> rfl
  have hpolled : polled s.loop.pc := by rw [hpc]; trivial
  by_cases hread : s.loop.readable (.sock i)
  · have hinput : g.pc = .input := h.at hplace hpc
    obtain ⟨g', hpath, hacc, hchan, hkeep, hready⟩ :=
      (h.accounts hplace).kept pb (.inl hinput) (kept_input (s.loop.sessions i) rc uptime)
    refine ⟨g', ?_, Accounts.shows hand hl ?_ (hchan.trans h.chan) ?_ fun _ c => ?_⟩
    · rw [answer, State.answerCall, if_pos hread]
      exact hpath
    · rw [Passes.next]
      dsimp only
      rw [if_pos hread]
      exact hacc
    · rw [hkeep, h.pc, hplace, hpc']
    · rw [hready]
      exact h.ready hpolled c
  · have hsame : (Passes.next pb node s.loop (.input i rc uptime)).sessions = s.loop.sessions :=
      if_neg hread
    exact answered_none h hand hl (if_neg hread) rfl hplace hpc' (fun j => by rw [hsame])
      (fun j => by rw [hsame]) fun _ => ⟨hpolled, fun _ => rfl⟩

lemma answered_clock (h : Shows s g) (hand : InHand s) (now : ℤ)
    (hl : enabled s (.call (.clock now))) : Answered pb node s g (.call (.clock now)) := by
  have hpc : s.loop.pc = .clock := hl.2.1
  have hplace := place_eq hl.1 (.inl (by simp [hpc]))
  have hinput : g.pc = .input := h.at hplace hpc
  exact ⟨_, Machine.Path.one ⟨hinput, trivial⟩, Accounts.shows hand hl
    ((h.accounts hplace).silent pb .inputDone rfl rfl fun _ => rfl) h.chan rfl
    fun _ => h.ready (by rw [hpc]; trivial)⟩

/-! ### A step of a session -/

/-- A path of the channels' model over what a step does to a session. -/
def Turned (pb : Nanopb) (g : Gateway.State) (ks : List Gateway.Label) (ss : Sessions)
    (chan : (c : ChanId) → Doorbell.State c.Msg) : Prop :=
  ∃ g', (Gateway.machine pb).Path g ks g' ∧ Accounts ss g' ∧ g'.chan = chan ∧
    g'.pc = .sessions ∧ g'.ready = g.ready

/-- `session_serving` of the gateway's own session. -/
lemma served_own (h : Shows s g) (answers : StepAnswers)
    (hl : enabled s (.call (.step .own answers)))
    (hstate : (s.loop.sessions .own).state = .connecting) :
    Turned pb g (s.served answers.publish .own)
      (Function.update s.loop.sessions .own ((s.loop.sessions .own).serving .own answers.status
        answers.publish answers.subscribe))
      (next pb node s (.call (.step .own answers))).chan := by
  have hpc : s.loop.pc = .step .own := hl.2.1
  have hplace := place_eq hl.1 (.inl (by simp [hpc]))
  have hacc := h.accounts hplace
  have hsessions : g.pc = .sessions := h.at hplace hpc
  have hsilent := account_silent (g := g) pb (.serve .own) rfl fun i => by
    cases i <;> rfl
  refine ⟨_, Machine.Path.one ⟨⟨hsessions, (hacc.session _).trans hstate⟩, trivial⟩,
    hacc.update _ _ ?_ ?_ fun j _ => hsilent j, h.chan, hsessions, rfl⟩
  · rw [Session.serving_state]
    rfl
  · rw [hsilent, hacc.account, account_serving_own]

/-- `session_serving` of the peer, whose read of the channel fails. -/
lemma served_unread (h : Shows s g) (answers : StepAnswers)
    (hl : enabled s (.call (.step .peer answers)))
    (hstate : (s.loop.sessions .peer).state = .connecting)
    (htaken : s.taken .relayStatus = none) :
    Turned pb g (s.served answers.publish .peer)
      (Function.update s.loop.sessions .peer ((s.loop.sessions .peer).serving .peer none
        answers.publish answers.subscribe))
      (next pb node s (.call (.step .peer answers))).chan := by
  have hplace := place_eq hl.1 (.inr htaken)
  have hacc := h.accounts hplace
  have hsessions : g.pc = .sessions := h.at hplace hl.2.1
  have hsilent := account_silent (g := g) pb (.serve .peer) rfl fun i => rfl
  have hserve : Gateway.enabled pb g (.serve .peer) :=
    ⟨⟨hsessions, (hacc.session _).trans hstate⟩, trivial⟩
  have hserved : Accounts (Function.update s.loop.sessions .peer
      ((s.loop.sessions .peer).serving .peer none answers.publish answers.subscribe))
      (Gateway.next pb g (.serve .peer)) := by
    refine hacc.update _ _ ?_ ?_ fun j _ => hsilent j
    · rw [Session.serving_state]
      rfl
    · rw [hsilent, hacc.account, account_serving_peer]
  refine ⟨_, ?_, hserved.silent pb .announceReadFail rfl rfl fun _ => rfl, ?_, rfl, rfl⟩
  · rw [State.served, htaken]
    exact .two hserve ⟨rfl, trivial⟩
  · simp only [next, effect, htaken, Option.map_none, State.chanNext]
    exact h.chan

/-- `session_serving` of the peer, with what it has read. -/
lemma served_read (h : Shows s g) (answers : StepAnswers)
    (hl : enabled s (.call (.step .peer answers)))
    (hhold : (s.chan .relayStatus).progress = .holding) :
    Turned pb g (s.served answers.publish .peer)
      (Function.update s.loop.sessions .peer ((s.loop.sessions .peer).serving .peer
        (some (s.chan .relayStatus).buffer.2) answers.publish answers.subscribe))
      (next pb node s (.call (.step .peer answers))).chan := by
  have hpc : s.loop.pc = .step .peer := hl.2.1
  have htaken : s.taken .relayStatus = some (s.chan .relayStatus).buffer.2 := by
    simp [State.taken, hhold]
  have hplace : s.place = .announced := by simp [State.place, hl.1, hpc, htaken]
  have hsession (j : SessionId) : g.session j = (Function.update s.loop.sessions .peer
      ((s.loop.sessions .peer).serving .peer (some (s.chan .relayStatus).buffer.2)
        answers.publish answers.subscribe) j).state := by
    rw [h.session, State.shown, hplace]
    cases j with
    | own => rfl
    | peer => simp
  have hheld : g.held .relayStatus = (s.chan .relayStatus).buffer.2 := by
    rw [Gateway.State.held, h.chan]
  -- a status nobody stored is not announced
  by_cases hid : RelayStatus.nodeId (s.chan .relayStatus).buffer.2 = 0
  · have hsilent := account_silent (g := g) pb .announceNothing rfl fun _ => rfl
    have hk : Gateway.enabled pb g .announceNothing :=
      ⟨⟨h.pc.trans hplace, hheld.symm ▸ hid⟩, (h.chanEnabled .relayStatus .discard).mpr hhold⟩
    refine ⟨Gateway.next pb g .announceNothing, ?_, ⟨hsession, fun j => ?_⟩, ?_, rfl, rfl⟩
    · rw [State.served, htaken]
      simp only [hid, if_true]
      exact .one hk
    · rw [hsilent, h.account]
      cases j with
      | own => rfl
      | peer => rw [Function.update_self, account_serving_peer]; simp [hid]
    · simp only [next, effect, htaken, Option.map_some, State.chanNext, hid, if_true]
      rw [← h.chan]
      rfl
  · have hk : Gateway.enabled pb g (.announce (answers.publish = 0)) :=
      ⟨⟨h.pc.trans hplace, hheld.symm ▸ hid⟩, (h.chanEnabled .relayStatus .hand).mpr hhold⟩
    refine ⟨Gateway.next pb g (.announce (answers.publish = 0)), ?_,
      ⟨hsession, fun j => ?_⟩, ?_, rfl, rfl⟩
    · rw [State.served, htaken]
      simp only [hid, if_false]
      exact .one hk
    · cases j with
      | own =>
          refine Eq.trans ?_ (h.account .own)
          by_cases hrc : answers.publish = 0 <;>
            simp [account_next, Gateway.move, Gateway.written, hrc, Publication.counted,
              State.publication, ChanId.topic, Topic.node] <;> rfl
      | peer =>
          rw [Function.update_self, account_serving_peer, ← h.account .peer]
          by_cases hrc : answers.publish = 0
          · simp [account_next, Gateway.move, Gateway.written, hrc, hid,
              Publication.counted, Publication.sent, State.publication, ChanId.topic,
              ChanId.session, Topic.node, hheld, payloadOf]
            rfl
          · simp [account_next, Gateway.move, Gateway.written, hrc]
            rfl
    · simp only [next, effect, htaken, Option.map_some, State.chanNext, hid, if_false]
      rw [← h.chan]
      rfl

/-- `session_serving`. -/
lemma served_turned (h : Shows s g) (i : SessionId) (answers : StepAnswers)
    (hl : enabled s (.call (.step i answers)))
    (hstate : (s.loop.sessions i).state = .connecting ∧ (s.loop.sessions i).connected = true) :
    Turned pb g (s.served answers.publish i)
      (Function.update s.loop.sessions i ((s.loop.sessions i).serving i answers.status
        answers.publish answers.subscribe))
      (next pb node s (.call (.step i answers))).chan := by
  cases i with
  | own => exact served_own h answers hl hstate.1
  | peer =>
      have hstatus : answers.status = s.taken .relayStatus := hl.2.2 ⟨hl.2.1, hstate⟩
      by_cases hhold : (s.chan .relayStatus).progress = .holding
      · have htaken : s.taken .relayStatus = some (s.chan .relayStatus).buffer.2 := if_pos hhold
        rw [hstatus, htaken]
        exact served_read h answers hl hhold
      · have htaken : s.taken .relayStatus = none := if_neg hhold
        rw [hstatus, htaken]
        exact served_unread h answers hl hstate.1 htaken

/-- A step of a session that is not accepted: it is left alone or given up. -/
lemma unserved_turned (h : Shows s g) (hand : InHand s) (i : SessionId) (answers : StepAnswers)
    (hl : enabled s (.call (.step i answers)))
    (hserve : ¬ ((s.loop.sessions i).state = .connecting ∧
      (s.loop.sessions i).connected = true)) :
    Turned pb g (givenUp i (s.loop.sessions i) ((s.loop.sessions i).step i s.loop.now answers))
      (Function.update s.loop.sessions i ((s.loop.sessions i).step i s.loop.now answers))
      (next pb node s (.call (.step i answers))).chan := by
  have hpc : s.loop.pc = .step i := hl.2.1
  have htaken : i = .peer → s.taken .relayStatus = none := by
    rintro rfl
    by_contra hne
    have hbusy : (s.chan .relayStatus).progress ≠ .idle := fun hidle => hne (taken_of_idle hidle)
    rcases hand.held _ hbusy with hdue | ⟨-, hacc, -⟩
    · simp [State.due, hpc] at hdue
    · exact hserve hacc.2
  have hplace : s.place = placeOf s.loop.pc := by
    refine place_eq hl.1 ?_
    cases i with
    | own => exact .inl (by simp [hpc])
    | peer => exact .inr (htaken rfl)
  have hsessions : g.pc = .sessions := h.at hplace hpc
  obtain ⟨g', hpath, hacc, hchan, hpc', hready⟩ :=
    (h.accounts hplace).kept pb (.inr hsessions) (kept_step (s.loop.sessions i) hserve)
  refine ⟨g', hpath, hacc, ?_, hpc'.trans hsessions, hready⟩
  rw [hchan, h.chan]
  cases i with
  | own => rfl
  | peer => simp [next, effect, htaken, State.chanNext]

lemma answered_step (h : Shows s g) (hand : InHand s) (i : SessionId) (answers : StepAnswers)
    (hl : enabled s (.call (.step i answers))) :
    Answered pb node s g (.call (.step i answers)) := by
  have hpc : s.loop.pc = .step i := hl.2.1
  -- the session first, and `main` is still at the sessions
  obtain ⟨g', hpath, hacc, hchan, hpc', hready⟩ : Turned pb g
      (if (s.loop.sessions i).state = .connecting ∧ (s.loop.sessions i).connected = true then
        s.served answers.publish i
      else givenUp i (s.loop.sessions i) ((s.loop.sessions i).step i s.loop.now answers))
      (Passes.next pb node s.loop (.step i answers)).sessions
      (next pb node s (.call (.step i answers))).chan := by
    change Turned pb g _ (Function.update s.loop.sessions i
      ((s.loop.sessions i).step i s.loop.now answers)) _
    split_ifs with hserve
    · rw [step_of_accepted _ hserve]
      exact served_turned h i answers hl hserve
    · exact unserved_turned h hand i answers hl hserve
  have hready' : polled (Passes.next pb node s.loop (.step i answers)).pc → ∀ c,
      g'.ready c = decide (s.loop.readable (.evt c)) := fun _ => by
    rw [hready]
    exact h.ready (by rw [hpc]; trivial)
  cases i with
  | own =>
      refine ⟨g', ?_, Accounts.shows hand hl hacc hchan hpc' hready'⟩
      rw [answer, State.answerCall, List.append_nil]
      exact hpath
  | peer =>
      refine ⟨_, ?_, Accounts.shows hand hl (hacc.silent pb .sessionsDone rfl rfl fun _ => rfl)
        hchan rfl hready'⟩
      rw [answer, State.answerCall]
      exact hpath.snoc ⟨hpc', trivial⟩

/-! ### The publishing phase -/

/-- A channel's own session: every topic of a channel counts there, and there only. -/
lemma counted_publication (g : Gateway.State) (c : ChanId) (i : SessionId) :
    Publication.counted i (g.publication pb c) = decide (c.session = i) := by
  cases c <;> cases i <;> rfl

lemma placeOf_published (c : ChanId) (msg : Option c.Msg) (rc uptime : ℤ) :
    placeOf (Passes.next pb node s.loop (.publish c msg rc uptime)).pc = .published c := by
  cases c <;> rfl

/-- Nothing is published: whatever becomes of the channel, the sessions stay as they are. -/
lemma answered_flush_none (h : Shows s g) (hand : InHand s) {c : ChanId} {rc uptime : ℤ}
    (hl : enabled s (.call (.publish c (s.taken c) rc uptime)))
    (hmsg : (s.taken c).bind (payloadOf pb c) = none) {k : Gateway.Label}
    (hk : Gateway.enabled pb g k)
    (hanswer : answer pb node s (.call (.publish c (s.taken c) rc uptime)) = [k])
    (heff : Gateway.effect k = effect pb s (.call (.publish c (s.taken c) rc uptime)))
    (hpc' : (Gateway.move g k).pc = .published c)
    (hmove : (Gateway.move g k).session = g.session ∧
      (Gateway.move g k).connection = g.connection ∧ (Gateway.move g k).ready = g.ready)
    (hwritten : Gateway.written pb g k = []) :
    Answered pb node s g (.call (.publish c (s.taken c) rc uptime)) := by
  have hpc : s.loop.pc = .publish c := hl.2.1
  obtain ⟨hsession, hconn, hready⟩ := hmove
  have hacc := (h.accounts (place_eq hl.1 (.inl (by simp [hpc])))).silent pb k hsession hconn
    fun i => by rw [hwritten]; rfl
  have hsessions : (Passes.next pb node s.loop (.publish c (s.taken c) rc uptime)).sessions =
      s.loop.sessions := by
    change (if s.loop.readable (.evt c) then Function.update s.loop.sessions c.session
      ((s.loop.sessions c.session).flush pb c (s.taken c) rc uptime) else s.loop.sessions) = _
    rw [flush_of_none _ _ _ hmsg, Function.update_eq_self, ite_self]
  refine ⟨_, hanswer ▸ Machine.Path.one hk, Accounts.shows hand hl (hsessions ▸ hacc)
    (chan_answer h.chan heff) (hpc'.trans (placeOf_published _ _ _ _).symm) fun _ c' => ?_⟩
  exact (congrFun hready c').trans (h.ready (by rw [hpc]; trivial) c')

/-- What was read goes out. -/
lemma Accounts.hand {ss : Sessions} (h : Accounts ss g) {c : ChanId} {payload : Bytes}
    (rc uptime : ℤ) (hserving : (ss c.session).state = .serving)
    (hpay : payloadOf pb c (g.held c) = some payload) :
    Accounts (Function.update ss c.session ((ss c.session).flush pb c (some (g.held c)) rc uptime))
      (Gateway.next pb g (.hand c (rc = 0))) := by
  obtain ⟨hstate, haccount⟩ := flush_of_payload (ss c.session) rc uptime hserving hpay
  refine h.update _ _ ?_ ?_ fun j hj => ?_
  · rw [hstate]
    by_cases hrc : rc = 0
    · have hkeep : Function.update g.session c.session .serving = g.session :=
        Function.update_eq_self_iff.mpr ((h.session _).trans hserving).symm
      simp [Gateway.move, hrc, hkeep]
    · simp [Gateway.move, hrc]
  · have htopic : c.topic ≠ .status .own := by cases c <;> simp [ChanId.topic]
    have hsent : (g.publication pb c).sent = ⟨g.connection c.session, c.topic, payload⟩ := by
      simp [Publication.sent, State.publication, hpay]
    rw [haccount, account_publish, ← h.account, account_next]
    by_cases hrc : rc = 0
    · simp [Gateway.move, Gateway.written, hrc, htopic, counted_publication, hsent]
      rfl
    · simp [Gateway.move, Gateway.written, hrc]
      rfl
  · rw [account_next]
    by_cases hrc : rc = 0 <;>
      simp [Gateway.move, Gateway.written, hrc, counted_publication, Ne.symm hj] <;> rfl

lemma answered_flush_some (h : Shows s g) (hand : InHand s) {c : ChanId} {rc uptime : ℤ}
    (hl : enabled s (.call (.publish c (s.taken c) rc uptime))) {payload : Bytes}
    (hprog : (s.chan c).progress = .holding)
    (hpay : payloadOf pb c (s.chan c).buffer.2 = some payload) :
    Answered pb node s g (.call (.publish c (s.taken c) rc uptime)) := by
  have hpc : s.loop.pc = .publish c := hl.2.1
  have hplace := place_eq hl.1 (.inl (by simp [hpc]))
  have hacc := h.accounts hplace
  have hpublish : g.pc = .publish c := h.at hplace hpc
  have hheld : g.held c = (s.chan c).buffer.2 := by rw [Gateway.State.held, h.chan]
  have htaken : s.taken c = some (g.held c) := by simp [State.taken, hprog, hheld]
  obtain ⟨-, hread, hserving⟩ : s.due c :=
    (hand.held c (by simp [hprog])).resolve_right fun hacc => by simp [State.accepted, hpc] at hacc
  have hk : Gateway.enabled pb g (.hand c (rc = 0)) :=
    ⟨⟨hpublish, by rw [hheld, hpay]; rfl⟩, (h.chanEnabled c .hand).mpr hprog⟩
  have hanswer : answer pb node s (.call (.publish c (s.taken c) rc uptime)) =
      [.hand c (rc = 0)] := by
    simp [answer, State.answerCall, hprog, hpay]
  have heff : Gateway.effect (.hand c (rc = 0)) =
      effect pb s (.call (.publish c (s.taken c) rc uptime)) := by
    simp [effect, hprog, hpay, Gateway.effect]
  refine ⟨Gateway.next pb g (.hand c (rc = 0)), ?_, Accounts.shows hand hl ?_
    (chan_answer h.chan heff) ?_ fun _ c' => ?_⟩
  · rw [hanswer]
    exact .one hk
  · change Accounts (if s.loop.readable (.evt c) then Function.update s.loop.sessions c.session
      ((s.loop.sessions c.session).flush pb c (s.taken c) rc uptime) else s.loop.sessions) _
    rw [if_pos hread, htaken]
    exact hacc.hand rc uptime hserving (hheld.symm ▸ hpay)
  · rw [placeOf_published]
    change (Gateway.move g (.hand c (rc = 0))).pc = _
    by_cases hrc : rc = 0 <;> simp [Gateway.move, hrc]
  · refine Eq.trans ?_ (h.ready (by rw [hpc]; trivial) c')
    change (Gateway.move g (.hand c (rc = 0))).ready c' = _
    by_cases hrc : rc = 0 <;> simp [Gateway.move, hrc]

lemma answered_flush (h : Shows s g) (hand : InHand s) (c : ChanId) (msg : Option c.Msg)
    (rc uptime : ℤ) (hl : enabled s (.call (.publish c msg rc uptime))) :
    Answered pb node s g (.call (.publish c msg rc uptime)) := by
  obtain ⟨rfl, hquiet⟩ : msg = s.taken c ∧
    (s.due c → (s.chan c).progress = .idle → ¬ (s.chan c).signalled) := hl.2.2
  have hpc : s.loop.pc = .publish c := hl.2.1
  have hplace := place_eq hl.1 (.inl (by simp [hpc]))
  have hacc := h.accounts hplace
  have hpublish : g.pc = .publish c := h.at hplace hpc
  have hready (c' : ChanId) : g.ready c' = decide (s.loop.readable (.evt c')) :=
    h.ready (by rw [hpc]; trivial) c'
  cases hprog : (s.chan c).progress with
  | idle =>
      have hskip : Gateway.enabled pb g (.skip c) := by
        refine ⟨⟨hpublish, h.chan ▸ hprog, ?_⟩, trivial⟩
        rintro ⟨hr, hserving, hsig⟩
        refine hquiet ⟨hpc, of_decide_eq_true ((hready c).symm.trans hr), ?_⟩ hprog (h.chan ▸ hsig)
        exact (hacc.session _).symm.trans hserving
      exact answered_flush_none h hand hl (by simp [taken_of_idle hprog]) hskip
        (by simp [answer, State.answerCall, hprog]) (by simp [effect, hprog, Gateway.effect]) rfl
        ⟨rfl, rfl, rfl⟩ rfl
  | drained =>
      have hfail : Gateway.enabled pb g (.readFail c) :=
        ⟨hpublish, (h.chanEnabled c .readFail).mpr hprog⟩
      exact answered_flush_none h hand hl (by simp [State.taken, hprog]) hfail
        (by simp [answer, State.answerCall, hprog]) (by simp [effect, hprog, Gateway.effect]) rfl
        ⟨rfl, rfl, rfl⟩ rfl
  | holding =>
      have htaken : s.taken c = some (s.chan c).buffer.2 := by simp [State.taken, hprog]
      have hheld : g.held c = (s.chan c).buffer.2 := by rw [Gateway.State.held, h.chan]
      cases hpay : payloadOf pb c (s.chan c).buffer.2 with
      | none =>
          have hdiscard : Gateway.enabled pb g (.discard c) :=
            ⟨⟨hpublish, hheld.symm ▸ hpay⟩, (h.chanEnabled c .discard).mpr hprog⟩
          exact answered_flush_none h hand hl (by simp [htaken, hpay]) hdiscard
            (by simp [answer, State.answerCall, hprog, hpay])
            (by simp [effect, hprog, hpay, Gateway.effect]) rfl ⟨rfl, rfl, rfl⟩ rfl
      | some payload => exact answered_flush_some h hand hl hprog hpay

end Calls

end ClimateNode.Gateway.WholeLoop
