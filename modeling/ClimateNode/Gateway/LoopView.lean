import ClimateNode.Automata.Refinement
import ClimateNode.Gateway.Accounts
import ClimateNode.Gateway.WholeLoop

/-!
The channels' model of `main` as the view of the whole loop.  `Passes.machine` has the
sessions, the clock and the MQTT library; `Gateway.machine` has the channels, and of the
sessions what the channels need.  `WholeLoop.machine` is both.

* `Shows`: a state of the channels' model for a state of the loop, accounts included.
* `answer`: the steps of the channels' model that answer a label.
* `answered_channel`: **short of a call**, the producers, the descriptors and the reads.
-/

namespace ClimateNode.Gateway.WholeLoop

open Automata Wire

/-! ### The same in the channels' model -/

/-- Where a place of the passes is in the channels' model. -/
def placeOf : Passes.Pc → Gateway.Pc
  | .top | .connect _ | .poll => .connect
  | .input _ | .clock => .input
  | .step _ => .sessions
  | .publish c => .publish c

/-- Where the channels' model stands. -/
def State.place (s : State) : Gateway.Pc :=
  match s.creating with
  | some c => .boot c
  | none =>
      if s.loop.pc = .step .peer ∧ s.taken .relayStatus ≠ none then .announced
      else placeOf s.loop.pc

/-- The state of a session in the channels' model, where the peer serves from the read of
`session_serving` on. -/
def State.shown (s : State) (i : SessionId) : SessionState :=
  if s.place = .announced ∧ i = .peer then .serving else (s.loop.sessions i).state

/-- The loop is past the poll of its pass. -/
def polled : Passes.Pc → Prop
  | .top | .connect _ | .poll => False
  | .input _ | .clock | .step _ | .publish _ => True

/-- A state of the channels' model for a state of the loop. -/
structure Shows (s : State) (g : Gateway.State) : Prop where
  chan : g.chan = s.chan
  pc : g.pc = s.place
  session : ∀ i, g.session i = s.shown i
  ready : polled s.loop.pc → ∀ c, g.ready c = decide (s.loop.readable (.evt c))
  account : ∀ i, g.account i = (s.loop.sessions i).account

/-- A session that is given up. -/
def givenUp (i : SessionId) (t t' : Session) : List Gateway.Label :=
  if t'.state = t.state then [] else [.drop i]

section Answer

variable (pb : Nanopb) (node : NodeIdentity)

/-- `session_serving` in the channels' model. -/
def State.served (s : State) (rc : ℤ) : SessionId → List Gateway.Label
  | .own => [.serve .own]
  | .peer =>
      match s.taken .relayStatus with
      | none => [.serve .peer, .announceReadFail]
      | some st => [if RelayStatus.nodeId st = 0 then .announceNothing else .announce (rc = 0)]

/-- The Ack of `handle_incoming_publish` there, if the library takes it. -/
def State.acked (s : State) (i : SessionId) (pub : Arrival) (answers : ArrivalAnswers) :
    List Gateway.Label :=
  if answers.read = true ∧ answers.publish = 0 then
    match (ClimateNode.handleIncomingPublish pb node s.loop.commands
        (decide (pub.topic = kPeerTopicCommand)) pub.payload answers.bus).1 with
    | .ack (some payload) => [.incoming i payload]
    | _ => []
  else []

/-- What the channels' model does for a call. -/
def State.answerCall (s : State) : Passes.Label → List Gateway.Label
  | .connect i rc _ =>
      if (s.loop.sessions i).state = .idle ∧ (s.loop.sessions i).retryAt ≤ s.loop.now then
        [.connect i (rc = 0)]
      else []
  | .poll (some revents) =>
      [.poll fun c => decide (.evt c ∈ pollSet s.loop.sessions ∧ revents (.evt c) = true)]
  | .event i (.publish pub answers) => s.acked pb node i pub answers
  | .input i rc uptime =>
      if s.loop.readable (.sock i) then
        givenUp i (s.loop.sessions i) ((s.loop.sessions i).input rc uptime)
      else []
  | .clock _ => [.inputDone]
  | .step i answers =>
      let t := s.loop.sessions i
      (if t.state = .connecting ∧ t.connected = true then s.served answers.publish i
        else givenUp i t (t.step i s.loop.now answers)) ++
        match i with
        | .own => []
        | .peer => [.sessionsDone]
  | .publish c _ rc _ =>
      match (s.chan c).progress with
      | .idle => [.skip c]
      | .drained => [.readFail c]
      | .holding =>
          [if payloadOf pb c (s.chan c).buffer.2 = none then .discard c else .hand c (rc = 0)]
  | .top _ | .poll none | .event _ _ | .disconnected _ => []

/-- What the channels' model does for a label. -/
def answer (s : State) : Label → List Gateway.Label
  | .store c m => [.store c m]
  | .notify c => [.notify c]
  | .unlock c => [.unlock c]
  | .create c => [.create c]
  | .peek => [.serve .peer, .announceRead]
  | .drain c => [.drain c]
  | .read c => [.read c]
  | .call l => s.answerCall pb node l

end Answer

section Refinement

variable {pb : Nanopb} {node : NodeIdentity} {s : State} {g : Gateway.State} {l : Label}

/-- A label is answered. -/
def Answered (pb : Nanopb) (node : NodeIdentity) (s : State) (g : Gateway.State) (l : Label) :
    Prop :=
  ∃ g', (Gateway.machine pb).Path g (answer pb node s l) g' ∧ Shows (next pb node s l) g'

/-- The channels follow when the answer does to them what the label does. -/
lemma chan_answer (h : g.chan = s.chan) {k : Gateway.Label}
    (heff : Gateway.effect k = effect pb s l) :
    (Gateway.next pb g k).chan = (next pb node s l).chan := by
  simp only [Gateway.next, next, heff]
  cases effect pb s l with
  | none => exact h
  | some b => simp only [Gateway.chanNext, State.chanNext, h]

/-- The channel allows its part of the answer. -/
lemma Shows.chanEnabled (h : Shows s g) (c : ChanId) (b : Doorbell.Label c.Msg) :
    Gateway.chanEnabled g (some ⟨c, b⟩) ↔ Doorbell.enabled (s.chan c) b := by
  rw [← h.chan]
  rfl

/-- Where the loop stands while it has not read in `session_serving`. -/
lemma place_eq (hcreated : s.creating = none)
    (h : s.loop.pc ≠ .step .peer ∨ s.taken .relayStatus = none) :
    s.place = placeOf s.loop.pc := by
  rw [State.place, hcreated]
  exact if_neg fun hann => h.elim (fun hpc => hpc hann.1) fun htaken => hann.2 htaken

lemma placeOf_ne_announced (pc : Passes.Pc) : placeOf pc ≠ .announced := by
  cases pc <;> simp [placeOf]

lemma taken_of_idle {c : ChanId} (h : (s.chan c).progress = .idle) : s.taken c = none := by
  simp [State.taken, h]

/-- The channels' model stands where the loop does. -/
lemma Shows.at (h : Shows s g) (hplace : s.place = placeOf s.loop.pc) {pc : Passes.Pc}
    (hpc : s.loop.pc = pc) : g.pc = placeOf pc := by rw [h.pc, hplace, hpc]

/-- After a call nothing is in hand. -/
lemma call_place (hand : InHand s) {l : Passes.Label} (hl : enabled s (.call l)) :
    (next pb node s (.call l)).place = placeOf (Passes.next pb node s.loop l).pc :=
  place_eq hl.1 (.inr (taken_of_idle (idle_of_call hand hl _)))

/-! ### Short of a call -/

/-- A step on a channel that moves the loop no further than to the next descriptor. -/
lemma answered_channel (k : Gateway.Label) (h : Shows s g) (hk : Gateway.enabled pb g k)
    (hanswer : answer pb node s l = [k]) (heff : Gateway.effect k = effect pb s l)
    (hloop : (next pb node s l).loop = s.loop)
    (hpc : (Gateway.move g k).pc = (next pb node s l).place)
    (hann : (next pb node s l).place = .announced ↔ s.place = .announced)
    (hmove : (Gateway.move g k).session = g.session ∧ (Gateway.move g k).ready = g.ready ∧
      (Gateway.move g k).connection = g.connection) (hwritten : Gateway.written pb g k = []) :
    Answered pb node s g l := by
  obtain ⟨hsession, hready, hconn⟩ := hmove
  refine ⟨_, hanswer ▸ Machine.Path.one hk, chan_answer h.chan heff, hpc, fun i => ?_,
    fun hp c => ?_, fun i => ?_⟩
  · refine (congrFun hsession i).trans ((h.session i).trans ?_)
    simp only [State.shown, hann, hloop]
  · rw [hloop] at hp ⊢
    exact (congrFun hready c).trans (h.ready hp c)
  · rw [account_next, hconn, hwritten, hloop, List.filter_nil, List.map_nil, List.append_nil]
    exact h.account i

lemma answered_store (h : Shows s g) (c : ChanId) (m : c.Msg)
    (hl : enabled s (.store c m)) : Answered pb node s g (.store c m) := by
  have hplace : (next pb node s (.store c m)).place = s.place := by cases c <;> rfl
  exact answered_channel (.store c m) h ⟨hl.1, (h.chanEnabled c _).mpr hl.2⟩ rfl rfl rfl
    (h.pc.trans hplace.symm) (by rw [hplace]) ⟨rfl, rfl, rfl⟩ rfl

lemma answered_notify (h : Shows s g) (c : ChanId) (hl : enabled s (.notify c)) :
    Answered pb node s g (.notify c) := by
  have hplace : (next pb node s (.notify c)).place = s.place := by cases c <;> rfl
  exact answered_channel (.notify c) h ⟨trivial, (h.chanEnabled c _).mpr hl⟩ rfl rfl rfl
    (h.pc.trans hplace.symm) (by rw [hplace]) ⟨rfl, rfl, rfl⟩ rfl

lemma answered_unlock (h : Shows s g) (c : ChanId) (hl : enabled s (.unlock c)) :
    Answered pb node s g (.unlock c) := by
  have hplace : (next pb node s (.unlock c)).place = s.place := by cases c <;> rfl
  exact answered_channel (.unlock c) h ⟨trivial, (h.chanEnabled c _).mpr hl⟩ rfl rfl rfl
    (h.pc.trans hplace.symm) (by rw [hplace]) ⟨rfl, rfl, rfl⟩ rfl

lemma answered_create (h : Shows s g) (hand : InHand s) (c : ChanId)
    (hl : enabled s (.create c)) : Answered pb node s g (.create c) := by
  have hloop : s.loop = Passes.boot := hand.booting (by simp [hl.1])
  have hplace : s.place = .boot c := by simp [State.place, hl.1]
  have hplace' : (next pb node s (.create c)).place = .created c := by
    cases c <;> simp [State.place, placeOf, next, Label.toPasses, hloop, Passes.boot, Pc.created,
      ChanId.succ]
  refine answered_channel (.create c) h ⟨h.pc.trans hplace, (h.chanEnabled c _).mpr hl.2⟩ rfl rfl
    rfl hplace'.symm ?_ ⟨rfl, rfl, rfl⟩ rfl
  rw [hplace', hplace]
  cases c <;> simp [Pc.created, ChanId.succ]

/-- The loop is at a channel. -/
lemma State.due.place_eq {c : ChanId} (hdue : s.due c) (hand : InHand s) :
    s.place = .publish c := by
  rw [WholeLoop.place_eq (hand.created (by simp [hdue.1])) (.inl (by simp [hdue.1])), hdue.1]
  rfl

lemma answered_drain (h : Shows s g) (hand : InHand s) (c : ChanId)
    (hl : enabled s (.drain c)) : Answered pb node s g (.drain c) := by
  obtain ⟨hdue, hen⟩ := hl
  have hplace := hdue.place_eq hand
  have hplace' : (next pb node s (.drain c)).place = .publish c := by
    simp [State.place, placeOf, next, Label.toPasses, hand.created (by simp [hdue.1]), hdue.1]
  have hsession : g.session c.session = .serving := by
    rw [h.session, State.shown, hplace, if_neg (by simp)]
    exact hdue.2.2
  have hready : g.ready c = true := by
    rw [h.ready (by rw [hdue.1]; trivial)]
    exact decide_eq_true hdue.2.1
  exact answered_channel (.drain c) h
    ⟨⟨h.pc.trans hplace, hready, hsession⟩, (h.chanEnabled c _).mpr hen⟩ rfl rfl rfl
    (h.pc.trans (hplace.trans hplace'.symm)) (by rw [hplace, hplace']) ⟨rfl, rfl, rfl⟩ rfl

lemma answered_read (h : Shows s g) (hand : InHand s) (c : ChanId)
    (hl : enabled s (.read c)) : Answered pb node s g (.read c) := by
  obtain ⟨hdue, hen⟩ := hl
  have hplace := hdue.place_eq hand
  have hplace' : (next pb node s (.read c)).place = .publish c := by
    simp [State.place, placeOf, next, Label.toPasses, hand.created (by simp [hdue.1]), hdue.1]
  exact answered_channel (.read c) h ⟨h.pc.trans hplace, (h.chanEnabled c _).mpr hen⟩ rfl rfl rfl
    (h.pc.trans (hplace.trans hplace'.symm)) (by rw [hplace, hplace']) ⟨rfl, rfl, rfl⟩ rfl

/-- `session_serving` reads: in the channels' model the peer serves from here on. -/
lemma answered_peek (h : Shows s g) (hand : InHand s) (hl : enabled s .peek) :
    Answered pb node s g .peek := by
  obtain ⟨⟨hpc, hstate, hconn⟩, hidle, hfree⟩ := hl
  have hcreated := hand.created (by simp [hpc])
  have hplace : s.place = .sessions := by
    rw [place_eq hcreated (.inr (taken_of_idle hidle)), hpc]
    rfl
  have hplace' : (next pb node s .peek).place = .announced := by
    simp [State.place, next, Label.toPasses, hcreated, hpc, State.taken, State.chanNext, effect,
      Doorbell.next]
  have hsession : g.session .peer = .connecting := by
    rw [h.session, State.shown, hplace, if_neg (by simp)]
    exact hstate
  have hserve : Gateway.enabled pb g (.serve .peer) := ⟨⟨h.pc.trans hplace, hsession⟩, trivial⟩
  have hread : Gateway.enabled pb (Gateway.next pb g (.serve .peer)) .announceRead := by
    refine ⟨rfl, ?_⟩
    change Doorbell.enabled (g.chan .relayStatus) .peek
    rw [h.chan]
    exact ⟨hidle, hfree⟩
  refine ⟨_, Machine.Path.two hserve hread, ?_, hplace'.symm, fun i => ?_, fun hp c => ?_,
    fun i => ?_⟩
  · change Gateway.chanNext g (some ⟨.relayStatus, .peek⟩) = _
    rw [Gateway.chanNext, h.chan]
    rfl
  · change Function.update g.session .peer .serving i = _
    rw [State.shown, hplace']
    by_cases hi : i = .peer
    · simp [hi]
    · rw [Function.update_of_ne hi, if_neg (by simp [hi]), h.session, State.shown, hplace,
        if_neg (by simp)]
      rfl
  · exact h.ready hp c
  · have hlog : (Gateway.next pb (Gateway.next pb g (.serve .peer)) .announceRead).account i =
        g.account i := by
      simp [account_next, Gateway.move, Gateway.written]
      rfl
    exact hlog.trans (h.account i)

end Refinement

end ClimateNode.Gateway.WholeLoop
