import ClimateNode.Gateway.RoundTrip
import ClimateNode.Shared.Ack

/-!
The rendezvous of `tx_thread` and `rx_thread` of `gateway/src/relay.cpp`: what a
give of `ack_received` and the end of `isotp_send` make of the command they are
for, whatever the two threads do in between.

* `watched`: the machine of the round trip with the events of a command on
  record, and the text the next Ack of the gateway's own will carry.
* `Stage`: the lives a command can have, and `recorded_inductive`: every command
  of a run has one of them.
* `authored_inductive`: the Acks of the gateway's own on `chan_relay_ack` are those
  on record.
* `no_lost_wakeup`: **a give is not lost**, and a transfer that fails is answered
  once and not waited for.
-/

namespace ClimateNode.RoundTrip

open Automata Doorbell Wire

/-! ### Events -/

/-- The two texts `tx_thread` hands to `send_synthetic_ack`. -/
inductive Detail where
  | noRoute | noResponse
  deriving DecidableEq, Repr

/-- `"no route to node over CAN"` and `"no response over CAN"`. -/
def Detail.text : Detail → String
  | .noRoute => "no route to node over CAN"
  | .noResponse => "no response over CAN"

/-- What happens to a command: its transfer starts, fails or is followed by the
wait, its Ack releases the wait, the wait expires, `send_synthetic_ack` is called
for it, and its Ack stored or not. -/
inductive Event where
  | started (cmd : Ticket)
  | sendFailed (cmd : Ticket)
  | waits (cmd : Ticket)
  | gave (cmd : Ticket)
  | expired (cmd : Ticket)
  | synthesized (cmd : Ticket) (detail : Detail) (stored : Bool)
  deriving DecidableEq, Repr

/-- The command an event is about. -/
def Event.ticket : Event → Ticket
  | .started cmd | .sendFailed cmd | .waits cmd | .gave cmd | .expired cmd
  | .synthesized cmd _ _ => cmd

/-- A give. -/
def Event.isGive : Event → Bool
  | .gave _ => true
  | _ => false

/-- The events so far, and the text of the Ack `tx_thread` is about to author. -/
structure History where
  detail : Detail
  log : List Event
  deriving DecidableEq, Repr

/-- What a step adds.  A give is for the Ack `rx_thread` has in its hands. -/
def record (s : State) (h : History) : Label → History
  | .reset => { h with log := h.log ++ [.started s.cmd] }
  | .sendFail => { detail := .noRoute, log := h.log ++ [.sendFailed s.cmd] }
  | .sendOk => { h with log := h.log ++ [.waits s.cmd] }
  | .expire => { detail := .noResponse, log := h.log ++ [.expired s.cmd] }
  | .synthStore => { h with log := h.log ++ [.synthesized s.cmd h.detail true] }
  | .synthFail => { h with log := h.log ++ [.synthesized s.cmd h.detail false] }
  | .give => { h with log := h.log ++ [.gave s.ack.ticket] }
  | _ => h

/-- The machine of the round trip, watched. -/
def watched : Machine (State × History) Label := machine.annotate ⟨.noRoute, []⟩ record

instance (s : State × History) (l : Label) : Decidable (watched.enabled s l) :=
  inferInstanceAs (Decidable (machine.enabled s.1 l))

/-- The text of the Ack an event synthesizes for a command. -/
def Event.detailFor (c : Ticket) : Event → Option Detail
  | .synthesized cmd detail _ => if cmd = c then some detail else none
  | _ => none

/-- The Acks synthesized for a command, by their texts. -/
def synthesizedFor (c : Ticket) (log : List Event) : List Detail := log.filterMap (Event.detailFor c)

/-- The Ack an event stores on `chan_relay_ack`. -/
def Event.ack : Event → Option RelayedAck
  | .synthesized cmd _ true => some ⟨cmd, .failed, true⟩
  | _ => none

/-- The Acks of the gateway's own among those stored for a command. -/
def authoredFor (c : Ticket) (history : List RelayedAck) : List RelayedAck :=
  history.filter fun a => a.synthesized && decide (a.ticket = c)

/-! ### The life of a command -/

/-- The lives of a command so far: not begun, its transfer under way, failed,
failed and answered, waited for, given up, given up and answered. -/
inductive Stage where
  | queued | sending | refused
  | noRoute (stored : Bool)
  | waiting | expired
  | noResponse (stored : Bool)
  deriving DecidableEq, Repr

/-- What has happened to a command in each. -/
def Stage.events (c : Ticket) : Stage → List Event
  | .queued => []
  | .sending => [.started c]
  | .refused => [.started c, .sendFailed c]
  | .noRoute stored => [.started c, .sendFailed c, .synthesized c .noRoute stored]
  | .waiting => [.started c, .waits c]
  | .expired => [.started c, .waits c, .expired c]
  | .noResponse stored =>
      [.started c, .waits c, .expired c, .synthesized c .noResponse stored]

/-- What happened to a command, the gives apart. -/
def trip (c : Ticket) (log : List Event) : List Event :=
  log.filter fun e => decide (e.ticket = c) && !e.isGive

/-- `tx_thread` is done with a command that has come this far. -/
def Stage.settled : Stage → Prop
  | .noRoute _ | .waiting | .noResponse _ => True
  | .queued | .sending | .refused | .expired => False

/-- How far the command taken last has come, by where `tx_thread` stands. -/
def Stage.current (st : Stage) (detail : Detail) : TxPhase → Prop
  | .ready => st = .queued
  | .sending => st = .sending
  | .waiting => st = .waiting
  | .giveUp => (detail = .noRoute ∧ st = .refused) ∨ (detail = .noResponse ∧ st = .expired)
  | .idle | .stored | .notified => st.settled

/-- How far a command has come. -/
structure Stage.fits (st : Stage) (s : State) (detail : Detail) (c : Ticket) : Prop where
  untaken : c ∉ s.taken → st = .queued
  earlier : c ∈ s.taken → c ≠ s.cmd → st.settled
  current : c ∈ s.taken → c = s.cmd → st.current detail s.tx

variable {c : Ticket} {log : List Event} {e : Event}

lemma trip_concat (c : Ticket) (log : List Event) (e : Event) :
    trip c (log ++ [e]) = trip c log ++ if e.ticket = c ∧ e.isGive = false then [e] else [] := by
  by_cases h : e.ticket = c ∧ e.isGive = false
  · simp [trip, h]
  · rw [if_neg h, trip, List.filter_append]
    have : ([e].filter fun e => decide (e.ticket = c) && !e.isGive) = [] := by
      simpa using h
    rw [this, trip]

/-- Nothing happens to a command by an event of another, or by a give. -/
lemma trip_other (h : e.ticket = c → e.isGive = true) : trip c (log ++ [e]) = trip c log := by
  rw [trip_concat, if_neg, List.append_nil]
  rintro ⟨hc, hgive⟩
  simp [h hc] at hgive

lemma mem_trip (he : e.isGive = false) : e ∈ trip e.ticket log ↔ e ∈ log := by
  simp [trip, he]

lemma synthesizedFor_trip (c : Ticket) (log : List Event) :
    synthesizedFor c (trip c log) = synthesizedFor c log := by
  rw [synthesizedFor, trip, List.filterMap_filter, synthesizedFor]
  congr 1
  funext e
  cases e with
  | synthesized cmd detail stored => by_cases h : cmd = c <;>
      simp [Event.detailFor, Event.ticket, Event.isGive, h]
  | _ => simp [Event.detailFor]

lemma authoredFor_trip (c : Ticket) (log : List Event) :
    authoredFor c (log.filterMap Event.ack) = (trip c log).filterMap Event.ack := by
  rw [authoredFor, trip, List.filter_filterMap, List.filterMap_filter]
  congr 1
  funext e
  cases e with
  | synthesized cmd detail stored =>
      by_cases h : cmd = c <;> cases stored <;> simp [Event.ack, Event.ticket, Event.isGive, h]
  | _ => simp [Event.ack]

/-! ### Every command of a run has one of them -/

/-- Gives come after the start of the transfer they are for, and a wait that has
been given to does not expire. -/
def GivesInTime (log : List Event) : Prop :=
  ∀ pre post c, log = pre ++ .gave c :: post →
    .started c ∈ pre ∧ (.expired c ∈ log → .expired c ∈ pre)

/-- Every command has one of the lives; what the peer owes or `rx_thread` holds
answers a transfer that was started; the semaphore is available to a command that
was given to and is not done. -/
structure Recorded (s : State) (h : History) : Prop where
  idLt : ∀ t ∈ s.taken, t.id < s.taken.length
  inHand : s.tx ≠ .idle → s.cmd ∈ s.taken
  stages : ∀ c, ∃ st : Stage, trip c h.log = st.events c ∧ st.fits s h.detail c
  owed : ∀ t ∈ s.owed, .started t ∈ h.log
  held : s.rx ≠ .idle → .started s.ack.ticket ∈ h.log
  given : roundTripOpen s → .gave s.cmd ∈ h.log → s.sem = true
  inTime : GivesInTime h.log

section Recorded

variable {s t : State} {h : History}

/-- Where an entry of a longer log is. -/
lemma concat_split {pre post : List Event} {a : Event} (heq : log ++ [e] = pre ++ a :: post) :
    (a = e ∧ pre = log) ∨ ∃ post', log = pre ++ a :: post' := by
  rcases post.eq_nil_or_concat with rfl | ⟨post', b, rfl⟩
  · obtain ⟨hlog, ha⟩ := List.append_inj' heq rfl
    exact .inl ⟨by simpa using ha.symm, hlog.symm⟩
  · rw [List.concat_eq_append, ← List.cons_append, ← List.append_assoc] at heq
    exact .inr ⟨post', (List.append_inj' heq rfl).1⟩

/-- An event that is no give, and no expiry of a wait that was given to. -/
lemma GivesInTime.concat (hlog : GivesInTime log) (hgive : ∀ c, e ≠ .gave c)
    (hexp : ∀ c, e = .expired c → .gave c ∉ log) : GivesInTime (log ++ [e]) := by
  intro pre post c heq
  obtain ⟨rfl, -⟩ | ⟨post', rfl⟩ := concat_split heq
  · exact absurd rfl (hgive c)
  · obtain ⟨hstart, hkeep⟩ := hlog pre post' c rfl
    refine ⟨hstart, fun hmem => ?_⟩
    rcases List.mem_append.mp hmem with hmem | hmem
    · exact hkeep hmem
    · exact absurd (by simp) (hexp c (List.mem_singleton.mp hmem).symm)

/-- A give for a transfer that was started. -/
lemma GivesInTime.give (hlog : GivesInTime log) (hstart : .started c ∈ log) :
    GivesInTime (log ++ [.gave c]) := by
  intro pre post c' heq
  have hexp : .expired c' ∈ log ++ [.gave c] → .expired c' ∈ log := by simp
  obtain ⟨hc, rfl⟩ | ⟨post', rfl⟩ := concat_split heq
  · obtain rfl : c' = c := Event.gave.inj hc
    exact ⟨hstart, hexp⟩
  · obtain ⟨hstart', hkeep⟩ := hlog pre post' c' rfl
    exact ⟨hstart', fun hmem => hkeep (hexp hmem)⟩

lemma GivesInTime.started_of_gave (hlog : GivesInTime log) (h : .gave c ∈ log) :
    .started c ∈ log := by
  obtain ⟨pre, post, rfl⟩ := List.append_of_mem h
  exact List.mem_append_left _ (hlog pre post c rfl).1

/-- The stage of the command at hand. -/
lemma Recorded.stage (hr : Recorded s h) (hne : s.tx ≠ .idle) :
    ∃ st : Stage, trip s.cmd h.log = st.events s.cmd ∧ st.current h.detail s.tx := by
  obtain ⟨st, htrip, hfits⟩ := hr.stages s.cmd
  exact ⟨st, htrip, hfits.current (hr.inHand hne) rfl⟩

/-- A step that leaves the command, its stage and the record as they are. -/
lemma Recorded.frame (hr : Recorded s h) (htaken : t.taken = s.taken) (hcmd : t.cmd = s.cmd)
    (htx : ∀ st : Stage, st.current h.detail s.tx → st.current h.detail t.tx)
    (hidle : t.tx ≠ .idle → s.tx ≠ .idle) (howed : ∀ u ∈ t.owed, .started u ∈ h.log)
    (hheld : t.rx ≠ .idle → .started t.ack.ticket ∈ h.log)
    (hgiven : roundTripOpen t → roundTripOpen s ∧ (s.sem = true → t.sem = true)) :
    Recorded t h where
  idLt := by simpa [htaken] using hr.idLt
  inHand hne := by simpa [htaken, hcmd] using hr.inHand (hidle hne)
  stages c := by
    obtain ⟨st, htrip, hfits⟩ := hr.stages c
    refine ⟨st, htrip, ?_, ?_, ?_⟩
    · simpa [htaken] using hfits.untaken
    · simpa [htaken, hcmd] using hfits.earlier
    · intro hmem heq
      exact htx st (hfits.current (by simpa [htaken] using hmem) (by simpa [hcmd] using heq))
  owed := howed
  held := hheld
  given hopen hgave := by
    obtain ⟨hopen', hsem⟩ := hgiven hopen
    exact hsem (hr.given hopen' (by simpa [hcmd] using hgave))
  inTime := hr.inTime

/-- A step of `tx_thread` that is an event of the command at hand. -/
lemma Recorded.advance (hr : Recorded s h) {tx : TxPhase} (htx : s.tx = tx) (hne : tx ≠ .idle)
    {detail : Detail} {e : Event} (he : e.ticket = s.cmd) (hgive : e.isGive = false)
    (htaken : t.taken = s.taken) (hcmd : t.cmd = s.cmd) (howed : t.owed = s.owed)
    (hrx : t.rx = s.rx) (hack : t.ack = s.ack)
    (hstage : ∀ st : Stage, st.current h.detail tx →
      ∃ st' : Stage, st'.events s.cmd = st.events s.cmd ++ [e] ∧ st'.current detail t.tx)
    (hgiven : roundTripOpen t → .gave s.cmd ∈ h.log → t.sem = true)
    (hexp : ∀ c, e = .expired c → .gave c ∉ h.log) :
    Recorded t ⟨detail, h.log ++ [e]⟩ where
  idLt := by simpa [htaken] using hr.idLt
  inHand _ := by simpa [htaken, hcmd] using hr.inHand (htx ▸ hne)
  stages c := by
    obtain ⟨st, htrip, hfits⟩ := hr.stages c
    by_cases hc : c = s.cmd
    · subst hc
      have hmem := hr.inHand (htx ▸ hne)
      -- the command at hand: the event takes it to its next stage
      obtain ⟨st', hev, hcur⟩ := hstage st (htx ▸ hfits.current hmem rfl)
      refine ⟨st', ?_, ?_, ?_, fun _ _ => hcur⟩
      · rw [trip_concat, if_pos ⟨he, hgive⟩, htrip, hev]
      · intro hnot
        exact absurd (by simpa [htaken] using hmem) hnot
      · intro _ hcne
        exact absurd hcmd.symm hcne
    · -- any other command stays at its stage
      refine ⟨st, ?_, ?_, ?_, ?_⟩
      · rw [trip_other (fun heq => absurd (heq.symm.trans he) hc), htrip]
      · simpa [htaken] using hfits.untaken
      · simpa [htaken, hcmd] using hfits.earlier
      · intro _ heq
        exact absurd (heq.trans hcmd) hc
  owed u hu := List.mem_append_left _ (hr.owed u (howed ▸ hu))
  held hne' := by
    rw [hack]
    exact List.mem_append_left _ (hr.held (hrx ▸ hne'))
  given hopen hgave := by
    rw [hcmd] at hgave
    refine hgiven hopen ?_
    rcases List.mem_append.mp hgave with hgave | hgave
    · exact hgave
    · rw [← List.mem_singleton.mp hgave] at hgive
      simp [Event.isGive] at hgive
  inTime := by
    refine hr.inTime.concat ?_ hexp
    rintro c rfl
    simp [Event.isGive] at hgive

/-- A command whose transfer is under way was started. -/
lemma Recorded.started (hr : Recorded s h) (htx : s.tx = .sending) : .started s.cmd ∈ h.log := by
  obtain ⟨st, htrip, hcur⟩ := hr.stage (by simp [htx])
  rw [htx] at hcur
  obtain rfl : st = .sending := hcur
  have hmem : Event.started s.cmd ∈ trip (Event.started s.cmd).ticket h.log := by
    simp [Event.ticket, htrip, Stage.events]
  exact (mem_trip rfl).mp hmem

/-- A command taken is a new one. -/
lemma Recorded.take (hr : Recorded s h) (hidle : s.tx = .idle) (sequence : UInt32) :
    Recorded (next s (.take sequence)) h := by
  have hnew : (⟨s.taken.length, sequence⟩ : Ticket) ∉ s.taken := fun hmem =>
    absurd (hr.idLt _ hmem) (lt_irrefl _)
  refine ⟨?_, ?_, ?_, hr.owed, hr.held, ?_, hr.inTime⟩
  · intro u hu
    simp only [next, List.length_append, List.length_singleton]
    rcases List.mem_append.mp hu with hu | hu
    · have := hr.idLt u hu
      omega
    · rw [List.mem_singleton.mp hu]
      exact Nat.lt_succ_self _
  · simp [next]
  · intro c
    obtain ⟨st, htrip, hfits⟩ := hr.stages c
    refine ⟨st, htrip, ?_, ?_, ?_⟩
    · intro hmem
      exact hfits.untaken fun hold => hmem (List.mem_append_left _ hold)
    · intro hmem hne
      rcases List.mem_append.mp hmem with hold | hc
      · by_cases hcur : c = s.cmd
        · simpa [hidle, Stage.current] using hfits.current hold hcur
        · exact hfits.earlier hold hcur
      · exact absurd (List.mem_singleton.mp hc) hne
    · intro _ hc
      have hc' : c = ⟨s.taken.length, sequence⟩ := hc
      exact hfits.untaken (hc' ▸ hnew)
  · simp [next, roundTripOpen]

end Recorded

theorem recorded_inductive : watched.Inductive fun s => Recorded s.1 s.2 where
  init := by
    refine ⟨?_, ?_, fun c => ⟨.queued, rfl, fun _ => rfl, ?_, ?_⟩, ?_, ?_, ?_, ?_⟩ <;>
      simp [watched, machine, Machine.annotate, boot, roundTripOpen, GivesInTime]
  step := by
    rintro ⟨s, h⟩ l hr hl
    change Recorded (next s l) (record s h l)
    change Recorded s h at hr
    cases l with
    | take sequence => exact hr.take hl sequence
    | reset =>
        have hl' : s.tx = .ready := hl
        refine hr.advance hl' (by simp) rfl rfl rfl rfl rfl rfl rfl ?_ ?_ (by simp)
        · rintro st (rfl : st = .queued)
          exact ⟨.sending, rfl, rfl⟩
        · -- no give can be left over: the transfer has only now started
          intro _ hgave
          obtain ⟨st, htrip, hcur⟩ := hr.stage (by simp [hl'])
          rw [hl'] at hcur
          obtain rfl : st = .queued := hcur
          have hmem := (mem_trip (e := .started s.cmd) rfl).mpr (hr.inTime.started_of_gave hgave)
          simp [Event.ticket, htrip, Stage.events] at hmem
    | deliver =>
        have hl' : s.tx = .sending := hl.1
        -- the peer owes an Ack of a command from here on, and that command was started
        refine hr.frame rfl rfl (fun _ => id) id ?_ hr.held fun hopen => ⟨hopen, id⟩
        intro u hu
        rcases List.mem_append.mp hu with hu | hu
        · exact hr.owed u hu
        · rw [List.mem_singleton.mp hu]
          exact hr.started hl'
    | sendOk =>
        have hl' : s.tx = .sending := hl
        refine hr.advance hl' (by simp) rfl rfl rfl rfl rfl rfl rfl ?_ ?_ (by simp)
        · rintro st (rfl : st = .sending)
          exact ⟨.waiting, rfl, rfl⟩
        · exact fun _ => hr.given (.inl hl')
    | sendFail =>
        have hl' : s.tx = .sending := hl
        refine hr.advance hl' (by simp) rfl rfl rfl rfl rfl rfl rfl ?_ ?_ (by simp)
        · rintro st (rfl : st = .sending)
          exact ⟨.refused, rfl, .inl ⟨rfl, rfl⟩⟩
        · simp [next, roundTripOpen]
    | semTake =>
        have hl' : s.tx = .waiting := hl.1
        refine hr.frame rfl rfl ?_ (by simp [next]) hr.owed hr.held (by simp [next, roundTripOpen])
        rintro st hcur
        rw [hl'] at hcur
        obtain rfl : st = .waiting := hcur
        trivial
    | expire =>
        have hl' : s.tx = .waiting := hl.1
        refine hr.advance hl' (by simp) rfl rfl rfl rfl rfl rfl rfl ?_ ?_ ?_
        · rintro st (rfl : st = .waiting)
          exact ⟨.expired, rfl, .inr ⟨rfl, rfl⟩⟩
        · simp [next, roundTripOpen]
        · -- a wait that was given to finds the semaphore available
          rintro c hc hgave
          obtain rfl : s.cmd = c := Event.expired.inj hc
          have hsem : s.sem = false := hl.2
          simpa [hsem] using hr.given (.inr hl') hgave
    | synthStore | synthFail =>
        have hl' : s.tx = .giveUp := by first | exact hl | exact hl.1
        refine hr.advance hl' (by simp) rfl rfl rfl rfl rfl rfl rfl ?_ ?_ (by simp)
        · -- the detail tells the two ways here apart
          rintro st (⟨hd, rfl⟩ | ⟨hd, rfl⟩)
          · exact ⟨.noRoute _, by rw [hd]; rfl, trivial⟩
          · exact ⟨.noResponse _, by rw [hd]; rfl, trivial⟩
        · simp [next, roundTripOpen]
    | synthNotify | synthUnlock =>
        refine hr.frame rfl rfl ?_ ?_ hr.owed hr.held (by simp [next, roundTripOpen])
        · intro st hcur
          rw [show s.tx = _ from hl] at hcur
          exact hcur
        · simp [show s.tx = _ from hl]
    | recv ticket status =>
        -- the Ack is one the peer owed, so its command was started
        refine hr.frame rfl rfl (fun _ => id) id ?_ ?_ fun hopen => ⟨hopen, id⟩
        · exact fun u hu => hr.owed u (List.mem_of_mem_erase hu)
        · exact fun _ => hr.owed ticket hl.2
    | ackStore | ackFail =>
        have hl' : s.rx = .received := by first | exact hl | exact hl.1
        exact hr.frame rfl rfl (fun _ => id) id hr.owed (fun _ => hr.held (by simp [hl']))
          fun hopen => ⟨hopen, id⟩
    | ackNotify | ackUnlock =>
        have hne : s.rx ≠ .idle := by simp [show s.rx = _ from hl]
        exact hr.frame rfl rfl (fun _ => id) id hr.owed (fun _ => hr.held hne)
          fun hopen => ⟨hopen, id⟩
    | give =>
        have hne : s.rx ≠ .idle := by simp [show s.rx = _ from hl]
        have hgive : (Event.gave s.ack.ticket).isGive = true := rfl
        -- a give is no event of a round trip, and leaves the semaphore available
        refine ⟨hr.idLt, hr.inHand, ?_, ?_, ?_, fun _ _ => rfl, hr.inTime.give (hr.held hne)⟩
        · intro c
          obtain ⟨st, htrip, hfits⟩ := hr.stages c
          refine ⟨st, ?_, hfits.untaken, hfits.earlier, hfits.current⟩
          rw [record, trip_other fun _ => hgive, htrip]
        · exact fun u hu => List.mem_append_left _ (hr.owed u hu)
        · simp [next]
    | main m =>
        exact hr.frame rfl rfl (fun _ => id) id hr.owed hr.held fun hopen => ⟨hopen, id⟩

/-! ### What it comes to -/

/-- The Ack `send_synthetic_ack` authors always encodes, and says what it is
asked to say. -/
lemma syntheticAck_decodes (sequence : UInt32) (detail : Detail) :
    ∃ up, syntheticAck Nanopb.proto3 sequence (cstr detail.text) = some up ∧
      decodeAck up.payload = some
        ⟨kSchemaVersion, sequence, UInt32.ofNat AckStatus.failed.wire, cstr detail.text, none⟩ := by
  obtain ⟨hpos, hle⟩ : 1 ≤ (encodeAck Nanopb.proto3 sequence .failed (some (cstr detail.text)) none
      nodeAckSize).length ∧ _ := encodeAck_length sequence .failed (some (cstr detail.text)) (by simp)
  have hfits : (encodeAck Nanopb.proto3 sequence .failed (some (cstr detail.text)) none
      nodeAckSize).length ≤ kRelayUpMax := hle.trans (by decide)
  refine ⟨⟨kPeerNodeId, _, hfits⟩, ?_, ?_⟩
  · rw [syntheticAck, publishUp]
    exact (if_pos hpos).trans (dif_pos hfits)
  · rw [decodeAck_encodeAck sequence .failed (some (cstr detail.text)) (by simp), Option.getD_some]
    cases detail <;> rfl

/-- The Acks of the gateway's own on the channel are those on record, and `rx_thread`
holds none of them. -/
structure Authored (s : State) (h : History) : Prop where
  stored : s.chan.history.filter (·.synthesized) = h.log.filterMap Event.ack
  held : s.ack.synthesized = false

theorem authored_inductive : watched.Inductive fun s => Authored s.1 s.2 where
  init := ⟨rfl, rfl⟩
  step := by
    rintro ⟨s, h⟩ l ha hl
    change Authored (next s l) (record s h l)
    obtain ⟨hstored, hheld⟩ : Authored s h := ha
    cases l with
    | reset | sendOk | sendFail | expire | give | synthFail =>
        refine ⟨?_, hheld⟩
        simpa [next, record, List.filterMap_cons, Event.ack] using hstored
    | synthStore =>
        refine ⟨?_, hheld⟩
        simpa [next, record, List.filterMap_cons, Event.ack, onChan, Doorbell.next] using hstored
    | ackStore =>
        refine ⟨?_, hheld⟩
        simpa [next, record, onChan, Doorbell.next, List.filter_cons, hheld] using hstored
    | recv ticket status => exact ⟨hstored, rfl⟩
    | main m =>
        refine ⟨?_, hheld⟩
        change (onChan s m).history.filter (·.synthesized) = _
        rw [history_main hl.1]
        exact hstored
    | _ => exact ⟨hstored, hheld⟩

/-- What is on the channel for a command, by how far it has come. -/
lemma Authored.authoredFor_eq {s : State} {h : History} (ha : Authored s h) (c : Ticket) :
    authoredFor c s.chan.history = (trip c h.log).filterMap Event.ack := by
  rw [← authoredFor_trip, ← ha.stored, authoredFor, authoredFor, List.filter_filter]
  congr 1
  funext a
  cases a.synthesized <;> simp

/-- The events of a command, off its stage. -/
lemma mem_stage {st : Stage} (htrip : trip c log = st.events c) {e : Event} (he : e.ticket = c)
    (hgive : e.isGive = false) : e ∈ st.events c ↔ e ∈ log := by
  rw [← htrip, ← he]
  exact mem_trip hgive

/-- A transfer that failed: its command was not waited for, and was answered once,
or is about to be. -/
lemma Recorded.refused {s : State} {h : History} (hr : Recorded s h) (ha : Authored s h)
    (hfail : .sendFailed c ∈ h.log) :
    .waits c ∉ h.log ∧
      synthesizedFor c h.log = (if s.tx = .giveUp ∧ c = s.cmd then [] else [.noRoute]) ∧
      authoredFor c s.chan.history =
        if .synthesized c .noRoute true ∈ h.log then [⟨c, .failed, true⟩] else [] := by
  obtain ⟨st, htrip, hfits⟩ := hr.stages c
  have hst : st = .refused ∨ ∃ stored, st = .noRoute stored := by
    have := (mem_stage htrip (e := .sendFailed c) rfl rfl).mpr hfail
    cases st <;> simp_all [Stage.events]
  have htaken : c ∈ s.taken := by
    by_contra hnot
    rcases hst with rfl | ⟨stored, rfl⟩ <;> simpa using hfits.untaken hnot
  refine ⟨?_, ?_, ?_⟩
  · intro hwait
    have := (mem_stage htrip (e := .waits c) rfl rfl).mpr hwait
    rcases hst with rfl | ⟨stored, rfl⟩ <;> simp [Stage.events] at this
  · rw [← synthesizedFor_trip, htrip]
    split_ifs with hcur
    · have := hfits.current htaken hcur.2
      rw [hcur.1] at this
      rcases hst with rfl | ⟨stored, rfl⟩
      · rfl
      · simp [Stage.current] at this
    · rcases hst with rfl | ⟨stored, rfl⟩
      · exfalso
        by_cases hc : c = s.cmd
        · have := hfits.current htaken hc
          cases htx : s.tx <;> simp_all [Stage.current, Stage.settled]
        · simpa [Stage.settled] using hfits.earlier htaken hc
      · simp [synthesizedFor, Stage.events, List.filterMap_cons, Event.detailFor]
  · have hstored := mem_stage htrip (e := .synthesized c .noRoute true) rfl rfl
    rw [ha.authoredFor_eq, htrip]
    simp only [← hstored]
    rcases hst with rfl | ⟨stored, rfl⟩
    · simp [Stage.events, Event.ack]
    · cases stored <;> simp [Stage.events, List.filterMap_cons, Event.ack]

/-- An Ack for a peer that did not answer is one for a wait that expired. -/
lemma Recorded.expired {s : State} {h : History} (hr : Recorded s h)
    (hsynth : .noResponse ∈ synthesizedFor c h.log) : .expired c ∈ h.log := by
  obtain ⟨st, htrip, -⟩ := hr.stages c
  rw [← synthesizedFor_trip, htrip] at hsynth
  obtain ⟨stored, rfl⟩ : ∃ stored, st = .noResponse stored := by
    cases st <;> simp_all [Stage.events, synthesizedFor, Event.detailFor]
  exact (mem_stage htrip (e := .expired c) rfl rfl).mp (by simp [Stage.events])

/-- A command that was sent and whose wait did not expire has no Ack of the gateway's own
on the channel. -/
lemma Recorded.unauthored {s : State} {h : History} (hr : Recorded s h) (ha : Authored s h)
    (hsent : .sendFailed c ∉ h.log) (hexp : .expired c ∉ h.log) :
    authoredFor c s.chan.history = [] := by
  obtain ⟨st, htrip, -⟩ := hr.stages c
  rw [ha.authoredFor_eq, htrip]
  rw [← mem_stage htrip rfl rfl] at hsent hexp
  cases st <;> simp_all [Stage.events, Event.ack]

/-- **No lost wakeup**: in every run, a give for a command comes after the start of
its transfer, and unless the wait has expired by then no Ack that the peer did not
answer is ever synthesized for it, nor is any of the gateway's own on `chan_relay_ack`
if the transfer did not fail.  A command whose transfer fails is not waited for and gets
one Ack, which says so: one FAILED message of that command is on the channel once its
publish succeeded, and no other of the gateway's own; its bytes carry the sequence. -/
theorem no_lost_wakeup {ls : List Label} {s : State} {h : History} (hrun : watched.Run ls (s, h))
    (c : Ticket) :
    (∀ pre post, h.log = pre ++ .gave c :: post →
      .started c ∈ pre ∧ (.expired c ∉ pre → .noResponse ∉ synthesizedFor c h.log ∧
        (.sendFailed c ∉ h.log → authoredFor c s.chan.history = []))) ∧
    (.sendFailed c ∈ h.log → .waits c ∉ h.log ∧
      synthesizedFor c h.log = (if s.tx = .giveUp ∧ c = s.cmd then [] else [.noRoute]) ∧
      authoredFor c s.chan.history =
        if .synthesized c .noRoute true ∈ h.log then [⟨c, .failed, true⟩] else []) ∧
    ∀ detail : Detail, ∃ up,
      syntheticAck Nanopb.proto3 c.sequence (cstr detail.text) = some up ∧
        decodeAck up.payload = some
          ⟨kSchemaVersion, c.sequence, UInt32.ofNat AckStatus.failed.wire, cstr detail.text,
            none⟩ := by
  have hr : Recorded s h := hrun.invariant recorded_inductive
  have ha : Authored s h := hrun.invariant authored_inductive
  refine ⟨?_, hr.refused ha, syntheticAck_decodes c.sequence⟩
  intro pre post hlog
  obtain ⟨hstart, hkeep⟩ := hr.inTime pre post c hlog
  refine ⟨hstart, fun hexp => ⟨fun hsynth => hexp (hkeep (hr.expired hsynth)), fun hsent => ?_⟩⟩
  exact hr.unauthored ha hsent fun hmem => hexp (hkeep hmem)

/-- A command whose Ack is given before `isotp_send` returns, and one whose
transfer fails. -/
def earlyGiveRun : List Label :=
  [.take 7, .reset, .deliver, .recv ⟨0, 7⟩ .ok, .ackStore, .ackNotify, .ackUnlock, .give, .sendOk,
    .semTake, .take 8, .reset, .sendFail, .synthStore, .synthNotify, .synthUnlock]

theorem earlyGiveRun_answered : ∃ s h, watched.Run earlyGiveRun (s, h) ∧
    .gave ⟨0, 7⟩ ∈ h.log ∧ .noResponse ∉ synthesizedFor ⟨0, 7⟩ h.log ∧
    .sendFailed ⟨1, 8⟩ ∈ h.log ∧ synthesizedFor ⟨1, 8⟩ h.log = [.noRoute] ∧
    authoredFor ⟨1, 8⟩ s.chan.history = [⟨⟨1, 8⟩, .failed, true⟩] := by
  have hrun : watched.Run earlyGiveRun (_, _) := Machine.run_of_exec rfl
  refine ⟨_, _, hrun, by decide, ?_, by decide, ?_⟩
  · exact (((no_lost_wakeup hrun ⟨0, 7⟩).1 [.started ⟨0, 7⟩] _ rfl).2 (by decide)).1
  · exact ((no_lost_wakeup hrun ⟨1, 8⟩).2.1 (by decide)).2

end ClimateNode.RoundTrip
