import ClimateNode.Automata.Doorbell
import ClimateNode.Gateway.Relay
import Mathlib.Data.List.Nodup

/-!
The round trip of a relayed command: `tx_thread` and `rx_thread` of
`gateway/src/relay.cpp`, the semaphore `ack_received` between them, the peer at
the far end and `main` behind `chan_relay_ack`, interleaved freely.  There is no
clock: a wait may expire whenever the semaphore is not available, and the peer
answers a command at any time after it was delivered, or never.

* `RoundTrip.machine`: the threads, one atomic action a label.
* `answered_when_done`: every command is answered before the next is taken, in
  the runs where no Ack of another command is given into an open round trip.
* `acks_serialised`: each command contributes one message to `chan_relay_ack` at
  most, in the runs where the peer's Ack arrives inside its own round trip.
* `late_ack_releases_next`, `late_ack_contradicts`: what a late Ack does
  otherwise.
-/

namespace ClimateNode.RoundTrip

open Automata Doorbell

/-- A command `tx_thread` took off `relay_cmd_sub`: how many it had taken before,
and the sequence it reads from the message. -/
structure Ticket where
  id : ℕ
  sequence : UInt32
  deriving DecidableEq, Repr, Inhabited

/-- An Ack on `chan_relay_ack`: the command it answers and the status it
reports, the peer's or one the gateway synthesized. -/
structure RelayedAck where
  ticket : Ticket
  status : AckStatus
  synthesized : Bool
  deriving DecidableEq, Repr, Inhabited

/-- Where `tx_thread` stands: waiting for a command, the frame built, inside
`isotp_send`, inside `k_sem_take`, about to synthesize an Ack, and the two steps
inside that publish. -/
inductive TxPhase where
  | idle | ready | sending | waiting | giveUp | stored | notified
  deriving DecidableEq, Repr

/-- Where `rx_thread` stands with an Ack of the peer's: none, received, the two
steps inside the publish, and published but not given. -/
inductive RxPhase where
  | idle | received | stored | notified | published
  deriving DecidableEq, Repr

/-- The two threads, the semaphore, the peer and the channel. -/
structure State where
  tx : TxPhase
  /-- The command taken last. -/
  cmd : Ticket
  taken : List Ticket
  /-- The peer has the command taken last. -/
  delivered : Bool
  /-- The commands the peer has and has not answered. -/
  owed : List Ticket
  /-- `ack_received`, whose count is zero or one. -/
  sem : Bool
  rx : RxPhase
  /-- The Ack in the hands of `rx_thread`. -/
  ack : RelayedAck
  chan : Doorbell.State RelayedAck

/-- The atomic actions.  `main l` is a step of `publish_relayed`, or the creation
of the descriptor. -/
inductive Label where
  | take (sequence : UInt32)
  | reset
  | deliver
  | sendOk
  | sendFail
  | semTake
  | expire
  | synthStore
  | synthNotify
  | synthUnlock
  | synthFail
  | recv (ticket : Ticket) (status : AckStatus)
  | ackStore
  | ackNotify
  | ackUnlock
  | ackFail
  | give
  | main (l : Doorbell.Label RelayedAck)

/-- The steps `main` takes on the channel; it never peeks. -/
def mainStep : Doorbell.Label RelayedAck → Prop
  | .create | .drain | .read | .readFail | .hand | .discard => True
  | .store _ | .notify | .unlock | .peek => False

instance : DecidablePred mainStep := fun l => by
  cases l <;> dsimp only [mainStep] <;> infer_instance

/-- Which actions may fire.  A wait can only expire while the semaphore is not
available: a give hands it to the thread that waits. -/
def enabled (s : State) : Label → Prop
  | .take _ => s.tx = .idle
  | .reset => s.tx = .ready
  | .deliver => s.tx = .sending ∧ s.delivered = false
  | .sendOk => s.tx = .sending
  | .sendFail => s.tx = .sending
  | .semTake => s.tx = .waiting ∧ s.sem = true
  | .expire => s.tx = .waiting ∧ s.sem = false
  | .synthStore => s.tx = .giveUp ∧ s.chan.phase = .free
  | .synthNotify => s.tx = .stored
  | .synthUnlock => s.tx = .notified
  | .synthFail => s.tx = .giveUp
  | .recv ticket _ => s.rx = .idle ∧ ticket ∈ s.owed
  | .ackStore => s.rx = .received ∧ s.chan.phase = .free
  | .ackNotify => s.rx = .stored
  | .ackUnlock => s.rx = .notified
  | .ackFail => s.rx = .received
  | .give => s.rx = .published
  | .main l => mainStep l ∧ Doorbell.enabled s.chan l

instance (s : State) (l : Label) : Decidable (enabled s l) := by
  cases l <;> dsimp only [enabled] <;> infer_instance

/-- A step on the channel, whose bell is an eventfd. -/
abbrev onChan (s : State) (l : Doorbell.Label RelayedAck) : Doorbell.State RelayedAck :=
  Doorbell.next Ring.counting s.chan l

/-- What each action does. -/
def next (s : State) : Label → State
  | .take sequence =>
      { s with tx := .ready, cmd := ⟨s.taken.length, sequence⟩, delivered := false,
               taken := s.taken ++ [⟨s.taken.length, sequence⟩] }
  | .reset => { s with tx := .sending, sem := false }
  | .deliver => { s with delivered := true, owed := s.owed ++ [s.cmd] }
  | .sendOk => { s with tx := .waiting }
  | .sendFail => { s with tx := .giveUp }
  | .semTake => { s with tx := .idle, sem := false }
  | .expire => { s with tx := .giveUp }
  | .synthStore => { s with tx := .stored, chan := onChan s (.store ⟨s.cmd, .failed, true⟩) }
  | .synthNotify => { s with tx := .notified, chan := onChan s .notify }
  | .synthUnlock => { s with tx := .idle, chan := onChan s .unlock }
  | .synthFail => { s with tx := .idle }
  | .recv ticket status =>
      { s with rx := .received, ack := ⟨ticket, status, false⟩, owed := s.owed.erase ticket }
  | .ackStore => { s with rx := .stored, chan := onChan s (.store s.ack) }
  | .ackNotify => { s with rx := .notified, chan := onChan s .notify }
  | .ackUnlock => { s with rx := .published, chan := onChan s .unlock }
  | .ackFail => { s with rx := .published }
  | .give => { s with rx := .idle, sem := true }
  | .main l => { s with chan := onChan s l }

/-- Boot: nothing taken, nothing owed, the semaphore at zero. -/
def boot : State :=
  ⟨.idle, default, [], false, [], false, .idle, default, Doorbell.State.empty⟩

/-- The machine of the round trip. -/
def machine : Machine State Label := ⟨boot, enabled, next⟩

instance (s : State) (l : Label) : Decidable (machine.enabled s l) :=
  inferInstanceAs (Decidable (enabled s l))

/-- An Ack of the command taken last is on the channel, or was. -/
def answered (s : State) : Prop := ∃ a ∈ s.chan.history, a.ticket = s.cmd

instance (s : State) : Decidable (answered s) :=
  inferInstanceAs (Decidable (∃ a ∈ s.chan.history, a.ticket = s.cmd))

/-- The round trip of the command taken last is open: its Ack may come. -/
def roundTripOpen (s : State) : Prop := s.tx = .sending ∨ s.tx = .waiting

instance (s : State) : Decidable (roundTripOpen s) :=
  inferInstanceAs (Decidable (_ ∨ _))

/-! ### Every command is answered -/

/-- The publishes of both threads succeed. -/
def publishesSucceed (_ : State) : Label → Prop
  | .synthFail | .ackFail => False
  | _ => True

instance (s : State) (l : Label) : Decidable (publishesSucceed s l) := by
  cases l <;> dsimp only [publishesSucceed] <;> infer_instance

/-- No Ack of another command is given into an open round trip that has yet to be
answered. -/
def givesOwnAck (s : State) : Label → Prop
  | .give => roundTripOpen s → s.ack.ticket = s.cmd ∨ answered s
  | _ => True

instance (s : State) (l : Label) : Decidable (givesOwnAck s l) := by
  cases l <;> dsimp only [givesOwnAck] <;> infer_instance

/-- `main` never changes what was published. -/
lemma history_main {s : State} {l : Doorbell.Label RelayedAck} (h : mainStep l) :
    (onChan s l).history = s.chan.history := by
  cases l <;> first | rfl | exact absurd h id

/-- Publishing an Ack leaves the earlier ones where they are. -/
lemma mem_history_store {s : State} {a b : RelayedAck} :
    b ∈ (onChan s (.store a)).history ↔ b ∈ s.chan.history ∨ b = a := by
  simp [onChan, Doorbell.next]

/-- The semaphore is only ever available to an open round trip whose command is
answered, and a finished one is answered. -/
structure Answering (s : State) : Prop where
  available : roundTripOpen s → s.sem = true → answered s
  finished : (s.tx = .idle ∧ s.taken ≠ []) ∨ s.tx = .stored ∨ s.tx = .notified → answered s
  carried : s.rx = .stored ∨ s.rx = .notified ∨ s.rx = .published → s.ack ∈ s.chan.history

/-- What is answered stays answered while the same command is at hand. -/
lemma answered_of_subset {s t : State} (h : answered s) (hcmd : t.cmd = s.cmd)
    (hsub : s.chan.history ⊆ t.chan.history) : answered t := by
  obtain ⟨a, ha, heq⟩ := h
  exact ⟨a, hsub ha, heq.trans hcmd.symm⟩

theorem answering_inductive :
    (machine.restrict fun s l => publishesSucceed s l ∧ givesOwnAck s l).Inductive Answering where
  init := by
    refine ⟨?_, ?_, ?_⟩ <;> simp [machine, Machine.restrict, boot, roundTripOpen]
  step s l h hl := by
    obtain ⟨hl, hpub, hgive⟩ := hl
    cases l with
    | take sequence =>
        refine ⟨?_, ?_, h.carried⟩ <;>
          simp [machine, Machine.restrict, next, roundTripOpen]
    | reset =>
        refine ⟨?_, ?_, h.carried⟩ <;>
          simp [machine, Machine.restrict, next]
    | deliver => exact ⟨h.available, h.finished, h.carried⟩
    | sendOk =>
        refine ⟨fun _ => h.available (.inl hl), ?_, h.carried⟩
        simp [machine, Machine.restrict, next]
    | sendFail =>
        refine ⟨?_, ?_, h.carried⟩ <;>
          simp [machine, Machine.restrict, next, roundTripOpen]
    | semTake =>
        -- the wait is satisfied by a semaphore that an Ack of this command made available
        have hans := h.available (.inr hl.1) hl.2
        exact ⟨fun hopen => by simp [machine, Machine.restrict, next, roundTripOpen] at hopen,
          fun _ => hans, h.carried⟩
    | expire =>
        refine ⟨?_, ?_, h.carried⟩ <;>
          simp [machine, Machine.restrict, next, roundTripOpen]
    | synthStore =>
        refine ⟨fun hopen => by simp [machine, Machine.restrict, next, roundTripOpen] at hopen,
          fun _ => ⟨_, mem_history_store.mpr (.inr rfl), rfl⟩,
          fun hrx => mem_history_store.mpr (.inl (h.carried hrx))⟩
    | synthNotify =>
        exact ⟨fun hopen => by simp [machine, Machine.restrict, next, roundTripOpen] at hopen,
          fun _ => h.finished (.inr (.inl hl)), h.carried⟩
    | synthUnlock =>
        exact ⟨fun hopen => by simp [machine, Machine.restrict, next, roundTripOpen] at hopen,
          fun _ => h.finished (.inr (.inr hl)), h.carried⟩
    | synthFail => exact absurd hpub id
    | recv ticket status =>
        exact ⟨h.available, h.finished, by simp [machine, Machine.restrict, next]⟩
    | ackStore =>
        have hsub : s.chan.history ⊆ (onChan s (.store s.ack)).history :=
          fun b hb => mem_history_store.mpr (.inl hb)
        exact ⟨fun hopen hsem => answered_of_subset (h.available hopen hsem) rfl hsub,
          fun htx => answered_of_subset (h.finished htx) rfl hsub,
          fun _ => mem_history_store.mpr (.inr rfl)⟩
    | ackNotify => exact ⟨h.available, h.finished, fun _ => h.carried (.inl hl)⟩
    | ackUnlock => exact ⟨h.available, h.finished, fun _ => h.carried (.inr (.inl hl))⟩
    | ackFail => exact absurd hpub id
    | give =>
        refine ⟨fun hopen _ => ?_, h.finished, by simp [machine, Machine.restrict, next]⟩
        -- the Ack given for is of this command, or the command was answered before
        rcases hgive hopen with hown | hans
        · exact ⟨s.ack, h.carried (.inr (.inr hl)), hown⟩
        · exact hans
    | main m =>
        have hsub : s.chan.history ⊆ (onChan s m).history := by rw [history_main hl.1]; simp
        exact ⟨fun hopen hsem => answered_of_subset (h.available hopen hsem) rfl hsub,
          fun htx => answered_of_subset (h.finished htx) rfl hsub,
          fun hrx => hsub (h.carried hrx)⟩

/-- **Every command is answered**: in a run whose publishes succeed and in which
no Ack of another command is given into an open round trip still unanswered,
an Ack of a command is on the channel by the time the next is taken, and before
any wait of its own is satisfied. -/
theorem answered_when_done (ls : List Label) (s : State)
    (h : (machine.restrict fun s l => publishesSucceed s l ∧ givesOwnAck s l).Run ls s) :
    (s.tx = .idle → s.taken ≠ [] →
      ∃ a ∈ s.chan.history, a.ticket = s.cmd ∧ a.ticket.sequence = s.cmd.sequence) ∧
    (s.tx = .waiting → s.sem = true →
      ∃ a ∈ s.chan.history, a.ticket = s.cmd ∧ a.ticket.sequence = s.cmd.sequence) := by
  have hans := h.invariant answering_inductive
  constructor
  · intro htx hne
    obtain ⟨a, ha, heq⟩ := hans.finished (.inl ⟨htx, hne⟩)
    exact ⟨a, ha, heq, by rw [heq]⟩
  · intro htx hsem
    obtain ⟨a, ha, heq⟩ := hans.available (.inr htx) hsem
    exact ⟨a, ha, heq, by rw [heq]⟩

/-- One round trip in which the peer answers in time. -/
def answeredRun : List Label :=
  [.take 1, .reset, .deliver, .sendOk, .recv ⟨0, 1⟩ .ok, .ackStore, .ackNotify, .ackUnlock, .give,
    .semTake]

/-- A command the peer does not answer in time, and the next one, into whose
round trip the Ack of the first arrives. -/
def lateAckRun : List Label :=
  [.take 1, .reset, .deliver, .sendOk, .expire, .synthStore, .synthNotify, .synthUnlock,
    .take 2, .reset, .recv ⟨0, 1⟩ .ok, .ackStore, .ackNotify, .ackUnlock, .give, .deliver, .sendOk,
    .semTake]

theorem answeredRun_answered : ∃ s,
    (machine.restrict fun s l => publishesSucceed s l ∧ givesOwnAck s l).Run answeredRun s ∧
      s.tx = .idle ∧
      ∃ a ∈ s.chan.history, a.ticket = s.cmd ∧ a.ticket.sequence = s.cmd.sequence := by
  refine ⟨_, Machine.run_of_exec rfl, rfl, ?_⟩
  exact (answered_when_done answeredRun _ (Machine.run_of_exec rfl)).1 rfl (by decide)

/-- **A late Ack releases the next command**: the second command is done with,
and no Ack on the channel carries its sequence. -/
theorem late_ack_releases_next : ∃ s, (machine.restrict publishesSucceed).Run lateAckRun s ∧
    (s.taken.map (·.sequence)).Nodup ∧ s.tx = .idle ∧ s.taken ≠ [] ∧
      ¬ ∃ a ∈ s.chan.history, a.ticket.sequence = s.cmd.sequence := by
  refine ⟨_, Machine.run_of_exec rfl, ?_, rfl, ?_, ?_⟩ <;> decide

/-! ### At most one Ack a command -/

/-- The peer's Ack of a command arrives inside that command's own round trip, and
once it has, the round trip is not given up. -/
def answersInside (s : State) : Label → Prop
  | .recv ticket _ => roundTripOpen s ∧ ticket = s.cmd
  | .sendFail | .expire => s.rx = .idle ∧ ¬ answered s
  | _ => True

instance (s : State) (l : Label) : Decidable (answersInside s l) := by
  cases l <;> dsimp only [answersInside] <;> infer_instance

/-- `main` has drained the channel and read it before the next command is
taken. -/
def mainDrains (s : State) : Label → Prop
  | .take _ => s.chan.bell = some 0 ∧ s.chan.progress ≠ .drained
  | _ => True

instance (s : State) (l : Label) : Decidable (mainDrains s l) := by
  cases l <;> dsimp only [mainDrains] <;> infer_instance

/-- The peer does not have the command taken last. -/
def untouched (s : State) : Prop := s.tx = .ready ∨ (s.tx = .sending ∧ s.delivered = false)

/-- Round trips follow one another: whatever `rx_thread` holds answers the
command taken last, whose round trip is open and not answered yet, and no
command is owed two answers. -/
structure Serial (s : State) : Prop where
  idLt : ∀ t ∈ s.taken, t.id < s.taken.length
  current : s.tx ≠ .idle → s.cmd ∈ s.taken
  known : ∀ a ∈ s.chan.history, a.ticket ∈ s.taken
  owedKnown : ∀ t ∈ s.owed, t ∈ s.taken
  owedNodup : s.owed.Nodup
  nodup : (s.chan.history.map (·.ticket)).Nodup
  fresh : untouched s → s.cmd ∉ s.owed ∧ ¬ answered s ∧ s.rx = .idle ∧
    (s.tx = .sending → s.sem = false)
  abandoned : s.tx = .giveUp → ¬ answered s
  awaited : roundTripOpen s → s.cmd ∈ s.owed → ¬ answered s ∧ s.sem = false
  receiving : s.rx ≠ .idle → roundTripOpen s ∧ s.ack.ticket = s.cmd ∧ s.sem = false ∧
    s.cmd ∉ s.owed ∧ ¬ untouched s
  received : s.rx = .received → ¬ answered s

lemma not_answered_iff {s : State} : ¬ answered s ↔ s.cmd ∉ s.chan.history.map (·.ticket) := by
  simp [answered]

/-- Publishing the first Ack of the command taken last. -/
lemma Serial.nodup_store {s : State} (h : Serial s) {a : RelayedAck} (ha : a.ticket = s.cmd)
    (hans : ¬ answered s) : ((onChan s (.store a)).history.map (·.ticket)).Nodup := by
  have hnew : a.ticket ∉ s.chan.history.map (·.ticket) := by rw [ha]; exact not_answered_iff.mp hans
  simp only [onChan, Doorbell.next, List.map_append, List.map_cons, List.map_nil]
  exact List.nodup_append.mpr ⟨h.nodup, List.nodup_singleton _, by
    intro t ht u hu heq
    rw [List.mem_singleton.mp hu] at heq
    exact hnew (heq ▸ ht)⟩

lemma Serial.known_store {s : State} (h : Serial s) {a : RelayedAck} (ha : a.ticket = s.cmd)
    (htx : s.tx ≠ .idle) : ∀ b ∈ (onChan s (.store a)).history, b.ticket ∈ s.taken := by
  intro b hb
  rcases mem_history_store.mp hb with hb | rfl
  · exact h.known b hb
  · exact ha ▸ h.current htx

/-- A command taken is a new one, and nothing is under way for it. -/
lemma Serial.take {s : State} (h : Serial s) (hidle : s.tx = .idle) (sequence : UInt32) :
    Serial (next s (.take sequence)) := by
  have hrx : s.rx = .idle := by
    by_contra hrx
    rcases (h.receiving hrx).1 with htx | htx <;> simp [hidle] at htx
  have hnew : (⟨s.taken.length, sequence⟩ : Ticket) ∉ s.taken := fun hmem =>
    absurd (h.idLt _ hmem) (lt_irrefl _)
  refine
    { idLt := fun t ht => ?_
      current := fun _ => by simp [next]
      known := fun a ha => List.mem_append_left _ (h.known a ha)
      owedKnown := fun t ht => List.mem_append_left _ (h.owedKnown t ht)
      owedNodup := h.owedNodup
      nodup := h.nodup
      fresh := fun _ => ⟨fun ho => hnew (h.owedKnown _ ho), ?_, hrx, by simp [next]⟩
      abandoned := by simp [next]
      awaited := by simp [next, roundTripOpen]
      receiving := fun hne => absurd hrx hne
      received := fun hr => by simp [next, hrx] at hr }
  · rcases List.mem_append.mp ht with ht | ht
    · have := h.idLt t ht
      simp only [next, List.length_append, List.length_singleton]
      omega
    · rw [List.mem_singleton.mp ht]
      simp [next]
  · rintro ⟨a, ha, heq⟩
    have heq' : a.ticket = ⟨s.taken.length, sequence⟩ := heq
    exact hnew (heq' ▸ h.known a ha)

/-- Giving the round trip up, with nothing of its Ack seen yet. -/
lemma Serial.giveUp {s : State} (h : Serial s) (hopen : roundTripOpen s) (hrx : s.rx = .idle)
    (hans : ¬ answered s) : Serial { s with tx := .giveUp } where
  idLt := h.idLt
  current _ := h.current (by rcases hopen with htx | htx <;> simp [htx])
  known := h.known
  owedKnown := h.owedKnown
  owedNodup := h.owedNodup
  nodup := h.nodup
  fresh hu := by simp [untouched] at hu
  abandoned _ := hans
  awaited ho := by simp [roundTripOpen] at ho
  receiving hne := absurd hrx hne
  received hr := by simp [hrx] at hr

/-- Leaving the round trip with nothing in the hands of `rx_thread`. -/
lemma Serial.leave {s : State} (h : Serial s) (hrx : s.rx = .idle) {tx : TxPhase} {sem : Bool}
    {chan : Doorbell.State RelayedAck} (hchan : chan.history = s.chan.history)
    (htx : tx = .notified ∨ tx = .idle) (hcur : tx = .notified → s.cmd ∈ s.taken) :
    Serial { s with tx := tx, sem := sem, chan := chan } where
  idLt := h.idLt
  current hne := hcur (htx.resolve_right hne)
  known := by simpa only [hchan] using h.known
  owedKnown := h.owedKnown
  owedNodup := h.owedNodup
  nodup := by simpa only [hchan] using h.nodup
  fresh hu := by rcases htx with rfl | rfl <;> simp [untouched] at hu
  abandoned hg := by rcases htx with rfl | rfl <;> simp at hg
  awaited ho := by rcases htx with rfl | rfl <;> simp [roundTripOpen] at ho
  receiving hne := absurd hrx hne
  received hr := by simp [hrx] at hr

/-- A step of `rx_thread` past the store, or of `main`. -/
lemma Serial.carry {s : State} (h : Serial s) {rx : RxPhase} {chan : Doorbell.State RelayedAck}
    (hchan : chan.history = s.chan.history) (hrx : rx = .idle ↔ s.rx = .idle)
    (hrec : rx = .received → s.rx = .received) : Serial { s with rx := rx, chan := chan } where
  idLt := h.idLt
  current := h.current
  known := by simpa only [hchan] using h.known
  owedKnown := h.owedKnown
  owedNodup := h.owedNodup
  nodup := by simpa only [hchan] using h.nodup
  fresh hu := by simpa only [answered, hchan, hrx] using h.fresh hu
  abandoned hg := by simpa only [answered, hchan] using h.abandoned hg
  awaited ho := by simpa only [answered, hchan] using h.awaited ho
  receiving hne := h.receiving (mt hrx.mpr hne)
  received hr := by simpa only [answered, hchan] using h.received (hrec hr)

/-- While `rx_thread` holds an Ack, `tx_thread` is inside the round trip. -/
lemma Serial.rx_idle {s : State} (h : Serial s) (htx : ¬ roundTripOpen s) : s.rx = .idle := by
  by_contra hrx
  exact htx (h.receiving hrx).1

theorem serial_inductive : (machine.restrict answersInside).Inductive Serial where
  init := by
    refine ⟨?_, ?_, ?_, ?_, ?_, ?_, ?_, ?_, ?_, ?_, ?_⟩ <;>
      simp [machine, Machine.restrict, boot, Doorbell.State.empty, untouched, roundTripOpen]
  step s l h hl := by
    obtain ⟨hl, hin⟩ := hl
    cases l with
    | take sequence => exact h.take hl sequence
    | reset =>
        have hl' : s.tx = .ready := hl
        -- nothing of the command is out yet: no Ack of it is owed, received or published
        obtain ⟨howed, hans, hrx, -⟩ := h.fresh (.inl hl)
        exact
          { h with
            current := fun _ => h.current (by simp [hl'])
            fresh := fun _ => ⟨howed, hans, hrx, fun _ => rfl⟩
            abandoned := fun hg => by simp [machine, Machine.restrict, next] at hg
            awaited := fun _ ho => absurd ho howed
            receiving := fun hne => absurd hrx hne
            received := fun hr => by simp [machine, Machine.restrict, next, hrx] at hr }
    | deliver =>
        -- the peer comes to owe the Ack of the command at hand, and none else of it
        obtain ⟨howed, hans, hrx, hsem⟩ := h.fresh (.inr hl)
        exact
          { h with
            owedKnown := fun t ht => by
              rcases List.mem_append.mp ht with ht | ht
              · exact h.owedKnown t ht
              · rw [List.mem_singleton.mp ht]
                exact h.current (by simp [hl.1])
            owedNodup := List.nodup_append.mpr ⟨h.owedNodup, List.nodup_singleton _,
              fun t ht u hu heq => howed (by rw [← List.mem_singleton.mp hu, ← heq]; exact ht)⟩
            fresh := fun hu => by
              simp [machine, Machine.restrict, next, untouched, hl.1] at hu
            awaited := fun _ _ => ⟨hans, hsem hl.1⟩
            receiving := fun hne => absurd hrx hne }
    | sendOk =>
        have hl' : s.tx = .sending := hl
        exact
          { h with
            current := fun _ => h.current (by simp [hl'])
            fresh := fun hu => by simp [machine, Machine.restrict, next, untouched] at hu
            abandoned := fun hg => by simp [machine, Machine.restrict, next] at hg
            awaited := fun _ => h.awaited (.inl hl)
            receiving := fun hne => by
              obtain ⟨-, hack, hsem, howed, -⟩ := h.receiving hne
              exact ⟨.inr rfl, hack, hsem, howed, by
                simp [machine, Machine.restrict, next, untouched]⟩ }
    | sendFail => exact h.giveUp (.inl hl) hin.1 hin.2
    | semTake =>
        have hrx : s.rx = .idle := by
          -- the semaphore is given last, so `rx_thread` is done
          by_contra hne
          simpa [hl.2] using (h.receiving hne).2.2.1
        exact h.leave hrx rfl (.inr rfl) (by simp)
    | expire => exact h.giveUp (.inr hl.1) hin.1 hin.2
    | synthStore =>
        have hrx := h.rx_idle (by simp [roundTripOpen, hl.1])
        exact
          { h with
            current := fun _ => h.current (by simp [hl.1])
            known := h.known_store rfl (by simp [hl.1])
            nodup := h.nodup_store rfl (h.abandoned hl.1)
            fresh := fun hu => by simp [machine, Machine.restrict, next, untouched] at hu
            abandoned := fun hg => by simp [machine, Machine.restrict, next] at hg
            awaited := fun ho => by simp [machine, Machine.restrict, next, roundTripOpen] at ho
            receiving := fun hne => absurd hrx hne
            received := fun hr => by simp [machine, Machine.restrict, next, hrx] at hr }
    | synthNotify =>
        have hl' : s.tx = .stored := hl
        exact h.leave (h.rx_idle (by simp [roundTripOpen, hl'])) rfl (.inl rfl)
          fun _ => h.current (by simp [hl'])
    | synthUnlock =>
        have hl' : s.tx = .notified := hl
        exact h.leave (h.rx_idle (by simp [roundTripOpen, hl'])) rfl (.inr rfl) (by simp)
    | synthFail =>
        have hl' : s.tx = .giveUp := hl
        exact h.leave (h.rx_idle (by simp [roundTripOpen, hl'])) rfl (.inr rfl) (by simp)
    | recv ticket status =>
        -- inside its own round trip the Ack that comes in is the first of the command
        obtain ⟨hopen, rfl⟩ := hin
        obtain ⟨hans, hsem⟩ := h.awaited hopen hl.2
        have hnot : s.cmd ∉ s.owed.erase s.cmd := h.owedNodup.not_mem_erase
        have hu : ¬ untouched s := fun hu => (h.fresh hu).1 hl.2
        exact
          { h with
            owedKnown := fun t ht => h.owedKnown t (List.mem_of_mem_erase ht)
            owedNodup := h.owedNodup.erase _
            fresh := fun hu' => absurd hu' hu
            awaited := fun _ ho => absurd ho hnot
            receiving := fun _ => ⟨hopen, rfl, hsem, hnot, hu⟩
            received := fun _ => hans }
    | ackStore =>
        have hne : s.rx ≠ .idle := by simp [hl.1]
        obtain ⟨hopen, hack, hsem, howed, hu⟩ := h.receiving hne
        have htx : s.tx ≠ .idle := by rcases hopen with htx | htx <;> simp [htx]
        exact
          { h with
            known := h.known_store hack htx
            nodup := h.nodup_store hack (h.received hl.1)
            fresh := fun hu' => absurd hu' hu
            abandoned := fun hg => by
              have hg' : s.tx = .giveUp := hg
              rcases hopen with htx | htx <;> simp [htx] at hg'
            awaited := fun _ ho => absurd ho howed
            receiving := fun _ => ⟨hopen, hack, hsem, howed, hu⟩
            received := fun hr => by simp [machine, Machine.restrict, next] at hr }
    | ackNotify =>
        have hl' : s.rx = .stored := hl
        exact h.carry rfl (by simp [hl']) (by simp)
    | ackUnlock =>
        have hl' : s.rx = .notified := hl
        exact h.carry rfl (by simp [hl']) (by simp)
    | ackFail =>
        have hl' : s.rx = .received := hl
        exact h.carry rfl (by simp [hl']) (by simp)
    | give =>
        have hl' : s.rx = .published := hl
        obtain ⟨hopen, -, -, howed, hu⟩ := h.receiving (by simp [hl'])
        exact
          { h with
            fresh := fun hu' => absurd hu' hu
            awaited := fun _ ho => absurd ho howed
            receiving := fun hne => absurd rfl hne
            received := fun hr => by simp [machine, Machine.restrict, next] at hr }
    | main m => exact h.carry (history_main hl.1) Iff.rfl id

/-- Two Acks on the channel with one sequence are one Ack, when no two commands
share a sequence. -/
lemma Serial.eq_of_sequence {s : State} (h : Serial s) (hseq : (s.taken.map (·.sequence)).Nodup)
    {a b : RelayedAck} (ha : a ∈ s.chan.history) (hb : b ∈ s.chan.history)
    (heq : a.ticket.sequence = b.ticket.sequence) : a = b := by
  have hticket : a.ticket = b.ticket :=
    List.inj_on_of_nodup_map hseq (h.known a ha) (h.known b hb) heq
  exact List.inj_on_of_nodup_map h.nodup ha hb hticket

/-! ### At most one Ack outstanding -/

/-- The command taken last is in the hands of `tx_thread`, short of its own
answer. -/
def inHand (s : State) : Prop := s.tx = .ready ∨ roundTripOpen s ∨ s.tx = .giveUp

/-- Until the command taken last is answered the channel is quiet, and its Ack
rings the bell once. -/
structure Undisturbed (s : State) : Prop where
  quiet : inHand s → ¬ answered s → s.chan.bell = some 0 ∧ s.chan.progress ≠ .drained
  announcing : s.tx = .stored ∨ s.rx = .stored → s.chan.bell = some 0
  carried : s.rx = .stored → answered s
  bound : s.chan.bell.getD 0 ≤ 1

/-- A step that leaves the command and the channel alone, up to its lock. -/
lemma Undisturbed.frame {s t : State} (h : Undisturbed s) (hcmd : t.cmd = s.cmd)
    (hhist : t.chan.history = s.chan.history) (hbell : t.chan.bell = s.chan.bell)
    (hprog : t.chan.progress = s.chan.progress) (hin : inHand t → inHand s)
    (htx : t.tx = .stored → s.tx = .stored) (hrx : t.rx = .stored → s.rx = .stored) :
    Undisturbed t := by
  have hans : answered t ↔ answered s := by rw [answered, answered, hcmd, hhist]
  refine ⟨fun hi hn => ?_, fun hst => ?_, fun hst => hans.mpr (h.carried (hrx hst)), ?_⟩
  · rw [hbell, hprog]
    exact h.quiet (hin hi) (mt hans.mpr hn)
  · rw [hbell]
    exact h.announcing (hst.imp htx hrx)
  · rw [hbell]
    exact h.bound

/-- A step of `main`: it cannot disturb a quiet channel, and never makes the bell
count higher. -/
lemma Undisturbed.main {s : State} (h : Undisturbed s) {m : Doorbell.Label RelayedAck}
    (hm : mainStep m) (hen : Doorbell.enabled s.chan m) :
    Undisturbed { s with chan := onChan s m } := by
  have hquiet : s.chan.bell = some 0 → (onChan s m).bell = some 0 ∧
      (s.chan.progress ≠ .drained → (onChan s m).progress ≠ .drained) := by
    intro hbell
    cases m with
    | create => simp [Doorbell.enabled, hbell] at hen
    | drain => simp [Doorbell.enabled, Doorbell.State.signalled, hbell] at hen
    | read | readFail | hand | discard => exact ⟨hbell, by simp [onChan, Doorbell.next]⟩
    | store a => exact absurd hm id
    | notify | unlock | peek => exact absurd hm id
  have hbound : (onChan s m).bell.getD 0 ≤ 1 := by
    cases m with
    | create | drain => simp [onChan, Doorbell.next]
    | read | readFail | hand | discard => exact h.bound
    | store a => exact absurd hm id
    | notify | unlock | peek => exact absurd hm id
  have hans : answered { s with chan := onChan s m } ↔ answered s := by
    rw [answered, answered, history_main hm]
  refine ⟨fun hi hn => ?_, fun hst => (hquiet (h.announcing hst)).1,
    fun hst => hans.mpr (h.carried hst), hbound⟩
  obtain ⟨hbell, hprog⟩ := h.quiet hi (mt hans.mpr hn)
  exact ⟨(hquiet hbell).1, (hquiet hbell).2 hprog⟩

/-- The eventfd counts to one. -/
lemma bell_notify {s : State} (h : s.chan.bell = some 0) : (onChan s .notify).bell = some 1 := by
  simp [onChan, Doorbell.next, h, Ring.counting]

theorem undisturbed_inductive :
    (machine.restrict fun s l => answersInside s l ∧ mainDrains s l).Inductive
      fun s => Serial s ∧ Undisturbed s where
  init := by
    refine ⟨serial_inductive.init, ?_, ?_, ?_, ?_⟩ <;>
      simp [machine, Machine.restrict, boot, Doorbell.State.empty, inHand, roundTripOpen]
  step s l hs hl := by
    obtain ⟨h, hq⟩ := hs
    obtain ⟨hl, hin, hdrain⟩ := hl
    refine ⟨serial_inductive.step s l h ⟨hl, hin⟩, ?_⟩
    cases l with
    | take sequence =>
        have hl' : s.tx = .idle := hl
        have hrx := h.rx_idle (by simp [roundTripOpen, hl'])
        refine ⟨fun _ _ => hdrain, ?_, ?_, hq.bound⟩ <;>
          simp [machine, Machine.restrict, next, hrx]
    | reset =>
        exact hq.frame rfl rfl rfl rfl (fun _ => .inl hl)
          (by simp [machine, Machine.restrict, next]) id
    | deliver => exact hq.frame rfl rfl rfl rfl id id id
    | sendOk =>
        exact hq.frame rfl rfl rfl rfl (fun _ => .inr (.inl (.inl hl)))
          (by simp [machine, Machine.restrict, next]) id
    | sendFail =>
        exact hq.frame rfl rfl rfl rfl (fun _ => .inr (.inl (.inl hl)))
          (by simp [machine, Machine.restrict, next]) id
    | semTake =>
        exact hq.frame rfl rfl rfl rfl
          (by simp [machine, Machine.restrict, next, inHand, roundTripOpen])
          (by simp [machine, Machine.restrict, next]) id
    | expire =>
        exact hq.frame rfl rfl rfl rfl (fun _ => .inr (.inl (.inr hl.1)))
          (by simp [machine, Machine.restrict, next]) id
    | synthStore =>
        -- `main` drained before the command was taken, and nothing was published since
        have hbell := (hq.quiet (.inr (.inr hl.1)) (h.abandoned hl.1)).1
        have hrx := h.rx_idle (by simp [roundTripOpen, hl.1])
        exact ⟨fun hi => by simp [machine, Machine.restrict, next, inHand, roundTripOpen] at hi,
          fun _ => hbell, fun hst => by simp [machine, Machine.restrict, next, hrx] at hst, hq.bound⟩
    | synthNotify =>
        have hl' : s.tx = .stored := hl
        have hbell := bell_notify (hq.announcing (.inl hl))
        have hrx := h.rx_idle (by simp [roundTripOpen, hl'])
        refine ⟨fun hi => ?_, fun hst => ?_, fun hst => ?_, ?_⟩
        · simp [machine, Machine.restrict, next, inHand, roundTripOpen] at hi
        · simp [machine, Machine.restrict, next, hrx] at hst
        · simp [machine, Machine.restrict, next, hrx] at hst
        · simp [machine, Machine.restrict, next, hbell]
    | synthUnlock =>
        exact hq.frame rfl rfl rfl rfl
          (by simp [machine, Machine.restrict, next, inHand, roundTripOpen])
          (by simp [machine, Machine.restrict, next]) id
    | synthFail =>
        exact hq.frame rfl rfl rfl rfl
          (by simp [machine, Machine.restrict, next, inHand, roundTripOpen])
          (by simp [machine, Machine.restrict, next]) id
    | recv ticket status =>
        exact hq.frame rfl rfl rfl rfl id id (by simp [machine, Machine.restrict, next])
    | ackStore =>
        obtain ⟨hopen, hack, -⟩ := h.receiving (by simp [hl.1])
        have hbell := (hq.quiet (.inr (.inl hopen)) (h.received hl.1)).1
        have hans : answered (machine.next s .ackStore) :=
          ⟨s.ack, mem_history_store.mpr (.inr rfl), hack⟩
        exact ⟨fun _ hn => absurd hans hn, fun _ => hbell, fun _ => hans, hq.bound⟩
    | ackNotify =>
        have hl' : s.rx = .stored := hl
        have hbell := bell_notify (hq.announcing (.inr hl))
        obtain ⟨hopen, -⟩ := h.receiving (by simp [hl'])
        -- the bell was silent, so this ring is the only one
        refine ⟨fun _ hn => absurd (hq.carried hl) hn, fun hst => ?_, fun hst => ?_, ?_⟩
        · rcases hopen with htx | htx <;> simp [machine, Machine.restrict, next, htx] at hst
        · simp [machine, Machine.restrict, next] at hst
        · simp [machine, Machine.restrict, next, hbell]
    | ackUnlock =>
        exact hq.frame rfl rfl rfl rfl id id (by simp [machine, Machine.restrict, next])
    | ackFail =>
        exact hq.frame rfl rfl rfl rfl id id (by simp [machine, Machine.restrict, next])
    | give =>
        exact hq.frame rfl rfl rfl rfl id id (by simp [machine, Machine.restrict, next])
    | main m => exact hq.main hl.1 hl.2

/-- **Round trips are serialised**: in a run in which the peer's Ack of a command
arrives inside that command's round trip and the round trip is not given up on
it, each command contributes one message to the channel at most, and commands of
distinct sequences never get contradictory answers.  If `main` also drains
before each command is taken, the bell never counts two Acks, and an Ack is only
ever published onto a channel `main` has drained. -/
theorem acks_serialised (ls : List Label) (s : State) :
    ((machine.restrict answersInside).Run ls s →
      (s.chan.history.map (·.ticket)).Nodup ∧
      ((s.taken.map (·.sequence)).Nodup → ∀ a ∈ s.chan.history, ∀ b ∈ s.chan.history,
        a.ticket.sequence = b.ticket.sequence → a.status = b.status)) ∧
    ((machine.restrict fun s l => answersInside s l ∧ mainDrains s l).Run ls s →
      s.chan.bell.getD 0 ≤ 1 ∧
      (s.tx = .giveUp ∨ s.rx = .received →
        s.chan.bell = some 0 ∧ s.chan.progress ≠ .drained)) := by
  constructor
  · intro hrun
    have h := hrun.invariant serial_inductive
    exact ⟨h.nodup, fun hseq a ha b hb heq => by rw [h.eq_of_sequence hseq ha hb heq]⟩
  · intro hrun
    obtain ⟨h, hq⟩ := hrun.invariant undisturbed_inductive
    refine ⟨hq.bound, ?_⟩
    intro hpub
    rcases hpub with htx | hrx
    · exact hq.quiet (.inr (.inr htx)) (h.abandoned htx)
    · exact hq.quiet (.inr (.inl (h.receiving (by simp [hrx])).1)) (h.received hrx)

/-- Two commands that the peer answers in time, with `main` draining in between. -/
def drainedRun : List Label :=
  .main .create :: answeredRun ++
    [.main .drain, .main .read, .main .hand, .take 2, .reset, .deliver, .sendOk, .recv ⟨1, 2⟩ .ok,
      .ackStore, .ackNotify, .ackUnlock, .give, .semTake]

theorem drainedRun_serialised : ∃ s,
    (machine.restrict fun s l => answersInside s l ∧ mainDrains s l).Run drainedRun s ∧
      s.chan.history.map (·.ticket) = [⟨0, 1⟩, ⟨1, 2⟩] ∧ (s.chan.history.map (·.ticket)).Nodup ∧
      s.chan.bell.getD 0 ≤ 1 := by
  have hrun : (machine.restrict fun s l => answersInside s l ∧ mainDrains s l).Run drainedRun _ :=
    Machine.run_of_exec rfl
  have hinside : (machine.restrict answersInside).Run drainedRun _ := Machine.run_of_exec rfl
  exact ⟨_, hrun, rfl, ((acks_serialised _ _).1 hinside).1, ((acks_serialised _ _).2 hrun).1⟩

/-- A command the peer answers after the wait for it expired, with `main`
draining in between. -/
def contradictedRun : List Label :=
  [.main .create, .take 1, .reset, .deliver, .sendOk, .expire, .synthStore, .synthNotify,
    .synthUnlock, .main .drain, .main .read, .main .hand, .recv ⟨0, 1⟩ .ok, .ackStore, .ackNotify,
    .ackUnlock, .give]

/-- **A late Ack contradicts the synthesized one**: the host is told that the one
command failed, and then that it succeeded. -/
theorem late_ack_contradicts : ∃ s, (machine.restrict mainDrains).Run contradictedRun s ∧
    (s.taken.map (·.sequence)).Nodup ∧ ¬ (s.chan.history.map (·.ticket)).Nodup ∧
      s.chan.history.map (fun a => (a.ticket.sequence, a.status)) = [(1, .failed), (1, .ok)] := by
  refine ⟨_, Machine.run_of_exec rfl, ?_, ?_, ?_⟩ <;> decide

end ClimateNode.RoundTrip
