import ClimateNode.Automata.Doorbell
import ClimateNode.Gateway.Relay
import ClimateNode.Shared.Commands

/-!
The main loop of `gateway/src/main.cpp` against the threads that feed it.  Four
channels, each with a listener that writes to an eventfd of its own, and one
thread that polls the descriptors, keeps two MQTT sessions and publishes.

* `Gateway.machine`: the loop and the producers, one atomic action a label.  A
  label acts on one channel at most (`effect`), and there as the doorbell of
  `Automata.Doorbell` does.
* `chan_simulates`: so what holds of any doorbell holds of every channel.
* `paced_inductive`, `booted_inductive`: where the loop stands when it has
  something in hand, and which descriptors exist.
* `logged_inductive`: what reaches the broker from a channel is what the loop
  handed on from it.
-/

namespace ClimateNode.Gateway

open Automata Wire

/-! ### Channels and sessions -/

/-- The channels `main` listens to, in the order it creates their descriptors and
publishes from them. -/
inductive ChanId where
  | telemetry | relayTelemetry | relayAck | relayStatus
  deriving DecidableEq, Repr

/-- `kOwnSession` and `kPeerSession`. -/
inductive SessionId where
  | own | peer
  deriving DecidableEq, Repr

/-- `enum session_state`. -/
inductive SessionState where
  | idle | connecting | serving
  deriving DecidableEq, Repr

/-- The topics of a node: `node/1/..` for `own`, `node/2/..` for `peer`. -/
inductive Topic where
  | telemetry (node : SessionId)
  | ack (node : SessionId)
  | status (node : SessionId)
  deriving DecidableEq, Repr

namespace ChanId

instance (p : ChanId → Prop) [DecidablePred p] : Decidable (∀ c, p c) :=
  decidable_of_iff (p .telemetry ∧ p .relayTelemetry ∧ p .relayAck ∧ p .relayStatus)
    ⟨fun h c => by cases c <;> simp [h], fun h => ⟨h _, h _, h _, h _⟩⟩

/-- The message type of a channel. -/
abbrev Msg : ChanId → Type
  | .telemetry => SensorReading
  | .relayTelemetry => RelayUp
  | .relayAck => RelayUp
  | .relayStatus => RelayStatus

instance : (c : ChanId) → Inhabited (Msg c)
  | .telemetry => inferInstanceAs (Inhabited SensorReading)
  | .relayTelemetry => inferInstanceAs (Inhabited RelayUp)
  | .relayAck => inferInstanceAs (Inhabited RelayUp)
  | .relayStatus => inferInstanceAs (Inhabited RelayStatus)

/-- The session that publishes a channel. -/
def session : ChanId → SessionId
  | .telemetry => .own
  | .relayTelemetry | .relayAck | .relayStatus => .peer

/-- The topic a channel is published on. -/
def topic : ChanId → Topic
  | .telemetry => .telemetry .own
  | .relayTelemetry => .telemetry .peer
  | .relayAck => .ack .peer
  | .relayStatus => .status .peer

/-- The channel after this one. -/
def succ : ChanId → Option ChanId
  | .telemetry => some .relayTelemetry
  | .relayTelemetry => some .relayAck
  | .relayAck => some .relayStatus
  | .relayStatus => none

end ChanId

/-- The text of a status on its retained topic. -/
def statusText (st : RelayStatus) : Bytes := cstr (if st.online then "online" else "offline")

/-- The payload published for a message; none for a reading that does not
encode. -/
def payloadOf (pb : Nanopb) : (c : ChanId) → c.Msg → Option Bytes
  | .telemetry, reading =>
      let payload := encodeTelemetry pb reading nodeTelemetrySize
      if payload.length = 0 then none else some payload
  | .relayTelemetry, up => some (RelayUp.payload up)
  | .relayAck, up => some (RelayUp.payload up)
  | .relayStatus, st => some (statusText st)

/-- What the producers of a channel put on it: the relay stamps its messages with
the peer's node id. -/
def produced : (c : ChanId) → c.Msg → Prop
  | .telemetry, _ => True
  | .relayTelemetry, up => RelayUp.nodeId up = kPeerNodeId
  | .relayAck, up => RelayUp.nodeId up = kPeerNodeId
  | .relayStatus, st => RelayStatus.nodeId st = kPeerNodeId

instance : (c : ChanId) → (m : c.Msg) → Decidable (produced c m)
  | .telemetry, _ => inferInstanceAs (Decidable True)
  | .relayTelemetry, up => inferInstanceAs (Decidable (RelayUp.nodeId up = kPeerNodeId))
  | .relayAck, up => inferInstanceAs (Decidable (RelayUp.nodeId up = kPeerNodeId))
  | .relayStatus, st => inferInstanceAs (Decidable (RelayStatus.nodeId st = kPeerNodeId))

/-! ### The machine -/

/-- Where `main` stands: creating the descriptor of a channel, at the top of a
pass, reading the sockets, going through the sessions, in `session_serving` of
the peer before and after its read, or publishing a channel. -/
inductive Pc where
  | boot (c : ChanId)
  | connect
  | input
  | sessions
  | announce
  | announced
  | publish (c : ChanId)
  deriving DecidableEq, Repr

/-- After creating the descriptor of a channel. -/
def Pc.created (c : ChanId) : Pc := c.succ.elim .connect .boot

/-- After publishing a channel; the pass ends with the last. -/
def Pc.published (c : ChanId) : Pc := c.succ.elim .connect .publish

/-- A message handed to the broker: its topic, the connection of its session it
went out on, and which message of which channel it was, if any. -/
structure Publication where
  topic : Topic
  payload : Bytes
  connection : ℕ
  source : Option (ChanId × ℕ)
  deriving DecidableEq, Repr

/-- The channels, the sessions and the loop. -/
structure State where
  chan : (c : ChanId) → Doorbell.State c.Msg
  session : SessionId → SessionState
  /-- How many connections a session has opened. -/
  connection : SessionId → ℕ
  pc : Pc
  /-- The descriptors the last poll found readable. -/
  ready : ChanId → Bool
  /-- Everything published, oldest first. -/
  log : List Publication

/-- The atomic actions: the producers' three, and the loop's.  `ok` is the result
of `mqtt_connect` or `mqtt_publish`. -/
inductive Label where
  | store (c : ChanId) (m : c.Msg)
  | notify (c : ChanId)
  | unlock (c : ChanId)
  | create (c : ChanId)
  | connect (i : SessionId) (ok : Bool)
  | poll (ready : ChanId → Bool)
  | drop (i : SessionId)
  | incoming (i : SessionId) (payload : Bytes)
  | inputDone
  | serve (i : SessionId)
  | announceRead
  | announceReadFail
  | announce (ok : Bool)
  | announceNothing
  | sessionsDone
  | skip (c : ChanId)
  | drain (c : ChanId)
  | read (c : ChanId)
  | readFail (c : ChanId)
  | hand (c : ChanId) (ok : Bool)
  | discard (c : ChanId)

/-- The channel a label acts on, and how. -/
def effect : Label → Option ((c : ChanId) × Doorbell.Label c.Msg)
  | .store c m => some ⟨c, .store m⟩
  | .notify c => some ⟨c, .notify⟩
  | .unlock c => some ⟨c, .unlock⟩
  | .create c => some ⟨c, .create⟩
  | .announceRead => some ⟨.relayStatus, .peek⟩
  | .announce _ => some ⟨.relayStatus, .hand⟩
  | .announceNothing => some ⟨.relayStatus, .discard⟩
  | .drain c => some ⟨c, .drain⟩
  | .read c => some ⟨c, .read⟩
  | .readFail c => some ⟨c, .readFail⟩
  | .hand c _ => some ⟨c, .hand⟩
  | .discard c => some ⟨c, .discard⟩
  | _ => none

section Machine

variable (pb : Nanopb)

/-- The message `main` holds from a channel. -/
abbrev State.held (s : State) (c : ChanId) : c.Msg := (s.chan c).buffer.2

/-- Publishing what `main` holds from a channel. -/
def State.publication (s : State) (c : ChanId) : Publication :=
  ⟨c.topic, (payloadOf pb c (s.held c)).getD [], s.connection c.session,
    some (c, (s.chan c).buffer.1)⟩

/-- When the loop takes a label, as far as the channel is not concerned. -/
def control (s : State) : Label → Prop
  | .store c m => produced c m
  | .notify _ | .unlock _ => True
  | .create c => s.pc = .boot c
  | .connect i _ => s.pc = .connect ∧ s.session i = .idle
  | .poll ready => s.pc = .connect ∧
      ∀ c, ready c = true → s.session c.session = .serving ∧ (s.chan c).signalled
  | .drop i => (s.pc = .input ∨ s.pc = .sessions) ∧ s.session i ≠ .idle
  | .incoming i _ => s.pc = .input ∧ s.session i ≠ .idle
  | .inputDone => s.pc = .input
  | .serve i => s.pc = .sessions ∧ s.session i = .connecting
  | .announceRead | .announceReadFail => s.pc = .announce
  | .announce _ => s.pc = .announced ∧ (s.held .relayStatus).nodeId ≠ 0
  | .announceNothing => s.pc = .announced ∧ (s.held .relayStatus).nodeId = 0
  | .sessionsDone => s.pc = .sessions
  | .skip c => s.pc = .publish c ∧ (s.chan c).progress = .idle ∧
      ¬ (s.ready c = true ∧ s.session c.session = .serving ∧ (s.chan c).signalled)
  | .drain c => s.pc = .publish c ∧ s.ready c = true ∧ s.session c.session = .serving
  | .read c | .readFail c => s.pc = .publish c
  | .hand c _ => s.pc = .publish c ∧ (payloadOf pb c (s.held c)).isSome = true
  | .discard c => s.pc = .publish c ∧ payloadOf pb c (s.held c) = none

instance (s : State) (l : Label) : Decidable (control pb s l) := by
  cases l <;> dsimp only [control] <;> infer_instance

/-- The channel has to allow its step. -/
def chanEnabled (s : State) : Option ((c : ChanId) × Doorbell.Label c.Msg) → Prop
  | none => True
  | some b => Doorbell.enabled (s.chan b.1) b.2

instance (s : State) (e : Option ((c : ChanId) × Doorbell.Label c.Msg)) :
    Decidable (chanEnabled s e) := by
  cases e <;> dsimp only [chanEnabled] <;> infer_instance

/-- The channels after a step on one of them. -/
def chanNext (s : State) : Option ((c : ChanId) × Doorbell.Label c.Msg) →
    (c : ChanId) → Doorbell.State c.Msg
  | none => s.chan
  | some b => Function.update s.chan b.1 (Doorbell.next .counting (s.chan b.1) b.2)

/-- What a label publishes. -/
def written (s : State) : Label → List Publication
  | .incoming i payload => [⟨.ack i, payload, s.connection i, none⟩]
  | .serve .own => [⟨.status .own, cstr "online", s.connection .own, none⟩]
  | .announce true => [s.publication pb .relayStatus]
  | .hand c true => [s.publication pb c]
  | _ => []

/-- How a label moves the loop and the sessions. -/
def move (s : State) : Label → State
  | .create c => { s with pc := .created c }
  | .connect i true =>
      { s with session := Function.update s.session i .connecting
               connection := Function.update s.connection i (s.connection i + 1) }
  | .poll ready => { s with pc := .input, ready := ready }
  | .drop i => { s with session := Function.update s.session i .idle }
  | .inputDone => { s with pc := .sessions }
  | .serve .own => { s with session := Function.update s.session .own .serving }
  | .serve .peer =>
      { s with session := Function.update s.session .peer .serving, pc := .announce }
  | .announceRead => { s with pc := .announced }
  | .announceReadFail | .announce _ | .announceNothing => { s with pc := .sessions }
  | .sessionsDone => { s with pc := .publish .telemetry }
  | .skip c | .readFail c | .discard c | .hand c true => { s with pc := .published c }
  | .hand c false =>
      { s with pc := .published c, session := Function.update s.session c.session .idle }
  | _ => s

/-- Which labels may fire. -/
def enabled (s : State) (l : Label) : Prop := control pb s l ∧ chanEnabled s (effect l)

instance (s : State) (l : Label) : Decidable (enabled pb s l) :=
  inferInstanceAs (Decidable (_ ∧ _))

/-- What each label does. -/
def next (s : State) (l : Label) : State :=
  { move s l with chan := chanNext s (effect l), log := s.log ++ written pb s l }

/-- Boot. -/
def boot : State :=
  ⟨fun _ => Doorbell.State.empty, fun _ => .idle, fun _ => 0, .boot .telemetry, fun _ => false, []⟩

/-- The machine of the gateway's main loop. -/
def machine : Machine State Label := ⟨boot, enabled pb, next pb⟩

instance (s : State) (l : Label) : Decidable ((machine pb).enabled s l) :=
  inferInstanceAs (Decidable (enabled pb s l))

end Machine

/-! ### Channels are doorbells -/

/-- `effect` as a relation, to take apart by cases. -/
inductive Acts : (c : ChanId) → Label → Doorbell.Label c.Msg → Prop
  | store (c m) : Acts c (.store c m) (.store m)
  | notify (c) : Acts c (.notify c) .notify
  | unlock (c) : Acts c (.unlock c) .unlock
  | create (c) : Acts c (.create c) .create
  | announceRead : Acts .relayStatus .announceRead .peek
  | announce (ok) : Acts .relayStatus (.announce ok) .hand
  | announceNothing : Acts .relayStatus .announceNothing .discard
  | drain (c) : Acts c (.drain c) .drain
  | read (c) : Acts c (.read c) .read
  | readFail (c) : Acts c (.readFail c) .readFail
  | hand (c ok) : Acts c (.hand c ok) .hand
  | discard (c) : Acts c (.discard c) .discard

section Channels

variable {pb : Nanopb} {s : State} {l : Label}

lemma Acts.of_effect {c : ChanId} {b : Doorbell.Label c.Msg} (h : effect l = some ⟨c, b⟩) :
    Acts c l b := by
  cases l <;> simp only [effect, reduceCtorEq, Option.some.injEq, Sigma.mk.injEq] at h <;>
    (obtain ⟨rfl, heq⟩ := h; cases eq_of_heq heq; constructor)

lemma Acts.effect_eq {c : ChanId} {b : Doorbell.Label c.Msg} (h : Acts c l b) :
    effect l = some ⟨c, b⟩ := by
  cases h <;> rfl

/-- A label that acts on a channel does what a doorbell does. -/
lemma Acts.next_chan {c : ChanId} {b : Doorbell.Label c.Msg} (h : Acts c l b) :
    (next pb s l).chan c = Doorbell.next .counting (s.chan c) b := by
  simp [next, h.effect_eq, chanNext]

/-- A label leaves a channel it does not act on alone. -/
lemma next_chan_of_not_acts {c : ChanId} (h : ∀ b, ¬ Acts c l b) :
    (next pb s l).chan c = s.chan c := by
  cases he : effect l with
  | none => simp [next, he, chanNext]
  | some e =>
      have hne : c ≠ e.1 := by
        rintro rfl
        exact h e.2 (Acts.of_effect he)
      simp [next, he, chanNext, hne]

/-- Every step of the loop is one of these two on every channel. -/
lemma step_chan (hl : enabled pb s l) (c : ChanId) :
    (next pb s l).chan c = s.chan c ∨
      ∃ b, Acts c l b ∧ Doorbell.enabled (s.chan c) b ∧
        (next pb s l).chan c = Doorbell.next .counting (s.chan c) b := by
  by_cases h : ∃ b, Acts c l b
  · obtain ⟨b, hb⟩ := h
    have hen : chanEnabled s (effect l) := hl.2
    rw [hb.effect_eq] at hen
    exact .inr ⟨b, hb, hen, hb.next_chan⟩
  · exact .inl (next_chan_of_not_acts (not_exists.mp h))

variable (pb)

/-- **Every channel is a doorbell.** -/
theorem chan_simulates (c : ChanId) :
    (Doorbell.machine c.Msg .counting).Simulates (machine pb) fun s => s.chan c where
  init := .init _
  step s l hl := by
    rcases step_chan hl c with heq | ⟨b, -, hen, heq⟩
    · exact .inl heq
    · exact .inr ⟨b, hen, heq⟩

/-- Only the status channel is ever read unannounced. -/
lemma Acts.announced {c : ChanId} (hc : c ≠ .relayStatus) {b : Doorbell.Label c.Msg}
    (h : Acts c l b) (s : Doorbell.State c.Msg) : Doorbell.announced s b := by
  cases h <;> trivial

/-- A channel other than the status channel only hands on what was stored. -/
theorem chan_simulates_announced {c : ChanId} (hc : c ≠ .relayStatus) :
    ((Doorbell.machine c.Msg .counting).restrict Doorbell.announced).Simulates (machine pb)
      fun s => s.chan c where
  init := .init _
  step s l hl := by
    rcases step_chan hl c with heq | ⟨b, hact, hen, heq⟩
    · exact .inl heq
    · exact .inr ⟨b, ⟨hen, hact.announced hc _⟩, heq⟩

end Channels

/-! ### Where the loop stands -/

/-- Only the channel the loop is at has a message read or about to be. -/
def Paced (s : State) : Prop :=
  ∀ c, (s.chan c).progress ≠ .idle → s.pc = .publish c ∨ (c = .relayStatus ∧ s.pc = .announced)

/-- The place of a channel in the order of creation. -/
def ChanId.rank : ChanId → ℕ
  | .telemetry => 0
  | .relayTelemetry => 1
  | .relayAck => 2
  | .relayStatus => 3

/-- A descriptor that does not exist is yet to be created. -/
def Booted (s : State) : Prop :=
  ∀ c, (s.chan c).bell = none → ∃ c', s.pc = .boot c' ∧ c'.rank ≤ c.rank

section Control

variable (pb : Nanopb)

theorem paced_inductive : (machine pb).Inductive Paced where
  init c hne := absurd rfl hne
  step s l h hl := by
    intro c hne
    have hc := hl.1
    change ((next pb s l).chan c).progress ≠ .idle at hne
    change (move s l).pc = .publish c ∨ (c = .relayStatus ∧ (move s l).pc = .announced)
    by_cases hact : ∃ b, Acts c l b
    · obtain ⟨b, hact⟩ := hact
      rw [hact.next_chan] at hne
      cases hact with
      | store | notify | unlock => exact h c hne
      | create => simpa [show s.pc = .boot c from hc] using h c hne
      | announceRead => exact .inr ⟨rfl, rfl⟩
      | drain => exact .inl hc.1
      | read => exact .inl hc
      | announce | announceNothing | readFail | hand | discard => exact absurd rfl hne
    · rw [next_chan_of_not_acts (not_exists.mp hact)] at hne
      have hpc := h c hne
      -- a label of another channel, or one that needs the loop elsewhere
      cases l with
      | skip c' =>
          obtain rfl : c' = c := by simpa [hc.1] using hpc
          exact absurd hc.2.1 hne
      | readFail c' =>
          obtain rfl : c' = c := by simpa [show s.pc = .publish c' from hc] using hpc
          exact absurd ⟨_, .readFail _⟩ hact
      | hand c' ok =>
          obtain rfl : c' = c := by simpa [hc.1] using hpc
          exact absurd ⟨_, .hand _ ok⟩ hact
      | discard c' =>
          obtain rfl : c' = c := by simpa [hc.1] using hpc
          exact absurd ⟨_, .discard _⟩ hact
      | announce ok =>
          obtain rfl : c = .relayStatus := by simpa [hc.1] using hpc
          exact absurd ⟨_, .announce ok⟩ hact
      | announceNothing =>
          obtain rfl : c = .relayStatus := by simpa [hc.1] using hpc
          exact absurd ⟨_, .announceNothing⟩ hact
      | store | notify | unlock | drop | incoming | drain | read => exact hpc
      | create | connect | poll | inputDone | serve | announceRead | announceReadFail
        | sessionsDone => simp_all [control]

theorem booted_inductive : (machine pb).Inductive Booted where
  init c _ := ⟨.telemetry, rfl, by cases c <;> decide⟩
  step s l h hl := by
    intro c hnone
    have hc := hl.1
    change ((next pb s l).chan c).bell = none at hnone
    change ∃ c', (move s l).pc = .boot c' ∧ c'.rank ≤ c.rank
    have hs : (s.chan c).bell = none ∧ l ≠ .create c := by
      by_cases hact : ∃ b, Acts c l b
      · obtain ⟨b, hact⟩ := hact
        rw [hact.next_chan] at hnone
        cases hact <;> simp_all [Doorbell.next]
      · rw [next_chan_of_not_acts (not_exists.mp hact)] at hnone
        exact ⟨hnone, fun heq => hact ⟨.create, by rw [heq]; exact .create c⟩⟩
    obtain ⟨c', hpc, hle⟩ := h c hs.1
    cases l with
    | create c'' =>
        obtain rfl : c' = c'' := by simpa [show s.pc = .boot c'' from hc] using hpc.symm
        have hne : c' ≠ c := by simpa using hs.2
        cases c' <;> cases c <;> simp_all [move, Pc.created, ChanId.succ, ChanId.rank]
    | store | notify | unlock | drop | incoming | drain | read => exact ⟨c', hpc, hle⟩
    | _ => simp_all [control]

end Control

/-! ### What is published -/

section Log

variable (pb : Nanopb)

/-- What was published from a channel: the number of each message and its
payload. -/
def State.published (s : State) (c : ChanId) : List (ℕ × Bytes) :=
  s.log.filterMap fun p => p.source.bind fun q =>
    if q.1 = c then some (q.2, p.payload) else none

/-- What the loop handed on from a channel, as it is published. -/
def handedOn (s : State) (c : ChanId) : List (ℕ × Bytes) :=
  (s.chan c).handed.map fun h => (h.1, (payloadOf pb c h.2).getD [])

/-- What was published from a channel was handed on from it, and every message
goes to the topic of its channel. -/
structure Logged (s : State) : Prop where
  sublist : ∀ c, (s.published c).Sublist (handedOn pb s c)
  topic : ∀ p ∈ s.log, ∀ c n, p.source = some (c, n) → p.topic = c.topic
  other : ∀ p ∈ s.log, p.source = none → p.topic = .status .own ∨ ∃ i, p.topic = .ack i

/-- A message of a channel is published by the label that hands it on. -/
lemma written_hand {s : State} {l : Label} {p : Publication} (hp : p ∈ written pb s l)
    {c : ChanId} {n : ℕ} (hsrc : p.source = some (c, n)) :
    Acts c l .hand ∧ p = s.publication pb c := by
  cases l with
  | incoming i payload =>
      obtain rfl := List.mem_singleton.mp hp
      simp at hsrc
  | serve i =>
      cases i with
      | own =>
          obtain rfl := List.mem_singleton.mp hp
          simp at hsrc
      | peer => simp [written] at hp
  | announce ok =>
      cases ok with
      | true =>
          obtain rfl := List.mem_singleton.mp hp
          obtain ⟨rfl, -⟩ : ChanId.relayStatus = c ∧ _ := by
            simpa [State.publication] using hsrc
          exact ⟨.announce true, rfl⟩
      | false => simp [written] at hp
  | hand c' ok =>
      cases ok with
      | true =>
          obtain rfl := List.mem_singleton.mp hp
          obtain ⟨rfl, -⟩ : c' = c ∧ _ := by simpa [State.publication] using hsrc
          exact ⟨.hand c' true, rfl⟩
      | false => simp [written] at hp
  | _ => simp [written] at hp

lemma published_next (s : State) (l : Label) (c : ChanId) :
    (next pb s l).published c = s.published c ++
      (written pb s l).filterMap fun p => p.source.bind fun q =>
        if q.1 = c then some (q.2, p.payload) else none := by
  simp [State.published, next]

/-- Publishing hands on, and nothing handed on is taken back. -/
lemma published_step {s : State} (l : Label) (c : ChanId)
    (h : (s.published c).Sublist (handedOn pb s c)) :
    ((next pb s l).published c).Sublist (handedOn pb (next pb s l) c) := by
  rw [published_next]
  by_cases hact : ∃ b, Acts c l b
  · obtain ⟨b, hact⟩ := hact
    rw [handedOn, hact.next_chan]
    cases hact with
    | announce ok | hand c ok =>
        simp only [Doorbell.next, List.map_append]
        refine h.append ?_
        cases ok <;> simp [written, State.publication]
    | _ => simpa [written, handedOn, Doorbell.next] using h
  · have hnone : ((written pb s l).filterMap fun p => p.source.bind fun q =>
        if q.1 = c then some (q.2, p.payload) else none) = [] := by
      refine List.filterMap_eq_nil_iff.mpr fun p hp => ?_
      cases hsrc : p.source with
      | none => rfl
      | some q =>
          refine if_neg fun heq => hact ⟨.hand, ?_⟩
          exact (written_hand pb hp (by rw [hsrc, ← heq])).1
    rw [hnone, List.append_nil, handedOn, next_chan_of_not_acts (not_exists.mp hact)]
    exact h

theorem logged_inductive : (machine pb).Inductive (Logged pb) where
  init := ⟨fun c => List.nil_sublist _, by simp [machine, boot], by simp [machine, boot]⟩
  step s l h _ := by
    refine ⟨fun c => published_step pb l c (h.sublist c), ?_, ?_⟩
    · intro p hp c n hsrc
      rcases List.mem_append.mp hp with hp | hp
      · exact h.topic p hp c n hsrc
      · rw [(written_hand pb hp hsrc).2]
        rfl
    · intro p hp hsrc
      rcases List.mem_append.mp hp with hp | hp
      · exact h.other p hp hsrc
      · cases l with
        | incoming i payload =>
            obtain rfl := List.mem_singleton.mp hp
            exact .inr ⟨i, rfl⟩
        | serve i =>
            cases i with
            | own =>
                obtain rfl := List.mem_singleton.mp hp
                exact .inl rfl
            | peer => simp [written] at hp
        | announce ok | hand c ok => cases ok <;> simp_all [written, State.publication]
        | _ => simp [written] at hp

end Log

/-! ### What reaches the broker -/

section Broker

variable {pb : Nanopb} {ls : List Label} {s : State}

/-- The payloads published on a topic. -/
def State.payloadsOn (s : State) (topic : Topic) : List Bytes :=
  (s.log.filter fun p => p.topic = topic).map Publication.payload

/-- The telemetry topic of the peer has one source. -/
lemma payloadsOn_telemetry (h : Logged pb s) :
    s.payloadsOn (.telemetry .peer) = (s.published .relayTelemetry).map (·.2) := by
  rw [State.payloadsOn, State.published, List.map_filterMap, ← List.filterMap_eq_map,
    List.filterMap_filter]
  refine List.filterMap_congr fun p hp => ?_
  cases hsrc : p.source with
  | none =>
      rcases h.other p hp hsrc with htopic | ⟨i, htopic⟩ <;> simp [htopic]
  | some q =>
      have htopic := h.topic p hp q.1 q.2 hsrc
      cases hq : q.1 <;> simp [hq, htopic, ChanId.topic]

/-- **In order, nothing made up**: what is published from a channel is, adjacent
repeats collapsed, a subsequence of what was stored on it. -/
theorem published_destutter_sublist (h : (machine pb).Run ls s) {c : ChanId}
    (hc : c ≠ .relayStatus) :
    (((s.published c).map (·.2)).destutter (· ≠ ·)).Sublist
      ((s.chan c).history.map fun m => (payloadOf pb c m).getD []) := by
  obtain ⟨hs, hpos⟩ :=
    (chan_simulates_announced pb hc).invariant (Doorbell.positive_inductive .counting) h
  obtain ⟨l, hl, heq⟩ := List.sublist_map_iff.mp
    ((h.invariant (logged_inductive pb)).sublist c)
  rw [heq, List.map_map]
  exact Doorbell.handed_destutter_sublist hs hpos hl fun m => (payloadOf pb c m).getD []

variable (pb)

/-- Only a store adds to what was stored. -/
lemma history_next {l : Label} {c : ChanId} (h : ∀ m, l ≠ .store c m) :
    ((next pb s l).chan c).history = (s.chan c).history := by
  by_cases hact : ∃ b, Acts c l b
  · obtain ⟨b, hact⟩ := hact
    rw [hact.next_chan]
    cases hact with
    | store _ m => exact absurd rfl (h m)
    | _ => rfl
  · rw [next_chan_of_not_acts (not_exists.mp hact)]

lemma history_store (c : ChanId) (m : c.Msg) :
    ((next pb s (.store c m)).chan c).history = (s.chan c).history ++ [m] := by
  rw [(Acts.store c m).next_chan]
  rfl

end Broker

/-! ### Pieces of runs -/

/-- From boot to the peer session serving, with nothing to publish. -/
def peerServing : List Label :=
  [.create .telemetry, .create .relayTelemetry, .create .relayAck, .create .relayStatus,
    .connect .peer true, .poll fun _ => false, .inputDone, .serve .peer, .announceRead,
    .announceNothing, .sessionsDone, .skip .telemetry, .skip .relayTelemetry, .skip .relayAck,
    .skip .relayStatus]

/-- A producer's three steps. -/
def publishOn (c : ChanId) (m : c.Msg) : List Label := [.store c m, .notify c, .unlock c]

/-- The top of a pass that found the relay's telemetry readable, up to its
drain. -/
def drainTelemetry : List Label :=
  [.poll fun c => c == .relayTelemetry, .inputDone, .sessionsDone, .skip .telemetry,
    .drain .relayTelemetry]

end ClimateNode.Gateway
