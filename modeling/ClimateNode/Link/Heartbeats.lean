import ClimateNode.Automata.Product
import ClimateNode.Gateway.RxLoop
import ClimateNode.Peer.Reports

/-!
The peer's heartbeats from end to end: `main` of the peer, which sends them, the bus, and
`rx_thread` of the gateway with its interrupt, which judges the peer by them.  Each node
counts its own uptime.  On the bus a frame may be lost or be overtaken, and takes the time it
takes.

* `machine`: the two nodes and the bus.
* `timely`: frames that arrive later than some latency are left out.
* `prompt`: and none is lost once the gateway listens.
* `silent_peer_offline`: **a peer that falls silent** goes offline.
* `beating_peer_online`: **a peer that beats** is online.
-/

namespace ClimateNode.HeartbeatPath

open Automata HeartbeatQueue Peer Peer.Reports

/-! ### The two nodes and the bus -/

/-- A heartbeat on the bus, and when `can_send` took it, in the gateway's uptime. -/
structure Flight where
  taken : ℤ
  frame : CanFrame
  deriving DecidableEq, Repr

/-- The atomic actions: time passes at both nodes, `can_send` takes a heartbeat, a frame
arrives, at a queue that holds what it finds, or is lost, and what else the peer and the
gateway do. -/
inductive Label where
  | tick (ms : ℕ)
  | beat
  | arrive (flight : Flight) (found : List CanFrame)
  | lose (flight : Flight)
  | peer (l : Loop.Label) (reading : SensorReading)
  | gateway (l : RxLoop.Label)
  deriving DecidableEq, Repr

/-- The peer, and the RX thread of the gateway with its queue. -/
abbrev Nodes := (Loop.State × Memory) × (HeartbeatQueue.State × List CanFrame) × RxLoop.State

/-- What a label is to the peer. -/
def Label.toPeer : Label → Option Step
  | .tick ms => some (.tick ms, default)
  | .beat => some (.canSend 0, default)
  | .peer l reading => some (l, reading)
  | .arrive _ _ | .lose _ | .gateway _ => none

/-- What a label is to the RX thread. -/
def Label.toGateway : Label → Option RxLoop.Label
  | .tick ms => some (.tick ms)
  | .arrive flight found => some (.put flight.frame found)
  | .gateway l => some l
  | .beat | .lose _ | .peer .. => none

/-- Time passes, frames are taken and frames arrive in the labels above only. -/
def agreed (_ : Nodes) : Label → Prop
  | .peer (.tick _) _ | .gateway (.tick _) | .gateway (.put ..) => False
  | .peer (.canSend rc) _ => rc ≠ 0
  | _ => True

instance (s : Nodes) (l : Label) : Decidable (agreed s l) := by
  unfold agreed
  split <;> infer_instance

/-- What is on the bus. -/
def onBus (s : Nodes) (bus : List Flight) : Label → List Flight
  | .beat => bus ++ [⟨s.2.2.now, .ofHeartbeat (stamp s.1.2.hbState s.1.1.now)⟩]
  | .arrive flight _ | .lose flight => bus.erase flight
  | _ => bus

/-- The frame is on the bus. -/
def carried (s : Nodes × List Flight) : Label → Prop
  | .arrive flight _ | .lose flight => flight ∈ s.2
  | _ => True

instance (s : Nodes × List Flight) (l : Label) : Decidable (carried s l) := by
  cases l <;> dsimp only [carried] <;> infer_instance

/-- The two nodes: the loop of the peer is entered at `t0`, by its uptime, and the RX
thread is created at `t1`, by the gateway's. -/
def nodes (t0 t1 : ℤ) : Machine Nodes Label :=
  .pair (reporting t0) (RxLoop.machine t1) Label.toPeer Label.toGateway agreed

instance (t0 t1 : ℤ) (s : Nodes) (l : Label) : Decidable ((nodes t0 t1).enabled s l) :=
  inferInstanceAs (Decidable ((Machine.pair (reporting t0) (RxLoop.machine t1) Label.toPeer
    Label.toGateway agreed).enabled s l))

/-- The two nodes and the bus between them. -/
def machine (t0 t1 : ℤ) : Machine (Nodes × List Flight) Label :=
  ((nodes t0 t1).annotate [] onBus).restrict carried

instance (t0 t1 : ℤ) (s : Nodes × List Flight) (l : Label) :
    Decidable ((machine t0 t1).enabled s l) :=
  inferInstanceAs (Decidable ((((nodes t0 t1).annotate [] onBus).restrict carried).enabled s l))

/-- The frame is not late. -/
def inTime (latency : ℕ) (s : Nodes × List Flight) : Label → Prop
  | .arrive flight _ => s.1.2.2.now ≤ flight.taken + latency
  | _ => True

instance (latency : ℕ) (s : Nodes × List Flight) (l : Label) : Decidable (inTime latency s l) := by
  cases l <;> dsimp only [inTime] <;> infer_instance

/-- No frame arrives later than `latency` ms after it was taken. -/
def timely (latency : ℕ) (t0 t1 : ℤ) : Machine (Nodes × List Flight) Label :=
  (machine t0 t1).restrict (inTime latency)

instance (latency : ℕ) (t0 t1 : ℤ) (s : Nodes × List Flight) (l : Label) :
    Decidable ((timely latency t0 t1).enabled s l) :=
  inferInstanceAs (Decidable (((machine t0 t1).restrict (inTime latency)).enabled s l))

/-- Time waits for the frames on the bus, and none is lost once the filter is installed. -/
def delivers (latency : ℕ) (s : Nodes × List Flight) : Label → Prop
  | .tick ms => ∀ flight ∈ s.2, s.1.2.2.now + ms ≤ flight.taken + latency
  | .lose _ => s.1.2.2.filtered = false
  | _ => True

instance (latency : ℕ) (s : Nodes × List Flight) (l : Label) :
    Decidable (delivers latency s l) := by
  cases l <;> dsimp only [delivers] <;> infer_instance

/-- Every frame arrives within `latency` ms, if the gateway listens. -/
def prompt (latency : ℕ) (t0 t1 : ℤ) : Machine (Nodes × List Flight) Label :=
  (timely latency t0 t1).restrict (delivers latency)

instance (latency : ℕ) (t0 t1 : ℤ) (s : Nodes × List Flight) (l : Label) :
    Decidable ((prompt latency t0 t1).enabled s l) :=
  inferInstanceAs (Decidable (((timely latency t0 t1).restrict (delivers latency)).enabled s l))

/-! ### What is heard -/

/-- A frame taken at `taken` is that of a beat of the peer, whose uptime lags behind by
`lag`. -/
def FrameOf (lag : ℤ) (b : Beat) (taken : ℤ) (frame : CanFrame) : Prop :=
  frame.bytes = b.bytes ∧ taken = b.time + lag

/-- What is on the bus the peer has sent, and what the gateway hears as well, and not long
ago. -/
structure Carried (lag : ℤ) (latency : ℕ) (s : Nodes × List Flight) : Prop where
  clock : s.1.2.2.now = s.1.1.1.now + lag
  bus : ∀ f ∈ s.2, ∃ b ∈ s.1.1.2.beats, FrameOf lag b f.taken f.frame
  heard : ∀ a ∈ s.1.2.2.allHeard, ∃ b ∈ s.1.1.2.beats, ∃ taken,
    FrameOf lag b taken a.frame ∧ taken ≤ a.time ∧ a.time ≤ taken + latency

variable {lag : ℤ} {latency : ℕ} {t0 t1 : ℤ} {s : Nodes × List Flight}

/-- A step in which nothing arrives. -/
lemma Carried.of_same (h : Carried lag latency s) {t : Nodes × List Flight}
    (hclock : t.1.2.2.now = t.1.1.1.now + lag) (hbeats : s.1.1.2.beats ⊆ t.1.1.2.beats)
    (hbus : t.2 ⊆ s.2) (hheard : t.1.2.2.allHeard = s.1.2.2.allHeard) :
    Carried lag latency t where
  clock := hclock
  bus f hf := by
    obtain ⟨b, hb, hframe⟩ := h.bus f (hbus hf)
    exact ⟨b, hbeats hb, hframe⟩
  heard a ha := by
    obtain ⟨b, hb, taken, hframe⟩ := h.heard a (hheard ▸ ha)
    exact ⟨b, hbeats hb, taken, hframe⟩

/-- A beat is taken. -/
lemma Carried.beat (h : Carried lag latency s) :
    Carried lag latency ((machine t0 t1).next s .beat) where
  clock := h.clock
  bus f hf := by
    rcases List.mem_append.mp hf with hf | hf
    · obtain ⟨b, hb, hframe⟩ := h.bus f hf
      exact ⟨b, List.mem_append_left _ hb, hframe⟩
    · obtain rfl := List.mem_singleton.mp hf
      exact ⟨_, List.mem_append_right _ (List.mem_singleton_self _), rfl, h.clock⟩
  heard a ha := by
    obtain ⟨b, hb, taken, hframe⟩ := h.heard a ha
    exact ⟨b, List.mem_append_left _ hb, taken, hframe⟩

/-- A frame arrives, in time. -/
lemma Carried.arrive (h : Carried lag latency s) (hpast : ∀ b ∈ s.1.1.2.beats,
      b.time ≤ s.1.1.1.now) {f : Flight} (hmem : f ∈ s.2)
    (hf : s.1.2.2.now ≤ f.taken + latency) {found : List CanFrame}
    (hen : RxLoop.enabled s.1.2.2 (.put f.frame found)) :
    Carried lag latency ((machine t0 t1).next s (.arrive f found)) where
  clock := h.clock
  bus g hg := h.bus g (List.mem_of_mem_erase hg)
  heard a ha := by
    change a ∈ (RxLoop.next s.1.2.2 (.put f.frame found)).allHeard at ha
    rw [RxLoop.allHeard_next hen] at ha
    rcases List.mem_append.mp ha with ha | ha
    · exact h.heard a ha
    · obtain rfl := List.mem_singleton.mp ha
      obtain ⟨b, hb, hframe⟩ := h.bus f hmem
      refine ⟨b, hb, f.taken, hframe, ?_, hf⟩
      have hclock := h.clock
      have htaken := hframe.2
      have hbefore := hpast b hb
      dsimp only
      omega

/-- The invariants of the nodes, each by itself. -/
structure Apart (s : Nodes) : Prop where
  reports : Reports.Kept s.1
  sees : Accounted s.2.1 ∧ RxLoop.Heard s.2
  orderly : RxLoop.Kept s.2.2 ∧ RxLoop.Orderly s.2.2

lemma apart_inductive (latency : ℕ) (t0 t1 : ℤ) :
    (timely latency t0 t1).Inductive fun s => Apart s.1 := by
  have hreports : (nodes t0 t1).Inductive fun s => Reports.Kept s.1 := (kept_inductive t0).fst
  have hsees : (nodes t0 t1).Inductive fun s => Accounted s.2.1 ∧ RxLoop.Heard s.2 :=
    (RxLoop.sees_inductive t1).snd
  have horderly : (nodes t0 t1).Inductive fun s => RxLoop.Kept s.2.2 ∧ RxLoop.Orderly s.2.2 :=
    (RxLoop.orderly_inductive t1).snd.snd
  have hnodes : (nodes t0 t1).Inductive Apart :=
    ⟨⟨hreports.init, hsees.init, horderly.init⟩, fun s l h hl =>
      ⟨hreports.step s l h.reports hl, hsees.step s l h.sees hl,
        horderly.step s l h.orderly hl⟩⟩
  exact (hnodes.annotate.restrict carried).restrict (inTime latency)

/-- **The step lemma of the bus.** -/
theorem carried_inductive (latency : ℕ) (t0 t1 : ℤ) : (timely latency t0 t1).Inductive fun s =>
    Apart s.1 ∧ Carried (t1 - t0) latency s := by
  refine (apart_inductive latency t0 t1).and ⟨?_, ?_, ?_⟩ fun s l hapart h hl => ?_
  · change t1 = t0 + (t1 - t0)
    omega
  · exact fun f hf => absurd hf List.not_mem_nil
  · exact fun a ha => absurd ha List.not_mem_nil
  obtain ⟨⟨⟨hpeer, hgateway, hagreed⟩, hcarried⟩, htime⟩ := hl
  cases l with
  | tick ms =>
      refine h.of_same ?_ (List.Subset.refl _) (List.Subset.refl _) rfl
      have hclock := h.clock
      change s.1.2.2.now + ms = s.1.1.1.now + ms + (t1 - t0)
      omega
  | beat => exact h.beat
  | arrive f found =>
      exact h.arrive hapart.reports.past hcarried htime ((hgateway _ rfl).2.1 _ rfl)
  | lose f => exact h.of_same h.clock (List.Subset.refl _) (fun g => List.mem_of_mem_erase) rfl
  | peer l reading =>
      have hl : (∀ ms, l ≠ .tick ms) ∧ l ≠ .canSend 0 := by
        constructor
        · rintro ms rfl
          exact hagreed
        · rintro rfl
          exact hagreed rfl
      refine h.of_same ?_ (fun b hb => ?_) (List.Subset.refl _) rfl
      · exact h.clock.trans (congrArg (· + _) (now_next hl.1).symm)
      · exact (beats_update reading hl.2).symm ▸ hb
  | gateway l =>
      have hl : (∀ ms, l ≠ .tick ms) ∧ ∀ frame found, l ≠ .put frame found := by
        constructor
        · rintro ms rfl
          exact hagreed
        · rintro frame found rfl
          exact hagreed
      have hen : RxLoop.enabled s.1.2.2 l := (hgateway _ rfl).2.1 _ rfl
      refine h.of_same ?_ (List.Subset.refl _) (List.Subset.refl _) ?_
      · exact (RxLoop.now_next hl.1).trans h.clock
      · refine (RxLoop.allHeard_next hen).trans ?_
        cases l with
        | put frame found => exact absurd rfl (hl.2 frame found)
        | _ => exact List.append_nil _

/-! ### What is delivered -/

/-- A frame taken at this time may have come before the gateway listened. -/
def Unheard (g : RxLoop.State) (taken : ℤ) : Prop :=
  (g.pc.starting → taken ≤ g.now) ∧ (¬ g.pc.starting → taken ≤ g.since)

lemma Unheard.next {g : RxLoop.State} {taken : ℤ} (h : Unheard g taken) {l : RxLoop.Label}
    (hl : RxLoop.enabled g l) : Unheard (RxLoop.next g l) taken := by
  cases l with
  | tick ms => exact ⟨fun hs => (h.1 hs).trans (Int.le_add_of_nonneg_right (by simp)), h.2⟩
  | put frame found | call | get seen uninit | done seen | readClock => exact h
  | ready _ | canStart _ | addFilter _ | bind _ =>
      obtain ⟨hpc, pc, filtered, hpc', heq⟩ := RxLoop.start_cases hl trivial
      rw [heq]
      exact ⟨fun _ => h.1 hpc, fun hs => absurd hpc' hs⟩
  | watch =>
      have hpc : g.pc = .watch := hl
      exact ⟨fun hs => absurd hs id, fun _ => h.1 (by rw [hpc]; trivial)⟩
  | recv | publish online | publishFail online =>
      have hpc := (show g.pc = _ from hl)
      exact ⟨fun hs => absurd hs id, fun _ => h.2 (by rw [hpc]; exact id)⟩
  | step drain clock =>
      have hpc : g.pc = .turn := hl.1
      have hafter : ¬ (RxLoop.next g (.step drain clock)).pc.starting := by
        simp only [RxLoop.next]
        split_ifs <;> exact id
      exact ⟨fun hs => absurd hs hafter, fun _ => h.2 (by rw [hpc]; exact id)⟩

/-- What is on the bus is not late yet, and each beat is there, or was heard, unless the
gateway did not listen. -/
structure Delivered (lag : ℤ) (latency : ℕ) (s : Nodes × List Flight) : Prop where
  bus : ∀ f ∈ s.2, s.1.2.2.now ≤ f.taken + latency
  beats : ∀ b ∈ s.1.1.2.beats, (∃ f ∈ s.2, f.taken = b.time + lag) ∨
    (∃ a ∈ s.1.2.2.allHeard, b.time + lag ≤ a.time ∧ a.time ≤ b.time + lag + latency) ∨
    Unheard s.1.2.2 (b.time + lag)

/-- A step that leaves the beats and the bus alone. -/
lemma Delivered.of_same (h : Delivered lag latency s) {t : Nodes × List Flight}
    (hnow : ∀ f ∈ s.2, t.1.2.2.now ≤ f.taken + latency) (hbeats : t.1.1.2.beats = s.1.1.2.beats)
    (hbus : t.2 = s.2) (hheard : t.1.2.2.allHeard = s.1.2.2.allHeard)
    (hunheard : ∀ taken, Unheard s.1.2.2 taken → Unheard t.1.2.2 taken) :
    Delivered lag latency t where
  bus := hbus ▸ hnow
  beats b hb := by
    rw [hbus, hheard]
    exact (h.beats b (hbeats ▸ hb)).imp_right (Or.imp_right (hunheard _))

/-- A beat is taken. -/
lemma Delivered.beat (h : Delivered lag latency s) (hclock : s.1.2.2.now = s.1.1.1.now + lag) :
    Delivered lag latency ((machine t0 t1).next s .beat) where
  bus f hf := by
    rcases List.mem_append.mp hf with hf | hf
    · exact h.bus f hf
    · obtain rfl := List.mem_singleton.mp hf
      exact Int.le_add_of_nonneg_right (Int.natCast_nonneg latency)
  beats b hb := by
    rcases List.mem_append.mp hb with hb | hb
    · refine (h.beats b hb).imp_left ?_
      rintro ⟨f, hf, htaken⟩
      exact ⟨f, List.mem_append_left _ hf, htaken⟩
    · obtain rfl := List.mem_singleton.mp hb
      exact .inl ⟨_, List.mem_append_right _ (List.mem_singleton_self _), hclock⟩

/-- A frame leaves the bus: what becomes of its beat is to be shown. -/
lemma Delivered.off_bus (h : Delivered lag latency s) {g : RxLoop.State} (f : Flight)
    (hnow : g.now = s.1.2.2.now) (hheard : s.1.2.2.allHeard ⊆ g.allHeard)
    (hunheard : ∀ taken, Unheard s.1.2.2 taken → Unheard g taken)
    (hfate : ∀ b ∈ s.1.1.2.beats, f.taken = b.time + lag →
      (∃ a ∈ g.allHeard, b.time + lag ≤ a.time ∧ a.time ≤ b.time + lag + latency) ∨
        Unheard g (b.time + lag)) (q : HeartbeatQueue.State × List CanFrame) :
    Delivered lag latency ((s.1.1, q, g), s.2.erase f) where
  bus e he := hnow.trans_le (h.bus e (List.mem_of_mem_erase he))
  beats b hb := by
    rcases h.beats b hb with ⟨e, he, htaken⟩ | ⟨a, ha, htime⟩ | hun
    · by_cases hef : e = f
      · exact .inr (hfate b hb (hef ▸ htaken))
      · exact .inl ⟨e, (List.mem_erase_of_ne hef).mpr he, htaken⟩
    · exact .inr (.inl ⟨a, hheard ha, htime⟩)
    · exact .inr (.inr (hunheard _ hun))

theorem delivered_inductive (latency : ℕ) (t0 t1 : ℤ) : (prompt latency t0 t1).Inductive fun s =>
    (Apart s.1 ∧ Carried (t1 - t0) latency s) ∧ Delivered (t1 - t0) latency s := by
  refine ((carried_inductive latency t0 t1).restrict (delivers latency)).and ⟨?_, ?_⟩
    fun s l hcarries h hl => ?_
  · exact fun f hf => absurd hf List.not_mem_nil
  · exact fun b hb => absurd hb List.not_mem_nil
  obtain ⟨hapart, hbus⟩ := hcarries
  obtain ⟨⟨⟨⟨hpeer, hgateway, hagreed⟩, -⟩, htime⟩, hdelivers⟩ := hl
  have hpast : ∀ b ∈ s.1.1.2.beats, b.time + (t1 - t0) ≤ s.1.2.2.now := by
    intro b hb
    have hbefore := hapart.reports.past b hb
    have hclock := hbus.clock
    omega
  cases l with
  | tick ms =>
      exact h.of_same hdelivers rfl rfl rfl fun _ hun => hun.next (l := .tick ms) trivial
  -- the frame is on the bus, with its latency to go
  | beat => exact h.beat hbus.clock
  | arrive f found =>
      have hen : RxLoop.enabled s.1.2.2 (.put f.frame found) := (hgateway _ rfl).2.1 _ rfl
      have hheard := RxLoop.allHeard_next hen
      refine h.off_bus (g := RxLoop.next s.1.2.2 (.put f.frame found)) f rfl ?_
        (fun _ hun => hun.next hen) (fun b hb htaken => .inl ?_) _
      · exact hheard ▸ List.subset_append_left _ _
      · refine ⟨⟨s.1.2.2.now, f.frame, found⟩, ?_, hpast b hb, htaken ▸ htime⟩
        exact hheard ▸ List.mem_append_right _ (List.mem_singleton_self _)
  | lose f =>
      -- only a gateway that does not listen yet misses a frame
      have hdeaf : s.1.2.2.filtered = false := hdelivers
      refine h.off_bus (g := s.1.2.2) f rfl (List.Subset.refl _) (fun _ hun => hun)
        (fun b hb _ => .inr ⟨fun _ => hpast b hb, fun hs => absurd ?_ hs⟩) _
      rcases hapart.orderly.2.listening with hf | hpc | hpc | hpc | hpc
      · simp [hdeaf] at hf
      all_goals rw [hpc]; trivial
  | peer l reading =>
      have hl : l ≠ .canSend 0 := by
        rintro rfl
        exact hagreed rfl
      exact h.of_same h.bus (beats_update reading hl) rfl rfl fun _ hun => hun
  | gateway l =>
      have hen : RxLoop.enabled s.1.2.2 l := (hgateway _ rfl).2.1 _ rfl
      have htick : ∀ ms, l ≠ .tick ms := by
        rintro ms rfl
        exact hagreed
      refine h.of_same (fun f hf => ?_) rfl rfl ?_ fun _ hun => hun.next hen
      · exact (RxLoop.now_next htick).trans_le (h.bus f hf)
      · refine (RxLoop.allHeard_next hen).trans ?_
        cases l with
        | put frame found => exact absurd hagreed id
        | _ => exact List.append_nil _

/-! ### The verdict -/

/-- The turn lasts no longer than this, from the end of the drain before it. -/
def Lasts (width : ℕ) (turn : RxLoop.Turn) : Prop :=
  turn.closed ≤ turn.opened + width ∧ turn.clock ≤ turn.opened + width

instance (width : ℕ) (turn : RxLoop.Turn) : Decidable (Lasts width turn) :=
  inferInstanceAs (Decidable (_ ∧ _))

/-- What a turn heard was heard. -/
lemma mem_allHeard {g : RxLoop.State} {turn : RxLoop.Turn} (hturn : turn ∈ g.turns)
    {a : RxLoop.Arrival} (ha : a ∈ turn.heard) : a ∈ g.allHeard :=
  List.mem_append_left _ (List.mem_flatMap.mpr ⟨turn, hturn, ha⟩)

/-- What was heard is a heartbeat. -/
lemma Carried.isBeat (h : Carried lag latency s) (hkept : Reports.Kept s.1.1) {a : RxLoop.Arrival}
    (ha : a ∈ s.1.2.2.allHeard) : a.Beat := by
  obtain ⟨b, hb, taken, ⟨hbytes, -⟩, -⟩ := h.heard a ha
  rw [RxLoop.Arrival.Beat, hbytes, hkept.bytes b hb]
  exact CanFrame.isHeartbeat_ofHeartbeat _

variable {ls : List Label} {last : RxLoop.Turn} {width : ℕ}

/-- **A peer that falls silent**, in every run in which frames may be lost but are not
late: when the timeout, the latency and a turn have passed since its last beat, it is
offline, if the gateway itself has been up for the timeout. -/
theorem silent_peer_offline (hrun : (timely latency t0 t1).Run ls s)
    (hlast : s.1.2.2.turns.getLast? = some last)
    (hlasts : ∀ turn ∈ s.1.2.2.turns, Lasts width turn) {silent : ℤ}
    (hsilent : ∀ b ∈ s.1.1.2.beats, b.time + (t1 - t0) ≤ silent)
    (hlong : silent + latency + width + kHeartbeatTimeoutMs ≤ last.clock)
    (hup : s.1.2.2.since + kHeartbeatTimeoutMs ≤ last.clock) :
    s.1.2.2.liveness.state = .offline := by
  obtain ⟨hapart, hbus⟩ := hrun.invariant (carried_inductive latency t0 t1)
  have hverdict := hapart.orderly.1.verdict hapart.sees.2.turns hlast
  cases hst : s.1.2.2.liveness.state with
  | offline => rfl
  | unknown =>
      have hearly := (hverdict.unknown hst).1
      omega
  | online =>
      -- a frame heard within the timeout was taken too recently for the silence
      obtain ⟨turn, hturn, a, ha, -, hrecent⟩ := hverdict.online hst
      obtain ⟨b, hb, taken, ⟨-, htaken⟩, -, hlate⟩ := hbus.heard a (mem_allHeard hturn ha)
      have hbefore : taken ≤ silent := htaken ▸ hsilent b hb
      have hturn : turn.clock - turn.opened ≤ width := by
        have := (hlasts turn hturn).2
        omega
      have hclock : last.clock < last.clock := calc
        last.clock < a.time + (turn.clock - turn.opened) + kHeartbeatTimeoutMs := by omega
        _ ≤ taken + latency + width + kHeartbeatTimeoutMs := by omega
        _ ≤ silent + latency + width + kHeartbeatTimeoutMs := by omega
        _ ≤ last.clock := hlong
      exact absurd hclock (lt_irrefl _)

/-- The beat of a peer that has just started. -/
def bootFrame : CanFrame := .ofHeartbeat ⟨.boot, 0, 0⟩

/-- The first beat of the peer, taken after a millisecond and heard after another. -/
def heardDrain : RxLoop.Drain := ⟨0, [⟨1, bootFrame, []⟩], 2, true⟩

/-- Both nodes start, and the first beat is heard. -/
def beatRun : List Label :=
  ([.ready true, .canStart 0, .addFilter 0, .bind 0, .watch] : List RxLoop.Label).map .gateway ++
    [.tick 1, .peer .look default, .peer (.busState true) default, .beat,
      .arrive ⟨1, bootFrame⟩ [],
      .gateway .recv, .tick 1] ++
    ([.call, .get false ⟨.boot, 0, 0⟩, .done true, .readClock,
      .step heardDrain 2] : List RxLoop.Label).map .gateway

/-- Two turns of 3.5 s in which nothing is heard. -/
def silentRun : List Label := beatRun ++
  [.gateway (.publish true), .gateway .recv, .tick 3500] ++
    ([.call, .done false, .readClock,
      .step ⟨2, [], 3502, false⟩ 3502, .publish false, .recv] : List RxLoop.Label).map .gateway ++
    [.tick 3500] ++
    ([.call, .done false, .readClock,
      .step ⟨3502, [], 7002, false⟩ 7002] : List RxLoop.Label).map .gateway

/-- The peer is offline. -/
theorem silentRun_offline : ∃ s, (timely 0 0 0).Run silentRun s ∧
    s.1.2.2.liveness.state = .offline := by
  have hrun : (timely 0 0 0).Run silentRun _ := Machine.run_of_exec rfl
  have hlasts : ∀ turn ∈ [⟨heardDrain, 2⟩, ⟨⟨2, [], 3502, false⟩, 3502⟩,
      ⟨⟨3502, [], 7002, false⟩, 7002⟩], Lasts 3500 turn := by decide
  have hsilent : ∀ b ∈ [(⟨1, none, bootFrame.bytes⟩ : Beat)], b.time + (0 - 0) ≤ 1 := by decide
  exact ⟨_, hrun, silent_peer_offline hrun rfl hlasts hsilent (by decide) (by decide)⟩

/-- **A peer that beats**, in every run in which the bus delivers: a beat younger than the
timeout, but for a turn, and older than the latency, has it online. -/
theorem beating_peer_online (hrun : (prompt latency t0 t1).Run ls s)
    (hlast : s.1.2.2.turns.getLast? = some last)
    (hlasts : ∀ turn ∈ s.1.2.2.turns, Lasts width turn) {b : Beat} (hb : b ∈ s.1.1.2.beats)
    (hup : s.1.2.2.since < b.time + (t1 - t0))
    (hold : b.time + (t1 - t0) + latency < last.closed)
    (hyoung : last.clock + width < b.time + (t1 - t0) + kHeartbeatTimeoutMs) :
    s.1.2.2.liveness.state = .online := by
  obtain ⟨⟨hapart, hbus⟩, hdelivered⟩ := hrun.invariant (delivered_inductive latency t0 t1)
  have hkept := hapart.orderly.1
  have hmem : last ∈ s.1.2.2.turns := List.mem_of_getLast? hlast
  have hnow : last.closed ≤ s.1.2.2.now := (hkept.turns last hmem).2.2.closed.2
  obtain ⟨a, ha, htaken, hlate⟩ : ∃ a ∈ s.1.2.2.allHeard, b.time + (t1 - t0) ≤ a.time ∧
      a.time ≤ b.time + (t1 - t0) + latency := by
    rcases hdelivered.beats b hb with ⟨f, hf, htaken⟩ | hheard | hunheard
    · have hurgent := hdelivered.bus f hf
      omega
    · exact hheard
    · -- the gateway has taken a turn, so that it listened
      have hstarted : ¬ s.1.2.2.pc.starting := fun hs => by
        rw [(hkept.starting hs).1] at hmem
        exact absurd hmem List.not_mem_nil
      have hmissed := hunheard.2 hstarted
      omega
  obtain ⟨turn, hturn, ha⟩ := hapart.orderly.2.heard_in_turn hkept hmem ha (by omega)
  by_contra hst
  -- whatever the beat found queued was a beat itself
  have hverdict := hkept.verdict hapart.sees.2.turns hlast
  have hroom : ¬ a.ShutOut := by
    rintro ⟨hfull, hforeign⟩
    obtain ⟨frame, hframe⟩ := List.exists_mem_of_length_pos (lt_of_lt_of_le (by decide) hfull)
    obtain ⟨c, hc, rfl⟩ := (hverdict.heard turn hturn a ha).2 frame hframe
    exact hforeign _ hframe (hbus.isBeat hapart.reports (mem_allHeard hturn hc))
  have hsilent := hverdict.silent hst turn hturn a ha
    (hbus.isBeat hapart.reports (mem_allHeard hturn ha)) hroom
  have hclock : last.clock < last.clock := calc
    last.clock < b.time + (t1 - t0) - width + kHeartbeatTimeoutMs := by omega
    _ ≤ turn.closed - width + kHeartbeatTimeoutMs := by
      have hbefore := ((hkept.turns turn hturn).2.2.heard a ha).2
      omega
    _ ≤ turn.clock + kHeartbeatTimeoutMs := by
      have hopened := (hkept.turns turn hturn).1
      have hwidth := (hlasts turn hturn).1
      omega
    _ ≤ last.clock := by omega
  exact absurd hclock (lt_irrefl _)

/-- The peer is online. -/
theorem beatRun_online : ∃ s, (prompt 0 0 0).Run beatRun s ∧
    s.1.2.2.liveness.state = .online := by
  have hrun : (prompt 0 0 0).Run beatRun _ := Machine.run_of_exec rfl
  have hlasts : ∀ turn ∈ [⟨heardDrain, 2⟩], Lasts 2 turn := by decide
  exact ⟨_, hrun, beating_peer_online hrun rfl hlasts (List.mem_singleton_self _) (by decide)
    (by decide) (by decide)⟩

end ClimateNode.HeartbeatPath
