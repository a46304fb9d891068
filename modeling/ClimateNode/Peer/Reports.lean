import ClimateNode.Peer.MainLoop
import ClimateNode.Peer.Publish
import ClimateNode.Shared.Heartbeat

/-!
What a heartbeat of the peer reports: `hb_state` of `peer-node/src/main.cpp`, which
`main` updates when it reads a reading and packs when it sends a beat, beside the whole
of the peer: its sensor thread, `chan_telemetry` and the loop.

* `heartbeatOf`: the heartbeat of a moment, from the newest reading `main` has read.
* `reporting`: the loop with `hb_state` and the frames `can_send` took.
* `kept_inductive`: each frame is the heartbeat of its moment.
* `machine`: the peer as a whole.
* `beats_report`: **what the beats say**, of the sensor and not of the link.
-/

namespace ClimateNode.Peer.Reports

open Automata Wire

/-! ### The state a beat reports -/

/-- A frame `can_send` took: when, the newest reading `main` had read by then, and its
bytes. -/
structure Beat where
  time : ℤ
  newest : Option SensorReading
  bytes : Bytes
  deriving DecidableEq, Repr

/-- `hb_state`, the readings `main` has read, oldest first, and the frames taken. -/
structure Memory where
  hbState : Heartbeat
  reads : List SensorReading
  beats : List Beat
  deriving DecidableEq, Repr

/-- At boot. -/
def Memory.initial : Memory := ⟨⟨.boot, 0, 0⟩, [], []⟩

/-- The state a reading is reported as. -/
def stateOf (reading : SensorReading) : HeartbeatState :=
  if reading.status = .error then .sensorError else .ok

/-- What `main` makes of `hb_state` when it has read a reading. -/
def noteReading (hb : Heartbeat) (reading : SensorReading) : Heartbeat :=
  { hb with state := stateOf reading, sequenceLow := (reading.sequence &&& 0xFF).toUInt8 }

/-- What `send_heartbeat` makes of it before it packs it. -/
def stamp (hb : Heartbeat) (uptime : ℤ) : Heartbeat :=
  { hb with uptimeS := UInt32.ofInt (uptime.tdiv 1000) }

/-- A step of the loop, with the reading that `zbus_chan_read` returns, if it does. -/
abbrev Step := Loop.Label × SensorReading

/-- What a step does to `hb_state`, the reads and the frames. -/
def Memory.update (s : Loop.State) (m : Memory) : Step → Memory
  | (.chanRead rc, reading) =>
      if rc = 0 then
        { m with hbState := noteReading m.hbState reading, reads := m.reads ++ [reading] }
      else m
  | (.canSend rc, _) =>
      let hb := stamp m.hbState s.now
      let taken : List Beat := if rc = 0 then [⟨s.now, m.reads.getLast?, heartbeatPack hb⟩] else []
      { m with hbState := hb, beats := m.beats ++ taken }
  | _ => m

/-- The loop, and what it reports. -/
def reporting (t0 : ℤ) : Machine (Loop.State × Memory) Step :=
  ((Loop.machine t0).relabel Prod.fst).annotate .initial Memory.update

instance (t0 : ℤ) (s : Loop.State × Memory) (l : Step) : Decidable ((reporting t0).enabled s l) :=
  inferInstanceAs (Decidable (Loop.enabled s.1 l.1))

/-- The heartbeat of a moment. -/
def heartbeatOf (newest : Option SensorReading) (time : ℤ) : Heartbeat where
  state := newest.elim .boot stateOf
  uptimeS := UInt32.ofInt (time.tdiv 1000)
  sequenceLow := newest.elim 0 fun reading => (reading.sequence &&& 0xFF).toUInt8

/-- What the frames report of the readings: at first none. -/
def Memory.reported (m : Memory) : List (Option SensorReading) := none :: m.reads.map some

lemma Memory.reported_getLast? (m : Memory) : m.reported.getLast? = some m.reads.getLast? := by
  rw [reported, List.getLast?_cons, List.getLast?_map]
  cases m.reads.getLast? <;> rfl

/-- The memory against the clock: every frame is the heartbeat of its moment, and what
the frames report is what `main` read. -/
structure Kept (s : Loop.State × Memory) : Prop where
  state : s.2.hbState.state = s.2.reads.getLast?.elim .boot stateOf
  sequenceLow : s.2.hbState.sequenceLow =
    s.2.reads.getLast?.elim 0 fun reading => (reading.sequence &&& 0xFF).toUInt8
  bytes : ∀ b ∈ s.2.beats, b.bytes = heartbeatPack (heartbeatOf b.newest b.time)
  past : ∀ b ∈ s.2.beats, b.time ≤ s.1.now
  sorted : s.2.beats.Pairwise fun b c => b.time ≤ c.time
  replay : Replays (s.2.beats.map (·.newest)) s.2.reported

variable {t0 : ℤ}

/-- A step that leaves the memory alone. -/
lemma Kept.of_same {s : Loop.State × Memory} (h : Kept s) {t : Loop.State}
    (hnow : s.1.now ≤ t.now) : Kept (t, s.2) :=
  { h with past := fun b hb => (h.past b hb).trans hnow }

/-- A reading is read. -/
lemma Kept.read {s : Loop.State × Memory} (h : Kept s) {t : Loop.State} (hnow : s.1.now ≤ t.now)
    (reading : SensorReading) :
    Kept (t, { s.2 with hbState := noteReading s.2.hbState reading,
                        reads := s.2.reads ++ [reading] }) where
  state := by simp [noteReading]
  sequenceLow := by simp [noteReading]
  bytes := h.bytes
  past b hb := (h.past b hb).trans hnow
  sorted := h.sorted
  replay := by
    have hmore := h.replay.append_right [some reading]
    simpa [Memory.reported] using hmore

/-- The heartbeat is stamped, and sent or not. -/
lemma Kept.stamped {s : Loop.State × Memory} (h : Kept s) {t : Loop.State}
    (hnow : s.1.now ≤ t.now) : Kept (t, { s.2 with hbState := stamp s.2.hbState s.1.now }) :=
  ⟨h.state, h.sequenceLow, h.bytes, fun b hb => (h.past b hb).trans hnow, h.sorted, h.replay⟩

/-- A frame is taken. -/
lemma Kept.send {s : Loop.State × Memory} (h : Kept s) {t : Loop.State} (hnow : s.1.now ≤ t.now)
    {beat : Beat} (hbeat : beat = ⟨s.1.now, s.2.reads.getLast?,
      heartbeatPack (stamp s.2.hbState s.1.now)⟩) :
    Kept (t, { s.2 with hbState := stamp s.2.hbState s.1.now, beats := s.2.beats ++ [beat] }) where
  state := h.state
  sequenceLow := h.sequenceLow
  bytes b hb := by
    rcases List.mem_append.mp hb with hb | hb
    · exact h.bytes b hb
    · obtain rfl := List.mem_singleton.mp hb
      rw [hbeat, heartbeatOf, ← h.state, ← h.sequenceLow]
      rfl
  past b hb := by
    rcases List.mem_append.mp hb with hb | hb
    · exact (h.past b hb).trans hnow
    · obtain rfl := List.mem_singleton.mp hb
      rw [hbeat]
      exact hnow
  sorted := by
    refine List.pairwise_append.mpr ⟨h.sorted, List.pairwise_singleton _ _, fun b hb c hc => ?_⟩
    obtain rfl := List.mem_singleton.mp hc
    rw [hbeat]
    exact h.past b hb
  replay := by
    have hlast : s.2.reported.getLast? = some beat.newest := by
      rw [Memory.reported_getLast?, hbeat]
    simpa [Memory.reported] using h.replay.concat hlast

/-- The clock stands still but for its ticks. -/
lemma now_next {st : Loop.State} {l : Loop.Label} (hl : ∀ ms, l ≠ .tick ms) :
    (Loop.next st l).now = st.now := by
  cases l with
  | tick ms => exact absurd rfl (hl ms)
  | tryLink transmittable =>
      rw [Loop.next]
      split_ifs <;> rfl
  | _ => rfl

/-- The clock never runs back. -/
lemma now_le (s : Loop.State) (l : Loop.Label) : s.now ≤ (Loop.next s l).now := by
  by_cases hl : ∃ ms, l = .tick ms
  · obtain ⟨ms, rfl⟩ := hl
    exact Int.le_add_of_nonneg_right (Int.natCast_nonneg ms)
  · exact (now_next fun ms heq => hl ⟨ms, heq⟩).ge

/-- No other step adds a frame. -/
lemma beats_update {st : Loop.State} {m : Memory} {l : Loop.Label} (reading : SensorReading)
    (hl : l ≠ .canSend 0) : (m.update st (l, reading)).beats = m.beats := by
  cases l with
  | chanRead rc =>
      rw [Memory.update]
      split_ifs <;> rfl
  | canSend rc =>
      have hrc : rc ≠ 0 := fun heq => hl (heq ▸ rfl)
      simp [Memory.update, hrc]
  | _ => rfl

/-- **The step lemma of the reports.** -/
theorem kept_inductive (t0 : ℤ) : (reporting t0).Inductive Kept where
  init := ⟨rfl, rfl, by simp [reporting, Machine.annotate, Memory.initial],
    by simp [reporting, Machine.annotate, Memory.initial], .nil, .nil _⟩
  step s l h _ := by
    obtain ⟨l, reading⟩ := l
    have hnow := now_le s.1 l
    cases l with
    | chanRead rc =>
        by_cases hrc : rc = 0
        · simp only [reporting, Machine.annotate, Machine.relabel, Memory.update, if_pos hrc]
          exact h.read hnow reading
        · simp only [reporting, Machine.annotate, Machine.relabel, Memory.update, if_neg hrc]
          exact h.of_same hnow
    | canSend rc =>
        by_cases hrc : rc = 0
        · simp only [reporting, Machine.annotate, Machine.relabel, Memory.update, if_pos hrc]
          exact h.send hnow rfl
        · simp only [reporting, Machine.annotate, Machine.relabel, Memory.update, if_neg hrc,
            List.append_nil]
          exact h.stamped hnow
    | _ => exact h.of_same hnow

/-! ### The peer as a whole -/

/-- The atomic actions: the sensor thread's, the listener's, those of `main` that have to do
with the channel, and its others.  The sensor thread and `main` read the clock apart. -/
inductive Label where
  | sensor (l : Readings.Label)
  | publish (reading : SensorReading)
  | notify
  | unlock
  | take
  | nothing (rc : ℤ)
  | read (reading : SensorReading)
  | readFail (rc : ℤ)
  | gated (transmittable : Bool)
  | attempt (transmittable : Bool)
  | transferred (rc : ℤ)
  | main (l : Loop.Label)

/-- What a label is to the sensor thread and the channel. -/
def Label.toPublish : Label → Option Publish.Label
  | .sensor l => some (.sensor l)
  | .publish reading => some (.publish reading)
  | .notify => some (.main .notify)
  | .unlock => some (.main .unlock)
  | .take => some (.main .take)
  | .read _ => some (.main .read)
  | .readFail _ => some (.main .readFail)
  | .gated _ => some (.main .gated)
  | .transferred rc => some (.main (.send (rc == 0)))
  | .nothing _ | .attempt _ | .main _ => none

/-- What a label is to the loop of `main`. -/
def Label.toLoop : Label → Option Step
  | .take => some (.semTake 0, default)
  | .nothing rc => some (.semTake rc, default)
  | .read reading => some (.chanRead 0, reading)
  | .readFail rc => some (.chanRead rc, default)
  | .gated transmittable | .attempt transmittable => some (.tryLink transmittable, default)
  | .transferred rc => some (.transferred rc, default)
  | .main l => some (l, default)
  | .sensor _ | .publish _ | .notify | .unlock => none

/-- A label of the loop that has nothing to do with the channel. -/
def elsewhere : Loop.Label → Prop
  | .semTake _ | .chanRead _ | .tryLink _ | .transferred _ => False
  | _ => True

instance (l : Loop.Label) : Decidable (elsewhere l) :=
  match l with
  | .semTake _ | .chanRead _ | .tryLink _ | .transferred _ => isFalse id
  | .tick _ | .complete _ | .look | .busState _ | .canSend _ | .inc _ | .readError _
  | .readInFlight _ | .noteBeat .. | .received .. | .noteTelemetry _ => isTrue trivial

/-- What `main` asks of the bus and of the link state before it sends. -/
abbrev worthTrying (s : Loop.State) (transmittable : Bool) : Prop :=
  transmittable ∧ (s.link.linkUp ∨ s.link.txRetryAt ≤ s.now)

/-- What the loop and the channel ask of each other. -/
def agreed (s : (Readings.State × Peer.State) × (Loop.State × Memory)) : Label → Prop
  | .nothing rc => rc ≠ 0 ∧ ¬ s.1.2.chan.signalled
  | .read reading => reading = s.1.2.chan.content
  | .readFail rc => rc ≠ 0
  | .gated transmittable => ¬ worthTrying s.2.1 transmittable
  | .attempt transmittable => worthTrying s.2.1 transmittable
  | .main l => elsewhere l
  | _ => True

instance (s : (Readings.State × Peer.State) × (Loop.State × Memory)) (l : Label) :
    Decidable (agreed s l) := by
  unfold agreed
  split <;> infer_instance

variable (conv : Conversions) (deviceOk : Bool) (t0 : ℤ)

/-- The peer: its sensor thread, its channel, and its loop. -/
def machine : Machine ((Readings.State × Peer.State) × (Loop.State × Memory)) Label :=
  .pair (Publish.machine Nanopb.proto3 conv deviceOk t0) (reporting t0) Label.toPublish
    Label.toLoop agreed

variable {conv deviceOk t0} {ls : List Label}
  {s : (Readings.State × Peer.State) × (Loop.State × Memory)}

/-- The channel, whose bell has rung when it is read. -/
lemma chan_inductive : (machine conv deviceOk t0).Inductive fun s =>
    Doorbell.Sound s.1.2.chan ∧ Doorbell.Positive s.1.2.chan :=
  (Publish.chan_simulates.pullback (Doorbell.positive_inductive .binary)).snd.fst

/-- The readings `main` reads are those of the channel, replayed. -/
lemma reads_replay (hrun : (machine conv deviceOk t0).Run ls s) :
    Replays s.2.2.reads s.1.2.chan.history := by
  refine (hrun.invariant (chan_inductive.and
    (J := fun s => Replays s.2.2.reads s.1.2.chan.history) (.nil _) fun s l hchan h hl => ?_)).2
  obtain ⟨hpub, -, hagreed⟩ := hl
  cases l with
  | publish reading => exact h.append_right [reading]
  | read reading =>
      obtain rfl : reading = s.1.2.chan.content := hagreed
      -- `main` took the semaphore, so that something was stored
      have hdrained : s.1.2.chan.progress = .drained := ((hpub _ rfl).2.1 _ rfl).1.1
      refine h.concat ?_
      have hne := hchan.1.rung (.inr hdrained)
      rw [Doorbell.State.content, List.getLastD_eq_getLast?, List.getLast?_eq_some_getLast hne,
        Option.getD_some]
  | readFail rc =>
      have hne : rc ≠ 0 := hagreed
      change Replays (Memory.update s.2.1 s.2.2 (.chanRead rc, default)).reads _
      rw [Memory.update, if_neg hne]
      exact h
  | main l =>
      cases l with
      | chanRead rc => exact absurd hagreed id
      | _ => exact h
  | _ => exact h

/-! ### What the beats say -/

/-- Whether a step hands `can_send` a frame that it takes. -/
def Label.sendsBeat : Label → Bool
  | .main (.canSend rc) => rc == 0
  | _ => false

/-- The frame of a moment. -/
def frameAt (s : (Readings.State × Peer.State) × (Loop.State × Memory)) : Beat :=
  ⟨s.2.1.now, s.2.2.reads.getLast?, heartbeatPack (stamp s.2.2.hbState s.2.1.now)⟩

/-- What a step adds to the frames. -/
lemma beats_next (s : (Readings.State × Peer.State) × (Loop.State × Memory)) (l : Label) :
    ((machine conv deviceOk t0).next s l).2.2.beats =
      s.2.2.beats ++ if l.sendsBeat then [frameAt s] else [] := by
  cases l with
  | main l =>
      change (s.2.2.update s.2.1 (l, default)).beats = _
      by_cases hl : l = .canSend 0
      · subst hl
        rfl
      · rw [beats_update default hl]
        have hno : (Label.main l).sendsBeat = false := by
          cases l with
          | canSend rc => simpa [Label.sendsBeat] using hl
          | _ => rfl
        rw [hno, if_neg Bool.false_ne_true, List.append_nil]
  | nothing rc | take | read reading | readFail rc | gated transmittable | attempt transmittable
  | transferred rc =>
      exact (beats_update _ (by simp)).trans (List.append_nil _).symm
  | sensor l | publish reading | notify | unlock => exact (List.append_nil _).symm

/-- Each frame was taken at a step of the run, and says what `main` had read by then. -/
lemma beat_sent (hrun : (machine conv deviceOk t0).Run ls s) {i : ℕ} {b : Beat}
    (hb : s.2.2.beats[i]? = some b) :
    ∃ pre post s₁, ls = pre ++ .main (.canSend 0) :: post ∧
      (machine conv deviceOk t0).Run pre s₁ ∧ s₁.2.2.beats.length = i ∧
      b.time = s₁.2.1.now ∧ b.newest = s₁.2.2.reads.getLast? := by
  induction hrun with
  | nil => simp [machine, Machine.pair, reporting, Machine.annotate, Memory.initial] at hb
  | @snoc ls s l hrun hl ih =>
      rw [beats_next] at hb
      rcases Nat.lt_or_ge i s.2.2.beats.length with hlt | hge
      · -- a frame taken before
        rw [List.getElem?_append_left hlt] at hb
        obtain ⟨pre, post, s₁, rfl, hpre⟩ := ih hb
        exact ⟨pre, post ++ [l], s₁, by simp, hpre⟩
      · -- the frame of this step
        rw [List.getElem?_append_right hge] at hb
        by_cases hsends : l.sendsBeat
        · rw [if_pos hsends, List.getElem?_singleton] at hb
          split_ifs at hb with hzero
          obtain rfl := Option.some.inj hb
          have hcall : l = .main (.canSend 0) := by
            unfold Label.sendsBeat at hsends
            split at hsends
            · rw [eq_of_beq hsends]
            · exact absurd hsends Bool.false_ne_true
          exact ⟨ls, [], s, by rw [hcall], hrun, by omega, rfl, rfl⟩
        · rw [if_neg hsends, List.getElem?_nil] at hb
          exact absurd hb (by simp)

/-- There are as many frames as steps at which one was taken. -/
lemma beats_length (hrun : (machine conv deviceOk t0).Run ls s) :
    s.2.2.beats.length = ls.countP Label.sendsBeat := by
  induction hrun with
  | nil => rfl
  | @snoc ls s l hrun hl ih =>
      rw [beats_next, List.length_append, ih, List.countP_append, List.countP_singleton]
      split_ifs <;> rfl

/-- The heartbeat of a moment at which `main` has read up to the `k`-th reading the sensor
took, counted from one, or at which it has read none. -/
def Tells (taken : List SensorReading) (time : ℤ) (hb : Heartbeat) : ℕ → Prop
  | 0 => hb = ⟨.boot, UInt32.ofInt (time.tdiv 1000), 0⟩
  | k + 1 => ∃ reading, taken[k]? = some reading ∧
      hb = ⟨stateOf reading, UInt32.ofInt (time.tdiv 1000), UInt8.ofNat k⟩

/-- BOOT is said before the first reading only. -/
lemma Tells.boot_iff {taken : List SensorReading} {time : ℤ} {hb : Heartbeat} {k : ℕ}
    (h : Tells taken time hb k) : hb.state = .boot ↔ k = 0 := by
  cases k with
  | zero =>
      obtain rfl : hb = _ := h
      simp
  | succ k =>
      obtain ⟨reading, -, rfl⟩ := h
      have hstate : stateOf reading ≠ .boot := by
        rw [stateOf]
        split_ifs <;> simp
      simp [hstate]

/-- The low byte of a reading's number. -/
lemma sequenceLow_ofNat (k : ℕ) : (UInt32.ofNat k &&& 0xFF).toUInt8 = UInt8.ofNat k := by
  apply UInt8.toNat_inj.mp
  have h255 : (0xFF : UInt32).toNat = 2 ^ 8 - 1 := rfl
  rw [UInt32.toNat_toUInt8, UInt32.toNat_and, UInt8.toNat_ofNat', UInt32.toNat_ofNat', h255,
    Nat.and_two_pow_sub_one_eq_mod]
  omega

/-- **What the beats say**, in every run of the peer, whatever its link does: each frame
that `can_send` took unpacks, at its eight bytes, to the heartbeat of its moment, with the
newest reading that `main` had read by then; the beats report the readings in their order,
none before the first, which is when they say BOOT, so that it never comes back. -/
theorem beats_report (hrun : (machine conv deviceOk t0).Run ls s) :
    s.2.2.beats.length = ls.countP Label.sendsBeat ∧
    s.2.2.beats.Pairwise (fun b c => b.time ≤ c.time) ∧
    (∀ i b, s.2.2.beats[i]? = some b →
      (∃ pre post s₁, ls = pre ++ .main (.canSend 0) :: post ∧
        (machine conv deviceOk t0).Run pre s₁ ∧ s₁.2.2.beats.length = i ∧
        b.time = s₁.2.1.now ∧ b.newest = s₁.2.2.reads.getLast?) ∧
      b.bytes.length = kHeartbeatLen ∧
      ∀ out, heartbeatUnpack b.bytes kHeartbeatLen out =
        some (true, heartbeatOf b.newest b.time)) ∧
    ∃ ks : List ℕ, ks.Pairwise (· ≤ ·) ∧
      List.Forall₂ (fun b k => Tells s.1.1.taken b.time (heartbeatOf b.newest b.time) k ∧
        ((heartbeatOf b.newest b.time).state = .boot ↔ k = 0)) s.2.2.beats ks := by
  have hkept : Kept s.2 := hrun.snd.invariant (kept_inductive t0)
  have hnum := Publish.numbered hrun.fst
  refine ⟨beats_length hrun, hkept.sorted, fun i b hb => ?_, ?_⟩
  · have hbytes := hkept.bytes b (List.mem_of_getElem? hb)
    refine ⟨beat_sent hrun hb, by rw [hbytes]; rfl, fun out => ?_⟩
    rw [hbytes]
    exact heartbeatUnpack_heartbeatPack _ out
  · -- what the frames say was read is what the thread took, replayed
    have hread : Replays (s.2.2.beats.map (·.newest)) (none :: s.1.1.taken.map some) := by
      have hreads := (reads_replay hrun).trans (.of_sublist (Publish.taken_of_history hrun.fst))
      exact hkept.replay.trans ((hreads.map some).cons none)
    rw [← List.map_id (none :: s.1.1.taken.map some)] at hread
    obtain ⟨ks, hks, hall⟩ := hread.exists_indices
    refine ⟨ks, hks, ?_⟩
    rw [List.forall₂_map_left_iff] at hall
    refine hall.imp fun b k => ?_
    rintro ⟨newest, hk, heq⟩
    obtain rfl : b.newest = newest := heq
    have htells : Tells s.1.1.taken b.time (heartbeatOf b.newest b.time) k := by
      cases k with
      | zero =>
          obtain hnone : none = b.newest := by simpa using hk
          rw [Tells, ← hnone]
          rfl
      | succ k =>
          simp only [List.getElem?_cons_succ, List.getElem?_map] at hk
          obtain ⟨reading, hreading, hsome⟩ := Option.map_eq_some_iff.mp hk
          obtain ⟨hseq, -⟩ := (hnum.taken k reading hreading).spec (bme280_reads conv)
          refine ⟨reading, hreading, ?_⟩
          rw [← hsome, heartbeatOf, Option.elim_some, Option.elim_some, hseq, sequenceLow_ofNat]
    exact ⟨htells, htells.boot_iff⟩

/-- What the sensor reads on a clear day. -/
def clearDay : SensorReading :=
  readBme280 Readings.plainConversions true (Readings.evenSample 101) (blankReading 0 0)

/-- A beat at boot, a reading that is not sent, and a beat a second later. -/
def twoBeats : List Label :=
  ([.look, .busState true, .canSend 0, .inc 0, .complete 0, .readError 0, .readInFlight 0,
      .noteBeat .heartbeat 0, .look] : List Loop.Label).map .main ++
    [.sensor (.loop .poweredUp), .sensor (.sample (Readings.evenSample 101)), .publish clearDay,
      .notify, .unlock, .main (.tick 1000), .main (.received 1000 0), .take, .read clearDay,
      .gated false] ++
    ([.look, .busState true, .canSend 0] : List Loop.Label).map .main

/-- The first says that the node has started, the second that its sensor is well. -/
theorem twoBeats_report : ∃ s, (machine Readings.plainConversions true 0).Run twoBeats s ∧
    s.2.2.beats.map (·.bytes) = [[1, 0, 0, 0, 0, 0, 0, 0xFF], [1, 2, 1, 0, 0, 0, 0, 0xFF]] ∧
    ∃ ks : List ℕ, ks.Pairwise (· ≤ ·) ∧ ks.length = 2 := by
  have hrun : (Machine.pair (.pair (Readings.machine (readBme280 Readings.plainConversions true)
      0 0) (Peer.machine Nanopb.proto3) Publish.Label.toSensor Publish.Label.toChan
      fun _ l => l.apart) (reporting 0) Label.toPublish Label.toLoop agreed).Run twoBeats _ :=
    Machine.run_of_exec rfl
  have h : (machine Readings.plainConversions true 0).Run twoBeats _ := hrun
  obtain ⟨-, -, -, ks, hks, hall⟩ := beats_report h
  exact ⟨_, h, rfl, ks, hks, hall.length_eq.symm⟩

end ClimateNode.Peer.Reports
