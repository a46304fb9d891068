import ClimateNode.Shared.Acquisition
import ClimateNode.Shared.SensorThread
import Mathlib.Algebra.GroupWithZero.Nat
import Mathlib.Data.List.Chain

/-!
`sensor_thread` with what it reads: the loop of `Shared.SensorThread` and the read
function of `Shared.Acquisition`, up to `zbus_chan_pub(&chan_telemetry, ..)`, which may
fail.  The clock runs on while a sample is read and published.

* `machine`: the thread, the reading it has in hand, and those the bus took.
* `thread_simulates`: the loop is the one of `Shared.SensorThread`, whose clock stands
  still meanwhile.
* `numbered_inductive`: each reading is numbered by those taken before it, and its uptime
  is the time at which it was begun.
* `TakenAs.spec`: what such a reading says; `uptimes_spaced`: **the uptimes of readings
  taken in a row**, which tell a wrap from a reboot.
-/

namespace ClimateNode.Readings

open Automata SensorThread

/-- The thread, the readings it took, oldest first, the one in its local variable, and
those stored on `chan_telemetry`; the times at which the readings were begun, how long
each took to be read and published, in ms, and how long the one in hand took so far. -/
structure State where
  thread : SensorThread.State
  taken : List SensorReading
  inHand : Option SensorReading
  published : List SensorReading
  times : List ℤ
  spent : List ℕ
  work : ℕ

/-- `k_uptime_get()`: the clock of the waits, and the time that readings took. -/
def State.uptime (s : State) : ℤ := s.thread.now + (s.spent.sum + s.work : ℕ)

/-- The atomic actions: those of the loop, a sample with what the driver answers, time
spent in the driver or on the bus, and the two ends of a publish. -/
inductive Label where
  | loop (l : SensorThread.Label)
  | sample (sample : Sample)
  | busy (ms : ℕ)
  | publish (reading : SensorReading)
  | publishFail

/-- Which actions may fire: a sample is one of this machine's own, and the thread does
not go on before the publish is over. -/
def enabled (s : State) : Label → Prop
  | .loop l => SensorThread.enabled s.thread l ∧ l ≠ .sample ∧ (l = .look → s.inHand = none)
  | .sample _ => SensorThread.enabled s.thread .sample
  | .publish reading => s.inHand = some reading
  | .busy _ | .publishFail => s.inHand ≠ none

instance (s : State) (l : Label) : Decidable (enabled s l) := by
  apply l.casesOn (motive := fun l => Decidable (enabled s l)) <;> intros <;>
    dsimp only [enabled] <;> infer_instance

section Machine

variable (read : Sample → SensorReading → SensorReading)

/-- The reading the thread takes. -/
def State.reading (s : State) (sample : Sample) : SensorReading :=
  read sample (blankReading s.thread.sequence (UInt32.ofInt s.uptime))

/-- What each action does. -/
def next (s : State) : Label → State
  | .loop l => { s with thread := SensorThread.next s.thread l }
  | .sample sample =>
      { s with thread := SensorThread.next s.thread .sample,
               taken := s.taken ++ [s.reading read sample],
               inHand := some (s.reading read sample), times := s.times ++ [s.uptime] }
  | .busy ms => { s with work := s.work + ms }
  | .publish reading =>
      { s with inHand := none, published := s.published ++ [reading],
               spent := s.spent ++ [s.work], work := 0 }
  | .publishFail => { s with inHand := none, spent := s.spent ++ [s.work], work := 0 }

/-- The thread started at `t0`, with its sensor powered up `powerUpMs` later. -/
def machine (powerUpMs : ℕ) (t0 : ℤ) : Machine State Label :=
  ⟨⟨(SensorThread.machine powerUpMs t0).init, [], none, [], [], [], 0⟩, enabled, next read⟩

instance (powerUpMs : ℕ) (t0 : ℤ) (s : State) (l : Label) :
    Decidable ((machine read powerUpMs t0).enabled s l) :=
  inferInstanceAs (Decidable (enabled s l))

end Machine

/-! ### The readings of a run -/

variable {read : Sample → SensorReading → SensorReading} {powerUpMs : ℕ} {t0 : ℤ} {s : State}

/-- **The loop** is that of `sensor_thread`. -/
theorem thread_simulates :
    (SensorThread.machine powerUpMs t0).Simulates (machine read powerUpMs t0) State.thread where
  init := .init _
  step s l hl := by
    cases l with
    | loop l => exact .inr ⟨l, hl.1, rfl⟩
    | sample sample => exact .inr ⟨.sample, hl, rfl⟩
    | busy ms | publish reading | publishFail => exact .inl rfl

/-- The `k`-th reading, counted from zero, as some sample and some clock make it. -/
def TakenAs (read : Sample → SensorReading → SensorReading) (k : ℕ) (r : SensorReading) : Prop :=
  ∃ sample now, r = read sample (blankReading (UInt32.ofNat k) (UInt32.ofInt now))

/-- The times of the samples, oldest first. -/
def sampleTimes : List Event → List ℤ
  | [] => []
  | .sampled time _ :: earlier => sampleTimes earlier ++ [time]
  | .dequeued _ _ :: earlier => sampleTimes earlier

/-- The real times of samples, from those on the clock of the waits: each is later by
what the readings before it took. -/
def begunAt (spent : List ℕ) (sampled : List ℤ) : List ℤ :=
  sampled.mapIdx fun k t => t + ((spent.take k).sum : ℕ)

lemma begunAt_concat (spent : List ℕ) (sampled : List ℤ) (t : ℤ) :
    begunAt spent (sampled ++ [t]) =
      begunAt spent sampled ++ [t + ((spent.take sampled.length).sum : ℕ)] :=
  List.mapIdx_concat

/-- A reading that is over delays the samples after it only. -/
lemma begunAt_spent {spent : List ℕ} {sampled : List ℤ} (h : sampled.length ≤ spent.length + 1)
    (ms : ℕ) : begunAt (spent ++ [ms]) sampled = begunAt spent sampled := by
  refine List.mapIdx_eq_mapIdx_iff.mpr fun k hk => ?_
  rw [List.take_append_of_le_length (by omega)]

/-- The readings against the thread that takes them. -/
structure Numbered (read : Sample → SensorReading → SensorReading) (s : State) : Prop where
  sequence : s.thread.sequence = UInt32.ofNat s.taken.length
  taken : ∀ k r, s.taken[k]? = some r → TakenAs read k r
  uptimes : s.taken.map (·.uptimeMs) = s.times.map UInt32.ofInt
  times : s.times = begunAt s.spent (sampleTimes s.thread.log)
  spent : s.spent.length + s.inHand.toList.length = s.times.length
  idle : s.inHand = none → s.work = 0
  looking : s.inHand ≠ none → s.thread.pc = .look
  published : (s.published ++ s.inHand.toList).Sublist s.taken

lemma Numbered.length (h : Numbered read s) :
    s.taken.length = s.times.length ∧ s.times.length = (sampleTimes s.thread.log).length := by
  refine ⟨by simpa using congrArg List.length h.uptimes, ?_⟩
  rw [h.times, begunAt, List.length_mapIdx]

/-- The loop moves on, its log and its number as they were. -/
lemma Numbered.of_loop {l : SensorThread.Label} (h : Numbered read s)
    (hseq : (SensorThread.next s.thread l).sequence = s.thread.sequence)
    (hlog : sampleTimes (SensorThread.next s.thread l).log = sampleTimes s.thread.log)
    (hlook : s.inHand ≠ none → (SensorThread.next s.thread l).pc = .look) :
    Numbered read (next read s (.loop l)) :=
  ⟨hseq.trans h.sequence, h.taken, h.uptimes,
    h.times.trans (congrArg (begunAt s.spent) hlog.symm), h.spent, h.idle, hlook, h.published⟩

/-- A step of the loop that is no sample. -/
lemma Numbered.loop (h : Numbered read s) {l : SensorThread.Label}
    (hen : enabled s (.loop l)) : Numbered read (next read s (.loop l)) := by
  obtain ⟨hl, hns, hlook⟩ := hen
  -- a reading in hand keeps the thread where it is
  have hstuck : ∀ pc, s.thread.pc = pc → pc ≠ .look → s.inHand = none := by
    intro pc hpc hne
    by_contra hsome
    exact hne (hpc.symm.trans (h.looking hsome))
  cases l with
  | pub cmd bus => exact h.of_loop rfl rfl h.looking
  | tick ms => exact h.of_loop rfl rfl h.looking
  | poweredUp => exact h.of_loop rfl rfl fun hne => absurd (hstuck _ hl (by simp)) hne
  | sample => exact absurd rfl hns
  | look => exact h.of_loop rfl rfl fun hne => absurd (hlook rfl) hne
  | receive deadline cmd => exact h.of_loop rfl rfl fun hne => absurd (hstuck _ hl.1 (by simp)) hne
  | timeOut => exact h.of_loop rfl rfl fun hne => absurd (hstuck _ hl (by simp)) hne
  | obey cmd =>
      obtain ⟨kind, intervalMs⟩ := cmd
      cases kind <;> exact h.of_loop rfl rfl fun hne => absurd (hstuck _ hl (by simp)) hne

/-- A reading is taken. -/
lemma Numbered.sample (hread : ∀ sample out, (read sample out).uptimeMs = out.uptimeMs)
    (h : Numbered read s) (hpc : s.thread.pc = .sample) (sample : Sample) :
    Numbered read (next read s (.sample sample)) := by
  have hnone : s.inHand = none := by
    by_contra hsome
    have hlook := h.looking hsome
    rw [hpc] at hlook
    exact SensorThread.Pc.noConfusion hlook
  have hsub := h.published
  rw [hnone, Option.toList_none, List.append_nil] at hsub
  have hspent := h.spent
  rw [hnone, Option.toList_none, List.length_nil, add_zero] at hspent
  refine ⟨?_, fun k r hk => ?_, ?_, ?_, ?_, fun h => absurd h (by simp [next]), fun _ => rfl,
    hsub.append (List.Sublist.refl _)⟩
  · simp [next, SensorThread.next, h.sequence]
  · rcases Nat.lt_or_ge k s.taken.length with hlt | hge
    · simp only [next, List.getElem?_append_left hlt] at hk
      exact h.taken k r hk
    · simp only [next, List.getElem?_append_right hge, List.getElem?_singleton] at hk
      split_ifs at hk with hzero
      obtain rfl : k = s.taken.length := by omega
      obtain rfl := Option.some.inj hk
      exact ⟨sample, s.uptime, by rw [State.reading, h.sequence]⟩
  · simp [next, h.uptimes, State.reading, hread, blankReading]
  · -- all readings so far are over, and each of them came before this one
    have hall : s.spent.take (sampleTimes s.thread.log).length = s.spent :=
      List.take_of_length_le (by rw [← h.length.2, hspent])
    change s.times ++ [s.uptime] = begunAt s.spent (sampleTimes s.thread.log ++ [s.thread.now])
    rw [begunAt_concat, ← h.times, hall, State.uptime, h.idle hnone, add_zero]
  · simpa [next] using hspent

/-- Time passes in the driver or on the bus. -/
lemma Numbered.busy (h : Numbered read s) (hhand : s.inHand ≠ none) (ms : ℕ) :
    Numbered read (next read s (.busy ms)) :=
  ⟨h.sequence, h.taken, h.uptimes, h.times, h.spent, fun hnone => absurd hnone hhand, h.looking,
    h.published⟩

/-- A reading is out of hand, whether the bus took it or not. -/
lemma Numbered.release (h : Numbered read s) (hhand : s.inHand ≠ none)
    {published : List SensorReading} (hsub : published.Sublist s.taken) :
    Numbered read
      { s with inHand := none, published, spent := s.spent ++ [s.work], work := 0 } := by
  have hspent := h.spent
  obtain ⟨reading, hsome⟩ := Option.ne_none_iff_exists'.mp hhand
  rw [hsome, Option.toList_some, List.length_singleton] at hspent
  refine ⟨h.sequence, h.taken, h.uptimes, ?_, by simpa using hspent, fun _ => rfl,
    fun hne => absurd rfl hne, by simpa using hsub⟩
  rw [begunAt_spent (by rw [← h.length.2, hspent]), ← h.times]

/-- **The step lemma of the readings.** -/
theorem numbered_inductive (hread : ∀ sample out, (read sample out).uptimeMs = out.uptimeMs) :
    (machine read powerUpMs t0).Inductive (Numbered read) where
  init := ⟨rfl, by simp [machine], rfl, rfl, rfl, fun _ => rfl, by simp [machine],
    List.nil_sublist _⟩
  step s l h hl := by
    cases l with
    | loop l => exact h.loop hl
    | sample sample => exact h.sample hread hl sample
    | busy ms => exact h.busy hl ms
    | publish reading =>
        have hhand : s.inHand = some reading := hl
        have hsub := h.published
        rw [hhand, Option.toList_some] at hsub
        exact h.release (by simp [hhand]) hsub
    | publishFail => exact h.release hl ((List.sublist_append_left _ _).trans h.published)

/-! ### What a node publishes -/

/-- What a node's read function says of the readings it takes. -/
lemma TakenAs.spec {measures : Measures} {read : Bool → Sample → SensorReading → SensorReading}
    (hread : Reads measures read) {deviceOk : Bool} {k : ℕ} {r : SensorReading}
    (h : TakenAs (read deviceOk) k r) :
    r.sequence = UInt32.ofNat k ∧ Reported measures r ∧ (deviceOk = false → r.status = .error) := by
  obtain ⟨sample, now, rfl⟩ := h
  refine ⟨hread.sequence _ _ _, hread.reported _ _ _ _, fun hok => ?_⟩
  exact (hread.error_iff _ _ _).mpr (.inl hok)

end ClimateNode.Readings

namespace ClimateNode

variable (conv : Conversions) (deviceOk : Bool) (t0 : ℤ)

/-- The readings of the gateway; `device_is_ready` is asked once. -/
def Gateway.readings : Automata.Machine Readings.State Readings.Label :=
  Readings.machine (readScd40 conv deviceOk) kSensorPowerUpMs t0

/-- The readings of the peer. -/
def Peer.readings : Automata.Machine Readings.State Readings.Label :=
  Readings.machine (readBme280 conv deviceOk) 0 t0

namespace Readings

open Automata SensorThread

variable {conv deviceOk t0} {ls : List Label} {s : State}

/-! ### When they were taken -/

lemma sampleTimes_getLast? (log : List Event) : (sampleTimes log).getLast? = lastSampled log := by
  induction log with
  | nil => rfl
  | cons e earlier ih =>
      cases e with
      | sampled time sequence => simp [sampleTimes, lastSampled]
      | dequeued time cmd => exact ih

lemma toNat_ofInt_of_lt {x : ℤ} (h₀ : 0 ≤ x) (h : x < 2 ^ 32) :
    ((UInt32.ofInt x).toNat : ℤ) = x := by
  rw [UInt32.ofInt, UInt32.toNat_ofNat']
  omega

/-- The last sample is not later than a time no sample was due before. -/
lemma lastSampled_le {log : List Event} (h : AllOnTime log) {t : ℤ} (ht : NotDueUntil log t) :
    ∀ last ∈ lastSampled log, last ≤ t := by
  induction log generalizing t with
  | nil => simp [lastSampled]
  | cons e earlier ih =>
      intro last hlast
      have hle := (ht e rfl).1
      cases e with
      | sampled time sequence =>
          obtain rfl : time = last := by simpa [lastSampled] using hlast
          exact hle
      | dequeued time cmd => exact (ih h.tail h.head.1 last hlast).trans hle

/-- Two samples in a row are never more than the longest period apart. -/
lemma sampleTimes_chain {log : List Event} (h : AllOnTime log)
    (hvalid : ∀ cmd ∈ dequeued log, sensorCmdInRange cmd = true) :
    (sampleTimes log).IsChain fun t t' : ℤ => t ≤ t' ∧ t' ≤ t + samplePeriodMaxMs.toNat := by
  induction log with
  | nil => exact .nil
  | cons e earlier ih =>
      cases e with
      | dequeued time cmd => exact ih h.tail fun c hc => hvalid c (List.mem_append_left _ hc)
      | sampled time sequence =>
          refine List.isChain_append.mpr ⟨ih h.tail hvalid, .singleton _, ?_⟩
          intro last hlast t ht
          obtain rfl : time = t := by simpa using ht
          rw [sampleTimes_getLast?] at hlast
          exact ⟨lastSampled_le h.tail h.head.1 last hlast,
            h.head.1.le_lastSampled h.tail hvalid last hlast⟩

/-- How far apart two readings in a row were begun: the first was read and published,
and from then on it is at most the longest period. -/
lemma Numbered.spaced {read : Sample → SensorReading → SensorReading} (h : Numbered read s)
    (hschedule : OnSchedule s.thread) {k : ℕ} {t t' : ℤ}
    (ht : s.times[k]? = some t) (ht' : s.times[k + 1]? = some t') :
    ∃ w, s.spent[k]? = some w ∧ t + w ≤ t' ∧ t' ≤ t + w + samplePeriodMaxMs.toNat := by
  have hlt : k + 1 < s.times.length := (List.getElem?_eq_some_iff.mp ht').1
  have hk : k < s.spent.length := by
    have hspent := h.spent
    have hhand : s.inHand.toList.length ≤ 1 := by cases s.inHand <;> simp
    omega
  have hsampled : k + 1 < (sampleTimes s.thread.log).length := h.length.2 ▸ hlt
  -- on the clock of the waits they are a period apart at most
  have hgap := List.isChain_iff_getElem.mp
    (sampleTimes_chain hschedule.onTime hschedule.valid) k hsampled
  rw [h.times, begunAt, List.getElem?_mapIdx, List.getElem?_eq_getElem (by omega),
    Option.map_some, Option.some.injEq] at ht ht'
  refine ⟨s.spent[k], List.getElem?_eq_getElem hk, ?_⟩
  rw [List.sum_take_succ s.spent k hk] at ht'
  push_cast at ht ht'
  omega

/-- **The uptimes of readings taken in a row**, in every run of either node: there is a
reading for each sample, its uptime is the time at which it was begun, and the next is
begun when it is read and published and at most the longest period later.  So the
difference of two uptimes, as the host computes it and whatever the counter has wrapped
to, is the time between the two, if only reading and publishing did not take weeks. -/
theorem uptimes_spaced
    (hrun : (Gateway.readings conv deviceOk t0).Run ls s ∨
      (Peer.readings conv deviceOk t0).Run ls s) :
    s.taken.length = (sampleTimes s.thread.log).length ∧
    s.taken.map (·.uptimeMs) = s.times.map UInt32.ofInt ∧
    ∀ k r r', s.taken[k]? = some r → s.taken[k + 1]? = some r' →
      ∃ (t t' : ℤ) (w : ℕ),
        s.times[k]? = some t ∧ s.times[k + 1]? = some t' ∧ s.spent[k]? = some w ∧
        r.uptimeMs = UInt32.ofInt t ∧ r'.uptimeMs = UInt32.ofInt t' ∧
        t + w ≤ t' ∧ t' ≤ t + w + samplePeriodMaxMs.toNat ∧
        (w + samplePeriodMaxMs.toNat < 2 ^ 32 →
          ((r'.uptimeMs - r.uptimeMs).toNat : ℤ) = t' - t) := by
  have hspec : (∃ read, Numbered read s) ∧ SensorThread.OnSchedule s.thread := by
    rcases hrun with hrun | hrun
    · exact ⟨⟨_, hrun.invariant (numbered_inductive ((scd40_reads conv).uptimeMs deviceOk))⟩,
        thread_simulates.invariant (onSchedule_inductive _ _) hrun⟩
    · exact ⟨⟨_, hrun.invariant (numbered_inductive ((bme280_reads conv).uptimeMs deviceOk))⟩,
        thread_simulates.invariant (onSchedule_inductive _ _) hrun⟩
  obtain ⟨⟨read, hnum⟩, hschedule⟩ := hspec
  refine ⟨hnum.length.1.trans hnum.length.2, hnum.uptimes, fun k r r' hk hk' => ?_⟩
  -- the uptime of a reading is the time its sample was begun
  have hread : ∀ (j : ℕ) (q : SensorReading), s.taken[j]? = some q →
      ∃ t, s.times[j]? = some t ∧ q.uptimeMs = UInt32.ofInt t := by
    intro j q hj
    have hget : (s.taken.map (·.uptimeMs))[j]? = (s.times.map UInt32.ofInt)[j]? :=
      congrArg (·[j]?) hnum.uptimes
    simp only [List.getElem?_map, hj, Option.map_some] at hget
    obtain ⟨t, ht, heq⟩ := Option.map_eq_some_iff.mp hget.symm
    exact ⟨t, ht, heq.symm⟩
  obtain ⟨t, ht, hup⟩ := hread k r hk
  obtain ⟨t', ht', hup'⟩ := hread (k + 1) r' hk'
  obtain ⟨w, hw, hle, hge⟩ := hnum.spaced hschedule ht ht'
  refine ⟨t, t', w, ht, ht', hw, hup, hup', hle, hge, fun hsmall => ?_⟩
  -- the subtraction wraps as the uptimes did
  have hdiff : r'.uptimeMs - r.uptimeMs = UInt32.ofInt (t' - t) := by
    rw [hup, hup', sub_eq_add_neg t', UInt32.ofInt_add, UInt32.ofInt_neg, UInt32.sub_eq_add_neg]
  rw [hdiff, toNat_ofInt_of_lt (by omega) (by omega)]

/-- Conversions good enough for a small run. -/
def plainConversions : Conversions := ⟨fun v => v.val1.toUInt32, fun v => v.val1.toUInt32⟩

/-- A sample in which every channel reads the same. -/
def evenSample (val1 : Int32) : Sample := ⟨0, fun _ => ⟨val1, 0⟩⟩

/-- Two samples, the second a default period after the first was out, which took 30 ms
to be read and 4 ms to be published. -/
def wrapRun : List Label :=
  [.loop (.tick 100), .loop .poweredUp, .sample (evenSample 0), .busy 30, .busy 4,
    .publish (readScd40 plainConversions true (evenSample 0) (blankReading 0 4294963100)),
    .loop .look, .loop (.tick 5000), .loop .timeOut, .sample (evenSample 412)]

/-- The uptime wraps between the two. -/
theorem wrapRun_spaced : ∃ s, (Gateway.readings plainConversions true 4294963000).Run wrapRun s ∧
    s.taken.map (fun r => (r.uptimeMs, r.status)) = [(4294963100, .warmingUp), (838, .ok)] ∧
    ∀ r r', s.taken[0]? = some r → s.taken[1]? = some r' →
      ((r'.uptimeMs - r.uptimeMs).toNat : ℤ) ≤ 34 + samplePeriodMaxMs.toNat := by
  have hrun : (machine (readScd40 plainConversions true) kSensorPowerUpMs 4294963000).Run
      wrapRun _ := Machine.run_of_exec rfl
  refine ⟨_, hrun, rfl, fun r r' hr hr' => ?_⟩
  obtain ⟨t, t', w, -, -, hw, -, -, -, hge, hdiff⟩ :=
    (uptimes_spaced (.inl hrun)).2.2 0 r r' hr hr'
  obtain rfl : 34 = w := Option.some.inj hw
  rw [hdiff (by decide)]
  omega

end Readings

end ClimateNode
