import ClimateNode.Automata.Machine
import ClimateNode.Automata.Monitor
import ClimateNode.Shared.AppChannels
import Mathlib.Algebra.Order.Group.Int
import Mathlib.Tactic.Common

/-!
`sensor_thread` of the two `sensor.cpp`: a sample, then a wait for the rest of the
sample period, ended early by a trigger and stretched or cut by a new interval.  The
loops are one and the same; the gateway's waits for its sensor to power up first.

* `machine`: the thread, its queue of commands, and a clock that only moves while the
  thread waits.
* `due`: what the events so far say of the next sample.
* `OnTime`: an event comes neither before its time nor after the next sample is due.
* `samples_on_time`: **the cadence of the samples**.
-/

namespace ClimateNode

namespace SensorThread

open Automata

/-- Where the thread stands.  A wait has a deadline; a command taken from the queue
has yet to be obeyed. -/
inductive Pc where
  | powerUp (deadline : ℤ)
  | sample
  | look
  | wait (deadline : ℤ)
  | obey (cmd : SensorCmd)
  deriving DecidableEq, Repr

/-- What the thread did, and when. -/
inductive Event where
  | sampled (time : ℤ) (sequence : UInt32)
  | dequeued (time : ℤ) (cmd : SensorCmd)
  deriving DecidableEq, Repr

/-- The thread, the command channel, the queue of `sensor_cmd_sub`, and what the
thread did so far, newest first. -/
structure State where
  pc : Pc
  now : ℤ
  sequence : UInt32
  periodMs : UInt32
  lastSample : ℤ
  chan : SensorCmdChan
  queue : List SensorCmd
  log : List Event

/-- The atomic actions.  `pub` is somebody else's `zbus_chan_pub(&chan_sensor_cmd, ..)`,
with what the bus answers; `receive` and `timeOut` are the two ends of
`zbus_sub_wait_msg`. -/
inductive Label where
  | pub (cmd : SensorCmd) (bus : ℤ)
  | tick (ms : ℕ)
  | poweredUp
  | sample
  | look
  | receive (deadline : ℤ) (cmd : SensorCmd)
  | timeOut
  | obey (cmd : SensorCmd)
  deriving DecidableEq, Repr

/-- Which actions may fire.  Only waiting takes time: a message that is queued is
returned at once, and without one the wait ends after exactly the given time. -/
def enabled (s : State) : Label → Prop
  | .pub _ _ => True
  | .tick ms =>
      match s.pc with
      | .powerUp deadline => s.now + ms ≤ deadline
      | .wait deadline => s.queue = [] ∧ s.now + ms ≤ deadline
      | _ => False
  | .poweredUp => s.pc = .powerUp s.now
  | .sample => s.pc = .sample
  | .look => s.pc = .look
  | .receive deadline cmd => s.pc = .wait deadline ∧ s.queue.head? = some cmd
  | .timeOut => s.pc = .wait s.now
  | .obey cmd => s.pc = .obey cmd

instance (s : State) (l : Label) : Decidable (enabled s l) := by
  obtain ⟨pc⟩ := s
  cases l <;> cases pc <;> dsimp only [enabled] <;> infer_instance

/-- What each action does. -/
def next (s : State) : Label → State
  | .pub cmd bus =>
      { s with chan := (s.chan.pub cmd bus).2,
               queue := if (s.chan.pub cmd bus).1 = 0 then s.queue ++ [cmd] else s.queue }
  | .tick ms => { s with now := s.now + ms }
  | .poweredUp => { s with pc := .sample }
  | .sample =>
      { s with pc := .look, sequence := s.sequence + 1, lastSample := s.now,
               log := .sampled s.now s.sequence :: s.log }
  | .look =>
      let left := s.lastSample + s.periodMs.toNat - s.now
      { s with pc := if left ≤ 0 then .sample else .wait (s.now + left) }
  | .receive _ cmd =>
      { s with pc := .obey cmd, queue := s.queue.tail, log := .dequeued s.now cmd :: s.log }
  | .timeOut => { s with pc := .sample }
  | .obey cmd =>
      match cmd.kind with
      | .trigger => { s with pc := .sample }
      | .setInterval => { s with pc := .look, periodMs := cmd.intervalMs }

/-- The thread started at `t0`, with its sensor powered up `powerUpMs` later. -/
def machine (powerUpMs : ℕ) (t0 : ℤ) : Machine State Label :=
  ⟨⟨.powerUp (t0 + powerUpMs), t0, 0, samplePeriodDefaultMs, t0, .initial, [], []⟩, enabled, next⟩

instance (powerUpMs : ℕ) (t0 : ℤ) (s : State) (l : Label) :
    Decidable ((machine powerUpMs t0).enabled s l) :=
  inferInstanceAs (Decidable (enabled s l))

end SensorThread

/-- `kSensorPowerUpMs`. -/
def kSensorPowerUpMs : ℕ := 100

/-- `sensor_thread` of the gateway. -/
def Gateway.sensorThread (t0 : ℤ) : Automata.Machine SensorThread.State SensorThread.Label :=
  SensorThread.machine kSensorPowerUpMs t0

/-- `sensor_thread` of the peer. -/
def Peer.sensorThread (t0 : ℤ) : Automata.Machine SensorThread.State SensorThread.Label :=
  SensorThread.machine 0 t0

namespace SensorThread

open Automata

/-! ### What the events ask for -/

/-- When it happened. -/
def Event.time : Event → ℤ
  | .sampled time _ | .dequeued time _ => time

/-- The commands dequeued, oldest first. -/
def dequeued : List Event → List SensorCmd
  | [] => []
  | .dequeued _ cmd :: earlier => dequeued earlier ++ [cmd]
  | .sampled _ _ :: earlier => dequeued earlier

/-- The period in force: the interval last dequeued. -/
def periodInForce : List Event → UInt32
  | [] => samplePeriodDefaultMs
  | .dequeued _ ⟨.setInterval, intervalMs⟩ :: _ => intervalMs
  | _ :: earlier => periodInForce earlier

/-- When the last sample was taken. -/
def lastSampled : List Event → Option ℤ
  | [] => none
  | .sampled time _ :: _ => some time
  | .dequeued _ _ :: earlier => lastSampled earlier

/-- The newest event is a trigger. -/
def triggered : List Event → Bool
  | .dequeued _ ⟨.trigger, _⟩ :: _ => true
  | _ => false

/-- The next sample is due at a time: there was a trigger, or the time since the last
sample has reached the period in force. -/
def due (log : List Event) (t : ℤ) : Prop :=
  triggered log = true ∨ ∃ last ∈ lastSampled log, (periodInForce log).toNat ≤ t - last

/-- No sample was due from the newest event on until a time. -/
def NotDueUntil (log : List Event) (t : ℤ) : Prop :=
  ∀ e ∈ log.head?, e.time ≤ t ∧ ∀ u, e.time ≤ u → u < t → ¬ due log u

/-- An event among the earlier ones: no sample was due before it, and a sample is due
at it if it is one. -/
def OnTime (e : Event) (earlier : List Event) : Prop :=
  NotDueUntil earlier e.time ∧
    match e with
    | .sampled time _ => earlier = [] ∨ due earlier time
    | .dequeued _ _ => earlier ≠ [] ∧ triggered earlier = false

/-- The steps the thread has left before it samples or waits for something to happen. -/
def toDo (s : State) : ℕ :=
  4 * s.queue.length +
    match s.pc with
    | .sample => 0
    | .powerUp _ | .wait _ => 1
    | .look => 2
    | .obey _ => 3

/-! ### What follows for a log whose events are on time -/

section Log

variable {log : List Event} {e : Event} {t : ℤ}

/-- Each event of a log was on time. -/
def AllOnTime (log : List Event) : Prop := ∀ e earlier, e :: earlier <:+ log → OnTime e earlier

lemma AllOnTime.cons (h : AllOnTime log) (he : OnTime e log) : AllOnTime (e :: log) :=
  Monitor.forall_suffix_cons.mpr ⟨he, h⟩

lemma AllOnTime.tail (h : AllOnTime (e :: log)) : AllOnTime log :=
  (Monitor.forall_suffix_cons.mp h).2

lemma AllOnTime.head (h : AllOnTime (e :: log)) : OnTime e log :=
  (Monitor.forall_suffix_cons.mp h).1

/-- What an earlier log says was dequeued was. -/
lemma mem_dequeued_of_suffix {log' : List Event} (h : log' <:+ log) :
    ∀ cmd ∈ dequeued log', cmd ∈ dequeued log := by
  obtain ⟨newer, rfl⟩ := h
  intro cmd hcmd
  induction newer with
  | nil => exact hcmd
  | cons e newer ih =>
      cases e with
      | sampled time sequence => exact ih
      | dequeued time c => exact List.mem_append_left _ ih

/-- The validator keeps the period in its range. -/
lemma periodInForce_range (h : ∀ cmd ∈ dequeued log, sensorCmdInRange cmd = true) :
    samplePeriodMinMs ≤ periodInForce log ∧ periodInForce log ≤ samplePeriodMaxMs := by
  induction log with
  | nil => decide
  | cons e earlier ih =>
      cases e with
      | sampled time sequence => exact ih h
      | dequeued time cmd =>
          obtain ⟨kind, intervalMs⟩ := cmd
          cases kind with
          | trigger => exact ih fun c hc => h c (List.mem_append_left _ hc)
          | setInterval =>
              have hcmd := h ⟨.setInterval, intervalMs⟩ (by simp [dequeued])
              simpa [sensorCmdInRange, periodInForce] using hcmd

/-- With no sample due before it, a time is not more than the longest period after the
last sample. -/
lemma NotDueUntil.le_lastSampled (hlog : AllOnTime log) (h : NotDueUntil log t)
    (hvalid : ∀ cmd ∈ dequeued log, sensorCmdInRange cmd = true) :
    ∀ last ∈ lastSampled log, t ≤ last + samplePeriodMaxMs.toNat := by
  induction log generalizing t with
  | nil => simp [lastSampled]
  | cons e earlier ih =>
      intro last hlast
      obtain ⟨hle, hnot⟩ := h e rfl
      rcases hle.lt_or_eq with hlt | rfl
      · have hdue := hnot (t - 1) (by omega) (by omega)
        have hperiod := (periodInForce_range hvalid).2
        by_contra hmore
        refine hdue (.inr ⟨last, hlast, ?_⟩)
        have : (periodInForce (e :: earlier)).toNat ≤ samplePeriodMaxMs.toNat := hperiod
        omega
      · cases e with
        | sampled time sequence =>
            obtain rfl : time = last := by simpa [lastSampled] using hlast
            exact Int.le_add_of_nonneg_right (Int.natCast_nonneg _)
        | dequeued time cmd =>
            exact ih hlog.tail hlog.head.1
              (fun c hc => hvalid c (List.mem_append_left _ hc)) last hlast

/-- The triggers dequeued. -/
def triggers : List Event → ℕ
  | [] => 0
  | .dequeued _ ⟨.trigger, _⟩ :: earlier => triggers earlier + 1
  | _ :: earlier => triggers earlier

/-- The samples taken. -/
def samples : List Event → ℕ
  | [] => 0
  | .sampled _ _ :: earlier => samples earlier + 1
  | .dequeued _ _ :: earlier => samples earlier

/-- Each trigger has a sample of its own, if only the one that is now due. -/
lemma triggers_lt_samples (h : AllOnTime log) (hne : log ≠ []) :
    triggers log < samples log + (triggered log).toNat := by
  induction log with
  | nil => exact absurd rfl hne
  | cons e earlier ih =>
      cases e with
      | sampled time sequence =>
          rcases eq_or_ne earlier [] with rfl | hearlier
          · exact Nat.zero_lt_one
          · have := ih h.tail hearlier
            have := Bool.toNat_le (triggered earlier)
            simp only [triggers, samples, triggered, Bool.toNat_false]
            omega
      | dequeued time cmd =>
          obtain ⟨hearlier, hnot⟩ := h.head.2
          have := ih h.tail hearlier
          rw [hnot] at this
          obtain ⟨kind, intervalMs⟩ := cmd
          cases kind <;> simp only [triggers, samples, triggered, Bool.toNat_true,
            Bool.toNat_false] at this ⊢ <;> omega

end Log

/-! ### The thread keeps to it -/

/-- What the thread knows where it stands. -/
def Phase (s : State) : Prop :=
  match s.pc with
  | .powerUp deadline => s.log = [] ∧ s.now ≤ deadline
  | .sample => s.log = [] ∨ due s.log s.now
  | .look => s.log ≠ [] ∧ triggered s.log = false
  | .wait deadline => s.log ≠ [] ∧ triggered s.log = false ∧ s.now ≤ deadline ∧
      deadline = s.lastSample + s.periodMs.toNat
  | .obey cmd => s.log.head? = some (.dequeued s.now cmd)

/-- The log without a command that has yet to be obeyed. -/
def obeyed (s : State) : List Event :=
  match s.pc with
  | .obey _ => s.log.tail
  | _ => s.log

/-- The thread against its log. -/
structure OnSchedule (s : State) : Prop where
  order : s.chan.stored = dequeued s.log ++ s.queue
  onTime : AllOnTime s.log
  notDue : NotDueUntil s.log s.now
  last : s.log ≠ [] → lastSampled s.log = some s.lastSample
  period : s.periodMs = periodInForce (obeyed s)
  phase : Phase s

variable {s : State}

lemma OnSchedule.valid (h : OnSchedule s) : ∀ cmd ∈ dequeued s.log, sensorCmdInRange cmd = true :=
  fun cmd hcmd => s.chan.valid cmd (List.mem_cons_of_mem _ (h.order ▸ List.mem_append_left _ hcmd))

/-- Somebody publishes a command. -/
lemma OnSchedule.pub (h : OnSchedule s) (cmd : SensorCmd) (bus : ℤ) :
    OnSchedule (next s (.pub cmd bus)) := by
  refine ⟨?_, h.onTime, h.notDue, h.last, h.period, h.phase⟩
  by_cases hok : sensorCmdInRange cmd = true ∧ bus = 0
  · obtain ⟨hrange, rfl⟩ := hok
    simp [next, SensorCmdChan.pub_accepted hrange, SensorCmdChan.store, h.order]
  · have hrefused : (s.chan.pub cmd bus).1 ≠ 0 ∧ (s.chan.pub cmd bus).2 = s.chan :=
      SensorCmdChan.pub_refused ((not_and_or.mp hok).imp_left Bool.eq_false_iff.mpr)
    simp [next, hrefused.1, hrefused.2, h.order]

/-- Time passes while the thread waits, and no sample gets due before its deadline. -/
lemma OnSchedule.tick (h : OnSchedule s) {ms : ℕ} (hen : enabled s (.tick ms)) :
    OnSchedule (next s (.tick ms)) := by
  obtain ⟨pc, now, sequence, periodMs, lastSample, chan, queue, log⟩ := s
  have hphase := h.phase
  cases pc with
  | powerUp deadline =>
      obtain ⟨rfl, -⟩ : log = [] ∧ _ := hphase
      exact ⟨h.order, h.onTime, fun e he => by simp [next] at he, h.last, h.period, rfl, hen⟩
  | wait deadline =>
      obtain ⟨hne, hnot, -, hdeadline⟩ : log ≠ [] ∧ triggered log = false ∧ _ ∧
        deadline = lastSample + periodMs.toNat := hphase
      obtain ⟨-, hle⟩ : queue = [] ∧ now + ms ≤ deadline := hen
      refine ⟨h.order, h.onTime, ?_, h.last, h.period, hne, hnot, hle, hdeadline⟩
      intro e he
      obtain ⟨hpast, hbefore⟩ := h.notDue e he
      refine ⟨hpast.trans (Int.le_add_of_nonneg_right (Int.natCast_nonneg ms)), ?_⟩
      intro u hu hlt
      rcases lt_or_ge u now with hearly | hlate
      · exact hbefore u hu hearly
      · rintro (htrig | ⟨last, hlast, hreach⟩)
        · exact absurd htrig (by simp [next, hnot])
        · have heq : lastSampled log = some lastSample := h.last hne
          have hperiod : periodMs = periodInForce log := h.period
          obtain rfl : lastSample = last := by simpa [next, heq] using hlast
          simp only [next, ← hperiod] at hreach hlt
          omega
  | _ => exact absurd hen id

/-- A sample is taken. -/
lemma OnSchedule.sample (h : OnSchedule s) (hpc : s.pc = .sample) :
    OnSchedule (next s .sample) := by
  have hphase := h.phase
  have hperiod := h.period
  rw [Phase, hpc] at hphase
  rw [obeyed, hpc] at hperiod
  refine ⟨h.order, h.onTime.cons ⟨h.notDue, hphase⟩, ?_, fun _ => rfl, hperiod,
    by simp [Phase, next, triggered]⟩
  intro e he
  obtain rfl : Event.sampled s.now s.sequence = e := by simpa [next] using he
  exact ⟨le_rfl, fun u hu hlt => absurd hlt (not_lt.mpr hu)⟩

/-- The rest of the period is worked out. -/
lemma OnSchedule.look (h : OnSchedule s) (hpc : s.pc = .look) : OnSchedule (next s .look) := by
  have hphase := h.phase
  have hperiod := h.period
  rw [Phase, hpc] at hphase
  rw [obeyed, hpc] at hperiod
  obtain ⟨hne, hnot⟩ := hphase
  have hlast := h.last hne
  by_cases hleft : s.lastSample + s.periodMs.toNat - s.now ≤ 0
  · have hnext : next s .look = { s with pc := .sample } := by simp [next, hleft]
    rw [hnext]
    refine ⟨h.order, h.onTime, h.notDue, h.last, hperiod, .inr (.inr ⟨s.lastSample, hlast, ?_⟩)⟩
    rw [← hperiod]
    dsimp only
    omega
  · have hnext : next s .look =
        { s with pc := .wait (s.now + (s.lastSample + s.periodMs.toNat - s.now)) } := by
      simp [next, hleft]
    rw [hnext]
    refine ⟨h.order, h.onTime, h.notDue, h.last, hperiod, hne, hnot, ?_, ?_⟩
    · dsimp only
      omega
    · dsimp only
      omega

/-- A command is taken from the queue. -/
lemma OnSchedule.receive (h : OnSchedule s) {deadline : ℤ} {cmd : SensorCmd}
    (hpc : s.pc = .wait deadline) (hcmd : s.queue.head? = some cmd) :
    OnSchedule (next s (.receive deadline cmd)) := by
  have hphase := h.phase
  have hperiod := h.period
  rw [Phase, hpc] at hphase
  rw [obeyed, hpc] at hperiod
  obtain ⟨hne, hnot, -⟩ := hphase
  obtain ⟨queue, hqueue⟩ := List.head?_eq_some_iff.mp hcmd
  refine ⟨?_, h.onTime.cons ⟨h.notDue, hne, hnot⟩, ?_, fun _ => h.last hne, hperiod, rfl⟩
  · simp [next, dequeued, h.order, hqueue]
  · intro e he
    obtain rfl : Event.dequeued s.now cmd = e := by simpa [next] using he
    exact ⟨le_rfl, fun u hu hlt => absurd hlt (not_lt.mpr hu)⟩

/-- The period is over. -/
lemma OnSchedule.timeOut (h : OnSchedule s) (hpc : s.pc = .wait s.now) :
    OnSchedule (next s .timeOut) := by
  have hphase := h.phase
  have hperiod := h.period
  rw [Phase, hpc] at hphase
  rw [obeyed, hpc] at hperiod
  obtain ⟨hne, -, -, hdeadline⟩ := hphase
  refine ⟨h.order, h.onTime, h.notDue, h.last, hperiod,
    .inr (.inr ⟨s.lastSample, h.last hne, ?_⟩)⟩
  simp only [next, ← hperiod]
  omega

/-- A command is obeyed. -/
lemma OnSchedule.obey (h : OnSchedule s) {cmd : SensorCmd} (hpc : s.pc = .obey cmd) :
    OnSchedule (next s (.obey cmd)) := by
  have hphase := h.phase
  have hperiod := h.period
  rw [Phase, hpc] at hphase
  rw [obeyed, hpc] at hperiod
  obtain ⟨earlier, hlog⟩ := List.head?_eq_some_iff.mp hphase
  have hne : s.log ≠ [] := by simp [hlog]
  rw [hlog, List.tail_cons] at hperiod
  obtain ⟨kind, intervalMs⟩ := cmd
  cases kind with
  | trigger =>
      have htrig : triggered s.log = true := by simp [hlog, triggered]
      exact ⟨h.order, h.onTime, h.notDue, h.last,
        by simp [next, obeyed, hlog, periodInForce, hperiod], .inr (.inl htrig)⟩
  | setInterval =>
      exact ⟨h.order, h.onTime, h.notDue, h.last, by simp [next, obeyed, hlog, periodInForce],
        by simp [Phase, next, hlog, triggered]⟩

/-- **The step lemma of the sensor threads.** -/
lemma onSchedule_inductive (powerUpMs : ℕ) (t0 : ℤ) :
    (machine powerUpMs t0).Inductive OnSchedule where
  init := ⟨rfl, by simp [machine, AllOnTime], by simp [machine, NotDueUntil],
    by simp [machine], rfl, rfl, Int.le_add_of_nonneg_right (Int.natCast_nonneg powerUpMs)⟩
  step s l h hen := by
    cases l with
    | pub cmd bus => exact h.pub cmd bus
    | tick ms => exact h.tick hen
    | poweredUp =>
        have hpc : s.pc = .powerUp s.now := hen
        have hphase := h.phase
        have hperiod := h.period
        rw [Phase, hpc] at hphase
        rw [obeyed, hpc] at hperiod
        exact ⟨h.order, h.onTime, h.notDue, h.last, hperiod, .inl hphase.1⟩
    | sample => exact h.sample hen
    | look => exact h.look hen
    | receive deadline cmd => exact h.receive hen.1 hen.2
    | timeOut => exact h.timeOut hen
    | obey cmd => exact h.obey hen

/-- The period is in its range, also while a new one has yet to be obeyed. -/
lemma OnSchedule.periodMs_range (h : OnSchedule s) :
    samplePeriodMinMs ≤ s.periodMs ∧ s.periodMs ≤ samplePeriodMaxMs := by
  have hsuff : obeyed s <:+ s.log := by
    rw [obeyed]
    split
    · exact List.tail_suffix _
    · exact List.suffix_rfl
  rw [h.period]
  exact periodInForce_range fun cmd hcmd => h.valid cmd (mem_dequeued_of_suffix hsuff cmd hcmd)

/-- What the thread does next: it samples, it waits, or it is a step closer to doing
one of them. -/
lemma OnSchedule.exists_enabled (h : OnSchedule s) :
    ∃ l, enabled s l ∧ (l = .sample ∨ (∃ ms, 0 < ms ∧ l = .tick ms) ∨
      toDo (next s l) < toDo s) := by
  have hphase := h.phase
  cases hpc : s.pc with
  | powerUp deadline =>
      rw [Phase, hpc] at hphase
      rcases hphase.2.lt_or_eq with hlt | heq
      · refine ⟨.tick 1, ?_, .inr (.inl ⟨1, Nat.zero_lt_one, rfl⟩)⟩
        simp only [enabled, hpc]
        omega
      · exact ⟨.poweredUp, by rw [enabled, hpc, heq], .inr (.inr (by simp [toDo, next, hpc]))⟩
  | sample => exact ⟨.sample, hpc, .inl rfl⟩
  | look =>
      refine ⟨.look, hpc, .inr (.inr ?_)⟩
      by_cases hleft : s.lastSample + s.periodMs.toNat - s.now ≤ 0 <;> simp [toDo, next, hpc, hleft]
  | wait deadline =>
      rw [Phase, hpc] at hphase
      rcases hqueue : s.queue with _ | ⟨cmd, queue⟩
      · rcases hphase.2.2.1.lt_or_eq with hlt | heq
        · refine ⟨.tick 1, ?_, .inr (.inl ⟨1, Nat.zero_lt_one, rfl⟩)⟩
          simp only [enabled, hpc, hqueue, true_and]
          omega
        · exact ⟨.timeOut, by rw [enabled, hpc, heq], .inr (.inr (by simp [toDo, next, hpc]))⟩
      · refine ⟨.receive deadline cmd, ⟨hpc, by simp [hqueue]⟩, .inr (.inr ?_)⟩
        simp only [toDo, next, hpc, hqueue, List.tail_cons, List.length_cons]
        omega
  | obey cmd =>
      refine ⟨.obey cmd, hpc, .inr (.inr ?_)⟩
      obtain ⟨kind, intervalMs⟩ := cmd
      cases kind <;> simp [toDo, next, hpc]

/-- **The cadence of the samples**, in every run of either sensor thread, whatever
commands are published and when: the commands are dequeued once each and in order,
the period stays in its range, no event comes before its time or after the next
sample is due, nor is a sample overdue now; two samples are never more than the
longest period apart, each trigger has a sample of its own, and the thread always
goes on. -/
theorem samples_on_time {t0 : ℤ} {ls : List Label}
    (hrun : (Gateway.sensorThread t0).Run ls s ∨ (Peer.sensorThread t0).Run ls s) :
    s.chan.stored = dequeued s.log ++ s.queue ∧
    (samplePeriodMinMs ≤ s.periodMs ∧ s.periodMs ≤ samplePeriodMaxMs) ∧
    (∀ e earlier, e :: earlier <:+ s.log → OnTime e earlier ∧
      ∀ last ∈ lastSampled earlier, e.time ≤ last + samplePeriodMaxMs.toNat) ∧
    (NotDueUntil s.log s.now ∧
      ∀ last ∈ lastSampled s.log, s.now ≤ last + samplePeriodMaxMs.toNat) ∧
    (s.log ≠ [] → triggers s.log < samples s.log + (triggered s.log).toNat) ∧
    ∃ l, enabled s l ∧ (l = .sample ∨ (∃ ms, 0 < ms ∧ l = .tick ms) ∨
      toDo (next s l) < toDo s) := by
  have h : OnSchedule s := by
    rcases hrun with hrun | hrun
    · exact hrun.invariant (onSchedule_inductive kSensorPowerUpMs t0)
    · exact hrun.invariant (onSchedule_inductive 0 t0)
  refine ⟨h.order, h.periodMs_range, fun e earlier hsuff => ?_,
    ⟨h.notDue, h.notDue.le_lastSampled h.onTime h.valid⟩,
    triggers_lt_samples h.onTime, h.exists_enabled⟩
  have he := h.onTime e earlier hsuff
  have hearlier : earlier <:+ s.log := (List.suffix_cons e earlier).trans hsuff
  exact ⟨he, he.1.le_lastSampled (fun e' log hlog => h.onTime e' log (hlog.trans hearlier))
    fun cmd hcmd => h.valid cmd (mem_dequeued_of_suffix hearlier cmd hcmd)⟩

/-- Two triggers wait in the queue while the sensor powers up, and the interval is cut
after the samples they ask for. -/
def eagerRun : List Label :=
  [.pub ⟨.trigger, 0⟩ 0, .pub ⟨.trigger, 0⟩ 0, .tick 100, .poweredUp, .sample, .look,
    .receive 5100 ⟨.trigger, 0⟩, .obey ⟨.trigger, 0⟩, .sample, .look,
    .receive 5100 ⟨.trigger, 0⟩, .obey ⟨.trigger, 0⟩, .sample, .look, .tick 400,
    .pub ⟨.setInterval, 1000⟩ 0, .receive 5100 ⟨.setInterval, 1000⟩, .obey ⟨.setInterval, 1000⟩,
    .look, .tick 600, .timeOut, .sample]

/-- Three samples at once, and the next a second later. -/
theorem eagerRun_on_time : ∃ s, (Gateway.sensorThread 0).Run eagerRun s ∧
    s.log.map Event.time = [1100, 500, 100, 100, 100, 100, 100] ∧
    s.chan.stored = dequeued s.log ++ s.queue ∧
    triggers s.log < samples s.log + (triggered s.log).toNat := by
  have hrun : (machine kSensorPowerUpMs 0).Run eagerRun _ := Machine.run_of_exec rfl
  obtain ⟨horder, -, -, -, htriggers, -⟩ := samples_on_time (.inl hrun)
  exact ⟨_, hrun, rfl, horder, htriggers (List.cons_ne_nil _ _)⟩

end SensorThread

end ClimateNode
