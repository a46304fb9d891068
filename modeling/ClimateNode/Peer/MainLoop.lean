import ClimateNode.Automata.Machine
import ClimateNode.Shared.CanLink
import Mathlib.Algebra.Order.Group.Int
import Mathlib.Tactic.Common
import Mathlib.Tactic.Ring

/-!
The loop of `main` in `peer-node/src/main.cpp`, with the clock and the transmit
interrupt beside it: a heartbeat each second, a wait for commands, and a reading
sent when one is there and the link is worth trying.

* `noteLink`: the one link state, written by heartbeats and by telemetry.
* `Loop.machine`: one atomic action a label; time passes between any two.
* `paced_inductive`: the link state never promises less than the failed transfers
  ask for, as long as no heartbeat speaks for the gateway.
* `telemetry_backoff`: **the backoff of telemetry**, in those runs.
* `heartbeat_resets_backoff`: what an acknowledged heartbeat does otherwise.
-/

namespace ClimateNode.Peer

/-! ### The link state -/

/-- `kTxBackoffMinMs`. -/
def kTxBackoffMinMs : ℕ := 2000

/-- `kTxBackoffMaxMs`. -/
def kTxBackoffMaxMs : ℕ := 30000

/-- `link_up`, `tx_backoff_ms` and `tx_retry_at`. -/
structure Link where
  linkUp : Bool
  txBackoffMs : ℕ
  txRetryAt : ℤ
  deriving DecidableEq, Repr

/-- Optimistic at boot. -/
def Link.initial : Link := ⟨true, 0, 0⟩

/-- `note_link`, with what it reads off the clock. -/
def noteLink (link : Link) (ok : Bool) (uptime : ℤ) : Link :=
  if ok then { link with linkUp := true, txBackoffMs := 0 }
  else
    let txBackoffMs :=
      if link.txBackoffMs = 0 then kTxBackoffMinMs else min (link.txBackoffMs * 2) kTxBackoffMaxMs
    ⟨false, txBackoffMs, uptime + txBackoffMs⟩

/-- `EBUSY`. -/
def eBusy : ℤ := 16

/-- `ENETUNREACH`, as the target numbers it. -/
def eNetUnreach : ℤ := 114

namespace Loop

open Automata

/-! ### The loop -/

/-- Who notes an outcome: the `what` of `note_link`. -/
inductive Source where
  | heartbeat | telemetry | bus
  deriving DecidableEq, Repr

/-- Where `main` stands.  `beatSent` is between `can_send` and `atomic_inc`; the
verdict on the link is formed from two reads, `beatJudge` and `beatCount`. -/
inductive Pc where
  | top
  | beatDue
  | beatSend
  | beatSent (rc : ℤ)
  | beatJudge (rc : ℤ)
  | beatCount (err : ℤ)
  | beatNote (what : Source) (err : ℤ)
  | recv (untilBeat : ℤ)
  | pending
  | reading
  | gate
  | transfer
  | note (rc : ℤ)
  deriving DecidableEq, Repr

/-- A transfer of telemetry: when it was attempted, and when and how it ended,
unless it is still under way. -/
structure Transfer where
  startedAt : ℤ
  result : Option (ℤ × Bool)
  deriving DecidableEq, Repr

/-- The loop, its clock, the counters it shares with the interrupt, and the
transfers of telemetry so far, newest first. -/
structure State where
  pc : Pc
  now : ℤ
  nextBeat : ℤ
  link : Link
  beatsInFlight : ℤ
  lastBeatError : ℤ
  /-- The frames accepted by `can_send` that have not completed. -/
  onBus : ℕ
  transfers : List Transfer
  deriving DecidableEq, Repr

/-- The atomic actions, and what the calls in them answer; an action that goes on
with a value carries it.  `complete` is `heartbeat_sent`, in the interrupt. -/
inductive Label where
  | tick (ms : ℕ)
  | complete (error : ℤ)
  | look
  | busState (transmittable : Bool)
  | canSend (rc : ℤ)
  | inc (rc : ℤ)
  | readError (rc : ℤ)
  | readInFlight (err : ℤ)
  | noteBeat (what : Source) (err : ℤ)
  | received (untilBeat len : ℤ)
  | semTake (rc : ℤ)
  | chanRead (rc : ℤ)
  | tryLink (transmittable : Bool)
  | transferred (rc : ℤ)
  | noteTelemetry (rc : ℤ)
  deriving DecidableEq, Repr

/-- Which actions may fire. -/
def enabled (s : State) : Label → Prop
  | .tick _ => True
  | .complete _ => 0 < s.onBus
  | .look => s.pc = .top
  | .busState _ => s.pc = .beatDue
  | .canSend _ => s.pc = .beatSend
  | .inc rc => s.pc = .beatSent rc
  | .readError rc => s.pc = .beatJudge rc
  | .readInFlight err => s.pc = .beatCount err
  | .noteBeat what err => s.pc = .beatNote what err
  | .received untilBeat _ => s.pc = .recv untilBeat
  | .semTake _ => s.pc = .pending
  | .chanRead _ => s.pc = .reading
  | .tryLink _ => s.pc = .gate
  | .transferred _ => s.pc = .transfer
  | .noteTelemetry rc => s.pc = .note rc

instance (s : State) (l : Label) : Decidable (enabled s l) := by
  cases l <;> dsimp only [enabled] <;> infer_instance

/-- The transfer under way ends. -/
def finish (now : ℤ) (ok : Bool) : List Transfer → List Transfer
  | [] => []
  | x :: earlier => { x with result := some (now, ok) } :: earlier

/-- What each action does. -/
def next (s : State) : Label → State
  | .tick ms => { s with now := s.now + ms }
  | .complete error =>
      { s with lastBeatError := error, beatsInFlight := s.beatsInFlight - 1, onBus := s.onBus - 1 }
  | .look =>
      { s with pc := if s.nextBeat - s.now ≤ 0 then .beatDue else .recv (s.nextBeat - s.now) }
  | .busState transmittable =>
      { s with pc := if transmittable then .beatSend else .beatNote .bus (-eNetUnreach) }
  | .canSend rc =>
      { s with pc := .beatSent rc, onBus := if rc = 0 then s.onBus + 1 else s.onBus }
  | .inc rc =>
      { s with pc := .beatJudge rc,
               beatsInFlight := if rc = 0 then s.beatsInFlight + 1 else s.beatsInFlight }
  | .readError rc => { s with pc := .beatCount (if rc ≠ 0 then rc else s.lastBeatError) }
  | .readInFlight err =>
      let err' := if err = 0 ∧ 1 < s.beatsInFlight then -eBusy else err
      { s with pc := .beatNote .heartbeat err' }
  | .noteBeat _ err =>
      { s with pc := .top, link := noteLink s.link (err == 0) s.now,
               nextBeat := s.nextBeat + kHeartbeatPeriodMs }
  | .received _ _ => { s with pc := .pending }
  | .semTake rc => { s with pc := if rc = 0 then .reading else .top }
  | .chanRead rc => { s with pc := if rc = 0 then .gate else .top }
  | .tryLink transmittable =>
      if transmittable ∧ (s.link.linkUp ∨ s.link.txRetryAt ≤ s.now) then
        { s with pc := .transfer, transfers := ⟨s.now, none⟩ :: s.transfers }
      else { s with pc := .top }
  | .transferred rc => { s with pc := .note rc, transfers := finish s.now (rc == 0) s.transfers }
  | .noteTelemetry rc => { s with pc := .top, link := noteLink s.link (rc == 0) s.now }

/-- The loop is entered at `t0`. -/
def boot (t0 : ℤ) : State := ⟨.top, t0, t0, .initial, 0, 0, 0, []⟩

/-- The machine of the loop. -/
def machine (t0 : ℤ) : Machine State Label := ⟨boot t0, enabled, next⟩

instance (t0 : ℤ) (s : State) (l : Label) : Decidable ((machine t0).enabled s l) :=
  inferInstanceAs (Decidable (enabled s l))

/-! ### The backoff of telemetry -/

/-- How many transfers in a row have failed, up to the newest that ended. -/
def failures : List Transfer → ℕ
  | ⟨_, some (_, false)⟩ :: earlier => failures earlier + 1
  | _ => 0

/-- The wait after the `k`-th failure in a row. -/
def backoff (k : ℕ) : ℕ := min (kTxBackoffMinMs * 2 ^ (k - 1)) kTxBackoffMaxMs

/-- No transfer was attempted before the wait after the one before it, if that
failed, was over. -/
def Spaced : List Transfer → Prop
  | [] => True
  | x :: earlier => Spaced earlier ∧
      ∀ y ∈ earlier.head?, ∀ t, y.result = some (t, false) →
        t + backoff (failures earlier) ≤ x.startedAt

/-- The newest transfer was a failure and is over. -/
def failed (transfers : List Transfer) : Prop := 0 < failures transfers

/-- No heartbeat is noted as a success while the last transfer of telemetry is a
failure. -/
def quietBeats (s : State) : Label → Prop
  | .noteBeat _ err => err = 0 → ¬ failed s.transfers
  | _ => True

instance (s : State) (l : Label) : Decidable (quietBeats s l) := by
  cases l <;> dsimp only [quietBeats, failed] <;> infer_instance

lemma backoff_one : backoff 1 = kTxBackoffMinMs := rfl

lemma backoff_le_max (k : ℕ) : backoff k ≤ kTxBackoffMaxMs := min_le_right _ _

/-- Each failure doubles the wait, up to the cap. -/
lemma backoff_succ {k : ℕ} (hk : 0 < k) : backoff (k + 1) = min (backoff k * 2) kTxBackoffMaxMs := by
  obtain ⟨k, rfl⟩ : ∃ k', k = k' + 1 := ⟨k - 1, by omega⟩
  have hpow : kTxBackoffMinMs * 2 ^ (k + 1) = kTxBackoffMinMs * 2 ^ k * 2 := by ring
  rw [backoff, backoff, Nat.add_sub_cancel, Nat.add_sub_cancel, hpow]
  omega

/-- What a failure makes of the backoff is at least what the failures so far ask
for. -/
lemma noteLink_fail_backoff {link : Link} {k : ℕ}
    (hmin : link.txBackoffMs = 0 ∨ kTxBackoffMinMs ≤ link.txBackoffMs)
    (hk : 0 < k → backoff k ≤ link.txBackoffMs) (uptime : ℤ) :
    backoff (k + 1) ≤ (noteLink link false uptime).txBackoffMs := by
  have hcap := backoff_le_max (k + 1)
  simp only [noteLink, Bool.false_eq_true, if_false]
  rcases Nat.eq_zero_or_pos k with rfl | hpos
  · rw [backoff_one] at hcap ⊢
    split_ifs <;> omega
  · have hle := hk hpos
    rw [backoff_succ hpos] at hcap ⊢
    split_ifs <;> omega

/-- No failure shortens the wait. -/
lemma backoff_le_succ {k : ℕ} (hk : 0 < k) : backoff k ≤ backoff (k + 1) := by
  have := backoff_le_max k
  rw [backoff_succ hk]
  omega

lemma noteLink_atLeast {link : Link}
    (h : link.txBackoffMs = 0 ∨ kTxBackoffMinMs ≤ link.txBackoffMs) (ok : Bool) (uptime : ℤ) :
    (noteLink link ok uptime).txBackoffMs = 0 ∨
      kTxBackoffMinMs ≤ (noteLink link ok uptime).txBackoffMs := by
  have hmax : kTxBackoffMinMs ≤ kTxBackoffMaxMs := by decide
  cases ok with
  | true => exact .inl rfl
  | false =>
      simp only [noteLink, Bool.false_eq_true, if_false]
      split_ifs <;> omega

/-- `main` is between transfers, the last one noted. -/
def between (s : State) : Prop := s.pc ≠ .transfer ∧ ∀ rc, s.pc ≠ .note rc

/-- The link state asks for at least the wait after the failures so far. -/
def Holds (link : Link) (transfers : List Transfer) : Prop :=
  ∀ x ∈ transfers.head?, ∀ t, x.result = some (t, false) → link.linkUp = false ∧
    backoff (failures transfers) ≤ link.txBackoffMs ∧
    t + backoff (failures transfers) ≤ link.txRetryAt

/-- The link state remembers the failures before the transfer at the head. -/
def Remembers (link : Link) (transfers : List Transfer) : Prop :=
  0 < failures transfers → backoff (failures transfers) ≤ link.txBackoffMs

/-- The link state against the transfers: it never promises less than the failed
ones ask for, wherever `main` stands. -/
structure Paced (s : State) : Prop where
  spaced : Spaced s.transfers
  atLeast : s.link.txBackoffMs = 0 ∨ kTxBackoffMinMs ≤ s.link.txBackoffMs
  past : ∀ x ∈ s.transfers.head?, ∀ t ok, x.result = some (t, ok) → t ≤ s.now
  noted : between s → Holds s.link s.transfers
  underWay : s.pc = .transfer → ∃ x earlier, s.transfers = x :: earlier ∧
    Remembers s.link earlier
  ended : ∀ rc, s.pc = .note rc → ∃ x earlier t, s.transfers = x :: earlier ∧
    x.result = some (t, rc == 0) ∧ Remembers s.link earlier

/-- A failure leaves the link state asking for the wait it is worth. -/
lemma Holds.fail {link : Link} {transfers : List Transfer} {uptime : ℤ}
    (hk : backoff (failures transfers) ≤ (noteLink link false uptime).txBackoffMs)
    (hpast : ∀ x ∈ transfers.head?, ∀ t ok, x.result = some (t, ok) → t ≤ uptime) :
    Holds (noteLink link false uptime) transfers := by
  intro x hx t ht
  have hretry : (noteLink link false uptime).txRetryAt =
      uptime + (noteLink link false uptime).txBackoffMs := rfl
  have hle := hpast x hx t false ht
  refine ⟨rfl, hk, ?_⟩
  rw [hretry]
  omega

/-- A step that leaves link and transfers alone. -/
lemma Paced.of_same {s t : State} (h : Paced s) (htr : t.transfers = s.transfers)
    (hlink : t.link = s.link) (hnow : s.now ≤ t.now)
    (hpc : t.pc = s.pc ∨ between s ∧ between t) : Paced t where
  spaced := htr ▸ h.spaced
  atLeast := hlink ▸ h.atLeast
  past x hx u ok hu := (h.past x (htr ▸ hx) u ok hu).trans hnow
  noted hb := by
    rw [htr, hlink]
    refine h.noted ?_
    rcases hpc with heq | hpc
    · rwa [between, heq] at hb
    · exact hpc.1
  underWay hp := by
    rw [htr, hlink]
    rcases hpc with heq | hpc
    · exact h.underWay (heq ▸ hp)
    · exact absurd hp hpc.2.1
  ended rc hp := by
    rw [htr, hlink]
    rcases hpc with heq | hpc
    · exact h.ended rc (heq ▸ hp)
    · exact absurd hp (hpc.2.2 rc)

/-- A transfer at the head that failed is counted. -/
lemma failures_of_head {transfers : List Transfer} :
    0 < failures transfers ↔ ∃ x ∈ transfers.head?, ∃ t, x.result = some (t, false) := by
  rcases transfers with _ | ⟨⟨startedAt, _ | ⟨t, _ | _⟩⟩, earlier⟩ <;> simp [failures]

lemma Holds.remembers {link : Link} {transfers : List Transfer} (h : Holds link transfers) :
    Remembers link transfers := by
  intro hpos
  obtain ⟨x, hx, t, ht⟩ := failures_of_head.mp hpos
  exact (h x hx t ht).2.1

/-- A failure of any kind never asks for less. -/
lemma Remembers.fail {link : Link} {transfers : List Transfer} (h : Remembers link transfers)
    (hmin : link.txBackoffMs = 0 ∨ kTxBackoffMinMs ≤ link.txBackoffMs) (uptime : ℤ) :
    backoff (failures transfers) ≤ (noteLink link false uptime).txBackoffMs := by
  have hsucc := noteLink_fail_backoff hmin h uptime
  rcases Nat.eq_zero_or_pos (failures transfers) with hk | hk
  · rw [hk] at hsucc ⊢
    exact hsucc
  · exact (backoff_le_succ hk).trans hsucc

/-- A heartbeat is noted: a failure only adds to the wait, a success ends it, and
there is none to end. -/
lemma Paced.noteBeat {s : State} (h : Paced s) {what : Source} {err : ℤ}
    (hpc : s.pc = .beatNote what err) (hquiet : err = 0 → ¬ failed s.transfers) :
    Paced (next s (.noteBeat what err)) where
  spaced := h.spaced
  atLeast := noteLink_atLeast h.atLeast _ _
  past := h.past
  noted _ := by
    have hb : between s := by simp [between, hpc]
    rcases eq_or_ne err 0 with rfl | herr
    · intro x hx t ht
      exact absurd (failures_of_head.mpr ⟨x, hx, t, ht⟩) (hquiet rfl)
    · simp only [next, beq_eq_false_iff_ne.mpr herr]
      exact Holds.fail ((h.noted hb).remembers.fail h.atLeast s.now) h.past
  underWay hp := by simp [next] at hp
  ended rc hp := by simp [next] at hp

/-- A transfer is noted. -/
lemma Paced.noteTelemetry {s : State} (h : Paced s) {rc : ℤ} (hpc : s.pc = .note rc) :
    Paced (next s (.noteTelemetry rc)) where
  spaced := h.spaced
  atLeast := noteLink_atLeast h.atLeast _ _
  past := h.past
  noted _ := by
    obtain ⟨x, earlier, t, htr, hres, hrem⟩ := h.ended rc hpc
    rcases eq_or_ne rc 0 with rfl | hrc
    · intro y hy u hu
      simp only [next, htr, List.head?_cons, Option.mem_some_iff] at hy
      rw [← hy, hres] at hu
      simp at hu
    · have hfail : failures s.transfers = failures earlier + 1 := by
        obtain ⟨startedAt, result⟩ := x
        obtain rfl : result = some (t, rc == 0) := hres
        rw [htr, beq_eq_false_iff_ne.mpr hrc, failures]
      have hk := noteLink_fail_backoff h.atLeast hrem s.now
      simp only [next, beq_eq_false_iff_ne.mpr hrc]
      exact Holds.fail (hfail ▸ hk) h.past
  underWay hp := by simp [next] at hp
  ended rc hp := by simp [next] at hp

/-- A reading is tried: not before the wait is over. -/
lemma Paced.tryLink {s : State} (h : Paced s) (hpc : s.pc = .gate) (transmittable : Bool) :
    Paced (next s (.tryLink transmittable)) := by
  have hb : between s := by simp [between, hpc]
  have hholds := h.noted hb
  rw [next]
  split_ifs with htry
  · refine ⟨⟨h.spaced, ?_⟩, h.atLeast, by simp, fun hn => absurd rfl hn.1,
      fun _ => ⟨_, _, rfl, hholds.remembers⟩, by simp⟩
    intro y hy t ht
    obtain ⟨hdown, -, hretry⟩ := hholds y hy t ht
    rw [hdown] at htry
    exact hretry.trans (by simpa using htry.2)
  · exact h.of_same rfl rfl le_rfl (.inr ⟨hb, by simp [between]⟩)

/-- A transfer ends. -/
lemma Paced.transferred {s : State} (h : Paced s) (hpc : s.pc = .transfer) (rc : ℤ) :
    Paced (next s (.transferred rc)) := by
  obtain ⟨x, earlier, htr, hrem⟩ := h.underWay hpc
  have hspaced := h.spaced
  rw [htr] at hspaced
  refine ⟨?_, h.atLeast, ?_, fun hn => absurd rfl (hn.2 rc), by simp [next], ?_⟩
  · simp only [next, htr, finish]
    exact hspaced
  · simp only [next, htr, finish, List.head?_cons, Option.mem_some_iff, forall_eq',
      Option.some.injEq, Prod.mk.injEq, and_imp]
    rintro t ok rfl -
    exact le_rfl
  · intro rc' hp
    obtain rfl : rc = rc' := by simpa [next] using hp
    exact ⟨{ x with result := some (s.now, rc == 0) }, earlier, s.now,
      by simp only [next, htr, finish], rfl, hrem⟩

/-- **One step**: the link state keeps its promise, as long as no heartbeat speaks
for the gateway. -/
theorem paced_inductive (t0 : ℤ) : ((machine t0).restrict quietBeats).Inductive Paced where
  init := by
    refine ⟨trivial, .inl rfl, ?_, ?_, ?_, ?_⟩ <;>
      simp [machine, Machine.restrict, boot, Holds]
  step s l h hl := by
    obtain ⟨hl, hquiet⟩ := hl
    cases l with
    | tick ms => exact h.of_same rfl rfl (by simp [machine, Machine.restrict, next]) (.inl rfl)
    | complete error => exact h.of_same rfl rfl le_rfl (.inl rfl)
    | noteBeat what err => exact h.noteBeat hl hquiet
    | noteTelemetry rc => exact h.noteTelemetry hl
    | tryLink transmittable => exact h.tryLink hl transmittable
    | transferred rc => exact h.transferred hl rc
    | _ =>
        -- `main` goes from one place between transfers to another
        have hpc := hl
        simp only [machine, enabled] at hpc
        refine h.of_same rfl rfl le_rfl (.inr ⟨by simp [between, hpc], ?_⟩)
        simp only [between, machine, Machine.restrict, next]
        try split_ifs
        all_goals simp

/-- **The backoff of telemetry**: in a run in which no heartbeat is noted as a
success while the last transfer of telemetry is a failure, each transfer waits for
as long as the failures in a row before it ask, whatever the heartbeats report
otherwise. -/
theorem telemetry_backoff (t0 : ℤ) (ls : List Label) (s : State)
    (h : ((machine t0).restrict quietBeats).Run ls s) : Spaced s.transfers :=
  (h.invariant (paced_inductive t0)).spaced

/-- A beat that finds the bus working, and is noted. -/
def beat : List Label :=
  [.look, .busState true, .canSend 0, .inc 0, .readError 0, .readInFlight 0,
    .noteBeat .heartbeat 0]

/-- A wait for a command that ends without one, a reading that is there, and a try
to send it. -/
def tryReading (untilBeat : ℤ) : List Label :=
  [.look, .received untilBeat (-14), .semTake 0, .chanRead 0, .tryLink true]

/-- The transfer finds no gateway, which takes it a second. -/
def noGateway : List Label := [.tick 1000, .transferred (-2), .noteTelemetry (-2)]

/-- A failed transfer, a beat slot skipped while the bus is off, and another try
four seconds on. -/
def retryRun : List Label :=
  beat ++ tryReading 1000 ++ noGateway ++
    [.look, .busState false, .noteBeat .bus (-eNetUnreach), .tick 500] ++
    [.look, .tick 3500, .received 500 (-14), .semTake 0, .chanRead 0, .tryLink true]

/-- The gateway's application is gone and its controller is not: the beat after a
failed transfer is acknowledged, and the next reading is tried at once. -/
def resetRun : List Label :=
  beat ++ tryReading 1000 ++ noGateway ++ [.complete 0] ++ beat ++ tryReading 1000

theorem retryRun_spaced : ∃ s, ((machine 0).restrict quietBeats).Run retryRun s ∧
    s.transfers.map (·.startedAt) = [5000, 0] ∧ Spaced s.transfers := by
  refine ⟨_, Machine.run_of_exec rfl, rfl, ?_⟩
  exact telemetry_backoff 0 retryRun _ (Machine.run_of_exec rfl)

/-- **A heartbeat resets the backoff**: the transfer that failed at 1000 ms is
followed by another at 1000 ms. -/
theorem heartbeat_resets_backoff : ∃ s, (machine 0).Run resetRun s ∧
    s.transfers = [⟨1000, none⟩, ⟨0, some (1000, false)⟩] ∧ ¬ Spaced s.transfers := by
  refine ⟨_, Machine.run_of_exec rfl, rfl, ?_⟩
  rintro ⟨-, hspaced⟩
  exact absurd (hspaced ⟨0, some (1000, false)⟩ rfl 1000 rfl) (by decide)

end Loop

end ClimateNode.Peer
