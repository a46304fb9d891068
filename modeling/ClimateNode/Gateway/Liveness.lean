import ClimateNode.Shared.CanLink
import Mathlib.Algebra.Order.Group.Int
import Mathlib.Data.List.Chain
import Mathlib.Data.List.Induction
import Mathlib.Data.Nat.Find
import Mathlib.Order.Monotone.Basic
import Mathlib.Tactic.Common

/-!
`liveness_step` of `gateway/src/relay.h`, and the loop of `rx_thread` that calls
it: how the gateway decides, from a heartbeat and a clock, that a peer is there.

* `liveness_spec`: the two words the machine keeps say no more than the list of
  calls does, read without any state (`stateOf`).
* `announced_alternate`: what is announced alternates, and is never
  `PEER_UNKNOWN`.
* `offline_announced_iff`: when `PEER_OFFLINE` is announced after a last beat.
* `BeatRun`: a peer on its beat and a receiver on its poll, with any losses;
  `staysOnline_iff` says which losses the timeout tolerates.
-/

namespace ClimateNode

/-- `enum peer_liveness`. -/
inductive PeerLiveness where
  | unknown | online | offline
  deriving DecidableEq, Repr

/-- `struct liveness`. -/
structure Liveness where
  state : PeerLiveness
  lastSeenMs : ℤ
  deriving DecidableEq, Repr

/-- `liveness_step`: the machine after the step, and whether the state changed. -/
def livenessStep (l : Liveness) (frameSeen : Bool) (nowMs timeoutMs : ℤ) : Liveness × Bool :=
  if frameSeen then
    if l.state ≠ .online then (⟨.online, nowMs⟩, true) else ({ l with lastSeenMs := nowMs }, false)
  else if nowMs - l.lastSeenMs ≥ timeoutMs ∧ l.state ≠ .offline then
    ({ l with state := .offline }, true)
  else (l, false)

/-- The arguments of one call. -/
structure LivenessCall where
  frameSeen : Bool
  nowMs : ℤ
  deriving DecidableEq, Repr

/-- One turn of the loop in `rx_thread`, as far as it concerns the machine:
publish the state whenever a step says it changed. -/
def livenessTurn (timeoutMs : ℤ) (s : Liveness × List PeerLiveness) (c : LivenessCall) :
    Liveness × List PeerLiveness :=
  let step := livenessStep s.1 c.frameSeen c.nowMs timeoutMs
  (step.1, if step.2 then s.2 ++ [step.1.state] else s.2)

/-- The loop, from `{PEER_UNKNOWN, t0}`. -/
def livenessLoop (t0 timeoutMs : ℤ) (calls : List LivenessCall) : Liveness × List PeerLiveness :=
  calls.foldl (livenessTurn timeoutMs) (⟨.unknown, t0⟩, [])

/-- The machine after a list of calls. -/
def livenessAfter (t0 timeoutMs : ℤ) (calls : List LivenessCall) : Liveness :=
  (livenessLoop t0 timeoutMs calls).1

/-- The states published over a list of calls, oldest first. -/
def announced (t0 timeoutMs : ℤ) (calls : List LivenessCall) : List PeerLiveness :=
  (livenessLoop t0 timeoutMs calls).2

/-- What the call `c` returns after the calls in `pre`. -/
def reports (t0 timeoutMs : ℤ) (pre : List LivenessCall) (c : LivenessCall) : Bool :=
  (livenessStep (livenessAfter t0 timeoutMs pre) c.frameSeen c.nowMs timeoutMs).2

/-! ### The machine without its state -/

/-- The time of the latest call that saw a frame, `t0` before the first. -/
def lastBeat (t0 : ℤ) (calls : List LivenessCall) : ℤ :=
  ((calls.filter (·.frameSeen)).getLast?.map (·.nowMs)).getD t0

/-- What the gateway ought to believe, from the calls alone. -/
def stateOf (t0 timeoutMs : ℤ) (calls : List LivenessCall) : PeerLiveness :=
  match calls.getLast? with
  | none => .unknown
  | some c =>
      if c.nowMs - lastBeat t0 calls ≥ timeoutMs then .offline
      else if calls.any (·.frameSeen) then .online
      else .unknown

section Spec

variable (t0 timeoutMs : ℤ)

lemma livenessLoop_concat (pre : List LivenessCall) (c : LivenessCall) :
    livenessLoop t0 timeoutMs (pre ++ [c]) =
      livenessTurn timeoutMs (livenessLoop t0 timeoutMs pre) c := by
  simp [livenessLoop]

lemma livenessAfter_concat (pre : List LivenessCall) (c : LivenessCall) :
    livenessAfter t0 timeoutMs (pre ++ [c]) =
      (livenessStep (livenessAfter t0 timeoutMs pre) c.frameSeen c.nowMs timeoutMs).1 := by
  rw [livenessAfter, livenessLoop_concat]
  rfl

lemma announced_concat (pre : List LivenessCall) (c : LivenessCall) :
    announced t0 timeoutMs (pre ++ [c]) = announced t0 timeoutMs pre ++
      if reports t0 timeoutMs pre c then [(livenessAfter t0 timeoutMs (pre ++ [c])).state]
      else [] := by
  rw [livenessAfter_concat, announced, livenessLoop_concat, livenessTurn, reports, announced,
    livenessAfter]
  split_ifs <;> simp

lemma lastBeat_concat (pre : List LivenessCall) (c : LivenessCall) :
    lastBeat t0 (pre ++ [c]) = if c.frameSeen then c.nowMs else lastBeat t0 pre := by
  by_cases h : c.frameSeen = true <;> simp [lastBeat, h]

/-- Calls that saw nothing do not move the last beat. -/
lemma lastBeat_append_silent (pre : List LivenessCall) {b : List LivenessCall}
    (h : ∀ c ∈ b, c.frameSeen = false) : lastBeat t0 (pre ++ b) = lastBeat t0 pre := by
  have hb : b.filter (·.frameSeen) = [] := List.filter_eq_nil_iff.mpr fun c hc => by simp [h c hc]
  rw [lastBeat, List.filter_append, hb, List.append_nil, lastBeat]

lemma stateOf_concat (pre : List LivenessCall) (c : LivenessCall) :
    stateOf t0 timeoutMs (pre ++ [c]) =
      if c.nowMs - lastBeat t0 (pre ++ [c]) ≥ timeoutMs then .offline
      else if (pre ++ [c]).any (·.frameSeen) then .online
      else .unknown := by
  rw [stateOf, List.getLast?_concat]

/-- A step reports exactly when it changed the state. -/
lemma livenessStep_reports_iff (l : Liveness) (frameSeen : Bool) (nowMs : ℤ) :
    (livenessStep l frameSeen nowMs timeoutMs).2 = true ↔
      (livenessStep l frameSeen nowMs timeoutMs).1.state ≠ l.state := by
  rw [livenessStep]
  split_ifs with hf hs hs
  · simpa using fun h : PeerLiveness.online = l.state => hs h.symm
  · simp
  · simpa using fun h : PeerLiveness.offline = l.state => hs.2 h.symm
  · simp

/-- No step reports, or leads back to, `PEER_UNKNOWN`. -/
lemma livenessStep_known (l : Liveness) (frameSeen : Bool) (nowMs : ℤ)
    (h : l.state ≠ .unknown ∨ (livenessStep l frameSeen nowMs timeoutMs).2 = true) :
    (livenessStep l frameSeen nowMs timeoutMs).1.state ≠ .unknown := by
  rw [livenessStep] at h ⊢
  split_ifs at h ⊢ <;> simp_all

lemma reports_iff (pre : List LivenessCall) (c : LivenessCall) :
    reports t0 timeoutMs pre c = true ↔
      (livenessAfter t0 timeoutMs (pre ++ [c])).state ≠
        (livenessAfter t0 timeoutMs pre).state := by
  rw [reports, livenessStep_reports_iff, livenessAfter_concat]

lemma lastSeenMs_eq_lastBeat (calls : List LivenessCall) :
    (livenessAfter t0 timeoutMs calls).lastSeenMs = lastBeat t0 calls := by
  induction calls using List.reverseRecOn with
  | nil => rfl
  | append_singleton pre c ih =>
      rw [livenessAfter_concat, lastBeat_concat, livenessStep]
      split_ifs <;> simp_all

variable {t0 timeoutMs}

/-- The clock never runs backwards over the calls. -/
abbrev Clocked (calls : List LivenessCall) : Prop := (calls.map (·.nowMs)).Pairwise (· ≤ ·)

lemma Clocked.restrict {pre calls : List LivenessCall} (h : Clocked calls) (hp : pre <+: calls) :
    Clocked pre :=
  h.sublist (hp.sublist.map _)

/-- The calls before a call carry earlier clocks. -/
lemma Clocked.le {pre : List LivenessCall} {c d : LivenessCall} (h : Clocked (pre ++ [c]))
    (hd : d ∈ pre) : d.nowMs ≤ c.nowMs := by
  rw [Clocked, List.map_append] at h
  exact (List.pairwise_append.mp h).2.2 _ (List.mem_map_of_mem hd) _ (by simp)

/-- **The machine forgets nothing**: state and timestamp say what the list of
calls says. -/
lemma livenessAfter_state (hpos : 0 < timeoutMs) (calls : List LivenessCall)
    (hclock : Clocked calls) :
    (livenessAfter t0 timeoutMs calls).state = stateOf t0 timeoutMs calls := by
  induction calls using List.reverseRecOn with
  | nil => rfl
  | append_singleton pre c ih =>
      have ihpre := ih (hclock.restrict (List.prefix_append _ _))
      rw [stateOf_concat, lastBeat_concat, livenessAfter_concat, livenessStep,
        lastSeenMs_eq_lastBeat]
      by_cases hseen : c.frameSeen = true
      · have hnow : ¬ c.nowMs - c.nowMs ≥ timeoutMs := by omega
        simp only [hseen, if_true, if_neg hnow]
        split_ifs <;> simp_all
      · have hsil : c.frameSeen = false := by simpa using hseen
        simp only [hsil, Bool.false_eq_true, if_false]
        by_cases hlate : c.nowMs - lastBeat t0 pre ≥ timeoutMs
        · simp only [hlate, true_and, if_true]
          split_ifs with hoff <;> simp_all
        · -- an older clock cannot have been late either
          rw [if_neg (by tauto), if_neg hlate, ihpre]
          cases pre using List.reverseRecOn with
          | nil => simp [stateOf, hsil]
          | append_singleton qs d =>
              have hd := hclock.le (show d ∈ qs ++ [d] from List.mem_concat_self)
              rw [stateOf_concat, if_neg (by omega)]
              simp [hsil]

/-! ### What is announced -/

lemma livenessAfter_known {pre : List LivenessCall} (post : List LivenessCall)
    (h : (livenessAfter t0 timeoutMs pre).state ≠ .unknown) :
    (livenessAfter t0 timeoutMs (pre ++ post)).state ≠ .unknown := by
  induction post using List.reverseRecOn with
  | nil => simpa using h
  | append_singleton post c ih =>
      rw [← List.append_assoc, livenessAfter_concat]
      exact livenessStep_known _ _ _ _ (.inl ih)

lemma announced_known (calls : List LivenessCall) :
    ∀ st ∈ announced t0 timeoutMs calls, st = .online ∨ st = .offline := by
  induction calls using List.reverseRecOn with
  | nil => simp [announced, livenessLoop]
  | append_singleton pre c ih =>
      rw [announced_concat]
      intro st hst
      rcases List.mem_append.mp hst with hst | hst
      · exact ih st hst
      · split_ifs at hst with hrep
        · obtain rfl := List.mem_singleton.mp hst
          rw [livenessAfter_concat]
          have hknown := livenessStep_known timeoutMs (livenessAfter t0 timeoutMs pre)
            c.frameSeen c.nowMs (.inr hrep)
          revert hknown
          cases (livenessStep (livenessAfter t0 timeoutMs pre) c.frameSeen c.nowMs
            timeoutMs).1.state <;> simp
        · simp at hst

/-- What was announced last is the state, once anything was. -/
lemma announced_getLast? (calls : List LivenessCall) :
    ∀ st ∈ (announced t0 timeoutMs calls).getLast?,
      st = (livenessAfter t0 timeoutMs calls).state := by
  induction calls using List.reverseRecOn with
  | nil => simp [announced, livenessLoop]
  | append_singleton pre c ih =>
      rw [announced_concat]
      split_ifs with hrep
      · intro st hst
        rw [List.getLast?_concat] at hst
        exact (Option.mem_some_iff.mp hst).symm
      · intro st hst
        rw [reports_iff, not_not] at hrep
        rw [List.append_nil] at hst
        rw [hrep]
        exact ih st hst

/-- Two announcements in a row differ. -/
lemma announced_alternate (calls : List LivenessCall) :
    (announced t0 timeoutMs calls).IsChain (· ≠ ·) := by
  induction calls using List.reverseRecOn with
  | nil => simp [announced, livenessLoop]
  | append_singleton pre c ih =>
      rw [announced_concat]
      split_ifs with hrep
      · refine List.isChain_append.mpr ⟨ih, List.isChain_singleton _, fun st hst st' hst' => ?_⟩
        rw [announced_getLast? pre st hst, ← Option.mem_some_iff.mp hst']
        exact ((reports_iff t0 timeoutMs pre c).mp hrep).symm
      · simpa using ih

/-- After a last beat, or the start, and during the silence that follows it,
`PEER_OFFLINE` is announced at the first call the timeout has passed at. -/
lemma offline_announced_iff (hpos : 0 < timeoutMs) {a b : List LivenessCall} {x : LivenessCall}
    (hclock : Clocked (a ++ b ++ [x]))
    (ha : ∀ c ∈ a.getLast?, c.frameSeen = true) (hb : ∀ c ∈ b ++ [x], c.frameSeen = false) :
    (reports t0 timeoutMs (a ++ b) x = true ∧
        (livenessAfter t0 timeoutMs (a ++ b ++ [x])).state = .offline) ↔
      lastBeat t0 a + timeoutMs ≤ x.nowMs ∧
        ∀ c ∈ b, c.nowMs < lastBeat t0 a + timeoutMs := by
  have hb' : ∀ c ∈ b, c.frameSeen = false := fun c hc => hb c (by simp [hc])
  have hx : lastBeat t0 (a ++ b ++ [x]) = lastBeat t0 a := by
    rw [List.append_assoc, lastBeat_append_silent t0 a hb]
  -- before the call: not offline as long as no silent call was late
  have hpre : (livenessAfter t0 timeoutMs (a ++ b)).state ≠ .offline ↔
      ∀ c ∈ b, c.nowMs < lastBeat t0 a + timeoutMs := by
    rw [livenessAfter_state hpos _ (hclock.restrict (List.prefix_append _ _))]
    cases b using List.reverseRecOn with
    | nil =>
        cases a using List.reverseRecOn with
        | nil => simp [stateOf]
        | append_singleton as d =>
            have hd : d.frameSeen = true := ha d (by simp)
            have hnow : ¬ d.nowMs - d.nowMs ≥ timeoutMs := by omega
            rw [List.append_nil, stateOf_concat, lastBeat_concat, if_pos hd, if_neg hnow]
            simp [hd]
    | append_singleton bs d =>
        have hd : Clocked (bs ++ [d]) :=
          (hclock.restrict (List.prefix_append _ _)).sublist
            ((List.sublist_append_right a _).map _)
        have hlast : lastBeat t0 (a ++ bs ++ [d]) = lastBeat t0 a := by
          rw [List.append_assoc, lastBeat_append_silent t0 a hb']
        rw [← List.append_assoc, stateOf_concat, hlast]
        constructor
        · intro hoff c hc
          have hnow : ¬ d.nowMs - lastBeat t0 a ≥ timeoutMs := fun hlate => hoff (if_pos hlate)
          rcases List.mem_append.mp hc with hc | hc
          · have := hd.le hc
            omega
          · rw [List.mem_singleton.mp hc]
            omega
        · intro hall
          have := hall d (by simp)
          rw [if_neg (by omega)]
          split_ifs <;> simp
  -- after it: offline if it is late
  have hpost : (livenessAfter t0 timeoutMs (a ++ b ++ [x])).state = .offline ↔
      lastBeat t0 a + timeoutMs ≤ x.nowMs := by
    rw [livenessAfter_state hpos _ hclock, stateOf_concat, hx]
    split_ifs <;> simp <;> omega
  rw [reports_iff, ← hpre, ← hpost]
  constructor
  · rintro ⟨hne, hoff⟩
    exact ⟨hoff, by rw [← hoff]; exact hne.symm⟩
  · rintro ⟨hoff, hne⟩
    exact ⟨by rw [hoff]; exact hne.symm, hoff⟩

end Spec

/-- **The liveness machine against its history**: after every step the state is
what the calls so far say; a step reports exactly the changes; what is announced
alternates between online and offline, `PEER_UNKNOWN` is neither announced nor
entered again; and `PEER_OFFLINE` is announced at the first call at or after the
last beat plus the timeout. -/
theorem liveness_spec (t0 timeoutMs : ℤ) (calls : List LivenessCall) (hpos : 0 < timeoutMs)
    (hclock : Clocked calls) :
    (∀ pre c, pre ++ [c] <+: calls →
      (livenessAfter t0 timeoutMs (pre ++ [c])).state = stateOf t0 timeoutMs (pre ++ [c]) ∧
      (reports t0 timeoutMs pre c = true ↔
        stateOf t0 timeoutMs (pre ++ [c]) ≠ stateOf t0 timeoutMs pre)) ∧
    (∀ st ∈ announced t0 timeoutMs calls, st = .online ∨ st = .offline) ∧
    (announced t0 timeoutMs calls).IsChain (· ≠ ·) ∧
    (∀ pre post, pre ++ post <+: calls → (livenessAfter t0 timeoutMs pre).state ≠ .unknown →
      (livenessAfter t0 timeoutMs (pre ++ post)).state ≠ .unknown) ∧
    (∀ a b x, a ++ b ++ [x] <+: calls → (∀ c ∈ a.getLast?, c.frameSeen = true) →
      (∀ c ∈ b ++ [x], c.frameSeen = false) →
      ((reports t0 timeoutMs (a ++ b) x = true ∧
          (livenessAfter t0 timeoutMs (a ++ b ++ [x])).state = .offline) ↔
        lastBeat t0 a + timeoutMs ≤ x.nowMs ∧
          ∀ c ∈ b, c.nowMs < lastBeat t0 a + timeoutMs)) := by
  refine ⟨?_, announced_known calls, announced_alternate calls,
    fun pre post _ => livenessAfter_known post,
    fun a b x hp => offline_announced_iff hpos (hclock.restrict hp)⟩
  intro pre c hp
  have hc := hclock.restrict hp
  have hstate : (livenessAfter t0 _ _).state = _ := livenessAfter_state hpos _ hc
  have hbefore : (livenessAfter t0 _ _).state = _ :=
    livenessAfter_state hpos _ (hc.restrict (List.prefix_append _ _))
  exact ⟨hstate, by rw [reports_iff, hstate, hbefore]⟩

/-- One beat and then silence up to the timeout. -/
theorem liveness_spec_one_beat :
    announced 0 3500 [⟨true, 1000⟩, ⟨false, 2000⟩, ⟨false, 4500⟩] = [.online, .offline] ∧
      (livenessAfter 0 3500 [⟨true, 1000⟩, ⟨false, 2000⟩, ⟨false, 4500⟩]).state =
        stateOf 0 3500 [⟨true, 1000⟩, ⟨false, 2000⟩, ⟨false, 4500⟩] := by
  have h := liveness_spec 0 3500 [⟨true, 1000⟩, ⟨false, 2000⟩, ⟨false, 4500⟩] (by decide)
    (by decide)
  exact ⟨by decide, (h.1 [_, _] _ List.prefix_rfl).1⟩

/-! ### Beats on a grid -/

/-- `kRecvPollMs`: how long the loop blocks before it looks at the clock. -/
def kRecvPollMs : ℤ := 250

/-- A peer that beats once in `kHeartbeatPeriodMs` and a loop that steps at least
once in `kRecvPollMs`, from the time it starts to listen.  A beat is lost or
arrives at once, and a step sees a frame when a beat arrived since the step
before it. -/
structure BeatRun where
  t0 : ℤ
  firstBeat : ℤ
  lost : ℕ → Bool
  step : ℕ → ℤ
  seen : ℕ → Bool
  listening : t0 ≤ firstBeat
  start : t0 ≤ step 0 ∧ step 0 ≤ t0 + kRecvPollMs
  clock : ∀ n, step n ≤ step (n + 1)
  poll : ∀ n, step (n + 1) ≤ step n + kRecvPollMs
  unbounded : ∀ t, ∃ n, t ≤ step n
  seen_iff : ∀ n, seen n = true ↔ ∃ k : ℕ, lost k = false ∧
    firstBeat + kHeartbeatPeriodMs * k ≤ step n ∧
    ∀ m < n, step m < firstBeat + kHeartbeatPeriodMs * k

namespace BeatRun

variable (r : BeatRun)

/-- When the beat `k` is sent, and arrives unless it is lost. -/
def arrival (k : ℕ) : ℤ := r.firstBeat + kHeartbeatPeriodMs * k

/-- The first `n` calls of `liveness_step`. -/
def calls (n : ℕ) : List LivenessCall := (List.range n).map fun i => ⟨r.seen i, r.step i⟩

/-- The machine after the step `n`. -/
def after (n : ℕ) : Liveness := livenessAfter r.t0 kHeartbeatTimeoutMs (r.calls (n + 1))

/-- From the first delivered beat on, the state is `PEER_ONLINE` and no step
reports `PEER_OFFLINE`. -/
def staysOnline : Prop :=
  ∀ m n, r.seen m = true → m ≤ n → (r.after n).state = .online ∧
    ¬ (reports r.t0 kHeartbeatTimeoutMs (r.calls n) ⟨r.seen n, r.step n⟩ = true ∧
      (r.after n).state = .offline)

/-- From the first delivered beat on, no three beats in a row are lost. -/
def neverThreeLost : Prop :=
  ∀ d k, r.lost d = false → d ≤ k →
    ¬ (r.lost k = true ∧ r.lost (k + 1) = true ∧ r.lost (k + 2) = true)

lemma calls_succ (n : ℕ) : r.calls (n + 1) = r.calls n ++ [⟨r.seen n, r.step n⟩] := by
  simp [calls, List.range_succ]

lemma step_mono {m n : ℕ} (h : m ≤ n) : r.step m ≤ r.step n :=
  monotone_nat_of_le_succ r.clock h

lemma clocked (n : ℕ) : Clocked (r.calls n) := by
  rw [Clocked, calls, List.map_map, List.pairwise_map]
  exact List.pairwise_lt_range.imp fun h => r.step_mono h.le

/-- There is a first step at or after any time. -/
lemma exists_first_step (t : ℤ) : ∃ n, t ≤ r.step n ∧ ∀ m < n, r.step m < t := by
  refine ⟨Nat.find (r.unbounded t), Nat.find_spec (r.unbounded t), fun m hm => ?_⟩
  exact not_le.mp (Nat.find_min (r.unbounded t) hm)

/-- The first step at or after a time is at most one poll late. -/
lemma first_step_le {t : ℤ} (ht : r.t0 ≤ t) {n : ℕ} (hn : ∀ m < n, r.step m < t) :
    r.step n ≤ t + kRecvPollMs := by
  cases n with
  | zero => exact r.start.2.trans (by omega)
  | succ m =>
      calc r.step (m + 1) ≤ r.step m + kRecvPollMs := r.poll m
        _ ≤ t + kRecvPollMs := by
          have := hn m (by omega)
          omega

lemma listening_arrival (k : ℕ) : r.t0 ≤ r.arrival k := by
  have h := r.listening
  simp only [arrival, kHeartbeatPeriodMs]
  omega

/-- A delivered beat is seen by the first step at or after it. -/
lemma exists_seen {k : ℕ} (hk : r.lost k = false) :
    ∃ n, r.seen n = true ∧ r.arrival k ≤ r.step n ∧ (∀ m < n, r.step m < r.arrival k) := by
  obtain ⟨n, hle, hlt⟩ := r.exists_first_step (r.arrival k)
  exact ⟨n, (r.seen_iff n).mpr ⟨k, hk, hle, hlt⟩, hle, hlt⟩

/-- The last beat recorded is no older than any step that saw one. -/
lemma step_le_lastBeat {m n : ℕ} (hm : r.seen m = true) (hmn : m < n) :
    r.step m ≤ lastBeat r.t0 (r.calls n) := by
  induction n with
  | zero => omega
  | succ n ih =>
      rw [calls_succ, lastBeat_concat]
      rcases Nat.lt_succ_iff_lt_or_eq.mp hmn with hlt | rfl
      · split_ifs
        · exact r.step_mono hlt.le
        · exact ih hlt
      · rw [if_pos hm]

/-- Once a step saw a beat, the last beat recorded is the time of such a step. -/
lemma exists_lastBeat_eq {m n : ℕ} (hm : r.seen m = true) (hmn : m < n) :
    ∃ j < n, r.seen j = true ∧ lastBeat r.t0 (r.calls n) = r.step j := by
  induction n with
  | zero => omega
  | succ n ih =>
      rw [calls_succ, lastBeat_concat]
      by_cases hn : r.seen n = true
      · exact ⟨n, by omega, hn, by simp [hn]⟩
      · have hlt : m < n := by
          rcases Nat.lt_succ_iff_lt_or_eq.mp hmn with hlt | rfl
          · exact hlt
          · exact absurd hm hn
        obtain ⟨j, hj, hseen, heq⟩ := ih hlt
        exact ⟨j, by omega, hseen, by simpa [hn] using heq⟩

/-- Once a step saw a beat, the state turns on the last beat alone. -/
lemma after_state {m n : ℕ} (hm : r.seen m = true) (hmn : m ≤ n) :
    (r.after n).state =
      if r.step n - lastBeat r.t0 (r.calls (n + 1)) ≥ kHeartbeatTimeoutMs then .offline
      else .online := by
  have hany : (r.calls (n + 1)).any (·.frameSeen) = true := by
    refine List.any_eq_true.mpr ⟨⟨r.seen m, r.step m⟩, ?_, hm⟩
    exact List.mem_map.mpr ⟨m, List.mem_range.mpr (by omega), rfl⟩
  rw [after, livenessAfter_state (by decide) _ (r.clocked _), stateOf]
  rw [calls_succ] at hany ⊢
  rw [List.getLast?_concat]
  simp only [hany, if_true]

/-- The last beat delivered up to `k`. -/
lemma exists_last_delivered {d k : ℕ} (hd : r.lost d = false) (hdk : d ≤ k) :
    ∃ e, d ≤ e ∧ e ≤ k ∧ r.lost e = false ∧ ∀ j, e < j → j ≤ k → r.lost j = true := by
  have hspec := @Nat.findGreatest_spec d (fun j => r.lost j = false) _ k hdk hd
  refine ⟨Nat.findGreatest (fun j => r.lost j = false) k, Nat.le_findGreatest hdk hd,
    Nat.findGreatest_le k, hspec, fun j hj hjk => ?_⟩
  simpa using Nat.findGreatest_is_greatest hj hjk

/-- At most two beats in a row lost: some delivered beat is always less than
three periods old, and the step that saw it is younger still. -/
lemma staysOnline_of_neverThreeLost (h : r.neverThreeLost) : r.staysOnline := by
  intro m n hm hmn
  suffices hon : (r.after n).state = .online from ⟨hon, fun hoff => by simp [hon] at hoff⟩
  obtain ⟨k, hk, hkm, -⟩ := (r.seen_iff m).mp hm
  have hkn := hkm.trans (r.step_mono hmn)
  -- the last beat due by now, and the last one delivered by now
  obtain ⟨K, hK⟩ : ∃ K : ℕ, (K : ℤ) = (r.step n - r.firstBeat) / 1000 :=
    ⟨((r.step n - r.firstBeat) / 1000).toNat, by
      simp only [kHeartbeatPeriodMs] at hkn; omega⟩
  have hkK : k ≤ K := by simp only [kHeartbeatPeriodMs] at hkn; omega
  obtain ⟨d, -, hdK, hd, hlost⟩ := r.exists_last_delivered hk hkK
  have hKd : K ≤ d + 2 := by
    by_contra hlt
    exact h d (d + 1) hd (by omega) ⟨hlost _ (by omega) (by omega), hlost _ (by omega) (by omega),
      hlost _ (by omega) (by omega)⟩
  obtain ⟨j, hj, hdj, hfirst⟩ := r.exists_seen hd
  have hdn : r.arrival d ≤ r.step n := by
    simp only [arrival, kHeartbeatPeriodMs]; omega
  have hjn : j ≤ n := by
    by_contra hlt
    have := hfirst n (by omega)
    omega
  have hlast : r.step j ≤ lastBeat r.t0 (r.calls (n + 1)) := r.step_le_lastBeat hj (by omega)
  rw [r.after_state hm hmn, if_neg]
  simp only [arrival, kHeartbeatPeriodMs, kHeartbeatTimeoutMs] at *
  omega

/-- Three beats in a row lost: the step that lies 3.75 s after the last beat
delivered finds the timeout elapsed, however the steps fall. -/
lemma neverThreeLost_of_staysOnline (h : r.staysOnline) : r.neverThreeLost := by
  rintro d₀ k hd₀ hk ⟨hk₀, hk₁, hk₂⟩
  obtain ⟨d, -, hdk, hd, hlost⟩ := r.exists_last_delivered hd₀ hk
  obtain ⟨m, hm, hdm, hfirst⟩ := r.exists_seen hd
  have hnear := r.first_step_le (r.listening_arrival d) hfirst
  obtain ⟨n, hn, hbefore⟩ := r.exists_first_step (r.arrival d + 3750)
  have hlate := r.first_step_le (by have := r.listening_arrival d; omega) hbefore
  have hmn : m ≤ n := by
    by_contra hlt
    have := r.step_mono (not_le.mp hlt).le
    simp only [kRecvPollMs] at hnear
    omega
  -- whatever was seen by then was the beat `d` or an older one
  obtain ⟨j, hjn, hj, hlast⟩ := r.exists_lastBeat_eq hm (Nat.lt_add_one_of_le hmn)
  obtain ⟨e, he, hej, hfirst'⟩ := (r.seen_iff j).mp hj
  have hjn' := r.step_mono (Nat.le_of_lt_succ hjn)
  have hed : e ≤ d := by
    by_contra hlt
    have hdek : k + 2 < e := by
      by_contra hle
      have hle' : e ≤ k + 2 := not_lt.mp hle
      rcases Nat.lt_or_ge k e with hke | hke
      · rcases Nat.eq_or_lt_of_le hke with rfl | hke
        · simp [hk₁] at he
        · obtain rfl : e = k + 2 := by omega
          simp [hk₂] at he
      · simp [hlost e (by omega) hke] at he
    have hdk' : d < k := lt_of_le_of_ne hdk fun heq => by simp [← heq, hd] at hk₀
    have : n ≠ 0 := by
      rintro rfl
      have := r.start.2
      have := r.listening_arrival d
      simp only [kRecvPollMs] at *
      omega
    have hprev := hbefore (n - 1) (by omega)
    have hpoll := r.poll (n - 1)
    rw [show n - 1 + 1 = n by omega] at hpoll
    simp only [arrival, kHeartbeatPeriodMs, kRecvPollMs] at *
    omega
  have hold := r.first_step_le (r.listening_arrival e) hfirst'
  have hon := (h m n hm hmn).1
  rw [r.after_state hm hmn, hlast, if_pos] at hon
  · simp at hon
  · simp only [arrival, kHeartbeatPeriodMs, kHeartbeatTimeoutMs, kRecvPollMs] at *
    omega

/-- **What the timeout tolerates**: the peer is online from its first delivered
beat on exactly when it never loses three beats in a row, whatever the phase of
the steps. -/
theorem staysOnline_iff : r.staysOnline ↔ r.neverThreeLost :=
  ⟨r.neverThreeLost_of_staysOnline, r.staysOnline_of_neverThreeLost⟩

/-- The beats of 1, 2 and 3 s lost, a step every 250 ms on the same grid. -/
def threeLost : BeatRun where
  t0 := 0
  firstBeat := 0
  lost k := 1 ≤ k && k ≤ 3
  step n := 250 * n
  seen n := n % 4 == 0 && !(1 ≤ n / 4 && n / 4 ≤ 3)
  listening := le_rfl
  start := by decide
  clock n := by omega
  poll n := by simp only [kRecvPollMs]; omega
  unbounded t := ⟨t.toNat, by omega⟩
  seen_iff n := by
    simp only [kHeartbeatPeriodMs]
    constructor
    · intro h
      simp only [Bool.and_eq_true, beq_iff_eq, Bool.not_eq_true'] at h
      exact ⟨n / 4, h.2, by omega, fun m hm => by omega⟩
    · rintro ⟨k, hk, hle, hlt⟩
      have hn : n = 4 * k := by
        rcases Nat.eq_zero_or_pos n with rfl | hpos
        · omega
        · have := hlt (n - 1) (by omega)
          omega
      have hdiv : 4 * k / 4 = k := by omega
      simp only [hn, hdiv, hk, Nat.mul_mod_right, beq_self_eq_true, Bool.not_false, Bool.and_self]

/-- Three lost beats and no more, and the peer is declared offline. -/
theorem three_lost_beats_offline :
    (∀ k, ¬ (threeLost.lost k = true ∧ threeLost.lost (k + 1) = true ∧
      threeLost.lost (k + 2) = true ∧ threeLost.lost (k + 3) = true)) ∧
    ¬ threeLost.staysOnline := by
  constructor
  · intro k hk
    simp only [threeLost, Bool.and_eq_true, decide_eq_true_eq] at hk
    omega
  · intro h
    exact absurd (h 0 14 (by decide) (by decide)).1 (by decide +kernel)

end BeatRun

end ClimateNode
