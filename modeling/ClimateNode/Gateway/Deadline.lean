import ClimateNode.Gateway.Timers

/-!
`next_deadline_ms` of `gateway/src/main.cpp`, and what `main` makes of it: the time
it hands to `zsock_poll` is reckoned from the clock at the top of the pass, while
`session_connect` may have blocked since.

* `nextDeadlineMs`: the nearest deadline over the sessions, as the source folds it.
* `KeepsDeadlines`: a poll does not sleep past a deadline.
* `keepsDeadlines_iff`: **when it does not**, over every run.
* `blockedConnect_oversleeps`: and a connect that blocks makes it.
-/

namespace ClimateNode.Gateway

open Automata

/-! ### `next_deadline_ms` -/

/-- The time left to the deadline of a session, if it has one; `left` is what
`mqtt_keepalive_time_left` answers. -/
def Session.due (s : Session) (left now : ℤ) : Option ℤ :=
  match s.state with
  | .idle => some (s.retryAt - now)
  | .connecting => some (s.connackDue - now)
  | .serving => if left < 0 then none else some left

/-- One round of the loop of `next_deadline_ms`. -/
def nearer (best : ℤ) : Option ℤ → ℤ
  | none => best
  | some due =>
      let due := if due < 0 then 0 else due
      if best < 0 ∨ due < best then due else best

/-- `best`, after the loop. -/
def bestDeadline (ss : Sessions) (left : SessionId → ℤ) (now : ℤ) : ℤ :=
  [SessionId.own, .peer].foldl (fun best i => nearer best ((ss i).due (left i) now)) (-1)

/-- `static_cast<int>` of an `int64_t`. -/
def castInt (x : ℤ) : ℤ := x.bmod (2 ^ 32)

/-- `next_deadline_ms`. -/
def nextDeadlineMs (ss : Sessions) (left : SessionId → ℤ) (now : ℤ) : ℤ :=
  castInt (bestDeadline ss left now)

lemma nearer_some (best d : ℤ) :
    nearer best (some d) = if best < 0 ∨ max 0 d < best then max 0 d else best := by
  have hclamp : (if d < 0 then 0 else d) = max 0 d := by
    split_ifs <;> omega
  rw [nearer, hclamp]

/-- The loop finds the nearest of the deadlines, or none. -/
lemma foldl_nearer {ι : Type*} (due : ι → Option ℤ) (is : List ι) :
    is.foldl (fun best i => nearer best (due i)) (-1) = -1 ∧ (∀ i ∈ is, due i = none) ∨
      (∃ i ∈ is, ∃ d ∈ due i, is.foldl (fun best i => nearer best (due i)) (-1) = max 0 d) ∧
        ∀ i ∈ is, ∀ d ∈ due i, is.foldl (fun best i => nearer best (due i)) (-1) ≤ max 0 d := by
  induction is using List.reverseRecOn with
  | nil => exact .inl ⟨rfl, by simp⟩
  | append_singleton is i ih =>
      rw [List.foldl_append, List.foldl_cons, List.foldl_nil]
      generalize is.foldl (fun best i => nearer best (due i)) (-1) = best at ih ⊢
      cases hdue : due i with
      | none =>
          rcases ih with ⟨hbest, hnone⟩ | ⟨⟨j, hj, d, hd, hbest⟩, hle⟩
          · refine .inl ⟨hbest, fun j hj => ?_⟩
            rcases List.mem_append.mp hj with hj | hj
            · exact hnone j hj
            · rw [List.mem_singleton.mp hj, hdue]
          · refine .inr ⟨⟨j, List.mem_append_left _ hj, d, hd, hbest⟩, fun k hk e he => ?_⟩
            rcases List.mem_append.mp hk with hk | hk
            · exact hle k hk e he
            · rw [List.mem_singleton.mp hk, hdue] at he
              cases he
      | some d =>
          have hi : i ∈ is ++ [i] := List.mem_append_right _ (List.mem_singleton_self i)
          rw [nearer_some]
          refine .inr ?_
          rcases ih with ⟨rfl, hnone⟩ | ⟨⟨j, hj, e, he, hbest⟩, hle⟩
          · refine ⟨⟨i, hi, d, hdue, if_pos (.inl (by decide))⟩, fun k hk e he => ?_⟩
            rw [if_pos (.inl (by decide))]
            rcases List.mem_append.mp hk with hk | hk
            · rw [hnone k hk] at he
              cases he
            · rw [List.mem_singleton.mp hk, hdue] at he
              rw [Option.some.inj he]
          · refine ⟨?_, fun k hk e' he' => ?_⟩
            · split_ifs with hnear
              · exact ⟨i, hi, d, hdue, rfl⟩
              · exact ⟨j, List.mem_append_left _ hj, e, he, hbest⟩
            · rcases List.mem_append.mp hk with hk | hk
              · have := hle k hk e' he'
                split_ifs <;> omega
              · rw [List.mem_singleton.mp hk, hdue] at he'
                obtain rfl := Option.some.inj he'
                split_ifs <;> omega

section Spec

variable (ss : Sessions) (left : SessionId → ℤ) (now : ℤ)

/-- **What the loop finds**: nothing if no session has a deadline, and the nearest one
otherwise. -/
lemma bestDeadline_spec :
    bestDeadline ss left now = -1 ∧ (∀ i, (ss i).due (left i) now = none) ∨
      (∃ i, ∃ d ∈ (ss i).due (left i) now, bestDeadline ss left now = max 0 d) ∧
        ∀ i, ∀ d ∈ (ss i).due (left i) now, bestDeadline ss left now ≤ max 0 d := by
  have hall (i : SessionId) : i ∈ [SessionId.own, .peer] := by cases i <;> decide
  rcases foldl_nearer (fun i => (ss i).due (left i) now) [.own, .peer] with
    ⟨hbest, hnone⟩ | ⟨⟨i, -, d, hd, hbest⟩, hle⟩
  · exact .inl ⟨hbest, fun i => hnone i (hall i)⟩
  · exact .inr ⟨⟨i, d, hd, hbest⟩, fun i => hle i (hall i)⟩

end Spec

/-- The conversion changes nothing that is an `int`. -/
lemma castInt_eq {x : ℤ} (hlow : -1 ≤ x) (hhigh : x < 2 ^ 31) : castInt x = x :=
  Int.bmod_eq_of_le (by omega) (by omega)

/-! ### Sleeping past a deadline -/

/-- The time a session without an accepted CONNACK waits for. -/
def Session.armed (s : Session) : Option ℤ :=
  match s.state with
  | .idle => some s.retryAt
  | .connecting => some s.connackDue
  | .serving => none

/-- The deadline of a session, by the clock `t` at the poll. -/
def Session.deadline (s : Session) (left t : ℤ) : Option ℤ :=
  match s.state with
  | .idle => some s.retryAt
  | .connecting => some s.connackDue
  | .serving => if left < 0 then none else some (t + left)

section Poll

variable (ss : Sessions) (left : SessionId → ℤ) (now t : ℤ)

/-- The poll entered at `t` keeps the deadlines: it is without a limit only if there
are none, it does not sleep past the nearest, and the conversion to `int` changes
nothing. -/
def KeepsDeadlines : Prop :=
  (nextDeadlineMs ss left now = -1 → ∀ i, (ss i).deadline (left i) t = none) ∧
  (nextDeadlineMs ss left now ≠ -1 → 0 ≤ nextDeadlineMs ss left now ∧
    ∀ i, ∀ a ∈ (ss i).deadline (left i) t, t + nextDeadlineMs ss left now ≤ max t a) ∧
  nextDeadlineMs ss left now = bestDeadline ss left now

/-- What saves the deadlines: no session waits for one that is absolute, or one of
those had passed at the top of the pass, or no time has passed since, or a keepalive
comes before all of them. -/
def Saved : Prop :=
  (∀ i, (ss i).armed = none) ∨ (∃ i, ∃ a ∈ (ss i).armed, a ≤ now) ∨ t = now ∨
    ∃ i, (ss i).state = .serving ∧ 0 ≤ left i ∧
      (left i = 0 ∨ ∀ j, ∀ a ∈ (ss j).armed, t + left i ≤ a)

variable {ss left now t} {i : SessionId} {d a : ℤ}

lemma mem_due : d ∈ (ss i).due (left i) now ↔ (∃ a ∈ (ss i).armed, d = a - now) ∨
    (ss i).state = .serving ∧ 0 ≤ left i ∧ d = left i := by
  cases hst : (ss i).state with
  | idle => simp [Session.due, Session.armed, hst, eq_comm]
  | connecting => simp [Session.due, Session.armed, hst, eq_comm]
  | serving =>
      by_cases hleft : left i < 0
      · simp [Session.due, Session.armed, hst, hleft]
      · simp [Session.due, Session.armed, hst, hleft, not_lt.mp hleft, eq_comm]

lemma mem_deadline : a ∈ (ss i).deadline (left i) t ↔ a ∈ (ss i).armed ∨
    (ss i).state = .serving ∧ 0 ≤ left i ∧ a = t + left i := by
  cases hst : (ss i).state with
  | idle => simp [Session.deadline, Session.armed, hst]
  | connecting => simp [Session.deadline, Session.armed, hst]
  | serving =>
      by_cases hleft : left i < 0
      · simp [Session.deadline, Session.armed, hst, hleft]
      · simp [Session.deadline, Session.armed, hst, hleft, not_lt.mp hleft, eq_comm]

/-- A session has a deadline for the loop if it has one. -/
lemma deadline_eq_none (h : (ss i).due (left i) now = none) :
    (ss i).deadline (left i) t = none := by
  refine Option.eq_none_iff_forall_ne_some.mpr fun a ha => ?_
  have hdue (d : ℤ) : d ∉ (ss i).due (left i) now := by simp [h]
  rcases mem_deadline.mp ha with harmed | ⟨hst, hleft, -⟩
  · exact hdue _ (mem_due.mpr (.inl ⟨a, harmed, rfl⟩))
  · exact hdue _ (mem_due.mpr (.inr ⟨hst, hleft, rfl⟩))

/-- Saved deadlines are kept. -/
lemma KeepsDeadlines.of_saved (hnow : now ≤ t)
    (hfar : ∀ i, ∀ a ∈ (ss i).armed, a < t + 2 ^ 31) (hleft : ∀ i, left i < 2 ^ 31)
    (h : Saved ss left now t) : KeepsDeadlines ss left now t := by
  rcases bestDeadline_spec ss left now with ⟨hbest, hnone⟩ | ⟨⟨i, d, hd, hbest⟩, hle⟩
  · have hT : nextDeadlineMs ss left now = -1 := by
      rw [nextDeadlineMs, hbest]
      rfl
    exact ⟨fun _ i => deadline_eq_none (hnone i), fun hne => absurd hT hne, hT.trans hbest.symm⟩
  · have hkeepalive (j : SessionId) (hst : (ss j).state = .serving) (hl : 0 ≤ left j) :
        bestDeadline ss left now ≤ left j := by
      have := hle j (left j) (mem_due.mpr (.inr ⟨hst, hl, rfl⟩))
      omega
    have harmed (j : SessionId) (a : ℤ) (ha : a ∈ (ss j).armed) :
        bestDeadline ss left now ≤ max 0 (a - now) :=
      hle j (a - now) (mem_due.mpr (.inl ⟨a, ha, rfl⟩))
    -- no deadline armed, one past, no time lost, or a keepalive that comes first
    have hkept : bestDeadline ss left now < 2 ^ 31 ∧
        ∀ j, ∀ a ∈ (ss j).armed, t + bestDeadline ss left now ≤ max t a := by
      rcases h with hnone | ⟨j, a, ha, hpast⟩ | rfl | ⟨j, hst, hl, hsoon⟩
      · refine ⟨?_, fun j a ha => by simp [hnone j] at ha⟩
        rcases mem_due.mp hd with ⟨a, ha, -⟩ | ⟨-, -, rfl⟩
        · simp [hnone i] at ha
        · have := hleft i
          omega
      · have := harmed j a ha
        exact ⟨by omega, fun j' a' _ => by omega⟩
      · refine ⟨?_, fun j a ha => ?_⟩
        · rcases mem_due.mp hd with ⟨a, ha, rfl⟩ | ⟨-, -, rfl⟩
          · have := hfar i a ha
            omega
          · have := hleft i
            omega
        · have := harmed j a ha
          omega
      · have hj := hkeepalive j hst hl
        refine ⟨hj.trans_lt (hleft j), fun j' a ha => ?_⟩
        rcases hsoon with hzero | hbefore
        · omega
        · have := hbefore j' a ha
          omega
    -- what fits an `int` comes through the cast
    have hT : nextDeadlineMs ss left now = bestDeadline ss left now :=
      castInt_eq (by omega) hkept.1
    refine ⟨fun hneg => by omega, fun _ => ⟨by omega, fun j a ha => ?_⟩, hT⟩
    rw [hT]
    rcases mem_deadline.mp ha with ha | ⟨hst, hl, rfl⟩
    · exact hkept.2 j a ha
    · have := hkeepalive j hst hl
      omega

/-- Kept deadlines are saved. -/
lemma KeepsDeadlines.saved (hnow : now ≤ t) (h : KeepsDeadlines ss left now t) :
    Saved ss left now t := by
  obtain ⟨-, hkept, hT⟩ := h
  by_contra hlost
  simp only [Saved, not_or, not_forall, not_exists, not_and, not_le] at hlost
  obtain ⟨⟨i₀, hi₀⟩, hfuture, hmoved, hlate⟩ := hlost
  have hafter : now < t := lt_of_le_of_ne hnow (Ne.symm hmoved)
  rcases bestDeadline_spec ss left now with ⟨-, hnone⟩ | ⟨⟨i, d, hd, hbest⟩, -⟩
  · obtain ⟨a, ha⟩ := Option.ne_none_iff_exists'.mp hi₀
    have hdue : a - now ∈ (ss i₀).due (left i₀) now := mem_due.mpr (.inl ⟨a, ha, rfl⟩)
    simp [hnone i₀] at hdue
  · have hmax := (hkept (by omega)).2
    rw [hT, hbest] at hmax
    rcases mem_due.mp hd with ⟨a, ha, rfl⟩ | ⟨hst, hl, rfl⟩
    · have := hfuture i a ha
      have := hmax i a (mem_deadline.mpr (.inl ha))
      omega
    · obtain ⟨hpos, j, a, ha, hsooner⟩ := hlate i hst hl
      have := hmax j a (mem_deadline.mpr (.inl ha))
      omega

end Poll

namespace Passes

variable {pb : Nanopb} {node : NodeIdentity} {s : State × ℤ}

/-- A deadline lies no further ahead of the clock than the longest backoff. -/
lemma Armed.armed_le (h : Armed s) {i : SessionId} {a : ℤ} (ha : a ∈ (s.1.sessions i).armed) :
    a ≤ s.2 + kBackoffMaxMs := by
  cases hst : (s.1.sessions i).state with
  | idle =>
      obtain rfl : (s.1.sessions i).retryAt = a := by simpa [Session.armed, hst] using ha
      exact h.retry_le i hst
  | connecting =>
      obtain rfl : (s.1.sessions i).connackDue = a := by simpa [Session.armed, hst] using ha
      exact (h.due_le i hst).trans (by simp [kConnackTimeoutMs, kBackoffMaxMs])
  | serving => simp [Session.armed, hst] at ha

/-- **When a poll keeps the deadlines**: wherever a run stands, a poll entered there at
a time `t` keeps them if and only if no session waits for a retry or a CONNACK, or
one of those is overdue since the top of the pass, or no time has passed since the
top of the pass, or a keepalive comes first. -/
theorem keepsDeadlines_iff {ls : List Label} (hrun : (clocked pb node).Run ls s) {t : ℤ}
    (ht : s.2 ≤ t) {left : SessionId → ℤ} (hleft : ∀ i, left i < 2 ^ 31) :
    KeepsDeadlines s.1.sessions left s.1.now t ↔ Saved s.1.sessions left s.1.now t := by
  have h := hrun.invariant (armed_inductive pb node)
  have hnow := h.now_le.trans ht
  refine ⟨fun hkeep => hkeep.saved hnow, .of_saved hnow (fun i a ha => ?_) hleft⟩
  have := h.armed_le ha
  simp only [kBackoffMaxMs] at this
  omega

/-- `main` up to the first poll; a CONNECT takes the time `blocked`. -/
def upToPoll (blocked : ℤ) : List Label :=
  [.top 0, .connect .own (-116) blocked, .connect .peer 0 blocked]

/-- Without time lost, the first poll ends when the retry is due. -/
theorem promptConnect_keeps : ∃ s,
    (clocked Nanopb.proto3 ⟨cstr "nucleo_h753zi", cstr "nucleo-1"⟩).Run (upToPoll 0) s ∧
      KeepsDeadlines s.1.sessions (fun _ => -1) s.1.now 0 := by
  have hrun : (clocked Nanopb.proto3 ⟨cstr "nucleo_h753zi", cstr "nucleo-1"⟩).Run (upToPoll 0) _ :=
    Machine.run_of_exec rfl
  exact ⟨_, hrun, (keepsDeadlines_iff hrun le_rfl fun _ => by decide).mpr
    (.inr (.inr (.inl rfl)))⟩

/-- **A retry is slept past**: a CONNECT that blocks for three seconds puts the end of
the poll three seconds after it. -/
theorem blockedConnect_oversleeps : ¬ ∀ ls (s : State × ℤ) (t : ℤ) (left : SessionId → ℤ),
    (clocked Nanopb.proto3 ⟨cstr "nucleo_h753zi", cstr "nucleo-1"⟩).Run ls s →
    s.1.pc = .poll → s.2 ≤ t → (∀ i, left i < 2 ^ 31) →
    KeepsDeadlines s.1.sessions left s.1.now t := by
  intro h
  have hrun : (clocked Nanopb.proto3 ⟨cstr "nucleo_h753zi", cstr "nucleo-1"⟩).Run (upToPoll 3000)
    _ := Machine.run_of_exec rfl
  obtain ⟨-, hkept, -⟩ := h _ _ 3000 (fun _ => -1) hrun rfl le_rfl fun _ => by decide
  have hlate := (hkept (by decide)).2 .own 5000 rfl
  exact absurd hlate (by decide)

end Passes

end ClimateNode.Gateway
