import ClimateNode.Gateway.Timers
import Mathlib.Tactic.Ring

/-!
The retry delays of a session of `gateway/src/main.cpp`, over the passes of `main`:
`session_drop` doubles the backoff before it uses it, `session_serving` and boot set
it to its least.

* `chronicle`: the passes, with the attempts, the delays and the accepted CONNACKs of
  one session.
* `Recorded`: what the code makes of the delays; `chronicled_inductive`: over a run.
* `Steady`: what they are to be.
* `delays_steady_iff`: **when the delays are the ones meant**, over every run.
* `coldStart_delay`: and the ones after boot are not.
-/

namespace ClimateNode.Gateway.Passes

open Automata

/-! ### Milestones -/

/-- What happens to the connection of a session: `session_connect` at the clock of the
pass, the delay `session_drop` arms, a CONNACK that is accepted. -/
inductive Milestone where
  | attempted (now : ℤ)
  | armed (uptime delay : ℤ)
  | accepted
  deriving DecidableEq, Repr

/-- The milestones of a call for a session, newest first: an attempt, and the end of
one or of a connection. -/
def milestones (s t : State) (i : SessionId) (l : Label) : List Milestone :=
  (if (t.sessions i).state = .idle ∧ ((s.sessions i).state ≠ .idle ∨ attempts s i l = true) then
    [.armed (l.uptime.getD 0) ((t.sessions i).retryAt - l.uptime.getD 0)]
  else if (s.sessions i).state = .connecting ∧ (t.sessions i).state = .serving then [.accepted]
  else []) ++ if attempts s i l then [.attempted s.now] else []

/-- The passes with the milestones of a session, newest first. -/
def chronicle (pb : Nanopb) (node : NodeIdentity) (i : SessionId) :
    Machine (State × List Milestone) Label :=
  (machine pb node).annotate [] fun s log l => milestones s (next pb node s l) i l ++ log

/-- The `k`-th delay of a stretch. -/
def delayAt (k : ℕ) : ℤ := min (kBackoffMinMs * 2 ^ k) kBackoffMaxMs

/-- How many delays were armed since the last CONNACK was accepted, or since boot. -/
def place : List Milestone → ℕ
  | .armed _ _ :: earlier => place earlier + 1
  | .attempted _ :: earlier => place earlier
  | _ => 0

/-- A milestone after the earlier ones: an attempt waits out the delay before it, each
attempt fails once or is accepted, a connection that was accepted is given up once,
and the delays of a stretch go by the sequence. -/
def Steady : Milestone → List Milestone → Prop
  | .attempted now, earlier => earlier = [] ∨
      ∃ uptime delay, earlier.head? = some (.armed uptime delay) ∧ uptime + delay ≤ now
  | .armed _ delay, earlier =>
      ((∃ now, earlier.head? = some (.attempted now)) ∨ earlier.head? = some .accepted) ∧
        delay = delayAt (place earlier)
  | .accepted, earlier => ∃ now, earlier.head? = some (.attempted now)

/-- The places the code is ahead: one, before the first CONNACK is accepted. -/
def lead (log : List Milestone) : ℕ := if .accepted ∈ log then 0 else 1

/-- A milestone as the code comes by it. -/
def Recorded : Milestone → List Milestone → Prop
  | .armed _ delay, earlier =>
      ((∃ now, earlier.head? = some (.attempted now)) ∨ earlier.head? = some .accepted) ∧
        delay = delayAt (place earlier + lead earlier)
  | e, earlier => Steady e earlier

lemma delayAt_zero : delayAt 0 = kBackoffMinMs := rfl

/-- Each delay is twice the one before it, up to the cap. -/
lemma delayAt_succ (k : ℕ) : delayAt (k + 1) = min (delayAt k * 2) kBackoffMaxMs := by
  have hpow : kBackoffMinMs * 2 ^ (k + 1) = kBackoffMinMs * 2 ^ k * 2 := by ring
  rw [delayAt, delayAt, hpow]
  simp only [kBackoffMaxMs]
  omega

/-! ### The delays along a run -/

/-- A session against its milestones. -/
structure Chronicled (a : Session) (log : List Milestone) : Prop where
  recorded : ∀ e earlier, e :: earlier <:+ log → Recorded e earlier
  idle : a.state = .idle → log = [] ∨
    ∃ uptime, log.head? = some (.armed uptime a.backoffMs) ∧ a.retryAt = uptime + a.backoffMs
  connecting : a.state = .connecting → ∃ now, log.head? = some (.attempted now)
  serving : a.state = .serving → log.head? = some .accepted ∧ a.backoffMs = kBackoffMinMs
  backoff : a.state ≠ .serving →
    0 < place log + lead log ∧ a.backoffMs = delayAt (place log + lead log - 1)

section Steps

variable {a b : Session} {log : List Milestone} {e : Milestone}

lemma lead_cons (he : e ≠ .accepted) : lead (e :: log) = lead log := by
  simp [lead, Ne.symm he]

/-- Nothing happens. -/
lemma Chronicled.keep (h : Chronicled a log) (hkeep : b.timers = a.timers) : Chronicled b log := by
  obtain ⟨hstate, hback, hretry, -⟩ := Session.timers_eq_iff.mp hkeep
  refine ⟨h.recorded, fun hb => ?_, fun hb => h.connecting (hstate ▸ hb), fun hb => ?_,
    fun hb => ?_⟩
  · rw [hback, hretry]
    exact h.idle (hstate ▸ hb)
  · rw [hback]
    exact h.serving (hstate ▸ hb)
  · rw [hback]
    exact h.backoff (hstate ▸ hb)

/-- An attempt, once the delay is over. -/
lemma Chronicled.attempt (h : Chronicled a log) {now : ℤ} (hs : a.state = .idle)
    (hdue : a.retryAt ≤ now) (ht : b.state = .connecting) (hback : b.backoffMs = a.backoffMs) :
    Chronicled b (.attempted now :: log) := by
  have hrecorded : Recorded (.attempted now) log := by
    rcases h.idle hs with hnil | ⟨uptime, hhead, hretry⟩
    · exact .inl hnil
    · exact .inr ⟨uptime, a.backoffMs, hhead, hretry ▸ hdue⟩
  refine ⟨Monitor.forall_suffix_cons.mpr ⟨hrecorded, h.recorded⟩, fun hb => by simp [ht] at hb,
    fun _ => ⟨now, rfl⟩, fun hb => by simp [ht] at hb, fun _ => ?_⟩
  rw [hback, lead_cons (by simp)]
  exact h.backoff (by simp [hs])

/-- A CONNACK is accepted. -/
lemma Chronicled.accept (h : Chronicled a log) (hs : a.state = .connecting)
    (ht : b.state = .serving) (hback : b.backoffMs = kBackoffMinMs) :
    Chronicled b (.accepted :: log) :=
  ⟨Monitor.forall_suffix_cons.mpr ⟨h.connecting hs, h.recorded⟩, fun hb => by simp [ht] at hb,
    fun hb => by simp [ht] at hb, fun _ => ⟨rfl, hback⟩, fun hb => absurd ht hb⟩

/-- A connection or an attempt is given up. -/
lemma Chronicled.drop (h : Chronicled a log) {uptime : ℤ} (hs : a.state ≠ .idle)
    (ht : b.state = .idle)
    (hback : b.backoffMs =
      if a.state = .serving then kBackoffMinMs else min (a.backoffMs * 2) kBackoffMaxMs)
    (hretry : b.retryAt = uptime + b.backoffMs) :
    Chronicled b (.armed uptime b.backoffMs :: log) := by
  obtain ⟨hhead, hdelay⟩ : ((∃ now, log.head? = some (.attempted now)) ∨
      log.head? = some .accepted) ∧ b.backoffMs = delayAt (place log + lead log) := by
    rcases Session.connecting_or_serving hs with hconn | hserving
    · obtain ⟨hpos, hlast⟩ := h.backoff (by simp [hconn])
      obtain ⟨k, hk⟩ : ∃ k, place log + lead log = k + 1 := ⟨_, (Nat.sub_add_cancel hpos).symm⟩
      refine ⟨.inl (h.connecting hconn), ?_⟩
      rw [hback, if_neg (by simp [hconn]), hlast, hk, delayAt_succ, Nat.add_sub_cancel]
    · obtain ⟨hhead, -⟩ := h.serving hserving
      obtain ⟨earlier, rfl⟩ := List.head?_eq_some_iff.mp hhead
      refine ⟨.inr rfl, ?_⟩
      rw [hback, if_pos hserving]
      simp [place, lead, delayAt_zero]
  refine ⟨Monitor.forall_suffix_cons.mpr ⟨⟨hhead, hdelay⟩, h.recorded⟩,
    fun _ => .inr ⟨uptime, rfl, hretry⟩, fun hb => by simp [ht] at hb, fun hb => by simp [ht] at hb, fun _ => ?_⟩
  rw [lead_cons (by simp), place]
  refine ⟨by omega, ?_⟩
  rw [hdelay]
  congr 1
  omega

/-- An attempt fails at once. -/
lemma Chronicled.fail (h : Chronicled a log) {now uptime : ℤ} (hs : a.state = .idle)
    (hdue : a.retryAt ≤ now) (ht : b.state = .idle)
    (hback : b.backoffMs = min (a.backoffMs * 2) kBackoffMaxMs)
    (hretry : b.retryAt = uptime + b.backoffMs) :
    Chronicled b (.armed uptime b.backoffMs :: .attempted now :: log) := by
  have hattempt : Chronicled { a with state := .connecting } (.attempted now :: log) :=
    h.attempt hs hdue rfl rfl
  exact hattempt.drop (by simp) ht (by simpa using hback) hretry

end Steps

section Runs

variable {pb : Nanopb} {node : NodeIdentity} {i : SessionId} {s : State} {l : Label}
  {log : List Milestone}

/-- An attempt is made when its delay is over. -/
lemma retryAt_le_of_attempts (h : attempts s i l = true) : (s.sessions i).retryAt ≤ s.now := by
  cases l with
  | connect j rc uptime => exact (of_decide_eq_true h).2.2
  | _ => exact absurd h Bool.false_ne_true

/-- A call keeps the record. -/
lemma Chronicled.next (h : Chronicled (s.sessions i) log) (hp : Polled s) (hl : enabled s l) :
    Chronicled ((Passes.next pb node s l).sessions i)
      (milestones s (Passes.next pb node s l) i l ++ log) := by
  cases move_next pb node hl hp i with
  | keep hatt hkeep =>
      have hstate := (Session.timers_eq_iff.mp hkeep).1
      have hnone : milestones s (Passes.next pb node s l) i l = [] := by
        cases hs : (s.sessions i).state <;> simp [milestones, hatt, hstate, hs]
      rw [hnone]
      exact h.keep hkeep
  | attempt hatt hs u hu ht hback hdue =>
      have hone : milestones s (Passes.next pb node s l) i l = [.attempted s.now] := by
        simp [milestones, hatt, hs, ht]
      rw [hone]
      exact h.attempt hs (retryAt_le_of_attempts hatt) ht hback
  | fail hatt hs u hu ht hback hretry =>
      have htwo : milestones s (Passes.next pb node s l) i l =
          [.armed u ((Passes.next pb node s l).sessions i).backoffMs, .attempted s.now] := by
        simp [milestones, hatt, hs, ht, hu, hretry]
      rw [htwo]
      exact h.fail hs (retryAt_le_of_attempts hatt) ht hback hretry
  | accept hatt hs ht hback =>
      have hone : milestones s (Passes.next pb node s l) i l = [.accepted] := by
        simp [milestones, hatt, hs, ht]
      rw [hone]
      exact h.accept hs ht hback
  | drop hatt hs u hu ht hback hretry =>
      have hone : milestones s (Passes.next pb node s l) i l =
          [.armed u ((Passes.next pb node s l).sessions i).backoffMs] := by
        simp [milestones, hatt, hs, ht, hu, hretry]
      rw [hone]
      exact h.drop hs ht hback hretry

/-- **The step lemma of the delays.** -/
theorem chronicled_inductive (pb : Nanopb) (node : NodeIdentity) (i : SessionId) :
    (chronicle pb node i).Inductive fun s => Polled s.1 ∧ Chronicled (s.1.sessions i) s.2 := by
  refine Machine.Inductive.and ((polled_inductive pb node).annotate) ?_ ?_
  · exact ⟨fun e earlier h => absurd (List.suffix_nil.mp h) (List.cons_ne_nil _ _),
      fun _ => .inl rfl, fun h => (by cases h), fun h => (by cases h),
      fun _ => ⟨Nat.zero_lt_one, rfl⟩⟩
  · exact fun s l hp h hl => h.next hp hl

end Runs

/-! ### The delays that are meant -/

/-- No attempt fails before the first CONNACK is accepted. -/
def WarmStart (log : List Milestone) : Prop :=
  ∀ uptime delay earlier, .armed uptime delay :: earlier <:+ log → .accepted ∈ earlier

variable {log : List Milestone}

/-- Before the first CONNACK is accepted, a delay that is the one meant is none. -/
lemma place_eq_zero (hrec : ∀ e earlier, e :: earlier <:+ log → Recorded e earlier)
    (hsteady : ∀ e earlier, e :: earlier <:+ log → Steady e earlier) (hcold : .accepted ∉ log) :
    place log = 0 := by
  induction log with
  | nil => rfl
  | cons e earlier ih =>
      obtain ⟨hmade, hrec'⟩ := Monitor.forall_suffix_cons.mp hrec
      obtain ⟨hmeant, hsteady'⟩ := Monitor.forall_suffix_cons.mp hsteady
      have hcold' : .accepted ∉ earlier := fun h => hcold (List.mem_cons_of_mem _ h)
      have hzero : place earlier = 0 := ih hrec' hsteady' hcold'
      cases e with
      | attempted now => exact hzero
      | accepted => exact absurd List.mem_cons_self hcold
      | armed uptime delay =>
          have hdelay : delayAt (place earlier + lead earlier) = delayAt (place earlier) :=
            hmade.2.symm.trans hmeant.2
          rw [hzero, lead, if_neg hcold'] at hdelay
          exact absurd hdelay (by decide)

/-- The delays are the ones meant if and only if the first attempt succeeds. -/
lemma steady_iff_warmStart (hrec : ∀ e earlier, e :: earlier <:+ log → Recorded e earlier) :
    (∀ e earlier, e :: earlier <:+ log → Steady e earlier) ↔ WarmStart log := by
  constructor
  · intro hsteady uptime delay earlier hsuff
    by_contra hcold
    have hzero : place (.armed uptime delay :: earlier) = 0 := by
      refine place_eq_zero (fun e' log' h => hrec e' log' (h.trans hsuff))
        (fun e' log' h => hsteady e' log' (h.trans hsuff)) ?_
      simpa using hcold
    exact absurd hzero (Nat.succ_ne_zero _)
  · intro hwarm e earlier hsuff
    have he := hrec e earlier hsuff
    cases e with
    | attempted now => exact he
    | accepted => exact he
    | armed uptime delay =>
        have hlead : lead earlier = 0 := if_pos (hwarm uptime delay earlier hsuff)
        exact ⟨he.1, by rw [he.2, hlead, Nat.add_zero]⟩

/-- **What the code makes of the delays**, in every run: the sequence in each stretch
that began with a connection given up, and one place ahead of it after boot. -/
theorem delays_recorded {pb : Nanopb} {node : NodeIdentity} {i : SessionId} {ls : List Label}
    {s : State × List Milestone} (hrun : (chronicle pb node i).Run ls s) :
    ∀ e earlier, e :: earlier <:+ s.2 → Recorded e earlier :=
  (hrun.invariant (chronicled_inductive pb node i)).2.recorded

/-- **When the delays are the ones meant**: in every run, each attempt of a session
waits out the delay before it, each failed attempt takes one place of the sequence,
and the delays of each stretch without an accepted CONNACK start at `kBackoffMinMs`
and double up to `kBackoffMaxMs`, if and only if no attempt fails before the first
CONNACK is accepted. -/
theorem delays_steady_iff {pb : Nanopb} {node : NodeIdentity} {i : SessionId} {ls : List Label}
    {s : State × List Milestone} (hrun : (chronicle pb node i).Run ls s) :
    (∀ e earlier, e :: earlier <:+ s.2 → Steady e earlier) ↔ WarmStart s.2 :=
  steady_iff_warmStart (delays_recorded hrun)

instance (pb : Nanopb) (node : NodeIdentity) (i : SessionId) (s : State × List Milestone)
    (l : Label) : Decidable ((chronicle pb node i).enabled s l) :=
  inferInstanceAs (Decidable (enabled s.1 l))

/-- A connection that was accepted at once is lost, and so is the attempt after it. -/
theorem lostPass_steady : ∃ s,
    (chronicle Nanopb.proto3 ⟨cstr "nucleo_h753zi", cstr "nucleo-1"⟩ .own).Run
      (firstPass ++ lostPass) s ∧
      s.2 = [.attempted 1901, .armed 901 1000, .accepted, .attempted 0] ∧
      ∀ e earlier, e :: earlier <:+ s.2 → Steady e earlier := by
  have hrun : (chronicle Nanopb.proto3 ⟨cstr "nucleo_h753zi", cstr "nucleo-1"⟩ .own).Run
    (firstPass ++ lostPass) _ := Machine.run_of_exec rfl
  refine ⟨_, hrun, rfl, (delays_steady_iff hrun).mpr fun uptime delay earlier hsuff => ?_⟩
  have hlog : .armed uptime delay :: earlier <:+
    [Milestone.attempted 1901, .armed 901 1000, .accepted, .attempted 0] := hsuff
  obtain ⟨-, rfl⟩ : _ ∧ earlier = [.accepted, .attempted 0] := by
    simpa [List.suffix_cons_iff] using hlog
  exact List.mem_cons_self

/-- **The first delay is two seconds**: an attempt at boot that fails is repeated after
twice `kBackoffMinMs`. -/
theorem coldStart_delay : ¬ ∀ ls s,
    (chronicle Nanopb.proto3 ⟨cstr "nucleo_h753zi", cstr "nucleo-1"⟩ .own).Run ls s →
    ∀ e earlier, e :: earlier <:+ s.2 → Steady e earlier := by
  intro h
  have hrun : (chronicle Nanopb.proto3 ⟨cstr "nucleo_h753zi", cstr "nucleo-1"⟩ .own).Run
    [.top 0, .connect .own (-116) 3] _ := Machine.run_of_exec rfl
  have hdelay : (2000 : ℤ) = delayAt 0 := (h _ _ hrun _ _ List.suffix_rfl).2
  exact absurd hdelay (by decide)

end ClimateNode.Gateway.Passes
