import Mathlib.Algebra.BigOperators.Group.List.Basic
import Mathlib.Logic.Function.Basic
import Mathlib.Data.List.Basic
import Mathlib.Logic.Relation

/-!
Labelled machines: a state, a decidable set of labels that may fire, and the
effect of firing one.  Concurrency is interleaving, so a label is one atomic
action of one of the parties and a run is a list of labels.

* `Machine.Run`: the runs, as a relation between the labels taken so far and
  the state reached; `Machine.Reachable` forgets the labels.
* `Machine.restrict`: the same machine, a condition on every step added.  A
  claim about the runs whose steps all meet a condition is a claim about the
  runs of a restricted machine, and `Run.of_restrict` says these are runs.
* `Machine.Inductive`: an invariant of one step, and `Run.invariant` the
  induction that carries it over whole runs; `Run.since` finds the step a state
  goes back to, and `Run.sum` adds up what the steps of a run add to a quantity.
* `Machine.Step`: a step without its label, for a machine that answers one step of
  another by several of its own.
* `Machine.Simulates`: every step of one machine is one step of another or
  none, read through a map of the states; `Simulates.reachable` carries
  reachability, hence invariants, down.
* `Machine.relabel`: labels that carry more than the machine looks at;
  `Machine.annotate`: a history variable.  Neither changes a run.
* `Machine.Path`: a run from any state, oldest label first; `Along` and `Meets` say
  what holds at every position of one, and at some.
* `Machine.Unwinding`: what an observer cannot tell apart, one step at a time;
  `Unwinding.runs` compares two runs that show the observer the same.
* `Machine.exec`: the run function, for concrete runs.
-/

namespace Automata

/-- A labelled machine: where it starts, which labels may fire in a state, and
what firing one does.  `next` is only meaningful where `enabled` holds. -/
structure Machine (σ ι : Type*) where
  init : σ
  enabled : σ → ι → Prop
  next : σ → ι → σ

namespace Machine

variable {σ ι τ κ : Type*}

/-- The runs of a machine, oldest label first. -/
inductive Run (M : Machine σ ι) : List ι → σ → Prop
  | nil : Run M [] M.init
  | snoc {ls : List ι} {s : σ} {a : ι} (h : Run M ls s) (ha : M.enabled s a) :
      Run M (ls ++ [a]) (M.next s a)

/-- The states some run ends in. -/
def Reachable (M : Machine σ ι) (s : σ) : Prop := ∃ ls, M.Run ls s

lemma Reachable.init (M : Machine σ ι) : M.Reachable M.init := ⟨[], Run.nil⟩

/-- The machine in which a step also has to meet the condition `ok`. -/
def restrict (M : Machine σ ι) (ok : σ → ι → Prop) : Machine σ ι where
  init := M.init
  enabled s a := M.enabled s a ∧ ok s a
  next := M.next

/-- An invariant of one step: it holds at the start and every enabled label
keeps it. -/
structure Inductive (M : Machine σ ι) (I : σ → Prop) : Prop where
  init : I M.init
  step : ∀ s a, I s → M.enabled s a → I (M.next s a)

variable {M : Machine σ ι}

/-- **The run rule**: an inductive predicate holds wherever a run ends. -/
theorem Run.invariant {I : σ → Prop} (hI : M.Inductive I) {ls : List ι} {s : σ}
    (h : M.Run ls s) : I s := by
  induction h with
  | nil => exact hI.init
  | snoc _ ha ih => exact hI.step _ _ ih ha

/-- The run rule, for a predicate whose step may use an invariant already
proved. -/
theorem Inductive.and {I J : σ → Prop} (hI : M.Inductive I) (hJ₀ : J M.init)
    (hJ : ∀ s a, I s → J s → M.enabled s a → J (M.next s a)) :
    M.Inductive fun s => I s ∧ J s where
  init := ⟨hI.init, hJ₀⟩
  step s a h ha := ⟨hI.step s a h.1 ha, hJ s a h.1 h.2 ha⟩

/-- Two invariants proved apart. -/
theorem Inductive.both {I J : σ → Prop} (hI : M.Inductive I) (hJ : M.Inductive J) :
    M.Inductive fun s => I s ∧ J s :=
  hI.and hJ.init fun s a _ hs ha => hJ.step s a hs ha

/-- A run of the restricted machine is a run. -/
lemma Run.of_restrict {ok : σ → ι → Prop} {ls : List ι} {s : σ}
    (h : (M.restrict ok).Run ls s) : M.Run ls s := by
  induction h with
  | nil => exact Run.nil
  | snoc _ ha ih => exact ih.snoc ha.1

/-- One step, whatever its label. -/
def Step (M : Machine σ ι) (s t : σ) : Prop := ∃ a, M.enabled s a ∧ M.next s a = t

/-- Steps lead on. -/
lemma Reachable.steps {s t : σ} (h : M.Reachable s) (hsteps : Relation.ReflTransGen M.Step s t) :
    M.Reachable t := by
  induction hsteps with
  | refl => exact h
  | tail _ hstep ih =>
      obtain ⟨ls, hrun⟩ := ih
      obtain ⟨a, ha, rfl⟩ := hstep
      exact ⟨ls ++ [a], hrun.snoc ha⟩

/-- Steps of the restricted machine are steps. -/
lemma steps_of_restrict {ok : σ → ι → Prop} {s t : σ}
    (h : Relation.ReflTransGen (M.restrict ok).Step s t) : Relation.ReflTransGen M.Step s t := by
  refine Relation.ReflTransGen.mono ?_ s t h
  rintro s t ⟨a, ha, rfl⟩
  exact ⟨a, ha.1, rfl⟩

/-- The step a label of a run was. -/
lemma Run.split {pre post : List ι} {a : ι} {s : σ} (h : M.Run (pre ++ a :: post) s) :
    ∃ t, M.Run pre t ∧ M.enabled t a := by
  generalize hls : pre ++ a :: post = ls at h
  induction h generalizing post with
  | nil => simp at hls
  | @snoc ls s b hrun hb ih =>
      rcases post.eq_nil_or_concat with rfl | ⟨post, c, rfl⟩
      · obtain ⟨rfl, hab⟩ := List.append_inj' hls rfl
        obtain rfl : a = b := by simpa using hab
        exact ⟨s, hrun, hb⟩
      · rw [List.concat_eq_append, ← List.cons_append, ← List.append_assoc] at hls
        exact ih (List.append_inj' hls rfl).1

/-- An invariant survives the restriction of a machine. -/
lemma Inductive.restrict {I : σ → Prop} (hI : M.Inductive I) (ok : σ → ι → Prop) :
    (M.restrict ok).Inductive I where
  init := hI.init
  step s a h ha := hI.step s a h ha.1

/-- **The since rule**: what holds at the end of a run and not at its start was
brought about by some step, and what that step and the later ones keep holds. -/
theorem Run.since {P : σ → Prop} {K : σ → ι → List ι → σ → Prop} (hinit : ¬ P M.init)
    (hstep : ∀ s a, M.enabled s a → P (M.next s a) → K s a [] (M.next s a) ∨
      P s ∧ ∀ s₁ r ls, K s₁ r ls s → K s₁ r (ls ++ [a]) (M.next s a))
    {ls : List ι} {s : σ} (h : M.Run ls s) (hP : P s) :
    ∃ ls₁ r ls₂ s₁, ls = ls₁ ++ r :: ls₂ ∧ M.Run ls₁ s₁ ∧ M.enabled s₁ r ∧ K s₁ r ls₂ s := by
  induction h with
  | nil => exact absurd hP hinit
  | @snoc ls s a hrun ha ih =>
      rcases hstep s a ha hP with hnow | ⟨hPs, hkeep⟩
      · exact ⟨ls, a, [], s, rfl, hrun, ha, hnow⟩
      · obtain ⟨ls₁, r, ls₂, s₁, rfl, hrun₁, hr, hK⟩ := ih hPs
        exact ⟨ls₁, r, ls₂ ++ [a], s₁, by simp, hrun₁, hr, hkeep s₁ r ls₂ hK⟩

/-- **The summation rule**: what every step adds to a quantity, a run adds up. -/
theorem Run.sum {A : Type*} [AddMonoid A] {f : σ → A} {w : ι → A}
    (hstep : ∀ s a, M.enabled s a → f (M.next s a) = f s + w a) {ls : List ι} {s : σ}
    (h : M.Run ls s) : f s = f M.init + (ls.map w).sum := by
  induction h with
  | nil => simp
  | @snoc ls s a _ ha ih =>
      rw [hstep s a ha, ih, List.map_append, List.sum_append, List.map_singleton,
        List.sum_singleton, add_assoc]

/-! ### Simulation -/

/-- `N` simulates `M` through `f`: `M` starts where `N` can get to, and every step
of `M` is a step of `N` or leaves the image alone. -/
structure Simulates (N : Machine τ κ) (M : Machine σ ι) (f : σ → τ) : Prop where
  init : N.Reachable (f M.init)
  step : ∀ s a, M.enabled s a →
    f (M.next s a) = f s ∨ ∃ b, N.enabled (f s) b ∧ f (M.next s a) = N.next (f s) b

/-- What a run reaches is, seen through a simulation, reachable. -/
theorem Simulates.reachable {N : Machine τ κ} {f : σ → τ} (h : N.Simulates M f)
    {ls : List ι} {s : σ} (hs : M.Run ls s) : N.Reachable (f s) := by
  induction hs with
  | nil => exact h.init
  | @snoc ls s a _ ha ih =>
      rcases h.step s a ha with heq | ⟨b, hb, heq⟩
      · exact heq ▸ ih
      · obtain ⟨ks, hk⟩ := ih
        exact ⟨ks ++ [b], heq ▸ hk.snoc hb⟩

/-- An invariant of the simulating machine, read back through the map. -/
theorem Simulates.invariant {N : Machine τ κ} {f : σ → τ} (h : N.Simulates M f)
    {I : τ → Prop} (hI : N.Inductive I) {ls : List ι} {s : σ} (hs : M.Run ls s) :
    I (f s) := by
  obtain ⟨ks, hk⟩ := h.reachable hs
  exact hk.invariant hI

/-- An invariant of the simulating machine is one of the simulated machine. -/
theorem Simulates.pullback {N : Machine τ κ} {f : σ → τ} (h : N.Simulates M f)
    {I : τ → Prop} (hI : N.Inductive I) : M.Inductive fun s => I (f s) where
  init := by
    obtain ⟨ks, hk⟩ := h.init
    exact hk.invariant hI
  step s a hs ha := by
    rcases h.step s a ha with heq | ⟨b, hb, heq⟩
    · exact heq ▸ hs
    · exact heq ▸ hI.step _ b hs hb

/-! ### Positions of a run -/

section Path

/-- The runs from a state, taken apart from the front. -/
inductive Path (M : Machine σ ι) : σ → List ι → σ → Prop
  | nil (s : σ) : Path M s [] s
  | cons {s t : σ} {a : ι} {ls : List ι} (ha : M.enabled s a) (h : Path M (M.next s a) ls t) :
      Path M s (a :: ls) t

/-- What holds at every position: of the state, the label taken in it and the ones
to come. -/
def Along (M : Machine σ ι) (P : σ → ι → List ι → Prop) : σ → List ι → Prop
  | _, [] => True
  | s, a :: ls => P s a ls ∧ M.Along P (M.next s a) ls

/-- What holds at some position. -/
def Meets (M : Machine σ ι) (Q : σ → ι → Prop) : σ → List ι → Prop
  | _, [] => False
  | s, a :: ls => Q s a ∨ M.Meets Q (M.next s a) ls

variable {s t : σ} {a : ι} {ls ks : List ι}

lemma Path.snoc (h : M.Path s ls t) (ha : M.enabled t a) : M.Path s (ls ++ [a]) (M.next t a) := by
  induction h with
  | nil s => exact .cons ha (.nil _)
  | cons hb _ ih => exact .cons hb (ih ha)

/-- A run is one from the start. -/
lemma Run.path (h : M.Run ls s) : M.Path M.init ls s := by
  induction h with
  | nil => exact .nil _
  | snoc _ ha ih => exact ih.snoc ha

/-- **The position rule**: what an invariant and the rest of the path make of `P`
at each position holds at each position. -/
theorem Path.along {P Q : σ → ι → List ι → Prop} {I : σ → Prop} (hI : M.Inductive I)
    (hPQ : ∀ s a ls t, I s → M.enabled s a → M.Path (M.next s a) ls t → P s a ls → Q s a ls)
    (h : M.Path s ls t) (hs : I s) (hP : M.Along P s ls) : M.Along Q s ls := by
  induction h with
  | nil s => trivial
  | @cons s t a ls ha h ih => exact ⟨hPQ s a ls t hs ha h hP.1, ih (hI.step s a hs ha) hP.2⟩

/-- What an invariant and the label say of a position, without looking ahead. -/
theorem Path.along_of {Q : σ → ι → List ι → Prop} {I : σ → Prop} (hI : M.Inductive I)
    (hQ : ∀ s a ls, I s → M.enabled s a → Q s a ls) (h : M.Path s ls t) (hs : I s) :
    M.Along Q s ls := by
  induction h with
  | nil s => trivial
  | @cons s t a ls ha _ ih => exact ⟨hQ s a ls hs ha, ih (hI.step s a hs ha)⟩

/-- Positions do not depend on which labels may fire. -/
lemma along_restrict {P : σ → ι → List ι → Prop} {ok : σ → ι → Prop} :
    (M.restrict ok).Along P s ls ↔ M.Along P s ls := by
  induction ls generalizing s with
  | nil => exact Iff.rfl
  | cons a ls ih => exact and_congr_right fun _ => ih

lemma Meets.mono {Q Q' : σ → ι → Prop} (hQ : ∀ s a, Q s a → Q' s a) (h : M.Meets Q s ls) :
    M.Meets Q' s ls := by
  induction ls generalizing s with
  | nil => exact h
  | cons a ls ih => exact h.imp (hQ s a) ih

lemma Meets.of_mem {p : ι → Prop} (h : ∃ a ∈ ls, p a) : M.Meets (fun _ a => p a) s ls := by
  induction ls generalizing s with
  | nil => simp at h
  | cons a ls ih =>
      obtain ⟨b, hb, hp⟩ := h
      rcases List.mem_cons.mp hb with rfl | hb
      · exact .inl hp
      · exact .inr (ih ⟨b, hb, hp⟩)

lemma Meets.exists_mem {p : ι → Prop} (h : M.Meets (fun _ a => p a) s ls) : ∃ a ∈ ls, p a := by
  induction ls generalizing s with
  | nil => exact absurd h id
  | cons a ls ih =>
      rcases h with h | h
      · exact ⟨a, List.mem_cons_self, h⟩
      · obtain ⟨b, hb, hp⟩ := ih h
        exact ⟨b, List.mem_cons_of_mem _ hb, hp⟩

lemma Meets.or {Q Q' : σ → ι → Prop} (h : M.Meets (fun s a => Q s a ∨ Q' s a) s ls) :
    M.Meets Q s ls ∨ M.Meets Q' s ls := by
  induction ls generalizing s with
  | nil => exact .inl h
  | cons a ls ih =>
      rcases h with (h | h) | h
      · exact .inl (.inl h)
      · exact .inr (.inl h)
      · exact (ih h).imp .inr .inr

instance decidableAlong {P : σ → ι → List ι → Prop} [∀ s a ls, Decidable (P s a ls)] :
    (s : σ) → (ls : List ι) → Decidable (M.Along P s ls)
  | _, [] => inferInstanceAs (Decidable True)
  | s, a :: ls =>
      haveI : Decidable (M.Along P (M.next s a) ls) := decidableAlong (M.next s a) ls
      inferInstanceAs (Decidable (P s a ls ∧ M.Along P (M.next s a) ls))

instance decidableMeets {Q : σ → ι → Prop} [∀ s a, Decidable (Q s a)] :
    (s : σ) → (ls : List ι) → Decidable (M.Meets Q s ls)
  | _, [] => inferInstanceAs (Decidable False)
  | s, a :: ls =>
      haveI : Decidable (M.Meets Q (M.next s a) ls) := decidableMeets (M.next s a) ls
      inferInstanceAs (Decidable (Q s a ∨ M.Meets Q (M.next s a) ls))

end Path

/-! ### Labels that carry more -/

/-- The machine with labels that say more than it looks at. -/
def relabel (M : Machine σ ι) (f : κ → ι) : Machine σ κ :=
  ⟨M.init, fun s k => M.enabled s (f k), fun s k => M.next s (f k)⟩

lemma Inductive.relabel {I : σ → Prop} (hI : M.Inductive I) (f : κ → ι) :
    (M.relabel f).Inductive I :=
  ⟨hI.init, fun s k hs hk => hI.step s (f k) hs hk⟩

instance {f : κ → ι} [∀ s a, Decidable (M.enabled s a)] (s : σ) (k : κ) :
    Decidable ((M.relabel f).enabled s k) :=
  inferInstanceAs (Decidable (M.enabled s (f k)))

/-! ### History variables -/

section Annotate

variable {α : Type*} {a₀ : α} {upd : σ → α → ι → α} {ls : List ι}

/-- The machine with a history variable: a step makes of it what `upd` says, and
no step asks for it. -/
def annotate (M : Machine σ ι) (a₀ : α) (upd : σ → α → ι → α) : Machine (σ × α) ι where
  init := (M.init, a₀)
  enabled s l := M.enabled s.1 l
  next s l := (M.next s.1 l, upd s.1 s.2 l)

/-- An invariant holds whatever the history. -/
lemma Inductive.annotate {I : σ → Prop} (hI : M.Inductive I) :
    (M.annotate a₀ upd).Inductive fun s => I s.1 :=
  ⟨hI.init, fun s l hs hl => hI.step s.1 l hs hl⟩

instance [∀ s l, Decidable (M.enabled s l)] (s : σ × α) (l : ι) :
    Decidable ((M.annotate a₀ upd).enabled s l) :=
  inferInstanceAs (Decidable (M.enabled s.1 l))

end Annotate

/-! ### Two runs -/

section Unwinding

variable {obs : ι → Option κ} {alike : σ → σ → Prop}

/-- `alike` relates the states an observer of the labels `obs` keeps cannot tell
apart: an unobserved step of either run leaves it, and so do two steps observed
as one. -/
structure Unwinding (M : Machine σ ι) (obs : ι → Option κ) (alike : σ → σ → Prop) : Prop where
  init : alike M.init M.init
  symm : ∀ s t, alike s t → alike t s
  unseen : ∀ s t a, obs a = none → M.enabled s a → alike s t → alike (M.next s a) t
  seen : ∀ s t a b, obs a = obs b → (obs a).isSome → M.enabled s a → M.enabled t b →
    alike s t → alike (M.next s a) (M.next t b)

/-- **The unwinding rule**: two runs that show the observer the same end alike. -/
theorem Unwinding.runs (hU : M.Unwinding obs alike) {ls ks : List ι} {s t : σ} (hs : M.Run ls s)
    (ht : M.Run ks t) (heq : ls.filterMap obs = ks.filterMap obs) : alike s t := by
  induction hs generalizing ks t with
  | nil =>
      induction ht with
      | nil => exact hU.init
      | @snoc ks t b _ hb ih =>
          rw [List.filterMap_append] at heq
          have hnil := List.append_eq_nil_iff.mp heq.symm
          have hobs : obs b = none := by simpa using hnil.2
          exact hU.symm _ _ (hU.unseen t _ b hobs hb (hU.symm _ _ (ih (by simp [hnil.1]))))
  | @snoc ls s a hs ha ih =>
      cases hobs : obs a with
      | none =>
          refine hU.unseen s t a hobs ha (ih ht ?_)
          simpa [List.filterMap_append, hobs] using heq
      | some k =>
          induction ht with
          | nil => simp [List.filterMap_append, hobs] at heq
          | @snoc ks t b ht hb iht =>
              cases hobs' : obs b with
              | none =>
                  refine hU.symm _ _ (hU.unseen t _ b hobs' hb (hU.symm _ _ (iht ?_)))
                  simpa [List.filterMap_append, hobs'] using heq
              | some k' =>
                  simp only [List.filterMap_append, List.filterMap_cons, hobs, hobs',
                    List.filterMap_nil] at heq
                  obtain ⟨hpre, hlast⟩ := List.append_inj' heq rfl
                  obtain rfl : k = k' := by simpa using hlast
                  exact hU.seen s t a b (hobs.trans hobs'.symm) (by simp [hobs]) ha hb (ih ht hpre)

/-- What the observer can tell of a state is a function of what the run showed
him. -/
theorem Unwinding.function {ν : Type*} (hU : M.Unwinding obs alike) (view : σ → ν)
    (hview : ∀ s t, alike s t → view s = view t) :
    ∃ f : List κ → ν, ∀ ls s, M.Run ls s → view s = f (ls.filterMap obs) := by
  classical
  let shown (ks : List κ) (v : ν) : Prop :=
    ∃ ls s, M.Run ls s ∧ ls.filterMap obs = ks ∧ view s = v
  refine ⟨fun ks => if h : ∃ v, shown ks v then h.choose else view M.init, fun ls s hrun => ?_⟩
  have hex : ∃ v, shown (ls.filterMap obs) v := ⟨view s, ls, s, hrun, rfl, rfl⟩
  obtain ⟨ls', t, hrun', heq, hv⟩ := hex.choose_spec
  calc view s = view t := hview s t (hU.runs hrun hrun' heq.symm)
    _ = hex.choose := hv
    _ = _ := (dif_pos hex).symm

end Unwinding

/-! ### Concrete runs -/

section Exec

variable (M) [∀ s a, Decidable (M.enabled s a)]

/-- Take the labels in turn, `none` as soon as one may not fire. -/
def exec : σ → List ι → Option σ
  | s, [] => some s
  | s, a :: ls => if M.enabled s a then exec (M.next s a) ls else none

variable {M}

private lemma run_of_exec_aux {s t : σ} {ks ls : List ι} (hs : M.Run ks s)
    (h : M.exec s ls = some t) : M.Run (ks ++ ls) t := by
  induction ls generalizing s ks with
  | nil =>
      simp only [exec, Option.some.injEq] at h
      simpa [← h] using hs
  | cons a ls ih =>
      rw [exec] at h
      split at h
      · rename_i ha
        simpa using ih (hs.snoc ha) h
      · simp at h

instance {ok : σ → ι → Prop} [∀ s a, Decidable (ok s a)] (s : σ) (a : ι) :
    Decidable ((M.restrict ok).enabled s a) :=
  inferInstanceAs (Decidable (M.enabled s a ∧ ok s a))

/-- What the run function computes from the start is a run. -/
theorem run_of_exec {t : σ} {ls : List ι} (h : M.exec M.init ls = some t) : M.Run ls t := by
  simpa using run_of_exec_aux Run.nil h

end Exec

end Machine

end Automata
