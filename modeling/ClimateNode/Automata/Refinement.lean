import ClimateNode.Automata.Machine

/-!
Refinement through a relation.  Where `Machine.Simulates` reads the state of one machine off
that of another, here the two are only related, and a step of the one is answered by any
number of steps of the other.

* `Machine.replay`: the labels that answer those of a run.
* `Refines`: every step is answered.
* `Refines.run`: **a run is answered by a run**, and `Refines.invariant` carries the
  invariants of the answering machine down.
* `Refines.restrict`: conditions on the steps of the one that give conditions on the
  answers.
-/

namespace Automata.Machine

variable {σ τ ι κ : Type*}

/-- The answers to the labels of a run, in their order. -/
def replay (M : Machine σ ι) (answer : σ → ι → List κ) : σ → List ι → List κ
  | _, [] => []
  | s, a :: ls => answer s a ++ M.replay answer (M.next s a) ls

/-- `N` answers each step of `M` with the labels `answer` names, so that the two stay
related. -/
structure Refines (M : Machine σ ι) (N : Machine τ κ) (answer : σ → ι → List κ)
    (R : σ → τ → Prop) : Prop where
  init : R M.init N.init
  step : ∀ s t a, M.Reachable s → N.Reachable t → R s t → M.enabled s a →
    ∃ t', N.Path t (answer s a) t' ∧ R (M.next s a) t'

variable {M : Machine σ ι} {N : Machine τ κ} {answer : σ → ι → List κ} {R : σ → τ → Prop}
  {s : σ} {t u : τ} {ls : List ι} {ks : List κ}

/-- A path of one step. -/
lemma Path.one {b : κ} (hb : N.enabled t b) : N.Path t [b] (N.next t b) := .cons hb (.nil _)

/-- A path of two. -/
lemma Path.two {a b : κ} (ha : N.enabled t a) (hb : N.enabled (N.next t a) b) :
    N.Path t [a, b] (N.next (N.next t a) b) := .cons ha (.one hb)

/-- A path goes on from where a run ends. -/
lemma Run.append (h : N.Run ks t) {ks' : List κ} (hpath : N.Path t ks' u) :
    N.Run (ks ++ ks') u := by
  induction hpath generalizing ks with
  | nil t => simpa using h
  | cons ha _ ih => simpa using ih (h.snoc ha)

/-- A path whose labels all meet a condition is one of the restricted machine. -/
lemma Path.restrict {ok : κ → Prop} (h : N.Path t ks u) (hok : ∀ b ∈ ks, ok b) :
    (N.restrict fun _ => ok).Path t ks u := by
  induction h with
  | nil t => exact .nil t
  | cons ha _ ih =>
      exact .cons ⟨ha, hok _ List.mem_cons_self⟩ (ih fun b hb => hok b (List.mem_cons_of_mem _ hb))

lemma replay_concat (s : σ) (ls : List ι) {v : σ} (h : M.Path s ls v) (a : ι) :
    M.replay answer s (ls ++ [a]) = M.replay answer s ls ++ answer v a := by
  induction h with
  | nil s => simp [replay]
  | cons _ _ ih => simp [replay, ih]

/-- An answer that depends on the label alone, and is a step or none. -/
lemma replay_toList (f : ι → Option κ) (s : σ) (ls : List ι) :
    M.replay (fun _ a => (f a).toList) s ls = ls.filterMap f := by
  induction ls generalizing s with
  | nil => rfl
  | cons a ls ih => cases hf : f a <;> simp [replay, hf, ih]

/-- **The refinement rule**: a run is answered by a run, and they end related. -/
theorem Refines.run (h : Refines M N answer R) (hrun : M.Run ls s) :
    ∃ t, N.Run (M.replay answer M.init ls) t ∧ R s t := by
  induction hrun with
  | nil => exact ⟨N.init, .nil, h.init⟩
  | @snoc ls s a hrun ha ih =>
      obtain ⟨t, hN, hR⟩ := ih
      obtain ⟨t', hpath, hR'⟩ := h.step s t a ⟨ls, hrun⟩ ⟨_, hN⟩ hR ha
      rw [replay_concat _ _ hrun.path a]
      exact ⟨t', hN.append hpath, hR'⟩

/-- An invariant of the answering machine, seen through the relation. -/
theorem Refines.invariant (h : Refines M N answer R) {I : τ → Prop} (hI : N.Inductive I)
    (hrun : M.Run ls s) : ∃ t, R s t ∧ I t := by
  obtain ⟨t, hN, hR⟩ := h.run hrun
  exact ⟨t, hR, hN.invariant hI⟩

/-- What the restricted machine reaches, the machine does. -/
lemma Reachable.of_restrict {ok : σ → ι → Prop} (h : (M.restrict ok).Reachable s) :
    M.Reachable s :=
  let ⟨ls, hrun⟩ := h
  ⟨ls, hrun.of_restrict⟩

/-- Conditions on the steps that give conditions on their answers. -/
lemma Refines.restrict (h : Refines M N answer R) {ok : σ → ι → Prop} {ok' : κ → Prop}
    (hok : ∀ s a, M.enabled s a → ok s a → ∀ b ∈ answer s a, ok' b) :
    Refines (M.restrict ok) (N.restrict fun _ => ok') answer R where
  init := h.init
  step s t a hs ht hR ha := by
    obtain ⟨t', hpath, hR'⟩ := h.step s t a hs.of_restrict ht.of_restrict hR ha.1
    exact ⟨t', hpath.restrict (hok s a ha.1 ha.2), hR'⟩

end Automata.Machine
