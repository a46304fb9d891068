import ClimateNode.Automata.Machine

/-!
Two machines side by side.  A label of the pair is a step of the one, of the other, or
of both at once, and the two may ask something of each other.

* `Machine.pair`: the machine of the two.
* `Run.fst`, `Run.snd`: **a run of the pair is a run of each**, its labels being those
  that concern it.
* `Inductive.fst`, `Inductive.snd`: so the invariants of each hold in the pair.
-/

namespace Automata.Machine

variable {σ τ ι κ ν : Type*}

/-- The label, if there is one, may fire. -/
def enabledAt (M : Machine σ ι) (s : σ) (a : Option ι) : Prop := ∀ b ∈ a, M.enabled s b

/-- The state after a label, or after none. -/
def nextAt (M : Machine σ ι) (s : σ) (a : Option ι) : σ := a.elim s (M.next s)

/-- Two machines side by side: which step of each a label is, and what the label asks of
the two together. -/
def pair (M : Machine σ ι) (N : Machine τ κ) (left : ν → Option ι) (right : ν → Option κ)
    (ok : σ × τ → ν → Prop) : Machine (σ × τ) ν where
  init := (M.init, N.init)
  enabled s l := M.enabledAt s.1 (left l) ∧ N.enabledAt s.2 (right l) ∧ ok s l
  next s l := (M.nextAt s.1 (left l), N.nextAt s.2 (right l))

instance (M : Machine σ ι) [∀ s a, Decidable (M.enabled s a)] (s : σ) :
    (a : Option ι) → Decidable (M.enabledAt s a)
  | none => isTrue fun b hb => absurd hb (Option.not_mem_none b)
  | some a => decidable_of_iff (M.enabled s a) (by simp [enabledAt])

instance {M : Machine σ ι} {N : Machine τ κ} {left : ν → Option ι} {right : ν → Option κ}
    {ok : σ × τ → ν → Prop} [∀ s a, Decidable (M.enabled s a)]
    [∀ s b, Decidable (N.enabled s b)] [∀ s l, Decidable (ok s l)] (s : σ × τ) (l : ν) :
    Decidable ((pair M N left right ok).enabled s l) :=
  inferInstanceAs (Decidable (_ ∧ _ ∧ _))

variable {M : Machine σ ι} {N : Machine τ κ} {left : ν → Option ι} {right : ν → Option κ}
  {ok : σ × τ → ν → Prop} {ls : List ν} {s : σ × τ}

/-- One step more, or none. -/
lemma Run.at {ks : List ι} {t : σ} (h : M.Run ks t) {a : Option ι} (ha : M.enabledAt t a) :
    M.Run (ks ++ a.toList) (M.nextAt t a) := by
  cases a with
  | none => simpa [nextAt] using h
  | some a => exact h.snoc (ha a rfl)

/-- **The left run** of a run of the pair. -/
theorem Run.fst (h : (pair M N left right ok).Run ls s) : M.Run (ls.filterMap left) s.1 := by
  induction h with
  | nil => exact Run.nil
  | @snoc ls s l _ hl ih =>
      have hlast : [l].filterMap left = (left l).toList := by cases hc : left l <;> simp [hc]
      rw [List.filterMap_append, hlast]
      exact ih.at hl.1

/-- **The right run** of a run of the pair. -/
theorem Run.snd (h : (pair M N left right ok).Run ls s) : N.Run (ls.filterMap right) s.2 := by
  induction h with
  | nil => exact Run.nil
  | @snoc ls s l _ hl ih =>
      have hlast : [l].filterMap right = (right l).toList := by cases hc : right l <;> simp [hc]
      rw [List.filterMap_append, hlast]
      exact ih.at hl.2.1

/-- An invariant is kept by one step, or by none. -/
lemma Inductive.at {I : σ → Prop} (hI : M.Inductive I) {t : σ} (ht : I t) {a : Option ι}
    (ha : M.enabledAt t a) : I (M.nextAt t a) := by
  cases a with
  | none => exact ht
  | some a => exact hI.step t a ht (ha a rfl)

/-- What is invariant on the left is invariant in the pair. -/
lemma Inductive.fst {I : σ → Prop} (hI : M.Inductive I) :
    (pair M N left right ok).Inductive fun s => I s.1 :=
  ⟨hI.init, fun _ _ hs hl => hI.at hs hl.1⟩

/-- What is invariant on the right is invariant in the pair. -/
lemma Inductive.snd {I : τ → Prop} (hI : N.Inductive I) :
    (pair M N left right ok).Inductive fun s => I s.2 :=
  ⟨hI.init, fun _ _ hs hl => hI.at hs hl.2.1⟩

end Automata.Machine
