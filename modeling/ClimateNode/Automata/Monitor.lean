import Mathlib.Data.List.Induction

/-!
Monitors: a partial step function that reads a log and gives up at what it does
not allow.  A log that reads through is well formed, and what its entries were
read in says what came before them.

* `read`: a log read from a phase; `read_split`: where an entry was read.
* `read_since`: **the since rule**; a phase with a property that the first phase
  lacks goes back to the entry that brought it about, and the entries after that
  kept it.
* `forall_suffix_cons`: a log kept newest first, each entry against the earlier ones.
-/

namespace Automata.Monitor

variable {φ ε : Type*} (step : φ → ε → Option φ)

/-- Read a log, oldest entry first. -/
def read (p : φ) (log : List ε) : Option φ := log.foldlM step p

variable {step} {p q : φ}

@[simp] lemma read_nil : read step p [] = some p := rfl

@[simp] lemma read_cons (e : ε) (log : List ε) :
    read step p (e :: log) = (step p e).bind fun r => read step r log := rfl

@[simp] lemma read_append (log₁ log₂ : List ε) :
    read step p (log₁ ++ log₂) = (read step p log₁).bind fun r => read step r log₂ := by
  simp [read]

/-- Where an entry of a log was read. -/
lemma read_split {pre post : List ε} {e : ε} (h : read step p (pre ++ e :: post) = some q) :
    ∃ a b, read step p pre = some a ∧ step a e = some b ∧ read step b post = some q := by
  obtain ⟨a, ha, hrest⟩ := Option.bind_eq_some_iff.mp ((read_append _ _).symm.trans h)
  obtain ⟨b, hb, hpost⟩ := Option.bind_eq_some_iff.mp ((read_cons _ _).symm.trans hrest)
  exact ⟨a, b, ha, hb, hpost⟩

/-- **The since rule**: what holds of the last phase and not of the first was
brought about by some entry, and every later one was read from and to a phase it
holds of. -/
theorem read_since {P : φ → Prop} {K : ε → Prop}
    (hK : ∀ a e b, P a → step a e = some b → P b → K e)
    {log : List ε} (h : read step p log = some q) (hp : ¬ P p) (hq : P q) :
    ∃ pre e post a b, log = pre ++ e :: post ∧ read step p pre = some a ∧ ¬ P a ∧
      step a e = some b ∧ P b ∧ read step b post = some q ∧ ∀ x ∈ post, K x := by
  induction log using List.reverseRecOn generalizing q with
  | nil =>
      obtain rfl := Option.some.inj h
      exact absurd hq hp
  | append_singleton log e ih =>
      obtain ⟨a, b, ha, hstep, hb⟩ := read_split h
      obtain rfl : b = q := Option.some.inj hb
      by_cases hPa : P a
      · obtain ⟨pre, e', post, a', b', rfl, hpre, ha', he', hb', hpost, hall⟩ := ih ha hPa
        refine ⟨pre, e', post ++ [e], a', b', by simp, hpre, ha', he', hb', ?_, ?_⟩
        · rw [read_append, hpost]
          simp [hstep]
        · intro x hx
          rcases List.mem_append.mp hx with hx | hx
          · exact hall x hx
          · rw [List.mem_singleton.mp hx]
            exact hK a e b hPa hstep hq
      · exact ⟨log, e, [], a, b, rfl, ha, hPa, hstep, hq, rfl, by simp⟩

/-- A log kept newest first: what holds of each entry and the ones before it. -/
lemma forall_suffix_cons {P : ε → List ε → Prop} {e : ε} {log : List ε} :
    (∀ e' earlier, e' :: earlier <:+ e :: log → P e' earlier) ↔
      P e log ∧ ∀ e' earlier, e' :: earlier <:+ log → P e' earlier := by
  constructor
  · exact fun h => ⟨h e log List.suffix_rfl,
      fun e' earlier hsuff => h e' earlier (hsuff.trans (List.suffix_cons e log))⟩
  · rintro ⟨he, hlog⟩ e' earlier hsuff
    rcases List.suffix_cons_iff.mp hsuff with heq | hsuff
    · obtain ⟨rfl, rfl⟩ := List.cons_eq_cons.mp heq
      exact he
    · exact hlog e' earlier hsuff

end Automata.Monitor
