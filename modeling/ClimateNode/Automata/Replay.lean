import Mathlib.Data.List.Destutter
import Mathlib.Data.List.Forall2
import Mathlib.Data.List.Sublists
import Mathlib.Order.Basic

/-!
A stream replayed: read in its order, with entries left out and entries read again.  It
is what comes out of a register that keeps the latest message only, and out of a chain
of those.

* `Replays`: the relation, one entry of the stream at a time.
* `Replays.trans`: **a replay of a replay** is one.
* `Replays.of_destutter`: a list that is, adjacent repeats collapsed, a subsequence.
* `Replays.exists_indices`: the entries read are at indices that never decrease.
-/

namespace Automata

variable {α β : Type*}

/-- `Replays l m`: `l` is read from `m`, from the front.  An entry may be left behind,
and is otherwise there to be read again. -/
inductive Replays : List α → List α → Prop
  | nil (m : List α) : Replays [] m
  | skip {l m : List α} (a : α) (h : Replays l m) : Replays l (a :: m)
  | read {l m : List α} {a : α} (h : Replays l (a :: m)) : Replays (a :: l) (a :: m)

namespace Replays

variable {l m n : List α} {a : α}

/-- Nothing is read that is not there. -/
lemma subset (h : Replays l m) : l ⊆ m := by
  induction h with
  | nil m => exact List.nil_subset m
  | skip a _ ih => exact List.subset_cons_of_subset a ih
  | read _ ih => exact List.cons_subset.mpr ⟨List.mem_cons_self, ih⟩

lemma map (f : α → β) (h : Replays l m) : Replays (l.map f) (m.map f) := by
  induction h with
  | nil m => exact .nil _
  | skip a _ ih => exact .skip (f a) ih
  | read _ ih => exact .read ih

lemma of_sublist (h : l.Sublist m) : Replays l m := by
  induction h with
  | slnil => exact .nil []
  | cons a _ ih => exact .skip a ih
  | cons_cons a _ ih => exact .read (.skip a ih)

lemma refl (l : List α) : Replays l l := of_sublist (List.Sublist.refl l)

/-- Both go on in front with the same entry. -/
lemma cons (h : Replays l m) (a : α) : Replays (a :: l) (a :: m) := .read (.skip a h)

/-- Reading on from an entry that is read itself from another stream. -/
private lemma trans_head (ih : ∀ k : List α, Replays k m → Replays k (a :: n)) {j : List α}
    (h : Replays l j) (hj : j = a :: m) : Replays l (a :: n) := by
  induction h with
  | nil _ => exact .nil _
  | skip b hb _ =>
      obtain ⟨-, rfl⟩ := List.cons.inj hj
      exact ih _ hb
  | read _ ihread =>
      obtain ⟨rfl, -⟩ := List.cons.inj hj
      exact .read (ihread hj)

/-- **A replay of a replay** is a replay. -/
theorem trans (h : Replays l m) (h' : Replays m n) : Replays l n := by
  induction h' generalizing l with
  | nil _ =>
      obtain rfl : l = [] := List.subset_nil.mp h.subset
      exact .nil _
  | skip a _ ih => exact .skip a (ih h)
  | read _ ih => exact trans_head (fun _ => ih) h rfl

/-- A list replays what is left of it when adjacent repeats are collapsed, which starts
as the list does. -/
private lemma destutter' [DecidableEq α] (a : α) (l : List α) :
    ∃ t, l.destutter' (· ≠ ·) a = a :: t ∧ Replays (a :: l) (a :: t) := by
  induction l generalizing a with
  | nil => exact ⟨[], rfl, refl [a]⟩
  | cons b l ih =>
      by_cases hab : a ≠ b
      · obtain ⟨t, ht, hread⟩ := ih b
        exact ⟨b :: t, by rw [List.destutter'_cons_pos _ hab, ht], .read (.skip a hread)⟩
      · obtain ⟨t, ht, hread⟩ := ih a
        obtain rfl : a = b := not_not.mp hab
        exact ⟨t, by rw [List.destutter'_cons_neg _ hab, ht], .read hread⟩

/-- Adjacent repeats collapsed, a subsequence. -/
lemma of_destutter [DecidableEq α] (h : (l.destutter (· ≠ ·)).Sublist m) : Replays l m := by
  cases l with
  | nil => exact .nil m
  | cons a l =>
      obtain ⟨t, ht, hread⟩ := destutter' a l
      exact hread.trans (of_sublist (ht ▸ h))

/-- The stream goes on. -/
lemma append_right (h : Replays l m) (m' : List α) : Replays l (m ++ m') := by
  induction h with
  | nil m => exact .nil _
  | skip a _ ih => exact .skip a ih
  | read _ ih => exact .read ih

/-- The newest entry of the stream is read, for the first time or again. -/
lemma concat (h : Replays l m) (ha : m.getLast? = some a) : Replays (l ++ [a]) m := by
  induction h with
  | nil m => exact of_sublist (List.singleton_sublist.mpr (List.mem_of_getLast? ha))
  | @skip l m b h ih =>
      cases m with
      | nil =>
          obtain rfl : l = [] := List.subset_nil.mp h.subset
          obtain rfl : b = a := by simpa using ha
          exact refl [b]
      | cons c m => exact .skip b (ih (by rwa [List.getLast?_cons_cons] at ha))
  | read _ ih => exact .read (ih ha)

/-- **The indices** of the entries read, in a stream that is made of another. -/
theorem exists_indices {f : β → α} {js : List β} (h : Replays l (js.map f)) :
    ∃ ks : List ℕ, ks.Pairwise (· ≤ ·) ∧
      List.Forall₂ (fun a k => ∃ b, js[k]? = some b ∧ a = f b) l ks := by
  generalize hm : js.map f = m at h
  induction h generalizing js with
  | nil _ => exact ⟨[], .nil, .nil⟩
  | skip a _ ih =>
      obtain ⟨b, js, rfl, rfl, rfl⟩ := List.map_eq_cons_iff.mp hm
      obtain ⟨ks, hks, hread⟩ := ih rfl
      refine ⟨ks.map (· + 1), List.pairwise_map.mpr (hks.imp Nat.succ_le_succ), ?_⟩
      rw [List.forall₂_map_right_iff]
      exact hread.imp fun _ _ hb => by simpa using hb
  | read _ ih =>
      obtain ⟨ks, hks, hread⟩ := ih hm
      obtain ⟨b, js, rfl, rfl, rfl⟩ := List.map_eq_cons_iff.mp hm
      exact ⟨0 :: ks, .cons (fun k _ => Nat.zero_le k) hks, .cons ⟨b, rfl, rfl⟩ hread⟩

end Replays

end Automata
