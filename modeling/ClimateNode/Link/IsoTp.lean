import Mathlib.Data.List.Basic

/-!
Reading a message through a buffer.  A transport delivers a payload whole, and a
receive call copies as much of it as the caller's buffer holds and keeps the
rest for the next call.

* `recvCalls`: what the successive calls return.
* `recvCalls_flatten`: nothing is lost or reordered.
* `recvCalls_eq_singleton_iff`: the payload comes back in one call exactly when
  it fits the buffer.
-/

namespace IsoTp

variable {α : Type*}

/-- The calls that empty a payload of at most `k` elements. -/
def recvCallsAux (cap : ℕ) : ℕ → List α → List (List α)
  | _, [] => []
  | 0, _ :: _ => []
  | k + 1, a :: as => (a :: as).take cap :: recvCallsAux cap k ((a :: as).drop cap)

/-- What the successive receive calls return for one payload, each with a buffer
of `cap` elements. -/
def recvCalls (cap : ℕ) (payload : List α) : List (List α) :=
  recvCallsAux cap payload.length payload

variable {cap : ℕ}

lemma recvCallsAux_succ (k : ℕ) {payload : List α} (h : payload ≠ []) :
    recvCallsAux cap (k + 1) payload =
      payload.take cap :: recvCallsAux cap k (payload.drop cap) := by
  cases payload with
  | nil => exact absurd rfl h
  | cons a as => rfl

lemma recvCallsAux_flatten (hcap : 0 < cap) : ∀ (k : ℕ) (payload : List α),
    payload.length ≤ k → (recvCallsAux cap k payload).flatten = payload := by
  intro k
  induction k with
  | zero =>
      intro payload hk
      rw [List.eq_nil_of_length_eq_zero (Nat.le_zero.mp hk)]
      rfl
  | succ k ih =>
      intro payload hk
      by_cases hnil : payload = []
      · subst hnil
        rfl
      · have hpos := List.length_pos_of_ne_nil hnil
        have hdrop : (payload.drop cap).length ≤ k := by
          rw [List.length_drop]
          omega
        rw [recvCallsAux_succ k hnil, List.flatten_cons, ih _ hdrop, List.take_append_drop]

/-- Counting more calls than there are makes no difference. -/
lemma recvCallsAux_eq (hcap : 0 < cap) (k l : ℕ) (payload : List α) (hk : payload.length ≤ k)
    (hl : payload.length ≤ l) : recvCallsAux cap k payload = recvCallsAux cap l payload := by
  induction k generalizing l payload with
  | zero =>
      rw [List.eq_nil_of_length_eq_zero (Nat.le_zero.mp hk)]
      cases l <;> rfl
  | succ k ih =>
      by_cases hnil : payload = []
      · subst hnil
        cases l <;> rfl
      · have hpos := List.length_pos_of_ne_nil hnil
        have hlen : (payload.drop cap).length = payload.length - cap := List.length_drop
        obtain ⟨l, rfl⟩ : ∃ m, l = m + 1 := ⟨l - 1, by omega⟩
        rw [recvCallsAux_succ k hnil, recvCallsAux_succ l hnil,
          ih l (payload.drop cap) (by omega) (by omega)]

@[simp] lemma recvCalls_nil : recvCalls cap ([] : List α) = [] := rfl

/-- One call, and the rest. -/
lemma recvCalls_cons (hcap : 0 < cap) {payload : List α} (h : payload ≠ []) :
    recvCalls cap payload = payload.take cap :: recvCalls cap (payload.drop cap) := by
  have hpos := List.length_pos_of_ne_nil h
  have hlen : (payload.drop cap).length = payload.length - cap := List.length_drop
  obtain ⟨k, hk⟩ : ∃ k, payload.length = k + 1 := ⟨payload.length - 1, by omega⟩
  rw [recvCalls, hk, recvCallsAux_succ k h, recvCalls,
    recvCallsAux_eq hcap k _ _ (by omega) (Nat.le_refl _)]

/-- No call returns more than the buffer holds. -/
lemma length_le_of_mem_recvCalls {payload call : List α} (h : call ∈ recvCalls cap payload) :
    call.length ≤ cap := by
  rw [recvCalls] at h
  generalize payload.length = k at h
  induction k generalizing payload with
  | zero => cases payload <;> simp [recvCallsAux] at h
  | succ k ih =>
      cases payload with
      | nil => simp [recvCallsAux] at h
      | cons a as =>
          rcases List.mem_cons.mp h with rfl | h
          · exact List.length_take_le _ _
          · exact ih h

/-- The calls return the payload, cut but not changed. -/
theorem recvCalls_flatten (hcap : 0 < cap) (payload : List α) :
    (recvCalls cap payload).flatten = payload :=
  recvCallsAux_flatten hcap _ payload (Nat.le_refl _)

/-- The first call returns as much as the buffer holds. -/
lemma recvCalls_head (payload : List α) (h : payload ≠ []) :
    (recvCalls cap payload).head? = some (payload.take cap) := by
  obtain ⟨k, hk⟩ : ∃ k, payload.length = k + 1 :=
    ⟨payload.length - 1, by have := List.length_pos_of_ne_nil h; omega⟩
  rw [recvCalls, hk, recvCallsAux_succ k h]
  rfl

/-- A payload that fits comes back in one call. -/
lemma recvCalls_of_le {payload : List α} (h : payload ≠ []) (hle : payload.length ≤ cap) :
    recvCalls cap payload = [payload] := by
  obtain ⟨k, hk⟩ : ∃ k, payload.length = k + 1 :=
    ⟨payload.length - 1, by have := List.length_pos_of_ne_nil h; omega⟩
  rw [recvCalls, hk, recvCallsAux_succ k h, List.take_of_length_le hle,
    List.drop_eq_nil_of_le hle]
  cases k <;> rfl

/-- **One call** returns a payload exactly when it fits the buffer. -/
theorem recvCalls_eq_singleton_iff {payload : List α} (h : payload ≠ []) :
    recvCalls cap payload = [payload] ↔ payload.length ≤ cap := by
  refine ⟨fun heq => ?_, recvCalls_of_le h⟩
  have hhead : (recvCalls cap payload).head? = _ := recvCalls_head payload h
  rw [heq, List.head?_cons, Option.some.injEq] at hhead
  have hlen := congrArg List.length hhead
  rw [List.length_take] at hlen
  omega

end IsoTp
