import ClimateNode.Wire.Proto3

/-!
Messages over the field list, still without a schema: how long an encoding gets,
and how a reader folds the fields it meets into a record.

* `encodeVarint_length_le`, `Field.encode_length_le`: what a bound on the number
  in a field says about its bytes.
* `readMessage`: a reader is one step a field; `readMessage_encodeFields` is the
  fold over the fields that were written.
* `foldlM_map`: a reader that keeps less than another reads a part of what the
  other reads.
-/

namespace Wire

/-! ### Sizes -/

lemma encodeVarintAux_length_le : ∀ k m n, n < 128 ^ (m + 1) →
    (encodeVarintAux k n).length ≤ m + 1 := by
  intro k
  induction k with
  | zero => intro m n _; simp [encodeVarintAux]
  | succ k ih =>
      intro m n hn
      rw [encodeVarintAux]
      split_ifs with hlt
      · simp
      · obtain ⟨m, rfl⟩ : ∃ m', m = m' + 1 := by
          cases m with
          | zero => omega
          | succ m => exact ⟨m, rfl⟩
        have hdiv : n / 128 < 128 ^ (m + 1) := by
          rw [Nat.div_lt_iff_lt_mul (by omega), ← Nat.pow_succ]; exact hn
        have := ih m (n / 128) hdiv
        rw [List.length_cons]
        omega

/-- Seven bits a byte. -/
lemma encodeVarint_length_le {m n : ℕ} (h : n < 128 ^ (m + 1)) :
    (encodeVarint n).length ≤ m + 1 :=
  encodeVarintAux_length_le 10 m n h

/-- A 32-bit integer takes five bytes at most. -/
lemma encodeVarint_length_le_five {n : ℕ} (h : n < 2 ^ 32) : (encodeVarint n).length ≤ 5 :=
  encodeVarint_length_le (m := 4) (h.trans (by norm_num))

/-- A number below 128 takes one byte. -/
lemma encodeVarint_length_le_one {n : ℕ} (h : n < 128) : (encodeVarint n).length ≤ 1 :=
  encodeVarint_length_le (m := 0) (by simpa using h)

/-- A field numbered below 16 has a tag of one byte. -/
lemma Field.encode_length_le {f : Field} {m : ℕ} (hnum : f.number < 16)
    (hval : f.value.encode.length ≤ m) : f.encode.length ≤ m + 1 := by
  have hw := f.value.wireType_lt
  have htag : (encodeVarint (f.number * 8 + f.value.wireType)).length ≤ 1 :=
    encodeVarint_length_le_one (by omega)
  rw [Field.encode, List.length_append]
  omega

@[simp] lemma encodeFields_nil : encodeFields [] = [] := rfl

@[simp] lemma encodeFields_cons (f : Field) (fs : List Field) :
    encodeFields (f :: fs) = f.encode ++ encodeFields fs := rfl

@[simp] lemma encodeFields_append (fs gs : List Field) :
    encodeFields (fs ++ gs) = encodeFields fs ++ encodeFields gs := by
  simp [encodeFields]

/-- Only the message without fields is empty. -/
lemma encodeFields_length_pos {fs : List Field} (h : fs ≠ []) : 0 < (encodeFields fs).length := by
  obtain ⟨f, fs, rfl⟩ := List.exists_cons_of_ne_nil h
  rw [encodeFields_cons, List.length_append]
  have := f.encode_length_pos
  omega

/-! ### Reading -/

variable {σ : Type*} {step : σ → Field → Option σ} {s : σ}

/-- Read a message into a record, one field at a time from the first. -/
def readMessage (step : σ → Field → Option σ) (s : σ) (bs : Bytes) : Option σ :=
  (decodeFields bs).bind fun fs => fs.foldlM step s

/-- A reader sees the fields that were written. -/
lemma readMessage_encodeFields {fs : List Field} (h : ∀ f ∈ fs, f.WellFormed) :
    readMessage step s (encodeFields fs) = fs.foldlM step s := by
  rw [readMessage, decodeFields_encodeFields h, Option.bind_some]

/-- Read on, once the first fields are read. -/
lemma foldlM_append_some {fs gs : List Field} {s t : σ} (h : fs.foldlM step s = some t) :
    (fs ++ gs).foldlM step s = gs.foldlM step t := by
  rw [List.foldlM_append, h]; rfl

/-- A reader that keeps less than another reads a part of what the other reads. -/
theorem foldlM_map {τ : Type*} {step' : τ → Field → Option τ} (proj : σ → τ)
    (hstep : ∀ s f t, step s f = some t → step' (proj s) f = some (proj t)) :
    ∀ (fs : List Field) (s t : σ), fs.foldlM step s = some t →
      fs.foldlM step' (proj s) = some (proj t) := by
  intro fs
  induction fs with
  | nil =>
      intro s t h
      rw [List.foldlM_nil, Option.pure_def, Option.some.injEq] at h
      rw [h]; rfl
  | cons f fs ih =>
      intro s t h
      rw [List.foldlM_cons, Option.bind_eq_bind] at h
      obtain ⟨s', hs', h⟩ := Option.bind_eq_some_iff.mp h
      rw [List.foldlM_cons, hstep s f s' hs']
      exact ih s' t h

/-- A reader that keeps less than another reads a part of a whole message as well. -/
lemma readMessage_map {τ : Type*} {step' : τ → Field → Option τ} (proj : σ → τ)
    (hstep : ∀ s f t, step s f = some t → step' (proj s) f = some (proj t)) {bs : Bytes} {t : σ}
    (h : readMessage step s bs = some t) : readMessage step' (proj s) bs = some (proj t) := by
  obtain ⟨fs, hfs, h⟩ := Option.bind_eq_some_iff.mp h
  rw [readMessage, hfs]
  exact foldlM_map proj hstep fs s t h

end Wire
