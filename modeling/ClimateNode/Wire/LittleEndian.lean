import Mathlib.Data.Nat.Digits.Defs

/-!
Numbers as byte strings of a fixed width, the least significant byte first, and the
shifts and ors such strings are put together by.

* `littleEndian`, `toLittleEndian`: the number of a byte string, and the `k` low bytes
  of a number.
* `littleEndian_toLittleEndian`, `toLittleEndian_littleEndian`: **inverse to each
  other**, but for what does not fit `k` bytes.
* `littleEndian_cons_or`, `shiftLeft_mod`: reading by shift and or, within a word.
-/

namespace Wire

/-- The number a byte string stands for, its least significant byte first. -/
def littleEndian (bs : List UInt8) : ℕ := Nat.ofDigits 256 (bs.map UInt8.toNat)

/-- The `k` low bytes of `n`, the least significant one first. -/
def toLittleEndian : ℕ → ℕ → List UInt8
  | 0, _ => []
  | k + 1, n => UInt8.ofNat n :: toLittleEndian k (n / 256)

@[simp] lemma littleEndian_nil : littleEndian [] = 0 := rfl

@[simp] lemma littleEndian_cons (b : UInt8) (bs : List UInt8) :
    littleEndian (b :: bs) = b.toNat + 256 * littleEndian bs := by
  rw [littleEndian, List.map_cons, Nat.ofDigits_cons]
  rfl

@[simp] lemma length_toLittleEndian (k n : ℕ) : (toLittleEndian k n).length = k := by
  induction k generalizing n with
  | zero => rfl
  | succ k ih => rw [toLittleEndian, List.length_cons, ih]

/-- What is read of the low bytes. -/
theorem littleEndian_toLittleEndian (k n : ℕ) :
    littleEndian (toLittleEndian k n) = n % 256 ^ k := by
  induction k generalizing n with
  | zero => rw [pow_zero, Nat.mod_one]; rfl
  | succ k ih =>
      calc littleEndian (toLittleEndian (k + 1) n)
          = n % 256 + 256 * (n / 256 % 256 ^ k) := by
            rw [toLittleEndian, littleEndian_cons, ih]
            rfl
        _ = n % 256 ^ (k + 1) := by rw [pow_succ', Nat.mod_mul]

/-- A byte string is the low bytes of its number. -/
theorem toLittleEndian_littleEndian (bs : List UInt8) :
    toLittleEndian bs.length (littleEndian bs) = bs := by
  induction bs with
  | nil => rfl
  | cons b bs ih =>
      have hb : b.toNat < 256 := b.toNat_lt
      have hlow : UInt8.ofNat (b.toNat + 256 * littleEndian bs) = b := by
        apply UInt8.toNat_inj.mp
        rw [UInt8.toNat_ofNat', Nat.add_mul_mod_self_left, Nat.mod_eq_of_lt hb]
      have hhigh : (b.toNat + 256 * littleEndian bs) / 256 = littleEndian bs := by omega
      rw [List.length_cons, littleEndian_cons, toLittleEndian, hlow, hhigh, ih]

/-- The lowest byte is or-ed to the others shifted. -/
theorem littleEndian_cons_or (b : UInt8) (bs : List UInt8) :
    littleEndian (b :: bs) = b.toNat ||| littleEndian bs <<< 8 := by
  rw [littleEndian_cons, Nat.or_comm, ← Nat.shiftLeft_add_eq_or_of_lt b.toNat_lt,
    Nat.shiftLeft_eq]
  omega

/-- A byte shifted within a word loses nothing. -/
lemma shiftLeft_mod (b : UInt8) {k w : ℕ} (hw : 8 + k ≤ w) :
    b.toNat <<< k % 2 ^ w = b.toNat <<< k := by
  refine Nat.mod_eq_of_lt ?_
  calc b.toNat <<< k = b.toNat * 2 ^ k := Nat.shiftLeft_eq _ _
    _ < 2 ^ 8 * 2 ^ k := Nat.mul_lt_mul_of_pos_right b.toNat_lt (Nat.two_pow_pos k)
    _ = 2 ^ (8 + k) := (Nat.pow_add 2 8 k).symm
    _ ≤ 2 ^ w := Nat.pow_le_pow_right (by decide) hw

end Wire
