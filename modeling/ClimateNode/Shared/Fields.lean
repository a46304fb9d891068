import ClimateNode.Shared.Protocol
import ClimateNode.Wire.Message

/-!
The field shapes nanopb writes, from both ends: how many bytes each takes, and
what a reader that knows the field finds in them.

* `encodeFields_implicit_le` and its kin: the sizes that add up to the generated
  `node_.._size`.
* `foldlM_implicit`, `foldlM_optionalInt` and their kin: one rule a shape, for a
  reader that stores the field; what is not written reads as the default.
-/

namespace ClimateNode.Nanopb

open Wire

/-! ### Readers of a value -/

/-- A `float` field, which refuses every wire type but the four bytes. -/
def floatField : Value → Option UInt32
  | .fixed32 bs => some (UInt32.ofNat (bs.foldr (fun b n => b.toNat + 256 * n) 0))
  | _ => none

/-- A `string` field kept in an array of `maxSize` bytes, the NUL included. -/
def stringField (maxSize : ℕ) : Value → Option Bytes
  | .len bs => if bs.length < maxSize then some bs else none
  | _ => none

@[simp] lemma uint32Field_varint (v : UInt32) : uint32Field (.varint v.toNat) = some v := by
  simp [uint32Field, v.toNat_lt]

@[simp] lemma float32_length (bits : UInt32) : (float32 bits).length = 4 := rfl

/-- Four bytes carry the pattern whole. -/
@[simp] lemma floatField_float32 (bits : UInt32) :
    floatField (.fixed32 (float32 bits)) = some bits := by
  have hbits := bits.toNat_lt
  have shift : ∀ k : UInt32, k.toNat < 32 →
      (bits >>> k).toUInt8.toNat = bits.toNat / 2 ^ k.toNat % 2 ^ 8 := by
    intro k hk
    rw [UInt32.toNat_toUInt8, UInt32.toNat_shiftRight, Nat.mod_eq_of_lt hk,
      Nat.shiftRight_eq_div_pow]
  have h8 := shift 8 (by decide)
  have h16 := shift 16 (by decide)
  have h24 := shift 24 (by decide)
  rw [show (8 : UInt32).toNat = 8 from rfl] at h8
  rw [show (16 : UInt32).toNat = 16 from rfl] at h16
  rw [show (24 : UInt32).toNat = 24 from rfl] at h24
  rw [floatField, Option.some.injEq, ← UInt32.toNat_inj, UInt32.toNat_ofNat']
  simp only [float32, List.foldr_cons, List.foldr_nil, h8, h16, h24, UInt32.toNat_toUInt8]
  omega

lemma stringField_len {maxSize : ℕ} {s : Bytes} (h : s.length < maxSize) :
    stringField maxSize (.len s) = some s := by
  simp [stringField, h]

/-! ### What is written -/

section Written

variable {number n : ℕ} {s : Bytes} {v : Option UInt32}

/-- The fields of the schema are numbered 1 to 15. -/
lemma wellFormed_of_number {f : Field} (h₀ : 0 < f.number) (h : f.number < 16)
    (hfit : f.value.Fits) : f.WellFormed := by
  have hw := f.value.wireType_lt
  exact ⟨h₀, by omega, hfit⟩

lemma implicit_wellFormed (h₀ : 0 < number) (h : number < 16) (hn : n < 2 ^ 32) :
    ∀ f ∈ implicit number n, f.WellFormed := by
  intro f hf
  rw [implicit] at hf
  split_ifs at hf
  · simp at hf
  · obtain rfl := List.mem_singleton.mp hf
    exact wellFormed_of_number h₀ h (hn.trans (by norm_num))

lemma implicitString_wellFormed (h₀ : 0 < number) (h : number < 16) (hs : s.length < 128) :
    ∀ f ∈ implicitString number s, f.WellFormed := by
  intro f hf
  rw [implicitString] at hf
  split_ifs at hf
  · simp at hf
  · obtain rfl := List.mem_singleton.mp hf
    exact wellFormed_of_number h₀ h (hs.trans (by norm_num))

lemma optionalInt_wellFormed (h₀ : 0 < number) (h : number < 16) :
    ∀ f ∈ optionalInt number v, f.WellFormed := by
  intro f hf
  obtain ⟨n, -, rfl⟩ := List.mem_map.mp hf
  exact wellFormed_of_number h₀ h (n.toNat_lt.trans (by norm_num))

lemma optionalFloat_wellFormed (h₀ : 0 < number) (h : number < 16) :
    ∀ f ∈ optionalFloat number v, f.WellFormed := by
  intro f hf
  obtain ⟨bits, -, rfl⟩ := List.mem_map.mp hf
  exact wellFormed_of_number h₀ h (float32_length bits)

lemma encodeFields_implicit_le (hnum : number < 16) (hn : n < 2 ^ 32) :
    (encodeFields (implicit number n)).length ≤ 6 := by
  rw [implicit]
  split_ifs
  · simp
  · simpa using Field.encode_length_le (f := ⟨number, .varint n⟩) hnum
      (encodeVarint_length_le_five hn)

/-- An enum has few values. -/
lemma encodeFields_implicit_le_two (hnum : number < 16) (hn : n < 128) :
    (encodeFields (implicit number n)).length ≤ 2 := by
  rw [implicit]
  split_ifs
  · simp
  · simpa using Field.encode_length_le (f := ⟨number, .varint n⟩) hnum
      (encodeVarint_length_le_one hn)

/-- The tag, a length of one byte, and what it counts. -/
lemma encode_len_le (hnum : number < 16) {m : ℕ} (hm : m < 128) (hs : s.length ≤ m) :
    (Field.encode ⟨number, .len s⟩).length ≤ m + 2 := by
  refine Field.encode_length_le hnum ?_
  have hlen := encodeVarint_length_le_one (hs.trans_lt hm)
  rw [Value.encode, List.length_append]
  omega

lemma encodeFields_implicitString_le (hnum : number < 16) {m : ℕ} (hm : m < 128)
    (hs : s.length ≤ m) : (encodeFields (implicitString number s)).length ≤ m + 2 := by
  rw [implicitString]
  split_ifs
  · simp
  · simpa using encode_len_le hnum hm hs

lemma encodeFields_optionalInt_le (hnum : number < 16) :
    (encodeFields (optionalInt number v)).length ≤ 6 := by
  cases v with
  | none => simp [optionalInt]
  | some n =>
      simpa [optionalInt] using Field.encode_length_le (f := ⟨number, .varint n.toNat⟩) hnum
        (encodeVarint_length_le_five n.toNat_lt)

lemma encodeFields_optionalFloat_le (hnum : number < 16) :
    (encodeFields (optionalFloat number v)).length ≤ 5 := by
  cases v with
  | none => simp [optionalFloat]
  | some bits =>
      have hlen : (Value.fixed32 (float32 bits)).encode.length ≤ 4 := le_rfl
      simpa [optionalFloat] using
        Field.encode_length_le (f := ⟨number, .fixed32 (float32 bits)⟩) hnum hlen

end Written

/-! ### What is read -/

section Read

variable {σ : Type*} {step : σ → Field → Option σ} {number : ℕ} {r : σ}

/-- A scalar without presence: its value, the default when it was not written. -/
lemma foldlM_implicit {w : σ → UInt32 → σ}
    (hstep : ∀ v, step r ⟨number, .varint v.toNat⟩ = some (w r v)) (hzero : w r 0 = r)
    (v : UInt32) : (implicit number v.toNat).foldlM step r = some (w r v) := by
  rw [implicit]
  split_ifs with h
  · have hv : v = 0 := by rw [← UInt32.toNat_inj]; exact h
    simp [hv, hzero]
  · simp [hstep]

lemma foldlM_implicitString {w : σ → Bytes → σ} {s : Bytes}
    (hstep : step r ⟨number, .len s⟩ = some (w r s)) (hempty : w r [] = r) :
    (implicitString number s).foldlM step r = some (w r s) := by
  rw [implicitString]
  split_ifs with h
  · rw [List.isEmpty_iff.mp h, hempty]; rfl
  · simp [hstep]

/-- A scalar with presence: its value, and whether it was there. -/
lemma foldlM_optionalInt {w : σ → Option UInt32 → σ}
    (hstep : ∀ v, step r ⟨number, .varint v.toNat⟩ = some (w r (some v))) (hnone : w r none = r)
    (v : Option UInt32) : (optionalInt number v).foldlM step r = some (w r v) := by
  cases v with
  | none => simp [optionalInt, hnone]
  | some n => simp [optionalInt, hstep]

@[inherit_doc foldlM_optionalInt]
lemma foldlM_optionalFloat {w : σ → Option UInt32 → σ}
    (hstep : ∀ v, step r ⟨number, .fixed32 (float32 v)⟩ = some (w r (some v)))
    (hnone : w r none = r) (v : Option UInt32) :
    (optionalFloat number v).foldlM step r = some (w r v) := by
  cases v with
  | none => simp [optionalFloat, hnone]
  | some bits => simp [optionalFloat, hstep]

end Read

end ClimateNode.Nanopb
