import Mathlib.Data.List.Basic
import Mathlib.Tactic.NormNum

/-!
The proto3 wire format, without any schema: a message is a list of numbered
fields back to back, each carrying enough of its own type to be stepped over by
a reader that has never heard of it.

* `encodeVarint`, `decodeVarint`: base-128 integers of at most ten bytes, seven
  bits a byte, lowest group first.
* `Field`, `encodeFields`, `decodeFields`: the field list.
* `decodeFields_encodeFields`: **the round trip**, for every list of
  well-formed fields.
-/

namespace Wire

/-- A byte string. -/
abbrev Bytes := List UInt8

/-! ### Varints -/

/-- The base-128 digits of `n`, at most `k` of them, the high bit set on every
digit but the last. -/
def encodeVarintAux : ℕ → ℕ → Bytes
  | 0, _ => []
  | k + 1, n =>
      if n < 128 then [UInt8.ofNat n]
      else UInt8.ofNat (n % 128 + 128) :: encodeVarintAux k (n / 128)

/-- The varint of a 64-bit value. -/
def encodeVarint (n : ℕ) : Bytes := encodeVarintAux 10 n

/-- Read a varint of at most `k` bytes; `none` when the input ends first or the
last byte allowed still asks for another. -/
def decodeVarintAux : ℕ → Bytes → Option (ℕ × Bytes)
  | 0, _ => none
  | _ + 1, [] => none
  | k + 1, b :: bs =>
      if b.toNat < 128 then some (b.toNat, bs)
      else (decodeVarintAux k bs).map fun p => (b.toNat - 128 + 128 * p.1, p.2)

/-- Read a varint: ten bytes at most, and no more than 64 bits. -/
def decodeVarint (bs : Bytes) : Option (ℕ × Bytes) :=
  (decodeVarintAux 10 bs).filter fun p => decide (p.1 < 2 ^ 64)

lemma decodeVarintAux_encodeVarintAux (rest : Bytes) : ∀ k n, n < 128 ^ (k + 1) →
    decodeVarintAux (k + 1) (encodeVarintAux (k + 1) n ++ rest) = some (n, rest) := by
  have last : ∀ k n, n < 128 →
      decodeVarintAux (k + 1) (encodeVarintAux (k + 1) n ++ rest) = some (n, rest) := by
    intro k n hn
    have hb : (UInt8.ofNat n).toNat = n := by
      rw [UInt8.toNat_ofNat']; omega
    simp [encodeVarintAux, decodeVarintAux, hn, hb]
  intro k
  induction k with
  | zero => exact fun n hn => last 0 n (by simpa using hn)
  | succ k ih =>
      intro n hn
      by_cases hlt : n < 128
      · exact last _ n hlt
      · have hb : (UInt8.ofNat (n % 128 + 128)).toNat = n % 128 + 128 := by
          rw [UInt8.toNat_ofNat']; omega
        have hdiv : n / 128 < 128 ^ (k + 1) := by
          rw [Nat.div_lt_iff_lt_mul (by omega), ← Nat.pow_succ]; exact hn
        rw [encodeVarintAux, if_neg hlt, List.cons_append, decodeVarintAux, hb,
          if_neg (by omega), ih _ hdiv]
        simp only [Option.map_some, Option.some.injEq, Prod.mk.injEq, and_true]
        omega

theorem decodeVarint_encodeVarint {n : ℕ} (hn : n < 2 ^ 64) (rest : Bytes) :
    decodeVarint (encodeVarint n ++ rest) = some (n, rest) := by
  rw [decodeVarint, encodeVarint,
    decodeVarintAux_encodeVarintAux rest 9 n (hn.trans (by norm_num))]
  simpa using hn

/-! ### Fields -/

/-- What a field carries, by wire type. -/
inductive Value where
  | varint (n : ℕ)
  | fixed64 (bs : Bytes)
  | len (bs : Bytes)
  | fixed32 (bs : Bytes)
  deriving DecidableEq, Repr

/-- The wire type that announces a value. -/
def Value.wireType : Value → ℕ
  | .varint _ => 0
  | .fixed64 _ => 1
  | .len _ => 2
  | .fixed32 _ => 5

/-- The bytes after the tag. -/
def Value.encode : Value → Bytes
  | .varint n => encodeVarint n
  | .fixed64 bs => bs
  | .len bs => encodeVarint bs.length ++ bs
  | .fixed32 bs => bs

/-- A value fits its wire type. -/
def Value.Fits : Value → Prop
  | .varint n => n < 2 ^ 64
  | .fixed64 bs => bs.length = 8
  | .len bs => bs.length < 2 ^ 64
  | .fixed32 bs => bs.length = 4

/-- One field of a message. -/
structure Field where
  number : ℕ
  value : Value
  deriving DecidableEq, Repr

/-- A field as the format allows it: the tag is 32 bits and no field is numbered
zero. -/
def Field.WellFormed (f : Field) : Prop :=
  0 < f.number ∧ f.number * 8 + f.value.wireType < 2 ^ 32 ∧ f.value.Fits

/-- Tag, then value. -/
def Field.encode (f : Field) : Bytes :=
  encodeVarint (f.number * 8 + f.value.wireType) ++ f.value.encode

/-- A message: its fields back to back. -/
def encodeFields (fs : List Field) : Bytes := fs.flatMap Field.encode

/-- Cut the first `n` bytes off, if there are that many. -/
def splitBytes (n : ℕ) (bs : Bytes) : Option (Bytes × Bytes) :=
  if n ≤ bs.length then some (bs.take n, bs.drop n) else none

/-- Read the value a wire type announces.  The group types 3 and 4 and the
unassigned 6 and 7 are errors. -/
def decodeValue (wireType : ℕ) (bs : Bytes) : Option (Value × Bytes) :=
  match wireType with
  | 0 => (decodeVarint bs).map fun p => (.varint p.1, p.2)
  | 1 => (splitBytes 8 bs).map fun p => (.fixed64 p.1, p.2)
  | 2 => (decodeVarint bs).bind fun p =>
      (splitBytes p.1 p.2).map fun q => (.len q.1, q.2)
  | 5 => (splitBytes 4 bs).map fun p => (.fixed32 p.1, p.2)
  | _ => none

/-- Read one field. -/
def decodeField (bs : Bytes) : Option (Field × Bytes) :=
  (decodeVarint bs).bind fun t =>
    if t.1 / 8 = 0 ∨ 2 ^ 32 ≤ t.1 then none
    else (decodeValue (t.1 % 8) t.2).map fun p => (⟨t.1 / 8, p.1⟩, p.2)

/-- Read fields until the input ends, `k` of them at most. -/
def decodeFieldsAux : ℕ → Bytes → Option (List Field)
  | _, [] => some []
  | 0, _ :: _ => none
  | k + 1, b :: bs =>
      (decodeField (b :: bs)).bind fun p => (decodeFieldsAux k p.2).map fun fs => p.1 :: fs

/-- Read a message.  Every field takes at least one byte, so the length of the
input bounds their number. -/
def decodeFields (bs : Bytes) : Option (List Field) := decodeFieldsAux bs.length bs

lemma splitBytes_append (bs rest : Bytes) :
    splitBytes bs.length (bs ++ rest) = some (bs, rest) := by
  simp [splitBytes]

lemma decodeValue_encode {v : Value} (hv : v.Fits) (rest : Bytes) :
    decodeValue v.wireType (v.encode ++ rest) = some (v, rest) := by
  cases v with
  | varint n => simp [decodeValue, Value.wireType, Value.encode, decodeVarint_encodeVarint hv]
  | fixed64 bs =>
      have h := splitBytes_append bs rest
      rw [show bs.length = 8 from hv] at h
      simp [decodeValue, Value.wireType, Value.encode, h]
  | len bs =>
      simp only [decodeValue, Value.wireType, Value.encode, List.append_assoc]
      rw [decodeVarint_encodeVarint hv]
      simp [splitBytes_append]
  | fixed32 bs =>
      have h := splitBytes_append bs rest
      rw [show bs.length = 4 from hv] at h
      simp [decodeValue, Value.wireType, Value.encode, h]

lemma Value.wireType_lt (v : Value) : v.wireType < 8 := by
  cases v <;> simp [Value.wireType]

lemma decodeField_encode {f : Field} (hf : f.WellFormed) (rest : Bytes) :
    decodeField (f.encode ++ rest) = some (f, rest) := by
  obtain ⟨hpos, htag, hfit⟩ := hf
  have hw := f.value.wireType_lt
  have hdiv : (f.number * 8 + f.value.wireType) / 8 = f.number := by omega
  have hmod : (f.number * 8 + f.value.wireType) % 8 = f.value.wireType := by omega
  rw [decodeField, Field.encode, List.append_assoc,
    decodeVarint_encodeVarint (htag.trans (by norm_num))]
  simp only [Option.bind_some, hdiv, hmod]
  rw [if_neg (by omega), decodeValue_encode hfit]
  rfl

lemma encodeVarint_ne_nil (n : ℕ) : encodeVarint n ≠ [] := by
  rw [encodeVarint, encodeVarintAux]; split_ifs <;> simp

lemma Field.encode_length_pos (f : Field) : 0 < f.encode.length := by
  rw [Field.encode, List.length_append]
  have := List.length_pos_of_ne_nil (encodeVarint_ne_nil (f.number * 8 + f.value.wireType))
  omega

lemma decodeFieldsAux_encodeFields : ∀ (fs : List Field) (k : ℕ),
    (∀ f ∈ fs, f.WellFormed) → (encodeFields fs).length ≤ k →
    decodeFieldsAux k (encodeFields fs) = some fs := by
  intro fs
  induction fs with
  | nil => intro k _ _; simp [encodeFields, decodeFieldsAux]
  | cons f fs ih =>
      intro k hwf hk
      have hsplit : encodeFields (f :: fs) = f.encode ++ encodeFields fs := rfl
      have hpos := f.encode_length_pos
      rw [hsplit, List.length_append] at hk
      obtain ⟨m, rfl⟩ : ∃ m, k = m + 1 := ⟨k - 1, by omega⟩
      obtain ⟨b, bs, hb⟩ := List.exists_cons_of_length_pos hpos
      have hfield := decodeField_encode (hwf f (by simp)) (encodeFields fs)
      have htail := ih m (fun g hg => hwf g (by simp [hg])) (by omega)
      rw [hsplit]
      rw [hb, List.cons_append] at hfield ⊢
      rw [decodeFieldsAux, hfield]
      simp [htail]

/-- **The round trip**: a message reads back as the fields it was written
from. -/
theorem decodeFields_encodeFields {fs : List Field} (h : ∀ f ∈ fs, f.WellFormed) :
    decodeFields (encodeFields fs) = some fs :=
  decodeFieldsAux_encodeFields fs _ h le_rfl

end Wire
