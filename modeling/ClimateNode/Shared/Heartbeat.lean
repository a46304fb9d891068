import ClimateNode.Shared.CanLink
import ClimateNode.Wire.LittleEndian
import Mathlib.Tactic.Common
import Mathlib.Order.Defs.LinearOrder

/-!
The heartbeat frame of `shared/can_link.h`: exactly eight bytes, packed by hand.
Nothing generates them, so that the two ends agree is a property of this code alone.

* `heartbeatPack`, `heartbeatUnpack`: the two functions.  Unpacking reads a memory that
  may end anywhere, and fails where it would read past its end.
* `IsHeartbeat`: what a frame has to look like; `IsHeartbeat.unpack` and
  `heartbeatUnpack_of_not` are what becomes of such a frame and of anything else,
  whatever lies beyond it.
* `heartbeat_inverse`: **pack and unpack are inverse** over the whole format.
-/

namespace ClimateNode

open Wire

/-- `kHeartbeatLayoutVersion`. -/
def kHeartbeatLayoutVersion : UInt8 := 1

/-- `kHeartbeatLen`. -/
def kHeartbeatLen : ℕ := 8

/-- `enum heartbeat_state`. -/
inductive HeartbeatState where
  | boot | warmingUp | ok | sensorError
  deriving DecidableEq, Repr

/-- The byte a state is on the wire. -/
def HeartbeatState.byte : HeartbeatState → UInt8
  | .boot => 0
  | .warmingUp => 1
  | .ok => 2
  | .sensorError => 3

/-- The declared states, in order. -/
def HeartbeatState.declared : Fin 4 → HeartbeatState
  | 0 => .boot
  | 1 => .warmingUp
  | 2 => .ok
  | 3 => .sensorError

/-- A byte cast to the state it declares. -/
def HeartbeatState.ofByte (b : UInt8) (h : ¬ HeartbeatState.sensorError.byte < b) :
    HeartbeatState :=
  declared ⟨b.toNat, Nat.lt_succ_of_le (UInt8.le_iff_toNat_le.mp (UInt8.not_lt.mp h))⟩

/-- `struct heartbeat`. -/
@[ext]
structure Heartbeat where
  state : HeartbeatState
  uptimeS : UInt32
  sequenceLow : UInt8
  deriving DecidableEq, Repr

/-- What `heartbeat_unpack` makes of bytes 1 to 6: the uptime least significant byte
first. -/
def Heartbeat.ofBytes (b1 : UInt8) (h : ¬ HeartbeatState.sensorError.byte < b1)
    (b2 b3 b4 b5 b6 : UInt8) : Heartbeat where
  state := .ofByte b1 h
  uptimeS := b2.toUInt32 ||| (b3.toUInt32 <<< 8) ||| (b4.toUInt32 <<< 16) ||| (b5.toUInt32 <<< 24)
  sequenceLow := b6

/-- `heartbeat_pack`. -/
def heartbeatPack (hb : Heartbeat) : List UInt8 :=
  [kHeartbeatLayoutVersion,
    hb.state.byte,
    (hb.uptimeS &&& 0xFF).toUInt8,
    ((hb.uptimeS >>> 8) &&& 0xFF).toUInt8,
    ((hb.uptimeS >>> 16) &&& 0xFF).toUInt8,
    ((hb.uptimeS >>> 24) &&& 0xFF).toUInt8,
    hb.sequenceLow,
    0xFF]

/-- `heartbeat_unpack`: what it answers and what it leaves in `out`; `none` where it
would read past the end of `input`. -/
def heartbeatUnpack (input : List UInt8) (len : ℕ) (out : Heartbeat) :
    Option (Bool × Heartbeat) :=
  if len ≠ kHeartbeatLen then some (false, out)
  else do
    let version ← input[0]?
    if version ≠ kHeartbeatLayoutVersion then some (false, out)
    else do
      let state ← input[1]?
      if h : HeartbeatState.sensorError.byte < state then some (false, out)
      else do
        let b2 ← input[2]?
        let b3 ← input[3]?
        let b4 ← input[4]?
        let b5 ← input[5]?
        let b6 ← input[6]?
        some (true, .ofBytes state h b2 b3 b4 b5 b6)

/-! ### States and bytes -/

lemma HeartbeatState.byte_le (st : HeartbeatState) :
    ¬ HeartbeatState.sensorError.byte < st.byte := by
  cases st <;> decide

@[simp] lemma HeartbeatState.ofByte_byte (st : HeartbeatState)
    (h : ¬ HeartbeatState.sensorError.byte < st.byte) : ofByte st.byte h = st := by
  cases st <;> rfl

@[simp] lemma HeartbeatState.byte_declared (i : Fin 4) : (declared i).byte = UInt8.ofNat i := by
  revert i
  decide

@[simp] lemma HeartbeatState.byte_ofByte {b : UInt8}
    (h : ¬ HeartbeatState.sensorError.byte < b) : (ofByte b h).byte = b := by
  rw [ofByte, byte_declared, UInt8.ofNat_toNat]

/-! ### The uptime -/

/-- The bytes `heartbeat_pack` writes for the uptime. -/
lemma uptime_packed (u : UInt32) :
    [(u &&& 0xFF).toUInt8, ((u >>> 8) &&& 0xFF).toUInt8, ((u >>> 16) &&& 0xFF).toUInt8,
      ((u >>> 24) &&& 0xFF).toUInt8] = toLittleEndian 4 u.toNat := by
  have hmask (v : UInt32) : (v &&& 0xFF).toUInt8 = UInt8.ofNat v.toNat := by
    apply UInt8.toNat_inj.mp
    have h255 : (0xFF : UInt32).toNat = 2 ^ 8 - 1 := rfl
    rw [UInt32.toNat_toUInt8, UInt32.toNat_and, UInt8.toNat_ofNat', h255,
      Nat.and_two_pow_sub_one_eq_mod, Nat.mod_mod]
  simp only [hmask, toLittleEndian, UInt32.toNat_shiftRight, Nat.shiftRight_eq_div_pow,
    Nat.div_div_eq_div_mul]
  rfl

/-- The uptime `heartbeat_unpack` reads. -/
lemma uptime_ofBytes {b1 : UInt8} (h : ¬ HeartbeatState.sensorError.byte < b1)
    (b2 b3 b4 b5 b6 : UInt8) :
    (Heartbeat.ofBytes b1 h b2 b3 b4 b5 b6).uptimeS.toNat = littleEndian [b2, b3, b4, b5] := by
  have h8 := shiftLeft_mod b3 (show 8 + 8 ≤ 32 by decide)
  have h16 := shiftLeft_mod b4 (show 8 + 16 ≤ 32 by decide)
  have h24 := shiftLeft_mod b5 (show 8 + 24 ≤ 32 by decide)
  simp only [Heartbeat.ofBytes, UInt32.toNat_or, UInt32.toNat_shiftLeft, UInt8.toNat_toUInt32,
    UInt32.reduceToNat, Nat.reduceMod, h8, h16, h24, littleEndian_cons_or, littleEndian_nil,
    Nat.zero_shiftLeft, Nat.or_zero, Nat.shiftLeft_or_distrib, ← Nat.shiftLeft_add, Nat.or_assoc,
    Nat.reduceAdd]

/-! ### Pack and unpack -/

/-- A frame of the layout, with a declared state. -/
def IsHeartbeat (bytes : List UInt8) : Prop :=
  bytes.length = 8 ∧ bytes[0]? = some 1 ∧ ∃ st, bytes[1]? = some st ∧ st ≤ 3

instance (bytes : List UInt8) : Decidable (IsHeartbeat bytes) := by
  dsimp only [IsHeartbeat]
  infer_instance

/-- The bytes of the uptime. -/
def uptimeBytes (bytes : List UInt8) : List UInt8 := (bytes.drop 2).take 4

lemma uptimeBytes_heartbeatPack (hb : Heartbeat) :
    uptimeBytes (heartbeatPack hb) = toLittleEndian 4 hb.uptimeS.toNat :=
  uptime_packed hb.uptimeS

/-- What unpacking makes of eight bytes. -/
lemma heartbeatUnpack_bytes (b0 b1 b2 b3 b4 b5 b6 b7 : UInt8) (rest : List UInt8)
    (out : Heartbeat) :
    heartbeatUnpack (b0 :: b1 :: b2 :: b3 :: b4 :: b5 :: b6 :: b7 :: rest) kHeartbeatLen out =
      if h : b0 = kHeartbeatLayoutVersion ∧ ¬ HeartbeatState.sensorError.byte < b1 then
        some (true, .ofBytes b1 h.2 b2 b3 b4 b5 b6)
      else some (false, out) := by
  by_cases hv : b0 = kHeartbeatLayoutVersion
  · by_cases hst : HeartbeatState.sensorError.byte < b1 <;> simp [heartbeatUnpack, hv, hst]
  · simp [heartbeatUnpack, hv]

/-- Unpacking what was packed. -/
lemma Heartbeat.ofBytes_packed (hb : Heartbeat) :
    ofBytes hb.state.byte hb.state.byte_le (hb.uptimeS &&& 0xFF).toUInt8
      ((hb.uptimeS >>> 8) &&& 0xFF).toUInt8 ((hb.uptimeS >>> 16) &&& 0xFF).toUInt8
      ((hb.uptimeS >>> 24) &&& 0xFF).toUInt8 hb.sequenceLow = hb := by
  refine Heartbeat.ext (HeartbeatState.ofByte_byte hb.state hb.state.byte_le) ?_ rfl
  apply UInt32.toNat_inj.mp
  rw [uptime_ofBytes, uptime_packed, littleEndian_toLittleEndian]
  exact Nat.mod_eq_of_lt hb.uptimeS.toNat_lt

/-- **The round trip** of a heartbeat. -/
lemma heartbeatUnpack_heartbeatPack (hb out : Heartbeat) :
    heartbeatUnpack (heartbeatPack hb) kHeartbeatLen out = some (true, hb) := by
  rw [heartbeatPack, heartbeatUnpack_bytes, dif_pos ⟨rfl, hb.state.byte_le⟩,
    Heartbeat.ofBytes_packed]

/-- The layout, byte by byte. -/
example : heartbeatPack ⟨.ok, 0x04030201, 0x7B⟩ = [1, 2, 1, 2, 3, 4, 0x7B, 0xFF] := by decide

/-- Packing what was unpacked. -/
lemma heartbeatPack_ofBytes {b1 : UInt8} (h : ¬ HeartbeatState.sensorError.byte < b1)
    (b2 b3 b4 b5 b6 : UInt8) :
    heartbeatPack (.ofBytes b1 h b2 b3 b4 b5 b6) = [1, b1, b2, b3, b4, b5, b6, 0xFF] := by
  have hbytes := uptime_packed (Heartbeat.ofBytes b1 h b2 b3 b4 b5 b6).uptimeS
  have hback : toLittleEndian 4 (littleEndian [b2, b3, b4, b5]) = [b2, b3, b4, b5] :=
    toLittleEndian_littleEndian [b2, b3, b4, b5]
  rw [uptime_ofBytes, hback] at hbytes
  simp only [List.cons.injEq, and_true] at hbytes
  obtain ⟨h2, h3, h4, h5⟩ := hbytes
  have hstate : (Heartbeat.ofBytes b1 h b2 b3 b4 b5 b6).state.byte = b1 :=
    HeartbeatState.byte_ofByte h
  rw [heartbeatPack, hstate, h2, h3, h4, h5]
  rfl

/-- A frame of the layout is accepted, whatever lies beyond it. -/
lemma IsHeartbeat.unpack {bytes : List UInt8} (h : IsHeartbeat bytes) : ∃ hb,
    (∀ rest out, heartbeatUnpack (bytes ++ rest) bytes.length out = some (true, hb)) ∧
      heartbeatPack hb = bytes.take 7 ++ [0xFF] ∧
      littleEndian (uptimeBytes bytes) = hb.uptimeS.toNat := by
  obtain ⟨hlen, hv, st, hst, hle⟩ := h
  match bytes, hlen with
  | [b0, b1, b2, b3, b4, b5, b6, b7], _ =>
      obtain rfl : b0 = 1 := by simpa using hv
      obtain rfl : b1 = st := by simpa using hst
      have hdecl : ¬ HeartbeatState.sensorError.byte < b1 := UInt8.not_lt.mpr hle
      refine ⟨_, fun rest out => ?_, heartbeatPack_ofBytes hdecl b2 b3 b4 b5 b6,
        (uptime_ofBytes hdecl b2 b3 b4 b5 b6).symm⟩
      exact (heartbeatUnpack_bytes 1 b1 b2 b3 b4 b5 b6 b7 rest out).trans (dif_pos ⟨rfl, hdecl⟩)

/-- Anything else is not, and nothing of it is looked at that is not there. -/
lemma heartbeatUnpack_of_not {bytes : List UInt8} (h : ¬ IsHeartbeat bytes) (rest : List UInt8)
    (out : Heartbeat) : heartbeatUnpack (bytes ++ rest) bytes.length out = some (false, out) := by
  by_cases hlen : bytes.length = 8
  · match bytes, hlen with
    | [b0, b1, b2, b3, b4, b5, b6, b7], hlen =>
        refine (heartbeatUnpack_bytes b0 b1 b2 b3 b4 b5 b6 b7 rest out).trans (dif_neg ?_)
        rintro ⟨rfl, hst⟩
        exact h ⟨hlen, rfl, b1, rfl, UInt8.not_lt.mp hst⟩
  · exact if_pos hlen

/-- **Pack and unpack are inverse** over the whole format: every heartbeat is unpacked
from its eight bytes; and of the byte strings, unpacking takes the frames of the layout
and no others, reads nothing past them, leaves `out` alone when it fails, and says
what packs to the same frame, the reserved byte apart. -/
theorem heartbeat_inverse :
    (∀ hb out : Heartbeat, (heartbeatPack hb).length = 8 ∧
      heartbeatUnpack (heartbeatPack hb) 8 out = some (true, hb) ∧
      littleEndian (uptimeBytes (heartbeatPack hb)) = hb.uptimeS.toNat) ∧
    ∀ (bytes : List UInt8) (out : Heartbeat), ∃ accepted hb,
      (∀ rest, heartbeatUnpack (bytes ++ rest) bytes.length out = some (accepted, hb)) ∧
      (accepted = true ↔ bytes.length = 8 ∧ bytes[0]? = some 1 ∧
        ∃ st, bytes[1]? = some st ∧ st ≤ 3) ∧
      (accepted = false → hb = out) ∧
      (accepted = true → (heartbeatPack hb).take 7 = bytes.take 7 ∧
        (bytes[7]? = some 0xFF → heartbeatPack hb = bytes) ∧
        littleEndian (uptimeBytes bytes) = hb.uptimeS.toNat) := by
  refine ⟨fun hb out => ⟨rfl, heartbeatUnpack_heartbeatPack hb out, ?_⟩, fun bytes out => ?_⟩
  · rw [uptimeBytes_heartbeatPack, littleEndian_toLittleEndian]
    exact Nat.mod_eq_of_lt hb.uptimeS.toNat_lt
  · by_cases h : IsHeartbeat bytes
    · obtain ⟨hb, hunpack, hpack, huptime⟩ := h.unpack
      refine ⟨true, hb, fun rest => hunpack rest out, iff_of_true rfl h, by simp,
        fun _ => ⟨?_, fun hreserved => ?_, huptime⟩⟩
      · rw [hpack, List.take_append_of_le_length (by simp [h.1]), List.take_take, Nat.min_self]
      · calc heartbeatPack hb = bytes.take 7 ++ bytes[7]?.toList := by rw [hpack, hreserved]; rfl
          _ = bytes.take 8 := List.take_add_one.symm
          _ = bytes := List.take_of_length_le h.1.le
    · exact ⟨false, out, fun rest => heartbeatUnpack_of_not h rest out,
        iff_of_false Bool.false_ne_true h, fun _ => rfl, by simp⟩

end ClimateNode
