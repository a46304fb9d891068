import ClimateNode.Shared.Fields
import ClimateNode.Shared.Commands
import Mathlib.Data.List.TakeWhile

/-!
Acks across the wire: `encode_ack` of `shared/protocol.cpp`, read back under the
schema of `proto/node.proto` with the bounds of `proto/node.options`.

* `encodeAck_eq`: an Ack whose DeviceInfo is terminated always encodes, into 140
  bytes at most.
* `decodeAck_encodeFields`: it reads back as it was.
-/

namespace ClimateNode

open Wire Nanopb

/-! ### The reader -/

/-- `node_Ack` as a reader fills it in, the status being the number that
arrived. -/
structure DecodedAck where
  schemaVersion : UInt32
  sequence : UInt32
  status : UInt32
  detail : Bytes
  deviceInfo : Option DeviceInfo
  deriving DecidableEq, Repr, Inhabited

/-- One field of a DeviceInfo. -/
def deviceInfoField (i : DeviceInfo) (f : Field) : Option DeviceInfo :=
  match f.number with
  | 1 => (stringField 16 f.value).map fun s => { i with firmwareVersion := s }
  | 2 => (stringField 32 f.value).map fun s => { i with board := s }
  | 3 => (stringField 24 f.value).map fun s => { i with clientId := s }
  | _ => some i

/-- One field of an Ack.  A DeviceInfo merges with one already there. -/
def ackField (m : DecodedAck) (f : Field) : Option DecodedAck :=
  match f.number with
  | 1 => (uint32Field f.value).map fun v => { m with schemaVersion := v }
  | 2 => (uint32Field f.value).map fun v => { m with sequence := v }
  | 3 => (uint32Field f.value).map fun v => { m with status := v }
  | 4 => (stringField 48 f.value).map fun s => { m with detail := s }
  | 5 => (submessage f.value).bind fun fs =>
      (fs.foldlM deviceInfoField (m.deviceInfo.getD default)).map fun i =>
        { m with deviceInfo := some i }
  | _ => some m

/-- `decode_ack`. -/
def decodeAck (bs : Bytes) : Option DecodedAck := readMessage ackField default bs

/-! ### Sizes -/

lemma AckStatus.wire_lt (st : AckStatus) : st.wire < 128 := by
  cases st <;> decide

/-- Two statuses are two numbers. -/
lemma AckStatus.wire_injective {st st' : AckStatus} (h : st.wire = st'.wire) : st = st' := by
  cases st <;> cases st' <;> first | rfl | exact absurd h (by decide)

lemma AckStatus.toNat_wire (st : AckStatus) : (UInt32.ofNat st.wire).toNat = st.wire := by
  cases st <;> rfl

lemma infoTerminated_iff {i : DeviceInfo} : infoTerminated i = true ↔
    i.firmwareVersion.length < 16 ∧ i.board.length < 32 ∧ i.clientId.length < 24 := by
  simp [infoTerminated, and_assoc]

section Info

variable {i : DeviceInfo}

lemma deviceInfoFields_length_le (h : infoTerminated i = true) :
    (encodeFields (deviceInfoFields i)).length ≤ 75 := by
  obtain ⟨hf, hb, hc⟩ := infoTerminated_iff.mp h
  have h1 : (encodeFields (implicitString 1 i.firmwareVersion)).length ≤ 15 + 2 :=
    encodeFields_implicitString_le (by omega) (by omega) (by omega)
  have h2 : (encodeFields (implicitString 2 i.board)).length ≤ 31 + 2 :=
    encodeFields_implicitString_le (by omega) (by omega) (by omega)
  have h3 : (encodeFields (implicitString 3 i.clientId)).length ≤ 23 + 2 :=
    encodeFields_implicitString_le (by omega) (by omega) (by omega)
  simp only [deviceInfoFields, encodeFields_append, List.length_append]
  omega

lemma deviceInfoFields_wellFormed (h : infoTerminated i = true) :
    ∀ f ∈ deviceInfoFields i, f.WellFormed := by
  obtain ⟨hf, hb, hc⟩ := infoTerminated_iff.mp h
  simp only [deviceInfoFields, List.forall_mem_append]
  refine ⟨⟨implicitString_wellFormed ?_ ?_ ?_, implicitString_wellFormed ?_ ?_ ?_⟩,
    implicitString_wellFormed ?_ ?_ ?_⟩
  all_goals omega

/-- A DeviceInfo reads back as it was. -/
lemma foldlM_deviceInfoFields (h : infoTerminated i = true) :
    (deviceInfoFields i).foldlM deviceInfoField default = some i := by
  obtain ⟨hf, hb, hc⟩ := infoTerminated_iff.mp h
  simp only [deviceInfoFields, List.append_assoc]
  rw [foldlM_append_some (foldlM_implicitString (w := fun r s => { r with firmwareVersion := s })
      (by simp [deviceInfoField, stringField_len hf]) rfl),
    foldlM_append_some (foldlM_implicitString (w := fun r s => { r with board := s })
      (by simp [deviceInfoField, stringField_len hb]) rfl)]
  exact foldlM_implicitString (w := fun (r : DeviceInfo) s => { r with clientId := s })
    (by simp [deviceInfoField, stringField_len hc]) rfl

end Info

section Ack

variable {m : Ack}

lemma ackTerminated_iff : ackTerminated m = true ↔
    m.detail.length < 48 ∧ ∀ i ∈ m.deviceInfo, infoTerminated i = true := by
  rw [ackTerminated]
  cases m.deviceInfo <;> simp

/-- The worst case of every field at once. -/
lemma ackFields_length_le (h : ackTerminated m = true) :
    (encodeFields (ackFields m)).length ≤ nodeAckSize := by
  obtain ⟨hd, hi⟩ := ackTerminated_iff.mp h
  have h1 : (encodeFields (implicit 1 m.schemaVersion.toNat)).length ≤ 6 :=
    encodeFields_implicit_le (by omega) m.schemaVersion.toNat_lt
  have h2 : (encodeFields (implicit 2 m.sequence.toNat)).length ≤ 6 :=
    encodeFields_implicit_le (by omega) m.sequence.toNat_lt
  have h3 : (encodeFields (implicit 3 m.status.wire)).length ≤ 2 :=
    encodeFields_implicit_le_two (by omega) m.status.wire_lt
  have h4 : (encodeFields (implicitString 4 m.detail)).length ≤ 47 + 2 :=
    encodeFields_implicitString_le (by omega) (by omega) (by omega)
  have h5 : (encodeFields (m.deviceInfo.toList.map fun i =>
      ⟨5, .len (encodeFields (deviceInfoFields i))⟩)).length ≤ 75 + 2 := by
    cases hm : m.deviceInfo with
    | none => simp
    | some i =>
        have hlen : (Field.encode ⟨5, .len (encodeFields (deviceInfoFields i))⟩).length ≤ 75 + 2 :=
          encode_len_le (by omega) (by omega) (deviceInfoFields_length_le (hi i hm))
        simpa using hlen
  simp only [ackFields, encodeFields_append, List.length_append, nodeAckSize]
  omega

lemma ackFields_wellFormed (h : ackTerminated m = true) : ∀ f ∈ ackFields m, f.WellFormed := by
  obtain ⟨hd, hi⟩ := ackTerminated_iff.mp h
  have hinfo : ∀ f ∈ m.deviceInfo.toList.map fun i =>
      (⟨5, .len (encodeFields (deviceInfoFields i))⟩ : Field), f.WellFormed := by
    intro f hf
    obtain ⟨i, hm, rfl⟩ := List.mem_map.mp hf
    have hlen := deviceInfoFields_length_le (hi i (by simpa using hm))
    exact wellFormed_of_number (by simp) (by simp) (hlen.trans_lt (by norm_num))
  have hst := m.status.wire_lt
  simp only [ackFields, List.forall_mem_append]
  refine ⟨⟨⟨⟨implicit_wellFormed ?_ ?_ m.schemaVersion.toNat_lt,
    implicit_wellFormed ?_ ?_ m.sequence.toNat_lt⟩, implicit_wellFormed ?_ ?_ ?_⟩,
    implicitString_wellFormed ?_ ?_ ?_⟩, hinfo⟩
  all_goals omega

/-- An Ack reads back as it was. -/
lemma decodeAck_encodeFields (h : ackTerminated m = true) :
    decodeAck (encodeFields (ackFields m)) = some
      ⟨m.schemaVersion, m.sequence, UInt32.ofNat m.status.wire, m.detail, m.deviceInfo⟩ := by
  obtain ⟨hd, hi⟩ := ackTerminated_iff.mp h
  have hst : implicit 3 m.status.wire = implicit 3 (UInt32.ofNat m.status.wire).toNat := by
    rw [m.status.toNat_wire]
  rw [decodeAck, readMessage_encodeFields (ackFields_wellFormed h)]
  simp only [ackFields, List.append_assoc]
  rw [foldlM_append_some (foldlM_implicit (w := fun r v => { r with schemaVersion := v })
      (fun v => by simp [ackField]) rfl m.schemaVersion),
    foldlM_append_some (foldlM_implicit (w := fun r v => { r with sequence := v })
      (fun v => by simp [ackField]) rfl m.sequence),
    hst,
    foldlM_append_some (foldlM_implicit (w := fun r v => { r with status := v })
      (fun v => by simp [ackField]) rfl (UInt32.ofNat m.status.wire)),
    foldlM_append_some (foldlM_implicitString (w := fun r s => { r with detail := s })
      (by simp [ackField, stringField_len hd]) rfl)]
  cases hm : m.deviceInfo with
  | none => rfl
  | some i =>
      have hfields := decodeFields_encodeFields (deviceInfoFields_wellFormed (hi i hm))
      have hread := foldlM_deviceInfoFields (hi i hm)
      have hdefault : (default : DecodedAck).deviceInfo.getD default = default := rfl
      simp [ackField, submessage, hfields, hdefault, hread]

end Ack

/-! ### `encode_ack` -/

section Encode

/-- The message `encode_ack` fills in. -/
def ackOf (seq : UInt32) (status : AckStatus) (detail : Option Bytes) (info : Option DeviceInfo) :
    Ack :=
  ⟨kSchemaVersion, seq, status, strncpy (detail.getD []) 47, info⟩

variable (seq : UInt32) (status : AckStatus) (detail : Option Bytes) {info : Option DeviceInfo}

lemma ackOf_terminated (hi : ∀ i ∈ info, infoTerminated i = true) :
    ackTerminated (ackOf seq status detail info) = true := by
  refine ackTerminated_iff.mpr ⟨?_, hi⟩
  have := List.length_take_le 47 ((detail.getD []).takeWhile (· ≠ 0))
  exact Nat.lt_succ_of_le this

/-- An Ack whose DeviceInfo is terminated always encodes. -/
lemma encodeAck_eq (hi : ∀ i ∈ info, infoTerminated i = true) :
    encodeAck proto3 seq status detail info nodeAckSize =
      encodeFields (ackFields (ackOf seq status detail info)) := by
  have hterm := ackOf_terminated seq status detail hi
  have hle := ackFields_length_le hterm
  rw [encodeAck, ← ackOf]
  simp only [proto3, bounded]
  rw [if_pos hterm, if_pos hle, Option.getD_some]

lemma encodeAck_length (hi : ∀ i ∈ info, infoTerminated i = true) :
    1 ≤ (encodeAck proto3 seq status detail info nodeAckSize).length ∧
      (encodeAck proto3 seq status detail info nodeAckSize).length ≤ nodeAckSize := by
  rw [encodeAck_eq seq status detail hi]
  refine ⟨encodeFields_length_pos ?_, ackFields_length_le (ackOf_terminated seq status detail hi)⟩
  have hv : kSchemaVersion.toNat ≠ 0 := by decide
  simp [ackFields, ackOf, implicit, hv]

lemma decodeAck_encodeAck (hi : ∀ i ∈ info, infoTerminated i = true) :
    decodeAck (encodeAck proto3 seq status detail info nodeAckSize) = some
      ⟨kSchemaVersion, seq, UInt32.ofNat status.wire, strncpy (detail.getD []) 47, info⟩ := by
  rw [encodeAck_eq seq status detail hi,
    decodeAck_encodeFields (ackOf_terminated seq status detail hi)]
  rfl

/-- Nothing to cut: `strncpy` of a C string is its first characters. -/
lemma strncpy_eq_take {s : Bytes} (h : (0 : UInt8) ∉ s) (n : ℕ) : strncpy s n = s.take n := by
  have hall : s.takeWhile (· ≠ 0) = s := by
    refine List.takeWhile_eq_self_iff.mpr fun b hb => ?_
    simpa using fun h0 : b = 0 => h (h0 ▸ hb)
  rw [strncpy, hall]

lemma strncpy_length_le (s : Bytes) (n : ℕ) : (strncpy s n).length ≤ n :=
  List.length_take_le ..

end Encode

/-- The DeviceInfo of a command result is cut to its fields, whoever the node
is. -/
lemma handleCommand_infoTerminated (node : NodeIdentity) (st : CommandState) (cmd : Command)
    (bus : Int) :
    infoTerminated (handleCommand node st cmd bus).1.info = true := by
  have hcut : infoTerminated ⟨strncpy kFirmwareVersion 15, strncpy node.kBoardName 31,
      strncpy node.kNodeClientId 23⟩ = true := by
    refine infoTerminated_iff.mpr ⟨?_, ?_, ?_⟩ <;> exact Nat.lt_succ_of_le (strncpy_length_le _ _)
  rw [handleCommand]
  split_ifs with hdup
  · rfl
  · cases hsc : sensorCmdOf cmd with
    | some sc =>
        rw [applyCommand_sensor node hsc, forwardToSensor]
        split_ifs <;> rfl
    | none =>
        rw [sensorCmdOf] at hsc
        rw [applyCommand]
        split_ifs at hsc ⊢
        · exact hcut
        · rfl

/-- The strings of a DeviceInfo that goes with the Ack of a result end. -/
lemma resultInfo_terminated {node : NodeIdentity} {st : CommandState} {bus : Int} (cmd : Command) :
    ∀ i ∈ (if (handleCommand node st cmd bus).1.hasInfo
      then some (handleCommand node st cmd bus).1.info else none), infoTerminated i = true := by
  intro i hi
  split_ifs at hi
  · obtain rfl := Option.some.inj hi
    exact handleCommand_infoTerminated node st cmd bus
  · simp at hi

end ClimateNode
