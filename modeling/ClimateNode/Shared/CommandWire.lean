import ClimateNode.Shared.Fields

/-!
Commands across the wire: every Command the schema can express, as a host of any
later version may send it, through `decode_command` of `shared/protocol.cpp`.

* `foldlM_commandField`: the decoder keeps three things apart, the version, the
  sequence and the arm; the fields of each in their order are all that matters.
* `mergedArm_concat`: of several arms the last one wins; an arm that comes twice
  in a row merges with itself, which shows only when the second omits its
  interval.
* `decodeCommand_forward_compatible`: **forward compatibility**.
-/

namespace ClimateNode

open Wire Nanopb

/-! ### What a host can say -/

/-- An arm of the `oneof`, with what it carries. -/
inductive CommandArm where
  | setInterval (intervalMs : UInt32)
  | triggerMeasurement
  | getDeviceInfo
  deriving DecidableEq, Repr

/-- The Command with these fields set. -/
def commandOf (schemaVersion sequence : UInt32) : Option CommandArm → Command
  | none => ⟨schemaVersion, sequence, 0, 0⟩
  | some (.setInterval intervalMs) => ⟨schemaVersion, sequence, setIntervalTag, intervalMs⟩
  | some .triggerMeasurement => ⟨schemaVersion, sequence, triggerMeasurementTag, 0⟩
  | some .getDeviceInfo => ⟨schemaVersion, sequence, getDeviceInfoTag, 0⟩

/-- The field an arm is written as. -/
def CommandArm.field : CommandArm → Field
  | .setInterval intervalMs => ⟨10, .len (encodeFields (implicit 1 intervalMs.toNat))⟩
  | .triggerMeasurement => ⟨11, .len []⟩
  | .getDeviceInfo => ⟨12, .len []⟩

/-- The fields of a Command, in number order. -/
def commandFields (schemaVersion sequence : UInt32) (arm : Option CommandArm) : List Field :=
  implicit 1 schemaVersion.toNat ++ implicit 2 sequence.toNat ++ arm.toList.map CommandArm.field

/-- The field is an arm of the `oneof`. -/
def isArm (f : Field) : Bool := f.number == 10 || f.number == 11 || f.number == 12

/-- The field is one a Command has. -/
def inCommand (f : Field) : Bool := f.number == 1 || f.number == 2 || isArm f

/-! ### What arrives -/

/-- An arm on top of what was there: an interval that was not written leaves the
one that was. -/
def mergeArm : Option CommandArm → CommandArm → CommandArm
  | some (.setInterval old), .setInterval new => .setInterval (if new = 0 then old else new)
  | _, arm => arm

/-- What several arms come to, from the first to the last. -/
def mergedArm (arms : List CommandArm) : Option CommandArm :=
  arms.foldl (fun merged arm => some (mergeArm merged arm)) none

/-- The two arms are the same member of the `oneof`. -/
def CommandArm.sameArm (a b : CommandArm) : Prop := a.field.number = b.field.number

/-- The last arm wins. -/
lemma mergedArm_concat (arms : List CommandArm) (arm : CommandArm) :
    (∃ merged, mergedArm (arms ++ [arm]) = some merged ∧ merged.sameArm arm) ∧
      ((∀ before ∈ arms.getLast?, ¬ before.sameArm arm) ∨ arm ≠ .setInterval 0 →
        mergedArm (arms ++ [arm]) = some arm) := by
  have hconcat : ∀ (as : List CommandArm) a,
      mergedArm (as ++ [a]) = some (mergeArm (mergedArm as) a) := by
    intro as a
    simp [mergedArm]
  have hsame : ∀ p a, (mergeArm p a).sameArm a := by
    intro p a
    unfold mergeArm
    split <;> rfl
  rw [hconcat]
  refine ⟨⟨_, rfl, hsame _ _⟩, ?_⟩
  intro h
  rw [Option.some.injEq]
  unfold mergeArm
  split
  · rename_i old new hmerged
    rcases h with hlast | hne
    · -- the arms do not end in an interval
      obtain ⟨as, a, rfl⟩ : ∃ as a, arms = as ++ [a] := by
        rcases arms.eq_nil_or_concat with rfl | ⟨as, a, rfl⟩
        · simp [mergedArm] at hmerged
        · exact ⟨as, a, by simp⟩
      rw [hconcat, Option.some.injEq] at hmerged
      have ha := hsame (mergedArm as) a
      rw [hmerged] at ha
      exact absurd ha.symm (hlast a (by simp))
    · have hnew : new ≠ 0 := fun h0 => hne (by rw [h0])
      rw [if_neg hnew]
  · rfl

/-! ### What is read -/

lemma setInterval_submessage (v : UInt32) :
    submessage (.len (encodeFields (implicit 1 v.toNat))) = some (implicit 1 v.toNat) :=
  decodeFields_encodeFields (implicit_wellFormed (by omega) (by omega) v.toNat_lt)

lemma foldlM_setIntervalField (old v : UInt32) :
    (implicit 1 v.toNat).foldlM setIntervalField old = some (if v = 0 then old else v) := by
  have hv : v.toNat = 0 ↔ v = 0 := by rw [← UInt32.toNat_inj]; rfl
  simp only [implicit, hv]
  split_ifs <;> simp [setIntervalField]

/-- An arm on top of what was there. -/
lemma commandField_arm (v seq : UInt32) (before : Option CommandArm) (arm : CommandArm) :
    commandField (commandOf v seq before) arm.field =
      some (commandOf v seq (some (mergeArm before arm))) := by
  cases arm with
  | setInterval ms =>
      have hzero : (if ms = 0 then 0 else ms) = ms := by split_ifs with h <;> simp [h]
      rcases before with _ | (old | _ | _) <;>
        simp [commandField, CommandArm.field, setInterval_submessage, foldlM_setIntervalField,
          commandOf, mergeArm, setIntervalTag, triggerMeasurementTag, getDeviceInfoTag, hzero]
  | triggerMeasurement => rcases before with _ | (old | _ | _) <;> rfl
  | getDeviceInfo => rcases before with _ | (old | _ | _) <;> rfl

/-- Any other number is stepped over. -/
lemma commandField_skip {f : Field} (h : inCommand f = false) (c : Command) :
    commandField c f = some c := by
  simp only [inCommand, isArm, Bool.or_eq_false_iff, beq_eq_false_iff_ne] at h
  rw [commandField]
  split <;> simp_all

lemma commandField_version (v seq v' : UInt32) (arm : Option CommandArm) :
    commandField (commandOf v seq arm) ⟨1, .varint v'.toNat⟩ = some (commandOf v' seq arm) := by
  rcases arm with _ | (_ | _ | _) <;> simp [commandField, commandOf]

lemma commandField_sequence (v seq v' : UInt32) (arm : Option CommandArm) :
    commandField (commandOf v seq arm) ⟨2, .varint v'.toNat⟩ = some (commandOf v v' arm) := by
  rcases arm with _ | (_ | _ | _) <;> simp [commandField, commandOf]

/-- **The decoder keeps three things apart**: the last version, the last sequence
and the arms are read each from their own fields, wherever the others stand. -/
lemma foldlM_commandField : ∀ (fs : List Field) (v seq : UInt32) (arm : Option CommandArm)
    (vs seqs : List UInt32) (arms : List CommandArm),
    fs.filter (·.number == 1) = vs.map (fun v => ⟨1, .varint v.toNat⟩) →
    fs.filter (·.number == 2) = seqs.map (fun v => ⟨2, .varint v.toNat⟩) →
    fs.filter isArm = arms.map CommandArm.field →
    fs.foldlM commandField (commandOf v seq arm) =
      some (commandOf (vs.getLastD v) (seqs.getLastD seq)
        (arms.foldl (fun merged arm => some (mergeArm merged arm)) arm)) := by
  intro fs
  induction fs with
  | nil =>
      intro v seq arm vs seqs arms hvs hseqs harms
      obtain rfl : vs = [] := List.map_eq_nil_iff.mp hvs.symm
      obtain rfl : seqs = [] := List.map_eq_nil_iff.mp hseqs.symm
      obtain rfl : arms = [] := List.map_eq_nil_iff.mp harms.symm
      rfl
  | cons f fs ih =>
      intro v seq arm vs seqs arms hvs hseqs harms
      rw [List.foldlM_cons]
      by_cases h1 : f.number = 1
      · rw [List.filter_cons_of_pos (by simp [h1])] at hvs
        rw [List.filter_cons_of_neg (by simp [h1])] at hseqs
        rw [List.filter_cons_of_neg (by simp [isArm, h1])] at harms
        obtain ⟨v', vs, rfl, rfl, htail⟩ := List.map_eq_cons_iff.mp hvs.symm
        rw [commandField_version, List.getLastD_cons]
        exact ih v' seq arm vs seqs arms htail.symm hseqs harms
      rw [List.filter_cons_of_neg (by simp [h1])] at hvs
      by_cases h2 : f.number = 2
      · rw [List.filter_cons_of_pos (by simp [h2])] at hseqs
        rw [List.filter_cons_of_neg (by simp [isArm, h2])] at harms
        obtain ⟨v', seqs, rfl, rfl, htail⟩ := List.map_eq_cons_iff.mp hseqs.symm
        rw [commandField_sequence, List.getLastD_cons]
        exact ih v v' arm vs seqs arms hvs htail.symm harms
      rw [List.filter_cons_of_neg (by simp [h2])] at hseqs
      by_cases h3 : isArm f = true
      · rw [List.filter_cons_of_pos h3] at harms
        obtain ⟨arm', arms, rfl, rfl, htail⟩ := List.map_eq_cons_iff.mp harms.symm
        rw [commandField_arm, List.foldl_cons]
        exact ih v seq _ vs seqs arms hvs hseqs htail.symm
      · rw [List.filter_cons_of_neg h3] at harms
        rw [commandField_skip (by simp [inCommand, h1, h2, h3])]
        exact ih v seq arm vs seqs arms hvs hseqs harms

/-! ### `decode_command` -/

lemma implicit_eq_map (number : ℕ) (v : UInt32) : ∃ vs : List UInt32,
    implicit number v.toNat = vs.map (fun v => ⟨number, .varint v.toNat⟩) ∧ vs.getLastD 0 = v := by
  have hv : v.toNat = 0 ↔ v = 0 := by rw [← UInt32.toNat_inj]; rfl
  simp only [implicit, hv]
  split_ifs with h
  · exact ⟨[], rfl, h.symm⟩
  · exact ⟨[v], rfl, rfl⟩

lemma CommandArm.field_length_le (arm : CommandArm) : arm.field.encode.length ≤ 8 := by
  cases arm with
  | setInterval ms =>
      exact encode_len_le (by omega) (by omega)
        (encodeFields_implicit_le (by omega) ms.toNat_lt)
  | triggerMeasurement => decide
  | getDeviceInfo => decide

lemma CommandArm.field_wellFormed (arm : CommandArm) : arm.field.WellFormed := by
  have hlen : ∀ v : UInt32, (encodeFields (implicit 1 v.toNat)).length ≤ 6 :=
    fun v => encodeFields_implicit_le (by omega) v.toNat_lt
  cases arm with
  | setInterval ms =>
      exact wellFormed_of_number (show 0 < 10 by omega) (show 10 < 16 by omega)
        ((hlen ms).trans_lt (by norm_num))
  | triggerMeasurement =>
      exact wellFormed_of_number (by decide) (by decide) (show 0 < 2 ^ 64 by decide)
  | getDeviceInfo =>
      exact wellFormed_of_number (by decide) (by decide) (show 0 < 2 ^ 64 by decide)

/-- The generated bound. -/
lemma commandFields_length_le (v seq : UInt32) (arm : Option CommandArm) :
    (encodeFields (commandFields v seq arm)).length ≤ nodeCommandSize := by
  have h1 : (encodeFields (implicit 1 v.toNat)).length ≤ 6 :=
    encodeFields_implicit_le (by omega) v.toNat_lt
  have h2 : (encodeFields (implicit 2 seq.toNat)).length ≤ 6 :=
    encodeFields_implicit_le (by omega) seq.toNat_lt
  have h3 : (encodeFields (arm.toList.map CommandArm.field)).length ≤ 8 := by
    cases arm with
    | none => simp
    | some arm => simpa using arm.field_length_le
  simp only [commandFields, encodeFields_append, List.length_append, nodeCommandSize]
  omega

/-- A message whose known fields are these, in any order but that of the arms,
whatever stands between them. -/
structure CarriesCommand (v seq : UInt32) (arms : List CommandArm) (fs : List Field) : Prop where
  version : fs.filter (·.number == 1) = implicit 1 v.toNat
  sequence : fs.filter (·.number == 2) = implicit 2 seq.toNat
  arms : fs.filter isArm = arms.map CommandArm.field
  unknown : ∀ f ∈ fs, inCommand f = false → f.WellFormed

namespace CarriesCommand

variable {v seq : UInt32} {arms : List CommandArm} {fs : List Field}

lemma wellFormed (h : CarriesCommand v seq arms fs) : ∀ f ∈ fs, f.WellFormed := by
  intro f hf
  by_cases h1 : f.number = 1
  · have hmem : f ∈ implicit 1 v.toNat := h.version ▸ List.mem_filter.mpr ⟨hf, by simp [h1]⟩
    exact implicit_wellFormed (by omega) (by omega) v.toNat_lt f hmem
  by_cases h2 : f.number = 2
  · have hmem : f ∈ implicit 2 seq.toNat := h.sequence ▸ List.mem_filter.mpr ⟨hf, by simp [h2]⟩
    exact implicit_wellFormed (by omega) (by omega) seq.toNat_lt f hmem
  by_cases h3 : isArm f = true
  · have hmem : f ∈ arms.map CommandArm.field := h.arms ▸ List.mem_filter.mpr ⟨hf, h3⟩
    obtain ⟨arm, -, rfl⟩ := List.mem_map.mp hmem
    exact arm.field_wellFormed
  · exact h.unknown f hf (by simp [inCommand, h1, h2, h3])

/-- A message that carries a command decodes, to its fields and what its arms come to. -/
lemma decode (h : CarriesCommand v seq arms fs) :
    decodeCommand proto3 (encodeFields fs) false = (true, commandOf v seq (mergedArm arms)) := by
  obtain ⟨vs, hvs, hv⟩ := implicit_eq_map 1 v
  obtain ⟨seqs, hseqs, hseq⟩ := implicit_eq_map 2 seq
  have hread : proto3.decodeCommand (encodeFields fs) =
      some (commandOf v seq (mergedArm arms)) := by
    calc proto3.decodeCommand (encodeFields fs)
        = readMessage commandField (commandOf 0 0 none) (encodeFields fs) := rfl
      _ = fs.foldlM commandField (commandOf 0 0 none) := readMessage_encodeFields h.wellFormed
      _ = some (commandOf (vs.getLastD 0) (seqs.getLastD 0) (mergedArm arms)) :=
          foldlM_commandField fs 0 0 none vs seqs arms (h.version.trans hvs)
            (h.sequence.trans hseqs) h.arms
      _ = some (commandOf v seq (mergedArm arms)) := by rw [hv, hseq]
  rw [decodeCommand, if_neg (by simp), hread]

/-- The fields of a Command, with unknown fields interleaved, carry it. -/
lemma of_interleaved {arm : Option CommandArm} (h : fs.filter inCommand = commandFields v seq arm)
    (hunknown : ∀ f ∈ fs, inCommand f = false → f.WellFormed) :
    CarriesCommand v seq arm.toList fs := by
  have part : ∀ p : Field → Bool, (∀ f, p f = true → inCommand f = true) →
      fs.filter p = (commandFields v seq arm).filter p := by
    intro p hp
    rw [← h, List.filter_filter]
    exact List.filter_congr fun f _ => by cases hf : p f <;> simp [hp f, hf]
  have hint : ∀ (p : Field → Bool) number n, (implicit number n).filter p =
      if p ⟨number, .varint n⟩ then implicit number n else [] := by
    intro p number n
    rw [implicit]
    split_ifs <;> simp_all
  refine ⟨?_, ?_, ?_, hunknown⟩
  · rw [part _ fun f hf => by simp_all [inCommand], commandFields]
    rcases arm with _ | (_ | _ | _) <;> simp [hint, CommandArm.field]
  · rw [part _ fun f hf => by simp_all [inCommand], commandFields]
    rcases arm with _ | (_ | _ | _) <;> simp [hint, CommandArm.field]
  · rw [part _ fun f hf => by simp_all [inCommand], commandFields]
    rcases arm with _ | (_ | _ | _) <;> simp [hint, CommandArm.field, isArm]

end CarriesCommand

/-- **Forward compatibility**: every Command decodes as it was meant however a
later schema interleaves its fields with unknown ones, and in whatever order the
known ones come; of several arms the last one wins.  On its own a Command takes
20 bytes at most, and what does not decode leaves nothing behind. -/
theorem decodeCommand_forward_compatible :
    (∀ v seq arm fs, fs.filter inCommand = commandFields v seq arm →
      (∀ f ∈ fs, inCommand f = false → f.WellFormed) →
      decodeCommand proto3 (encodeFields fs) false = (true, commandOf v seq arm)) ∧
    (∀ v seq arms fs, CarriesCommand v seq arms fs →
      decodeCommand proto3 (encodeFields fs) false = (true, commandOf v seq (mergedArm arms))) ∧
    (∀ arms arm, (∃ merged, mergedArm (arms ++ [arm]) = some merged ∧ merged.sameArm arm) ∧
      ((∀ before ∈ arms.getLast?, ¬ before.sameArm arm) ∨ arm ≠ .setInterval 0 →
        mergedArm (arms ++ [arm]) = some arm)) ∧
    (∀ v seq arm, (encodeFields (commandFields v seq arm)).length ≤ 20) ∧
    ∀ pb buf oversized, (decodeCommand pb buf oversized).1 = false →
      (decodeCommand pb buf oversized).2 = ⟨0, 0, 0, 0⟩ := by
  refine ⟨?_, fun v seq arms fs => CarriesCommand.decode, mergedArm_concat,
    commandFields_length_le, ?_⟩
  · intro v seq arm fs hfs hunknown
    rw [(CarriesCommand.of_interleaved hfs hunknown).decode]
    cases arm <;> rfl
  · intro pb buf oversized h
    rw [decodeCommand] at h ⊢
    split_ifs at h ⊢ with hover
    · rfl
    · cases hdec : pb.decodeCommand buf with
      | none => rfl
      | some cmd => simp [hdec] at h

end ClimateNode
