import ClimateNode.Shared.Fields

/-!
Telemetry across the wire: `encode_telemetry` of `shared/protocol.cpp`, read back
under the schema of `proto/node.proto` and under the one before it
(`OldTelemetry` of `tests/protocol/src/main.cpp`), in which the measurements had
no `optional` and there was no `pressure_pa`.

* `encodeTelemetry_roundTrip`: **the round trip**, and the size that every
  transmit buffer is cut to.
* `telemetry_schemas_interoperate`: **old and new**, in both directions.
-/

namespace ClimateNode

open Wire Nanopb

/-! ### The readers -/

/-- `node_Telemetry` as a reader fills it in.  A proto3 enum is open, so the
status is the number that arrived. -/
structure DecodedTelemetry where
  schemaVersion : UInt32
  sequence : UInt32
  uptimeMs : UInt32
  co2Ppm : Option UInt32
  temperatureC : Option UInt32
  humidityRh : Option UInt32
  sensorStatus : UInt32
  pressurePa : Option UInt32
  deriving DecidableEq, Repr, Inhabited

/-- `OldTelemetry`: a measurement is its value and nothing says whether it was
made. -/
structure OldTelemetry where
  schemaVersion : UInt32
  sequence : UInt32
  uptimeMs : UInt32
  co2Ppm : UInt32
  temperatureC : UInt32
  humidityRh : UInt32
  sensorStatus : UInt32
  deriving DecidableEq, Repr, Inhabited

/-- One field of a Telemetry. -/
def telemetryField (m : DecodedTelemetry) (f : Field) : Option DecodedTelemetry :=
  match f.number with
  | 1 => (uint32Field f.value).map fun v => { m with schemaVersion := v }
  | 2 => (uint32Field f.value).map fun v => { m with sequence := v }
  | 3 => (uint32Field f.value).map fun v => { m with uptimeMs := v }
  | 4 => (uint32Field f.value).map fun v => { m with co2Ppm := some v }
  | 5 => (floatField f.value).map fun bits => { m with temperatureC := some bits }
  | 6 => (floatField f.value).map fun bits => { m with humidityRh := some bits }
  | 7 => (uint32Field f.value).map fun v => { m with sensorStatus := v }
  | 8 => (uint32Field f.value).map fun v => { m with pressurePa := some v }
  | _ => some m

/-- One field of a Telemetry, for the previous schema. -/
def oldTelemetryField (m : OldTelemetry) (f : Field) : Option OldTelemetry :=
  match f.number with
  | 1 => (uint32Field f.value).map fun v => { m with schemaVersion := v }
  | 2 => (uint32Field f.value).map fun v => { m with sequence := v }
  | 3 => (uint32Field f.value).map fun v => { m with uptimeMs := v }
  | 4 => (uint32Field f.value).map fun v => { m with co2Ppm := v }
  | 5 => (floatField f.value).map fun bits => { m with temperatureC := bits }
  | 6 => (floatField f.value).map fun bits => { m with humidityRh := bits }
  | 7 => (uint32Field f.value).map fun v => { m with sensorStatus := v }
  | _ => some m

/-- `decode_telemetry`. -/
def decodeTelemetry (bs : Bytes) : Option DecodedTelemetry :=
  readMessage telemetryField default bs

/-- `pb_decode` under the previous schema. -/
def decodeOldTelemetry (bs : Bytes) : Option OldTelemetry :=
  readMessage oldTelemetryField default bs

/-- A float without presence is not written when its four bytes are zero, so a
negative zero is written. -/
def implicitFloat (number : ℕ) (bits : UInt32) : List Field :=
  if bits = 0 then [] else [⟨number, .fixed32 (float32 bits)⟩]

/-- The fields the previous schema writes. -/
def oldTelemetryFields (m : OldTelemetry) : List Field :=
  implicit 1 m.schemaVersion.toNat ++ implicit 2 m.sequence.toNat ++
    implicit 3 m.uptimeMs.toNat ++ implicit 4 m.co2Ppm.toNat ++ implicitFloat 5 m.temperatureC ++
    implicitFloat 6 m.humidityRh ++ implicit 7 m.sensorStatus.toNat

/-- `pb_encode` under the previous schema. -/
def encodeOldTelemetry (m : OldTelemetry) : Bytes := encodeFields (oldTelemetryFields m)

/-! ### What is on the wire -/

/-- What a reader of the current schema sees of a message. -/
def Telemetry.decoded (m : Telemetry) : DecodedTelemetry where
  schemaVersion := m.schemaVersion
  sequence := m.sequence
  uptimeMs := m.uptimeMs
  co2Ppm := m.co2Ppm
  temperatureC := m.temperatureC
  humidityRh := m.humidityRh
  sensorStatus := UInt32.ofNat m.sensorStatus.wire
  pressurePa := m.pressurePa

/-- A value of the previous schema, as evidence: a zero is none. -/
def present (v : UInt32) : Option UInt32 := if v = 0 then none else some v

/-- What a reader of the current schema sees of a message of the previous
one. -/
def OldTelemetry.decoded (m : OldTelemetry) : DecodedTelemetry where
  schemaVersion := m.schemaVersion
  sequence := m.sequence
  uptimeMs := m.uptimeMs
  co2Ppm := present m.co2Ppm
  temperatureC := present m.temperatureC
  humidityRh := present m.humidityRh
  sensorStatus := m.sensorStatus
  pressurePa := none

/-- The fields that carry what a reader sees, whichever schema wrote them. -/
def DecodedTelemetry.fields (d : DecodedTelemetry) : List Field :=
  implicit 1 d.schemaVersion.toNat ++ implicit 2 d.sequence.toNat ++
    implicit 3 d.uptimeMs.toNat ++ optionalInt 4 d.co2Ppm ++ optionalFloat 5 d.temperatureC ++
    optionalFloat 6 d.humidityRh ++ implicit 7 d.sensorStatus.toNat ++ optionalInt 8 d.pressurePa

lemma SensorStatus.wire_lt (st : SensorStatus) : st.wire < 128 := by
  cases st <;> decide

lemma SensorStatus.toNat_wire (st : SensorStatus) :
    (UInt32.ofNat st.wire).toNat = st.wire := by
  cases st <;> rfl

lemma telemetryFields_eq (m : Telemetry) : telemetryFields m = m.decoded.fields := by
  simp only [telemetryFields, DecodedTelemetry.fields, Telemetry.decoded, SensorStatus.toNat_wire]

lemma implicit_eq_optionalInt (number : ℕ) (v : UInt32) :
    implicit number v.toNat = optionalInt number (present v) := by
  have hv : v.toNat = 0 ↔ v = 0 := by rw [← UInt32.toNat_inj]; rfl
  simp only [implicit, present, hv]
  split_ifs <;> rfl

lemma implicitFloat_eq_optionalFloat (number : ℕ) (bits : UInt32) :
    implicitFloat number bits = optionalFloat number (present bits) := by
  rw [implicitFloat, present]; split_ifs <;> rfl

lemma oldTelemetryFields_eq (m : OldTelemetry) : oldTelemetryFields m = m.decoded.fields := by
  simp only [oldTelemetryFields, DecodedTelemetry.fields, OldTelemetry.decoded,
    implicit_eq_optionalInt 4, implicitFloat_eq_optionalFloat, optionalInt, Option.toList_none,
    List.map_nil, List.append_nil]

namespace DecodedTelemetry

lemma fields_wellFormed (d : DecodedTelemetry) : ∀ f ∈ d.fields, f.WellFormed := by
  have int : ∀ number v, 0 < number → number < 16 →
      ∀ f ∈ implicit number (UInt32.toNat v), f.WellFormed :=
    fun _ v h₀ h => implicit_wellFormed h₀ h v.toNat_lt
  simp only [fields, List.forall_mem_append]
  refine ⟨⟨⟨⟨⟨⟨⟨int 1 _ ?_ ?_, int 2 _ ?_ ?_⟩, int 3 _ ?_ ?_⟩, optionalInt_wellFormed ?_ ?_⟩,
    optionalFloat_wellFormed ?_ ?_⟩, optionalFloat_wellFormed ?_ ?_⟩, int 7 _ ?_ ?_⟩,
    optionalInt_wellFormed ?_ ?_⟩
  all_goals omega

/-- A reader sees what the fields carry: one rule a field, from the first to the
last. -/
lemma foldlM_fields (d : DecodedTelemetry) : d.fields.foldlM telemetryField default = some d := by
  simp only [fields, List.append_assoc]
  rw [foldlM_append_some (foldlM_implicit (w := fun r v => { r with schemaVersion := v })
      (fun v => by simp [telemetryField]) rfl d.schemaVersion),
    foldlM_append_some (foldlM_implicit (w := fun r v => { r with sequence := v })
      (fun v => by simp [telemetryField]) rfl d.sequence),
    foldlM_append_some (foldlM_implicit (w := fun r v => { r with uptimeMs := v })
      (fun v => by simp [telemetryField]) rfl d.uptimeMs),
    foldlM_append_some (foldlM_optionalInt (w := fun r v => { r with co2Ppm := v })
      (fun v => by simp [telemetryField]) rfl d.co2Ppm),
    foldlM_append_some (foldlM_optionalFloat (w := fun r v => { r with temperatureC := v })
      (fun v => by simp [telemetryField]) rfl d.temperatureC),
    foldlM_append_some (foldlM_optionalFloat (w := fun r v => { r with humidityRh := v })
      (fun v => by simp [telemetryField]) rfl d.humidityRh),
    foldlM_append_some (foldlM_implicit (w := fun r v => { r with sensorStatus := v })
      (fun v => by simp [telemetryField]) rfl d.sensorStatus)]
  exact foldlM_optionalInt (w := fun (r : DecodedTelemetry) v => { r with pressurePa := v })
    (fun v => by simp [telemetryField]) rfl d.pressurePa

lemma decode_fields (d : DecodedTelemetry) : decodeTelemetry (encodeFields d.fields) = some d := by
  rw [decodeTelemetry, readMessage_encodeFields d.fields_wellFormed, foldlM_fields]

/-- What the previous schema sees of the same bytes. -/
def old (d : DecodedTelemetry) : OldTelemetry where
  schemaVersion := d.schemaVersion
  sequence := d.sequence
  uptimeMs := d.uptimeMs
  co2Ppm := d.co2Ppm.getD 0
  temperatureC := d.temperatureC.getD 0
  humidityRh := d.humidityRh.getD 0
  sensorStatus := d.sensorStatus

end DecodedTelemetry

/-- The two readers agree on every field the previous schema has, and the
previous one steps over the pressure. -/
lemma oldTelemetryField_old {d d' : DecodedTelemetry} {f : Field}
    (h : telemetryField d f = some d') : oldTelemetryField d.old f = some d'.old := by
  have known : ∀ {v : Option UInt32} {g : UInt32 → DecodedTelemetry} {g' : UInt32 → OldTelemetry},
      v.map g = some d' → (∀ a, g' a = (g a).old) → v.map g' = some d'.old := by
    intro v g g' hv hg
    obtain ⟨a, rfl, rfl⟩ := Option.map_eq_some_iff.mp hv
    simp [hg]
  rw [telemetryField] at h
  rw [oldTelemetryField]
  generalize f.number = n at h ⊢
  split at h
  case h_8 =>
    obtain ⟨a, -, rfl⟩ := Option.map_eq_some_iff.mp h
    rfl
  case h_9 => simp_all
  all_goals exact known h fun _ => rfl

/-- Any bytes a reader of the current schema can read, a reader of the previous
one can read as well. -/
theorem decodeOldTelemetry_of_decodeTelemetry {bs : Bytes} {d : DecodedTelemetry}
    (h : decodeTelemetry bs = some d) : decodeOldTelemetry bs = some d.old :=
  readMessage_map DecodedTelemetry.old (fun _ _ _ => oldTelemetryField_old) h

/-! ### `encode_telemetry` -/

lemma DecodedTelemetry.fields_ne_nil {d : DecodedTelemetry} (h : d.schemaVersion ≠ 0) :
    d.fields ≠ [] := by
  have hv : d.schemaVersion.toNat ≠ 0 := fun h₀ => h (by rw [← UInt32.toNat_inj]; exact h₀)
  simp [fields, implicit, hv]

/-- The worst case of every field at once. -/
lemma telemetryFields_length_le (m : Telemetry) :
    (encodeFields (telemetryFields m)).length ≤ nodeTelemetrySize := by
  have h1 : (encodeFields (implicit 1 m.schemaVersion.toNat)).length ≤ 6 :=
    encodeFields_implicit_le (by omega) m.schemaVersion.toNat_lt
  have h2 : (encodeFields (implicit 2 m.sequence.toNat)).length ≤ 6 :=
    encodeFields_implicit_le (by omega) m.sequence.toNat_lt
  have h3 : (encodeFields (implicit 3 m.uptimeMs.toNat)).length ≤ 6 :=
    encodeFields_implicit_le (by omega) m.uptimeMs.toNat_lt
  have h4 : (encodeFields (optionalInt 4 m.co2Ppm)).length ≤ 6 :=
    encodeFields_optionalInt_le (by omega)
  have h5 : (encodeFields (optionalFloat 5 m.temperatureC)).length ≤ 5 :=
    encodeFields_optionalFloat_le (by omega)
  have h6 : (encodeFields (optionalFloat 6 m.humidityRh)).length ≤ 5 :=
    encodeFields_optionalFloat_le (by omega)
  have h7 : (encodeFields (implicit 7 m.sensorStatus.wire)).length ≤ 2 :=
    encodeFields_implicit_le_two (by omega) m.sensorStatus.wire_lt
  have h8 : (encodeFields (optionalInt 8 m.pressurePa)).length ≤ 6 :=
    encodeFields_optionalInt_le (by omega)
  simp only [telemetryFields, encodeFields_append, List.length_append, nodeTelemetrySize]
  omega

/-- The bytes of a reading, in a buffer that takes the worst case. -/
lemma encodeTelemetry_eq {reading : SensorReading} {outLen : ℕ} (h : nodeTelemetrySize ≤ outLen) :
    encodeTelemetry proto3 reading outLen = encodeFields (telemetryOf reading).decoded.fields := by
  have hle := (telemetryFields_length_le (telemetryOf reading)).trans h
  rw [encodeTelemetry]
  simp only [proto3, bounded]
  rw [if_pos hle, Option.getD_some, telemetryFields_eq]

/-- **The round trip**: into any buffer of the generated size a reading encodes to
between 1 and 42 bytes, and they read back as the same header, the measurements
that were flagged, bit for bit, and no others, and the status the mapping
assigns.  A buffer too small for the encoding gets nothing. -/
theorem encodeTelemetry_roundTrip (reading : SensorReading) :
    (∀ outLen, nodeTelemetrySize ≤ outLen →
      1 ≤ (encodeTelemetry proto3 reading outLen).length ∧
      (encodeTelemetry proto3 reading outLen).length ≤ 42 ∧
      decodeTelemetry (encodeTelemetry proto3 reading outLen) = some
        { schemaVersion := 1
          sequence := reading.sequence
          uptimeMs := reading.uptimeMs
          co2Ppm := if reading.hasCo2Ppm then some reading.co2Ppm else none
          temperatureC := if reading.hasTemperatureC then some reading.temperatureC else none
          humidityRh := if reading.hasHumidityRh then some reading.humidityRh else none
          sensorStatus :=
            match reading.status with
            | .ok => 1
            | .warmingUp => 2
            | .error => 3
          pressurePa := if reading.hasPressurePa then some reading.pressurePa else none }) ∧
    ∀ outLen, outLen < (encodeTelemetry proto3 reading nodeTelemetrySize).length →
      encodeTelemetry proto3 reading outLen = [] := by
  constructor
  · intro outLen hle
    rw [encodeTelemetry_eq hle]
    refine ⟨?_, ?_, ?_⟩
    · exact encodeFields_length_pos (DecodedTelemetry.fields_ne_nil (show kSchemaVersion ≠ 0 by decide))
    · rw [← telemetryFields_eq]
      exact telemetryFields_length_le _
    · rw [DecodedTelemetry.decode_fields]
      cases hst : reading.status <;> simp [Telemetry.decoded, telemetryOf, hst] <;> decide
  · intro outLen hlt
    rw [encodeTelemetry_eq le_rfl, ← telemetryFields_eq] at hlt
    rw [encodeTelemetry]
    simp only [proto3, bounded]
    rw [if_neg (by omega), Option.getD_none]

/-- **Old and new**: the previous schema reads what `encode_telemetry` writes, an
absent measurement as zero and the pressure not at all; and the current schema
reads what the previous one wrote, a measurement being present exactly when its
bits were not all zero. -/
theorem telemetry_schemas_interoperate :
    (∀ reading outLen, nodeTelemetrySize ≤ outLen →
      decodeOldTelemetry (encodeTelemetry proto3 reading outLen) = some
        { schemaVersion := 1
          sequence := reading.sequence
          uptimeMs := reading.uptimeMs
          co2Ppm := if reading.hasCo2Ppm then reading.co2Ppm else 0
          temperatureC := if reading.hasTemperatureC then reading.temperatureC else 0
          humidityRh := if reading.hasHumidityRh then reading.humidityRh else 0
          sensorStatus := UInt32.ofNat reading.status.toWire.wire }) ∧
    ∀ old, decodeTelemetry (encodeOldTelemetry old) = some
      { schemaVersion := old.schemaVersion
        sequence := old.sequence
        uptimeMs := old.uptimeMs
        co2Ppm := if old.co2Ppm = 0 then none else some old.co2Ppm
        temperatureC := if old.temperatureC = 0 then none else some old.temperatureC
        humidityRh := if old.humidityRh = 0 then none else some old.humidityRh
        sensorStatus := old.sensorStatus
        pressurePa := none } := by
  constructor
  · intro reading outLen hle
    rw [encodeTelemetry_eq hle,
      decodeOldTelemetry_of_decodeTelemetry (DecodedTelemetry.decode_fields _), Option.some.injEq]
    have getD_ite : ∀ (b : Bool) (v : UInt32),
        (if b = true then some v else none).getD 0 = if b = true then v else 0 := by
      intro b v; cases b <;> rfl
    simp only [DecodedTelemetry.old, Telemetry.decoded, telemetryOf, getD_ite, kSchemaVersion]
  · intro old
    rw [encodeOldTelemetry, oldTelemetryFields_eq, DecodedTelemetry.decode_fields]
    rfl

end ClimateNode
