import ClimateNode.Shared.AppChannels
import Mathlib.Algebra.Order.Group.Int
import Mathlib.Tactic.Common

/-!
Acquisition, the half of the two `sensor.cpp` that is per-sensor: what `read_scd40` of
the gateway and `read_bme280` of the peer make of one sample.  The conversions that go
through a `double` are a parameter (`Conversions`); the pressure, which the peer
converts in integers, is computed.

* `SensorReading.measured`: a measurement of a reading, if it was made.
* `Reported`: every measurement the sensor makes when the sample is good, and none
  otherwise.
* `Reads`: **what a node's read function does** to a blank reading; `scd40_reads` and
  `bme280_reads` say it of the two.
* `pressurePaOf_exact_iff`: when the pressure is exact.
-/

namespace ClimateNode

/-! ### The driver -/

/-- `struct sensor_value`: an integer part and millionths. -/
structure SensorValue where
  val1 : Int32
  val2 : Int32
  deriving DecidableEq, Repr

/-- The channels the nodes ask a driver for. -/
inductive SensorChannel where
  | co2 | ambientTemp | humidity | press
  deriving DecidableEq, Repr

/-- What one sample finds: the answer of `sensor_sample_fetch`, and what each `struct
sensor_value` holds after its `sensor_channel_get`, whose answer nobody looks at. -/
structure Sample where
  rc : ℤ
  value : SensorChannel → SensorValue

/-- The conversions through `sensor_value_to_double`: to a `uint32_t`, and to a `float`,
as its bit pattern. -/
structure Conversions where
  toUInt32 : SensorValue → UInt32
  toFloat : SensorValue → UInt32

/-! ### The two read functions -/

/-- `read_scd40`. -/
def readScd40 (conv : Conversions) (deviceOk : Bool) (sample : Sample) (out : SensorReading) :
    SensorReading :=
  if ¬ deviceOk then { out with status := .error }
  else if sample.rc ≠ 0 then { out with status := .error }
  -- the SCD-40 reports 0 ppm until its first conversion completes
  else if conv.toUInt32 (sample.value .co2) = 0 then { out with status := .warmingUp }
  else
    { out with
      co2Ppm := conv.toUInt32 (sample.value .co2)
      hasCo2Ppm := true
      temperatureC := conv.toFloat (sample.value .ambientTemp)
      hasTemperatureC := true
      humidityRh := conv.toFloat (sample.value .humidity)
      hasHumidityRh := true
      status := .ok }

/-- The whole pascals of a pressure in kilopascals. -/
def pressurePaOf (press : SensorValue) : UInt32 :=
  press.val1.toUInt32 * 1000 + press.val2.toUInt32 / 1000

/-- `read_bme280`. -/
def readBme280 (conv : Conversions) (deviceOk : Bool) (sample : Sample) (out : SensorReading) :
    SensorReading :=
  if ¬ deviceOk then { out with status := .error }
  else if sample.rc ≠ 0 then { out with status := .error }
  else
    { out with
      temperatureC := conv.toFloat (sample.value .ambientTemp)
      hasTemperatureC := true
      humidityRh := conv.toFloat (sample.value .humidity)
      hasHumidityRh := true
      pressurePa := pressurePaOf (sample.value .press)
      hasPressurePa := true
      status := .ok }

/-! ### What a reading reports -/

/-- The measurements a reading may carry. -/
inductive Measurement where
  | co2Ppm | temperatureC | humidityRh | pressurePa
  deriving DecidableEq, Repr

/-- A measurement of a reading, if it was made. -/
def SensorReading.measured (r : SensorReading) : Measurement → Option UInt32
  | .co2Ppm => if r.hasCo2Ppm then some r.co2Ppm else none
  | .temperatureC => if r.hasTemperatureC then some r.temperatureC else none
  | .humidityRh => if r.hasHumidityRh then some r.humidityRh else none
  | .pressurePa => if r.hasPressurePa then some r.pressurePa else none

/-- `struct sensor_reading reading = {}`, its sequence and uptime filled in. -/
def blankReading (sequence uptimeMs : UInt32) : SensorReading :=
  ⟨sequence, uptimeMs, false, 0, false, 0, false, 0, false, 0, .ok⟩

/-- What a sensor measures. -/
abbrev Measures := Measurement → Bool

/-- The SCD-40 has no barometer. -/
def scd40Measures : Measures
  | .pressurePa => false
  | _ => true

/-- The BME280 has no CO2 sensor. -/
def bme280Measures : Measures
  | .co2Ppm => false
  | _ => true

/-- A reading that reports what its sensor can tell: all it measures when the sample is
good, and nothing otherwise. -/
def Reported (measures : Measures) (r : SensorReading) : Prop :=
  ∀ m, (r.measured m).isSome = true ↔ r.status = .ok ∧ measures m = true

/-- A node's read function, from a blank reading: the header is left alone, a failure is
reported as one, and the reading reports what the sensor can tell. -/
structure Reads (measures : Measures) (read : Bool → Sample → SensorReading → SensorReading) :
    Prop where
  sequence : ∀ deviceOk sample out, (read deviceOk sample out).sequence = out.sequence
  uptimeMs : ∀ deviceOk sample out, (read deviceOk sample out).uptimeMs = out.uptimeMs
  error_iff : ∀ deviceOk sample out,
    (read deviceOk sample out).status = .error ↔ deviceOk = false ∨ sample.rc ≠ 0
  reported : ∀ deviceOk sample sequence uptimeMs,
    Reported measures (read deviceOk sample (blankReading sequence uptimeMs))

variable (conv : Conversions)

/-- **The gateway's read** of its SCD40. -/
theorem scd40_reads : Reads scd40Measures (readScd40 conv) where
  sequence deviceOk sample out := by
    rw [readScd40]
    split_ifs <;> rfl
  uptimeMs deviceOk sample out := by
    rw [readScd40]
    split_ifs <;> rfl
  error_iff deviceOk sample out := by
    rw [readScd40]
    split_ifs with hok hrc hco2 <;> simp_all
  reported deviceOk sample sequence uptimeMs m := by
    rw [readScd40]
    split_ifs <;> cases m <;> simp [SensorReading.measured, blankReading, scd40Measures]

/-- **The peer's read** of its BME280. -/
theorem bme280_reads : Reads bme280Measures (readBme280 conv) where
  sequence deviceOk sample out := by
    rw [readBme280]
    split_ifs <;> rfl
  uptimeMs deviceOk sample out := by
    rw [readBme280]
    split_ifs <;> rfl
  error_iff deviceOk sample out := by
    rw [readBme280]
    split_ifs with hok hrc <;> simp_all
  reported deviceOk sample sequence uptimeMs m := by
    rw [readBme280]
    split_ifs <;> cases m <;> simp [SensorReading.measured, blankReading, bme280Measures]

/-- A CO2 reading of the gateway is never 0 ppm. -/
lemma readScd40_co2_ne_zero (deviceOk : Bool) (sample : Sample) (sequence uptimeMs : UInt32) :
    (readScd40 conv deviceOk sample (blankReading sequence uptimeMs)).measured .co2Ppm ≠
      some 0 := by
  rw [readScd40]
  split_ifs with hok hrc hco2 <;>
    simp_all [SensorReading.measured, blankReading]

/-- The peer is never warming up. -/
lemma readBme280_status (deviceOk : Bool) (sample : Sample) (out : SensorReading) :
    (readBme280 conv deviceOk sample out).status ≠ .warmingUp := by
  rw [readBme280]
  split_ifs <;> simp

/-! ### The pressure -/

/-- A pressure as Zephyr gives it: nothing negative, and less than a unit of
millionths. -/
structure SensorValue.Canonical (v : SensorValue) : Prop where
  val1 : 0 ≤ v.val1.toInt
  val2 : 0 ≤ v.val2.toInt
  val2_lt : v.val2.toInt < 1000000

/-- The pressure in whole pascals, the fraction of a pascal left off. -/
def SensorValue.pascals (v : SensorValue) : ℤ := (v.val1.toInt * 1000000 + v.val2.toInt) / 1000

lemma toNat_toUInt32_of_nonneg {a : Int32} (h : 0 ≤ a.toInt) :
    (a.toUInt32.toNat : ℤ) = a.toInt := by
  have hle : 0 ≤ a := Int32.le_iff_toInt_le.mpr h
  rw [Int32.toNat_toUInt32_of_le hle, Int32.toInt_eq_toNatClampNeg hle]

/-- **The pressure is exact** as long as the pascals fit, and then only. -/
theorem pressurePaOf_exact_iff {v : SensorValue} (h : v.Canonical) :
    ((pressurePaOf v).toNat : ℤ) = v.pascals ↔ v.pascals < 2 ^ 32 := by
  have hval1 := toNat_toUInt32_of_nonneg h.val1
  have hval2 := toNat_toUInt32_of_nonneg h.val2
  have hlt := h.val2_lt
  have hpos1 := h.val1
  have hpos2 := h.val2
  have hwrap : (pressurePaOf v).toNat =
      (v.val1.toUInt32.toNat * 1000 + v.val2.toUInt32.toNat / 1000) % 2 ^ 32 := by
    simp [pressurePaOf, UInt32.toNat_add, UInt32.toNat_mul, UInt32.toNat_div]
  have hsplit : v.pascals = v.val1.toInt * 1000 + v.val2.toInt / 1000 := by
    rw [SensorValue.pascals]
    omega
  rw [hwrap]
  omega

-- at sea level
example : pressurePaOf ⟨101, 325000⟩ = 101325 := by decide

end ClimateNode
