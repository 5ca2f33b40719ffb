import TinyEnvSensor.App.Task

/-! # The range of the published measurements

The two values of a sample are rounded hundredths, narrowed to 16 bits without a check. On readings
the SHT4x conversion can deliver the temperature never wraps but can leave the advertised range, and
a negative humidity wraps. `published_in_range_iff` says for which readings all is well. -/
namespace TinyEnvSensor
open Rounding
set_option autoImplicit false

/-! ## What the attributes allow -/

def humidityMinMeasuredValue : UInt16 := 0
def humidityMaxMeasuredValue : UInt16 := 10000

def nullInt16s : Int16 := -32768
def nullInt16u : UInt16 := 0xFFFF

/-- Readings that the conversion of two raw 16-bit words can deliver. -/
def Deliverable (w : World) : Prop :=
  (-45 ≤ sensorValueToDouble w.temperature ∧ sensorValueToDouble w.temperature ≤ 130) ∧
    -6 ≤ sensorValueToDouble w.humidity ∧ sensorValueToDouble w.humidity ≤ 119

/-- The values `t` and `h` keep to the advertised ranges, are not wrapped or null, and are the
nearest hundredths of readings in range. -/
structure Advertised (tempC rh : ℚ) (t : Int16) (h : UInt16) : Prop where
  temperature_range : kSht4xMinCentiDegC ≤ t ∧ t ≤ kSht4xMaxCentiDegC
  humidity_range : humidityMinMeasuredValue ≤ h ∧ h ≤ humidityMaxMeasuredValue
  temperature_unwrapped : t.toInt = lround (tempC * 100)
  humidity_unwrapped : (h.toNat : ℤ) = lround (rh * 100)
  not_null : t ≠ nullInt16s ∧ h ≠ nullInt16u
  temperature_nearest : -40 ≤ tempC → tempC ≤ 125 → |(t.toInt : ℚ) - tempC * 100| ≤ 1 / 2
  humidity_nearest : 0 ≤ rh → rh ≤ 100 → |(h.toNat : ℚ) - rh * 100| ≤ 1 / 2

/-- What a successful call stores, and what publishing then hands to the setters, is as
advertised. -/
def PublishesAdvertised (cfg : Config) (w : World) (force : Bool) (d : Device) : Prop :=
  let d' := (updateSensorReadings cfg w force d).2
  let calls := newCalls d' (updateMatterAttributes cfg w d')
  Advertised (sensorValueToDouble w.temperature) (sensorValueToDouble w.humidity)
      d'.sampler.mCurrentTemperature d'.sampler.mCurrentHumidity ∧
    calls.take 2 = [.temperatureMeasuredValueSet d'.sampler.mCurrentTemperature,
      .humidityMeasuredValueSet d'.sampler.mCurrentHumidity]

/-- Readings whose hundredths round into the advertised ranges. -/
def RoundsInRange (w : World) : Prop :=
  (-40.005 < sensorValueToDouble w.temperature ∧ sensorValueToDouble w.temperature < 125.005) ∧
    -0.005 < sensorValueToDouble w.humidity ∧ sensorValueToDouble w.humidity < 100.005

/-! ## The narrowing casts -/

section Narrow
variable {n : ℤ}

theorem toInt_ofInt_of_small (h₁ : -32768 ≤ n) (h₂ : n < 32768) : (Int16.ofInt n).toInt = n :=
  Int16.toInt_ofInt_of_le (by simpa using h₁) (by simpa using h₂)

theorem toNat_ofInt_of_small (h₁ : -65536 ≤ n) (h₂ : n < 65536) :
    ((UInt16.ofInt n).toNat : ℤ) = if 0 ≤ n then n else n + 65536 := by
  have hnat : ((UInt16.ofInt n).toNat : ℤ) = n % 65536 := by
    rw [UInt16.ofInt, UInt16.toNat_ofNat']
    omega
  rw [hnat]
  split <;> omega

end Narrow

/-! ## The ends of the rounded readings -/

section Ends
variable {q : ℚ}

theorem hundredths_bounds {a b : ℤ} (ha : a ≤ 0) (hb : 0 ≤ b) :
    (a ≤ lround (q * 100) ∧ lround (q * 100) ≤ b) ↔
      (a - 1 / 2 : ℚ) / 100 < q ∧ q < (b + 1 / 2 : ℚ) / 100 := by
  rw [le_lround_of_nonpos ha, lround_le_of_nonneg hb]
  constructor
  · rintro ⟨h₁, h₂⟩
    constructor <;> linarith
  · rintro ⟨h₁, h₂⟩
    constructor <;> linarith

theorem temperature_bounds : (-4000 ≤ lround (q * 100) ∧ lround (q * 100) ≤ 12500) ↔
    -40.005 < q ∧ q < 125.005 := by
  rw [hundredths_bounds (by norm_num) (by norm_num)]
  norm_num

theorem humidity_bounds : (0 ≤ lround (q * 100) ∧ lround (q * 100) ≤ 10000) ↔
    -0.005 < q ∧ q < 100.005 := by
  rw [hundredths_bounds le_rfl (by norm_num)]
  norm_num

theorem lround_between {a b : ℤ} (ha : a ≤ 0) (hb : 0 ≤ b) (h₁ : (a : ℚ) ≤ q) (h₂ : q ≤ b) :
    a * 100 ≤ lround (q * 100) ∧ lround (q * 100) ≤ b * 100 := by
  constructor
  · rw [le_lround_of_nonpos (by omega)]
    push_cast
    linarith
  · rw [lround_le_of_nonneg (by omega)]
    push_cast
    linarith

end Ends

/-! ## The published range -/

theorem advertised_iff {w : World} (hw : Deliverable w) :
    Advertised (sensorValueToDouble w.temperature) (sensorValueToDouble w.humidity)
        (sampledTemperature w) (sampledHumidity w) ↔ RoundsInRange w := by
  obtain ⟨⟨ht₁, ht₂⟩, hh₁, hh₂⟩ := hw
  obtain ⟨ht₁', ht₂'⟩ := lround_between (a := -45) (b := 130) (by omega) (by omega)
    (by exact_mod_cast ht₁) (by exact_mod_cast ht₂)
  obtain ⟨hh₁', hh₂'⟩ := lround_between (a := -6) (b := 119) (by omega) (by omega)
    (by exact_mod_cast hh₁) (by exact_mod_cast hh₂)
  have htemp : (sampledTemperature w).toInt = lround (sensorValueToDouble w.temperature * 100) :=
    toInt_ofInt_of_small (by omega) (by omega)
  have hhum := toNat_ofInt_of_small (n := lround (sensorValueToDouble w.humidity * 100))
    (by omega) (by omega)
  rw [← sampledHumidity] at hhum
  have hmin : kSht4xMinCentiDegC.toInt = -4000 := by decide
  have hmax : kSht4xMaxCentiDegC.toInt = 12500 := by decide
  have hhmax : humidityMaxMeasuredValue.toNat = 10000 := by decide
  unfold RoundsInRange
  rw [← temperature_bounds, ← humidity_bounds]
  constructor
  · rintro ⟨⟨h₁, h₂⟩, ⟨-, h₃⟩, -, -, -, -, -⟩
    rw [Int16.le_iff_toInt_le, hmin, htemp] at h₁
    rw [Int16.le_iff_toInt_le, hmax, htemp] at h₂
    rw [UInt16.le_iff_toNat_le, hhmax] at h₃
    refine ⟨⟨h₁, h₂⟩, ?_⟩
    -- a negative humidity wraps to 64936 or more, far above the maximum
    split at hhum <;> omega
  · rintro ⟨⟨h₁, h₂⟩, h₃, h₄⟩
    rw [if_pos h₃] at hhum
    refine ⟨⟨?_, ?_⟩, ⟨?_, ?_⟩, htemp, hhum, ⟨?_, ?_⟩, fun _ _ => ?_, fun _ _ => ?_⟩
    · rwa [Int16.le_iff_toInt_le, hmin, htemp]
    · rwa [Int16.le_iff_toInt_le, hmax, htemp]
    · rw [UInt16.le_iff_toNat_le]
      exact Nat.zero_le _
    · rw [UInt16.le_iff_toNat_le, hhmax]
      omega
    · intro hnull
      rw [hnull, show nullInt16s.toInt = -32768 by decide] at htemp
      omega
    · intro hnull
      rw [hnull, show nullInt16u.toNat = 65535 by decide] at hhum
      omega
    · rw [htemp]
      exact abs_lround_sub_le _
    · have hcast : ((sampledHumidity w).toNat : ℚ) =
          (lround (sensorValueToDouble w.humidity * 100) : ℤ) := by exact_mod_cast hhum
      rw [hcast]
      exact abs_lround_sub_le _

/-- **When published measurements stay in the advertised range.** Of the readings the conversion can
deliver, exactly for those that round into the advertised ranges. -/
theorem published_in_range_iff (cfg : Config) (w : World) (force : Bool) (d : Device)
    (hw : Deliverable w) (hok : (updateSensorReadings cfg w force d).1 = true) :
    PublishesAdvertised cfg w force d ↔ RoundsInRange w := by
  rw [← advertised_iff hw]
  obtain ⟨-, hout⟩ | ⟨-, -, hout⟩ | ⟨-, -, hout⟩ := updateSensorReadings_step cfg w force d
  · rw [hout] at hok
    cases hok
  · rw [hout] at hok
    cases hok
  · unfold PublishesAdvertised
    rw [hout]
    dsimp only
    have hcalls : newCalls (sampled w d) (updateMatterAttributes cfg w (sampled w d)) =
        publishCalls cfg w (sampled w d) :=
      newCalls_eq (updateMatterAttributes_trace cfg w (sampled w d))
    rw [hcalls, and_iff_left (by simp [publishCalls])]
    rfl

def readyDevice : Device := { sampler.mShtReady := true }

theorem published_at_room_climate :
    PublishesAdvertised diagConfig
      { temperature := ⟨21, 500000⟩, humidity := ⟨45, 200000⟩ } true readyDevice := by
  refine (published_in_range_iff diagConfig
    { temperature := ⟨21, 500000⟩, humidity := ⟨45, 200000⟩ } true readyDevice ?_ ?_).mpr ?_
  · norm_num [Deliverable, sensorValueToDouble]
  · rfl
  · norm_num [RoundsInRange, sensorValueToDouble]

/-- Very dry air: the raw humidity word 3140 converts to -0.01085 %RH. -/
def dryAir : World := { temperature := ⟨25, 0⟩, humidity := ⟨-1, 989150⟩ }

theorem published_null_in_dry_air :
    Deliverable dryAir ∧ (updateSensorReadings diagConfig dryAir true readyDevice).1 = true ∧
      ¬ PublishesAdvertised diagConfig dryAir true readyDevice := by
  refine ⟨?_, rfl, ?_⟩
  · norm_num [Deliverable, sensorValueToDouble, dryAir]
  · rintro ⟨hadv, -⟩
    refine hadv.not_null.2 ?_
    decide +kernel

end TinyEnvSensor
