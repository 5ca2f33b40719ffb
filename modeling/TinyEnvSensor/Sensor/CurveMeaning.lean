import TinyEnvSensor.Sensor.Sampling
import TinyEnvSensor.Foundations.Interpolation

/-! # What the battery curve computes

`VoltsToPercent` rounds the piecewise linear interpolation of `kCurve`, which it continues as a
constant beyond both ends. The interpolation rises with the voltage, and rounding keeps that. -/
namespace TinyEnvSensor
open Rounding Interpolation
set_option autoImplicit false

/-! ## The curve as a table -/

def curvePoint (b : ℚ × ℕ) : ℚ × ℚ := (b.1, b.2)

def curve : List (ℚ × ℚ) := kCurve.map curvePoint

theorem curve_falling : Falling curve := by
  unfold Falling
  decide +kernel

theorem curveLoop_eq (v : ℚ) (table : List (ℚ × ℕ)) :
    curveLoop v table =
      match interpolate v (table.map curvePoint) with
      | some p => UInt8.ofInt (lround p)
      | none => 0 := by
  induction table with
  | nil => rfl
  | cons hi table ih =>
    cases table with
    | nil => rfl
    | cons lo rest =>
      rw [List.map_cons, List.map_cons, interpolate, curveLoop]
      by_cases hholds : v ≤ hi.1 ∧ lo.1 ≤ v
      · rw [if_pos hholds, if_pos (show Holds (curvePoint hi) (curvePoint lo) v from hholds)]
        rfl
      · rw [if_neg hholds, if_neg (show ¬ Holds (curvePoint hi) (curvePoint lo) v from hholds), ih]
        rfl

theorem curve_segment {hi lo : ℚ × ℕ} (hseg : [hi, lo] <:+: kCurve) :
    [curvePoint hi, curvePoint lo] <:+: curve := hseg.map curvePoint

theorem curve_between {b : ℚ × ℕ} (hb : b ∈ kCurve) : 300 / 100 ≤ b.1 ∧ b.1 ≤ 414 / 100 := by
  revert b
  decide +kernel

theorem exists_interpolate_curve {v : ℚ} (h₁ : 300 / 100 ≤ v) (h₂ : v ≤ 414 / 100) :
    ∃ x, interpolate v curve = some x := by
  have hlast : ∀ p : ℚ × ℚ, curve.tail.getLast? = some p → p.1 ≤ v := by
    intro p hp
    obtain rfl : (300 / 100, ((0 : ℕ) : ℚ)) = p := Option.some.inj hp
    exact h₁
  have htop : v ≤ (curvePoint (414 / 100, 100)).1 := h₂
  exact exists_interpolate (List.cons_ne_nil _ _) htop hlast

theorem exists_curve_segment {v : ℚ} (h₁ : 300 / 100 ≤ v) (h₂ : v ≤ 414 / 100) :
    ∃ hi lo, [hi, lo] <:+: kCurve ∧ v ≤ hi.1 ∧ lo.1 ≤ v := by
  obtain ⟨x, hx⟩ := exists_interpolate_curve h₁ h₂
  obtain ⟨hi, lo, hseg, hholds, -⟩ := exists_segment hx
  obtain ⟨l, hl, hpair⟩ := List.infix_map_iff.mp hseg
  obtain ⟨hi', l, rfl, rfl, hrest⟩ := List.map_eq_cons_iff.mp hpair.symm
  obtain ⟨lo', l, rfl, rfl, hnil⟩ := List.map_eq_cons_iff.mp hrest
  obtain rfl := List.map_eq_nil_iff.mp hnil
  exact ⟨hi', lo', hl, hholds⟩

theorem interpolate_bottom : interpolate (300 / 100) curve = some 0 := by
  have hseg : [(320 / 100, 2), (300 / 100, 0)] <:+: kCurve := by decide +kernel
  have hends : Holds (curvePoint (320 / 100, 2)) (curvePoint (300 / 100, 0)) (300 / 100) := by
    norm_num [Holds, curvePoint]
  rw [interpolate_of_holds curve_falling (curve_segment hseg) hends]
  exact congrArg some ((line_lo _ _).trans Nat.cast_zero)

theorem interpolate_top : interpolate (414 / 100) curve = some 100 := by
  have hseg : [(414 / 100, 100), (410 / 100, 95)] <:+: kCurve := by decide +kernel
  have hends : Holds (curvePoint (414 / 100, 100)) (curvePoint (410 / 100, 95)) (414 / 100) := by
    norm_num [Holds, curvePoint]
  have hrise := (curve_falling.segment (curve_segment hseg)).1
  rw [interpolate_of_holds curve_falling (curve_segment hseg) hends]
  exact congrArg some ((line_hi hrise).trans Nat.cast_ofNat)

/-! ## The percentage before it is rounded -/

/-- The interpolation of the curve, constant beyond its ends. -/
def curvePercent (v : ℚ) : ℚ :=
  if 414 / 100 ≤ v then 100 else if v ≤ 300 / 100 then 0 else (interpolate v curve).getD 0

theorem interpolate_eq_curvePercent {v : ℚ} (h₁ : 300 / 100 ≤ v) (h₂ : v ≤ 414 / 100) :
    interpolate v curve = some (curvePercent v) := by
  unfold curvePercent
  split_ifs with htop hbottom
  · rw [le_antisymm h₂ htop, interpolate_top]
  · rw [le_antisymm hbottom h₁, interpolate_bottom]
  · obtain ⟨x, hx⟩ := exists_interpolate_curve h₁ h₂
    rw [hx, Option.getD_some]

theorem curvePercent_segment {hi lo : ℚ × ℕ} {v : ℚ} (hseg : [hi, lo] <:+: kCurve)
    (hhi : v ≤ hi.1) (hlo : lo.1 ≤ v) :
    curvePercent v = line (curvePoint hi) (curvePoint lo) v := by
  have hhi' := (curve_between (hseg.subset (by simp : hi ∈ [hi, lo]))).2
  have hlo' := (curve_between (hseg.subset (by simp : lo ∈ [hi, lo]))).1
  have hsearch := interpolate_of_holds curve_falling (curve_segment hseg) ⟨hhi, hlo⟩
  rw [interpolate_eq_curvePercent (hlo'.trans hlo) (hhi.trans hhi')] at hsearch
  exact Option.some.inj hsearch

theorem curvePercent_range (v : ℚ) : 0 ≤ curvePercent v ∧ curvePercent v ≤ 100 := by
  by_cases htop : 414 / 100 ≤ v
  · rw [curvePercent, if_pos htop]
    norm_num
  · by_cases hbottom : v ≤ 300 / 100
    · rw [curvePercent, if_neg htop, if_pos hbottom]
      norm_num
    · have hv := interpolate_eq_curvePercent (not_le.mp hbottom).le (not_le.mp htop).le
      exact ⟨interpolate_mono curve_falling interpolate_bottom hv (not_le.mp hbottom).le,
        interpolate_mono curve_falling hv interpolate_top (not_le.mp htop).le⟩

theorem curvePercent_mono {v w : ℚ} (h : v ≤ w) : curvePercent v ≤ curvePercent w := by
  by_cases htop : 414 / 100 ≤ w
  · have hw : curvePercent w = 100 := if_pos htop
    rw [hw]
    exact (curvePercent_range v).2
  · have htop' : ¬ 414 / 100 ≤ v := fun hge => htop (hge.trans h)
    by_cases hbottom : v ≤ 300 / 100
    · have hv : curvePercent v = 0 := (if_neg htop').trans (if_pos hbottom)
      rw [hv]
      exact (curvePercent_range w).1
    · have hv := (not_le.mp hbottom).le
      have hw := (not_le.mp htop).le
      exact interpolate_mono curve_falling (interpolate_eq_curvePercent hv (h.trans hw))
        (interpolate_eq_curvePercent (hv.trans h) hw) h

/-! ## The rounded percentage -/

theorem lround_curvePercent (v : ℚ) :
    0 ≤ lround (curvePercent v) ∧ lround (curvePercent v) ≤ 100 := by
  obtain ⟨h₀, h⟩ := curvePercent_range v
  rw [le_lround_of_nonpos le_rfl, lround_le_of_nonneg (by norm_num)]
  push_cast
  constructor <;> linarith

theorem voltsToPercent_eq (v : ℚ) : voltsToPercent v = UInt8.ofInt (lround (curvePercent v)) := by
  unfold voltsToPercent curvePercent
  split_ifs with h₁ h₂
  · rw [show (100 : ℚ) = ((100 : ℤ) : ℚ) by norm_num, lround_intCast]
    rfl
  · rw [show (0 : ℚ) = ((0 : ℤ) : ℚ) by norm_num, lround_intCast]
    rfl
  · obtain ⟨x, hx⟩ := exists_interpolate_curve (not_le.mp h₂).le (not_le.mp h₁).le
    rw [curveLoop_eq, ← curve, hx]
    rfl

theorem voltsToPercent_toNat (v : ℚ) :
    ((voltsToPercent v).toNat : ℤ) = lround (curvePercent v) := by
  obtain ⟨h₀, h⟩ := lround_curvePercent v
  rw [voltsToPercent_eq, UInt8.ofInt, UInt8.toNat_ofNat']
  omega

theorem voltsToPercent_mono {v w : ℚ} (h : v ≤ w) : voltsToPercent v ≤ voltsToPercent w := by
  have hround := lround_mono (curvePercent_mono h)
  rw [← voltsToPercent_toNat, ← voltsToPercent_toNat] at hround
  rw [UInt8.le_iff_toNat_le]
  exact_mod_cast hround

theorem voltsToPercent_le (v : ℚ) : (voltsToPercent v).toNat ≤ 100 := by
  have hround := (lround_curvePercent v).2
  rw [← voltsToPercent_toNat] at hround
  exact_mod_cast hround

/-! ## The half percents that are published -/

/-- `half_pct` of `UpdateMatterAttributes`. -/
def halfPercent (v : ℚ) : UInt8 := if 100 ≤ voltsToPercent v then 200 else voltsToPercent v * 2

theorem halfPercent_toNat (v : ℚ) : (halfPercent v).toNat = 2 * (voltsToPercent v).toNat := by
  have hle := voltsToPercent_le v
  unfold halfPercent
  split
  · rename_i hfull
    have hfull' : 100 ≤ (voltsToPercent v).toNat := UInt8.le_iff_toNat_le.mp hfull
    rw [le_antisymm hle hfull']
    rfl
  · have htwo : (2 : UInt8).toNat = 2 := rfl
    rw [UInt8.toNat_mul, htwo]
    omega

theorem halfPercent_published (cfg : Config) (w : World) (d : Device) :
    Call.powerSourceSet .batPercentRemaining
        (halfPercent (readBatteryVolts cfg w (afterMeasuredSets w d)).1).toUInt32 ∈
      newCalls d (updateMatterAttributes cfg w d) := by
  rw [newCalls_eq (updateMatterAttributes_trace cfg w d)]
  unfold publishCalls powerSourceCalls halfPercent
  simp

/-- **The battery curve is a monotone interpolation without gaps.** The percentage is in range,
rises with the voltage and is exact at the breakpoints, where both neighbouring segments give the
breakpoint's own; between the clamps the loop finds a segment, none has length zero, and whichever
holds the voltage, its line rounded is the percentage. The half percents that are published keep
range and order. -/
theorem battery_curve :
    (∀ v, (voltsToPercent v).toNat ≤ 100) ∧
    (∀ v₁ v₂, v₁ ≤ v₂ → voltsToPercent v₁ ≤ voltsToPercent v₂) ∧
    (∀ b ∈ kCurve, voltsToPercent b.1 = UInt8.ofNat b.2) ∧
    (∀ hi lo, [hi, lo] <:+: kCurve →
      hi.1 - lo.1 ≠ 0 ∧ line (curvePoint hi) (curvePoint lo) hi.1 = hi.2 ∧
        line (curvePoint hi) (curvePoint lo) lo.1 = lo.2) ∧
    (∀ v, 300 / 100 < v → v < 414 / 100 →
      (∃ hi lo, [hi, lo] <:+: kCurve ∧ v ≤ hi.1 ∧ lo.1 ≤ v) ∧
      ∀ hi lo, [hi, lo] <:+: kCurve → v ≤ hi.1 → lo.1 ≤ v →
        voltsToPercent v =
            UInt8.ofInt (lround (line (curvePoint hi) (curvePoint lo) v)) ∧
          |((voltsToPercent v).toNat : ℚ) - line (curvePoint hi) (curvePoint lo) v| ≤ 1 / 2) ∧
    (∀ v, (halfPercent v).toNat ≤ 200) ∧
    (∀ v₁ v₂, v₁ ≤ v₂ → halfPercent v₁ ≤ halfPercent v₂) ∧
    ∀ cfg w d, Call.powerSourceSet .batPercentRemaining
        (halfPercent (readBatteryVolts cfg w (afterMeasuredSets w d)).1).toUInt32 ∈
      newCalls d (updateMatterAttributes cfg w d) := by
  refine ⟨voltsToPercent_le, fun v₁ v₂ => voltsToPercent_mono, by decide +kernel,
    fun hi lo hseg => ?_, fun v h₁ h₂ => ⟨?_, fun hi lo hseg hhi hlo => ?_⟩, fun v => ?_,
    fun v₁ v₂ h => ?_, halfPercent_published⟩
  · have hfall := (curve_falling.segment (curve_segment hseg)).1
    exact ⟨(sub_pos.mpr hfall).ne', line_hi hfall, line_lo _ _⟩
  · exact exists_curve_segment h₁.le h₂.le
  · have hline := curvePercent_segment hseg hhi hlo
    have hround := abs_lround_sub_le (curvePercent v)
    rw [← voltsToPercent_toNat, hline] at hround
    refine ⟨?_, by exact_mod_cast hround⟩
    rw [voltsToPercent_eq, hline]
  · have hle := voltsToPercent_le v
    rw [halfPercent_toNat]
    omega
  · rw [UInt8.le_iff_toNat_le, halfPercent_toNat, halfPercent_toNat]
    have hle := UInt8.le_iff_toNat_le.mp (voltsToPercent_mono h)
    omega

end TinyEnvSensor
