import TinyEnvSensor.Sensor.Battery
import Mathlib.Algebra.BigOperators.Group.Finset.Basic

/-! # Battery readings over a boot

The two statics of `InitBatterySense` let only the first reading of a boot touch the setup, and its
outcome decides what every later one does. Every reading that switches the divider on switches it
off again before it returns. -/
namespace TinyEnvSensor
open History Rounding
set_option autoImplicit false

/-! ## The first reading and the later ones -/

def configuresPin (w : World) : Bool :=
  w.adcReady && w.gpioReady && decide (w.gpioPinConfigure = 0)

def initSucceeds (w : World) : Bool := configuresPin w && decide (w.adcChannelSetup = 0)

def isInitCall : Call → Bool
  | .gpioPinConfigure _ => true
  | .adcChannelSetup _ => true
  | _ => false

section Init
variable {w : World} {d : Device}

theorem initBatterySense_first (h : d.sense = {}) :
    (initBatterySense w d).1 = initSucceeds w ∧
      (initBatterySense w d).2.sense = ⟨true, initSucceeds w⟩ ∧
      (initBatterySense w d).2.vbatEnable = if configuresPin w then some 1 else d.vbatEnable := by
  unfold initBatterySense initSucceeds configuresPin
  rw [h]
  cases hadc : w.adcReady with
  | false => simp
  | true =>
    cases hgpio : w.gpioReady with
    | false => simp
    | true =>
      by_cases hpin : w.gpioPinConfigure = 0
      · by_cases hsetup : w.adcChannelSetup = 0 <;> simp [hpin, hsetup, gpioPinSet]
      · simp [hpin]

theorem initBatterySense_again (h : d.sense.sInit = true) :
    initBatterySense w d = (d.sense.sReady, d) := by
  unfold initBatterySense
  rw [if_pos h]

/-- The statics after the readings of a boot. -/
def senseAfter : List World → BatterySense
  | [] => {}
  | first :: _ => ⟨true, initSucceeds first⟩

theorem initBatterySense_after {ws : List World} (h : d.sense = senseAfter ws) :
    (initBatterySense w d).1 = initSucceeds (ws.headD w) ∧
      (initBatterySense w d).2.sense = senseAfter (ws ++ [w]) := by
  cases ws with
  | nil =>
    obtain ⟨hready, hsense, -⟩ := initBatterySense_first (w := w) h
    exact ⟨hready, hsense⟩
  | cons first rest =>
    rw [initBatterySense_again (by rw [h]; rfl), h]
    exact ⟨rfl, rfl⟩

theorem configure_mem_initCalls_iff (h : d.sense = {}) :
    Call.gpioPinConfigure 0 ∈ initCalls w d ↔ configuresPin w = true := by
  unfold initCalls configuresPin
  rw [h]
  cases w.adcReady <;> cases w.gpioReady <;> by_cases hpin : w.gpioPinConfigure = 0 <;>
    simp [hpin, eq_comm]

end Init

/-! ## The divider and the statics after a reading -/

section Reading
variable (cfg : Config) (w : World) (d : Device)

theorem sampleLoop_sense (n i : ℕ) (rawSum : UInt32) :
    (sampleLoop w n i rawSum d).2.sense = d.sense := by
  rw [(sampleLoop_spec w d n i rawSum).2]

theorem readBatteryVolts_pin :
    (readBatteryVolts cfg w d).2.sense = (initBatterySense w d).2.sense ∧
      (readBatteryVolts cfg w d).2.vbatEnable =
        if (initBatterySense w d).1 then some 1 else (initBatterySense w d).2.vbatEnable := by
  unfold readBatteryVolts
  cases hinit : initBatterySense w d with
  | mk ready d₁ =>
    cases ready with
    | false => exact ⟨rfl, rfl⟩
    | true =>
      have hsense := sampleLoop_sense w (gpioPinSet w 0 d₁) kBatterySampleCount 0 0
      cases hout : sampleLoop w kBatterySampleCount 0 0 (gpioPinSet w 0 d₁) with
      | mk sum d₂ =>
        rw [hout] at hsense
        cases sum with
        | none =>
          simp only [hout, diagOnAdcReadFailure, diagCount_sense, diagCount_vbatEnable]
          exact ⟨hsense, rfl⟩
        | some sum =>
          simp only [hout]
          exact ⟨hsense, rfl⟩

/-! ## The value of a reading -/

theorem samplesFail_iff (n i : ℕ) :
    samplesFail w n i = true ↔ ∃ k < n, (w.adcRead (i + k)).err ≠ 0 := by
  induction n generalizing i with
  | zero => simp [samplesFail]
  | succ n ih =>
    rw [samplesFail, Bool.or_eq_true, decide_eq_true_iff, ih]
    constructor
    · rintro (herr | ⟨k, hk, herr⟩)
      · exact ⟨0, Nat.succ_pos n, herr⟩
      · exact ⟨k + 1, Nat.succ_lt_succ hk, by rwa [← Nat.add_assoc, Nat.add_right_comm]⟩
    · rintro ⟨k, hk, herr⟩
      cases k with
      | zero => exact Or.inl herr
      | succ k =>
        exact Or.inr ⟨k, Nat.lt_of_succ_lt_succ hk, by rwa [Nat.add_right_comm, Nat.add_assoc]⟩

/-- The samples from the one of index `i`, the negative ones counted as zero. -/
def sampleSum (n i : ℕ) : ℤ := ∑ k ∈ Finset.range n, max (w.adcRead (i + k)).raw.toInt 0

theorem sampleSum_succ (n i : ℕ) :
    sampleSum w (n + 1) i = max (w.adcRead i).raw.toInt 0 + sampleSum w n (i + 1) := by
  unfold sampleSum
  rw [Finset.sum_range_succ', add_comm]
  congr 1
  refine Finset.sum_congr rfl fun k _ => ?_
  rw [Nat.add_right_comm, Nat.add_assoc]

theorem sampleSum_range (n i : ℕ) : 0 ≤ sampleSum w n i ∧ sampleSum w n i ≤ n * 32767 := by
  induction n generalizing i with
  | zero => simp [sampleSum]
  | succ n ih =>
    have hrest := ih (i + 1)
    have hraw := (w.adcRead i).raw.toInt_lt
    rw [sampleSum_succ]
    push_cast
    omega

theorem ofInt_zero : UInt32.ofInt 0 = 0 := rfl

theorem addSample (raw : Int16) (rawSum : UInt32) :
    (if 0 < raw then rawSum + UInt32.ofInt raw.toInt else rawSum) =
      rawSum + UInt32.ofInt (max raw.toInt 0) := by
  have hpos : 0 < raw ↔ 0 < raw.toInt := Int16.lt_iff_toInt_lt
  by_cases h : 0 < raw.toInt
  · rw [if_pos (hpos.mpr h), max_eq_left h.le]
  · rw [if_neg (mt hpos.mp h), max_eq_right (not_lt.mp h), ofInt_zero, UInt32.add_zero]

theorem sampleLoop_sum (n i : ℕ) (rawSum : UInt32) (hok : samplesFail w n i = false) :
    (sampleLoop w n i rawSum d).1 = some (rawSum + UInt32.ofInt (sampleSum w n i)) := by
  induction n generalizing i rawSum d with
  | zero => simp [sampleLoop, sampleSum, ofInt_zero]
  | succ n ih =>
    rw [samplesFail, Bool.or_eq_false_iff] at hok
    have herr : (w.adcRead i).err = 0 := by simpa using hok.1
    have hnone : ¬ (w.adcRead i).err ≠ 0 := not_not.mpr herr
    rw [sampleLoop, sampleSum_succ, UInt32.ofInt_add, ← UInt32.add_assoc, ← addSample]
    simp only [if_neg hnone]
    exact ih _ _ _ hok.2

theorem readBatteryVolts_of_failed (hinit : (initBatterySense w d).1 = false) :
    readBatteryVolts cfg w d = (readBatteryVoltsPlaceholder, (initBatterySense w d).2) := by
  unfold readBatteryVolts
  split
  · rename_i d₁ heq
    rw [heq]
  · rename_i d₁ heq
    rw [heq] at hinit
    cases hinit

theorem readBatteryVolts_of_readFailed
    (hfail : samplesFail w kBatterySampleCount 0 = true) :
    (readBatteryVolts cfg w d).1 = readBatteryVoltsPlaceholder := by
  unfold readBatteryVolts
  split
  · rfl
  · rename_i d₁ heq
    have hnone := (sampleLoop_spec w (gpioPinSet w 0 d₁) kBatterySampleCount 0 0).1.mpr hfail
    dsimp only
    split
    · rfl
    · rename_i hout
      rw [hout] at hnone
      cases hnone

theorem toNat_ofInt_of_range {n : ℤ} (h₀ : 0 ≤ n) (h : n < 4294967296) :
    ((UInt32.ofInt n).toNat : ℤ) = n := by
  rw [UInt32.ofInt, UInt32.toNat_ofNat']
  omega

theorem readBatteryVolts_of_ok (hinit : (initBatterySense w d).1 = true)
    (hok : samplesFail w kBatterySampleCount 0 = false) :
    (readBatteryVolts cfg w d).1 =
      (sampleSum w kBatterySampleCount 0 : ℚ) / 4 / 4095 * (36 / 10) * (151 / 51) := by
  obtain ⟨h₀, h⟩ := sampleSum_range w kBatterySampleCount 0
  have hexact := toNat_ofInt_of_range h₀ (h.trans_lt (by decide))
  unfold readBatteryVolts
  split
  · rename_i d₁ heq
    rw [heq] at hinit
    cases hinit
  · rename_i d₁ heq
    have hsum := sampleLoop_sum w (gpioPinSet w 0 d₁) kBatterySampleCount 0 0 hok
    rw [UInt32.zero_add] at hsum
    dsimp only
    split
    · rename_i hout
      rw [hout] at hsum
      cases hsum
    · rename_i rawSum d₂ hout
      rw [hout] at hsum
      obtain rfl := Option.some.inj hsum
      have hcast : ((UInt32.ofInt (sampleSum w kBatterySampleCount 0)).toNat : ℚ) =
          (sampleSum w kBatterySampleCount 0 : ℚ) := by exact_mod_cast hexact
      rw [hcast]
      norm_num [kAdcRefVolts, kAdcGainVal, kVbatDividerRatio, kBatteryGain, kAdcResolution,
        kBatterySampleCount]

/-- Every path returns between 0 and 100 volts. -/
theorem readBatteryVolts_range :
    0 ≤ (readBatteryVolts cfg w d).1 ∧ (readBatteryVolts cfg w d).1 ≤ 100 := by
  have hplaceholder : 0 ≤ readBatteryVoltsPlaceholder ∧ readBatteryVoltsPlaceholder ≤ 100 := by
    norm_num [readBatteryVoltsPlaceholder, kPlaceholderBatteryVolts, kBatteryGain]
  cases hinit : (initBatterySense w d).1 with
  | false =>
    rw [readBatteryVolts_of_failed cfg w d hinit]
    exact hplaceholder
  | true =>
    cases hfail : samplesFail w kBatterySampleCount 0 with
    | true =>
      rw [readBatteryVolts_of_readFailed cfg w d hfail]
      exact hplaceholder
    | false =>
      obtain ⟨h₀, h⟩ := sampleSum_range w kBatterySampleCount 0
      have h₀' : (0 : ℚ) ≤ sampleSum w kBatterySampleCount 0 := by exact_mod_cast h₀
      have h' : (sampleSum w kBatterySampleCount 0 : ℚ) ≤ 4 * 32767 := by exact_mod_cast h
      rw [readBatteryVolts_of_ok cfg w d hinit hfail]
      constructor <;> linarith

theorem millivolts_range :
    0 ≤ lround ((readBatteryVolts cfg w d).1 * 1000) ∧
      lround ((readBatteryVolts cfg w d).1 * 1000) ≤ 100000 := by
  obtain ⟨h₀, h⟩ := readBatteryVolts_range cfg w d
  rw [le_lround_of_nonpos le_rfl, lround_le_of_nonneg (by norm_num)]
  push_cast
  constructor <;> linarith

end Reading

/-! ## Runs of readings -/

def batteryStep (cfg : Config) (d : Device) (w : World) : Device := (readBatteryVolts cfg w d).2

theorem batteryStep_extends (cfg : Config) (d : Device) (w : World) :
    d.trace <+: (batteryStep cfg d w).trace := ⟨_, (readBatteryVolts_spec cfg w d).2.symm⟩

/-- The statics and the pin are what the first reading of the boot made of them. -/
structure BatteryTracked (first : World) (d : Device) : Prop where
  sense : d.sense = ⟨true, initSucceeds first⟩
  pin : d.vbatEnable = if configuresPin first then some 1 else none

theorem configuresPin_of_initSucceeds {w : World} (h : initSucceeds w = true) :
    configuresPin w = true := (Bool.and_eq_true_iff.mp h).1

theorem BatteryTracked.start (cfg : Config) {d : Device} (w : World) (hd : d.sense = {})
    (hpin : d.vbatEnable = none) : BatteryTracked w (batteryStep cfg d w) := by
  obtain ⟨hready, hsense, hvbat⟩ := initBatterySense_first (w := w) hd
  obtain ⟨hsense', hvbat'⟩ := readBatteryVolts_pin cfg w d
  refine ⟨hsense'.trans hsense, hvbat'.trans ?_⟩
  rw [hready, hvbat, hpin]
  split
  · rename_i hok
    rw [if_pos (configuresPin_of_initSucceeds hok)]
  · rfl

theorem BatteryTracked.step (cfg : Config) {first : World} {d : Device}
    (h : BatteryTracked first d) (w : World) : BatteryTracked first (batteryStep cfg d w) := by
  have hagain : initBatterySense w d = (d.sense.sReady, d) :=
    initBatterySense_again (by rw [h.sense])
  obtain ⟨hsense, hvbat⟩ := readBatteryVolts_pin cfg w d
  rw [hagain] at hsense hvbat
  refine ⟨hsense.trans h.sense, hvbat.trans ?_⟩
  rw [h.sense, h.pin]
  split
  · rename_i hok
    rw [if_pos (configuresPin_of_initSucceeds hok)]
  · rfl

theorem batteryTracked_run (cfg : Config) {d : Device} (hd : d.sense = {})
    (hpin : d.vbatEnable = none) (first : World) (ws : List World) :
    BatteryTracked first (run (batteryStep cfg) d (first :: ws)) := by
  have hstart := BatteryTracked.start cfg first hd hpin
  exact run_invariant (s := batteryStep cfg d first) (fun _ d => BatteryTracked first d) hstart
    (fun _ w h => h.step cfg w) ws

theorem newCalls_batteryStep (cfg : Config) (d : Device) (w : World) :
    newCalls d (batteryStep cfg d w) = batteryCalls cfg w d :=
  newCalls_eq (readBatteryVolts_spec cfg w d).2

theorem initCalls_again {w : World} {d : Device} (h : d.sense.sInit = true) :
    initCalls w d = [] := by
  rw [initCalls, h]
  rfl

theorem initCall_mem {cfg : Config} {w : World} {d : Device} {c : Call}
    (hc : c ∈ batteryCalls cfg w d) (hinit : isInitCall c = true) : c ∈ initCalls w d := by
  refine forall_batteryCalls_of_init cfg w d (p := fun c => isInitCall c = true → c ∈ initCalls w d)
    (fun c hc _ => hc) ?_ ?_ ?_ c hc hinit
  · exact fun _ h => by cases h
  · exact fun _ _ h => by cases h
  · exact fun _ _ _ h => by cases h

theorem configuresPin_of_mem {cfg : Config} {d : Device} (hd : d.sense = {})
    (hpin : d.vbatEnable = none) {ws : List World}
    (hc : Call.gpioPinConfigure 0 ∈ newCalls d (run (batteryStep cfg) d ws)) :
    ∃ first rest, ws = first :: rest ∧ configuresPin first = true := by
  induction ws using List.reverseRecOn with
  | nil => simp at hc
  | append_singleton ws w ih =>
    rw [newCalls_run_concat (batteryStep_extends cfg), newCalls_batteryStep] at hc
    obtain hc | hc := List.mem_append.mp hc
    · obtain ⟨first, rest, rfl, hfirst⟩ := ih hc
      exact ⟨first, rest ++ [w], rfl, hfirst⟩
    · have hinit := initCall_mem hc rfl
      cases ws with
      | nil => exact ⟨w, [], rfl, (configure_mem_initCalls_iff hd).mp hinit⟩
      | cons first rest =>
        rw [initCalls_again (by rw [(batteryTracked_run cfg hd hpin first rest).sense])] at hinit
        simp at hinit

section Boot
variable {cfg : Config} {d : Device}

theorem initBatterySense_run (hd : d.sense = {}) (hpin : d.vbatEnable = none) (ws : List World)
    (w : World) :
    (initBatterySense w (run (batteryStep cfg) d ws)).1 = initSucceeds (ws.headD w) := by
  cases ws with
  | nil => exact (initBatterySense_first hd).1
  | cons first rest =>
    have hsense := (batteryTracked_run cfg hd hpin first rest).sense
    rw [initBatterySense_again (by rw [hsense]), hsense]
    rfl

theorem laterCalls (hd : d.sense = {}) (hpin : d.vbatEnable = none) {ws : List World} (w : World)
    (hws : ws ≠ []) :
    initCalls w (run (batteryStep cfg) d ws) = [] := by
  obtain ⟨first, rest, rfl⟩ := List.exists_cons_of_ne_nil hws
  exact initCalls_again (by rw [(batteryTracked_run cfg hd hpin first rest).sense])

/-- A pin that was ever configured is inactive after every reading. -/
theorem divider_off (hd : d.sense = {}) (hpin : d.vbatEnable = none) {ws : List World}
    (hc : Call.gpioPinConfigure 0 ∈ newCalls d (run (batteryStep cfg) d ws)) :
    (run (batteryStep cfg) d ws).vbatEnable = some 1 := by
  obtain ⟨first, rest, rfl, hfirst⟩ := configuresPin_of_mem hd hpin hc
  rw [(batteryTracked_run cfg hd hpin first rest).pin, if_pos hfirst]

/-- Only the first reading of a boot tries the setup. -/
theorem no_later_setup (hd : d.sense = {}) (hpin : d.vbatEnable = none) {ws : List World}
    (w : World) (hws : ws ≠ []) :
    ∀ c ∈ batteryCalls cfg w (run (batteryStep cfg) d ws), isInitCall c = false := by
  intro c hc
  by_contra hinit
  have hmem := initCall_mem hc (by simpa using hinit)
  rw [laterCalls hd hpin w hws] at hmem
  simp at hmem

end Boot

section Outcomes
variable {cfg : Config} {w : World} {d : Device}

theorem reading_without_setup (hinit : (initBatterySense w d).1 = false) :
    (readBatteryVolts cfg w d).1 = readBatteryVoltsPlaceholder ∧
      (readBatteryVolts cfg w d).2.toAppTask = d.toAppTask ∧
      batteryCalls cfg w d = initCalls w d := by
  obtain ⟨htask, -⟩ := readBatteryVolts_spec cfg w d
  refine ⟨congrArg Prod.fst (readBatteryVolts_of_failed cfg w d hinit), ?_, ?_⟩
  · rw [htask, batteryFails, hinit]
    rfl
  · rw [batteryCalls, hinit]
    exact List.append_nil _

theorem reading_with_failed_sample (hinit : (initBatterySense w d).1 = true)
    (hfail : ∃ i < 4, (w.adcRead i).err ≠ 0) :
    (readBatteryVolts cfg w d).1 = readBatteryVoltsPlaceholder ∧
      (cfg.diagnosticMode = true →
        (readBatteryVolts cfg w d).2.mDiag .adcFailureCount =
          d.mDiag .adcFailureCount + 1) := by
  have hsamples : samplesFail w kBatterySampleCount 0 = true := by
    rw [samplesFail_iff]
    simp only [Nat.zero_add]
    exact hfail
  obtain ⟨htask, -⟩ := readBatteryVolts_spec cfg w d
  refine ⟨readBatteryVolts_of_readFailed cfg w d hsamples, fun hdiag => ?_⟩
  rw [htask, batteryFails, hinit, hsamples, hdiag]
  simp

theorem reading_of_samples (hinit : (initBatterySense w d).1 = true)
    (hok : ∀ i < 4, (w.adcRead i).err = 0) :
    (readBatteryVolts cfg w d).1 =
        (sampleSum w kBatterySampleCount 0 : ℚ) / 4 / 4095 * (36 / 10) * (151 / 51) ∧
      (readBatteryVolts cfg w d).2.toAppTask = d.toAppTask := by
  have hsamples : samplesFail w kBatterySampleCount 0 = false := by
    rw [Bool.eq_false_iff, ne_eq, samplesFail_iff]
    rintro ⟨i, hi, herr⟩
    rw [Nat.zero_add] at herr
    exact herr (hok i hi)
  obtain ⟨htask, -⟩ := readBatteryVolts_spec cfg w d
  refine ⟨readBatteryVolts_of_ok cfg w d hinit hsamples, ?_⟩
  rw [htask, batteryFails, hsamples, Bool.and_false]
  rfl

end Outcomes

/-- **Battery readings over a boot.** After a reading the divider is off if its pin was ever
configured; the setup is tried at most once and its outcome decides all readings; without it they
drive nothing, count nothing and return the placeholder; with it a failed sample returns the
placeholder and is counted once, and otherwise the result is the scaled mean of the samples. The
millivolts of every result fit. -/
theorem battery_readings (cfg : Config) (d : Device) (ws : List World) (w : World)
    (hd : d.sense = {}) (hpin : d.vbatEnable = none) :
    let d' := run (batteryStep cfg) d ws
    let out := readBatteryVolts cfg w d'
    let sum := ∑ i ∈ Finset.range 4, max (w.adcRead i).raw.toInt 0
    (.gpioPinConfigure 0 ∈ newCalls d out.2 → out.2.vbatEnable = some 1) ∧
    (initBatterySense w d').1 = initSucceeds (ws.headD w) ∧
    (ws ≠ [] → ∀ c ∈ newCalls d' out.2, isInitCall c = false) ∧
    (initSucceeds (ws.headD w) = false →
      out.1 = readBatteryVoltsPlaceholder ∧ out.2.toAppTask = d'.toAppTask ∧
        (ws ≠ [] → newCalls d' out.2 = [])) ∧
    (initSucceeds (ws.headD w) = true → (∃ i < 4, (w.adcRead i).err ≠ 0) →
      out.1 = readBatteryVoltsPlaceholder ∧
        (cfg.diagnosticMode = true →
          out.2.mDiag .adcFailureCount = d'.mDiag .adcFailureCount + 1)) ∧
    (initSucceeds (ws.headD w) = true → (∀ i < 4, (w.adcRead i).err = 0) →
      out.1 = (sum : ℚ) / 4 / 4095 * (36 / 10) * (151 / 51) ∧ 0 ≤ sum ∧ sum < 2 ^ 32 ∧
        out.2.toAppTask = d'.toAppTask) ∧
    0 ≤ lround (out.1 * 1000) ∧ lround (out.1 * 1000) < 2 ^ 32 := by
  intro d' out sum
  have hinit : (initBatterySense w d').1 = initSucceeds (ws.headD w) :=
    initBatterySense_run hd hpin ws w
  have hrun : out.2 = run (batteryStep cfg) d (ws ++ [w]) :=
    (run_concat (batteryStep cfg) d ws w).symm
  have hcalls : newCalls d' out.2 = batteryCalls cfg w d' := newCalls_batteryStep cfg d' w
  have hsum : sampleSum w kBatterySampleCount 0 = sum := by
    simp only [sampleSum, Nat.zero_add]
    rfl
  have hmv := millivolts_range cfg w d'
  refine ⟨fun hc => ?_, hinit, fun hws => ?_, fun hbad => ?_, fun hgood hfail => ?_,
    fun hgood hok => ?_, hmv.1, hmv.2.trans_lt (by norm_num)⟩
  · rw [hrun] at hc ⊢
    exact divider_off hd hpin hc
  · rw [hcalls]
    exact no_later_setup hd hpin w hws
  · obtain ⟨hvolts, htask, hsetup⟩ := reading_without_setup (hinit.trans hbad)
    refine ⟨hvolts, htask, fun hws => ?_⟩
    rw [hcalls, hsetup, laterCalls hd hpin w hws]
  · exact reading_with_failed_sample (hinit.trans hgood) hfail
  · obtain ⟨hvolts, htask⟩ := reading_of_samples (hinit.trans hgood) hok
    obtain ⟨h₀, h⟩ := sampleSum_range w kBatterySampleCount 0
    rw [hsum] at hvolts h₀ h
    exact ⟨hvolts, h₀, h.trans_lt (by decide), htask⟩

def thirdReadFails : World := { adcRead := fun i => if i = 2 then { err := -5 } else {} }

theorem battery_readings_third_fails :
    let d' := run (batteryStep diagConfig) {} [{}]
    let out := readBatteryVolts diagConfig thirdReadFails d'
    out.1 = readBatteryVoltsPlaceholder ∧
      (diagConfig.diagnosticMode = true →
        out.2.mDiag .adcFailureCount = d'.mDiag .adcFailureCount + 1) :=
  (battery_readings diagConfig {} [{}] thirdReadFails rfl rfl).2.2.2.2.1 rfl
    ⟨2, by decide, by decide⟩

end TinyEnvSensor
