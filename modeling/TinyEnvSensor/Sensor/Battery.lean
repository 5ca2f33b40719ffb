import TinyEnvSensor.Diagnostics.Counters
import TinyEnvSensor.Foundations.Rounding

/-! # Battery sensing

`VoltsToPercent`, `InitBatterySense` and `ReadBatteryVolts`, with the `float` arithmetic taken over
exact rationals and the decimal constants of the source. -/
namespace TinyEnvSensor
open Rounding
set_option autoImplicit false

def kPlaceholderBatteryVolts : ℚ := 369 / 100
def kBatteryGain : ℚ := 1
def kVbatDividerRatio : ℚ := (1000000 + 510000) / 510000
def kAdcRefVolts : ℚ := 6 / 10
def kAdcGainVal : ℚ := 1 / 6
def kAdcResolution : ℕ := 12
def kBatterySampleCount : ℕ := 4
def kBatterySampleDelayMs : ℤ := 1

def kCurve : List (ℚ × ℕ) :=
  [(414 / 100, 100), (410 / 100, 95), (400 / 100, 85), (390 / 100, 75), (380 / 100, 65),
    (370 / 100, 50), (360 / 100, 35), (350 / 100, 20), (340 / 100, 10), (330 / 100, 5),
    (320 / 100, 2), (300 / 100, 0)]

/-- The loop over adjacent breakpoints; `0` when no segment holds `v`. -/
def curveLoop (v : ℚ) : List (ℚ × ℕ) → UInt8
  | hi :: lo :: rest =>
    if v ≤ hi.1 ∧ lo.1 ≤ v then
      let t := (v - lo.1) / (hi.1 - lo.1)
      let p := (lo.2 : ℚ) + t * ((hi.2 : ℚ) - (lo.2 : ℚ))
      UInt8.ofInt (lround p)
    else curveLoop v (lo :: rest)
  | _ => 0

def voltsToPercent (v : ℚ) : UInt8 :=
  if 414 / 100 ≤ v then 100 else if v ≤ 300 / 100 then 0 else curveLoop v kCurve

def readBatteryVoltsPlaceholder : ℚ := kPlaceholderBatteryVolts * kBatteryGain

def gpioPinSet (w : World) (level : ℤ) (d : Device) : Device :=
  { d.call w (.gpioPinSet level) with vbatEnable := some level }

def initBatterySense (w : World) (d : Device) : Bool × Device :=
  if d.sense.sInit then (d.sense.sReady, d)
  else
    let d := { d with sense.sInit := true }
    if !w.adcReady then (false, d)
    else if !w.gpioReady then (false, d)
    else
      let d := d.call w (.gpioPinConfigure w.gpioPinConfigure)
      if w.gpioPinConfigure ≠ 0 then (false, d)
      else
        -- `GPIO_OUTPUT_INACTIVE` drives the pin low, then the divider is switched off
        let d := gpioPinSet w 1 { d with vbatEnable := some 0 }
        let d := d.call w (.adcChannelSetup w.adcChannelSetup)
        if w.adcChannelSetup ≠ 0 then (false, d)
        else (true, { d with sense.sReady := true })

/-- The sampling loop: `n` samples to go, the next one of index `i`. -/
def sampleLoop (w : World) : ℕ → ℕ → UInt32 → Device → Option UInt32 × Device
  | 0, _, rawSum, d => (some rawSum, d)
  | n + 1, i, rawSum, d =>
    let reply := w.adcRead i
    let d := d.call w (.adcRead reply.err reply.raw)
    if reply.err ≠ 0 then (none, d)
    else
      let rawSum := if 0 < reply.raw then rawSum + UInt32.ofInt reply.raw.toInt else rawSum
      sampleLoop w n (i + 1) rawSum d

def readBatteryVolts (cfg : Config) (w : World) (d : Device) : ℚ × Device :=
  match initBatterySense w d with
  | (false, d) => (readBatteryVoltsPlaceholder, d)
  | (true, d) =>
    let d := gpioPinSet w 0 d
    match sampleLoop w kBatterySampleCount 0 0 d with
    | (none, d) =>
      let d := gpioPinSet w 1 d
      (readBatteryVoltsPlaceholder, diagOnAdcReadFailure cfg w d)
    | (some rawSum, d) =>
      let d := gpioPinSet w 1 d
      let fullScale := kAdcRefVolts / kAdcGainVal
      let rawAvg := (rawSum.toNat : ℚ) / kBatterySampleCount
      let vIn := rawAvg / ((2 ^ kAdcResolution - 1 : ℕ) : ℚ) * fullScale
      (vIn * kVbatDividerRatio * kBatteryGain, d)

/-! ## The sleeps of a reading -/

/-- The sleeps of the sampling loop: one after each sample but the last. -/
def sampleSleepMs (w : World) : ℕ → ℕ → ℤ
  | 0, _ => 0
  | n + 1, i =>
    if (w.adcRead i).err ≠ 0 then 0
    else
      (if i + 1 < kBatterySampleCount then kBatterySampleDelayMs else 0) +
        sampleSleepMs w n (i + 1)

/-- How long `ReadBatteryVolts` sleeps: once for the divider, and between the samples. -/
def batterySleepMs (w : World) (d : Device) : ℤ :=
  if (initBatterySense w d).1 then 2 + sampleSleepMs w kBatterySampleCount 0 else 0

theorem sampleSleepMs_nonneg (w : World) (n i : ℕ) : 0 ≤ sampleSleepMs w n i := by
  induction n generalizing i with
  | zero => exact le_rfl
  | succ n ih =>
    have hrest := ih (i + 1)
    unfold sampleSleepMs kBatterySampleDelayMs
    split_ifs <;> omega

theorem sampleSleepMs_le (w : World) (n i : ℕ) :
    sampleSleepMs w n i ≤ kBatterySampleDelayMs * (kBatterySampleCount - 1 - i : ℕ) := by
  induction n generalizing i with
  | zero => exact mul_nonneg (by decide) (Nat.cast_nonneg _)
  | succ n ih =>
    have hrest := ih (i + 1)
    unfold kBatterySampleDelayMs kBatterySampleCount at *
    unfold sampleSleepMs kBatterySampleDelayMs kBatterySampleCount
    split_ifs <;> omega

/-! ## The calls of a reading -/

section Calls
variable (cfg : Config) (w : World) (d : Device)

def initCalls : List Call :=
  if d.sense.sInit || !w.adcReady || !w.gpioReady then []
  else
    .gpioPinConfigure w.gpioPinConfigure ::
      if w.gpioPinConfigure ≠ 0 then [] else [.gpioPinSet 1, .adcChannelSetup w.adcChannelSetup]

def sampleCalls : ℕ → ℕ → List Call
  | 0, _ => []
  | n + 1, i =>
    .adcRead (w.adcRead i).err (w.adcRead i).raw ::
      if (w.adcRead i).err ≠ 0 then [] else sampleCalls n (i + 1)

def samplesFail : ℕ → ℕ → Bool
  | 0, _ => false
  | n + 1, i => decide ((w.adcRead i).err ≠ 0) || samplesFail n (i + 1)

def batteryFails : Bool := (initBatterySense w d).1 && samplesFail w kBatterySampleCount 0

def batteryCalls : List Call :=
  initCalls w d ++
    if (initBatterySense w d).1 then
      .gpioPinSet 0 :: (sampleCalls w kBatterySampleCount 0 ++
        .gpioPinSet 1 :: if batteryFails w d && cfg.diagnosticMode then
          [.settingsSaveOne (diagKey .adcFailureCount) (d.mDiag .adcFailureCount + 1)
            (w.settingsSaveOne (diagKey .adcFailureCount))]
        else [])
    else []

@[simp] theorem initBatterySense_toAppTask :
    (initBatterySense w d).2.toAppTask = d.toAppTask := by
  simp only [initBatterySense]
  split_ifs <;> rfl

theorem initBatterySense_trace :
    (initBatterySense w d).2.trace = d.trace ++ (initCalls w d).map (Event.mk w.uptimeMs) := by
  simp only [initBatterySense, initCalls]
  split_ifs <;> simp_all [gpioPinSet]

theorem sampleLoop_spec (n i : ℕ) (rawSum : UInt32) :
    ((sampleLoop w n i rawSum d).1 = none ↔ samplesFail w n i = true) ∧
      (sampleLoop w n i rawSum d).2 =
        { d with trace := d.trace ++ (sampleCalls w n i).map (Event.mk w.uptimeMs) } := by
  induction n generalizing i rawSum d with
  | zero => simp [sampleLoop, samplesFail, sampleCalls]
  | succ n ih =>
    by_cases herr : (w.adcRead i).err = 0
    · have hrest := ih (d.call w (.adcRead (w.adcRead i).err (w.adcRead i).raw)) (i + 1)
        (if 0 < (w.adcRead i).raw then rawSum + UInt32.ofInt (w.adcRead i).raw.toInt else rawSum)
      simp only [sampleLoop, samplesFail, sampleCalls, herr, ne_eq, not_true, if_false,
        decide_false, Bool.false_or]
      rw [herr] at hrest
      refine ⟨hrest.1, hrest.2.trans ?_⟩
      simp
    · simp [sampleLoop, samplesFail, sampleCalls, herr, Device.call]

/-- A reading changes the ADC failure counter only, and by one, when one of its reads fails. -/
theorem readBatteryVolts_spec :
    (readBatteryVolts cfg w d).2.toAppTask =
        { d.toAppTask with
          mDiag := if batteryFails w d && cfg.diagnosticMode then
              Function.update d.mDiag .adcFailureCount (d.mDiag .adcFailureCount + 1)
            else d.mDiag } ∧
      (readBatteryVolts cfg w d).2.trace =
        d.trace ++ (batteryCalls cfg w d).map (Event.mk w.uptimeMs) := by
  have htask := initBatterySense_toAppTask w d
  have htrace := initBatterySense_trace w d
  unfold readBatteryVolts batteryCalls batteryFails
  cases hinit : initBatterySense w d with
  | mk ready d₁ =>
    rw [hinit] at htask htrace
    cases ready
    · refine ⟨htask, htrace.trans ?_⟩
      simp
    · obtain ⟨hfail, hloop⟩ := sampleLoop_spec w (gpioPinSet w 0 d₁) kBatterySampleCount 0 0
      cases hout : sampleLoop w kBatterySampleCount 0 0 (gpioPinSet w 0 d₁) with
      | mk sum d₂ =>
        rw [hout] at hfail hloop
        cases sum with
        | none =>
          have hf := hfail.mp rfl
          cases hdiag : cfg.diagnosticMode <;>
            simp_all [gpioPinSet, diagOnAdcReadFailure]
        | some sum =>
          have hf : samplesFail w kBatterySampleCount 0 = false := by
            cases h : samplesFail w kBatterySampleCount 0 with
            | false => rfl
            | true => cases hfail.mpr h
          simp_all [gpioPinSet]

theorem forall_sampleCalls {p : Call → Prop} (hread : ∀ err raw, p (.adcRead err raw)) (n i : ℕ) :
    ∀ c ∈ sampleCalls w n i, p c := by
  induction n generalizing i with
  | zero => simp [sampleCalls]
  | succ n ih =>
    intro c hc
    obtain rfl | hc := List.mem_cons.mp hc
    · exact hread _ _
    · split at hc
      · simp at hc
      · exact ih (i + 1) c hc

/-- A call of a reading belongs to the setup or is one of a reading proper. -/
theorem forall_batteryCalls_of_init {p : Call → Prop} (hinit : ∀ c ∈ initCalls w d, p c)
    (hset : ∀ level, p (.gpioPinSet level)) (hread : ∀ err raw, p (.adcRead err raw))
    (hsave : ∀ key v rc, p (.settingsSaveOne key v rc)) : ∀ c ∈ batteryCalls cfg w d, p c := by
  intro c hc
  unfold batteryCalls at hc
  obtain hc | hc := List.mem_append.mp hc
  · exact hinit c hc
  · split at hc
    · obtain rfl | hc := List.mem_cons.mp hc
      · exact hset 0
      · obtain hc | hc := List.mem_append.mp hc
        · exact forall_sampleCalls w hread _ _ c hc
        · obtain rfl | hc := List.mem_cons.mp hc
          · exact hset 1
          · split at hc
            · rw [List.mem_singleton.mp hc]
              exact hsave _ _ _
            · simp at hc
    · simp at hc

theorem forall_batteryCalls {p : Call → Prop} (hconfigure : ∀ err, p (.gpioPinConfigure err))
    (hset : ∀ level, p (.gpioPinSet level)) (hsetup : ∀ err, p (.adcChannelSetup err))
    (hread : ∀ err raw, p (.adcRead err raw)) (hsave : ∀ key v rc, p (.settingsSaveOne key v rc)) :
    ∀ c ∈ batteryCalls cfg w d, p c := by
  have hinit : ∀ c ∈ initCalls w d, p c := by
    unfold initCalls
    split_ifs <;> simp [hconfigure, hset, hsetup]
  exact forall_batteryCalls_of_init cfg w d hinit hset hread hsave

end Calls
end TinyEnvSensor
