import TinyEnvSensor.Sensor.Battery

/-! # Sampling and publishing

`UpdateSensorReadings` with its gate, and `UpdateMatterAttributes`. The sensor conversion is taken
over exact rationals; the casts to the attribute types are modulo `2^16`. -/
namespace TinyEnvSensor
open Rounding
set_option autoImplicit false

def sensorValueToDouble (sv : SensorValue) : ℚ := (sv.val1 : ℚ) + (sv.val2 : ℚ) / 1000000

/-- The bookkeeping of the commissioned flag at the head of `UpdateSensorReadings`. -/
def noteCommissioned (w : World) (s : Sampler) : Sampler :=
  let commissioned := isCommissioned w
  if commissioned ≠ s.mWasCommissioned then
    { s with
      mWasCommissioned := commissioned
      mCommissionedAtMs := if commissioned then w.uptimeMs else 0 }
  else s

/-- The fetch and the two channel reads, and the stores they end in. -/
def sampleSensor (cfg : Config) (w : World) (d : Device) : Bool × Device :=
  let d := d.call w (.sensorSampleFetch w.sensorSampleFetch)
  if w.sensorSampleFetch ≠ 0 then (false, diagOnSensorReadFailure cfg w d)
  else
    let d := d.call w (.sensorChannelGet .ambientTemp w.temperatureGet)
    if w.temperatureGet ≠ 0 then (false, diagOnSensorReadFailure cfg w d)
    else
      let d := d.call w (.sensorChannelGet .humidity w.humidityGet)
      if w.humidityGet ≠ 0 then (false, diagOnSensorReadFailure cfg w d)
      else
        let tempC := sensorValueToDouble w.temperature
        let rh := sensorValueToDouble w.humidity
        (true,
          { d with
            sampler.mCurrentTemperature := Int16.ofInt (lround (tempC * 100))
            sampler.mCurrentHumidity := UInt16.ofInt (lround (rh * 100)) })

def updateSensorReadings (cfg : Config) (w : World) (force : Bool) (d : Device) : Bool × Device :=
  let d := { d with sampler := noteCommissioned w d.sampler }
  if !force && !isCommissioned w then (false, d)
  else if !force && decide (0 < d.sampler.mCommissionedAtMs) &&
      decide (w.uptimeMs - d.sampler.mCommissionedAtMs < kCommissionGraceMs) then (false, d)
  else if !d.sampler.mShtReady then (false, d)
  else sampleSensor cfg w d

def updateMatterAttributes (cfg : Config) (w : World) (d : Device) : Device :=
  let d := d.call w (.temperatureMeasuredValueSet d.sampler.mCurrentTemperature)
  let d := d.call w (.humidityMeasuredValueSet d.sampler.mCurrentHumidity)
  let (vbat, d) := readBatteryVolts cfg w d
  let mv := UInt32.ofInt (lround (vbat * 1000))
  let pct := voltsToPercent vbat
  let halfPct : UInt8 := if 100 ≤ pct then 200 else pct * 2
  let d := d.call w (.powerSourceSet .status 1)
  let d := d.call w (.powerSourceSet .batPresent 1)
  let d := d.call w (.powerSourceSet .batReplaceability 2)
  let d := d.call w (.powerSourceSet .batChargeLevel 0)
  let d := d.call w (.powerSourceSet .batVoltage mv)
  d.call w (.powerSourceSet .batPercentRemaining halfPct.toUInt32)

/-! ## What one call can do -/

/-- The gate of `UpdateSensorReadings`: forced, or commissioned and out of the grace. -/
def gatePasses (w : World) (force : Bool) (s : Sampler) : Bool :=
  force || (isCommissioned w &&
    !(decide (0 < (noteCommissioned w s).mCommissionedAtMs) &&
      decide (w.uptimeMs - (noteCommissioned w s).mCommissionedAtMs < kCommissionGraceMs)))

def accessesSensor (w : World) (force : Bool) (s : Sampler) : Bool :=
  gatePasses w force s && s.mShtReady

def accessSucceeds (w : World) : Bool :=
  decide (w.sensorSampleFetch = 0 ∧ w.temperatureGet = 0 ∧ w.humidityGet = 0)

def accessCalls (w : World) : List Call :=
  .sensorSampleFetch w.sensorSampleFetch ::
    if w.sensorSampleFetch ≠ 0 then []
    else .sensorChannelGet .ambientTemp w.temperatureGet ::
      if w.temperatureGet ≠ 0 then [] else [.sensorChannelGet .humidity w.humidityGet]

def sampledTemperature (w : World) : Int16 :=
  Int16.ofInt (lround (sensorValueToDouble w.temperature * 100))

def sampledHumidity (w : World) : UInt16 :=
  UInt16.ofInt (lround (sensorValueToDouble w.humidity * 100))

def sampled (w : World) (d : Device) : Device :=
  { d with
    sampler :=
      { noteCommissioned w d.sampler with
        mCurrentTemperature := sampledTemperature w
        mCurrentHumidity := sampledHumidity w }
    trace := d.trace ++ (accessCalls w).map (Event.mk w.uptimeMs) }

/-- The seven exits of `UpdateSensorReadings` as three: the sensor is left alone, an access fails,
or a sample is stored. -/
inductive SampleStep (cfg : Config) (w : World) (force : Bool) (d : Device) (out : Bool × Device) :
    Prop
  | idle (haccess : accessesSensor w force d.sampler = false)
      (hout : out = (false, { d with sampler := noteCommissioned w d.sampler }))
  | failed (haccess : accessesSensor w force d.sampler = true) (hfail : accessSucceeds w = false)
      (hout : out = (false, diagOnSensorReadFailure cfg w
        { d with
          sampler := noteCommissioned w d.sampler
          trace := d.trace ++ (accessCalls w).map (Event.mk w.uptimeMs) }))
  | done (haccess : accessesSensor w force d.sampler = true) (hok : accessSucceeds w = true)
      (hout : out = (true, sampled w d))

theorem noteCommissioned_rest (w : World) (s : Sampler) :
    (noteCommissioned w s).mShtReady = s.mShtReady ∧
      (noteCommissioned w s).mCurrentTemperature = s.mCurrentTemperature ∧
      (noteCommissioned w s).mCurrentHumidity = s.mCurrentHumidity := by
  simp only [noteCommissioned]
  split <;> exact ⟨rfl, rfl, rfl⟩

theorem noteCommissioned_mWasCommissioned (w : World) (s : Sampler) :
    (noteCommissioned w s).mWasCommissioned = isCommissioned w := by
  simp only [noteCommissioned]
  split
  · rfl
  · rename_i hsame
    exact (not_not.mp hsame).symm

theorem sampleSensor_eq (cfg : Config) (w : World) (d : Device) :
    sampleSensor cfg w d =
      if accessSucceeds w then
        (true,
          { d with
            sampler.mCurrentTemperature := sampledTemperature w
            sampler.mCurrentHumidity := sampledHumidity w
            trace := d.trace ++ (accessCalls w).map (Event.mk w.uptimeMs) })
      else
        (false, diagOnSensorReadFailure cfg w
          { d with trace := d.trace ++ (accessCalls w).map (Event.mk w.uptimeMs) }) := by
  simp only [sampleSensor, accessSucceeds, accessCalls]
  by_cases hfetch : w.sensorSampleFetch = 0
  · by_cases htemp : w.temperatureGet = 0
    · by_cases hhum : w.humidityGet = 0
      · simp [hfetch, htemp, hhum, Device.call, sampledTemperature, sampledHumidity]
      · simp [hfetch, htemp, hhum, Device.call]
    · simp [hfetch, htemp, Device.call]
  · simp [hfetch, Device.call]

theorem updateSensorReadings_step (cfg : Config) (w : World) (force : Bool) (d : Device) :
    SampleStep cfg w force d (updateSensorReadings cfg w force d) := by
  have hready := (noteCommissioned_rest w d.sampler).1
  have heq : updateSensorReadings cfg w force d =
      if accessesSensor w force d.sampler then
        sampleSensor cfg w { d with sampler := noteCommissioned w d.sampler }
      else (false, { d with sampler := noteCommissioned w d.sampler }) := by
    simp only [updateSensorReadings, accessesSensor, gatePasses, hready]
    by_cases hgrace : 0 < (noteCommissioned w d.sampler).mCommissionedAtMs ∧
      w.uptimeMs - (noteCommissioned w d.sampler).mCommissionedAtMs < kCommissionGraceMs
    · by_cases hcomm : isCommissioned w = true <;> cases force <;>
        by_cases hsht : d.sampler.mShtReady = true <;> simp [hgrace, hcomm, hsht]
    · have hgrace' : (decide (0 < (noteCommissioned w d.sampler).mCommissionedAtMs) &&
          decide (w.uptimeMs - (noteCommissioned w d.sampler).mCommissionedAtMs <
            kCommissionGraceMs)) = false := by
        rw [← Bool.decide_and, decide_eq_false hgrace]
      by_cases hcomm : isCommissioned w = true <;> cases force <;>
        by_cases hsht : d.sampler.mShtReady = true <;>
          simp [hgrace', hcomm, hsht]
  rw [heq]
  cases haccess : accessesSensor w force d.sampler with
  | false => exact SampleStep.idle haccess rfl
  | true =>
    rw [if_pos rfl, sampleSensor_eq]
    cases hok : accessSucceeds w with
    | false => exact SampleStep.failed haccess hok rfl
    | true => exact SampleStep.done haccess hok rfl

/-! ## What publishing does -/

section Publish
variable (cfg : Config) (w : World) (d : Device)

def afterMeasuredSets : Device :=
  (d.call w (.temperatureMeasuredValueSet d.sampler.mCurrentTemperature)).call w
    (.humidityMeasuredValueSet d.sampler.mCurrentHumidity)

def powerSourceCalls (vbat : ℚ) : List Call :=
  [.powerSourceSet .status 1, .powerSourceSet .batPresent 1, .powerSourceSet .batReplaceability 2,
    .powerSourceSet .batChargeLevel 0,
    .powerSourceSet .batVoltage (UInt32.ofInt (lround (vbat * 1000))),
    .powerSourceSet .batPercentRemaining
      (if 100 ≤ voltsToPercent vbat then 200 else voltsToPercent vbat * 2 : UInt8).toUInt32]

def publishCalls : List Call :=
  [.temperatureMeasuredValueSet d.sampler.mCurrentTemperature,
    .humidityMeasuredValueSet d.sampler.mCurrentHumidity] ++
  (batteryCalls cfg w (afterMeasuredSets w d) ++
    powerSourceCalls (readBatteryVolts cfg w (afterMeasuredSets w d)).1)

theorem updateMatterAttributes_eq :
    updateMatterAttributes cfg w d =
      (powerSourceCalls (readBatteryVolts cfg w (afterMeasuredSets w d)).1).foldl
        (fun d c => d.call w c) (readBatteryVolts cfg w (afterMeasuredSets w d)).2 := rfl

theorem updateMatterAttributes_trace :
    (updateMatterAttributes cfg w d).trace =
      d.trace ++ (publishCalls cfg w d).map (Event.mk w.uptimeMs) := by
  have hsets : (afterMeasuredSets w d).trace = d.trace ++
      [⟨w.uptimeMs, .temperatureMeasuredValueSet d.sampler.mCurrentTemperature⟩,
        ⟨w.uptimeMs, .humidityMeasuredValueSet d.sampler.mCurrentHumidity⟩] := by
    simp [afterMeasuredSets]
  rw [updateMatterAttributes_eq, (foldl_call _ _ _).2, (readBatteryVolts_spec cfg w _).2, hsets]
  simp [publishCalls]

theorem updateMatterAttributes_frame :
    (updateMatterAttributes cfg w d).toAppTask =
      { d.toAppTask with mDiag := (updateMatterAttributes cfg w d).mDiag } := by
  rw [updateMatterAttributes_eq, (foldl_call _ _ _).1, (readBatteryVolts_spec cfg w _).1]
  rfl

@[simp] theorem updateMatterAttributes_thread :
    (updateMatterAttributes cfg w d).thread = d.thread := by
  rw [updateMatterAttributes_frame]

@[simp] theorem updateMatterAttributes_awake :
    (updateMatterAttributes cfg w d).awake = d.awake := by
  rw [updateMatterAttributes_frame]

@[simp] theorem updateMatterAttributes_sampler :
    (updateMatterAttributes cfg w d).sampler = d.sampler := by
  rw [updateMatterAttributes_frame]

@[simp] theorem updateMatterAttributes_mLastHealthSnapshotMs :
    (updateMatterAttributes cfg w d).mLastHealthSnapshotMs = d.mLastHealthSnapshotMs := by
  rw [updateMatterAttributes_frame]

@[simp] theorem updateMatterAttributes_mWdtChannel :
    (updateMatterAttributes cfg w d).mWdtChannel = d.mWdtChannel := by
  rw [updateMatterAttributes_frame]

end Publish
end TinyEnvSensor
