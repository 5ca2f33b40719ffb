import TinyEnvSensor.Policy.AwakePolicy
import TinyEnvSensor.Sensor.Sampling
import TinyEnvSensor.Diagnostics.Watchdog
import TinyEnvSensor.Diagnostics.Ledger

/-! # The application task

`Init`, `StartApp` and the two timer callbacks. The work items run one after the other on the
Matter thread; the main thread stays in the loop of `StartApp`, which feeds the watchdog once and
then again after each task posted to the `Nrf` task queue. -/
namespace TinyEnvSensor
set_option autoImplicit false

def kSht4xMinCentiDegC : Int16 := -4000
def kSht4xMaxCentiDegC : Int16 := 12500

/-- `AppTask::Init`: the device after it, and the error it returned, if any. `PrepareServer` and
`StartServer` are taken to leave the entries under `tinyenv/diag` alone. -/
def init (cfg : Config) (w : World) (d : Device) : Device × Option ChipError :=
  match w.prepareServer with
  | some err => (d, some err)
  | none =>
    let d := diagOnBoot cfg w d
    if !cfg.disableBoardUi && !w.boardInit then (d, some .incorrectState)
    else if !cfg.disableBoardUi && w.registerEventHandler.isSome then (d, w.registerEventHandler)
    else if w.identifyInit.isSome then (d, w.identifyInit)
    else
      let d := { d with sampler.mShtReady := w.shtReady }
      let d := diagInitWatchdog cfg w d
      (d, w.startServer)

/-- The sleep of `PulseGreenOnce`. -/
def pulseSleepMs (cfg : Config) : ℤ := if cfg.statusLedActivity then 200 else 0

/-- How long it takes from the start of a cycle to the feed after it: the time of its calls and, in
a cycle with a sample, the sleeps in `ReadBatteryVolts` and `PulseGreenOnce`. -/
def cycleMs (cfg : Config) (w : World) (force : Bool) (d : Device) : ℤ :=
  w.busyMs +
    match updateSensorReadings cfg w force d with
    | (false, _) => 0
    | (true, d) => batterySleepMs w d + pulseSleepMs cfg

/-- What `StartApp` does with the first sample, before its main loop. -/
def startUpCycle (cfg : Config) (w : World) (d : Device) : Device :=
  match updateSensorReadings cfg w true d with
  | (false, d) => d
  | (true, d) => maybeLogAndPersistHealthSnapshot cfg w (updateMatterAttributes cfg w d)

/-- `AppTask::StartApp` up to the first block in its main loop, or its error. -/
def startApp (cfg : Config) (w : World) (d : Device) : Device × Option ChipError :=
  match init cfg w d with
  | (d, some err) => (d, some err)
  | (d, none) =>
    if !w.minMeasuredValueGet then (d, some .incorrectState)
    else
      let d := d.call w (.temperatureMinMeasuredValueSet kSht4xMinCentiDegC)
      let d := d.call w (.temperatureMaxMeasuredValueSet kSht4xMaxCentiDegC)
      let d :=
        { d with
          sampler.mTemperatureSensorMinValue := kSht4xMinCentiDegC
          sampler.mTemperatureSensorMaxValue := kSht4xMaxCentiDegC }
      let fedAt := w.later (cycleMs cfg w true d)
      let d := startUpCycle cfg w d
      (diagFeedWatchdog cfg fedAt d, none)

def updateTemperatureTimeoutCallback (cfg : Config) (w : World) (d : Device) : Device :=
  let fedAt := w.later (cycleMs cfg w false d)
  match updateSensorReadings cfg w false d with
  | (false, d) => d
  | (true, d) =>
    let d := updateMatterAttributes cfg w d
    let d := maybeLogAndPersistHealthSnapshot cfg w d
    diagFeedWatchdog cfg fedAt d

def commissionPolicyTimeoutCallback (cfg : Config) (w : World) (d : Device) : Device :=
  updateCommissioningAwakePolicy cfg w d

/-- What can happen after start-up: a timer fires, or a task posted to the queue is dispatched and
the main loop comes round. -/
inductive AppEvent where
  | sensorTick
  | policyTick
  | taskDispatched
  deriving DecidableEq, Repr

def appStep (cfg : Config) (d : Device) (e : AppEvent × World) : Device :=
  match e.1 with
  | .sensorTick => updateTemperatureTimeoutCallback cfg e.2 d
  | .policyTick => commissionPolicyTimeoutCallback cfg e.2 d
  | .taskDispatched => diagFeedWatchdog cfg e.2 d

/-! ## Kinds of calls -/

def isFeed : Call → Bool
  | .wdtFeed _ => true
  | _ => false

def isSnapshot : Call → Bool
  | .diagSnapshotLog _ _ _ _ _ _ => true
  | _ => false

/-- Calls that are neither feeds nor snapshots. -/
def Plain (l : List Call) : Prop := ∀ c ∈ l, isFeed c = false ∧ isSnapshot c = false

theorem Plain.countP {l : List Call} (h : Plain l) {p : Call → Bool}
    (hp : ∀ c, p c = true → isFeed c = true ∨ isSnapshot c = true) : l.countP p = 0 := by
  rw [List.countP_eq_zero]
  intro c hc hpc
  obtain ⟨hfeed, hsnapshot⟩ := h c hc
  have hkind := hp c hpc
  rw [hfeed, hsnapshot] at hkind
  simp at hkind

/-! ## Sensor cycles

The start-up and the tick of the sensor timer are one cycle, forced or not: sample and, if that
succeeds, publish and try a snapshot. The tick then feeds the watchdog. -/

def sensorCycle (cfg : Config) (w : World) (force : Bool) (d : Device) : Bool × Device :=
  match updateSensorReadings cfg w force d with
  | (false, d) => (false, d)
  | (true, d) => (true, maybeLogAndPersistHealthSnapshot cfg w (updateMatterAttributes cfg w d))

section Cycle
variable (cfg : Config) (w : World) (d : Device)

theorem startUpCycle_eq : startUpCycle cfg w d = (sensorCycle cfg w true d).2 := by
  unfold startUpCycle sensorCycle
  split <;> rfl

theorem updateTemperatureTimeoutCallback_eq :
    updateTemperatureTimeoutCallback cfg w d =
      if (sensorCycle cfg w false d).1 then
        diagFeedWatchdog cfg (w.later (cycleMs cfg w false d)) (sensorCycle cfg w false d).2
      else (sensorCycle cfg w false d).2 := by
  unfold updateTemperatureTimeoutCallback sensorCycle
  dsimp only
  split <;> rfl

theorem updateTemperatureTimeoutCallback_toAppTask :
    (updateTemperatureTimeoutCallback cfg w d).toAppTask =
      (sensorCycle cfg w false d).2.toAppTask := by
  rw [updateTemperatureTimeoutCallback_eq]
  split
  · exact diagFeedWatchdog_toAppTask cfg _ _
  · rfl

def accessFailureCalls : List Call :=
  if cfg.diagnosticMode then
    [.settingsSaveOne (diagKey .sensorFailureCount) (d.mDiag .sensorFailureCount + 1)
      (w.settingsSaveOne (diagKey .sensorFailureCount))]
  else []

def cycleCalls (force : Bool) : List Call :=
  if accessesSensor w force d.sampler then
    accessCalls w ++
      if accessSucceeds w then
        publishCalls cfg w (sampled w d) ++
          if snapshotDue cfg w d.mLastHealthSnapshotMs then
            snapshotCalls w d.thread.mLastThreadRole
              (updateMatterAttributes cfg w (sampled w d)).mDiag
          else []
      else accessFailureCalls cfg w d
  else []

theorem plain_accessCalls : Plain (accessCalls w) := by
  intro c hc
  unfold accessCalls at hc
  split_ifs at hc <;> simp at hc <;> (obtain rfl | rfl | rfl := hc) <;> exact ⟨rfl, rfl⟩

theorem plain_accessFailureCalls : Plain (accessFailureCalls cfg w d) := by
  intro c hc
  unfold accessFailureCalls at hc
  split at hc
  · rw [List.mem_singleton.mp hc]
    exact ⟨rfl, rfl⟩
  · simp at hc

theorem plain_publishCalls : Plain (publishCalls cfg w d) := by
  intro c hc
  unfold publishCalls at hc
  obtain hc | hc := List.mem_append.mp hc
  · simp only [List.mem_cons, List.not_mem_nil, or_false] at hc
    obtain rfl | rfl := hc <;> exact ⟨rfl, rfl⟩
  · obtain hc | hc := List.mem_append.mp hc
    · exact forall_batteryCalls cfg w _ (p := fun c => isFeed c = false ∧ isSnapshot c = false)
        (fun _ => ⟨rfl, rfl⟩) (fun _ => ⟨rfl, rfl⟩) (fun _ => ⟨rfl, rfl⟩)
        (fun _ _ => ⟨rfl, rfl⟩) (fun _ _ _ => ⟨rfl, rfl⟩) c hc
    · simp only [powerSourceCalls, List.mem_cons, List.not_mem_nil, or_false] at hc
      obtain rfl | rfl | rfl | rfl | rfl | rfl := hc <;> exact ⟨rfl, rfl⟩

/-- Sampling and publishing neither feed nor take snapshots: of such calls a cycle makes those of
its own snapshot. -/
theorem countP_cycleCalls {p : Call → Bool}
    (hp : ∀ c, p c = true → isFeed c = true ∨ isSnapshot c = true) (force : Bool) :
    (cycleCalls cfg w d force).countP p =
      if (accessesSensor w force d.sampler && accessSucceeds w) = true ∧
          snapshotDue cfg w d.mLastHealthSnapshotMs = true then
        (snapshotCalls w d.thread.mLastThreadRole
          (updateMatterAttributes cfg w (sampled w d)).mDiag).countP p
      else 0 := by
  have haccess := (plain_accessCalls w).countP hp
  have hfail := (plain_accessFailureCalls cfg w d).countP hp
  have hpublish := (plain_publishCalls cfg w (sampled w d)).countP hp
  unfold cycleCalls
  cases accessesSensor w force d.sampler with
  | false => rfl
  | true =>
    cases accessSucceeds w with
    | false => simp [haccess, hfail]
    | true => cases snapshotDue cfg w d.mLastHealthSnapshotMs <;> simp [haccess, hpublish]

/-- A cycle ends like its sampling, and only a stored sample is published. -/
theorem sensorCycle_step (force : Bool) :
    (accessesSensor w force d.sampler = false ∧
      sensorCycle cfg w force d = (false, { d with sampler := noteCommissioned w d.sampler })) ∨
    (accessesSensor w force d.sampler = true ∧ accessSucceeds w = false ∧
      sensorCycle cfg w force d = (false, diagOnSensorReadFailure cfg w
        { d with
          sampler := noteCommissioned w d.sampler
          trace := d.trace ++ (accessCalls w).map (Event.mk w.uptimeMs) })) ∨
    (accessesSensor w force d.sampler = true ∧ accessSucceeds w = true ∧
      sensorCycle cfg w force d =
        (true, maybeLogAndPersistHealthSnapshot cfg w
          (updateMatterAttributes cfg w (sampled w d)))) := by
  unfold sensorCycle
  obtain ⟨haccess, hout⟩ | ⟨haccess, hfail, hout⟩ | ⟨haccess, hok, hout⟩ :=
    updateSensorReadings_step cfg w force d
  · exact Or.inl ⟨haccess, by rw [hout]⟩
  · exact Or.inr (Or.inl ⟨haccess, hfail, by rw [hout]⟩)
  · exact Or.inr (Or.inr ⟨haccess, hok, by rw [hout]⟩)

theorem sensorCycle_fst (force : Bool) :
    (sensorCycle cfg w force d).1 = (accessesSensor w force d.sampler && accessSucceeds w) := by
  obtain ⟨haccess, hout⟩ | ⟨haccess, hfail, hout⟩ | ⟨haccess, hok, hout⟩ :=
    sensorCycle_step cfg w d force
  · rw [hout, haccess]
    rfl
  · rw [hout, haccess, hfail]
    rfl
  · rw [hout, haccess, hok]
    rfl

theorem sensorCycle_trace (force : Bool) :
    (sensorCycle cfg w force d).2.trace =
      d.trace ++ (cycleCalls cfg w d force).map (Event.mk w.uptimeMs) := by
  unfold cycleCalls
  obtain ⟨haccess, hout⟩ | ⟨haccess, hfail, hout⟩ | ⟨haccess, hok, hout⟩ :=
    sensorCycle_step cfg w d force
  · rw [hout, haccess]
    simp
  · rw [hout, haccess, hfail]
    cases hdiag : cfg.diagnosticMode <;> simp [diagOnSensorReadFailure, accessFailureCalls, hdiag]
  · rw [hout, haccess, hok]
    simp only [if_true]
    rw [snapshot_trace, updateMatterAttributes_trace]
    simp [sampled]

theorem sensorCycle_rest (force : Bool) :
    (sensorCycle cfg w force d).2.thread = d.thread ∧
      (sensorCycle cfg w force d).2.awake = d.awake ∧
      (sensorCycle cfg w force d).2.mWdtChannel = d.mWdtChannel := by
  obtain ⟨haccess, hout⟩ | ⟨haccess, hfail, hout⟩ | ⟨haccess, hok, hout⟩ :=
    sensorCycle_step cfg w d force
  · rw [hout]
    exact ⟨rfl, rfl, rfl⟩
  · rw [hout]
    simp [diagOnSensorReadFailure]
  · rw [hout]
    simp [sampled]

theorem sensorCycle_mLastHealthSnapshotMs (force : Bool) :
    (sensorCycle cfg w force d).2.mLastHealthSnapshotMs =
      if (accessesSensor w force d.sampler && accessSucceeds w) = true ∧
          snapshotDue cfg w d.mLastHealthSnapshotMs = true then w.uptimeMs
      else d.mLastHealthSnapshotMs := by
  obtain ⟨haccess, hout⟩ | ⟨haccess, hfail, hout⟩ | ⟨haccess, hok, hout⟩ :=
    sensorCycle_step cfg w d force
  · rw [hout, haccess]
    simp
  · rw [hout, haccess, hfail]
    simp [diagOnSensorReadFailure]
  · rw [hout, haccess, hok]
    simp only [snapshot_mLastHealthSnapshotMs, updateMatterAttributes_mLastHealthSnapshotMs]
    cases hdue : snapshotDue cfg w d.mLastHealthSnapshotMs <;> simp [sampled, hdue]

theorem sensorCycle_sampler (force : Bool) :
    (sensorCycle cfg w force d).2.sampler =
      if accessesSensor w force d.sampler && accessSucceeds w then (sampled w d).sampler
      else noteCommissioned w d.sampler := by
  obtain ⟨haccess, hout⟩ | ⟨haccess, hfail, hout⟩ | ⟨haccess, hok, hout⟩ :=
    sensorCycle_step cfg w d force
  · rw [hout, haccess]
    simp
  · rw [hout, haccess, hfail]
    simp [diagOnSensorReadFailure]
  · rw [hout, haccess, hok]
    simp

end Cycle

/-! ## Start-up -/

section StartUp
variable (cfg : Config) (w : World) (d : Device)

def initialised : Device :=
  diagInitWatchdog cfg w { diagOnBoot cfg w d with sampler.mShtReady := w.shtReady }

def beforeFirstSample : Device :=
  let d := initialised cfg w d
  let d := d.call w (.temperatureMinMeasuredValueSet kSht4xMinCentiDegC)
  let d := d.call w (.temperatureMaxMeasuredValueSet kSht4xMaxCentiDegC)
  { d with
    sampler.mTemperatureSensorMinValue := kSht4xMinCentiDegC
    sampler.mTemperatureSensorMaxValue := kSht4xMaxCentiDegC }

theorem init_of_success (h : (init cfg w d).2 = none) :
    init cfg w d = (initialised cfg w d, none) := by
  have hfst : (init cfg w d).1 = initialised cfg w d := by
    unfold init at h ⊢
    cases hserver : w.prepareServer with
    | some err =>
      rw [hserver] at h
      cases h
    | none =>
      rw [hserver] at h
      simp only at h ⊢
      split_ifs at h ⊢ with hboard hevent hidentify
      · rw [show w.registerEventHandler = none from h] at hevent
        simp at hevent
      · rw [show w.identifyInit = none from h] at hidentify
        cases hidentify
      · rfl
  rw [← hfst, ← h]

theorem startApp_of_success (h : (startApp cfg w d).2 = none) :
    (startApp cfg w d).1 =
      diagFeedWatchdog cfg (w.later (cycleMs cfg w true (beforeFirstSample cfg w d)))
        (startUpCycle cfg w (beforeFirstSample cfg w d)) := by
  have hinit : (init cfg w d).2 = none := by
    unfold startApp at h
    cases hi : init cfg w d with
    | mk d' err =>
      rw [hi] at h
      cases err with
      | none => rfl
      | some err => cases h
  unfold startApp at h ⊢
  rw [init_of_success cfg w d hinit] at h ⊢
  simp only at h ⊢
  split_ifs at h ⊢ with hmin
  rfl

theorem beforeFirstSample_trace (hdiag : cfg.diagnosticMode = true) :
    (beforeFirstSample cfg w d).trace = d.trace ++
      (bootCalls w d.resetreas (loadDiag w d.settings) ++ wdtInitCalls cfg w ++
        [Call.temperatureMinMeasuredValueSet kSht4xMinCentiDegC,
          Call.temperatureMaxMeasuredValueSet kSht4xMaxCentiDegC]).map (Event.mk w.uptimeMs) := by
  simp only [beforeFirstSample, initialised, call_trace, diagInitWatchdog_trace]
  rw [diagOnBoot_trace cfg w d hdiag]
  simp

theorem beforeFirstSample_frame :
    (beforeFirstSample cfg w d).toAppTask =
      { d.toAppTask with
        mDiag := (diagOnBoot cfg w d).mDiag
        mWdtChannel := (beforeFirstSample cfg w d).mWdtChannel
        sampler :=
          { d.sampler with
            mShtReady := w.shtReady
            mTemperatureSensorMinValue := kSht4xMinCentiDegC
            mTemperatureSensorMaxValue := kSht4xMaxCentiDegC } } := by
  simp only [beforeFirstSample, initialised, call_toAppTask]
  rw [diagInitWatchdog_frame, diagOnBoot_frame]

end StartUp

/-! ## Boots -/

section Boot
variable (cfg : Config) (store : Settings) (causes : UInt32) (w : World)

def boot : Device × Option ChipError :=
  startApp cfg w (resetDevice causes (freshDevice store))

/-- The device of a boot before its first sample. -/
def firstDevice : Device := beforeFirstSample cfg w (resetDevice causes (freshDevice store))

theorem boot_of_success (h : (boot cfg store causes w).2 = none) :
    (boot cfg store causes w).1 =
      diagFeedWatchdog cfg (w.later (cycleMs cfg w true (firstDevice cfg store causes w)))
        (sensorCycle cfg w true (firstDevice cfg store causes w)).2 := by
  rw [boot, startApp_of_success cfg w _ h, startUpCycle_eq]
  rfl

theorem firstDevice_trace (hdiag : cfg.diagnosticMode = true) :
    (firstDevice cfg store causes w).trace =
      (bootCalls w causes (loadDiag w store) ++ wdtInitCalls cfg w ++
        [Call.temperatureMinMeasuredValueSet kSht4xMinCentiDegC,
          Call.temperatureMaxMeasuredValueSet kSht4xMaxCentiDegC]).map (Event.mk w.uptimeMs) := by
  have htrace := beforeFirstSample_trace cfg w (resetDevice causes (freshDevice store)) hdiag
  have hreg : (resetDevice causes (freshDevice store)).resetreas = causes := by
    simp [resetDevice, freshDevice]
  rw [hreg] at htrace
  exact htrace

/-- Before its first sample a boot neither feeds nor takes a snapshot. -/
theorem timesOf_firstDevice (hdiag : cfg.diagnosticMode = true) {p : Call → Bool}
    (hp : ∀ c, p c = true → isFeed c = true ∨ isSnapshot c = true) :
    timesOf p (firstDevice cfg store causes w).trace = [] := by
  have hplain : Plain (bootCalls w causes (loadDiag w store) ++ wdtInitCalls cfg w ++
      [Call.temperatureMinMeasuredValueSet kSht4xMinCentiDegC,
        Call.temperatureMaxMeasuredValueSet kSht4xMaxCentiDegC]) := by
    unfold Plain bootCalls wdtInitCalls
    split_ifs <;> simp [isFeed, isSnapshot]
  rw [firstDevice_trace cfg store causes w hdiag, ← List.nil_append (List.map _ _), timesOf_append,
    hplain.countP hp]
  rfl

theorem firstDevice_frame :
    (firstDevice cfg store causes w).toAppTask =
      { mDiag := (firstDevice cfg store causes w).mDiag
        mWdtChannel := (firstDevice cfg store causes w).mWdtChannel
        sampler :=
          { mShtReady := w.shtReady
            mTemperatureSensorMinValue := kSht4xMinCentiDegC
            mTemperatureSensorMaxValue := kSht4xMaxCentiDegC } } := by
  unfold firstDevice
  rw [beforeFirstSample_frame]
  rfl

/-- A cycle and the feed after it. -/
theorem fedCycle_trace (d : Device) (force : Bool) (ms : ℤ) :
    (diagFeedWatchdog cfg (w.later ms) (sensorCycle cfg w force d).2).trace = d.trace ++
      ((cycleCalls cfg w d force).map (Event.mk w.uptimeMs) ++
        (feedCalls cfg d.mWdtChannel).map (Event.mk (w.uptimeMs + ms))) := by
  rw [diagFeedWatchdog_trace, sensorCycle_trace, (sensorCycle_rest cfg w d force).2.2,
    List.append_assoc]
  rfl

end Boot

/-! ## Steps -/

def eventCalls (cfg : Config) (d : Device) (e : AppEvent × World) : List Call :=
  match e.1 with
  | .sensorTick =>
    cycleCalls cfg e.2 d false ++
      if accessesSensor e.2 false d.sampler && accessSucceeds e.2 then
        feedCalls cfg d.mWdtChannel
      else []
  | .policyTick => tickCalls cfg d e.2
  | .taskDispatched => feedCalls cfg d.mWdtChannel

/-- Events that make the calls `l`, all but the feeds at the time `atMs`. -/
structure MadeAt (atMs : ℤ) (l : List Call) (evs : List Event) : Prop where
  calls : evs.map Event.call = l
  times : ∀ p : Call → Bool, (∀ c, isFeed c = true → p c = false) →
    timesOf p evs = List.replicate (l.countP p) atMs

theorem madeAt_calls (atMs : ℤ) (l : List Call) : MadeAt atMs l (l.map (Event.mk atMs)) := by
  refine ⟨?_, fun p _ => timesOf_calls p atMs l⟩
  rw [List.map_map]
  exact List.map_id _

theorem MadeAt.feed {cfg : Config} {atMs : ℤ} {l : List Call} {evs : List Event}
    (h : MadeAt atMs l evs) (channel fedAtMs : ℤ) :
    MadeAt atMs (l ++ feedCalls cfg channel)
      (evs ++ (feedCalls cfg channel).map (Event.mk fedAtMs)) := by
  have hfeed := madeAt_calls fedAtMs (feedCalls cfg channel)
  refine ⟨?_, fun p hp => ?_⟩
  · rw [List.map_append, h.calls, hfeed.calls]
  · have hnone : (feedCalls cfg channel).countP p = 0 := by
      rw [List.countP_eq_zero]
      intro c hc
      rw [mem_feedCalls hc, hp _ rfl]
      decide
    rw [timesOf_events, h.times p hp, hfeed.times p hp, List.countP_append, hnone]
    simp

theorem appStep_trace (cfg : Config) (d : Device) (e : AppEvent × World) :
    ∃ evs, (appStep cfg d e).trace = d.trace ++ evs ∧
      MadeAt e.2.uptimeMs (eventCalls cfg d e) evs := by
  obtain ⟨e, w⟩ := e
  cases e with
  | sensorTick =>
    have hcycle := madeAt_calls w.uptimeMs (cycleCalls cfg w d false)
    simp only [appStep, eventCalls, updateTemperatureTimeoutCallback_eq, sensorCycle_fst]
    split
    · exact ⟨_, fedCycle_trace cfg w d false _, hcycle.feed ..⟩
    · rw [List.append_nil]
      exact ⟨_, sensorCycle_trace cfg w d false, hcycle⟩
  | policyTick =>
    have htick := policy_trace cfg w d
    rw [← tickCalls_eq] at htick
    exact ⟨_, htick, madeAt_calls ..⟩
  | taskDispatched => exact ⟨_, diagFeedWatchdog_trace cfg w d, madeAt_calls ..⟩

end TinyEnvSensor
