import TinyEnvSensor.Diagnostics.Store

/-! # Persistent counters and health snapshots

`DiagOnBoot`, the four event functions of the counters and `MaybeLogAndPersistHealthSnapshot`. The
event functions differ only in the counter they raise, so each is `diagCount` at its own field. -/
namespace TinyEnvSensor
set_option autoImplicit false

/-! ## The functions -/

def NRF_POWER_RESETREAS_DOG_MASK : UInt32 := 2

/-- `++mDiag...` and the save of the new value. -/
def diagRaise (w : World) (f : DiagField) (d : Device) : Device :=
  let d := { d with mDiag := Function.update d.mDiag f (d.mDiag f + 1) }
  (saveDiagValue w (diagKey f) (d.mDiag f) d).2

def diagOnBoot (cfg : Config) (w : World) (d : Device) : Device :=
  if !cfg.diagnosticMode then d
  else
    let d := { d with mDiag := loadDiag w d.settings }
    let resetreas := d.resetreas
    -- writing ones clears exactly those bits
    let d := { d with resetreas := d.resetreas &&& ~~~resetreas }
    let d := diagRaise w .bootCount d
    let d := (saveDiagValue w (diagKey .lastResetReas) resetreas d).2
    let d := { d with mDiag := Function.update d.mDiag .lastResetReas resetreas }
    if resetreas &&& NRF_POWER_RESETREAS_DOG_MASK ≠ 0 then diagRaise w .wdtResetCount d else d

/-- The body shared by the four event functions. -/
def diagCount (cfg : Config) (w : World) (f : DiagField) (d : Device) : Device :=
  if !cfg.diagnosticMode then d else diagRaise w f d

def diagOnThreadDetached (cfg : Config) (w : World) : Device → Device :=
  diagCount cfg w .threadDetachCount

def diagOnThreadReattached (cfg : Config) (w : World) : Device → Device :=
  diagCount cfg w .threadReattachCount

def diagOnSensorReadFailure (cfg : Config) (w : World) : Device → Device :=
  diagCount cfg w .sensorFailureCount

def diagOnAdcReadFailure (cfg : Config) (w : World) : Device → Device :=
  diagCount cfg w .adcFailureCount

def maybeLogAndPersistHealthSnapshot (cfg : Config) (w : World) (d : Device) : Device :=
  if !cfg.diagnosticMode then d
  else if d.mLastHealthSnapshotMs ≠ 0 ∧
      w.uptimeMs - d.mLastHealthSnapshotMs < cfg.kDiagSnapshotIntervalMs then d
  else
    let d := { d with mLastHealthSnapshotMs := w.uptimeMs }
    let uptimeSec := UInt32.ofInt (w.uptimeMs.tdiv 1000)
    let d := (saveDiagValue w kDiagKeyLastUptimeSec uptimeSec d).2
    let d := (saveDiagValue w kDiagKeyLastThreadRole d.thread.mLastThreadRole.toUInt32 d).2
    d.call w (.diagSnapshotLog uptimeSec d.thread.mLastThreadRole (d.mDiag .threadDetachCount)
      (d.mDiag .threadReattachCount) (d.mDiag .sensorFailureCount) (d.mDiag .adcFailureCount))

/-! ## Raising a counter -/

section Raise
variable (cfg : Config) (w : World) (f : DiagField) (d : Device)

@[simp] theorem diagRaise_toAppTask :
    (diagRaise w f d).toAppTask =
      { d.toAppTask with mDiag := Function.update d.mDiag f (d.mDiag f + 1) } := by
  simp only [diagRaise, saveDiagValue_toAppTask]

@[simp] theorem diagRaise_sense : (diagRaise w f d).sense = d.sense := by
  simp only [diagRaise, saveDiagValue_sense]

@[simp] theorem diagRaise_vbatEnable : (diagRaise w f d).vbatEnable = d.vbatEnable := by
  simp only [diagRaise, saveDiagValue_vbatEnable]

@[simp] theorem diagRaise_resetreas : (diagRaise w f d).resetreas = d.resetreas := by
  simp only [diagRaise, saveDiagValue_resetreas]

@[simp] theorem diagRaise_trace :
    (diagRaise w f d).trace = d.trace ++
      [⟨w.uptimeMs, .settingsSaveOne (diagKey f) (d.mDiag f + 1)
        (w.settingsSaveOne (diagKey f))⟩] := by
  simp only [diagRaise, saveDiagValue_trace, Function.update_self]

theorem storedValue_diagRaise (g : DiagField) :
    storedValue (diagRaise w f d).settings g =
      if g = f ∧ w.settingsSaveOne (diagKey f) = 0 then d.mDiag f + 1
      else storedValue d.settings g := by
  simp only [diagRaise, storedValue_save, Function.update_self]

@[simp] theorem diagCount_toAppTask :
    (diagCount cfg w f d).toAppTask =
      { d.toAppTask with
        mDiag := if cfg.diagnosticMode then Function.update d.mDiag f (d.mDiag f + 1)
          else d.mDiag } := by
  unfold diagCount
  cases cfg.diagnosticMode
  · rfl
  · simp

@[simp] theorem diagCount_sense : (diagCount cfg w f d).sense = d.sense := by
  unfold diagCount
  cases cfg.diagnosticMode <;> simp

@[simp] theorem diagCount_vbatEnable : (diagCount cfg w f d).vbatEnable = d.vbatEnable := by
  unfold diagCount
  cases cfg.diagnosticMode <;> simp

@[simp] theorem diagCount_resetreas : (diagCount cfg w f d).resetreas = d.resetreas := by
  unfold diagCount
  cases cfg.diagnosticMode <;> simp

@[simp] theorem diagCount_trace :
    (diagCount cfg w f d).trace = d.trace ++
      if cfg.diagnosticMode then
        [⟨w.uptimeMs, .settingsSaveOne (diagKey f) (d.mDiag f + 1)
          (w.settingsSaveOne (diagKey f))⟩]
      else [] := by
  unfold diagCount
  cases cfg.diagnosticMode <;> simp

@[simp] theorem diagOnBoot_sense : (diagOnBoot cfg w d).sense = d.sense := by
  unfold diagOnBoot
  dsimp only
  split_ifs <;> simp

end Raise

/-! ## Snapshots -/

section Snapshot
variable (cfg : Config) (w : World) (d : Device)

/-- The test with which `MaybeLogAndPersistHealthSnapshot` lets a snapshot through. -/
def snapshotDue (lastMs : ℤ) : Bool :=
  cfg.diagnosticMode && !(decide (lastMs ≠ 0) &&
    decide (w.uptimeMs - lastMs < cfg.kDiagSnapshotIntervalMs))

def snapshotCalls (role : OtDeviceRole) (mDiag : DiagField → UInt32) : List Call :=
  [.settingsSaveOne kDiagKeyLastUptimeSec (UInt32.ofInt (w.uptimeMs.tdiv 1000))
      (w.settingsSaveOne kDiagKeyLastUptimeSec),
    .settingsSaveOne kDiagKeyLastThreadRole role.toUInt32
      (w.settingsSaveOne kDiagKeyLastThreadRole),
    .diagSnapshotLog (UInt32.ofInt (w.uptimeMs.tdiv 1000)) role (mDiag .threadDetachCount)
      (mDiag .threadReattachCount) (mDiag .sensorFailureCount) (mDiag .adcFailureCount)]

/-- The three outcomes of a snapshot call as two: it goes through, or nothing happens. -/
theorem snapshot_cases :
    (snapshotDue cfg w d.mLastHealthSnapshotMs = false ∧
        maybeLogAndPersistHealthSnapshot cfg w d = d) ∨
      (snapshotDue cfg w d.mLastHealthSnapshotMs = true ∧
        (maybeLogAndPersistHealthSnapshot cfg w d).toAppTask =
          { d.toAppTask with mLastHealthSnapshotMs := w.uptimeMs } ∧
        (maybeLogAndPersistHealthSnapshot cfg w d).trace =
          d.trace ++ (snapshotCalls w d.thread.mLastThreadRole d.mDiag).map
            (Event.mk w.uptimeMs)) := by
  unfold snapshotDue maybeLogAndPersistHealthSnapshot snapshotCalls
  cases cfg.diagnosticMode
  · exact Or.inl ⟨rfl, rfl⟩
  · by_cases hlimit : d.mLastHealthSnapshotMs ≠ 0 ∧
      w.uptimeMs - d.mLastHealthSnapshotMs < cfg.kDiagSnapshotIntervalMs
    · exact Or.inl ⟨by simp [hlimit.1, hlimit.2], by simp [hlimit.1, hlimit.2]⟩
    · refine Or.inr ⟨?_, ?_, ?_⟩
      · simp only [Bool.true_and, ← Bool.decide_and, hlimit, decide_false, Bool.not_false]
      · simp [hlimit]
      · simp [hlimit]

theorem snapshot_mLastHealthSnapshotMs :
    (maybeLogAndPersistHealthSnapshot cfg w d).mLastHealthSnapshotMs =
      if snapshotDue cfg w d.mLastHealthSnapshotMs then w.uptimeMs
      else d.mLastHealthSnapshotMs := by
  obtain ⟨hdue, h⟩ | ⟨hdue, h, -⟩ := snapshot_cases cfg w d
  · rw [h, hdue]
    rfl
  · rw [h, hdue]
    rfl

theorem snapshot_trace :
    (maybeLogAndPersistHealthSnapshot cfg w d).trace =
      d.trace ++ (if snapshotDue cfg w d.mLastHealthSnapshotMs then
        snapshotCalls w d.thread.mLastThreadRole d.mDiag else []).map (Event.mk w.uptimeMs) := by
  obtain ⟨hdue, h⟩ | ⟨hdue, -, h⟩ := snapshot_cases cfg w d
  · rw [h, hdue]
    simp
  · rw [h, hdue]
    rfl

@[simp] theorem snapshot_thread :
    (maybeLogAndPersistHealthSnapshot cfg w d).thread = d.thread := by
  obtain ⟨-, h⟩ | ⟨-, h, -⟩ := snapshot_cases cfg w d <;> rw [h]

@[simp] theorem snapshot_awake :
    (maybeLogAndPersistHealthSnapshot cfg w d).awake = d.awake := by
  obtain ⟨-, h⟩ | ⟨-, h, -⟩ := snapshot_cases cfg w d <;> rw [h]

@[simp] theorem snapshot_sampler :
    (maybeLogAndPersistHealthSnapshot cfg w d).sampler = d.sampler := by
  obtain ⟨-, h⟩ | ⟨-, h, -⟩ := snapshot_cases cfg w d <;> rw [h]

@[simp] theorem snapshot_mDiag :
    (maybeLogAndPersistHealthSnapshot cfg w d).mDiag = d.mDiag := by
  obtain ⟨-, h⟩ | ⟨-, h, -⟩ := snapshot_cases cfg w d <;> rw [h]

@[simp] theorem snapshot_mWdtChannel :
    (maybeLogAndPersistHealthSnapshot cfg w d).mWdtChannel = d.mWdtChannel := by
  obtain ⟨-, h⟩ | ⟨-, h, -⟩ := snapshot_cases cfg w d <;> rw [h]

@[simp] theorem snapshot_sense :
    (maybeLogAndPersistHealthSnapshot cfg w d).sense = d.sense := by
  unfold maybeLogAndPersistHealthSnapshot
  split_ifs <;> simp

end Snapshot
end TinyEnvSensor
