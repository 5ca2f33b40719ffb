import TinyEnvSensor.Thread.Tracker

/-! # The commissioning awake policy

`UpdateCommissioningAwakePolicy`, block by block, and `ApplyThreadTxPower`. `sys_reboot` does not
return, so a tick that requests it ends there; ticks after it belong to no run of the device. -/
namespace TinyEnvSensor
set_option autoImplicit false

def applyThreadTxPower (w : World) (txPowerDbm : Int8) (d : Device) : Device :=
  if d.awake.mAppliedThreadTxPowerDbm = txPowerDbm then d
  else
    let d := d.call w (.radioRequest txPowerDbm w.radio)
    if w.radio = some 0 then { d with awake.mAppliedThreadTxPowerDbm := txPowerDbm } else d

/-- The block that notes an opened or closed commissioning window. -/
def trackWindow (w : World) (a : AwakePolicy) : AwakePolicy :=
  if w.commissioningWindowOpen ≠ a.mCommissioningWindowOpen then
    { a with
      mCommissioningWindowOpen := w.commissioningWindowOpen
      mStayAwakeUntilMs :=
        if w.commissioningWindowOpen then 0 else w.uptimeMs + kCommissionWindowPostCloseGraceMs }
  else a

/-- `holdActive`, once the window is tracked. -/
def holdActive (w : World) (a : AwakePolicy) : Bool :=
  w.commissioningWindowOpen || decide (w.uptimeMs < a.mStayAwakeUntilMs)

/-- Whether a tick under `hold` kicks the ICD. -/
def kickDue (w : World) (hold : Bool) (a : AwakePolicy) : Bool :=
  hold && decide (kCommissionAwakeKickPeriodMs ≤ w.uptimeMs - a.mLastAwakeKickMs)

def kickAwake (w : World) (hold : Bool) (d : Device) : Device :=
  if kickDue w hold d.awake then
    { d.call w .onNetworkActivity with awake.mLastAwakeKickMs := w.uptimeMs }
  else d

/-- The test for a commissioned node that has been detached for too long. -/
def detachedTooLong (cfg : Config) (w : World) (t : ThreadTracker) : Bool :=
  cfg.diagnosticMode && isCommissioned w && t.mThreadDetached &&
    decide (0 < t.mThreadDetachedSinceMs) &&
    decide (cfg.kDetachedRebootThresholdMs < w.uptimeMs - t.mThreadDetachedSinceMs)

def wantedTxPower (cfg : Config) (hold : Bool) : Int8 :=
  if hold then kCommissioningThreadTxPowerDbm else cfg.kPostCommissionThreadTxPowerDbm

def updateCommissioningAwakePolicy (cfg : Config) (w : World) (d : Device) : Device :=
  let d := handleThreadStateChange cfg w threadChangedMask d
  let d := { d with awake := trackWindow w d.awake }
  let hold := holdActive w d.awake
  let d := applyThreadTxPower w (wantedTxPower cfg hold) d
  let d := kickAwake w hold d
  if detachedTooLong cfg w d.thread then d.call w .sysReboot
  else maybeLogAndPersistHealthSnapshot cfg w d

/-! ## One tick, part by part -/

section Parts
variable (cfg : Config) (w : World) (d : Device)

@[simp] theorem applyThreadTxPower_toAppTask (tx : Int8) :
    (applyThreadTxPower w tx d).toAppTask =
      { d.toAppTask with
        awake :=
          { d.awake with
            mAppliedThreadTxPowerDbm :=
              if w.radio = some 0 then tx else d.awake.mAppliedThreadTxPowerDbm } } := by
  unfold applyThreadTxPower
  by_cases hsame : d.awake.mAppliedThreadTxPowerDbm = tx
  · subst hsame
    simp
  · by_cases hok : w.radio = some 0 <;> simp [hsame, hok]

@[simp] theorem applyThreadTxPower_trace (tx : Int8) :
    (applyThreadTxPower w tx d).trace =
      d.trace ++ (if d.awake.mAppliedThreadTxPowerDbm = tx then []
        else [Call.radioRequest tx w.radio]).map (Event.mk w.uptimeMs) := by
  unfold applyThreadTxPower
  by_cases hsame : d.awake.mAppliedThreadTxPowerDbm = tx
  · simp [hsame]
  · by_cases hok : w.radio = some 0 <;> simp [hsame, hok]

@[simp] theorem kickAwake_toAppTask (hold : Bool) :
    (kickAwake w hold d).toAppTask =
      { d.toAppTask with
        awake :=
          { d.awake with
            mLastAwakeKickMs :=
              if kickDue w hold d.awake then w.uptimeMs else d.awake.mLastAwakeKickMs } } := by
  unfold kickAwake
  split <;> simp_all

@[simp] theorem kickAwake_trace (hold : Bool) :
    (kickAwake w hold d).trace =
      d.trace ++ (if kickDue w hold d.awake then [Call.onNetworkActivity] else []).map
        (Event.mk w.uptimeMs) := by
  unfold kickAwake
  split <;> simp

def holdAt : Bool := holdActive w (trackWindow w d.awake)

theorem holdAt_handleThreadStateChange (flags : UInt32) :
    holdAt w (handleThreadStateChange cfg w flags d) = holdAt w d := by
  unfold holdAt
  rw [handleThreadStateChange_awake]

def awakeAfter (a : AwakePolicy) : AwakePolicy :=
  { trackWindow w a with
    mAppliedThreadTxPowerDbm :=
      if w.radio = some 0 then wantedTxPower cfg (holdActive w (trackWindow w a))
      else a.mAppliedThreadTxPowerDbm
    mLastAwakeKickMs :=
      if kickDue w (holdActive w (trackWindow w a)) a then w.uptimeMs else a.mLastAwakeKickMs }

theorem trackWindow_rest (a : AwakePolicy) :
    (trackWindow w a).mAppliedThreadTxPowerDbm = a.mAppliedThreadTxPowerDbm ∧
      (trackWindow w a).mLastAwakeKickMs = a.mLastAwakeKickMs := by
  unfold trackWindow
  split <;> exact ⟨rfl, rfl⟩

/-- The calls of a tick after those of `HandleThreadStateChange`; `d` is the device after it. -/
def policyCalls : List Call :=
  (if d.awake.mAppliedThreadTxPowerDbm = wantedTxPower cfg (holdAt w d) then []
    else [.radioRequest (wantedTxPower cfg (holdAt w d)) w.radio]) ++
  (if kickDue w (holdAt w d) d.awake then [.onNetworkActivity] else []) ++
  (if detachedTooLong cfg w d.thread then [.sysReboot]
    else if snapshotDue cfg w d.mLastHealthSnapshotMs then
      snapshotCalls w d.thread.mLastThreadRole d.mDiag
    else [])

end Parts

section Tick
variable (cfg : Config) (w : World) (d : Device)

@[simp] theorem policy_thread :
    (updateCommissioningAwakePolicy cfg w d).thread =
      (handleThreadStateChange cfg w threadChangedMask d).thread := by
  simp only [updateCommissioningAwakePolicy]
  split <;> simp

@[simp] theorem policy_awake :
    (updateCommissioningAwakePolicy cfg w d).awake = awakeAfter cfg w d.awake := by
  obtain ⟨happ, hkick⟩ := trackWindow_rest w d.awake
  simp only [updateCommissioningAwakePolicy]
  split <;> simp [awakeAfter, kickDue, happ, hkick]

theorem policy_trace :
    (updateCommissioningAwakePolicy cfg w d).trace =
      d.trace ++ (threadSaves cfg w threadChangedMask d ++
        policyCalls cfg w (handleThreadStateChange cfg w threadChangedMask d)).map
          (Event.mk w.uptimeMs) := by
  obtain ⟨happ, hkick⟩ := trackWindow_rest w d.awake
  simp only [updateCommissioningAwakePolicy]
  split
  · simp_all [policyCalls, handleThreadStateChange_trace, holdAt, kickDue]
  · rw [snapshot_trace]
    simp_all [policyCalls, handleThreadStateChange_trace, holdAt, kickDue]

theorem policy_mLastHealthSnapshotMs :
    (updateCommissioningAwakePolicy cfg w d).mLastHealthSnapshotMs =
      if detachedTooLong cfg w (handleThreadStateChange cfg w threadChangedMask d).thread = false ∧
          snapshotDue cfg w d.mLastHealthSnapshotMs = true then w.uptimeMs
      else d.mLastHealthSnapshotMs := by
  simp only [updateCommissioningAwakePolicy]
  split
  · simp_all
  · rw [snapshot_mLastHealthSnapshotMs]
    simp_all

end Tick

/-! ## Runs of ticks -/

def policyStep (cfg : Config) (d : Device) (w : World) : Device :=
  updateCommissioningAwakePolicy cfg w d

def tickCalls (cfg : Config) (d : Device) (w : World) : List Call :=
  newCalls d (policyStep cfg d w)

theorem tickCalls_eq (cfg : Config) (d : Device) (w : World) :
    tickCalls cfg d w = threadSaves cfg w threadChangedMask d ++
      policyCalls cfg w (handleThreadStateChange cfg w threadChangedMask d) :=
  newCalls_eq (policy_trace cfg w d)

theorem policyStep_extends (cfg : Config) (d : Device) (w : World) :
    d.trace <+: (policyStep cfg d w).trace := ⟨_, (policy_trace cfg w d).symm⟩

theorem mem_tickCalls {cfg : Config} {w : World} {d : Device} {c : Call}
    (hsave : ∀ key value rc, c ≠ .settingsSaveOne key value rc)
    (hlog : ∀ up role n₁ n₂ n₃ n₄, c ≠ .diagSnapshotLog up role n₁ n₂ n₃ n₄) :
    c ∈ tickCalls cfg d w ↔
      (c = .radioRequest (wantedTxPower cfg (holdAt w d)) w.radio ∧
          d.awake.mAppliedThreadTxPowerDbm ≠ wantedTxPower cfg (holdAt w d)) ∨
        (c = .onNetworkActivity ∧ kickDue w (holdAt w d) d.awake = true) ∨
        (c = .sysReboot ∧ detachedTooLong cfg w
          (handleThreadStateChange cfg w threadChangedMask d).thread = true) := by
  have hsaves : c ∉ threadSaves cfg w threadChangedMask d := fun hc => by
    obtain ⟨key, value, rc, h⟩ := mem_threadSaves hc
    exact hsave key value rc h
  have hsnapshot : ∀ role m, c ∉ snapshotCalls w role m := fun role m hc => by
    simp only [snapshotCalls, List.mem_cons, List.not_mem_nil, or_false] at hc
    obtain h | h | h := hc
    · exact hsave _ _ _ h
    · exact hsave _ _ _ h
    · exact hlog _ _ _ _ _ _ h
  rw [tickCalls_eq, List.mem_append, or_iff_right hsaves, policyCalls,
    holdAt_handleThreadStateChange, handleThreadStateChange_awake, List.mem_append,
    List.mem_append, or_assoc]
  refine or_congr ?_ (or_congr ?_ ?_)
  · split <;> simp_all
  · split <;> simp_all
  · split
    · simp_all
    · split <;> simp_all

end TinyEnvSensor
