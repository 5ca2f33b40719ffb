import TinyEnvSensor.Diagnostics.Counters

/-! # Tracking the Thread role and the parent

`HandleThreadStateChange` reads the role and the parent once per call under the stack lock, so both
role reads of one call see the role in the `World` of the call. -/
namespace TinyEnvSensor
set_option autoImplicit false

def OT_CHANGED_THREAD_ROLE : UInt32 := 0x04
def OT_CHANGED_THREAD_RLOC_ADDED : UInt32 := 0x20
def OT_CHANGED_THREAD_RLOC_REMOVED : UInt32 := 0x40
def OT_CHANGED_THREAD_PARTITION_ID : UInt32 := 0x80

/-- The mask with which `UpdateCommissioningAwakePolicy` calls, also that of `checkParent`. -/
def threadChangedMask : UInt32 :=
  OT_CHANGED_THREAD_ROLE ||| OT_CHANGED_THREAD_RLOC_ADDED ||| OT_CHANGED_THREAD_RLOC_REMOVED |||
    OT_CHANGED_THREAD_PARTITION_ID

/-- The block under `flags & OT_CHANGED_THREAD_ROLE`. -/
def trackRole (cfg : Config) (w : World) (role : OtDeviceRole) (d : Device) : Device :=
  if role ≠ d.thread.mLastThreadRole then
    let d :=
      if role = .detached ∧ !d.thread.mThreadDetached then
        diagOnThreadDetached cfg w
          { d with
            thread.mThreadDetached := true
            thread.mThreadDetachedSinceMs := w.uptimeMs }
      else if role ≠ .detached ∧ d.thread.mThreadDetached then
        diagOnThreadReattached cfg w
          { d with
            thread.mThreadDetached := false
            thread.mThreadDetachedSinceMs := 0 }
      else d
    { d with thread.mLastThreadRole := role }
  else d

/-- The block under `checkParent`. -/
def trackParent (reply : ThreadReply) (t : ThreadTracker) : ThreadTracker :=
  if reply.role = .child then
    match reply.parentInfo with
    | some parentRloc =>
      if !t.mHasLastParent || t.mLastParentRloc16 != parentRloc then
        { t with
          mLastParentRloc16 := parentRloc
          mHasLastParent := true }
      else t
    | none => t
  else if t.mHasLastParent then
    { t with
      mHasLastParent := false
      mLastParentRloc16 := 0 }
  else t

def handleThreadStateChange (cfg : Config) (w : World) (flags : UInt32) (d : Device) : Device :=
  match w.threadInstance with
  | none => d
  | some reply =>
    let d := if flags &&& OT_CHANGED_THREAD_ROLE ≠ 0 then trackRole cfg w reply.role d else d
    if flags &&& threadChangedMask ≠ 0 then { d with thread := trackParent reply d.thread } else d

/-- The role that a call with these flags observes. -/
def observedRole (flags : UInt32) (w : World) : Option OtDeviceRole :=
  if flags &&& OT_CHANGED_THREAD_ROLE ≠ 0 then w.threadInstance.map ThreadReply.role else none

/-! ## What one call can do to the role -/

/-- The outcomes of `trackRole`: no change, a stretch of DETACHED begun or ended with its event
counted, or a change between two roles that leaves the latch alone. -/
inductive RoleStep (cfg : Config) (w : World) (role : OtDeviceRole) (d d' : Device) : Prop
  | same (hrole : role = d.thread.mLastThreadRole) (heq : d' = d)
  | detach (hne : role ≠ d.thread.mLastThreadRole) (hrole : role = .detached)
      (hlatch : d.thread.mThreadDetached = false)
      (htask : d'.toAppTask =
        { (diagOnThreadDetached cfg w d).toAppTask with
          thread :=
            { d.thread with
              mLastThreadRole := role
              mThreadDetached := true
              mThreadDetachedSinceMs := w.uptimeMs } })
      (htrace : d'.trace = (diagOnThreadDetached cfg w d).trace)
  | reattach (hne : role ≠ d.thread.mLastThreadRole) (hrole : role ≠ .detached)
      (hlatch : d.thread.mThreadDetached = true)
      (htask : d'.toAppTask =
        { (diagOnThreadReattached cfg w d).toAppTask with
          thread :=
            { d.thread with
              mLastThreadRole := role
              mThreadDetached := false
              mThreadDetachedSinceMs := 0 } })
      (htrace : d'.trace = (diagOnThreadReattached cfg w d).trace)
  | move (hne : role ≠ d.thread.mLastThreadRole)
      (hlatch : role = .detached ↔ d.thread.mThreadDetached = true)
      (htask : d'.toAppTask =
        { d.toAppTask with thread := { d.thread with mLastThreadRole := role } })
      (htrace : d'.trace = d.trace)

theorem trackRole_step (cfg : Config) (w : World) (role : OtDeviceRole) (d : Device) :
    RoleStep cfg w role d (trackRole cfg w role d) := by
  unfold trackRole
  by_cases hne : role ≠ d.thread.mLastThreadRole
  · rw [if_pos hne]
    by_cases hdet : role = .detached ∧ d.thread.mThreadDetached = false
    · obtain ⟨hrole, hlatch⟩ := hdet
      refine RoleStep.detach hne hrole hlatch ?_ ?_
      · simp [hrole, hlatch, diagOnThreadDetached]
      · simp [hrole, hlatch, diagOnThreadDetached]
    · by_cases hatt : role ≠ .detached ∧ d.thread.mThreadDetached = true
      · obtain ⟨hrole, hlatch⟩ := hatt
        refine RoleStep.reattach hne hrole hlatch ?_ ?_
        · simp [hrole, hlatch, diagOnThreadReattached]
        · simp [hrole, hlatch, diagOnThreadReattached]
      · have hlatch : role = .detached ↔ d.thread.mThreadDetached = true := by
          cases hl : d.thread.mThreadDetached <;> simp_all
        refine RoleStep.move hne hlatch ?_ ?_
        · simp [hdet, hatt]
        · simp [hdet, hatt]
  · rw [if_neg hne]
    exact RoleStep.same (not_not.mp hne) rfl

/-! ## What a call leaves alone, and what it saves -/

theorem RoleStep.frame {cfg : Config} {w : World} {role : OtDeviceRole} {d d' : Device}
    (h : RoleStep cfg w role d d') :
    d'.toAppTask = { d.toAppTask with thread := d'.thread, mDiag := d'.mDiag } := by
  cases h with
  | same hrole heq => rw [heq]
  | detach hne hrole hlatch htask => rw [htask]; simp [diagOnThreadDetached]
  | reattach hne hrole hlatch htask => rw [htask]; simp [diagOnThreadReattached]
  | move hne hlatch htask => rw [htask]

theorem handleThreadStateChange_frame (cfg : Config) (w : World) (flags : UInt32) (d : Device) :
    (handleThreadStateChange cfg w flags d).toAppTask =
      { d.toAppTask with
        thread := (handleThreadStateChange cfg w flags d).thread
        mDiag := (handleThreadStateChange cfg w flags d).mDiag } := by
  unfold handleThreadStateChange
  cases w.threadInstance with
  | none => rfl
  | some reply =>
    have hframe := (trackRole_step cfg w reply.role d).frame
    by_cases hflag : flags &&& OT_CHANGED_THREAD_ROLE ≠ 0
    · simp only [if_pos hflag]
      split
      · rw [hframe]
      · exact hframe
    · simp only [if_neg hflag]
      split <;> rfl

section Frame
variable (cfg : Config) (w : World) (flags : UInt32) (d : Device)

@[simp] theorem handleThreadStateChange_awake :
    (handleThreadStateChange cfg w flags d).awake = d.awake := by
  rw [handleThreadStateChange_frame]

@[simp] theorem handleThreadStateChange_sampler :
    (handleThreadStateChange cfg w flags d).sampler = d.sampler := by
  rw [handleThreadStateChange_frame]

@[simp] theorem handleThreadStateChange_mLastHealthSnapshotMs :
    (handleThreadStateChange cfg w flags d).mLastHealthSnapshotMs = d.mLastHealthSnapshotMs := by
  rw [handleThreadStateChange_frame]

@[simp] theorem handleThreadStateChange_mWdtChannel :
    (handleThreadStateChange cfg w flags d).mWdtChannel = d.mWdtChannel := by
  rw [handleThreadStateChange_frame]

end Frame

def threadSaves (cfg : Config) (w : World) (flags : UInt32) (d : Device) : List Call :=
  match observedRole flags w with
  | none => []
  | some role =>
    if role = d.thread.mLastThreadRole ∨ cfg.diagnosticMode = false then []
    else if role = .detached ∧ d.thread.mThreadDetached = false then
      [.settingsSaveOne (diagKey .threadDetachCount) (d.mDiag .threadDetachCount + 1)
        (w.settingsSaveOne (diagKey .threadDetachCount))]
    else if role ≠ .detached ∧ d.thread.mThreadDetached = true then
      [.settingsSaveOne (diagKey .threadReattachCount) (d.mDiag .threadReattachCount + 1)
        (w.settingsSaveOne (diagKey .threadReattachCount))]
    else []

theorem mem_threadSaves {cfg : Config} {w : World} {flags : UInt32} {d : Device} {c : Call}
    (hc : c ∈ threadSaves cfg w flags d) : ∃ key value rc, c = .settingsSaveOne key value rc := by
  unfold threadSaves at hc
  cases hobs : observedRole flags w with
  | none => simp [hobs] at hc
  | some role =>
    rw [hobs] at hc
    dsimp only at hc
    split_ifs at hc
    · simp at hc
    · exact ⟨_, _, _, List.mem_singleton.mp hc⟩
    · exact ⟨_, _, _, List.mem_singleton.mp hc⟩
    · simp at hc

theorem RoleStep.trace {cfg : Config} {w : World} {role : OtDeviceRole} {d d' : Device}
    {flags : UInt32} (h : RoleStep cfg w role d d') (hobs : observedRole flags w = some role) :
    d'.trace = d.trace ++ (threadSaves cfg w flags d).map (Event.mk w.uptimeMs) := by
  unfold threadSaves
  rw [hobs]
  cases h with
  | same hrole heq => simp [heq, hrole]
  | detach hne hrole hlatch _ htrace =>
    rw [htrace]
    have hold : OtDeviceRole.detached ≠ d.thread.mLastThreadRole := hrole ▸ hne
    cases hdiag : cfg.diagnosticMode <;> simp [diagOnThreadDetached, hdiag, hrole, hold, hlatch]
  | reattach hne hrole hlatch _ htrace =>
    rw [htrace]
    cases hdiag : cfg.diagnosticMode <;> simp [diagOnThreadReattached, hdiag, hrole, hne, hlatch]
  | move hne hlatch _ htrace =>
    rw [htrace]
    by_cases hrole : role = .detached
    · have hon := hlatch.mp hrole
      simp [hrole, hon]
    · have hoff : ¬ d.thread.mThreadDetached = true := fun hon => hrole (hlatch.mpr hon)
      simp [hrole, hoff]

theorem handleThreadStateChange_trace (cfg : Config) (w : World) (flags : UInt32) (d : Device) :
    (handleThreadStateChange cfg w flags d).trace =
      d.trace ++ (threadSaves cfg w flags d).map (Event.mk w.uptimeMs) := by
  unfold handleThreadStateChange
  cases hi : w.threadInstance with
  | none => simp [threadSaves, observedRole, hi]
  | some reply =>
    by_cases hflag : flags &&& OT_CHANGED_THREAD_ROLE ≠ 0
    · have hobs : observedRole flags w = some reply.role := by simp [observedRole, hflag, hi]
      have htrace := (trackRole_step cfg w reply.role d).trace hobs
      simp only [if_pos hflag]
      split <;> exact htrace
    · simp only [if_neg hflag]
      split <;> simp [threadSaves, observedRole, hflag]

end TinyEnvSensor
