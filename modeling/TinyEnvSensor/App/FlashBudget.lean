import TinyEnvSensor.App.Task
import TinyEnvSensor.Foundations.Spacing
import TinyEnvSensor.Policy.RebootMeaning

/-! # The flash-write budget of a boot

Saves come from the boot, from role changes, from failed accesses and ADC reads, and two from each
snapshot. Most rows of calls are `Balanced`: they hold exactly the saves that their failures and
snapshots account for. What is left over is the boot and the role changes, which `Budget` counts
along a run, together with the times of the snapshots. -/
namespace TinyEnvSensor
open History Stretch Spacing
set_option autoImplicit false

/-! ## Kinds of calls -/

def isSave : Call → Bool
  | .settingsSaveOne _ _ _ => true
  | _ => false

def isFailedAccess : Call → Bool
  | .sensorSampleFetch rc => decide (rc ≠ 0)
  | .sensorChannelGet _ rc => decide (rc ≠ 0)
  | _ => false

def isFailedAdcRead : Call → Bool
  | .adcRead err _ => decide (err ≠ 0)
  | _ => false

/-- The saves are those of the failures and the snapshots among the calls. -/
def Balanced (l : List Call) : Prop :=
  l.countP isSave =
    l.countP isFailedAccess + l.countP isFailedAdcRead + 2 * l.countP isSnapshot

theorem Balanced.append {l m : List Call} (hl : Balanced l) (hm : Balanced m) :
    Balanced (l ++ m) := by
  unfold Balanced at *
  simp only [List.countP_append]
  omega

theorem balanced_nil : Balanced [] := rfl

theorem balanced_ite {b : Bool} {l : List Call} (hl : Balanced l) :
    Balanced (if b then l else []) := by
  split
  · exact hl
  · exact balanced_nil

/-! ## The rows of calls -/

section Rows
variable (cfg : Config) (w : World) (d : Device)

theorem balanced_snapshotCalls (role : OtDeviceRole) (m : DiagField → UInt32) :
    Balanced (snapshotCalls w role m) := rfl

theorem balanced_feedCalls (channel : ℤ) : Balanced (feedCalls cfg channel) := by
  unfold feedCalls
  split <;> rfl

theorem countP_sampleCalls (n i : ℕ) :
    (sampleCalls w n i).countP isFailedAdcRead = (if samplesFail w n i then 1 else 0) ∧
      (sampleCalls w n i).countP isSave = 0 ∧ (sampleCalls w n i).countP isFailedAccess = 0 ∧
        (sampleCalls w n i).countP isSnapshot = 0 := by
  induction n generalizing i with
  | zero => exact ⟨rfl, rfl, rfl, rfl⟩
  | succ n ih =>
    obtain ⟨hadc, hsave, haccess, hsnapshot⟩ := ih (i + 1)
    by_cases herr : (w.adcRead i).err = 0
    · simp [sampleCalls, samplesFail, herr, isSave, isFailedAdcRead, isFailedAccess, isSnapshot,
        hadc, hsave, haccess, hsnapshot]
    · simp [sampleCalls, samplesFail, herr, isSave, isFailedAdcRead, isFailedAccess, isSnapshot]

theorem balanced_batteryCalls (hdiag : cfg.diagnosticMode = true) :
    Balanced (batteryCalls cfg w d) := by
  have hinit : Balanced (initCalls w d) := by
    unfold initCalls
    split_ifs <;> rfl
  obtain ⟨hadc, hsave, haccess, hsnapshot⟩ := countP_sampleCalls w kBatterySampleCount 0
  unfold batteryCalls batteryFails
  refine hinit.append ?_
  cases (initBatterySense w d).1 with
  | false => exact balanced_nil
  | true =>
    rw [if_pos rfl, hdiag, Bool.true_and, Bool.and_true]
    unfold Balanced
    simp only [List.countP_cons, List.countP_append, hadc, hsave, haccess, hsnapshot]
    cases samplesFail w kBatterySampleCount 0 <;> rfl

theorem balanced_accessCalls (hdiag : cfg.diagnosticMode = true) :
    Balanced (accessCalls w ++ if accessSucceeds w then [] else accessFailureCalls cfg w d) := by
  unfold accessCalls accessFailureCalls accessSucceeds Balanced
  rw [hdiag]
  by_cases hfetch : w.sensorSampleFetch = 0
  · by_cases htemp : w.temperatureGet = 0
    · by_cases hhum : w.humidityGet = 0 <;>
        simp [hfetch, htemp, hhum, isSave, isFailedAccess, isFailedAdcRead, isSnapshot]
    · simp [hfetch, htemp, isSave, isFailedAccess, isFailedAdcRead, isSnapshot]
  · simp [hfetch, isSave, isFailedAccess, isFailedAdcRead, isSnapshot]

theorem balanced_cycleCalls (hdiag : cfg.diagnosticMode = true) (force : Bool) :
    Balanced (cycleCalls cfg w d force) := by
  have haccess := balanced_accessCalls cfg w d hdiag
  have hpower : ∀ vbat, Balanced (powerSourceCalls vbat) := fun _ => rfl
  unfold cycleCalls
  cases accessesSensor w force d.sampler with
  | false => exact balanced_nil
  | true =>
    rw [if_pos rfl]
    cases hok : accessSucceeds w with
    | false =>
      rw [hok] at haccess
      exact haccess
    | true =>
      rw [hok, if_pos rfl, List.append_nil] at haccess
      rw [if_pos rfl]
      refine haccess.append (Balanced.append ?_ (balanced_ite (balanced_snapshotCalls w _ _)))
      exact Balanced.append rfl ((balanced_batteryCalls cfg w _ hdiag).append (hpower _))

theorem balanced_policyCalls : Balanced (policyCalls cfg w d) := by
  unfold policyCalls
  refine Balanced.append (Balanced.append ?_ (balanced_ite rfl)) ?_
  · split <;> rfl
  · split
    · rfl
    · exact balanced_ite (balanced_snapshotCalls w _ _)

end Rows

/-! ## Role changes -/

def eventRole (e : AppEvent × World) : Option OtDeviceRole :=
  match e.1 with
  | .policyTick => policyRole e.2
  | _ => none

/-- The entries into DETACHED, and the exits from it, that the events observed. -/
def roleChanges (es : List (AppEvent × World)) : ℕ :=
  begun isDetached .disabled (es.filterMap eventRole) +
    begun (fun r => !isDetached r) .disabled (es.filterMap eventRole)

theorem countP_threadSaves {cfg : Config} {es : List (AppEvent × World)} {w : World} {d : Device}
    (hdiag : cfg.diagnosticMode = true)
    (h : Tracked eventRole (fun e => e.2.uptimeMs) es d.thread) :
    roleChanges (es ++ [(.policyTick, w)]) =
      roleChanges es + (threadSaves cfg w threadChangedMask d).countP isSave := by
  have hobs : eventRole (.policyTick, w) = observedRole threadChangedMask w := rfl
  unfold roleChanges threadSaves
  cases hrole : observedRole threadChangedMask w with
  | none =>
    rw [hrole] at hobs
    rw [begun_silent _ _ hobs, begun_silent _ _ hobs]
    rfl
  | some role =>
    rw [hrole] at hobs
    have hlast := h.last
    rw [begun_seen _ _ hobs, begun_seen _ _ hobs, ← hlast]
    by_cases hsame : role = d.thread.mLastThreadRole
    · simp [hsame]
    · -- an entry into DETACHED and an exit from it save a counter each; other changes do not
      by_cases hdet : role = .detached
      · have hoff : d.thread.mThreadDetached = false := by
          cases hl : d.thread.mThreadDetached with
          | false => rfl
          | true => exact absurd (hdet.trans (h.latch.mp hl).symm) hsame
        have hold : d.thread.mLastThreadRole ≠ .detached := fun he => hsame (hdet.trans he.symm)
        subst hdet
        simp [hsame, hoff, hold, hdiag, isDetached, isSave]
        omega
      · cases hl : d.thread.mThreadDetached with
        | false =>
          have hold : d.thread.mLastThreadRole ≠ .detached := fun he => by
            rw [h.latch.mpr he] at hl
            cases hl
          simp [hsame, hdet, hold, isDetached]
        | true =>
          have hold := h.latch.mp hl
          rw [hold] at hsame ⊢
          simp [hdet, hdiag, isDetached, isSave]
          omega

/-! ## Snapshots -/

/-- The event gets as far as `MaybeLogAndPersistHealthSnapshot`. -/
def callsSnapshot (cfg : Config) (d : Device) (e : AppEvent × World) : Bool :=
  match e.1 with
  | .sensorTick => accessesSensor e.2 false d.sampler && accessSucceeds e.2
  | .policyTick =>
    !detachedTooLong cfg e.2 (handleThreadStateChange cfg e.2 threadChangedMask d).thread
  | .taskDispatched => false

theorem countP_isSnapshot_cycleCalls (cfg : Config) (w : World) (d : Device) (force : Bool) :
    (cycleCalls cfg w d force).countP isSnapshot =
      if (accessesSensor w force d.sampler && accessSucceeds w) = true ∧
        snapshotDue cfg w d.mLastHealthSnapshotMs = true then 1 else 0 := by
  rw [countP_cycleCalls cfg w d (fun c hc => Or.inr hc)]
  rfl

theorem countP_feedCalls (cfg : Config) (channel : ℤ) :
    (feedCalls cfg channel).countP isSnapshot = 0 := by
  unfold feedCalls
  split <;> rfl

/-- **One event makes one snapshot or none.** One, when it calls for it and one is due. -/
theorem countP_eventCalls (cfg : Config) (d : Device) (e : AppEvent × World) :
    (eventCalls cfg d e).countP isSnapshot =
      if callsSnapshot cfg d e = true ∧ snapshotDue cfg e.2 d.mLastHealthSnapshotMs = true
      then 1 else 0 := by
  obtain ⟨e, w⟩ := e
  cases e with
  | sensorTick =>
    have hfeed : (if accessesSensor w false d.sampler && accessSucceeds w then
        feedCalls cfg d.mWdtChannel else []).countP isSnapshot = 0 := by
      split
      · exact countP_feedCalls cfg _
      · rfl
    have hcalls : eventCalls cfg d (.sensorTick, w) = cycleCalls cfg w d false ++
        if accessesSensor w false d.sampler && accessSucceeds w then
          feedCalls cfg d.mWdtChannel else [] := rfl
    rw [hcalls, List.countP_append, hfeed, countP_isSnapshot_cycleCalls]
    rfl
  | policyTick =>
    have hsaves : (threadSaves cfg w threadChangedMask d).countP isSnapshot = 0 := by
      rw [List.countP_eq_zero]
      intro c hc
      obtain ⟨key, value, rc, rfl⟩ := mem_threadSaves hc
      simp [isSnapshot]
    have hsnapshot : ∀ role m, (snapshotCalls w role m).countP isSnapshot = 1 := fun _ _ => rfl
    unfold eventCalls callsSnapshot
    simp only [tickCalls_eq, List.countP_append, hsaves, policyCalls,
      handleThreadStateChange_mLastHealthSnapshotMs]
    generalize detachedTooLong cfg w
      (handleThreadStateChange cfg w threadChangedMask d).thread = long
    generalize snapshotDue cfg w d.mLastHealthSnapshotMs = due
    split <;> split <;> cases long <;> cases due <;> simp [isSnapshot, hsnapshot]
  | taskDispatched => exact countP_feedCalls cfg d.mWdtChannel

theorem appStep_sensorTick (cfg : Config) (d : Device) (w : World) :
    (appStep cfg d (.sensorTick, w)).toAppTask = (sensorCycle cfg w false d).2.toAppTask :=
  updateTemperatureTimeoutCallback_toAppTask cfg w d

theorem appStep_mLastHealthSnapshotMs (cfg : Config) (d : Device) (e : AppEvent × World) :
    (appStep cfg d e).mLastHealthSnapshotMs =
      if callsSnapshot cfg d e = true ∧ snapshotDue cfg e.2 d.mLastHealthSnapshotMs = true
      then e.2.uptimeMs else d.mLastHealthSnapshotMs := by
  obtain ⟨e, w⟩ := e
  cases e with
  | sensorTick =>
    rw [appStep_sensorTick]
    exact sensorCycle_mLastHealthSnapshotMs cfg w d false
  | policyTick =>
    simp only [appStep, callsSnapshot, commissionPolicyTimeoutCallback,
      policy_mLastHealthSnapshotMs, Bool.not_eq_true']
  | taskDispatched => simp [appStep, callsSnapshot]

/-! ## The snapshot clock -/

/-- The limiter agrees with the snapshots made so far: they are spaced, at times of the work items
`ws`, and `mLastHealthSnapshotMs` is the last of them. -/
structure ClockTracked (cfg : Config) (ws : List World) (d : Device) : Prop where
  last : d.mLastHealthSnapshotMs = (timesOf isSnapshot d.trace).getLastD 0
  spaced : Spaced cfg.kDiagSnapshotIntervalMs (timesOf isSnapshot d.trace)
  times : ∀ s ∈ timesOf isSnapshot d.trace, ∃ x ∈ ws, s = x.uptimeMs

theorem ClockTracked.due_iff {cfg : Config} {ws : List World} {d : Device} (w : World)
    (h : ClockTracked cfg ws d) (hdiag : cfg.diagnosticMode = true)
    (hpos : ∀ x ∈ ws, 0 < x.uptimeMs) :
    snapshotDue cfg w d.mLastHealthSnapshotMs = true ↔
      Due cfg.kDiagSnapshotIntervalMs (timesOf isSnapshot d.trace) w.uptimeMs := by
  have hspaced := h.spaced
  have htimes := h.times
  rw [h.last]
  unfold snapshotDue
  rw [hdiag]
  obtain hnil | ⟨l, s, hl⟩ := List.eq_nil_or_concat (timesOf isSnapshot d.trace)
  · rw [hnil]
    simp [due_nil]
  · rw [List.concat_eq_append] at hl
    rw [hl] at hspaced htimes ⊢
    have hs : s ≠ 0 := by
      obtain ⟨x, hx, rfl⟩ := htimes s (by simp)
      exact (hpos x hx).ne'
    rw [due_concat cfg.kDiagSnapshotIntervalMs_pos.le hspaced, List.getLastD_concat]
    simp only [ne_eq, hs, not_false_eq_true, decide_true, Bool.true_and, Bool.not_eq_true',
      decide_eq_false_iff_not, not_lt]
    omega

theorem isSnapshot_of_isFeed : ∀ c, isFeed c = true → isSnapshot c = false := by
  intro c hc
  cases c <;> first | rfl | cases hc

theorem ClockTracked.step {cfg : Config} {ws : List World} {d d' : Device} {w : World}
    {l : List Call} {evs : List Event} (h : ClockTracked cfg ws d) (calls : Bool)
    (hdiag : cfg.diagnosticMode = true) (hpos : ∀ x ∈ ws, 0 < x.uptimeMs)
    (htrace : d'.trace = d.trace ++ evs) (hmade : MadeAt w.uptimeMs l evs)
    (hcount : l.countP isSnapshot =
      if calls = true ∧ snapshotDue cfg w d.mLastHealthSnapshotMs = true then 1 else 0)
    (hlast : d'.mLastHealthSnapshotMs =
      if calls = true ∧ snapshotDue cfg w d.mLastHealthSnapshotMs = true then w.uptimeMs
      else d.mLastHealthSnapshotMs) :
    ClockTracked cfg (ws ++ [w]) d' := by
  have hnew : timesOf isSnapshot d'.trace =
      timesOf isSnapshot d.trace ++ List.replicate (l.countP isSnapshot) w.uptimeMs := by
    rw [htrace, timesOf_events, hmade.times _ isSnapshot_of_isFeed]
  by_cases hlet : calls = true ∧ snapshotDue cfg w d.mLastHealthSnapshotMs = true
  · rw [if_pos hlet] at hcount hlast
    have hdue := (h.due_iff w hdiag hpos).mp hlet.2
    have htimes : timesOf isSnapshot d'.trace = timesOf isSnapshot d.trace ++ [w.uptimeMs] := by
      rw [hnew, hcount]
      rfl
    refine ⟨?_, ?_, fun s hs => ?_⟩
    · rw [hlast, htimes, List.getLastD_concat]
    · rw [htimes]
      exact h.spaced.concat hdue
    · rw [htimes] at hs
      obtain hs | hs := List.mem_append.mp hs
      · obtain ⟨x, hx, rfl⟩ := h.times s hs
        exact ⟨x, by simp [hx], rfl⟩
      · exact ⟨w, by simp, List.mem_singleton.mp hs⟩
  · rw [if_neg hlet] at hcount hlast
    have htimes : timesOf isSnapshot d'.trace = timesOf isSnapshot d.trace := by
      rw [hnew, hcount]
      simp
    refine ⟨by rw [hlast, htimes, h.last], by rw [htimes]; exact h.spaced, fun s hs => ?_⟩
    rw [htimes] at hs
    obtain ⟨x, hx, rfl⟩ := h.times s hs
    exact ⟨x, by simp [hx], rfl⟩

/-! ## The budget along a run -/

/-- The saves made so far: those of the boot, the role changes, the failures, and two a snapshot. -/
structure Budget (cfg : Config) (causes : UInt32) (w₀ : World) (es : List (AppEvent × World))
    (d : Device) : Prop where
  tracked : Tracked eventRole (fun e => e.2.uptimeMs) es d.thread
  clock : ClockTracked cfg (w₀ :: es.map Prod.snd) d
  count : (d.trace.map Event.call).countP isSave =
    (2 + if causes &&& NRF_POWER_RESETREAS_DOG_MASK ≠ 0 then 1 else 0) + roleChanges es +
      (d.trace.map Event.call).countP isFailedAccess +
      (d.trace.map Event.call).countP isFailedAdcRead +
      2 * (d.trace.map Event.call).countP isSnapshot

theorem count_step {d d' : Device} {l : List Call} {evs : List Event} {base changes : ℕ}
    (h : (d.trace.map Event.call).countP isSave = base +
      (d.trace.map Event.call).countP isFailedAccess +
      (d.trace.map Event.call).countP isFailedAdcRead +
      2 * (d.trace.map Event.call).countP isSnapshot)
    (htrace : d'.trace = d.trace ++ evs) (hcalls : evs.map Event.call = l)
    (hl : l.countP isSave = changes + l.countP isFailedAccess + l.countP isFailedAdcRead +
      2 * l.countP isSnapshot) :
    (d'.trace.map Event.call).countP isSave = base + changes +
      (d'.trace.map Event.call).countP isFailedAccess +
      (d'.trace.map Event.call).countP isFailedAdcRead +
      2 * (d'.trace.map Event.call).countP isSnapshot := by
  rw [htrace, List.map_append, hcalls]
  simp only [List.countP_append]
  omega

/-- The device of a boot just before its first sample: the boot has made its own saves, and
nothing else that counts. -/
structure FirstSample (causes : UInt32) (w₀ : World) (d : Device) : Prop where
  thread : d.thread = {}
  ready : d.sampler.mShtReady = w₀.shtReady
  last : d.mLastHealthSnapshotMs = 0
  times : timesOf isSnapshot d.trace = []
  count : (d.trace.map Event.call).countP isSave =
    (2 + if causes &&& NRF_POWER_RESETREAS_DOG_MASK ≠ 0 then 1 else 0) +
      (d.trace.map Event.call).countP isFailedAccess +
      (d.trace.map Event.call).countP isFailedAdcRead +
      2 * (d.trace.map Event.call).countP isSnapshot

theorem firstSample {cfg : Config} (store : Settings) (causes : UInt32) (w₀ : World)
    (hdiag : cfg.diagnosticMode = true) :
    FirstSample causes w₀ (firstDevice cfg store causes w₀) := by
  have htrace := firstDevice_trace cfg store causes w₀ hdiag
  have hframe := firstDevice_frame cfg store causes w₀
  refine ⟨by rw [hframe], by rw [hframe], by rw [hframe], ?_, ?_⟩
  · exact timesOf_firstDevice cfg store causes w₀ hdiag fun _ hc => Or.inr hc
  · rw [htrace]
    unfold bootCalls wdtInitCalls
    split_ifs <;> rfl

theorem Budget.start {cfg : Config} {store : Settings} {causes : UInt32} {w₀ : World}
    (hdiag : cfg.diagnosticMode = true) (hstart : (boot cfg store causes w₀).2 = none) :
    Budget cfg causes w₀ [] (boot cfg store causes w₀).1 := by
  have hfirst := firstSample store causes w₀ hdiag
  rw [boot_of_success cfg store causes w₀ hstart]
  generalize firstDevice cfg store causes w₀ = d at hfirst
  have hcycle := fedCycle_trace cfg w₀ d true (cycleMs cfg w₀ true d)
  have hmade : MadeAt w₀.uptimeMs (cycleCalls cfg w₀ d true ++ feedCalls cfg d.mWdtChannel) _ :=
    (madeAt_calls ..).feed d.mWdtChannel (w₀.uptimeMs + cycleMs cfg w₀ true d)
  have hclock : ClockTracked cfg [] d := by
    refine ⟨by rw [hfirst.last, hfirst.times]; rfl, ?_, ?_⟩
    · rw [hfirst.times]
      exact List.Pairwise.nil
    · rw [hfirst.times]
      simp
  refine ⟨?_, ?_, ?_⟩
  · rw [diagFeedWatchdog_toAppTask, (sensorCycle_rest cfg w₀ d true).1, hfirst.thread]
    exact Tracked.initial
  · refine hclock.step (accessesSensor w₀ true d.sampler && accessSucceeds w₀) hdiag
      (by simp) hcycle hmade ?_ ?_
    · rw [List.countP_append, countP_feedCalls, countP_isSnapshot_cycleCalls]
      rfl
    · rw [diagFeedWatchdog_toAppTask]
      exact sensorCycle_mLastHealthSnapshotMs cfg w₀ d true
  · have hbalanced := (balanced_cycleCalls cfg w₀ d hdiag true).append
      (balanced_feedCalls cfg d.mWdtChannel)
    refine count_step hfirst.count hcycle hmade.calls ?_
    unfold Balanced at hbalanced
    simp only [roleChanges, List.filterMap_nil, begun]
    omega

theorem appStep_tracked {cfg : Config} {es : List (AppEvent × World)} {d : Device}
    (e : AppEvent × World) (h : Tracked eventRole (fun e => e.2.uptimeMs) es d.thread) :
    Tracked eventRole (fun e => e.2.uptimeMs) (es ++ [e]) (appStep cfg d e).thread := by
  obtain ⟨e, w⟩ := e
  cases e with
  | sensorTick =>
    rw [appStep_sensorTick, (sensorCycle_rest cfg w d false).1]
    exact h.silent rfl rfl rfl rfl
  | policyTick =>
    have hstep : (appStep cfg d (.policyTick, w)).thread =
        (handleThreadStateChange cfg w threadChangedMask d).thread := policy_thread cfg w d
    rw [hstep]
    exact h.step rfl rfl
  | taskDispatched =>
    have hkept : (appStep cfg d (.taskDispatched, w)).thread = d.thread := by
      simp only [appStep, diagFeedWatchdog_toAppTask]
    rw [hkept]
    exact h.silent rfl rfl rfl rfl

theorem countP_eventSaves {cfg : Config} {es : List (AppEvent × World)} {d : Device}
    (e : AppEvent × World) (hdiag : cfg.diagnosticMode = true)
    (h : Tracked eventRole (fun e => e.2.uptimeMs) es d.thread) :
    (eventCalls cfg d e).countP isSave = (roleChanges (es ++ [e]) - roleChanges es) +
      (eventCalls cfg d e).countP isFailedAccess + (eventCalls cfg d e).countP isFailedAdcRead +
      2 * (eventCalls cfg d e).countP isSnapshot := by
  have hsilent : ∀ {e}, eventRole e = none → roleChanges (es ++ [e]) = roleChanges es := by
    intro e he
    unfold roleChanges
    rw [begun_silent _ _ he, begun_silent _ _ he]
  obtain ⟨e, w⟩ := e
  cases e with
  | sensorTick =>
    have hbalanced : Balanced (eventCalls cfg d (.sensorTick, w)) :=
      (balanced_cycleCalls cfg w d hdiag false).append
        (balanced_ite (balanced_feedCalls cfg d.mWdtChannel))
    unfold Balanced at hbalanced
    rw [hsilent rfl]
    omega
  | policyTick =>
    have hchange := countP_threadSaves hdiag h (w := w)
    have hbalanced := balanced_policyCalls cfg w
      (handleThreadStateChange cfg w threadChangedMask d)
    have hrest : ∀ p : Call → Bool, (∀ key value rc, p (.settingsSaveOne key value rc) = false) →
        (threadSaves cfg w threadChangedMask d).countP p = 0 := by
      intro p hp
      rw [List.countP_eq_zero]
      intro c hc
      obtain ⟨key, value, rc, rfl⟩ := mem_threadSaves hc
      simp [hp]
    have haccess := hrest isFailedAccess fun _ _ _ => rfl
    have hadc := hrest isFailedAdcRead fun _ _ _ => rfl
    have hsnapshot := hrest isSnapshot fun _ _ _ => rfl
    unfold Balanced at hbalanced
    have hcalls : eventCalls cfg d (.policyTick, w) = _ := tickCalls_eq cfg d w
    rw [hcalls]
    simp only [List.countP_append]
    omega
  | taskDispatched =>
    have hbalanced : Balanced (eventCalls cfg d (.taskDispatched, w)) :=
      balanced_feedCalls cfg d.mWdtChannel
    unfold Balanced at hbalanced
    rw [hsilent rfl]
    omega

theorem roleChanges_mono (es : List (AppEvent × World)) (e : AppEvent × World) :
    roleChanges es ≤ roleChanges (es ++ [e]) := by
  unfold roleChanges
  cases he : eventRole e with
  | none => rw [begun_silent _ _ he, begun_silent _ _ he]
  | some role =>
    rw [begun_seen _ _ he, begun_seen _ _ he]
    omega

theorem Budget.step {cfg : Config} {causes : UInt32} {w₀ : World} {es : List (AppEvent × World)}
    {d : Device} (e : AppEvent × World) (h : Budget cfg causes w₀ es d)
    (hdiag : cfg.diagnosticMode = true) (hpos : ∀ x ∈ w₀ :: es.map Prod.snd, 0 < x.uptimeMs) :
    Budget cfg causes w₀ (es ++ [e]) (appStep cfg d e) := by
  obtain ⟨evs, htrace, hmade⟩ := appStep_trace cfg d e
  refine ⟨appStep_tracked e h.tracked, ?_, ?_⟩
  · have hclock := h.clock.step _ hdiag hpos htrace hmade (countP_eventCalls cfg d e)
      (appStep_mLastHealthSnapshotMs cfg d e)
    rw [List.map_append, List.map_singleton, ← List.cons_append]
    exact hclock
  · have hcount := count_step h.count htrace hmade.calls (countP_eventSaves e hdiag h.tracked)
    have hmono := roleChanges_mono es e
    omega

end TinyEnvSensor
