import TinyEnvSensor.App.LifeStore
import TinyEnvSensor.Foundations.Interleaving
import TinyEnvSensor.Policy.HoldMeaning
import TinyEnvSensor.Policy.RebootMeaning
import TinyEnvSensor.Sensor.GateMeaning

/-! # The parties of a life

The policy of the awake mode and the sampling each own a part of the device that nothing else in the
application touches. However the threads take turns, each part is what its owner alone makes of the
work items it got since the last reset. -/
namespace TinyEnvSensor
open History Interleaving Stretch
set_option autoImplicit false

/-! ## The policy -/

def policyParty : Party Life LifeEvent World where
  takes l
    | .turn .policyWork w => if l.takesWork then some w else none
    | _ => none
  restarts := LifeEvent.isReset

def policyInbox (cfg : Config) (store : Settings) (es : List LifeEvent) : List World :=
  policyParty.inbox (lifeStep cfg) (unborn store) es

def KeepsPolicy (d d' : Device) : Prop := d'.thread = d.thread ∧ d'.awake = d.awake

section Frame
variable (cfg : Config) (w : World) (d : Device)

theorem keepsPolicy_updateSensorReadings (force : Bool) :
    KeepsPolicy d (updateSensorReadings cfg w force d).2 := by
  obtain ⟨-, hout⟩ | ⟨-, -, hout⟩ | ⟨-, -, hout⟩ := updateSensorReadings_step cfg w force d
  · rw [hout]
    exact ⟨rfl, rfl⟩
  · rw [hout]
    simp [KeepsPolicy, diagOnSensorReadFailure]
  · rw [hout]
    exact ⟨rfl, rfl⟩

/-- What `startUp` sets of the application. -/
theorem startUp_frame :
    (startUp cfg w d).1.toAppTask =
      { d.toAppTask with
        mDiag := (startUp cfg w d).1.mDiag
        mWdtChannel := (startUp cfg w d).1.mWdtChannel
        sampler :=
          { d.sampler with
            mShtReady := (startUp cfg w d).1.sampler.mShtReady
            mTemperatureSensorMinValue := (startUp cfg w d).1.sampler.mTemperatureSensorMinValue
            mTemperatureSensorMaxValue :=
              (startUp cfg w d).1.sampler.mTemperatureSensorMaxValue } } := by
  have hboot := diagOnBoot_frame cfg w d
  have hinit : (init cfg w d).1.toAppTask =
      { d.toAppTask with
        mDiag := (init cfg w d).1.mDiag
        mWdtChannel := (init cfg w d).1.mWdtChannel
        sampler := { d.sampler with mShtReady := (init cfg w d).1.sampler.mShtReady } } := by
    unfold init
    cases w.prepareServer with
    | some err => rfl
    | none =>
      dsimp only
      split_ifs
      · rw [hboot]
      · rw [hboot]
      · rw [hboot]
      · rw [diagInitWatchdog_frame, hboot]
  unfold startUp
  cases hout : init cfg w d with
  | mk d₁ err =>
    rw [hout] at hinit
    cases err with
    | some err =>
      refine hinit.trans ?_
      rw [hinit]
    | none =>
      dsimp only
      split
      · refine hinit.trans ?_
        rw [hinit]
      · simp only [call_toAppTask]
        rw [hinit]

theorem keepsPolicy_startUp : KeepsPolicy d (startUp cfg w d).1 := by
  unfold KeepsPolicy
  rw [startUp_frame]
  exact ⟨rfl, rfl⟩

theorem keepsPolicy_updateMatterAttributes :
    KeepsPolicy d (updateMatterAttributes cfg w d) := by simp [KeepsPolicy]

theorem keepsPolicy_snapshot :
    KeepsPolicy d (maybeLogAndPersistHealthSnapshot cfg w d) := by simp [KeepsPolicy]

theorem keepsPolicy_diagFeedWatchdog : KeepsPolicy d (diagFeedWatchdog cfg w d) := by
  simp [KeepsPolicy]

variable (l : Life)

/-- A work item of the policy, when the Matter thread takes it up. -/
theorem turn_policyWork (h : l.takesWork = true) :
    (turn cfg .policyWork w l).device = policyStep cfg l.device w := by
  obtain ⟨hrunning, hidle⟩ := Bool.and_eq_true_iff.mp h
  simp only [turn, hrunning, if_true, policyWorkTurn, of_decide_eq_true hidle]
  split <;> rfl

/-- Only the policy's own work items touch what belongs to it. -/
theorem keepsPolicy_turn {t : Turn} (h : t = .policyWork → l.takesWork = false) :
    KeepsPolicy l.device (turn cfg t w l).device := by
  have hstep := turn_step cfg w l t
  generalize (turn cfg t w l).device = d' at hstep ⊢
  cases hstep with
  | idle => exact ⟨rfl, rfl⟩
  | startUp => exact keepsPolicy_startUp cfg w l.device
  | mainSample => exact keepsPolicy_updateSensorReadings cfg w l.device true
  | mainPublish => exact keepsPolicy_updateMatterAttributes cfg w l.device
  | mainSnapshot => exact keepsPolicy_snapshot cfg w l.device
  | mainFeed => exact keepsPolicy_diagFeedWatchdog cfg w l.device
  | sensorWork => exact keepsPolicy_updateSensorReadings cfg w l.device false
  | policyWork hwork =>
    rw [h rfl] at hwork
    cases hwork
  | matterPublish => exact keepsPolicy_updateMatterAttributes cfg w l.device
  | matterSnapshot => exact keepsPolicy_snapshot cfg w l.device
  | matterFeed => exact keepsPolicy_diagFeedWatchdog cfg w l.device

theorem handleThreadStateChange_congr {d d' : Device} (flags : UInt32) (h : d'.thread = d.thread) :
    (handleThreadStateChange cfg w flags d').thread =
      (handleThreadStateChange cfg w flags d).thread := by
  have htrack : ∀ role, (trackRole cfg w role d').thread = (trackRole cfg w role d).thread := by
    intro role
    simp only [trackRole, diagOnThreadDetached, diagOnThreadReattached]
    rw [h]
    split_ifs <;> simp [h]
  unfold handleThreadStateChange
  cases w.threadInstance with
  | none => exact h
  | some reply =>
    dsimp only
    split_ifs <;> simp [h, htrack]

end Frame

/-- The policy's part of a device is that of another one. -/
def ShowsPolicy (l : Life) (d : Device) : Prop := KeepsPolicy d l.device

theorem policy_alone (cfg : Config) :
    Alone policyParty (lifeStep cfg) (policyStep cfg) ({} : Device) ShowsPolicy where
  restart l e hreset := by
    cases e with
    | turn t w => cases hreset
    | reset causes => exact ⟨rfl, rfl⟩
    | cut t w calls cleared causes => exact ⟨rfl, rfl⟩
  take l d e w hreset htake h := by
    cases e with
    | turn t w' =>
      cases t with
      | policyWork =>
        simp only [policyParty] at htake
        split_ifs at htake with hwork
        obtain rfl : w' = w := Option.some.inj htake
        have hturn : (lifeStep cfg l (.turn .policyWork w')).device = policyStep cfg l.device w' :=
          turn_policyWork cfg w' l hwork
        unfold ShowsPolicy KeepsPolicy
        rw [hturn, policyStep, policyStep, policy_thread, policy_thread, policy_awake, policy_awake,
          h.2]
        exact ⟨handleThreadStateChange_congr cfg w' threadChangedMask h.1, rfl⟩
      | _ => cases htake
    | reset causes => cases hreset
    | cut t w' calls cleared causes => cases hreset
  leave l d e hreset htake h := by
    cases e with
    | turn t w =>
      have hkeeps := keepsPolicy_turn cfg w l (t := t) (by
        rintro rfl
        simp only [policyParty] at htake
        split_ifs at htake with hwork
        simpa using hwork)
      exact ⟨hkeeps.1.trans h.1, hkeeps.2.trans h.2⟩
    | reset causes => cases hreset
    | cut t w calls cleared causes => cases hreset

theorem life_policy (cfg : Config) (store : Settings) (es : List LifeEvent) :
    ShowsPolicy (life cfg store es)
      (run (policyStep cfg) ({} : Device) (policyInbox cfg store es)) :=
  (policy_alone cfg).run ⟨rfl, rfl⟩ es

/-- **In every life the policy runs alone.** Whatever the other work items do and however the
threads take turns: the thread tracker and the awake policy are those of a run of the ticks since
the last reset and of nothing else, and a tick makes the radio requests, kicks and reboot requests
it makes in that run. -/
theorem policy_runs_alone (cfg : Config) (store : Settings) (es : List LifeEvent) :
    let l := life cfg store es
    let d := run (policyStep cfg) ({} : Device) (policyInbox cfg store es)
    l.device.thread = d.thread ∧ l.device.awake = d.awake ∧
      ∀ w c, l.takesWork = true → (∀ key value rc, c ≠ .settingsSaveOne key value rc) →
        (∀ up role n₁ n₂ n₃ n₄, c ≠ .diagSnapshotLog up role n₁ n₂ n₃ n₄) →
        (c ∈ newCalls l.device (turn cfg .policyWork w l).device ↔ c ∈ tickCalls cfg d w) := by
  intro l d
  obtain ⟨hthread, hawake⟩ : ShowsPolicy l d := life_policy cfg store es
  refine ⟨hthread, hawake, fun w c hwork hsave hlog => ?_⟩
  have hhold : holdAt w l.device = holdAt w d := by
    unfold holdAt
    rw [hawake]
  have hnew : newCalls l.device (turn cfg .policyWork w l).device = tickCalls cfg l.device w := by
    rw [turn_policyWork cfg w l hwork]
    rfl
  rw [hnew, mem_tickCalls hsave hlog, mem_tickCalls hsave hlog, hhold, hawake,
    handleThreadStateChange_congr cfg w threadChangedMask hthread]

/-- A start-up, a tick that finds the commissioning window open, and the first sample. -/
def windowLife : List LifeEvent :=
  [.reset 1, .turn .main {},
    .turn .policyWork { uptimeMs := 1500, commissioningWindowOpen := true }, .turn .main {}]

/-- A kick in the grace of the window, long enough after the one at the tick before. -/
theorem policy_runs_alone_after_a_sample :
    .onNetworkActivity ∈ tickCalls diagConfig
      (run (policyStep diagConfig) ({} : Device) (policyInbox diagConfig ∅ windowLife))
      { uptimeMs := 2500 } :=
  ((policy_runs_alone diagConfig ∅ windowLife).2.2 { uptimeMs := 2500 } .onNetworkActivity
    (by decide +kernel) (by simp) (by simp)).mp (by decide +kernel)

/-! ## Reboots -/

/-- After the ticks `ws`, the tick `w` finds a commissioned node in a DETACHED stretch older than
the threshold. -/
def RebootDue (cfg : Config) (ws : List World) (w : World) : Prop :=
  cfg.diagnosticMode = true ∧ isCommissioned w = true ∧
    ∃ c, Opener policyRole (· = .detached) .disabled (ws ++ [w]) c ∧
      cfg.kDetachedRebootThresholdMs < w.uptimeMs - c.uptimeMs

theorem life_requestsReboot_iff (cfg : Config) (store : Settings) (es : List LifeEvent) (w : World)
    (hpos : ∀ x ∈ policyInbox cfg store es ++ [w], 0 < x.uptimeMs) :
    RequestsReboot cfg (life cfg store es).device w ↔
      RebootDue cfg (policyInbox cfg store es) w := by
  have hshows : ShowsPolicy (life cfg store es)
    (run (policyStep cfg) ({} : Device) (policyInbox cfg store es)) := life_policy cfg store es
  have hreboot := requestsReboot_iff cfg {} rfl (policyInbox cfg store es) w hpos
  unfold RequestsReboot at hreboot ⊢
  rw [mem_tickCalls (by simp) (by simp)] at hreboot ⊢
  rw [RebootDue, ← hreboot]
  simp [handleThreadStateChange_congr cfg w threadChangedMask hshows.1]

theorem takes_policy {l : Life} {e : LifeEvent} {w : World}
    (h : policyParty.takes l e = some w) : e = .turn .policyWork w ∧ l.takesWork = true := by
  simp only [policyParty] at h
  split at h
  · split_ifs at h with hwork
    obtain rfl := Option.some.inj h
    exact ⟨rfl, hwork⟩
  · cases h

theorem work_of_mem_inbox {cfg : Config} {store : Settings} {es : List LifeEvent} {w : World}
    (h : w ∈ policyInbox cfg store es) : ∃ e ∈ es, e.work = some (.policyWork, w) := by
  obtain ⟨l, e, he, htakes⟩ := takes_of_mem_inbox _ _ _ h
  obtain ⟨rfl, -⟩ := takes_policy htakes
  exact ⟨_, he, rfl⟩

/-- The policy's calls come from the work items the Matter thread takes up. -/
theorem policy_call {cfg : Config} {l : Life} {t : Turn} {w : World} {evs : List Event}
    (htrace : (turn cfg t w l).device.trace = l.device.trace ++ evs) {ev : Event} (hev : ev ∈ evs)
    (howner : ev.call.owner = some .policy) :
    t = .policyWork ∧ l.takesWork = true ∧ ev.atMs = w.uptimeMs ∧
      ev.call ∈ tickCalls cfg l.device w := by
  obtain ⟨hown, hmoved⟩ := owner_of_call htrace hev howner
  obtain ⟨rfl, hwork⟩ : t = .policyWork ∧ l.takesWork = true := by
    have hstep := turn_step cfg w l t
    generalize (turn cfg t w l).device = d' at hstep hmoved
    cases hstep with
    | idle => exact absurd rfl hmoved
    | policyWork hwork => exact ⟨rfl, hwork⟩
    | _ => simp_all [Life.owners]
  rw [turn_policyWork cfg w l hwork, policyStep, policy_trace] at htrace
  obtain rfl := List.append_cancel_left htrace
  obtain ⟨c, hc, rfl⟩ := List.mem_map.mp hev
  refine ⟨rfl, hwork, rfl, ?_⟩
  rw [tickCalls_eq]
  exact hc

/-- **The recovery is exact in every life.** A tick of the policy that the Matter thread takes up
asks for a reboot if and only if it finds, in diagnostic mode, a commissioned node in a DETACHED
stretch, opened by a tick since the last reset, that is older than the threshold; and no turn of the
two threads asks for one but such a tick. -/
theorem recovery_in_every_life (cfg : Config) (store : Settings) (es : List LifeEvent)
    (hpos : ∀ e ∈ es, ∀ w, e.work = some (.policyWork, w) → 0 < w.uptimeMs) :
    (∀ before w after, es = before ++ .turn .policyWork w :: after →
      (life cfg store before).takesWork = true →
        (.sysReboot ∈ newCalls (life cfg store before).device
            (life cfg store (before ++ [.turn .policyWork w])).device ↔
          RebootDue cfg (policyInbox cfg store before) w)) ∧
    (∀ ev ∈ (life cfg store es).device.trace, ev.call = .sysReboot →
      ∃ before e after w, es = before ++ e :: after ∧ e.work = some (.policyWork, w) ∧
        (life cfg store before).takesWork = true ∧ ev.atMs = w.uptimeMs ∧
          RebootDue cfg (policyInbox cfg store before) w) := by
  have hbox : ∀ before e after w, es = before ++ e :: after → e.work = some (.policyWork, w) →
      ∀ x ∈ policyInbox cfg store before ++ [w], 0 < x.uptimeMs := by
    rintro before e after w rfl hwork x hx
    obtain hx | hx := List.mem_append.mp hx
    · obtain ⟨e', he', hwork'⟩ := work_of_mem_inbox hx
      exact hpos e' (by simp [he']) x hwork'
    · rw [List.mem_singleton.mp hx]
      exact hpos e (by simp) w hwork
  constructor
  · intro before w after hes hwork
    have hturn : (life cfg store (before ++ [.turn .policyWork w])).device =
        policyStep cfg (life cfg store before).device w := by
      rw [life_concat]
      exact turn_policyWork cfg w _ hwork
    rw [hturn]
    exact life_requestsReboot_iff cfg store before w (hbox before _ after w hes rfl)
  · intro ev hev hcall
    obtain ⟨before, e, after, t, w, evs, hes, hwork, htrace, hev⟩ := made_in_turn hev
    obtain ⟨rfl, htakes, hat, hmade⟩ := policy_call htrace hev (by rw [hcall]; rfl)
    rw [hcall] at hmade
    exact ⟨before, e, after, w, hes, hwork, htakes, hat,
      (life_requestsReboot_iff cfg store before w (hbox before e after w hes hwork)).mp hmade⟩

/-- A start-up, a tick that sees the node detach, and one `300001` ms later. -/
def detachedLife : List LifeEvent :=
  [.reset 1, .turn .main {}, .turn .policyWork (tickAt 1000 .detached), .turn .main {}]

theorem recovery_over_a_sample :
    RebootDue diagConfig (policyInbox diagConfig ∅ detachedLife) (tickAt 301001 .detached) :=
  ((recovery_in_every_life diagConfig ∅
    (detachedLife ++ [.turn .policyWork (tickAt 301001 .detached)])
    (by simp [detachedLife, LifeEvent.work, tickAt])).1 detachedLife (tickAt 301001 .detached) []
    rfl (by decide +kernel)).mp (by decide +kernel)

/-! ## Sampling -/

def samplingParty : Party Life LifeEvent SampleCall where
  takes l
    | .turn .main w => if l.main = .sample then some ⟨true, w⟩ else none
    | .turn .sensorWork w => if l.takesWork then some ⟨false, w⟩ else none
    | _ => none
  restarts := LifeEvent.isReset

theorem takes_first_sample {l : Life} {w : World} (h : l.main = .sample) :
    samplingParty.takes l (.turn .main w) = some ⟨true, w⟩ := if_pos h

theorem takes_sensorWork {l : Life} {w : World} (h : l.takesWork = true) :
    samplingParty.takes l (.turn .sensorWork w) = some ⟨false, w⟩ := if_pos h

def samplingInbox (cfg : Config) (store : Settings) (es : List LifeEvent) : List SampleCall :=
  samplingParty.inbox (lifeStep cfg) (unborn store) es

def KeepsGate (d d' : Device) : Prop :=
  d'.sampler.mWasCommissioned = d.sampler.mWasCommissioned ∧
    d'.sampler.mCommissionedAtMs = d.sampler.mCommissionedAtMs

/-- What the calls of `UpdateSensorReadings` leave in the sampler is left alone. -/
def KeepsSamples (d d' : Device) : Prop :=
  d'.sampler =
    { d.sampler with
      mShtReady := d'.sampler.mShtReady
      mTemperatureSensorMaxValue := d'.sampler.mTemperatureSensorMaxValue
      mTemperatureSensorMinValue := d'.sampler.mTemperatureSensorMinValue }

section SampleFrame
variable (cfg : Config) (w : World) (d : Device) (l : Life)

theorem keepsSamples_startUp : KeepsSamples d (startUp cfg w d).1 :=
  congrArg AppTask.sampler (startUp_frame cfg w d)

theorem keepsSamples_policyStep : KeepsSamples d (policyStep cfg d w) := by
  have hsampler : (policyStep cfg d w).sampler = d.sampler := by
    unfold policyStep
    simp only [updateCommissioningAwakePolicy]
    split <;> simp
  unfold KeepsSamples
  rw [hsampler]

theorem keepsSamples_snapshot : KeepsSamples d (maybeLogAndPersistHealthSnapshot cfg w d) := by
  simp [KeepsSamples]

theorem keepsSamples_updateMatterAttributes : KeepsSamples d (updateMatterAttributes cfg w d) := by
  simp [KeepsSamples]

theorem keepsSamples_diagFeedWatchdog : KeepsSamples d (diagFeedWatchdog cfg w d) := by
  simp [KeepsSamples]

/-- A turn in which a call of `UpdateSensorReadings` is taken up is that call. -/
theorem turn_sample {t : Turn} {c : SampleCall}
    (h : samplingParty.takes l (.turn t w) = some c) :
    c.w = w ∧ (turn cfg t w l).device = sampleStep cfg l.device c := by
  unfold sampleStep
  cases t with
  | main =>
    simp only [samplingParty] at h
    split_ifs at h with hmain
    obtain rfl := Option.some.inj h
    simp only [turn, mainTurn, hmain]
    refine ⟨trivial, ?_⟩
    split <;> simp_all
  | sensorWork =>
    simp only [samplingParty] at h
    split_ifs at h with hwork
    obtain rfl := Option.some.inj h
    obtain ⟨hrunning, hidle⟩ := Bool.and_eq_true_iff.mp hwork
    simp only [turn, hrunning, if_true, sensorWorkTurn, of_decide_eq_true hidle]
    refine ⟨trivial, ?_⟩
    split <;> simp_all
  | _ => cases h

/-- Only the sampling's own calls touch what they remember. -/
theorem keepsSamples_turn {t : Turn} (h : samplingParty.takes l (.turn t w) = none) :
    KeepsSamples l.device (turn cfg t w l).device := by
  have hstep := turn_step cfg w l t
  generalize (turn cfg t w l).device = d' at hstep ⊢
  cases hstep with
  | idle => exact rfl
  | startUp => exact keepsSamples_startUp cfg w l.device
  | mainSample hmain => simp [samplingParty, hmain] at h
  | mainPublish => exact keepsSamples_updateMatterAttributes cfg w l.device
  | mainSnapshot => exact keepsSamples_snapshot cfg w l.device
  | mainFeed => exact keepsSamples_diagFeedWatchdog cfg w l.device
  | sensorWork hwork => simp [samplingParty, hwork] at h
  | policyWork => exact keepsSamples_policyStep cfg w l.device
  | matterPublish => exact keepsSamples_updateMatterAttributes cfg w l.device
  | matterSnapshot => exact keepsSamples_snapshot cfg w l.device
  | matterFeed => exact keepsSamples_diagFeedWatchdog cfg w l.device

end SampleFrame

def ShowsGate (l : Life) (d : Device) : Prop := KeepsGate d l.device

theorem sampling_alone (cfg : Config) :
    Alone samplingParty (lifeStep cfg) (sampleStep cfg) ({} : Device) ShowsGate where
  restart l e hreset := by
    cases e with
    | turn t w => cases hreset
    | reset causes => exact ⟨rfl, rfl⟩
    | cut t w calls cleared causes => exact ⟨rfl, rfl⟩
  take l d e c hreset htake h := by
    cases e with
    | turn t w =>
      obtain ⟨-, hturn⟩ := turn_sample cfg w l htake
      have hdevice : (lifeStep cfg l (.turn t w)).device = sampleStep cfg l.device c := hturn
      have hnote : ∀ d : Device, KeepsGate { d with sampler := noteCommissioned c.w d.sampler }
          (sampleStep cfg d c) := fun d => sampleStep_gate cfg d c
      have hsame : ∀ s s' : Sampler, s'.mWasCommissioned = s.mWasCommissioned →
          s'.mCommissionedAtMs = s.mCommissionedAtMs →
          (noteCommissioned c.w s').mWasCommissioned = (noteCommissioned c.w s).mWasCommissioned ∧
            (noteCommissioned c.w s').mCommissionedAtMs =
              (noteCommissioned c.w s).mCommissionedAtMs := by
        intro s s' hwas hsince
        simp only [noteCommissioned, hwas]
        split <;> simp [hwas, hsince]
      obtain ⟨hwas, hsince⟩ := hsame d.sampler l.device.sampler h.1 h.2
      unfold ShowsGate KeepsGate
      rw [hdevice, (hnote l.device).1, (hnote l.device).2, (hnote d).1, (hnote d).2]
      exact ⟨hwas, hsince⟩
    | reset causes => cases hreset
    | cut t w calls cleared causes => cases hreset
  leave l d e hreset htake h := by
    cases e with
    | turn t w =>
      have hkeeps : (turn cfg t w l).device.sampler = _ := keepsSamples_turn cfg w l htake
      exact ⟨(congrArg Sampler.mWasCommissioned hkeeps).trans h.1,
        (congrArg Sampler.mCommissionedAtMs hkeeps).trans h.2⟩
    | reset causes => cases hreset
    | cut t w calls cleared causes => cases hreset

theorem life_gate (cfg : Config) (store : Settings) (es : List LifeEvent) :
    GateTracked (samplingInbox cfg store es) (life cfg store es).device.sampler := by
  obtain ⟨hwas, hsince⟩ : ShowsGate (life cfg store es)
      (run (sampleStep cfg) ({} : Device) (samplingInbox cfg store es)) :=
    (sampling_alone cfg).run ⟨rfl, rfl⟩ es
  have htracked := gateTracked_run cfg {} (samplingInbox cfg store es) rfl
  exact ⟨hwas.trans htracked.was, fun a ha => hsince.trans (htracked.since a ha)⟩

theorem work_of_mem_samplingInbox {cfg : Config} {store : Settings} {es : List LifeEvent}
    {c : SampleCall} (h : c ∈ samplingInbox cfg store es) :
    ∃ e ∈ es, ∃ t, e.work = some (t, c.w) := by
  obtain ⟨l, e, he, htakes⟩ := takes_of_mem_inbox _ _ _ h
  refine ⟨e, he, ?_⟩
  cases e with
  | turn t w =>
    obtain ⟨rfl, -⟩ := turn_sample cfg w l htakes
    exact ⟨t, rfl⟩
  | reset causes => cases htakes
  | cut t w calls cleared causes => cases htakes

/-- A call after the calls `l` passes the gate: it is forced, or the node has been commissioned at
every call of the grace before it. -/
def GateOpen (l : List SampleCall) (c : SampleCall) : Prop :=
  c.force = true ∨
    ∃ s, CommissionedSince (l ++ [c]) s ∧ kCommissionGraceMs ≤ c.time - s.time

/-- A sensor access comes from a call that is taken up and passes the gate. -/
theorem sampling_call {cfg : Config} {l : Life} {t : Turn} {w : World} {evs : List Event}
    (htrace : (turn cfg t w l).device.trace = l.device.trace ++ evs) {ev : Event} (hev : ev ∈ evs)
    {rc : ℤ} (hcall : ev.call = .sensorSampleFetch rc) :
    ∃ c, samplingParty.takes l (.turn t w) = some c ∧
      gatePasses c.w c.force l.device.sampler = true ∧ l.device.sampler.mShtReady = true := by
  obtain ⟨hown, hmoved⟩ := owner_of_call htrace hev (o := .sampling) (by rw [hcall]; rfl)
  obtain ⟨c, htakes⟩ : ∃ c, samplingParty.takes l (.turn t w) = some c := by
    have hstep := turn_step cfg w l t
    generalize (turn cfg t w l).device = d' at hstep hmoved
    cases hstep with
    | idle => exact absurd rfl hmoved
    | mainSample hmain => exact ⟨_, takes_first_sample hmain⟩
    | sensorWork hwork => exact ⟨_, takes_sensorWork hwork⟩
    | _ => simp_all [Life.owners]
  refine ⟨c, htakes, ?_⟩
  rw [(turn_sample cfg w l htakes).2, sampleStep] at htrace hmoved
  obtain ⟨-, hout⟩ | ⟨haccess, -, -⟩ | ⟨haccess, -, -⟩ :=
    updateSensorReadings_step cfg c.w c.force l.device
  · rw [hout] at htrace
    rw [List.self_eq_append_right.mp htrace] at hev
    cases hev
  · exact Bool.and_eq_true_iff.mp haccess
  · exact Bool.and_eq_true_iff.mp haccess

theorem gateOpen_iff {l : List SampleCall} {s : Sampler} {c : SampleCall} (h : GateTracked l s)
    (hpos : ∀ x ∈ l ++ [c], 0 < x.time) : gatePasses c.w c.force s = true ↔ GateOpen l c := by
  unfold GateOpen
  cases hforce : c.force with
  | true => simp [gatePasses]
  | false =>
    rw [gatePasses_iff h hpos]
    simp

/-- **The sampling gate in every life.** However the other work items come in between: a call of
`UpdateSensorReadings` that a thread takes up fetches a sample if and only if the sensor is ready
and the call is forced or comes the grace after the call that opened the running stretch of
commissioned calls since the last reset; and nothing else ever fetches one. -/
theorem sampling_in_every_life (cfg : Config) (store : Settings) (es : List LifeEvent)
    (hpos : ∀ e ∈ es, ∀ t w, e.work = some (t, w) → 0 < w.uptimeMs) :
    (∀ before t w after c, es = before ++ .turn t w :: after →
      samplingParty.takes (life cfg store before) (.turn t w) = some c →
        (.sensorSampleFetch w.sensorSampleFetch ∈ newCalls (life cfg store before).device
            (life cfg store (before ++ [.turn t w])).device ↔
          (life cfg store before).device.sampler.mShtReady = true ∧
            GateOpen (samplingInbox cfg store before) c)) ∧
    (∀ ev ∈ (life cfg store es).device.trace, ∀ rc, ev.call = .sensorSampleFetch rc →
      ∃ before e after t w c, es = before ++ e :: after ∧ e.work = some (t, w) ∧
        samplingParty.takes (life cfg store before) (.turn t w) = some c ∧
        (life cfg store before).device.sampler.mShtReady = true ∧
          GateOpen (samplingInbox cfg store before) c) := by
  have hgate : ∀ before e after t w c, es = before ++ e :: after → e.work = some (t, w) →
      samplingParty.takes (life cfg store before) (.turn t w) = some c →
      (gatePasses c.w c.force (life cfg store before).device.sampler = true ↔
        GateOpen (samplingInbox cfg store before) c) := by
    rintro before e after t w c rfl hwork htakes
    refine gateOpen_iff (life_gate cfg store before) fun x hx => ?_
    obtain hx | hx := List.mem_append.mp hx
    · obtain ⟨e', he', t', hwork'⟩ := work_of_mem_samplingInbox hx
      exact hpos e' (by simp [he']) t' x.w hwork'
    · rw [List.mem_singleton.mp hx]
      have hc := (turn_sample cfg w _ htakes).1
      exact hpos e (by simp) t c.w (by rw [hc]; exact hwork)
  constructor
  · intro before t w after c hes htakes
    obtain ⟨hc, hturn⟩ := turn_sample cfg w _ htakes
    have hstep : (life cfg store (before ++ [.turn t w])).device =
        sampleStep cfg (life cfg store before).device c := by
      rw [life_concat]
      exact hturn
    have hfetch := fetch_iff cfg (life cfg store before).device c
    rw [hgate before _ after t w c hes rfl htakes, hc, and_comm] at hfetch
    rw [hstep, hfetch]
  · intro ev hev rc hcall
    obtain ⟨before, e, after, t, w, evs, hes, hwork, htrace, hev⟩ := made_in_turn hev
    obtain ⟨c, htakes, hpass, hready⟩ := sampling_call htrace hev hcall
    exact ⟨before, e, after, t, w, c, hes, hwork, htakes, hready,
      (hgate before e after t w c hes hwork htakes).mp hpass⟩

/-- A start-up and the first sample of a commissioned node. -/
def commissionedLife : List LifeEvent :=
  [.reset 1, .turn .main { fabricCount := 1 }, .turn .main { fabricCount := 1 }]

/-- A call of the timer, the grace after the first sample. -/
theorem sampling_after_the_grace :
    GateOpen (samplingInbox diagConfig ∅ commissionedLife)
      ⟨false, { uptimeMs := 60001, fabricCount := 1 }⟩ :=
  (((sampling_in_every_life diagConfig ∅
    (commissionedLife ++ [.turn .sensorWork { uptimeMs := 60001, fabricCount := 1 }])
    (by simp [commissionedLife, LifeEvent.work])).1 commissionedLife .sensorWork
    { uptimeMs := 60001, fabricCount := 1 } [] _ rfl
    (takes_sensorWork (by decide +kernel))).mp (by decide +kernel)).2

end TinyEnvSensor
