import TinyEnvSensor.App.Life

/-! # Every turn keeps the journal

Each function makes only the calls of its owners, and they account for the records. So does each
turn of a thread, except that a turn of `StartApp` first loads the counters. -/
namespace TinyEnvSensor
open History Journal
set_option autoImplicit false

/-! ## Updates outside the records -/

section Frame
variable {cfg : Config} {owners : List Owner} {d : Device}

theorem does_thread (t : ThreadTracker) : Does cfg owners d { d with thread := t } :=
  Writes.silent rfl rfl

theorem does_awake (a : AwakePolicy) : Does cfg owners d { d with awake := a } :=
  Writes.silent rfl rfl

theorem does_sampler (s : Sampler) : Does cfg owners d { d with sampler := s } :=
  Writes.silent rfl rfl

theorem does_sense (s : BatterySense) : Does cfg owners d { d with sense := s } :=
  Writes.silent rfl rfl

theorem does_vbatEnable (level : Option ℤ) : Does cfg owners d { d with vbatEnable := level } :=
  Writes.silent rfl rfl

end Frame

/-! ## The policy -/

section Policy
variable {cfg : Config} {w : World} {d : Device}

theorem does_trackRole (role : OtDeviceRole) : Does cfg [.policy] d (trackRole cfg w role d) := by
  have hdetached : ∀ d, Does cfg [.policy] d (diagOnThreadDetached cfg w d) := fun d =>
    does_diagCount .policy (by simp) fun _ _ => rfl
  have hreattached : ∀ d, Does cfg [.policy] d (diagOnThreadReattached cfg w d) := fun d =>
    does_diagCount .policy (by simp) fun _ _ => rfl
  simp only [trackRole]
  refine Writes.ite (fun _ => ?_) fun _ => Writes.refl d
  split_ifs
  · exact ((does_thread _).trans (hdetached _)).trans (does_thread _)
  · exact ((does_thread _).trans (hreattached _)).trans (does_thread _)
  · exact does_thread _

theorem does_handleThreadStateChange (flags : UInt32) :
    Does cfg [.policy] d (handleThreadStateChange cfg w flags d) := by
  unfold handleThreadStateChange
  cases w.threadInstance with
  | none => exact Writes.refl d
  | some reply =>
    have hrole : Does cfg [.policy] d
        (if flags &&& OT_CHANGED_THREAD_ROLE ≠ 0 then trackRole cfg w reply.role d else d) :=
      Writes.ite (fun _ => does_trackRole _) fun _ => Writes.refl d
    exact Writes.ite (fun _ => hrole.trans (does_thread _)) fun _ => hrole

theorem does_applyThreadTxPower (tx : Int8) : Does cfg [.policy] d (applyThreadTxPower w tx d) := by
  have hrequest : Does cfg [.policy] d (d.call w (.radioRequest tx w.radio)) :=
    does_call .policy (by simp) rfl rfl
  unfold applyThreadTxPower
  refine Writes.ite (fun _ => Writes.refl d) fun _ => ?_
  exact Writes.ite (fun _ => hrequest.trans (does_awake _)) fun _ => hrequest

theorem does_kickAwake (hold : Bool) : Does cfg [.policy] d (kickAwake w hold d) := by
  have hkick : Does cfg [.policy] d (d.call w .onNetworkActivity) :=
    does_call .policy (by simp) rfl rfl
  unfold kickAwake
  exact Writes.ite (fun _ => hkick.trans (does_awake _)) fun _ => Writes.refl d

/-- A recovery reboot comes later than its threshold: the stretch of DETACHED began at a positive
uptime. -/
theorem does_sysReboot (h : detachedTooLong cfg w d.thread = true) :
    Does cfg [.policy] d (d.call w .sysReboot) := by
  simp only [detachedTooLong, Bool.and_eq_true, decide_eq_true_eq] at h
  obtain ⟨⟨⟨⟨hdiag, -⟩, -⟩, hsince⟩, hlong⟩ := h
  exact Writes.entry rfl ⟨⟨hdiag, by show _ < w.uptimeMs; omega⟩, .policy, by simp, rfl⟩ rfl

/-- A tick does the policy's own work and then reboots or tries a snapshot. -/
theorem policy_split (cfg : Config) (w : World) (d : Device) :
    ∃ d₁ : Device, Does cfg [.policy] d d₁ ∧
      d₁.thread = (handleThreadStateChange cfg w threadChangedMask d).thread ∧
      updateCommissioningAwakePolicy cfg w d =
        if detachedTooLong cfg w d₁.thread then d₁.call w .sysReboot
        else maybeLogAndPersistHealthSnapshot cfg w d₁ := by
  let d₁ := handleThreadStateChange cfg w threadChangedMask d
  let d₂ : Device := { d₁ with awake := trackWindow w d₁.awake }
  let hold := holdActive w d₂.awake
  let d₃ := applyThreadTxPower w (wantedTxPower cfg hold) d₂
  let d₄ := kickAwake w hold d₃
  have hthread : Does cfg [.policy] d d₁ := does_handleThreadStateChange _
  have hwindow : Does cfg [.policy] d₁ d₂ := does_awake _
  have hradio : Does cfg [.policy] d₂ d₃ := does_applyThreadTxPower _
  have hkick : Does cfg [.policy] d₃ d₄ := does_kickAwake _
  refine ⟨d₄, ((hthread.trans hwindow).trans hradio).trans hkick, ?_, rfl⟩
  simp [d₄, d₃, d₂, d₁]

theorem does_updateCommissioningAwakePolicy :
    Does cfg [.policy, .snapshot] d (updateCommissioningAwakePolicy cfg w d) := by
  obtain ⟨d₁, htick, -, hsplit⟩ := policy_split cfg w d
  have hall : Does cfg [.policy, .snapshot] d d₁ := Does.widen htick (by simp)
  rw [hsplit]
  refine Writes.ite (fun hlong => hall.trans ?_) fun _ => hall.trans ?_
  · exact Does.widen (does_sysReboot hlong) (by simp)
  · exact Does.widen does_snapshot (by simp)

end Policy

/-! ## Sampling and publishing -/

section Sensor
variable {cfg : Config} {w : World} {d : Device}

theorem does_sampleSensor : Does cfg [.sampling] d (sampleSensor cfg w d).2 := by
  have hfailure : ∀ {d' : Device}, Does cfg [.sampling] d d' →
      Does cfg [.sampling] d (diagOnSensorReadFailure cfg w d') := fun h =>
    h.trans (does_diagCount .sampling (by simp) fun _ _ => rfl)
  have hfetch : Does cfg [.sampling] d (d.call w (.sensorSampleFetch w.sensorSampleFetch)) :=
    does_call .sampling (by simp) rfl rfl
  have htemp := hfetch.trans (does_call (c := .sensorChannelGet .ambientTemp w.temperatureGet)
    (w := w) .sampling (by simp) rfl rfl)
  have hhum := htemp.trans (does_call (c := .sensorChannelGet .humidity w.humidityGet) (w := w)
    .sampling (by simp) rfl rfl)
  simp only [sampleSensor]
  split
  · exact hfailure hfetch
  · split
    · exact hfailure htemp
    · split
      · exact hfailure hhum
      · exact hhum.trans (does_sampler _)

theorem does_updateSensorReadings (force : Bool) :
    Does cfg [.sampling] d (updateSensorReadings cfg w force d).2 := by
  simp only [updateSensorReadings]
  split_ifs
  · exact does_sampler _
  · exact does_sampler _
  · exact does_sampler _
  · exact (does_sampler _).trans does_sampleSensor

theorem does_gpioPinSet (level : ℤ) : Does cfg [.publishing] d (gpioPinSet w level d) := by
  have hset : Does cfg [.publishing] d (d.call w (.gpioPinSet level)) :=
    does_call .publishing (by simp) rfl rfl
  exact hset.trans (does_vbatEnable _)

theorem does_initBatterySense : Does cfg [.publishing] d (initBatterySense w d).2 := by
  let d₁ : Device := { d with sense.sInit := true }
  let d₂ := d₁.call w (.gpioPinConfigure w.gpioPinConfigure)
  let d₃ := gpioPinSet w 1 { d₂ with vbatEnable := some 0 }
  let d₄ := d₃.call w (.adcChannelSetup w.adcChannelSetup)
  have hinit : Does cfg [.publishing] d d₁ := does_sense _
  have hconfigure : Does cfg [.publishing] d₁ d₂ := does_call .publishing (by simp) rfl rfl
  have hset : Does cfg [.publishing] d₂ d₃ := (does_vbatEnable _).trans (does_gpioPinSet 1)
  have hsetup : Does cfg [.publishing] d₃ d₄ := does_call .publishing (by simp) rfl rfl
  have hall := ((hinit.trans hconfigure).trans hset).trans hsetup
  simp only [initBatterySense]
  split_ifs
  · exact Writes.refl d
  · exact hinit
  · exact hinit
  · exact hinit.trans hconfigure
  · exact hall
  · exact hall.trans (does_sense _)

theorem does_sampleLoop (n i : ℕ) (rawSum : UInt32) :
    Does cfg [.publishing] d (sampleLoop w n i rawSum d).2 := by
  induction n generalizing i rawSum d with
  | zero => exact Writes.refl d
  | succ n ih =>
    have hread : Does cfg [.publishing] d
        (d.call w (.adcRead (w.adcRead i).err (w.adcRead i).raw)) :=
      does_call .publishing (by simp) rfl rfl
    simp only [sampleLoop]
    split
    · exact hread
    · exact hread.trans (ih (i + 1) _)

theorem does_readBatteryVolts : Does cfg [.publishing] d (readBatteryVolts cfg w d).2 := by
  have hinit : Does cfg [.publishing] d (initBatterySense w d).2 := does_initBatterySense
  unfold readBatteryVolts
  cases hready : initBatterySense w d with
  | mk ready d₁ =>
    rw [hready] at hinit
    cases ready with
    | false => exact hinit
    | true =>
      have hon := hinit.trans (does_gpioPinSet (w := w) 0)
      have hloop := hon.trans (does_sampleLoop (w := w) kBatterySampleCount 0 0)
      dsimp only
      cases hsum : sampleLoop w kBatterySampleCount 0 0 (gpioPinSet w 0 d₁) with
      | mk sum d₂ =>
        rw [hsum] at hloop
        have hoff := hloop.trans (does_gpioPinSet (w := w) 1)
        cases sum with
        | none => exact hoff.trans (does_diagCount .publishing (by simp) fun _ _ => rfl)
        | some rawSum => exact hoff

theorem does_updateMatterAttributes :
    Does cfg [.publishing] d (updateMatterAttributes cfg w d) := by
  have htemp : Does cfg [.publishing] d
      (d.call w (.temperatureMeasuredValueSet d.sampler.mCurrentTemperature)) :=
    does_call .publishing (by simp) rfl rfl
  have hsets : Does cfg [.publishing] d (afterMeasuredSets w d) :=
    htemp.trans (does_call .publishing (by simp) rfl rfl)
  rw [updateMatterAttributes_eq]
  refine (hsets.trans does_readBatteryVolts).trans (does_calls .publishing (by simp) _ ?_)
  intro c hc
  simp only [powerSourceCalls, List.mem_cons, List.not_mem_nil, or_false] at hc
  obtain rfl | rfl | rfl | rfl | rfl | rfl := hc <;> exact ⟨rfl, rfl⟩

end Sensor

/-! ## Start-up -/

/-- Where the journal of a start-up begins: with the counters loaded, if `DiagOnBoot` is reached. -/
def loadedBoot (cfg : Config) (w : World) (d : Device) : Device :=
  if cfg.diagnosticMode && w.prepareServer.isNone then loadedDevice w d else d

section StartUp
variable {cfg : Config} {w : World} {d : Device}

theorem loadedBoot_trace : (loadedBoot cfg w d).trace = d.trace := by
  unfold loadedBoot
  split <;> rfl

theorem loadedBoot_settings : (loadedBoot cfg w d).settings = d.settings := by
  unfold loadedBoot
  split <;> rfl

theorem loadedBoot_of_error {err : ChipError} (h : w.prepareServer = some err) :
    loadedBoot cfg w d = d := by
  simp [loadedBoot, h]

theorem does_loadedBoot (h : w.prepareServer = none) :
    Does cfg [.startUp] (loadedBoot cfg w d) (diagOnBoot cfg w d) := by
  cases hdiag : cfg.diagnosticMode with
  | true =>
    have hloaded : loadedBoot cfg w d = loadedDevice w d := by simp [loadedBoot, h, hdiag]
    rw [hloaded]
    exact does_diagOnBoot hdiag
  | false =>
    have hsame : loadedBoot cfg w d = d := by simp [loadedBoot, hdiag]
    have hskip : diagOnBoot cfg w d = d := by simp [diagOnBoot, hdiag]
    rw [hsame, hskip]
    exact Writes.refl d

theorem does_init : Does cfg [.startUp] (loadedBoot cfg w d) (init cfg w d).1 := by
  unfold init
  cases hserver : w.prepareServer with
  | some err =>
    rw [loadedBoot_of_error hserver]
    exact Writes.refl d
  | none =>
    have hboot : Does cfg [.startUp] (loadedBoot cfg w d) (diagOnBoot cfg w d) :=
      does_loadedBoot hserver
    dsimp only
    split_ifs
    · exact hboot
    · exact hboot
    · exact hboot
    · exact (hboot.trans (does_sampler _)).trans does_diagInitWatchdog

theorem does_startUp : Does cfg [.startUp] (loadedBoot cfg w d) (startUp cfg w d).1 := by
  have hinit : Does cfg [.startUp] (loadedBoot cfg w d) (init cfg w d).1 := does_init
  unfold startUp
  cases hout : init cfg w d with
  | mk d₁ err =>
    rw [hout] at hinit
    cases err with
    | some err => exact hinit
    | none =>
      let d₂ := d₁.call w (.temperatureMinMeasuredValueSet kSht4xMinCentiDegC)
      let d₃ := d₂.call w (.temperatureMaxMeasuredValueSet kSht4xMaxCentiDegC)
      have hmin : Does cfg [.startUp] d₁ d₂ := does_call .startUp (by simp) rfl rfl
      have hmax : Does cfg [.startUp] d₂ d₃ := does_call .startUp (by simp) rfl rfl
      dsimp only
      split
      · exact hinit
      · exact ((hinit.trans hmin).trans hmax).trans (does_sampler _)

end StartUp

/-! ## Turns -/

def Life.owners (l : Life) : Turn → List Owner
  | .main =>
    match l.main with
    | .startApp => [.startUp]
    | .sample => [.sampling]
    | .publish => [.publishing]
    | .snapshot => [.snapshot]
    | .loop => [.feeding]
    | .exited => []
  | .sensorWork => [.sampling]
  | .policyWork => [.policy, .snapshot]
  | .matter =>
    match l.matter with
    | .idle => []
    | .publish => [.publishing]
    | .snapshot => [.snapshot]
    | .feed => [.feeding]

/-- The device where the journal of a turn begins. -/
def Life.begins (cfg : Config) (w : World) (l : Life) : Turn → Device
  | .main => if l.main = .startApp then loadedBoot cfg w l.device else l.device
  | _ => l.device

section Turns
variable (cfg : Config) (w : World) (l : Life)

theorem begins_frame (t : Turn) :
    (l.begins cfg w t).trace = l.device.trace ∧
      (l.begins cfg w t).settings = l.device.settings := by
  cases t with
  | main =>
    by_cases hstart : l.main = .startApp
    · simp only [Life.begins, hstart, if_true]
      exact ⟨loadedBoot_trace, loadedBoot_settings⟩
    · simp only [Life.begins, hstart, if_false, and_self]
  | sensorWork => exact ⟨rfl, rfl⟩
  | policyWork => exact ⟨rfl, rfl⟩
  | matter => exact ⟨rfl, rfl⟩

/-- The journal begins with the counters loaded, if need be, and nothing else done. -/
theorem begins_toAppTask (t : Turn) :
    (l.begins cfg w t).toAppTask =
      { l.device.toAppTask with mDiag := (l.begins cfg w t).mDiag } := by
  cases t with
  | main =>
    simp only [Life.begins]
    split
    · unfold loadedBoot
      split <;> rfl
    · rfl
  | _ => rfl

/-- **A turn makes only the calls of its owners, and they account for the records.** -/
theorem does_turn (t : Turn) :
    Does cfg (l.owners t) (l.begins cfg w t) (turn cfg t w l).device := by
  have hstep := turn_step cfg w l t
  generalize (turn cfg t w l).device = d' at hstep ⊢
  cases hstep with
  | idle t h =>
    have hbegins : l.begins cfg w t = l.device := by
      cases t with
      | main => simp [Life.begins, h rfl]
      | _ => rfl
    rw [hbegins]
    exact Writes.refl _
  | startUp h =>
    simp only [Life.owners, Life.begins, h, if_true]
    exact does_startUp
  | mainSample h =>
    simp only [Life.owners, Life.begins, h]
    exact does_updateSensorReadings true
  | mainPublish h =>
    simp only [Life.owners, Life.begins, h]
    exact does_updateMatterAttributes
  | mainSnapshot h =>
    simp only [Life.owners, Life.begins, h]
    exact does_snapshot
  | mainFeed h =>
    simp only [Life.owners, Life.begins, h]
    exact does_diagFeedWatchdog
  | sensorWork h => exact does_updateSensorReadings false
  | policyWork h => exact does_updateCommissioningAwakePolicy
  | matterPublish hrunning h =>
    simp only [Life.owners, h]
    exact does_updateMatterAttributes
  | matterSnapshot hrunning h =>
    simp only [Life.owners, h]
    exact does_snapshot
  | matterFeed hrunning h =>
    simp only [Life.owners, h]
    exact does_diagFeedWatchdog

end Turns
end TinyEnvSensor
