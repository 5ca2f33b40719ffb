import TinyEnvSensor.App.LifeStore
import TinyEnvSensor.Foundations.Simulation

/-! # Diagnostic mode observes

`erase` takes from a device all that the diagnostics keep or say. Each function of the application,
built with the diagnostics and erased, does what the production build does to the erased device. So
a life in diagnostic mode is, but for its diagnostics, a life of the production build, up to the
reboots of the recovery: these the production build knows only as resets. -/
namespace TinyEnvSensor
open History Simulation
set_option autoImplicit false

def Config.production (cfg : Config) : Config := { cfg with diagnosticMode := false }

def Device.erase (d : Device) : Device :=
  { d with
    mLastHealthSnapshotMs := 0
    mWdtChannel := -1
    mDiag := fun _ => 0
    settings := ∅
    resetreas := 0
    trace := d.trace.filter fun ev => ev.call.plain }

section Erase
variable (cfg : Config) (w : World) (d : Device)

@[simp] theorem production_diagnosticMode : cfg.production.diagnosticMode = false := rfl

@[simp] theorem erase_thread : d.erase.thread = d.thread := rfl

@[simp] theorem erase_awake : d.erase.awake = d.awake := rfl

@[simp] theorem erase_sampler : d.erase.sampler = d.sampler := rfl

@[simp] theorem erase_sense : d.erase.sense = d.sense := rfl

theorem erase_call {c : Call} (hc : c.plain = true) : (d.call w c).erase = d.erase.call w c := by
  simp [Device.erase, Device.call, hc]

theorem erase_hidden {c : Call} (hc : c.plain = false) : (d.call w c).erase = d.erase := by
  simp [Device.erase, Device.call, hc]

/-! ## The diagnostics leave no mark -/

theorem erase_saveDiagValue (key : String) (value : UInt32) :
    (saveDiagValue w key value d).2.erase = d.erase := by
  unfold saveDiagValue
  dsimp only
  split
  · exact erase_hidden w d rfl
  · exact erase_hidden w d rfl

theorem erase_diagRaise (f : DiagField) : (diagRaise w f d).erase = d.erase :=
  erase_saveDiagValue w { d with mDiag := Function.update d.mDiag f (d.mDiag f + 1) } _ _

theorem erase_diagCount (f : DiagField) : (diagCount cfg w f d).erase = d.erase := by
  unfold diagCount
  split
  · rfl
  · exact erase_diagRaise w d f

theorem erase_diagOnBoot : (diagOnBoot cfg w d).erase = d.erase := by
  cases hdiag : cfg.diagnosticMode with
  | false => simp [diagOnBoot, hdiag]
  | true =>
    have hloaded : (loadedDevice w d).erase = d.erase := rfl
    have hnoted : ∀ d' : Device, (noteResetReas w d.resetreas d').erase = d'.erase :=
      fun d' => erase_saveDiagValue w d' _ _
    rw [diagOnBoot_eq cfg w d hdiag]
    split
    · rw [erase_diagRaise, hnoted, erase_diagRaise, hloaded]
    · rw [hnoted, erase_diagRaise, hloaded]

theorem erase_snapshot : (maybeLogAndPersistHealthSnapshot cfg w d).erase = d.erase := by
  unfold maybeLogAndPersistHealthSnapshot
  split_ifs
  · rfl
  · rfl
  · dsimp only
    rw [erase_hidden w _ rfl, erase_saveDiagValue, erase_saveDiagValue]
    rfl

theorem erase_diagInitWatchdog : (diagInitWatchdog cfg w d).erase = d.erase := by
  have hinstall := erase_hidden w d
    (c := .wdtInstallTimeout cfg.watchdogTimeoutMs w.wdtInstallTimeout) rfl
  have hsetup := (erase_hidden w (d.call w (.wdtInstallTimeout cfg.watchdogTimeoutMs
    w.wdtInstallTimeout)) (c := .wdtSetup w.wdtSetup) rfl).trans hinstall
  unfold diagInitWatchdog
  dsimp only
  split_ifs
  · rfl
  · exact hinstall
  · exact hsetup
  · exact hsetup

theorem erase_diagFeedWatchdog : (diagFeedWatchdog cfg w d).erase = d.erase := by
  unfold diagFeedWatchdog
  split
  · rfl
  · exact erase_hidden w d rfl

/-! ## The rest of the application does not read them -/

theorem erase_trackRole (role : OtDeviceRole) :
    (trackRole cfg w role d).erase = trackRole cfg.production w role d.erase := by
  have hset : ∀ d₁ d₂ : Device, d₁.erase = d₂.erase →
      ({ d₁ with thread.mLastThreadRole := role } : Device).erase =
        { d₂.erase with thread.mLastThreadRole := role } := by
    intro d₁ d₂ h
    rw [← h]
    rfl
  have hdetached : ∀ d', (diagOnThreadDetached cfg w d').erase = d'.erase :=
    fun d' => erase_diagCount cfg w d' _
  have hreattached : ∀ d', (diagOnThreadReattached cfg w d').erase = d'.erase :=
    fun d' => erase_diagCount cfg w d' _
  unfold trackRole
  rw [erase_thread]
  split_ifs
  · refine (hset _ _ (hdetached _)).trans ?_
    rfl
  · refine (hset _ _ (hreattached _)).trans ?_
    rfl
  · exact hset _ _ rfl
  · rfl

theorem erase_handleThreadStateChange (flags : UInt32) :
    (handleThreadStateChange cfg w flags d).erase =
      handleThreadStateChange cfg.production w flags d.erase := by
  unfold handleThreadStateChange
  cases w.threadInstance with
  | none => rfl
  | some reply =>
    have hparent : ∀ d₁ d₂ : Device, d₁.erase = d₂ →
        ({ d₁ with thread := trackParent reply d₁.thread } : Device).erase =
          { d₂ with thread := trackParent reply d₂.thread } := by
      rintro d₁ _ rfl
      rfl
    have hrole := erase_trackRole cfg w d reply.role
    dsimp only
    split_ifs
    · exact hparent _ _ hrole
    · exact hparent _ _ rfl
    · exact hrole
    · rfl

theorem erase_applyThreadTxPower (tx : Int8) :
    (applyThreadTxPower w tx d).erase = applyThreadTxPower w tx d.erase := by
  have hcall := erase_call w d (c := .radioRequest tx w.radio) rfl
  unfold applyThreadTxPower
  rw [erase_awake, ← hcall]
  split_ifs <;> rfl

theorem erase_kickAwake (hold : Bool) :
    (kickAwake w hold d).erase = kickAwake w hold d.erase := by
  have hcall := erase_call w d (c := .onNetworkActivity) rfl
  unfold kickAwake
  rw [erase_awake, ← hcall]
  split_ifs <;> rfl

/-- The recovery and the snapshot aside, the policy is the same in both builds. -/
theorem erase_updateCommissioningAwakePolicy :
    (updateCommissioningAwakePolicy cfg w d).erase =
      updateCommissioningAwakePolicy cfg.production w d.erase := by
  have hchange := erase_handleThreadStateChange cfg w d threadChangedMask
  have hpower : wantedTxPower cfg.production = wantedTxPower cfg := rfl
  have hnone : ∀ d' : Device, maybeLogAndPersistHealthSnapshot cfg.production w d' = d' :=
    fun _ => rfl
  have hlate : ∀ t, detachedTooLong cfg.production w t = false := fun _ => rfl
  have hwindow : ∀ d' : Device, ({ d' with awake := trackWindow w d'.awake } : Device).erase =
      { d'.erase with awake := trackWindow w d'.erase.awake } := fun _ => rfl
  unfold updateCommissioningAwakePolicy
  dsimp only
  rw [hnone, hlate, hpower, ← hchange, ← hwindow, erase_awake, ← erase_applyThreadTxPower,
    ← erase_kickAwake]
  split
  · exact erase_hidden w _ rfl
  · exact erase_snapshot cfg w _

theorem erase_gpioPinSet (level : ℤ) :
    (gpioPinSet w level d).erase = gpioPinSet w level d.erase := by
  have hcall := erase_call w d (c := .gpioPinSet level) rfl
  unfold gpioPinSet
  rw [← hcall]
  rfl

theorem erase_initBatterySense :
    initBatterySense w d.erase = ((initBatterySense w d).1, (initBatterySense w d).2.erase) := by
  unfold initBatterySense
  rw [erase_sense]
  dsimp only
  split_ifs <;> simp [Device.erase, Device.call, gpioPinSet, Call.plain]

theorem erase_sampleLoop (n i : ℕ) (rawSum : UInt32) :
    sampleLoop w n i rawSum d.erase =
      ((sampleLoop w n i rawSum d).1, (sampleLoop w n i rawSum d).2.erase) := by
  induction n generalizing i rawSum d with
  | zero => rfl
  | succ n ih =>
    have hcall := erase_call w d (c := .adcRead (w.adcRead i).err (w.adcRead i).raw) rfl
    unfold sampleLoop
    dsimp only
    rw [← hcall]
    split
    · rfl
    · exact ih _ _ _

theorem erase_readBatteryVolts :
    readBatteryVolts cfg.production w d.erase =
      ((readBatteryVolts cfg w d).1, (readBatteryVolts cfg w d).2.erase) := by
  unfold readBatteryVolts
  rw [erase_initBatterySense]
  cases hinit : initBatterySense w d with
  | mk ready d₁ =>
    cases ready with
    | false => rfl
    | true =>
      dsimp only
      rw [← erase_gpioPinSet, erase_sampleLoop]
      cases hloop : sampleLoop w kBatterySampleCount 0 0 (gpioPinSet w 0 d₁) with
      | mk sum d₂ =>
        have hset := erase_gpioPinSet w d₂ 1
        cases sum with
        | none =>
          have hcount : (diagOnAdcReadFailure cfg w (gpioPinSet w 1 d₂)).erase =
              (gpioPinSet w 1 d₂).erase := erase_diagCount cfg w _ _
          dsimp only
          rw [hcount, hset]
          rfl
        | some sum =>
          dsimp only
          rw [hset]

theorem erase_updateMatterAttributes :
    (updateMatterAttributes cfg w d).erase = updateMatterAttributes cfg.production w d.erase := by
  have hcalls : ∀ (l : List Call) (d : Device), (∀ c ∈ l, c.plain = true) →
      (l.foldl (fun d c => d.call w c) d).erase = l.foldl (fun d c => d.call w c) d.erase := by
    intro l
    induction l with
    | nil => exact fun _ _ => rfl
    | cons c l ih =>
      intro d hl
      rw [List.foldl_cons, List.foldl_cons, ih _ fun c hc => hl c (List.mem_cons_of_mem _ hc),
        erase_call w d (hl c List.mem_cons_self)]
  have hsets : (afterMeasuredSets w d).erase = afterMeasuredSets w d.erase := by
    unfold afterMeasuredSets
    rw [erase_call _ _ rfl, erase_call _ _ rfl]
    rfl
  rw [updateMatterAttributes_eq, updateMatterAttributes_eq, ← hsets, erase_readBatteryVolts, hcalls]
  intro c hc
  simp only [powerSourceCalls, List.mem_cons, List.not_mem_nil, or_false] at hc
  obtain rfl | rfl | rfl | rfl | rfl | rfl := hc <;> rfl

theorem erase_sampleSensor :
    sampleSensor cfg.production w d.erase =
      ((sampleSensor cfg w d).1, (sampleSensor cfg w d).2.erase) := by
  have hcalls : ({ d with
        trace := d.trace ++ (accessCalls w).map (Event.mk w.uptimeMs) } : Device).erase =
      { d.erase with
        trace := d.erase.trace ++ (accessCalls w).map (Event.mk w.uptimeMs) } := by
    have hplain : ((accessCalls w).map (Event.mk w.uptimeMs)).filter
        (fun ev => ev.call.plain) = (accessCalls w).map (Event.mk w.uptimeMs) := by
      rw [List.filter_eq_self]
      intro ev hev
      obtain ⟨c, hc, rfl⟩ := List.mem_map.mp hev
      unfold accessCalls at hc
      split_ifs at hc <;> simp at hc <;> (obtain rfl | rfl | rfl := hc) <;> rfl
    simp [Device.erase, hplain]
  rw [sampleSensor_eq, sampleSensor_eq]
  cases accessSucceeds w with
  | true =>
    have hstored := congrArg (fun e : Device =>
      { e with
        sampler.mCurrentTemperature := sampledTemperature w
        sampler.mCurrentHumidity := sampledHumidity w }) hcalls
    exact congrArg (Prod.mk true) hstored.symm
  | false =>
    refine congrArg (Prod.mk false) ?_
    exact (hcalls.symm.trans (erase_diagCount cfg w _ _).symm)

theorem erase_updateSensorReadings (force : Bool) :
    updateSensorReadings cfg.production w force d.erase =
      ((updateSensorReadings cfg w force d).1, (updateSensorReadings cfg w force d).2.erase) := by
  have hsample := erase_sampleSensor cfg w { d with sampler := noteCommissioned w d.sampler }
  unfold updateSensorReadings
  dsimp only [erase_sampler]
  split_ifs
  · rfl
  · rfl
  · rfl
  · exact hsample

theorem erase_init :
    init cfg.production w d.erase = ((init cfg w d).1.erase, (init cfg w d).2) := by
  have hboot := erase_diagOnBoot cfg w d
  have hdog : ∀ d₁ : Device, diagInitWatchdog cfg.production w d₁ = d₁ := fun _ => rfl
  have hskip : diagOnBoot cfg.production w d.erase = d.erase := rfl
  have hui : cfg.production.disableBoardUi = cfg.disableBoardUi := rfl
  unfold init
  cases w.prepareServer with
  | some err => rfl
  | none =>
    dsimp only
    rw [hskip, hdog, hui, ← hboot]
    split_ifs
    · rfl
    · rfl
    · rfl
    · refine congrArg (fun e => (e, w.startServer)) ?_
      refine Eq.trans ?_ (erase_diagInitWatchdog cfg w _).symm
      rfl

theorem erase_startUp :
    startUp cfg.production w d.erase = ((startUp cfg w d).1.erase, (startUp cfg w d).2) := by
  unfold startUp
  rw [erase_init]
  cases hout : init cfg w d with
  | mk d₁ err =>
    cases err with
    | some err => rfl
    | none =>
      dsimp only
      split
      · rfl
      · rw [← erase_call _ _ rfl, ← erase_call _ _ rfl]
        rfl

end Erase

/-! ## Lives -/

/-- A reset may cut a turn of the two builds short after different numbers of calls. -/
inductive Recut : LifeEvent → LifeEvent → Prop
  | turn (t : Turn) (w : World) : Recut (.turn t w) (.turn t w)
  | reset (causes : UInt32) : Recut (.reset causes) (.reset causes)
  | cut (t : Turn) (w : World) (calls calls' : ℕ) (cleared : Bool) (causes : UInt32) :
      Recut (.cut t w calls' cleared causes) (.cut t w calls cleared causes)

/-- A turn since the last reset has called `sys_reboot`. -/
def AwaitsReboot (cfg : Config) (store : Settings) (es : List LifeEvent) : Prop :=
  ∃ before t w after, es = before ++ .turn t w :: after ∧ (∀ e ∈ after, e.isReset = false) ∧
    rebooted (life cfg store before).device (turn cfg t w (life cfg store before)).device = true

def Life.erase (l : Life) : Life := { l with device := l.device.erase }

section Turns
variable (cfg : Config) (w : World) (l : Life)

theorem erase_mainTurn : mainTurn cfg.production w l.erase = (mainTurn cfg w l).erase := by
  obtain ⟨d, main, matter⟩ := l
  unfold mainTurn Life.erase
  cases main with
  | startApp =>
    dsimp only
    rw [erase_startUp]
    cases startUp cfg w d with
    | mk d₁ err => cases err <;> rfl
  | sample =>
    dsimp only
    rw [erase_updateSensorReadings]
    cases updateSensorReadings cfg w true d with
    | mk sampled d₁ => cases sampled <;> rfl
  | publish =>
    dsimp only
    rw [erase_updateMatterAttributes]
  | snapshot =>
    dsimp only
    rw [erase_snapshot]
    rfl
  | loop =>
    dsimp only
    rw [erase_diagFeedWatchdog]
    rfl
  | exited => rfl

theorem erase_sensorWorkTurn :
    sensorWorkTurn cfg.production w l.erase = (sensorWorkTurn cfg w l).erase := by
  obtain ⟨d, main, matter⟩ := l
  unfold sensorWorkTurn Life.erase
  cases matter with
  | idle =>
    dsimp only
    rw [erase_updateSensorReadings]
    cases updateSensorReadings cfg w false d with
    | mk sampled d₁ => cases sampled <;> rfl
  | _ => rfl

theorem erase_matterTurn : matterTurn cfg.production w l.erase = (matterTurn cfg w l).erase := by
  obtain ⟨d, main, matter⟩ := l
  unfold matterTurn Life.erase
  cases matter with
  | idle => rfl
  | publish =>
    dsimp only
    rw [erase_updateMatterAttributes]
  | snapshot =>
    dsimp only
    rw [erase_snapshot]
    rfl
  | feed =>
    dsimp only
    rw [erase_diagFeedWatchdog]
    rfl

theorem rebooted_iff {d d' : Device} {evs : List Event} (h : d'.trace = d.trace ++ evs) :
    rebooted d d' = true ↔ ∃ ev ∈ evs, ev.call = .sysReboot := by
  unfold rebooted
  rw [decide_eq_true_iff, newCalls_of_append h, List.mem_map]

theorem rebooted_erase (d d' : Device) : rebooted d d'.erase = false := by
  unfold rebooted
  rw [decide_eq_false_iff_not]
  intro hreboot
  obtain ⟨ev, hev, hcall⟩ := List.mem_map.mp hreboot
  have hplain := (List.mem_filter.mp (List.mem_of_mem_drop hev)).2
  rw [hcall] at hplain
  cases hplain

theorem erase_policyWorkTurn :
    policyWorkTurn cfg.production w l.erase = (policyWorkTurn cfg w l).erase ∨
      (rebooted l.device (policyWorkTurn cfg w l).device = true ∧
        (policyWorkTurn cfg.production w l.erase).device =
          (policyWorkTurn cfg w l).device.erase) := by
  obtain ⟨d, main, matter⟩ := l
  cases matter with
  | idle =>
    have htick : commissionPolicyTimeoutCallback cfg.production w d.erase =
        (commissionPolicyTimeoutCallback cfg w d).erase :=
      (erase_updateCommissioningAwakePolicy cfg w d).symm
    simp only [policyWorkTurn, Life.erase, htick, rebooted_erase]
    cases hreboot : rebooted d (commissionPolicyTimeoutCallback cfg w d) with
    | false => exact Or.inl rfl
    | true => exact Or.inr ⟨hreboot, rfl⟩
  | _ => exact Or.inl rfl

/-- A turn of the two builds ends alike, unless it ends in a reboot of the recovery. -/
theorem erase_turn (t : Turn) :
    turn cfg.production t w l.erase = (turn cfg t w l).erase ∨
      (rebooted l.device (turn cfg t w l).device = true ∧
        (turn cfg.production t w l.erase).device = (turn cfg t w l).device.erase) := by
  have hrunning : l.erase.running = l.running := rfl
  cases t with
  | main => exact Or.inl (erase_mainTurn cfg w l)
  | sensorWork =>
    simp only [turn, hrunning]
    split
    · exact Or.inl (erase_sensorWorkTurn cfg w l)
    · exact Or.inl rfl
  | policyWork =>
    simp only [turn, hrunning]
    split
    · exact erase_policyWorkTurn cfg w l
    · exact Or.inl rfl
  | matter =>
    simp only [turn, hrunning]
    split
    · exact Or.inl (erase_matterTurn cfg w l)
    · exact Or.inl rfl

theorem turn_of_exited (t : Turn) (h : l.main = .exited) : turn cfg t w l = l := by
  have hrunning : l.running = false := by simp [Life.running, h]
  cases t <;> simp [turn, mainTurn, h, hrunning]

/-- Only the policy tick reboots, and the threads exit with it. -/
theorem exited_of_rebooted {t : Turn} (h : rebooted l.device (turn cfg t w l).device = true) :
    (turn cfg t w l).main = .exited := by
  obtain ⟨evs, htrace, -⟩ := turn_entries cfg l t w
  obtain ⟨ev, hev, hcall⟩ := (rebooted_iff htrace).mp h
  obtain ⟨ho, hmoved⟩ := owner_of_call htrace hev (o := .policy) (by rw [hcall]; rfl)
  cases t with
  | main => cases hmain : l.main <;> simp [Life.owners, hmain] at ho
  | sensorWork => simp [Life.owners] at ho
  | matter => cases hmatter : l.matter <;> simp [Life.owners, hmatter] at ho
  | policyWork =>
    simp only [turn] at h hmoved ⊢
    split at h
    · rename_i hrunning
      rw [if_pos hrunning] at hmoved ⊢
      unfold policyWorkTurn at h hmoved ⊢
      cases hmatter : l.matter with
      | idle =>
        rw [hmatter] at h
        dsimp only at h ⊢
        split
        · rfl
        · rename_i hstays
          rw [if_neg hstays] at h
          exact absurd h hstays
      | _ => simp [hmatter] at hmoved
    · rename_i hstopped
      simp [hstopped] at hmoved

end Turns

/-! ## Waiting for a reboot -/

section Waiting
variable {cfg : Config} {store : Settings} {es : List LifeEvent}

/-- Threads that have exited do nothing more until a reset. -/
theorem life_of_exited {after : List LifeEvent} (hexited : (life cfg store es).main = .exited)
    (hafter : ∀ e ∈ after, e.isReset = false) :
    life cfg store (es ++ after) = life cfg store es := by
  induction after using List.reverseRecOn with
  | nil => rw [List.append_nil]
  | append_singleton after e ih =>
    have hsame := ih fun x hx => hafter x (List.mem_append_left _ hx)
    have he := hafter e (by simp)
    rw [← List.append_assoc, life_concat, hsame]
    cases e with
    | turn t w => exact turn_of_exited cfg w _ t hexited
    | reset causes => cases he
    | cut t w calls cleared causes => cases he

theorem AwaitsReboot.exited (h : AwaitsReboot cfg store es) :
    (life cfg store es).main = .exited := by
  obtain ⟨before, t, w, after, rfl, hafter, hreboot⟩ := h
  have hexited : (life cfg store (before ++ [.turn t w])).main = .exited := by
    rw [life_concat]
    exact exited_of_rebooted cfg w _ hreboot
  have hsplit : before ++ .turn t w :: after = (before ++ [.turn t w]) ++ after := by simp
  rw [hsplit, life_of_exited hexited hafter]
  exact hexited

theorem AwaitsReboot.stays (h : AwaitsReboot cfg store es) {e : LifeEvent}
    (he : e.isReset = false) : AwaitsReboot cfg store (es ++ [e]) := by
  obtain ⟨before, t, w, after, rfl, hafter, hreboot⟩ := h
  refine ⟨before, t, w, after ++ [e], by simp, fun x hx => ?_, hreboot⟩
  obtain hx | hx := List.mem_append.mp hx
  · exact hafter x hx
  · rw [List.mem_singleton.mp hx]
    exact he

/-- Who waits for a reboot has called `sys_reboot`. -/
theorem AwaitsReboot.called (h : AwaitsReboot cfg store es) :
    .sysReboot ∈ (life cfg store es).device.trace.map Event.call := by
  obtain ⟨before, t, w, after, rfl, hafter, hreboot⟩ := h
  obtain ⟨evs, htrace, -⟩ := turn_entries cfg (life cfg store before) t w
  obtain ⟨ev, hev, hcall⟩ := (rebooted_iff htrace).mp hreboot
  have hmade : ev ∈ (life cfg store (before ++ [.turn t w])).device.trace := by
    rw [life_concat]
    exact htrace ▸ List.mem_append_right _ hev
  have hsplit : before ++ .turn t w :: after = (before ++ [.turn t w]) ++ after := by simp
  rw [hsplit]
  exact List.mem_map.mpr ⟨ev, (life_extends cfg store _ after).subset hmade, hcall⟩

end Waiting

/-! ## The production build beside it -/

/-- `l'` keeps no diagnostics, and has done what `l` has done but for its diagnostics. -/
structure Beside (l l' : Life) : Prop where
  device : l'.device.erase = l.device.erase
  plain : ∀ ev ∈ l'.device.trace, ev.call.plain = true

section Beside
variable (cfg : Config) {l l' : Life}

theorem plain_of_allowed {r : Records} {ev : Event} (h : Allowed cfg.production r ev) :
    ev.call.plain = true := by
  obtain ⟨atMs, c⟩ := ev
  cases c with
  | wdtInstallTimeout windowMaxMs rc => cases h
  | settingsSaveOne key value rc => cases h.1
  | wdtSetup rc => cases h.1
  | wdtFeed channel => cases h.1
  | sysReboot => cases h.1
  | diagSnapshotLog uptimeSec role detach reattach sensorFail adcFail => cases h.1
  | _ => rfl

theorem trace_of_plain {d : Device} (h : ∀ ev ∈ d.trace, ev.call.plain = true) :
    d.erase.trace = d.trace := List.filter_eq_self.mpr h

/-- A turn of the production build makes plain calls, and keeps nothing that `erase` takes away. -/
theorem production_turn (t : Turn) (w : World) (l' : Life) :
    (turn cfg.production t w l').erase = turn cfg.production t w l'.erase ∧
      ∃ evs, (turn cfg.production t w l').device.trace = l'.device.trace ++ evs ∧
        ∀ ev ∈ evs, ev.call.plain = true := by
  obtain ⟨evs, htrace, haccepts, -⟩ := turn_entries cfg.production l' t w
  have hevs : ∀ ev ∈ evs, ev.call.plain = true :=
    haccepts.forall fun r ev hmade => plain_of_allowed cfg hmade.1
  refine ⟨?_, evs, htrace, hevs⟩
  obtain hsame | ⟨hreboot, -⟩ := erase_turn cfg.production w l' t
  · exact hsame.symm
  · -- the production build never reboots
    obtain ⟨ev, hev, hcall⟩ := (rebooted_iff htrace).mp hreboot
    have hmade := hevs ev hev
    rw [hcall] at hmade
    cases hmade

/-- The two builds side by side: what the diagnostic build adds to the trace of plain calls in a
turn, the production build adds too, and their threads part only when the one reboots. -/
theorem Beside.turn (h : Beside l l') (hthreads : l'.main = l.main ∧ l'.matter = l.matter)
    (t : Turn) (w : World) :
    Beside (TinyEnvSensor.turn cfg t w l) (TinyEnvSensor.turn cfg.production t w l') ∧
      (rebooted l.device (TinyEnvSensor.turn cfg t w l).device = true ∨
        ((TinyEnvSensor.turn cfg.production t w l').main = (TinyEnvSensor.turn cfg t w l).main ∧
          (TinyEnvSensor.turn cfg.production t w l').matter =
            (TinyEnvSensor.turn cfg t w l).matter)) := by
  obtain ⟨hproduction, evs, htrace, hevs⟩ := production_turn cfg t w l'
  have herase : l'.erase = l.erase := by
    simp only [Life.erase, h.device, hthreads]
  have hplain : ∀ ev ∈ (TinyEnvSensor.turn cfg.production t w l').device.trace,
      ev.call.plain = true := by
    rw [htrace]
    intro ev hev
    obtain hev | hev := List.mem_append.mp hev
    · exact h.plain ev hev
    · exact hevs ev hev
  rw [herase] at hproduction
  obtain hsame | ⟨hreboot, hdevice⟩ := erase_turn cfg w l t
  · rw [hsame] at hproduction
    exact ⟨⟨congrArg Life.device hproduction, hplain⟩, Or.inr (Life.mk.inj hproduction).2⟩
  · refine ⟨⟨?_, hplain⟩, Or.inl hreboot⟩
    rw [← hdevice, ← hproduction]
    rfl

theorem erase_resetDevice {d d' : Device} (causes : UInt32)
    (h : d'.erase.trace = d.erase.trace) :
    (resetDevice causes d').erase = (resetDevice causes d).erase :=
  congrArg (fun trace : List Event => ({ trace := trace } : Device)) h

/-- A cut of the one build can be matched by a cut of the other. -/
theorem Beside.cut (h : Beside l l')
    (hthreads : l.main = .exited ∨ (l'.main = l.main ∧ l'.matter = l.matter)) (t : Turn) (w : World)
    (calls : ℕ) (cleared : Bool) (causes : UInt32) :
    ∃ calls', Beside (lifeStep cfg l (.cut t w calls cleared causes))
      (lifeStep cfg.production l' (.cut t w calls' cleared causes)) := by
  obtain ⟨-, evs', htrace', hevs'⟩ := production_turn cfg t w l'
  obtain ⟨evs, htrace, -, -, hcut⟩ := turn_entries cfg l t w
  have hl : l'.device.trace = l.device.trace.filter fun ev => ev.call.plain := by
    rw [← trace_of_plain h.plain]
    exact congrArg Device.trace h.device
  have hmade : (evs.take calls).filter (fun ev => ev.call.plain) <+: evs' := by
    obtain hexited | hthreads := hthreads
    · rw [turn_of_exited cfg w l t hexited] at htrace
      rw [List.self_eq_append_right.mp htrace]
      simp
    · have hturn := (h.turn cfg hthreads t w).1
      have hall := congrArg Device.trace hturn.device
      rw [trace_of_plain hturn.plain, htrace', hl] at hall
      have hsplit : (TinyEnvSensor.turn cfg t w l).device.erase.trace =
          l.device.trace.filter (fun ev => ev.call.plain) ++
            evs.filter (fun ev => ev.call.plain) := by
        rw [← List.filter_append, ← htrace]
        rfl
      rw [List.append_cancel_left (hall.trans hsplit)]
      exact (List.take_prefix calls evs).filter _
  obtain ⟨calls', hcalls'⟩ : ∃ calls', evs'.take calls' =
      (evs.take calls).filter fun ev => ev.call.plain :=
    ⟨_, (List.prefix_iff_eq_take.mp hmade).symm⟩
  have htaken : (lifeStep cfg.production l' (.cut t w calls' cleared causes)).device.trace =
      (lifeStep cfg l (.cut t w calls cleared causes)).device.trace.filter
        (fun ev => ev.call.plain) := by
    obtain ⟨evs₂, htrace₂, -, -, hcut₂⟩ := turn_entries cfg.production l' t w
    obtain rfl : evs₂ = evs' := List.append_cancel_left (htrace₂.symm.trans htrace')
    refine (hcut₂ calls' cleared).1.trans ?_
    have hsplit : (lifeStep cfg l (.cut t w calls cleared causes)).device.trace =
        l.device.trace ++ evs.take calls := (hcut calls cleared).1
    rw [hsplit, List.filter_append, hl, hcalls']
  have hplain : ∀ ev ∈ (lifeStep cfg.production l' (.cut t w calls' cleared causes)).device.trace,
      ev.call.plain = true := by
    rw [htaken]
    exact fun ev hev => (List.mem_filter.mp hev).2
  refine ⟨calls', erase_resetDevice causes ?_, hplain⟩
  exact (trace_of_plain hplain).trans htaken

theorem Beside.reset (h : Beside l l') (causes : UInt32) :
    Beside (lifeStep cfg l (.reset causes)) (lifeStep cfg.production l' (.reset causes)) :=
  ⟨erase_resetDevice causes (congrArg Device.trace h.device), h.plain⟩

end Beside

/-- The production build after the events `es` of the other: its threads stand where those of the
other do, unless these wait for their reboot. -/
structure Follows (cfg : Config) (store : Settings) (es : List LifeEvent) (l' : Life) : Prop where
  beside : Beside (life cfg store es) l'
  threads : AwaitsReboot cfg store es ∨
    (l'.main = (life cfg store es).main ∧ l'.matter = (life cfg store es).matter)

theorem production_shadows (cfg : Config) (store store' : Settings) :
    Shadows (lifeStep cfg.production) (unborn store') (Follows cfg store) (fun _ => Recut)
      (fun before e => e.isReset = false ∧ AwaitsReboot cfg store before) where
  start := ⟨⟨rfl, fun ev hev => absurd hev List.not_mem_nil⟩, Or.inr ⟨rfl, rfl⟩⟩
  next es l' e h := by
    have hnext := life_concat cfg store es e
    cases e with
    | turn t w =>
      by_cases hawaits : AwaitsReboot cfg store es
      · have hsame : life cfg store (es ++ [.turn t w]) = life cfg store es :=
          hnext.trans (turn_of_exited cfg w _ t hawaits.exited)
        refine Or.inl ⟨⟨rfl, hawaits⟩, ?_, Or.inl (hawaits.stays rfl)⟩
        rw [hsame]
        exact h.beside
      · obtain ⟨hbeside, hthreads⟩ :=
          h.beside.turn cfg (h.threads.resolve_left hawaits) t w
        refine Or.inr ⟨fun hidle => hawaits hidle.2, _, Recut.turn t w, ?_, ?_⟩
        · rw [hnext]
          exact hbeside
        · rw [hnext]
          exact hthreads.imp_left fun hreboot => ⟨es, t, w, [], rfl, by simp, hreboot⟩
    | reset causes =>
      refine Or.inr ⟨(fun hidle => by cases hidle.1), _, Recut.reset causes, ?_, Or.inr ?_⟩
      · rw [hnext]
        exact h.beside.reset cfg causes
      · rw [hnext]
        exact ⟨rfl, rfl⟩
    | cut t w calls cleared causes =>
      obtain ⟨calls', hcut⟩ :=
        h.beside.cut cfg (h.threads.imp_left AwaitsReboot.exited) t w calls cleared causes
      refine Or.inr ⟨(fun hidle => by cases hidle.1), _,
        Recut.cut t w calls calls' cleared causes, ?_, Or.inr ?_⟩
      · rw [hnext]
        exact hcut
      · rw [hnext]
        exact ⟨rfl, rfl⟩

theorem after_of_plain {s : Settings} {ev : Event} (h : ev.call.plain = true) : s.after ev = s := by
  obtain ⟨atMs, c⟩ := ev
  cases c <;> first | rfl | cases h

theorem foldl_after_of_plain (s : Settings) {evs : List Event}
    (h : ∀ ev ∈ evs, ev.call.plain = true) : evs.foldl Settings.after s = s := by
  induction evs with
  | nil => rfl
  | cons ev evs ih =>
    rw [List.foldl_cons, after_of_plain (h ev List.mem_cons_self)]
    exact ih fun ev hev => h ev (List.mem_cons_of_mem _ hev)

/-- **Diagnostic mode observes.** Whatever a device in diagnostic mode does over its life, a device
of the production build does too, but for the diagnostics. It goes through the same turns and
resets, less the turns between a reboot of the recovery and the reset it ends in; it then has made
the same plain calls at the same times, its application is in the same state, its settings are as
they were, and its threads stand at the same places, unless the other waits for its reboot. Where
the recovery has never rebooted, no turn is left out. -/
theorem diagnostics_observe (cfg : Config) (store store' : Settings) (es : List LifeEvent) :
    ∃ es', Selects (fun _ => Recut)
        (fun before e => e.isReset = false ∧ AwaitsReboot cfg store before) es' es ∧
      let l := life cfg store es
      let l' := life cfg.production store' es'
      l'.device.trace = l.device.trace.filter (fun ev => ev.call.plain) ∧
        l'.device.settings = store' ∧
        l'.device.erase = l.device.erase ∧
        (¬AwaitsReboot cfg store es → l'.main = l.main ∧ l'.matter = l.matter) ∧
        (.sysReboot ∉ l.device.trace.map Event.call → List.Forall₂ Recut es' es) := by
  obtain ⟨es', hsel, hbeside, hthreads⟩ := (production_shadows cfg store store').run es
  refine ⟨es', hsel, ?_, ?_, hbeside.device, hthreads.resolve_left, fun hnever => ?_⟩
  · exact (trace_of_plain hbeside.plain).symm.trans (congrArg Device.trace hbeside.device)
  · have hsettings := life_settings cfg.production store' es'
    exact hsettings.trans (foldl_after_of_plain store' hbeside.plain)
  · refine hsel.all fun before e after hsplit hidle => hnever ?_
    rw [hsplit]
    exact ((life_extends cfg store before (e :: after)).map Event.call).subset hidle.2.called

end TinyEnvSensor
