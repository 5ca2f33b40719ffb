import TinyEnvSensor.App.LifeSamples
import TinyEnvSensor.App.Observer
import TinyEnvSensor.Sensor.BatteryMeaning

/-! # The battery over a life

Only a publication reads the battery, and either thread may publish. The first publication of a boot
tries the setup of the ADC for both; between two turns the divider is off. -/
namespace TinyEnvSensor
open History Interleaving
set_option autoImplicit false

def publishingParty : Party Life LifeEvent World where
  takes l
    | .turn t w => if l.publishes t then some w else none
    | _ => none
  restarts := LifeEvent.isReset

/-- The publications since the last reset. -/
def publications (cfg : Config) (store : Settings) (es : List LifeEvent) : List World :=
  publishingParty.inbox (lifeStep cfg) (unborn store) es

/-! ## Who touches the divider and the statics -/

def KeepsBattery (d d' : Device) : Prop := d'.sense = d.sense ∧ d'.vbatEnable = d.vbatEnable

theorem KeepsBattery.trans {d d' d'' : Device} (h : KeepsBattery d d') (h' : KeepsBattery d' d'') :
    KeepsBattery d d'' := ⟨h'.1.trans h.1, h'.2.trans h.2⟩

/-- What the diagnostics alone change is neither. -/
theorem KeepsBattery.of_erase {d d' : Device} (h : d'.erase = d.erase) : KeepsBattery d d' := by
  have hsense := congrArg Device.sense h
  have hpin := congrArg Device.vbatEnable h
  exact ⟨hsense, hpin⟩

section Frame
variable (cfg : Config) (w : World) (d : Device)

theorem keepsBattery_init : KeepsBattery d (init cfg w d).1 := by
  have hboot : KeepsBattery d (diagOnBoot cfg w d) := .of_erase (erase_diagOnBoot cfg w d)
  unfold init
  cases w.prepareServer with
  | some err => exact ⟨rfl, rfl⟩
  | none =>
    dsimp only
    split_ifs
    · exact hboot
    · exact hboot
    · exact hboot
    · have hready : KeepsBattery (diagOnBoot cfg w d)
          { diagOnBoot cfg w d with sampler.mShtReady := w.shtReady } := ⟨rfl, rfl⟩
      exact (hboot.trans hready).trans (.of_erase (erase_diagInitWatchdog cfg w _))

theorem keepsBattery_startUp : KeepsBattery d (startUp cfg w d).1 := by
  have hinit := keepsBattery_init cfg w d
  unfold startUp
  cases hout : init cfg w d with
  | mk d₁ err =>
    rw [hout] at hinit
    cases err with
    | some err => exact hinit
    | none =>
      dsimp only
      split
      · exact hinit
      · exact hinit.trans ⟨rfl, rfl⟩

theorem keepsBattery_updateSensorReadings (force : Bool) :
    KeepsBattery d (updateSensorReadings cfg w force d).2 := by
  obtain ⟨-, hout⟩ | ⟨-, -, hout⟩ | ⟨-, -, hout⟩ := updateSensorReadings_step cfg w force d
  · rw [hout]
    exact ⟨rfl, rfl⟩
  · rw [hout]
    simp [KeepsBattery, diagOnSensorReadFailure]
  · rw [hout]
    exact ⟨rfl, rfl⟩

theorem keepsBattery_handleThreadStateChange (flags : UInt32) :
    KeepsBattery d (handleThreadStateChange cfg w flags d) := by
  have hrole : ∀ role, KeepsBattery d (trackRole cfg w role d) := by
    intro role
    unfold trackRole KeepsBattery diagOnThreadDetached diagOnThreadReattached
    split_ifs <;> simp
  unfold handleThreadStateChange
  cases w.threadInstance with
  | none => exact ⟨rfl, rfl⟩
  | some reply =>
    dsimp only
    split_ifs
    · exact hrole reply.role
    · exact ⟨rfl, rfl⟩
    · exact hrole reply.role
    · exact ⟨rfl, rfl⟩

theorem keepsBattery_policyStep : KeepsBattery d (policyStep cfg d w) := by
  have hpower : ∀ tx d, KeepsBattery d (applyThreadTxPower w tx d) := by
    intro tx d
    unfold applyThreadTxPower
    split_ifs <;> exact ⟨rfl, rfl⟩
  have hkick : ∀ hold d, KeepsBattery d (kickAwake w hold d) := by
    intro hold d
    unfold kickAwake
    split <;> exact ⟨rfl, rfl⟩
  let d₁ := handleThreadStateChange cfg w threadChangedMask d
  let d₂ : Device := { d₁ with awake := trackWindow w d₁.awake }
  have hwindow : KeepsBattery d d₂ :=
    (keepsBattery_handleThreadStateChange cfg w d threadChangedMask).trans ⟨rfl, rfl⟩
  have hkicked := (hwindow.trans (hpower (wantedTxPower cfg (holdActive w d₂.awake)) d₂)).trans
    (hkick (holdActive w d₂.awake) _)
  unfold policyStep updateCommissioningAwakePolicy
  dsimp only
  split
  · exact hkicked.trans ⟨rfl, rfl⟩
  · exact hkicked.trans (.of_erase (erase_snapshot cfg w _))

theorem keepsBattery_turn {l : Life} {t : Turn} (h : l.publishes t = false) :
    KeepsBattery l.device (turn cfg t w l).device := by
  have hstep := turn_step cfg w l t
  generalize (turn cfg t w l).device = d' at hstep ⊢
  cases hstep with
  | idle => exact ⟨rfl, rfl⟩
  | startUp => exact keepsBattery_startUp cfg w l.device
  | mainSample => exact keepsBattery_updateSensorReadings cfg w l.device true
  | mainPublish hmain => simp [Life.publishes, hmain] at h
  | mainSnapshot => exact .of_erase (erase_snapshot cfg w l.device)
  | mainFeed => exact .of_erase (erase_diagFeedWatchdog cfg w l.device)
  | sensorWork => exact keepsBattery_updateSensorReadings cfg w l.device false
  | policyWork => exact keepsBattery_policyStep cfg w l.device
  | matterPublish hrunning hmatter => simp [Life.publishes, hrunning, hmatter] at h
  | matterSnapshot => exact .of_erase (erase_snapshot cfg w l.device)
  | matterFeed => exact .of_erase (erase_diagFeedWatchdog cfg w l.device)

end Frame

/-! ## The publications alone -/

/-- After the publications `ws` the divider and the statics are what the first of them made of them.
-/
structure HoldsBattery (l : Life) (ws : List World) : Prop where
  fresh : ws = [] → l.device.sense = {} ∧ l.device.vbatEnable = none
  tracked : ∀ first, ws.head? = some first → BatteryTracked first l.device

theorem BatteryTracked.of_keeps {first : World} {d d' : Device} (h : BatteryTracked first d)
    (hkeeps : KeepsBattery d d') : BatteryTracked first d' :=
  ⟨hkeeps.1.trans h.sense, hkeeps.2.trans h.pin⟩

theorem keepsBattery_calls (w : World) (d : Device) (l : List Call) :
    KeepsBattery d (l.foldl (fun d c => d.call w c) d) := by
  induction l generalizing d with
  | nil => exact ⟨rfl, rfl⟩
  | cons c l ih =>
    have hcall : KeepsBattery d (d.call w c) := ⟨rfl, rfl⟩
    exact hcall.trans (ih (d.call w c))

/-- A publication reads the battery once. -/
theorem keepsBattery_afterReading (cfg : Config) (w : World) (d : Device) :
    KeepsBattery (batteryStep cfg (afterMeasuredSets w d) w) (updateMatterAttributes cfg w d) := by
  rw [updateMatterAttributes_eq]
  exact keepsBattery_calls w _ _

theorem publishing_alone (cfg : Config) :
    Alone publishingParty (lifeStep cfg) (fun ws w => ws ++ [w]) [] HoldsBattery where
  restart l e hreset := by
    cases e with
    | turn t w => cases hreset
    | reset causes => exact ⟨fun _ => ⟨rfl, rfl⟩, by simp⟩
    | cut t w calls cleared causes => exact ⟨fun _ => ⟨rfl, rfl⟩, by simp⟩
  take l ws e w hreset htake h := by
    cases e with
    | turn t w' =>
      simp only [publishingParty] at htake
      split_ifs at htake with hpublishes
      obtain rfl := Option.some.inj htake
      have hdevice : (lifeStep cfg l (.turn t w')).device =
        updateMatterAttributes cfg w' l.device := (turn_publishes cfg w' hpublishes).2
      have hread := keepsBattery_afterReading cfg w' l.device
      rw [← hdevice] at hread
      refine ⟨by simp, fun first hfirst => ?_⟩
      cases ws with
      | nil =>
        obtain ⟨hsense, hpin⟩ := h.fresh rfl
        obtain rfl : w' = first := by simpa using hfirst
        have hfirst : BatteryTracked w' (batteryStep cfg (afterMeasuredSets w' l.device) w') :=
          BatteryTracked.start cfg w' hsense hpin
        exact hfirst.of_keeps hread
      | cons x rest =>
        obtain rfl : x = first := by simpa using hfirst
        have hsets : BatteryTracked x (afterMeasuredSets w' l.device) :=
          (h.tracked x rfl).of_keeps ⟨rfl, rfl⟩
        exact (hsets.step cfg w').of_keeps hread
    | reset causes => cases hreset
    | cut t w' calls cleared causes => cases hreset
  leave l ws e hreset htake h := by
    cases e with
    | turn t w =>
      have hpublishes : l.publishes t = false := by
        simp only [publishingParty] at htake
        split_ifs at htake with hpublishes
        simpa using hpublishes
      have hkeeps : KeepsBattery l.device (lifeStep cfg l (.turn t w)).device :=
        keepsBattery_turn cfg w hpublishes
      refine ⟨fun hnone => ?_, fun first hfirst => (h.tracked first hfirst).of_keeps hkeeps⟩
      obtain ⟨hsense, hpin⟩ := h.fresh hnone
      exact ⟨hkeeps.1.trans hsense, hkeeps.2.trans hpin⟩
    | reset causes => cases hreset
    | cut t w calls cleared causes => cases hreset

theorem life_battery (cfg : Config) (store : Settings) (es : List LifeEvent) :
    HoldsBattery (life cfg store es) (publications cfg store es) := by
  have hstart : HoldsBattery (unborn store) [] := ⟨fun _ => ⟨rfl, rfl⟩, by simp⟩
  have h := (publishing_alone cfg).run hstart es
  rwa [run_snoc] at h

/-! ## What a publication reads -/

/-- The voltage that a publication after those of `ws` reads: the placeholder, unless the setup of
the first of them all succeeded and so do its own four samples. -/
def batteryVolts (ws : List World) (w : World) : ℚ :=
  if initSucceeds (ws.headD w) && !samplesFail w kBatterySampleCount 0 then
    (sampleSum w kBatterySampleCount 0 : ℚ) / 4 / 4095 * (36 / 10) * (151 / 51)
  else readBatteryVoltsPlaceholder

section Reading
variable {l : Life} {ws : List World} {w : World}

theorem HoldsBattery.init (h : HoldsBattery l ws) :
    (initBatterySense w l.device).1 = initSucceeds (ws.headD w) := by
  cases ws with
  | nil => exact (initBatterySense_first (h.fresh rfl).1).1
  | cons first rest =>
    have hsense := (h.tracked first rfl).sense
    rw [initBatterySense_again (by rw [hsense]), hsense]
    rfl

theorem HoldsBattery.initCalls (h : HoldsBattery l ws) (hws : ws ≠ []) :
    TinyEnvSensor.initCalls w l.device = [] := by
  obtain ⟨first, rest, rfl⟩ := List.exists_cons_of_ne_nil hws
  exact initCalls_again (by rw [(h.tracked first rfl).sense])

theorem HoldsBattery.volts (cfg : Config) (h : HoldsBattery l ws) :
    (readBatteryVolts cfg w l.device).1 = batteryVolts ws w := by
  have hinit := h.init (w := w)
  unfold batteryVolts
  cases hsetup : initSucceeds (ws.headD w) with
  | false =>
    rw [hsetup] at hinit
    rw [readBatteryVolts_of_failed cfg w _ hinit]
    rfl
  | true =>
    rw [hsetup] at hinit
    cases hfail : samplesFail w kBatterySampleCount 0 with
    | true => exact readBatteryVolts_of_readFailed cfg w _ hfail
    | false => exact readBatteryVolts_of_ok cfg w _ hinit hfail

/-- The device that a publication reads the battery of. -/
theorem HoldsBattery.afterSets (h : HoldsBattery l ws) (w : World) :
    HoldsBattery { l with device := afterMeasuredSets w l.device } ws :=
  ⟨h.fresh, fun first hfirst => (h.tracked first hfirst).of_keeps ⟨rfl, rfl⟩⟩

end Reading

/-- Calls that set the divider or the ADC up, read the ADC, or publish what was read. -/
def isBatteryCall : Call → Bool
  | .gpioPinConfigure _ => true
  | .gpioPinSet _ => true
  | .adcChannelSetup _ => true
  | .adcRead _ _ => true
  | .powerSourceSet _ _ => true
  | _ => false

/-- **The battery in every life.** Whichever thread publishes: voltage and percentage come from one
reading; it is the placeholder unless the setup at the first publication since the reset succeeded
and its own samples do; setup is tried at that publication only, and when it failed no later one
touches a pin. Between two turns the divider is off if its pin was configured in this boot, and
otherwise untouched. Nothing but a publication makes a call to the divider, the ADC or the power
source. -/
theorem battery_in_every_life (cfg : Config) (store : Settings) (es : List LifeEvent) :
    (∀ before t w after, es = before ++ .turn t w :: after →
      (life cfg store before).publishes t = true →
        ∃ temperature humidity battery,
          newCalls (life cfg store before).device (life cfg store (before ++ [.turn t w])).device =
            [.temperatureMeasuredValueSet temperature, .humidityMeasuredValueSet humidity] ++
              (battery ++ powerSourceCalls (batteryVolts (publications cfg store before) w)) ∧
          (publications cfg store before ≠ [] → ∀ c ∈ battery, isInitCall c = false) ∧
          (publications cfg store before ≠ [] →
            initSucceeds ((publications cfg store before).headD w) = false → battery = [])) ∧
    (life cfg store es).device.vbatEnable =
      ((publications cfg store es).head?.bind fun first =>
        if configuresPin first then some 1 else none) ∧
    (∀ ev ∈ (life cfg store es).device.trace, isBatteryCall ev.call = true →
      ∃ before e after t w, es = before ++ e :: after ∧ e.work = some (t, w) ∧
        (life cfg store before).publishes t = true ∧
        (isInitCall ev.call = true → publications cfg store before = [])) := by
  refine ⟨?_, ?_, ?_⟩
  · rintro before t w after rfl hpublishes
    have h := (life_battery cfg store before).afterSets w
    have hdevice : (life cfg store (before ++ [.turn t w])).device =
        updateMatterAttributes cfg w (life cfg store before).device := by
      rw [life_concat]
      exact (turn_publishes cfg w hpublishes).2
    have hcalls := newCalls_eq (updateMatterAttributes_trace cfg w (life cfg store before).device)
    have hvolts := h.volts cfg (w := w)
    rw [← hdevice, publishCalls, hvolts] at hcalls
    refine ⟨_, _, _, hcalls, fun hws c hc => ?_, fun hws hbad => ?_⟩
    · by_contra hinit
      have hmem := initCall_mem hc (by simpa using hinit)
      rw [h.initCalls hws] at hmem
      cases hmem
    · obtain ⟨-, -, hsetup⟩ := reading_without_setup (h.init.trans hbad)
      rw [hsetup]
      exact h.initCalls hws
  · have h := life_battery cfg store es
    cases hhead : (publications cfg store es).head? with
    | none => exact (h.fresh (List.head?_eq_none_iff.mp hhead)).2
    | some first => exact (h.tracked first hhead).pin
  · intro ev hev hbattery
    obtain ⟨before, e, after, t, w, evs, rfl, hwork, htrace, hmade⟩ := made_in_turn hev
    have howner : ev.call.owner = some .publishing := by
      obtain ⟨atMs, c⟩ := ev
      cases c <;> first | rfl | cases hbattery
    have hpublishes := publishes_of_owner htrace hmade howner
    refine ⟨before, e, after, t, w, rfl, hwork, hpublishes, fun hinit => ?_⟩
    have h := (life_battery cfg store before).afterSets w
    rw [(turn_publishes cfg w hpublishes).2, updateMatterAttributes_trace] at htrace
    obtain rfl := List.append_cancel_left htrace
    obtain ⟨c, hc, rfl⟩ := List.mem_map.mp hmade
    by_contra hws
    have hmem : c ∈ initCalls w (afterMeasuredSets w (life cfg store before).device) := by
      obtain hc | hc := List.mem_append.mp hc
      · simp only [List.mem_cons, List.not_mem_nil, or_false] at hc
        obtain rfl | rfl := hc <;> cases hinit
      · obtain hc | hc := List.mem_append.mp hc
        · exact initCall_mem hc hinit
        · simp only [powerSourceCalls, List.mem_cons, List.not_mem_nil, or_false] at hc
          obtain rfl | rfl | rfl | rfl | rfl | rfl := hc <;> cases hinit
    rw [h.initCalls hws] at hmem
    cases hmem

end TinyEnvSensor
