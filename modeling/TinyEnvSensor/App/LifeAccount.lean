import TinyEnvSensor.App.LifeCounters
import TinyEnvSensor.App.FlashBudget
import TinyEnvSensor.Foundations.Answers

/-! # Events and saves over a whole life

Every failed access of the sensor and every failed ADC read is answered by one save of its counter,
unless a reset comes in between. A reset is never counted twice: `DiagOnBoot` clears `RESETREAS`
before its first save. -/
namespace TinyEnvSensor
open History Journal Answers
set_option autoImplicit false

/-! ## The rows of calls -/

section Rows
variable (cfg : Config) (w : World) (d : Device)

def samplingCalls (force : Bool) : List Call :=
  if accessesSensor w force d.sampler then
    accessCalls w ++ if accessSucceeds w then [] else accessFailureCalls cfg w d
  else []

theorem updateSensorReadings_trace (force : Bool) :
    (updateSensorReadings cfg w force d).2.trace =
      d.trace ++ (samplingCalls cfg w d force).map (Event.mk w.uptimeMs) := by
  unfold samplingCalls
  cases updateSensorReadings_step cfg w force d with
  | idle haccess hout =>
    rw [hout, haccess]
    simp
  | failed haccess hfail hout =>
    rw [hout, haccess, hfail]
    cases hdiag : cfg.diagnosticMode <;>
      simp [diagOnSensorReadFailure, accessFailureCalls, hdiag]
  | done haccess hok hout =>
    rw [hout, haccess, hok]
    simp [sampled]

theorem answered_samplingCalls (hdiag : cfg.diagnosticMode = true) (force : Bool) :
    Answered isFailedAccess (isSaveOf .sensorFailureCount) (samplingCalls cfg w d force) := by
  have hpair : ∀ {c : Call} (value : UInt32) (rc : ℤ), isFailedAccess c = true →
      isSaveOf .sensorFailureCount c = false →
      Answered isFailedAccess (isSaveOf .sensorFailureCount)
        [c, .settingsSaveOne (diagKey .sensorFailureCount) value rc] := by
    intro c value rc hfailed hother
    exact answered_pair (l := []) ⟨hfailed, hother⟩ (by simp) ⟨rfl, by simp [isSaveOf]⟩
  have hok : ∀ l : List Call, (∀ c ∈ l, isFailedAccess c = false ∧
      isSaveOf .sensorFailureCount c = false) →
      Answered isFailedAccess (isSaveOf .sensorFailureCount) l := fun l => answered_of_neither
  unfold samplingCalls
  cases accessesSensor w force d.sampler with
  | false => exact answered_nil
  | true =>
    rw [if_pos rfl]
    by_cases hfetch : w.sensorSampleFetch = 0
    · by_cases htemp : w.temperatureGet = 0
      · by_cases hhum : w.humidityGet = 0
        · refine hok _ ?_
          simp [accessCalls, accessSucceeds, hfetch, htemp, hhum, isFailedAccess, isSaveOf]
        · have hcalls : accessCalls w ++ (if accessSucceeds w then [] else
              accessFailureCalls cfg w d) =
              [.sensorSampleFetch 0, .sensorChannelGet .ambientTemp 0] ++
                [.sensorChannelGet .humidity w.humidityGet,
                  .settingsSaveOne (diagKey .sensorFailureCount) (d.mDiag .sensorFailureCount + 1)
                    (w.settingsSaveOne (diagKey .sensorFailureCount))] := by
            simp [accessCalls, accessSucceeds, accessFailureCalls, hfetch, htemp, hhum, hdiag]
          rw [hcalls]
          refine (hok _ ?_).append (hpair _ _ (decide_eq_true hhum) rfl)
          simp [isFailedAccess, isSaveOf]
      · have hcalls : accessCalls w ++ (if accessSucceeds w then [] else
            accessFailureCalls cfg w d) =
            [.sensorSampleFetch 0] ++ [.sensorChannelGet .ambientTemp w.temperatureGet,
              .settingsSaveOne (diagKey .sensorFailureCount) (d.mDiag .sensorFailureCount + 1)
                (w.settingsSaveOne (diagKey .sensorFailureCount))] := by
          simp [accessCalls, accessSucceeds, accessFailureCalls, hfetch, htemp, hdiag]
        rw [hcalls]
        refine (hok _ ?_).append (hpair _ _ (decide_eq_true htemp) rfl)
        simp [isFailedAccess, isSaveOf]
    · have hcalls : accessCalls w ++ (if accessSucceeds w then [] else
          accessFailureCalls cfg w d) =
          [.sensorSampleFetch w.sensorSampleFetch,
            .settingsSaveOne (diagKey .sensorFailureCount) (d.mDiag .sensorFailureCount + 1)
              (w.settingsSaveOne (diagKey .sensorFailureCount))] := by
        simp [accessCalls, accessSucceeds, accessFailureCalls, hfetch, hdiag]
      rw [hcalls]
      exact hpair _ _ (decide_eq_true hfetch) rfl

theorem neither_initCalls : ∀ c ∈ initCalls w d,
    isFailedAdcRead c = false ∧ isSaveOf .adcFailureCount c = false := by
  unfold initCalls
  split_ifs <;> simp [isFailedAdcRead, isSaveOf]

/-- A row of samples that fails ends with the failed one. -/
theorem answered_sampleCalls (n i : ℕ) (value : UInt32) (rc : ℤ) :
    Answered isFailedAdcRead (isSaveOf .adcFailureCount)
      (sampleCalls w n i ++ .gpioPinSet 1 ::
        if samplesFail w n i then [.settingsSaveOne (diagKey .adcFailureCount) value rc]
        else []) := by
  induction n generalizing i with
  | zero =>
    refine answered_of_neither ?_
    simp [sampleCalls, samplesFail, isFailedAdcRead, isSaveOf]
  | succ n ih =>
    by_cases herr : (w.adcRead i).err = 0
    · have hrest := ih (i + 1)
      have hread : Answered isFailedAdcRead (isSaveOf .adcFailureCount)
          [.adcRead (w.adcRead i).err (w.adcRead i).raw] := by
        refine answered_of_neither ?_
        simp [isFailedAdcRead, isSaveOf, herr]
      have hboth := hread.append hrest
      simpa [sampleCalls, samplesFail, herr] using hboth
    · have hpair : Answered isFailedAdcRead (isSaveOf .adcFailureCount)
          (.adcRead (w.adcRead i).err (w.adcRead i).raw :: [.gpioPinSet 1] ++
            [.settingsSaveOne (diagKey .adcFailureCount) value rc]) :=
        answered_pair ⟨decide_eq_true herr, rfl⟩ (by simp [isFailedAdcRead, isSaveOf])
          ⟨rfl, by simp [isSaveOf]⟩
      simpa [sampleCalls, samplesFail, herr] using hpair

theorem answered_publishCalls (hdiag : cfg.diagnosticMode = true) :
    Answered isFailedAdcRead (isSaveOf .adcFailureCount) (publishCalls cfg w d) := by
  have hbattery : Answered isFailedAdcRead (isSaveOf .adcFailureCount)
      (batteryCalls cfg w (afterMeasuredSets w d)) := by
    unfold batteryCalls batteryFails
    refine (answered_of_neither (neither_initCalls w _)).append ?_
    cases (initBatterySense w (afterMeasuredSets w d)).1 with
    | false => exact answered_nil
    | true =>
      have hon : Answered isFailedAdcRead (isSaveOf .adcFailureCount) [.gpioPinSet 0] :=
        answered_of_neither (by simp [isFailedAdcRead, isSaveOf])
      rw [if_pos rfl, hdiag, Bool.true_and, Bool.and_true]
      exact hon.append (answered_sampleCalls w kBatterySampleCount 0 _ _)
  unfold publishCalls
  refine Answered.append (answered_of_neither ?_) (hbattery.append (answered_of_neither ?_))
  · simp [isFailedAdcRead, isSaveOf]
  · simp [powerSourceCalls, isFailedAdcRead, isSaveOf]

end Rows

/-! ## Turns -/

section Turns
variable {cfg : Config} {l : Life} {t : Turn} {w : World}

theorem neither_of_owners {o : Owner} {p q : Event → Bool} (ho : o ∉ l.owners t)
    (hkind : ∀ ev : Event, ev.call.owner ≠ some o → p ev = false ∧ q ev = false) :
    Answered p q (newEvents l.device (turn cfg t w l).device) := by
  obtain ⟨evs, htrace, -⟩ := turn_entries cfg l t w
  rw [newEvents_of_append htrace]
  exact answered_of_neither fun ev hev => hkind ev (calls_of_others ho htrace ev hev)

theorem sampling_turn (cfg : Config) (w : World) {l : Life} {t : Turn}
    (h : Owner.sampling ∈ l.owners t) :
    (∃ force, (turn cfg t w l).device = (updateSensorReadings cfg w force l.device).2) ∨
      (turn cfg t w l).device = l.device := by
  have hstep := turn_step cfg w l t
  generalize (turn cfg t w l).device = d' at hstep ⊢
  cases hstep with
  | idle => exact Or.inr rfl
  | mainSample => exact Or.inl ⟨true, rfl⟩
  | sensorWork => exact Or.inl ⟨false, rfl⟩
  | _ => simp_all [Life.owners]

theorem publishing_turn (cfg : Config) (w : World) {l : Life} {t : Turn}
    (h : Owner.publishing ∈ l.owners t) :
    (turn cfg t w l).device = updateMatterAttributes cfg w l.device ∨
      (turn cfg t w l).device = l.device := by
  have hstep := turn_step cfg w l t
  generalize (turn cfg t w l).device = d' at hstep ⊢
  cases hstep with
  | idle => exact Or.inr rfl
  | mainPublish => exact Or.inl rfl
  | matterPublish => exact Or.inl rfl
  | _ => simp_all [Life.owners]

theorem answered_of_calls {p q : Call → Bool} {d d' : Device} {calls : List Call} {atMs : ℤ}
    (h : Answered p q calls) (htrace : d'.trace = d.trace ++ calls.map (Event.mk atMs)) :
    Answered (fun ev : Event => p ev.call) (fun ev : Event => q ev.call) (newEvents d d') := by
  rw [newEvents_of_append htrace]
  exact Answered.map h

theorem answered_self {p q : Event → Bool} (d : Device) : Answered p q (newEvents d d) := by
  rw [newEvents_of_append (List.append_nil _).symm]
  exact answered_nil

theorem answered_access_turn (hdiag : cfg.diagnosticMode = true) (l : Life) (t : Turn) (w : World) :
    Answered (fun ev : Event => isFailedAccess ev.call)
      (Event.saves .sensorFailureCount)
      (newEvents l.device (turn cfg t w l).device) := by
  by_cases ho : Owner.sampling ∈ l.owners t
  · obtain ⟨force, hdevice⟩ | hdevice := sampling_turn cfg w ho
    · rw [hdevice]
      exact answered_of_calls (answered_samplingCalls cfg w l.device hdiag force)
        (updateSensorReadings_trace cfg w l.device force)
    · rw [hdevice]
      exact answered_self _
  · refine neither_of_owners ho ?_
    rintro ⟨atMs, c⟩ hne
    cases c with
    | settingsSaveOne key value rc =>
      refine ⟨rfl, decide_eq_false ?_⟩
      rintro rfl
      exact hne rfl
    | sensorSampleFetch rc => exact absurd rfl hne
    | sensorChannelGet chan rc => exact absurd rfl hne
    | _ => exact ⟨rfl, rfl⟩

theorem answered_adc_turn (hdiag : cfg.diagnosticMode = true) (l : Life) (t : Turn) (w : World) :
    Answered (fun ev : Event => isFailedAdcRead ev.call)
      (Event.saves .adcFailureCount)
      (newEvents l.device (turn cfg t w l).device) := by
  by_cases ho : Owner.publishing ∈ l.owners t
  · obtain hdevice | hdevice := publishing_turn cfg w ho
    · rw [hdevice]
      exact answered_of_calls (answered_publishCalls cfg w l.device hdiag)
        (updateMatterAttributes_trace cfg w l.device)
    · rw [hdevice]
      exact answered_self _
  · refine neither_of_owners ho ?_
    rintro ⟨atMs, c⟩ hne
    cases c with
    | settingsSaveOne key value rc =>
      refine ⟨rfl, decide_eq_false ?_⟩
      rintro rfl
      exact hne rfl
    | adcRead err raw => exact absurd rfl hne
    | _ => exact ⟨rfl, rfl⟩

end Turns

/-! ## Questions and answers over a life -/

def LifeEvent.isCut : LifeEvent → Bool
  | .cut _ _ _ _ _ => true
  | _ => false

/-- Where every turn answers its questions, a life has an answer for each, but for one a cut. -/
theorem answers_life {cfg : Config} {store : Settings} {p q : Event → Bool}
    (h : ∀ l t w, Answered p q (newEvents l.device (turn cfg t w l).device))
    (es : List LifeEvent) :
    let trace := (life cfg store es).device.trace
    trace.countP q ≤ trace.countP p ∧
      trace.countP p ≤ trace.countP q + es.countP LifeEvent.isCut := by
  induction es using List.reverseRecOn with
  | nil => exact ⟨le_rfl, le_rfl⟩
  | append_singleton es e ih =>
    obtain ⟨hle, hlost⟩ := ih
    intro trace
    have hstep : trace = (lifeStep cfg (life cfg store es) e).device.trace :=
      congrArg (fun l : Life => l.device.trace) (life_concat cfg store es e)
    rw [List.countP_append, hstep]
    cases e with
    | turn t w =>
      obtain ⟨evs, htrace, -⟩ := turn_entries cfg (life cfg store es) t w
      have hanswered := h (life cfg store es) t w
      rw [newEvents_of_append htrace] at hanswered
      have hbalanced := hanswered.balanced
      simp only [lifeStep, htrace, List.countP_append, LifeEvent.isCut, List.countP_cons,
        List.countP_nil]
      omega
    | reset causes =>
      simp only [lifeStep, resetDevice, LifeEvent.isCut, List.countP_cons, List.countP_nil]
      omega
    | cut t w calls cleared causes =>
      obtain ⟨evs, htrace, -, -, hcut⟩ := turn_entries cfg (life cfg store es) t w
      have hanswered := h (life cfg store es) t w
      rw [newEvents_of_append htrace] at hanswered
      have hanswers := hanswered.answers_le calls
      have hquestions := hanswered.questions_le calls
      have htaken := (hcut calls cleared).1
      simp only [lifeStep, resetDevice, htaken, List.countP_append, LifeEvent.isCut,
        List.countP_cons, List.countP_nil]
      simp only [if_true]
      omega

/-- **A reset loses at most the failure it cuts off.** Over any life in diagnostic mode, the saves
of `sensor_failure_count` are as many as the failed accesses of the sensor, and those of
`adc_failure_count` as many as the failed ADC reads, short of at most one for each reset that came
in the middle of a turn. -/
theorem failures_are_saved (cfg : Config) (store : Settings) (es : List LifeEvent)
    (hdiag : cfg.diagnosticMode = true) :
    let trace := (life cfg store es).device.trace
    let cuts := es.countP LifeEvent.isCut
    (trace.countP (Event.saves .sensorFailureCount) ≤
        trace.countP (fun ev => isFailedAccess ev.call) ∧
      trace.countP (fun ev => isFailedAccess ev.call) ≤
        trace.countP (Event.saves .sensorFailureCount) + cuts) ∧
    (trace.countP (Event.saves .adcFailureCount) ≤
        trace.countP (fun ev => isFailedAdcRead ev.call) ∧
      trace.countP (fun ev => isFailedAdcRead ev.call) ≤
        trace.countP (Event.saves .adcFailureCount) + cuts) :=
  ⟨answers_life (answered_access_turn hdiag) es, answers_life (answered_adc_turn hdiag) es⟩

theorem failures_are_saved_but_one :
    let trace := (life diagConfig ∅ [.reset 1, .turn .main {},
      .cut .main { sensorSampleFetch := -5 } 1 false 1]).device.trace
    trace.countP (fun ev => isFailedAccess ev.call) ≤
      trace.countP (Event.saves .sensorFailureCount) + 1 :=
  (failures_are_saved diagConfig ∅ [.reset 1, .turn .main {},
    .cut .main { sensorSampleFetch := -5 } 1 false 1] rfl).1.2

/-! ## Resets -/

def hasDog (causes : UInt32) : Bool := decide (causes &&& NRF_POWER_RESETREAS_DOG_MASK ≠ 0)

theorem hasDog_or (a b : UInt32) : hasDog (a ||| b) = (hasDog a || hasDog b) := by
  have hand : (a ||| b) &&& NRF_POWER_RESETREAS_DOG_MASK =
      (a &&& NRF_POWER_RESETREAS_DOG_MASK) ||| (b &&& NRF_POWER_RESETREAS_DOG_MASK) := by
    rw [← UInt32.toBitVec_inj]
    simp only [UInt32.toBitVec_and, UInt32.toBitVec_or]
    exact BitVec.and_or_distrib_right
  unfold hasDog
  rw [hand, ← Bool.decide_or, decide_eq_decide, ne_eq, UInt32.or_eq_zero_iff, not_and_or]

def LifeEvent.isDogReset : LifeEvent → Bool
  | .turn _ _ => false
  | .reset causes => hasDog causes
  | .cut _ _ _ _ causes => hasDog causes

section StartUp
variable {cfg : Config} {w : World} {d : Device}

/-- After `DiagOnBoot` a start-up saves nothing. -/
theorem startUp_calls (hdiag : cfg.diagnosticMode = true) (hserver : w.prepareServer = none) :
    ∃ rest, (∀ c ∈ rest, isSave c = false) ∧ (startUp cfg w d).1.trace = d.trace ++
      (bootCalls w d.resetreas (loadDiag w d.settings) ++ rest).map (Event.mk w.uptimeMs) := by
  have hboot := diagOnBoot_trace cfg w d hdiag
  have hwatchdog : ∀ c ∈ wdtInitCalls cfg w, isSave c = false := by
    unfold wdtInitCalls
    split_ifs <;> simp [isSave]
  have hinit : ∃ rest, (∀ c ∈ rest, isSave c = false) ∧ (init cfg w d).1.trace = d.trace ++
      (bootCalls w d.resetreas (loadDiag w d.settings) ++ rest).map (Event.mk w.uptimeMs) := by
    simp only [init, hserver]
    split_ifs
    · exact ⟨[], by simp, by rw [hboot, List.append_nil]⟩
    · exact ⟨[], by simp, by rw [hboot, List.append_nil]⟩
    · exact ⟨[], by simp, by rw [hboot, List.append_nil]⟩
    · refine ⟨wdtInitCalls cfg w, hwatchdog, ?_⟩
      rw [diagInitWatchdog_trace]
      simp only [hboot, List.map_append, List.append_assoc]
  obtain ⟨rest, hrest, htrace⟩ := hinit
  unfold startUp
  cases hout : init cfg w d with
  | mk d₁ err =>
    rw [hout] at htrace
    cases err with
    | some err => exact ⟨rest, hrest, htrace⟩
    | none =>
      dsimp only
      split
      · exact ⟨rest, hrest, htrace⟩
      · refine ⟨rest ++ [.temperatureMinMeasuredValueSet kSht4xMinCentiDegC,
          .temperatureMaxMeasuredValueSet kSht4xMaxCentiDegC], ?_, ?_⟩
        · intro c hc
          obtain hc | hc := List.mem_append.mp hc
          · exact hrest c hc
          · simp only [List.mem_cons, List.not_mem_nil, or_false] at hc
            obtain rfl | rfl := hc <;> rfl
        · have htrace' : d₁.trace = _ := htrace
          rw [call_trace, call_trace, htrace']
          simp

theorem startUp_of_error {err : ChipError} (hserver : w.prepareServer = some err) :
    startUp cfg w d = (d, some err) := by
  simp [startUp, init, hserver]

theorem countP_bootCalls (r : UInt32) (loaded : DiagField → UInt32) (rest : List Call)
    (hrest : ∀ c ∈ rest, isSave c = false) :
    (bootCalls w r loaded ++ rest).countP (isSaveOf .bootCount) = 1 ∧
      (bootCalls w r loaded ++ rest).countP (isSaveOf .wdtResetCount) = (hasDog r).toNat := by
  have hnone : ∀ f, rest.countP (isSaveOf f) = 0 := by
    intro f
    rw [List.countP_eq_zero]
    intro c hc hsave
    have hother := hrest c hc
    cases c with
    | settingsSaveOne key value rc => cases hother
    | _ => cases hsave
  unfold bootCalls hasDog
  by_cases hdog : r &&& NRF_POWER_RESETREAS_DOG_MASK ≠ 0
  · simp only [if_pos hdog, List.countP_append, hnone, decide_eq_true hdog]
    exact ⟨rfl, rfl⟩
  · simp only [if_neg hdog, List.countP_append, hnone, decide_eq_false hdog]
    exact ⟨rfl, rfl⟩

end StartUp

theorem replay_resetreas (r : Records) (evs : List Event) :
    (replay deviceReader r evs).resetreas = r.resetreas := by
  refine replay_kept Records.resetreas (fun r ev _ => ?_) r
  obtain ⟨atMs, c⟩ := ev
  cases c <;> rfl

theorem startUp_turn {cfg : Config} {l : Life} {w : World} (hmain : l.main = .startApp) :
    (turn cfg .main w l).device = (startUp cfg w l.device).1 := by
  simp only [turn, mainTurn, hmain]
  split <;> simp_all

/-- What a start-up that gets to `DiagOnBoot` saves of the counters of resets. -/
theorem startUp_saves {cfg : Config} {l : Life} {w : World} {evs : List Event}
    (hdiag : cfg.diagnosticMode = true) (hserver : w.prepareServer = none)
    (hmain : l.main = .startApp)
    (htrace : (turn cfg .main w l).device.trace = l.device.trace ++ evs) :
    evs.countP (Event.saves .bootCount) = 1 ∧
      evs.countP (Event.saves .wdtResetCount) = (hasDog l.device.resetreas).toNat := by
  obtain ⟨rest, hrest, hcalls⟩ := startUp_calls (d := l.device) hdiag hserver
  rw [← startUp_turn hmain] at hcalls
  have hevs : evs = (bootCalls w l.device.resetreas (loadDiag w l.device.settings) ++
      rest).map (Event.mk w.uptimeMs) := List.append_cancel_left (htrace.symm.trans hcalls)
  have hcount : ∀ f, evs.countP (Event.saves f) =
      (bootCalls w l.device.resetreas (loadDiag w l.device.settings) ++ rest).countP
        (isSaveOf f) := by
    intro f
    rw [hevs, List.countP_map]
    rfl
  rw [hcount, hcount]
  exact countP_bootCalls l.device.resetreas (loadDiag w l.device.settings) rest hrest

/-- Only the turn that runs `DiagOnBoot` saves the counters of resets, and it clears `RESETREAS`. -/
theorem reset_saves {cfg : Config} {l : Life} {t : Turn} {w : World} {evs : List Event}
    (hdiag : cfg.diagnosticMode = true)
    (htrace : (turn cfg t w l).device.trace = l.device.trace ++ evs) :
    (evs.countP (Event.saves .bootCount) = 0 ∧ evs.countP (Event.saves .wdtResetCount) = 0 ∧
        (turn cfg t w l).device.resetreas = l.device.resetreas) ∨
      (t = .main ∧ l.main = .startApp ∧ evs.countP (Event.saves .bootCount) = 1 ∧
        evs.countP (Event.saves .wdtResetCount) = (hasDog l.device.resetreas).toNat ∧
        (turn cfg t w l).device.resetreas = 0) := by
  by_cases hstart : t = .main ∧ l.main = .startApp
  · obtain ⟨rfl, hmain⟩ := hstart
    have hdevice : (turn cfg .main w l).device = (startUp cfg w l.device).1 := startUp_turn hmain
    cases hserver : w.prepareServer with
    | some err =>
      rw [startUp_of_error hserver] at hdevice
      have hnone : evs = [] := by
        rw [hdevice] at htrace
        exact List.self_eq_append_right.mp htrace
      exact Or.inl ⟨by rw [hnone]; rfl, by rw [hnone]; rfl, by rw [hdevice]⟩
    | none =>
      obtain ⟨hboot, hdog⟩ := startUp_saves hdiag hserver hmain htrace
      refine Or.inr ⟨rfl, hmain, hboot, hdog, ?_⟩
      obtain ⟨_, -, -, hrecords⟩ := does_turn cfg w l .main
      have hreg : (turn cfg .main w l).device.resetreas = (l.begins cfg w .main).resetreas :=
        (congrArg Records.resetreas hrecords).trans (replay_resetreas _ _)
      rw [hreg]
      simp [Life.begins, hmain, loadedBoot, hdiag, hserver, loadedDevice]
  · have hbegins : l.begins cfg w t = l.device := by
      cases t with
      | main => exact if_neg fun h => hstart ⟨rfl, h⟩
      | _ => rfl
    have ho : Owner.startUp ∉ l.owners t := by
      cases t with
      | main => cases hmain : l.main <;> simp_all [Life.owners]
      | sensorWork => simp [Life.owners]
      | policyWork => simp [Life.owners]
      | matter => cases hmatter : l.matter <;> simp [Life.owners, hmatter]
    have hothers := calls_of_others ho htrace
    have hcount : ∀ f, (∀ value rc, (Call.settingsSaveOne (diagKey f) value rc).owner =
        some .startUp) → evs.countP (Event.saves f) = 0 := by
      intro f howner
      rw [List.countP_eq_zero]
      rintro ⟨atMs, c⟩ hev hsave
      cases c with
      | settingsSaveOne key value rc =>
        obtain rfl : key = diagKey f := of_decide_eq_true hsave
        exact hothers _ hev (howner value rc)
      | _ => cases hsave
    obtain ⟨_, -, -, hrecords⟩ := does_turn cfg w l t
    refine Or.inl ⟨hcount _ fun _ _ => rfl, hcount _ fun _ _ => rfl, ?_⟩
    rw [hbegins] at hrecords
    exact (congrArg Records.resetreas hrecords).trans (replay_resetreas _ _)

def Life.awaitsBoot (l : Life) : Bool := decide (l.main = .startApp)

/-- The saves of the counters of resets, and the reset still to be counted, are no more than the
resets so far. -/
structure ResetsCounted (es : List LifeEvent) (l : Life) : Prop where
  boots : l.device.trace.countP (Event.saves .bootCount) + l.awaitsBoot.toNat ≤
    es.countP LifeEvent.isReset
  dogs : l.device.trace.countP (Event.saves .wdtResetCount) + (hasDog l.device.resetreas).toNat ≤
    es.countP LifeEvent.isDogReset

theorem toNat_hasDog_or (a b : UInt32) :
    (hasDog (a ||| b)).toNat ≤ (hasDog a).toNat + (hasDog b).toNat := by
  rw [hasDog_or]
  cases hasDog a <;> cases hasDog b <;> decide

theorem countP_dogReset (e : LifeEvent) :
    [e].countP LifeEvent.isDogReset = e.isDogReset.toNat := by
  cases h : e.isDogReset <;> simp [h]

section Resets
variable {cfg : Config} {es : List LifeEvent} {l : Life}

theorem ResetsCounted.turn (h : ResetsCounted es l) (t : Turn) (w : World)
    (hdiag : cfg.diagnosticMode = true) :
    ResetsCounted (es ++ [.turn t w]) (lifeStep cfg l (.turn t w)) := by
  obtain ⟨hboots, hdogs⟩ := h
  obtain ⟨evs, htrace, -⟩ := turn_entries cfg l t w
  have hawaits : (TinyEnvSensor.turn cfg t w l).awaitsBoot.toNat ≤ l.awaitsBoot.toNat := by
    by_cases hmain : l.main = .startApp
    · have hl : l.awaitsBoot = true := decide_eq_true hmain
      rw [hl]
      exact Bool.toNat_le _
    · have hnot : (TinyEnvSensor.turn cfg t w l).awaitsBoot = false :=
        decide_eq_false (turn_main cfg w l (Or.inr hmain))
      rw [hnot]
      exact Nat.zero_le _
  have hreset : (es ++ [LifeEvent.turn t w]).countP LifeEvent.isReset =
      es.countP LifeEvent.isReset := by
    simp [LifeEvent.isReset]
  have hdogReset : (es ++ [LifeEvent.turn t w]).countP LifeEvent.isDogReset =
      es.countP LifeEvent.isDogReset := by
    simp [LifeEvent.isDogReset]
  have hstep : lifeStep cfg l (.turn t w) = TinyEnvSensor.turn cfg t w l := rfl
  constructor
  · rw [hreset, hstep, htrace, List.countP_append]
    obtain ⟨hboot, -, -⟩ | ⟨rfl, hmain, hboot, -, -⟩ := reset_saves hdiag htrace
    · omega
    · have hl : l.awaitsBoot = true := decide_eq_true hmain
      have hnot : (TinyEnvSensor.turn cfg .main w l).awaitsBoot = false :=
        decide_eq_false (turn_main cfg w l (Or.inl rfl))
      rw [hl, Bool.toNat_true] at hboots
      rw [hnot, Bool.toNat_false]
      omega
  · rw [hdogReset, hstep, htrace, List.countP_append]
    obtain ⟨-, hdog, hreg⟩ | ⟨rfl, -, -, hdog, hreg⟩ := reset_saves hdiag htrace
    · rw [hdog, hreg]
      omega
    · have hclear : (hasDog 0).toNat = 0 := rfl
      rw [hdog, hreg, hclear]
      omega

theorem ResetsCounted.cut (h : ResetsCounted es l) (t : Turn) (w : World) (calls : ℕ)
    (cleared : Bool) (causes : UInt32) (hdiag : cfg.diagnosticMode = true) :
    ResetsCounted (es ++ [.cut t w calls cleared causes])
      (lifeStep cfg l (.cut t w calls cleared causes)) := by
  obtain ⟨hboots, hdogs⟩ := h
  obtain ⟨evs, htrace, -, -, hcut⟩ := turn_entries cfg l t w
  have htaken : (lifeStep cfg l (.cut t w calls cleared causes)).device.trace =
      l.device.trace ++ evs.take calls := (hcut calls cleared).1
  have hle : ∀ f, (evs.take calls).countP (Event.saves f) ≤ evs.countP (Event.saves f) :=
    fun f => (List.take_sublist calls evs).countP_le
  have hreset : (es ++ [LifeEvent.cut t w calls cleared causes]).countP LifeEvent.isReset =
      es.countP LifeEvent.isReset + 1 := by
    simp [LifeEvent.isReset]
  constructor
  · have hawaits : (lifeStep cfg l (.cut t w calls cleared causes)).awaitsBoot = true := rfl
    have hboot := hle .bootCount
    rw [hreset, htaken, hawaits, List.countP_append, Bool.toNat_true]
    obtain ⟨hnone, -, -⟩ | ⟨rfl, hmain, hone, -, -⟩ := reset_saves hdiag htrace
    · omega
    · have hl : l.awaitsBoot = true := decide_eq_true hmain
      rw [hl, Bool.toNat_true] at hboots
      omega
  · have hreg : (lifeStep cfg l (.cut t w calls cleared causes)).device.resetreas =
        (if cleared || decide (0 < calls) then (TinyEnvSensor.turn cfg t w l).device.resetreas
          else l.device.resetreas) ||| causes := rfl
    have hdog := hle .wdtResetCount
    have hsplit := toNat_hasDog_or
      (if cleared || decide (0 < calls) then (TinyEnvSensor.turn cfg t w l).device.resetreas
        else l.device.resetreas) causes
    have hcauses : LifeEvent.isDogReset (.cut t w calls cleared causes) = hasDog causes := rfl
    rw [List.countP_append, countP_dogReset, hcauses, htaken, hreg, List.countP_append]
    obtain ⟨-, hnone, hsame⟩ | ⟨-, -, -, hone, hclear⟩ := reset_saves hdiag htrace
    · rw [hsame, ite_self] at hsplit ⊢
      omega
    · rw [hclear] at hsplit ⊢
      by_cases hsaved : (cleared || decide (0 < calls)) = true
      · have hzero : (hasDog 0).toNat = 0 := rfl
        rw [if_pos hsaved] at hsplit ⊢
        omega
      · -- no call made and the register not cleared: the reset is still to be counted
        have hcalls : calls = 0 := by
          rw [Bool.or_eq_true, not_or, decide_eq_true_eq] at hsaved
          omega
        rw [hcalls] at hsplit hsaved ⊢
        rw [if_neg hsaved] at hsplit ⊢
        simp only [List.take_zero, List.countP_nil]
        omega

theorem resetsCounted_life (store : Settings) (hdiag : cfg.diagnosticMode = true)
    (es : List LifeEvent) : ResetsCounted es (life cfg store es) := by
  induction es using List.reverseRecOn with
  | nil =>
    have hreg : (life cfg store []).device.resetreas = 0 := rfl
    have hclear : (hasDog 0).toNat = 0 := rfl
    refine ⟨le_rfl, ?_⟩
    rw [hreg, hclear]
    exact le_rfl
  | append_singleton es e ih =>
    rw [life_concat]
    cases e with
    | turn t w => exact ih.turn t w hdiag
    | reset causes =>
      obtain ⟨hboots, hdogs⟩ := ih
      have hsplit := toNat_hasDog_or (life cfg store es).device.resetreas causes
      constructor
      · have hreset : (es ++ [LifeEvent.reset causes]).countP LifeEvent.isReset =
            es.countP LifeEvent.isReset + 1 := by
          simp [LifeEvent.isReset]
        have hawaits := Bool.toNat_le
          (lifeStep cfg (life cfg store es) (.reset causes)).awaitsBoot
        rw [hreset]
        exact (Nat.add_le_add_left hawaits _).trans
          (Nat.add_le_add_right ((Nat.le_add_right _ _).trans hboots) 1)
      · have htrace : (lifeStep cfg (life cfg store es) (.reset causes)).device.trace =
            (life cfg store es).device.trace := rfl
        have hreg : (lifeStep cfg (life cfg store es) (.reset causes)).device.resetreas =
            (life cfg store es).device.resetreas ||| causes := rfl
        have hcauses : LifeEvent.isDogReset (.reset causes) = hasDog causes := rfl
        rw [List.countP_append, countP_dogReset, hcauses, htrace, hreg]
        omega
    | cut t w calls cleared causes => exact ih.cut t w calls cleared causes hdiag

end Resets

/-- **No reset is counted twice.** Over any life in diagnostic mode, resets in the middle of
`DiagOnBoot` included: `boot_count` is saved at most once for each reset, and `wdt_reset_count` at
most once for each reset of the watchdog. -/
theorem resets_counted_once (cfg : Config) (store : Settings) (es : List LifeEvent)
    (hdiag : cfg.diagnosticMode = true) :
    let trace := (life cfg store es).device.trace
    trace.countP (Event.saves .bootCount) ≤ es.countP LifeEvent.isReset ∧
      trace.countP (Event.saves .wdtResetCount) ≤ es.countP LifeEvent.isDogReset := by
  have h := resetsCounted_life store hdiag es
  exact ⟨(Nat.le_add_right _ _).trans h.boots, (Nat.le_add_right _ _).trans h.dogs⟩

theorem resets_counted_once_over_a_cut_boot :
    (life diagConfig ∅ [.reset 2, .cut .main {} 1 true 2, .turn .main {}]).device.trace.countP
      (Event.saves .wdtResetCount) ≤
        [LifeEvent.reset 2, .cut .main {} 1 true 2, .turn .main {}].countP LifeEvent.isDogReset :=
  (resets_counted_once diagConfig ∅ [.reset 2, .cut .main {} 1 true 2, .turn .main {}] rfl).2

end TinyEnvSensor
