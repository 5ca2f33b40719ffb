import TinyEnvSensor.App.LifeParties
import TinyEnvSensor.App.SamplingMeaning

/-! # What a life publishes

Both threads sample into the same two members and publish from them. Between the sample of one
thread and its publication the other may have sampled too, so what is published is the last sample
of the boot, whoever took it. -/
namespace TinyEnvSensor
open History Interleaving
set_option autoImplicit false

/-- The calls of `UpdateSensorReadings` that return `true`. -/
def sampleParty (cfg : Config) : Party Life LifeEvent World where
  takes l e :=
    (samplingParty.takes l e).bind fun c =>
      if (updateSensorReadings cfg c.w c.force l.device).1 then some c.w else none
  restarts := LifeEvent.isReset

def samples (cfg : Config) (store : Settings) (es : List LifeEvent) : List World :=
  (sampleParty cfg).inbox (lifeStep cfg) (unborn store) es

/-- The turn publishes a sample. -/
def Life.publishes (l : Life) : Turn → Bool
  | .main => l.main == .publish
  | .matter => l.running && l.matter == .publish
  | _ => false

/-! ## The sample in the members -/

def Sampler.current (s : Sampler) : Int16 × UInt16 := (s.mCurrentTemperature, s.mCurrentHumidity)

/-- After the samples `ws` the members hold the last one; who is about to publish has sampled. -/
structure HoldsLast (l : Life) (ws : List World) : Prop where
  current : l.device.sampler.current =
    (ws.getLast?.map fun w => (sampledTemperature w, sampledHumidity w)).getD (0, 0)
  complete : ∀ w ∈ ws, accessSucceeds w = true
  pending : l.main = .publish ∨ l.matter = .publish → ws ≠ []

section Step
variable {cfg : Config} {l : Life}

theorem updateSensorReadings_current (cfg : Config) (w : World) (force : Bool) (d : Device) :
    ((updateSensorReadings cfg w force d).1 = true ∧ accessSucceeds w = true ∧
        (updateSensorReadings cfg w force d).2.sampler.current =
          (sampledTemperature w, sampledHumidity w)) ∨
      ((updateSensorReadings cfg w force d).1 = false ∧
        (updateSensorReadings cfg w force d).2.sampler.current = d.sampler.current) := by
  obtain ⟨-, htemperature, hhumidity⟩ := noteCommissioned_rest w d.sampler
  obtain ⟨-, hout⟩ | ⟨-, -, hout⟩ | ⟨-, hok, hout⟩ := updateSensorReadings_step cfg w force d
  · rw [hout]
    exact Or.inr ⟨rfl, Prod.ext htemperature hhumidity⟩
  · rw [hout]
    refine Or.inr ⟨rfl, ?_⟩
    simp [diagOnSensorReadFailure, Sampler.current, htemperature, hhumidity]
  · rw [hout]
    exact Or.inl ⟨rfl, hok, rfl⟩

/-- A thread comes to publish by a sample that succeeded. -/
theorem publish_of_turn {t : Turn} {w : World}
    (h : (turn cfg t w l).main = .publish ∨ (turn cfg t w l).matter = .publish) :
    (l.main = .publish ∨ l.matter = .publish) ∨
      ∃ x, (sampleParty cfg).takes l (.turn t w) = some x := by
  cases t with
  | main =>
    simp only [turn, mainTurn] at h
    cases hmain : l.main with
    | startApp =>
      simp only [hmain] at h
      split at h <;> simp_all
    | sample =>
      simp only [hmain] at h
      split at h
      · rename_i d hout
        exact Or.inr ⟨w, by simp [sampleParty, samplingParty, hmain, hout]⟩
      · simp_all
    | publish => exact Or.inl (Or.inl rfl)
    | snapshot => simp_all
    | loop => simp_all
    | exited => simp_all
  | sensorWork =>
    simp only [turn] at h
    split at h
    · rename_i hrunning
      unfold sensorWorkTurn at h
      cases hmatter : l.matter with
      | idle =>
        simp only [hmatter] at h
        split at h
        · rename_i d hout
          refine Or.inr ⟨w, ?_⟩
          simp [sampleParty, samplingParty, Life.takesWork, hrunning, hmatter, hout]
        · simp_all
      | _ => simp_all
    · exact Or.inl h
  | policyWork =>
    simp only [turn] at h
    split at h
    · unfold policyWorkTurn at h
      cases hmatter : l.matter with
      | idle =>
        simp only [hmatter] at h
        split at h <;> simp_all
      | _ => simp_all
    · exact Or.inl h
  | matter =>
    simp only [turn] at h
    split at h
    · unfold matterTurn at h
      cases hmatter : l.matter <;> simp_all
    · exact Or.inl h

theorem holdsLast_alone (cfg : Config) :
    Alone (sampleParty cfg) (lifeStep cfg) (fun ws w => ws ++ [w]) [] HoldsLast where
  restart l e hreset := by
    cases e with
    | turn t w => cases hreset
    | reset causes => exact ⟨rfl, by simp, by simp [lifeStep]⟩
    | cut t w calls cleared causes => exact ⟨rfl, by simp, by simp [lifeStep]⟩
  take l ws e x hreset htake h := by
    cases e with
    | turn t w =>
      obtain ⟨c, hcall, hx⟩ := Option.bind_eq_some_iff.mp htake
      split_ifs at hx with hdone
      obtain rfl := Option.some.inj hx
      have hdevice : (lifeStep cfg l (.turn t w)).device = sampleStep cfg l.device c :=
        (turn_sample cfg w l hcall).2
      obtain ⟨-, hok, hcurrent⟩ | ⟨hnot, -⟩ :=
        updateSensorReadings_current cfg c.w c.force l.device
      · refine ⟨?_, ?_, fun _ => by simp⟩
        · rw [hdevice, sampleStep, hcurrent]
          simp
        · intro w hw
          obtain hw | hw := List.mem_append.mp hw
          · exact h.complete w hw
          · rw [List.mem_singleton.mp hw]
            exact hok
      · rw [hnot] at hdone
        cases hdone
    | reset causes => cases hreset
    | cut t w calls cleared causes => cases hreset
  leave l ws e hreset htake h := by
    cases e with
    | turn t w =>
      have hcurrent : (lifeStep cfg l (.turn t w)).device.sampler.current =
          l.device.sampler.current := by
        cases hcall : samplingParty.takes l (.turn t w) with
        | none =>
          have hkeeps : (turn cfg t w l).device.sampler = _ := keepsSamples_turn cfg w l hcall
          have hcurrent := congrArg Sampler.current hkeeps
          exact hcurrent
        | some c =>
          have hdevice : (lifeStep cfg l (.turn t w)).device = sampleStep cfg l.device c :=
            (turn_sample cfg w l hcall).2
          rw [hdevice]
          obtain ⟨hdone, -⟩ | ⟨-, hsame⟩ := updateSensorReadings_current cfg c.w c.force l.device
          · simp [sampleParty, hcall, hdone] at htake
          · exact hsame
      refine ⟨hcurrent.trans h.current, h.complete, fun hpublish => ?_⟩
      obtain hpublish | ⟨x, hx⟩ := publish_of_turn hpublish
      · exact h.pending hpublish
      · rw [htake] at hx
        cases hx
    | reset causes => cases hreset
    | cut t w calls cleared causes => cases hreset

end Step

theorem run_snoc {α : Type*} (l : List α) : run (fun ws w => ws ++ [w]) [] l = l := by
  induction l using List.reverseRecOn with
  | nil => rfl
  | append_singleton l a ih => rw [run_concat, ih]

theorem life_samples (cfg : Config) (store : Settings) (es : List LifeEvent) :
    HoldsLast (life cfg store es) (samples cfg store es) := by
  have h := (holdsLast_alone cfg).run (s := unborn store) ⟨rfl, by simp, by simp [unborn]⟩ es
  rwa [run_snoc] at h

/-! ## Publications -/

theorem measuredSet_of_publishCalls {cfg : Config} {w : World} {d : Device} {c : Call}
    (hc : c ∈ publishCalls cfg w d) (hset : isMeasuredSet c = true) :
    c = .temperatureMeasuredValueSet d.sampler.mCurrentTemperature ∨
      c = .humidityMeasuredValueSet d.sampler.mCurrentHumidity := by
  have hpower : ∀ vbat, Quiet (powerSourceCalls vbat) := by
    simp [Quiet, powerSourceCalls, isMeasuredSet, isFetch]
  have hquiet := (quiet_batteryCalls cfg w (afterMeasuredSets w d)).append
    (hpower (readBatteryVolts cfg w (afterMeasuredSets w d)).1)
  obtain hc | hc := List.mem_append.mp hc
  · simpa using hc
  · rw [(hquiet c hc).1] at hset
    cases hset

theorem turn_publishes (cfg : Config) {l : Life} {t : Turn} (w : World)
    (h : l.publishes t = true) :
    (l.main = .publish ∨ l.matter = .publish) ∧
      (turn cfg t w l).device = updateMatterAttributes cfg w l.device := by
  cases t with
  | main =>
    have hmain : l.main = .publish := by simpa [Life.publishes] using h
    exact ⟨Or.inl hmain, by simp [turn, mainTurn, hmain]⟩
  | matter =>
    obtain ⟨hrunning, hmatter⟩ : l.running = true ∧ l.matter = .publish := by
      simpa [Life.publishes] using h
    exact ⟨Or.inr hmatter, by simp [turn, hrunning, matterTurn, hmatter]⟩
  | sensorWork => cases h
  | policyWork => cases h

/-- What belongs to publishing is called in a turn that publishes only. -/
theorem publishes_of_owner {cfg : Config} {l : Life} {t : Turn} {w : World} {evs : List Event}
    (htrace : (turn cfg t w l).device.trace = l.device.trace ++ evs) {ev : Event} (hev : ev ∈ evs)
    (howner : ev.call.owner = some .publishing) : l.publishes t = true := by
  obtain ⟨hown, hmoved⟩ := owner_of_call htrace hev howner
  have hstep := turn_step cfg w l t
  generalize (turn cfg t w l).device = d' at hstep hmoved
  cases hstep with
  | idle => exact absurd rfl hmoved
  | mainPublish hmain => simp [Life.publishes, hmain]
  | matterPublish hrunning hmatter => simp [Life.publishes, hrunning, hmatter]
  | _ => simp_all [Life.owners]

theorem owner_of_measuredSet {c : Call} (hset : isMeasuredSet c = true) :
    c.owner = some .publishing := by
  cases c <;> first | rfl | cases hset

/-- **What is published is the last sample of the boot.** In any order of the threads, a turn that
publishes hands the two values of one sample to the two setters: that of the last call of
`UpdateSensorReadings` since the reset that returned `true`, in which every access had succeeded.
And no setter is ever called but in such a turn with such a value. -/
theorem published_is_last_sample (cfg : Config) (store : Settings) (es : List LifeEvent) :
    (∀ before t x after, es = before ++ .turn t x :: after →
      (life cfg store before).publishes t = true →
        ∃ w rest, (samples cfg store before).getLast? = some w ∧ accessSucceeds w = true ∧
          newCalls (life cfg store before).device
              (life cfg store (before ++ [.turn t x])).device =
            .temperatureMeasuredValueSet (sampledTemperature w) ::
              .humidityMeasuredValueSet (sampledHumidity w) :: rest) ∧
    (∀ ev ∈ (life cfg store es).device.trace, isMeasuredSet ev.call = true →
      ∃ before e after t x w, es = before ++ e :: after ∧ e.work = some (t, x) ∧
        (life cfg store before).publishes t = true ∧
        (samples cfg store before).getLast? = some w ∧
          (ev.call = .temperatureMeasuredValueSet (sampledTemperature w) ∨
            ev.call = .humidityMeasuredValueSet (sampledHumidity w))) := by
  have hlast : ∀ before t x, (life cfg store before).publishes t = true →
      ∃ w, (samples cfg store before).getLast? = some w ∧ accessSucceeds w = true ∧
        (life cfg store before).device.sampler.mCurrentTemperature = sampledTemperature w ∧
        (life cfg store before).device.sampler.mCurrentHumidity = sampledHumidity w ∧
        (turn cfg t x (life cfg store before)).device =
          updateMatterAttributes cfg x (life cfg store before).device := by
    intro before t x hpublishes
    have h := life_samples cfg store before
    obtain ⟨hpending, hdevice⟩ := turn_publishes cfg x hpublishes
    obtain ⟨w, hw⟩ := Option.isSome_iff_exists.mp
      (List.getLast?_isSome.mpr (h.pending hpending))
    have hcurrent := h.current
    rw [hw] at hcurrent
    exact ⟨w, hw, h.complete w (List.mem_of_getLast? hw), congrArg Prod.fst hcurrent,
      congrArg Prod.snd hcurrent, hdevice⟩
  constructor
  · rintro before t x after rfl hpublishes
    obtain ⟨w, hw, hok, htemperature, hhumidity, hdevice⟩ := hlast before t x hpublishes
    have htrace := updateMatterAttributes_trace cfg x (life cfg store before).device
    have hstep : (lifeStep cfg (life cfg store before) (.turn t x)).device =
      updateMatterAttributes cfg x (life cfg store before).device := hdevice
    have hcalls := newCalls_eq htrace
    rw [publishCalls, htemperature, hhumidity] at hcalls
    rw [life_concat, hstep]
    exact ⟨w, _, hw, hok, hcalls⟩
  · intro ev hev hset
    obtain ⟨before, e, after, t, x, evs, rfl, hwork, htrace, hmade⟩ := made_in_turn hev
    have hpublishes := publishes_of_owner htrace hmade (owner_of_measuredSet hset)
    obtain ⟨w, hw, -, htemperature, hhumidity, hdevice⟩ := hlast before t x hpublishes
    refine ⟨before, e, after, t, x, w, rfl, hwork, hpublishes, hw, ?_⟩
    rw [hdevice, updateMatterAttributes_trace] at htrace
    obtain rfl := List.append_cancel_left htrace
    obtain ⟨c, hc, rfl⟩ := List.mem_map.mp hmade
    rw [← htemperature, ← hhumidity]
    exact measuredSet_of_publishCalls hc hset

end TinyEnvSensor
