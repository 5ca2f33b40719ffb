import TinyEnvSensor.App.Task

/-! # Only complete samples are published

One call of `UpdateSensorReadings` stores both values of one fetch or neither. A step of the sensor
timer hands values to the two setters right after such a fetch and at no other place, so the setter
calls of a run divide up among its steps, each with the fetch it came from. -/
namespace TinyEnvSensor
open History
set_option autoImplicit false

def isMeasuredSet : Call → Bool
  | .temperatureMeasuredValueSet _ => true
  | .humidityMeasuredValueSet _ => true
  | _ => false

def isFetch : Call → Bool
  | .sensorSampleFetch _ => true
  | _ => false

/-- Calls that sample once, in full, and then publish that sample and no other. -/
def CompleteSample (w : World) (calls : List Call) : Prop :=
  ∃ rest,
    calls =
      [.sensorSampleFetch 0, .sensorChannelGet .ambientTemp 0, .sensorChannelGet .humidity 0,
        .temperatureMeasuredValueSet (sampledTemperature w),
        .humidityMeasuredValueSet (sampledHumidity w)] ++ rest ∧
      ∀ c ∈ rest, isMeasuredSet c = false ∧ isFetch c = false

/-! ## The calls of a step -/

/-- Calls that neither sample nor publish. -/
def Quiet (calls : List Call) : Prop := ∀ c ∈ calls, isMeasuredSet c = false ∧ isFetch c = false

theorem Quiet.append {l m : List Call} (hl : Quiet l) (hm : Quiet m) : Quiet (l ++ m) := by
  intro c hc
  obtain hc | hc := List.mem_append.mp hc
  · exact hl c hc
  · exact hm c hc

theorem quiet_batteryCalls (cfg : Config) (w : World) (d : Device) :
    Quiet (batteryCalls cfg w d) :=
  forall_batteryCalls cfg w d (fun _ => ⟨rfl, rfl⟩) (fun _ => ⟨rfl, rfl⟩) (fun _ => ⟨rfl, rfl⟩)
    (fun _ _ => ⟨rfl, rfl⟩) fun _ _ _ => ⟨rfl, rfl⟩

theorem quiet_snapshotCalls (w : World) (role : OtDeviceRole) (m : DiagField → UInt32) :
    Quiet (snapshotCalls w role m) := by
  simp [Quiet, snapshotCalls, isMeasuredSet, isFetch]

theorem accessCalls_of_succeeds {w : World} (hok : accessSucceeds w = true) :
    accessCalls w =
      [.sensorSampleFetch 0, .sensorChannelGet .ambientTemp 0, .sensorChannelGet .humidity 0] := by
  obtain ⟨hfetch, htemp, hhum⟩ := of_decide_eq_true hok
  simp [accessCalls, hfetch, htemp, hhum]

theorem cycleCalls_sample (cfg : Config) (w : World) (d : Device) (force : Bool) :
    (∀ c ∈ cycleCalls cfg w d force, isMeasuredSet c = false) ∨
      CompleteSample w (cycleCalls cfg w d force) := by
  unfold cycleCalls
  cases haccess : accessesSensor w force d.sampler with
  | false => exact Or.inl (by simp)
  | true =>
    cases hok : accessSucceeds w with
    | false =>
      refine Or.inl fun c hc => ?_
      simp only [if_true, if_false, Bool.false_eq_true, List.mem_append] at hc
      obtain hc | hc := hc
      · unfold accessCalls at hc
        split_ifs at hc <;> simp at hc <;> (obtain rfl | rfl | rfl := hc) <;> rfl
      · unfold accessFailureCalls at hc
        split_ifs at hc
        · rw [List.mem_singleton.mp hc]
          rfl
        · simp at hc
    | true =>
      have hpower : ∀ vbat, Quiet (powerSourceCalls vbat) := by
        simp [Quiet, powerSourceCalls, isMeasuredSet, isFetch]
      refine Or.inr ⟨batteryCalls cfg w (afterMeasuredSets w (sampled w d)) ++
        (powerSourceCalls (readBatteryVolts cfg w (afterMeasuredSets w (sampled w d))).1 ++
          if snapshotDue cfg w d.mLastHealthSnapshotMs then
            snapshotCalls w d.thread.mLastThreadRole
              (updateMatterAttributes cfg w (sampled w d)).mDiag
          else []), ?_, ?_⟩
      · simp only [if_true, accessCalls_of_succeeds hok, publishCalls]
        simp [sampled]
      · refine (quiet_batteryCalls cfg w _).append ((hpower _).append ?_)
        split
        · exact quiet_snapshotCalls w _ _
        · simp [Quiet]

/-! ## Runs -/

/-- The start-up, which is forced, or a tick of the sensor timer. -/
def sensorStep (cfg : Config) (d : Device) (s : Bool × World) : Device :=
  if s.1 then startUpCycle cfg s.2 d else updateTemperatureTimeoutCallback cfg s.2 d

theorem sensorStep_trace (cfg : Config) (d : Device) (s : Bool × World) :
    ∃ feed evs, (∀ c ∈ feed, ∃ channel, c = Call.wdtFeed channel) ∧
      (sensorStep cfg d s).trace = d.trace ++ evs ∧
        evs.map Event.call = cycleCalls cfg s.2 d s.1 ++ feed := by
  obtain ⟨force, w⟩ := s
  have htrace := sensorCycle_trace cfg w d force
  have hcycle := madeAt_calls w.uptimeMs (cycleCalls cfg w d force)
  have hcalls : ((cycleCalls cfg w d force).map (Event.mk w.uptimeMs)).map Event.call =
      cycleCalls cfg w d force ++ [] := by rw [hcycle.calls, List.append_nil]
  cases force with
  | true =>
    refine ⟨[], _, by simp, ?_, hcalls⟩
    rw [← htrace, ← startUpCycle_eq]
    rfl
  | false =>
    have htick : sensorStep cfg d (false, w) = updateTemperatureTimeoutCallback cfg w d := rfl
    rw [htick, updateTemperatureTimeoutCallback_eq]
    cases hok : (sensorCycle cfg w false d).1 with
    | false => exact ⟨[], _, by simp, by simpa using htrace, hcalls⟩
    | true =>
      refine ⟨feedCalls cfg d.mWdtChannel, _, fun c hc => ⟨_, mem_feedCalls hc⟩,
        fedCycle_trace cfg w d false _, ?_⟩
      exact (hcycle.feed _ _).calls

theorem sensorStep_extends (cfg : Config) (d : Device) (s : Bool × World) :
    d.trace <+: (sensorStep cfg d s).trace := by
  obtain ⟨feed, evs, -, htrace, -⟩ := sensorStep_trace cfg d s
  exact ⟨_, htrace.symm⟩

/-- **One step publishes one complete sample, or nothing.** -/
theorem sensorStep_sample (cfg : Config) (d : Device) (s : Bool × World) :
    (∀ c ∈ newCalls d (sensorStep cfg d s), isMeasuredSet c = false) ∨
      CompleteSample s.2 (newCalls d (sensorStep cfg d s)) := by
  obtain ⟨feed, evs, hfeed, htrace, hmade⟩ := sensorStep_trace cfg d s
  have hcalls : newCalls d (sensorStep cfg d s) = cycleCalls cfg s.2 d s.1 ++ feed :=
    (newCalls_of_append htrace).trans hmade
  have hquiet : Quiet feed := fun c hc => by
    obtain ⟨channel, rfl⟩ := hfeed c hc
    exact ⟨rfl, rfl⟩
  rw [hcalls]
  obtain hnone | ⟨rest, hcycle, hrest⟩ := cycleCalls_sample cfg s.2 d s.1
  · refine Or.inl fun c hc => ?_
    obtain hc | hc := List.mem_append.mp hc
    · exact hnone c hc
    · exact (hquiet c hc).1
  · exact Or.inr ⟨rest ++ feed, by rw [hcycle, List.append_assoc], Quiet.append hrest hquiet⟩

theorem measuredSet_of_run (cfg : Config) (d : Device) (steps : List (Bool × World)) (c : Call)
    (hc : c ∈ newCalls d (run (sensorStep cfg) d steps)) (hset : isMeasuredSet c = true) :
    ∃ pre s post, steps = pre ++ s :: post ∧
      c ∈ newCalls (run (sensorStep cfg) d pre) (run (sensorStep cfg) d (pre ++ [s])) ∧
      CompleteSample s.2
        (newCalls (run (sensorStep cfg) d pre) (run (sensorStep cfg) d (pre ++ [s]))) := by
  induction steps using List.reverseRecOn with
  | nil => simp at hc
  | append_singleton steps s ih =>
    rw [newCalls_run_concat (sensorStep_extends cfg)] at hc
    obtain hc | hc := List.mem_append.mp hc
    · obtain ⟨pre, s', post, rfl, hmem, hsample⟩ := ih hc
      exact ⟨pre, s', post ++ [s], by simp, hmem, hsample⟩
    · have hstep := sensorStep_sample cfg (run (sensorStep cfg) d steps) s
      obtain hnone | hsample := hstep
      · rw [hnone c hc] at hset
        cases hset
      · exact ⟨steps, s, [], rfl, by rwa [run_concat], by rwa [run_concat]⟩

/-- **Sampling is atomic, and only complete samples are published.** A call succeeds iff the gate
passes, the sensor is ready, and the fetch and both reads succeed; else it leaves both values alone;
on success both are those of its one fetch; and in diagnostic mode it counts a failure iff it
accessed the sensor in vain. In a run of the forced start-up and ticks, every value a setter gets is
of the complete sample taken in the same step. -/
theorem sampling_atomic (cfg : Config) (d : Device) :
    (∀ w force,
      let out := updateSensorReadings cfg w force d
      (out.1 = true ↔ gatePasses w force d.sampler = true ∧ d.sampler.mShtReady = true ∧
        w.sensorSampleFetch = 0 ∧ w.temperatureGet = 0 ∧ w.humidityGet = 0) ∧
      (out.1 = false →
        out.2.sampler.mCurrentTemperature = d.sampler.mCurrentTemperature ∧
          out.2.sampler.mCurrentHumidity = d.sampler.mCurrentHumidity) ∧
      (out.1 = true →
        out.2.sampler.mCurrentTemperature = sampledTemperature w ∧
          out.2.sampler.mCurrentHumidity = sampledHumidity w ∧
          newCalls d out.2 = [.sensorSampleFetch 0, .sensorChannelGet .ambientTemp 0,
            .sensorChannelGet .humidity 0]) ∧
      (cfg.diagnosticMode = true →
        out.2.mDiag .sensorFailureCount = d.mDiag .sensorFailureCount +
          if (gatePasses w force d.sampler = true ∧ d.sampler.mShtReady = true) ∧
            ¬ (w.sensorSampleFetch = 0 ∧ w.temperatureGet = 0 ∧ w.humidityGet = 0)
          then 1 else 0)) ∧
    ∀ (w₀ : World) (ws : List World),
      let steps := (true, w₀) :: ws.map fun w => (false, w)
      ∀ c ∈ newCalls d (run (sensorStep cfg) d steps), isMeasuredSet c = true →
        ∃ pre s post, steps = pre ++ s :: post ∧
          c ∈ newCalls (run (sensorStep cfg) d pre) (run (sensorStep cfg) d (pre ++ [s])) ∧
          CompleteSample s.2
            (newCalls (run (sensorStep cfg) d pre) (run (sensorStep cfg) d (pre ++ [s]))) := by
  refine ⟨fun w force => ?_, fun w₀ ws => measuredSet_of_run cfg d _⟩
  obtain ⟨-, htemp, hhum⟩ := noteCommissioned_rest w d.sampler
  intro out
  have hsplit : accessesSensor w force d.sampler = true ↔
      gatePasses w force d.sampler = true ∧ d.sampler.mShtReady = true := by
    unfold accessesSensor
    rw [Bool.and_eq_true]
  have hall : accessSucceeds w = true ↔
      w.sensorSampleFetch = 0 ∧ w.temperatureGet = 0 ∧ w.humidityGet = 0 := by
    unfold accessSucceeds
    rw [decide_eq_true_iff]
  have hboth : (gatePasses w force d.sampler = true ∧ d.sampler.mShtReady = true ∧
      accessSucceeds w = true) ↔
        accessesSensor w force d.sampler = true ∧ accessSucceeds w = true := by
    rw [hsplit, and_assoc]
  simp only [← hall, hboth, ← hsplit]
  obtain ⟨haccess, hout⟩ | ⟨haccess, hfail, hout⟩ | ⟨haccess, hok, hout⟩ :=
    updateSensorReadings_step cfg w force d
  · simp only [out, hout, haccess]
    exact ⟨by simp, fun _ => ⟨htemp, hhum⟩, by simp, by simp⟩
  · simp only [out, hout, haccess, hfail]
    refine ⟨by simp, fun _ => ?_, by simp, fun hdiag => ?_⟩
    · simp [diagOnSensorReadFailure, htemp, hhum]
    · simp [diagOnSensorReadFailure, hdiag]
  · simp only [out, hout, haccess, hok]
    refine ⟨by simp, by simp, fun _ => ⟨rfl, rfl, ?_⟩, by simp [sampled]⟩
    have htrace : (sampled w d).trace =
      d.trace ++ (accessCalls w).map (Event.mk w.uptimeMs) := rfl
    rw [newCalls_eq htrace, accessCalls_of_succeeds hok]

end TinyEnvSensor
