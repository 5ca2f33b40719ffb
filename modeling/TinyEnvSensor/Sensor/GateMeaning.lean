import TinyEnvSensor.Sensor.Sampling
import TinyEnvSensor.Foundations.Stretch

/-! # What the sampling gate remembers

Every call of `UpdateSensorReadings`, forced or not and however it ends, first notes the
commissioned flag. The two fields it keeps are the flag of the last call and the uptime of the call
that opened the running stretch of commissioned calls; the gate is the grace since that call. -/
namespace TinyEnvSensor
open History Stretch
set_option autoImplicit false

/-! ## Runs of calls -/

structure SampleCall where
  force : Bool
  w : World

def SampleCall.time (c : SampleCall) : ℤ := c.w.uptimeMs

/-- Every call observes the commissioned flag. -/
def SampleCall.commissioned (c : SampleCall) : Option Bool := some (isCommissioned c.w)

def sampleStep (cfg : Config) (d : Device) (c : SampleCall) : Device :=
  (updateSensorReadings cfg c.w c.force d).2

/-- Call `s` opened the stretch of commissioned calls that ends the history `l`. -/
def CommissionedSince (l : List SampleCall) (s : SampleCall) : Prop :=
  Opener SampleCall.commissioned (· = true) false l s

theorem lastSeen_commissioned (l : List SampleCall) (c : SampleCall) :
    lastSeen SampleCall.commissioned false (l ++ [c]) = isCommissioned c.w :=
  lastSeen_seen (a := c) (rfl : c.commissioned = some (isCommissioned c.w))

theorem CommissionedSince.commissioned {l : List SampleCall} {c s : SampleCall}
    (h : CommissionedSince (l ++ [c]) s) : isCommissioned c.w = true := by
  have hlast : lastSeen SampleCall.commissioned false (l ++ [c]) = true := h.lastSeen
  rwa [lastSeen_commissioned] at hlast

/-! ## The memory against the history -/

/-- The memory of the gate agrees with the flags of the calls `l`. -/
structure GateTracked (l : List SampleCall) (s : Sampler) : Prop where
  was : s.mWasCommissioned = lastSeen SampleCall.commissioned false l
  since : ∀ a, CommissionedSince l a → s.mCommissionedAtMs = a.time

theorem GateTracked.note {l : List SampleCall} {s : Sampler} (c : SampleCall)
    (h : GateTracked l s) : GateTracked (l ++ [c]) (noteCommissioned c.w s) := by
  have hseen : SampleCall.commissioned c = some (isCommissioned c.w) := rfl
  refine ⟨?_, fun a ha => ?_⟩
  · rw [noteCommissioned_mWasCommissioned, lastSeen_commissioned]
  · have hcomm := ha.commissioned
    have hwas := h.was
    cases hprev : lastSeen SampleCall.commissioned false l with
    | true =>
      rw [hprev] at hwas
      have hkept : noteCommissioned c.w s = s := by simp [noteCommissioned, hcomm, hwas]
      rw [hkept]
      exact h.since a ((opener_extend (p := (· = true)) hseen hcomm hprev).mp ha)
    | false =>
      rw [hprev] at hwas
      have hopen : ¬ (lastSeen SampleCall.commissioned false l = true) := by simp [hprev]
      obtain rfl := (opener_open (p := (· = true)) hseen hcomm hopen).mp ha
      simp [noteCommissioned, hcomm, hwas, SampleCall.time]

theorem sampleStep_gate (cfg : Config) (d : Device) (c : SampleCall) :
    (sampleStep cfg d c).sampler.mWasCommissioned =
        (noteCommissioned c.w d.sampler).mWasCommissioned ∧
      (sampleStep cfg d c).sampler.mCommissionedAtMs =
        (noteCommissioned c.w d.sampler).mCommissionedAtMs := by
  unfold sampleStep
  obtain ⟨-, hout⟩ | ⟨-, -, hout⟩ | ⟨-, -, hout⟩ := updateSensorReadings_step cfg c.w c.force d
  · rw [hout]
    exact ⟨rfl, rfl⟩
  · rw [hout]
    simp [diagOnSensorReadFailure]
  · rw [hout]
    exact ⟨rfl, rfl⟩

theorem gateTracked_run (cfg : Config) (d : Device) (calls : List SampleCall)
    (hd : d.sampler.mWasCommissioned = false) :
    GateTracked calls (run (sampleStep cfg) d calls).sampler := by
  refine run_invariant (fun l (d : Device) => GateTracked l d.sampler) ?_ ?_ calls
  · exact ⟨hd, fun a ha => absurd ha not_opener_nil⟩
  · intro l c h
    obtain ⟨hwas, hsince⟩ := sampleStep_gate cfg (run (sampleStep cfg) d l) c
    have hnote := h.note c
    exact ⟨hwas.trans hnote.was, fun a ha => hsince.trans (hnote.since a ha)⟩

/-! ## The gate -/

theorem gatePasses_iff {l : List SampleCall} {s : Sampler} {c : SampleCall}
    (h : GateTracked l s) (hpos : ∀ x ∈ l ++ [c], 0 < x.time) :
    gatePasses c.w false s = true ↔
      ∃ a, CommissionedSince (l ++ [c]) a ∧ kCommissionGraceMs ≤ c.time - a.time := by
  have hnote := h.note c
  unfold gatePasses
  rw [Bool.false_or, Bool.and_eq_true]
  constructor
  · rintro ⟨hcomm, hout⟩
    have hlast : lastSeen SampleCall.commissioned false (l ++ [c]) = true := by
      rwa [lastSeen_commissioned]
    obtain ⟨a, ha⟩ := exists_opener (p := (· = true)) (by decide) hlast
    have hstart := hpos a ha.mem
    rw [hnote.since a ha] at hout
    refine ⟨a, ha, ?_⟩
    simp only [hstart, decide_true, Bool.true_and, Bool.not_eq_true', decide_eq_false_iff_not,
      not_lt] at hout
    exact hout
  · rintro ⟨a, ha, hgrace⟩
    have hnot : ¬ c.w.uptimeMs - a.time < kCommissionGraceMs := not_lt.mpr hgrace
    refine ⟨ha.commissioned, ?_⟩
    rw [hnote.since a ha, decide_eq_false hnot, Bool.and_false]
    rfl

theorem fetch_iff (cfg : Config) (d : Device) (c : SampleCall) :
    Call.sensorSampleFetch c.w.sensorSampleFetch ∈ newCalls d (sampleStep cfg d c) ↔
      gatePasses c.w c.force d.sampler = true ∧ d.sampler.mShtReady = true := by
  have hsplit : accessesSensor c.w c.force d.sampler = true ↔
      gatePasses c.w c.force d.sampler = true ∧ d.sampler.mShtReady = true := by
    rw [accessesSensor, Bool.and_eq_true]
  rw [← hsplit]
  unfold sampleStep
  obtain ⟨haccess, hout⟩ | ⟨haccess, -, hout⟩ | ⟨haccess, -, hout⟩ :=
    updateSensorReadings_step cfg c.w c.force d
  · rw [hout, haccess]
    simp [newCalls]
  · rw [hout, haccess]
    simp [newCalls, diagOnSensorReadFailure, accessCalls]
  · rw [hout, haccess]
    simp [newCalls, sampled, accessCalls]

/-- **The sampling gate follows the commissioning history.** An unforced call passes iff the node
is commissioned at it and the stretch of commissioned calls it ends was opened the grace or more
before; a forced one always does, and a call reaches the sensor iff it passes and the sensor is
ready. So nothing passes within the grace of any call that first saw the node commissioned, and once
a call has passed, later ones do until one sees the node uncommissioned. -/
theorem sampling_gate (cfg : Config) (d : Device) (calls : List SampleCall) (c : SampleCall)
    (hd : d.sampler.mWasCommissioned = false) (htime : Timely SampleCall.time (calls ++ [c])) :
    let d' := run (sampleStep cfg) d calls
    gatePasses c.w true d'.sampler = true ∧
    (gatePasses c.w false d'.sampler = true ↔
      isCommissioned c.w = true ∧
        ∃ s, CommissionedSince (calls ++ [c]) s ∧ kCommissionGraceMs ≤ c.time - s.time) ∧
    (Call.sensorSampleFetch c.w.sensorSampleFetch ∈ newCalls d' (sampleStep cfg d' c) ↔
      gatePasses c.w c.force d'.sampler = true ∧ d'.sampler.mShtReady = true) ∧
    (∀ pre a post, calls ++ [c] = pre ++ a :: post →
      lastSeen SampleCall.commissioned false pre = false → isCommissioned a.w = true →
        gatePasses c.w false d'.sampler = true → kCommissionGraceMs ≤ c.time - a.time) ∧
    ∀ pre c₀ post, calls = pre ++ c₀ :: post →
      gatePasses c₀.w false (run (sampleStep cfg) d pre).sampler = true →
        (∀ x ∈ post ++ [c], isCommissioned x.w = true) →
          gatePasses c.w false d'.sampler = true := by
  intro d'
  have hgate := gatePasses_iff (gateTracked_run cfg d calls hd) htime.pos
  refine ⟨rfl, ?_, fetch_iff cfg d' c, fun pre a post hsplit hpre _ hpass => ?_,
    fun pre c₀ post hsplit hpass hcomm => ?_⟩
  · rw [hgate]
    constructor
    · rintro ⟨s, hs, hgrace⟩
      exact ⟨hs.commissioned, s, hs, hgrace⟩
    · exact fun h => h.2
  · obtain ⟨s, hs, hgrace⟩ := hgate.mp hpass
    rw [hsplit] at hs htime
    have hmem : s ∈ a :: post := hs.mem_of_closed (by simp [hpre])
    have hlater : a.time ≤ s.time := (htime.right.between s hmem).1
    omega
  · have hall : calls ++ [c] = pre ++ [c₀] ++ (post ++ [c]) := by simp [hsplit]
    rw [hall] at htime hgate
    have hpos₀ : ∀ x ∈ pre ++ [c₀], 0 < x.time :=
      fun x hx => htime.pos x (List.mem_append_left _ hx)
    obtain ⟨s, hs, hgrace⟩ := (gatePasses_iff (gateTracked_run cfg d pre hd) hpos₀).mp hpass
    have hlonger : CommissionedSince (pre ++ [c₀] ++ (post ++ [c])) s := by
      refine hs.append fun x hx r hr => ?_
      rw [← Option.some.inj hr]
      exact hcomm x hx
    rw [List.append_assoc] at htime
    have hlater : c₀.time ≤ c.time := (htime.right.between c (by simp)).1
    exact hgate.mpr ⟨s, hlonger, by omega⟩

def graceCalls : List SampleCall :=
  [⟨true, { uptimeMs := 1000 }⟩, ⟨false, { uptimeMs := 2000, fabricCount := 1 }⟩,
    ⟨true, { uptimeMs := 10000, fabricCount := 1 }⟩]

theorem sampling_gate_after_grace :
    isCommissioned { uptimeMs := 32000, fabricCount := 1 } = true ∧
      ∃ s, CommissionedSince
          (graceCalls ++ [⟨false, { uptimeMs := 32000, fabricCount := 1 }⟩]) s ∧
        kCommissionGraceMs ≤ 32000 - s.time :=
  (sampling_gate diagConfig {} graceCalls ⟨false, { uptimeMs := 32000, fabricCount := 1 }⟩ rfl
    ⟨by decide, by decide⟩).2.1.mp (by decide)

end TinyEnvSensor
