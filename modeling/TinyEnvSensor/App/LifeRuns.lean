import TinyEnvSensor.App.LifeStore

/-! # Whole work items as turns

`StartApp` and the work items of the two timers, each from its beginning to its end, are what the
threads reach in turns when nothing comes in between. So the runs of `appStep` are lives too, up to
a reboot. -/
namespace TinyEnvSensor
open History
set_option autoImplicit false

def turns (cfg : Config) (l : Life) (ts : List (Turn × World)) : Life :=
  run (fun l tw => turn cfg tw.1 tw.2 l) l ts

def Reaches (cfg : Config) (l l' : Life) : Prop := ∃ ts, turns cfg l ts = l'

section Reaches
variable {cfg : Config} {l l' l'' : Life}

theorem Reaches.refl (cfg : Config) (l : Life) : Reaches cfg l l := ⟨[], rfl⟩

theorem Reaches.turn (cfg : Config) (t : Turn) (w : World) (l : Life) :
    Reaches cfg l (TinyEnvSensor.turn cfg t w l) := ⟨[(t, w)], rfl⟩

theorem Reaches.trans (h : Reaches cfg l l') (h' : Reaches cfg l' l'') : Reaches cfg l l'' := by
  obtain ⟨ts, rfl⟩ := h
  obtain ⟨ts', rfl⟩ := h'
  exact ⟨ts ++ ts', run_append ..⟩

/-- Two threads in their loop and between work items, with the device they have. -/
def resting (d : Device) : Life := { device := d, main := .loop }

end Reaches

section Items
variable (cfg : Config) (w : World) (d : Device)

theorem startApp_eq :
    startApp cfg w d =
      match startUp cfg w d with
      | (d, none) =>
        (diagFeedWatchdog cfg (w.later (cycleMs cfg w true d)) (startUpCycle cfg w d), none)
      | (d, some err) => (d, some err) := by
  unfold startApp startUp
  cases init cfg w d with
  | mk d₁ err =>
    cases err with
    | some err => rfl
    | none =>
      dsimp only
      split <;> rfl

/-- The first cycle from its sample to the main loop, and one round of the loop, `ms` later. -/
theorem reaches_startUpCycle (ms : ℤ) :
    Reaches cfg { device := d, main := .sample }
      (resting (diagFeedWatchdog cfg (w.later ms) (startUpCycle cfg w d))) := by
  have hsample := Reaches.turn cfg .main w { device := d, main := .sample }
  unfold startUpCycle
  simp only [turn, mainTurn] at hsample
  cases hout : updateSensorReadings cfg w true d with
  | mk stored d₁ =>
    rw [hout] at hsample
    cases stored with
    | false => exact hsample.trans (Reaches.turn cfg .main (w.later ms) (resting d₁))
    | true =>
      have hpublish := Reaches.turn cfg .main w { device := d₁, main := .publish }
      have hsnapshot := Reaches.turn cfg .main w
        { device := updateMatterAttributes cfg w d₁, main := .snapshot }
      exact ((hsample.trans hpublish).trans hsnapshot).trans
        (Reaches.turn cfg .main (w.later ms) _)

theorem reaches_startApp :
    Reaches cfg { device := d, main := .startApp }
      { device := (startApp cfg w d).1
        main := if (startApp cfg w d).2 = none then .loop else .exited } := by
  have hstart := Reaches.turn cfg .main w { device := d, main := .startApp }
  rw [startApp_eq]
  simp only [turn, mainTurn] at hstart
  cases hout : startUp cfg w d with
  | mk d₁ err =>
    rw [hout] at hstart
    cases err with
    | some err => exact hstart
    | none => exact hstart.trans (reaches_startUpCycle cfg w d₁ _)

theorem reaches_updateTemperatureTimeoutCallback :
    Reaches cfg (resting d) (resting (updateTemperatureTimeoutCallback cfg w d)) := by
  have hsample := Reaches.turn cfg .sensorWork w (resting d)
  unfold updateTemperatureTimeoutCallback
  dsimp only
  generalize cycleMs cfg w false d = ms
  simp only [turn, resting, Life.running, sensorWorkTurn] at hsample
  cases hout : updateSensorReadings cfg w false d with
  | mk stored d₁ =>
    rw [hout] at hsample
    cases stored with
    | false => exact hsample
    | true =>
      have hpublish := Reaches.turn cfg .matter w { resting d₁ with matter := .publish }
      have hsnapshot := Reaches.turn cfg .matter w
        { resting (updateMatterAttributes cfg w d₁) with matter := .snapshot }
      exact ((hsample.trans hpublish).trans hsnapshot).trans
        (Reaches.turn cfg .matter (w.later ms) _)

theorem reaches_commissionPolicyTimeoutCallback
    (hstays : .sysReboot ∉ (commissionPolicyTimeoutCallback cfg w d).trace.map Event.call) :
    Reaches cfg (resting d) (resting (commissionPolicyTimeoutCallback cfg w d)) := by
  have hturn := Reaches.turn cfg .policyWork w (resting d)
  have hnot : rebooted d (commissionPolicyTimeoutCallback cfg w d) = false := by
    unfold rebooted newCalls
    rw [decide_eq_false_iff_not]
    exact fun hreboot => hstays ((List.drop_sublist _ _).map Event.call |>.subset hreboot)
  simp only [turn, resting, Life.running, policyWorkTurn, hnot] at hturn
  exact hturn

theorem reaches_appStep (e : AppEvent × World)
    (hstays : .sysReboot ∉ (appStep cfg d e).trace.map Event.call) :
    Reaches cfg (resting d) (resting (appStep cfg d e)) := by
  obtain ⟨event, w⟩ := e
  cases event with
  | sensorTick => exact reaches_updateTemperatureTimeoutCallback cfg w d
  | policyTick => exact reaches_commissionPolicyTimeoutCallback cfg w d hstays
  | taskDispatched => exact Reaches.turn cfg .main w (resting d)

theorem appStep_extends (e : AppEvent × World) : d.trace <+: (appStep cfg d e).trace := by
  obtain ⟨event, w⟩ := e
  cases event with
  | sensorTick =>
    have hcycle : d.trace <+: (sensorCycle cfg w false d).2.trace :=
      ⟨_, (sensorCycle_trace cfg w d false).symm⟩
    simp only [appStep, updateTemperatureTimeoutCallback_eq]
    split
    · exact hcycle.trans ⟨_, (diagFeedWatchdog_trace cfg _ _).symm⟩
    · exact hcycle
  | policyTick => exact ⟨_, (policy_trace cfg w d).symm⟩
  | taskDispatched => exact ⟨_, (diagFeedWatchdog_trace cfg w d).symm⟩

end Items

theorem reaches_run (cfg : Config) (d : Device) (es : List (AppEvent × World))
    (hstays : .sysReboot ∉ (run (appStep cfg) d es).trace.map Event.call) :
    Reaches cfg (resting d) (resting (run (appStep cfg) d es)) := by
  induction es using List.reverseRecOn with
  | nil => exact Reaches.refl cfg _
  | append_singleton es e ih =>
    rw [run_concat] at hstays ⊢
    have hext := (appStep_extends cfg (run (appStep cfg) d es) e).map Event.call
    have hearlier := ih fun hreboot => hstays (hext.subset hreboot)
    exact hearlier.trans (reaches_appStep cfg _ e hstays)

/-- **The runs of whole work items are lives.** A boot and any work items after it, each run to its
end before the next begins, are a life of the same device in turns, as long as the recovery does not
reboot; the threads are then in the main loop and between work items. -/
theorem run_is_life (cfg : Config) (store : Settings) (causes : UInt32) (w₀ : World)
    (es : List (AppEvent × World)) (hboot : (boot cfg store causes w₀).2 = none)
    (hstays : .sysReboot ∉
      (run (appStep cfg) (boot cfg store causes w₀).1 es).trace.map Event.call) :
    ∃ ts : List (Turn × World),
      life cfg store (.reset causes :: ts.map fun tw => .turn tw.1 tw.2) =
        { device := run (appStep cfg) (boot cfg store causes w₀).1 es
          main := .loop
          matter := .idle } := by
  have hstart : Reaches cfg (lifeStep cfg (unborn store) (.reset causes))
      { device := (boot cfg store causes w₀).1
        main := if (boot cfg store causes w₀).2 = none then .loop else .exited } :=
    reaches_startApp cfg w₀ (resetDevice causes (freshDevice store))
  rw [if_pos hboot] at hstart
  obtain ⟨ts, hts⟩ := hstart.trans (reaches_run cfg _ es hstays)
  refine ⟨ts, Eq.trans ?_ hts⟩
  unfold life turns run
  rw [List.foldl_cons, List.foldl_map]
  rfl

theorem run_is_life_of_first_tick : ∃ ts : List (Turn × World),
    life diagConfig ∅ (.reset 1 :: ts.map fun tw => .turn tw.1 tw.2) =
      { device := run (appStep diagConfig) (boot diagConfig ∅ 1 {}).1
          [(.sensorTick, { uptimeMs := 60001, fabricCount := 1 })]
        main := .loop
        matter := .idle } :=
  run_is_life diagConfig ∅ 1 {} [(.sensorTick, { uptimeMs := 60001, fabricCount := 1 })]
    (by decide +kernel) (by decide +kernel)

end TinyEnvSensor
