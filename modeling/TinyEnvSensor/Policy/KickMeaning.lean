import TinyEnvSensor.Policy.AwakePolicy
import TinyEnvSensor.Foundations.Spacing
import Mathlib.Data.List.Chain

/-! # How often a hold kicks the ICD

A tick under the hold kicks when the last kick is a period old. The ticks come a period apart too,
give or take, so one may find the last kick just short of a period old; the next then kicks. -/
namespace TinyEnvSensor
open History Spacing
set_option autoImplicit false

def isKick : Call → Bool
  | .onNetworkActivity => true
  | _ => false

/-- The times of the kicks that a run of ticks issues. -/
def kickTimes (cfg : Config) (d : Device) (ws : List World) : List ℤ :=
  timesOf isKick ((run (policyStep cfg) d ws).trace.drop d.trace.length)

/-! ## The kicks of a run, tick by tick -/

theorem countP_isKick_tick (cfg : Config) (d : Device) (w : World) :
    (tickCalls cfg d w).countP isKick = if kickDue w (holdAt w d) d.awake then 1 else 0 := by
  have hsaves : (threadSaves cfg w threadChangedMask d).countP isKick = 0 := by
    rw [List.countP_eq_zero]
    intro c hc
    obtain ⟨key, value, rc, rfl⟩ := mem_threadSaves hc
    simp [isKick]
  rw [tickCalls_eq, List.countP_append, hsaves, policyCalls, holdAt_handleThreadStateChange,
    handleThreadStateChange_awake, List.countP_append, List.countP_append]
  split <;> split <;> split <;> first | rfl | (split <;> rfl)

theorem kickTimes_concat (cfg : Config) (d : Device) (ws : List World) (w : World) :
    kickTimes cfg d (ws ++ [w]) = kickTimes cfg d ws ++
      if kickDue w (holdAt w (run (policyStep cfg) d ws)) (run (policyStep cfg) d ws).awake then
        [w.uptimeMs] else [] := by
  have hlen := (run_extends (policyStep_extends cfg) d ws).length_le
  have hcount := countP_isKick_tick cfg (run (policyStep cfg) d ws) w
  rw [tickCalls_eq] at hcount
  unfold kickTimes
  rw [run_concat, policyStep, policy_trace, List.drop_append_of_le_length hlen, timesOf_append,
    hcount]
  congr 1
  split <;> rfl

theorem lastKick_tick (cfg : Config) (d : Device) (w : World) :
    (policyStep cfg d w).awake.mLastAwakeKickMs =
      if kickDue w (holdAt w d) d.awake then w.uptimeMs else d.awake.mLastAwakeKickMs := by
  rw [policyStep, policy_awake]
  rfl

theorem lastKick_run (cfg : Config) (d : Device) (ws : List World) :
    (run (policyStep cfg) d ws).awake.mLastAwakeKickMs =
      (kickTimes cfg d ws).getLastD d.awake.mLastAwakeKickMs := by
  induction ws using List.reverseRecOn with
  | nil => simp [kickTimes, timesOf]
  | append_singleton ws w ih =>
    rw [kickTimes_concat, run_concat, lastKick_tick]
    split
    · rw [List.getLastD_concat]
    · rw [List.append_nil, ih]

/-! ## Neither too frequent nor lost -/

section Limiter
variable {cfg : Config} {d : Device} {ws : List World}

theorem kicks_spaced (hd : d.awake = {})
    (hfirst : ∀ w ∈ ws, kCommissionAwakeKickPeriodMs ≤ w.uptimeMs) :
    Spaced kCommissionAwakeKickPeriodMs (kickTimes cfg d ws) := by
  induction ws using List.reverseRecOn with
  | nil => simp [kickTimes, timesOf, Spaced]
  | append_singleton ws w ih =>
    have hspaced := ih fun x hx => hfirst x (List.mem_append_left _ hx)
    have hlast := lastKick_run cfg d ws
    rw [hd] at hlast
    rw [kickTimes_concat]
    split
    · rename_i hdue
      unfold kickDue at hdue
      rw [Bool.and_eq_true, decide_eq_true_iff, hlast] at hdue
      exact hspaced.concat
        ((due_iff_getLastD (by decide) hspaced (hfirst w (by simp))).mpr hdue.2)
    · rwa [List.append_nil]

/-- After a tick under the hold the last kick is less than a period old. -/
theorem lastKick_fresh (cfg : Config) (d : Device) (w : World) (hhold : holdAt w d = true) :
    w.uptimeMs - (policyStep cfg d w).awake.mLastAwakeKickMs < kCommissionAwakeKickPeriodMs := by
  rw [lastKick_tick]
  unfold kickDue
  rw [hhold, Bool.true_and]
  by_cases hdue : kCommissionAwakeKickPeriodMs ≤ w.uptimeMs - d.awake.mLastAwakeKickMs
  · rw [if_pos (decide_eq_true hdue), sub_self]
    decide
  · rw [if_neg (by rw [decide_eq_false hdue]; decide)]
    exact not_le.mp hdue

theorem exists_lastKick (hd : d.awake = {}) {w : World}
    (hfirst : kCommissionAwakeKickPeriodMs ≤ w.uptimeMs)
    (hhold : holdAt w (run (policyStep cfg) d ws) = true) :
    ∃ k, (kickTimes cfg d (ws ++ [w])).getLast? = some k ∧
      w.uptimeMs - k < kCommissionAwakeKickPeriodMs := by
  have hfresh := lastKick_fresh cfg _ w hhold
  rw [← run_concat (policyStep cfg), lastKick_run, hd] at hfresh
  obtain hnone | ⟨kicks, k, hkicks⟩ := List.eq_nil_or_concat (kickTimes cfg d (ws ++ [w]))
  · -- no kick so far: zero would be less than a period old
    rw [hnone, List.getLastD_nil, sub_zero] at hfresh
    omega
  · rw [List.concat_eq_append] at hkicks
    rw [hkicks, List.getLastD_concat] at hfresh
    exact ⟨k, by rw [hkicks, List.getLast?_concat], hfresh⟩

end Limiter

/-- Every tick of a run is under the hold. -/
def HoldStretch (cfg : Config) (d : Device) (ws : List World) : Prop :=
  ∀ pre w post, ws = pre ++ w :: post → holdAt w (run (policyStep cfg) d pre) = true

theorem HoldStretch.init {cfg : Config} {d : Device} {ws : List World} {w : World}
    (h : HoldStretch cfg d (ws ++ [w])) : HoldStretch cfg d ws :=
  fun pre x post hws => h pre x (post ++ [w]) (by simp [hws])

/-- Within a hold a kick follows the last one within a period and the gap of one tick. -/
theorem kicks_chained {cfg : Config} {d : Device} {ws : List World} {G : ℤ}
    (hhold : HoldStretch cfg d ws) (hgap : ws.IsChain fun a b => b.uptimeMs - a.uptimeMs ≤ G) :
    (kickTimes cfg d ws).IsChain fun p q => q - p < kCommissionAwakeKickPeriodMs + G := by
  induction ws using List.reverseRecOn with
  | nil => simp [kickTimes, timesOf]
  | append_singleton ws w ih =>
    obtain ⟨hgaps, -, hnext⟩ := List.isChain_append.mp hgap
    have hbefore := ih hhold.init hgaps
    rw [kickTimes_concat]
    split
    · refine hbefore.append (List.isChain_singleton _) fun p hp q hq => ?_
      obtain rfl := Option.some.inj hq
      obtain rfl | ⟨ws, v, rfl⟩ := List.eq_nil_or_concat ws
      · simp [kickTimes, timesOf] at hp
      · rw [List.concat_eq_append] at *
        have htick : w.uptimeMs - v.uptimeMs ≤ G := hnext v (by simp) w (by simp)
        have hfresh := lastKick_fresh cfg _ v (hhold ws v [w] (by simp))
        rw [← run_concat (policyStep cfg), lastKick_run, List.getLastD_eq_getLast?, hp] at hfresh
        simp only [Option.getD_some] at hfresh
        omega
    · rwa [List.append_nil]

/-- **Kicks are neither too frequent nor lost.** Only ticks under the hold kick; kicks are a period
apart or more; after every tick under the hold the last kick is less than a period old; and within
an unbroken stretch of the hold consecutive kicks are less than a period and the longest gap
between ticks apart. -/
theorem awake_kicks (cfg : Config) (d : Device) (G : ℤ) (ws : List World) (hd : d.awake = {})
    (hfirst : ∀ w ∈ ws, 1000 ≤ w.uptimeMs)
    (hgap : ws.IsChain fun a b => b.uptimeMs - a.uptimeMs ≤ G) :
    (∀ pre w post, ws = pre ++ w :: post →
      .onNetworkActivity ∈ tickCalls cfg (run (policyStep cfg) d pre) w →
        holdAt w (run (policyStep cfg) d pre) = true) ∧
    Spaced kCommissionAwakeKickPeriodMs (kickTimes cfg d ws) ∧
    (∀ pre w post, ws = pre ++ w :: post → holdAt w (run (policyStep cfg) d pre) = true →
      ∃ k, (kickTimes cfg d (pre ++ [w])).getLast? = some k ∧
        w.uptimeMs - k < kCommissionAwakeKickPeriodMs) ∧
    ∀ before stretch after, ws = before ++ stretch ++ after →
      HoldStretch cfg (run (policyStep cfg) d before) stretch →
        (kickTimes cfg (run (policyStep cfg) d before) stretch).IsChain
          fun p q => q - p < kCommissionAwakeKickPeriodMs + G := by
  refine ⟨fun pre w post _ hkick => ?_, kicks_spaced hd hfirst, fun pre w post hws hhold => ?_,
    fun before stretch after hws hhold => ?_⟩
  · obtain ⟨h, -⟩ | ⟨-, hdue⟩ | ⟨h, -⟩ := (mem_tickCalls (by simp) (by simp)).mp hkick
    · cases h
    · unfold kickDue at hdue
      exact (Bool.and_eq_true_iff.mp hdue).1
    · cases h
  · exact exists_lastKick hd (hfirst w (by simp [hws])) hhold
  · rw [hws] at hgap
    exact kicks_chained hhold hgap.left_of_append.right_of_append

theorem awake_kicks_in_window :
    Spaced kCommissionAwakeKickPeriodMs (kickTimes diagConfig {}
      [{ uptimeMs := 1000, commissioningWindowOpen := true },
        { uptimeMs := 1999, commissioningWindowOpen := true },
        { uptimeMs := 3005, commissioningWindowOpen := true }]) :=
  (awake_kicks diagConfig {} 1006 _ rfl (by decide) (by decide)).2.1

end TinyEnvSensor
