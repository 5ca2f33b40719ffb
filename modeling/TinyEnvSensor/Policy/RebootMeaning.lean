import TinyEnvSensor.Policy.AwakePolicy
import TinyEnvSensor.Thread.TrackerMeaning

/-! # When a tick asks for a reboot

The recovery test of a tick reads one latched start time. `Tracked`, carried through a run of
ticks, turns that time into the tick that opened the running DETACHED stretch, so the test becomes
a statement about the roles and the commissioned flags the ticks saw: `requestsReboot_iff`. A node
commissioned throughout reboots exactly when the stretch outlasts the threshold. The test does not
ask how long the node has been commissioned; `CommissionedLate` is what that leaves open. -/
namespace TinyEnvSensor
open History Stretch
set_option autoImplicit false

def policyRole : World → Option OtDeviceRole := observedRole threadChangedMask

def RequestsReboot (cfg : Config) (d : Device) (w : World) : Prop :=
  .sysReboot ∈ tickCalls cfg d w

/-! ## The tracker over ticks -/

theorem Tracked.tick {l : List World} {d : Device} (cfg : Config) (w : World)
    (h : Tracked policyRole World.uptimeMs l d.thread) :
    Tracked policyRole World.uptimeMs (l ++ [w])
      (handleThreadStateChange cfg w threadChangedMask d).thread :=
  h.step rfl rfl

theorem tracked_ticks (cfg : Config) (d : Device) (hd : d.thread = {}) (ws : List World) :
    Tracked policyRole World.uptimeMs ws (run (policyStep cfg) d ws).thread := by
  refine run_invariant (fun l (d : Device) => Tracked policyRole World.uptimeMs l d.thread)
    ?_ ?_ ws
  · rw [hd]
    exact Tracked.initial
  · intro l w h
    rw [policyStep, policy_thread]
    exact h.tick cfg w

theorem detachedTooLong_iff (cfg : Config) (w : World) {l : List World} {t : ThreadTracker}
    (h : Tracked policyRole World.uptimeMs l t) (hpos : ∀ x ∈ l, 0 < x.uptimeMs) :
    detachedTooLong cfg w t = true ↔
      cfg.diagnosticMode = true ∧ isCommissioned w = true ∧
        ∃ c, Opener policyRole (· = .detached) .disabled l c ∧
          cfg.kDetachedRebootThresholdMs < w.uptimeMs - c.uptimeMs := by
  simp only [detachedTooLong, Bool.and_eq_true, decide_eq_true_eq, and_assoc]
  refine and_congr_right fun _ => and_congr_right fun _ => ?_
  constructor
  · rintro ⟨hlatch, -, hlong⟩
    obtain ⟨c, hc, hsince⟩ := h.exists_since hlatch
    rw [hsince] at hlong
    exact ⟨c, hc, hlong⟩
  · rintro ⟨c, hc, hlong⟩
    have hlatch : t.mThreadDetached = true := by
      apply h.latch.mpr
      rw [h.last]
      exact hc.lastSeen
    have hsince := h.since c hc
    rw [hsince]
    exact ⟨hlatch, hpos c hc.mem, hlong⟩

/-- **The request, in terms of the history.** A tick asks for a reboot when the node is commissioned
at it and the DETACHED stretch running at it was opened longer ago than the threshold. -/
theorem requestsReboot_iff (cfg : Config) (d : Device) (hd : d.thread = {}) (ws : List World)
    (w : World) (hpos : ∀ x ∈ ws ++ [w], 0 < x.uptimeMs) :
    RequestsReboot cfg (run (policyStep cfg) d ws) w ↔
      cfg.diagnosticMode = true ∧ isCommissioned w = true ∧
        ∃ c, Opener policyRole (· = .detached) .disabled (ws ++ [w]) c ∧
          cfg.kDetachedRebootThresholdMs < w.uptimeMs - c.uptimeMs := by
  have htrack := (tracked_ticks cfg d hd ws).tick cfg w
  have htest := detachedTooLong_iff cfg w htrack hpos
  have hmem := @mem_tickCalls cfg w (run (policyStep cfg) d ws) .sysReboot (by simp) (by simp)
  rw [RequestsReboot, hmem, ← htest]
  simp

theorem opener_earlier {cfg : Config} {ws : List World} {w c : World} :
    (Opener policyRole (· = .detached) .disabled (ws ++ [w]) c ∧
        cfg.kDetachedRebootThresholdMs < w.uptimeMs - c.uptimeMs) ↔
      Opener policyRole (· = .detached) .disabled ws c ∧
        (∀ r, policyRole w = some r → r = .detached) ∧
        cfg.kDetachedRebootThresholdMs < w.uptimeMs - c.uptimeMs := by
  have hpos := cfg.kDetachedRebootThresholdMs_pos
  constructor
  · rintro ⟨hc, hlong⟩
    obtain ⟨rfl, -, -⟩ | ⟨hc, hw⟩ := opener_concat_cases hc
    · omega
    · exact ⟨hc, hw, hlong⟩
  · rintro ⟨hc, hw, hlong⟩
    exact ⟨hc.extend hw, hlong⟩

/-! ## A node that is commissioned throughout -/

/-- **Detached recovery is exact.** In diagnostic mode, on a node commissioned at every tick, a tick
asks for a reboot iff an earlier tick observed a change to DETACHED, nothing but DETACHED was
observed since, this tick included, and more than the threshold has passed. -/
theorem detached_reboot_exact (cfg : Config) (d : Device) (ws : List World) (w : World)
    (hdiag : cfg.diagnosticMode = true) (hd : d.thread = {})
    (htime : Ticking World.uptimeMs (ws ++ [w]))
    (hcomm : ∀ x ∈ ws ++ [w], isCommissioned x = true) :
    RequestsReboot cfg (run (policyStep cfg) d ws) w ↔
      ∃ before c between, ws = before ++ c :: between ∧
        (policyRole c = some .detached ∧ lastSeen policyRole .disabled before ≠ .detached) ∧
        (∀ x ∈ between ++ [w], ∀ r, policyRole x = some r → r = .detached) ∧
        cfg.kDetachedRebootThresholdMs < w.uptimeMs - c.uptimeMs := by
  have hw : isCommissioned w = true := hcomm w (by simp)
  rw [requestsReboot_iff cfg d hd ws w htime.pos]
  simp only [hdiag, hw, true_and, opener_earlier]
  constructor
  · rintro ⟨c, ⟨before, between, hws, ⟨r, hr, hdet⟩, hbefore, hbetween⟩, hlast, hlong⟩
    refine ⟨before, c, between, hws, ⟨by rw [hr, hdet], hbefore⟩, fun x hx => ?_, hlong⟩
    obtain hx | hx := List.mem_append.mp hx
    · exact hbetween x hx
    · rw [List.mem_singleton.mp hx]
      exact hlast
  · rintro ⟨before, c, between, hws, ⟨hc, hbefore⟩, hbetween, hlong⟩
    refine ⟨c, ⟨before, between, hws, ⟨_, hc, rfl⟩, hbefore, fun x hx => ?_⟩, ?_, hlong⟩
    · exact hbetween x (by simp [hx])
    · exact hbetween w (by simp)

/-- A tick of a commissioned node that sees the role DETACHED, or CHILD. -/
def tickAt (uptimeMs : ℤ) (role : OtDeviceRole) : World :=
  { uptimeMs, fabricCount := 1, threadInstance := some { role } }

theorem detached_reboot_at_301001 :
    RequestsReboot diagConfig
        (run (policyStep diagConfig) {} [tickAt 1000 .detached, tickAt 2000 .detached])
        (tickAt 301001 .detached) := by
  refine (detached_reboot_exact diagConfig {} [tickAt 1000 .detached, tickAt 2000 .detached]
    (tickAt 301001 .detached) rfl rfl ⟨by decide, by decide⟩ (by decide)).mpr ?_
  exact ⟨[], tickAt 1000 .detached, [tickAt 2000 .detached], rfl, ⟨rfl, by decide⟩, by decide,
    by decide⟩

/-! ## A node whose fabrics come and go -/

/-- A reboot is only ever requested of a node that was commissioned at every tick of an interval
longer than the threshold that ends with the request. -/
def RebootsOnlyCommissioned (cfg : Config) (d : Device) (ws : List World) : Prop :=
  ∀ pre w post, ws = pre ++ w :: post → RequestsReboot cfg (run (policyStep cfg) d pre) w →
    ∃ a, cfg.kDetachedRebootThresholdMs < w.uptimeMs - a ∧
      ∀ x ∈ pre ++ [w], a ≤ x.uptimeMs → isCommissioned x = true

/-- At tick `w` after the ticks `pre` the node is commissioned, in a DETACHED stretch older than the
threshold, of which at least one tick that recent found it not commissioned. -/
def CommissionedLate (cfg : Config) (pre : List World) (w : World) : Prop :=
  isCommissioned w = true ∧
    ∃ c x, Opener policyRole (· = .detached) .disabled (pre ++ [w]) c ∧
      cfg.kDetachedRebootThresholdMs < w.uptimeMs - c.uptimeMs ∧
      x ∈ pre ∧ c.uptimeMs ≤ x.uptimeMs ∧
      w.uptimeMs - x.uptimeMs ≤ cfg.kDetachedRebootThresholdMs + 1 ∧ isCommissioned x = false

/-- **When detachment before commissioning does not count.** Exactly in the runs in which the node
is never commissioned late in a DETACHED stretch. -/
theorem reboots_only_commissioned_iff (cfg : Config) (d : Device) (ws : List World)
    (hdiag : cfg.diagnosticMode = true) (hd : d.thread = {})
    (htime : Ticking World.uptimeMs ws) :
    RebootsOnlyCommissioned cfg d ws ↔
      ∀ pre w post, ws = pre ++ w :: post → ¬ CommissionedLate cfg pre w := by
  refine forall_congr' fun pre => forall_congr' fun w => forall_congr' fun post =>
    forall_congr' fun hws => ?_
  have hpre : ws = (pre ++ [w]) ++ post := by rw [hws]; simp
  have htick : Ticking World.uptimeMs (pre ++ [w]) := (hpre ▸ htime).left
  rw [requestsReboot_iff cfg d hd pre w htick.pos]
  constructor
  · rintro hok ⟨hw, c, x, hc, hlong, hx, -, hrecent, hnot⟩
    obtain ⟨a, ha, hcomm⟩ := hok ⟨hdiag, hw, c, hc, hlong⟩
    have hxa : isCommissioned x = true := by
      apply hcomm x (List.mem_append_left _ hx)
      omega
    rw [hxa] at hnot
    cases hnot
  · rintro hnot ⟨-, hw, c, hc, hlong⟩
    -- the latest start an interval that long can have
    refine ⟨w.uptimeMs - cfg.kDetachedRebootThresholdMs - 1, by omega, fun x hx ha => ?_⟩
    obtain hx | hx := List.mem_append.mp hx
    · by_contra hoff
      exact hnot ⟨hw, c, x, hc, hlong, hx, by omega, by omega, by simpa using hoff⟩
    · rw [List.mem_singleton.mp hx]
      exact hw

def uncommissionedTickAt (uptimeMs : ℤ) (role : OtDeviceRole) : World :=
  { tickAt uptimeMs role with fabricCount := 0 }

def lateCommissioning : List World :=
  [uncommissionedTickAt 1000 .detached, uncommissionedTickAt 302000 .detached,
    tickAt 303000 .detached]

theorem detached_before_commissioning_counts :
    Ticking World.uptimeMs lateCommissioning ∧
      ¬ RebootsOnlyCommissioned diagConfig {} lateCommissioning := by
  refine ⟨⟨by decide, by decide⟩, fun h => ?_⟩
  obtain ⟨a, ha, hcomm⟩ := h
    [uncommissionedTickAt 1000 .detached, uncommissionedTickAt 302000 .detached]
    (tickAt 303000 .detached) [] rfl (by unfold RequestsReboot; decide)
  have hx := hcomm (uncommissionedTickAt 302000 .detached) (by simp)
  have hlimit : diagConfig.kDetachedRebootThresholdMs = 300000 := rfl
  have hw : (tickAt 303000 .detached).uptimeMs = 303000 := rfl
  have hold : (uncommissionedTickAt 302000 .detached).uptimeMs = 302000 := rfl
  rw [hlimit, hw] at ha
  rw [hold] at hx
  have hcommissioned := hx (by omega)
  revert hcommissioned
  decide

theorem reboots_only_commissioned_at_301001 :
    RebootsOnlyCommissioned diagConfig {} [tickAt 1000 .detached, tickAt 301001 .detached] := by
  refine (reboots_only_commissioned_iff diagConfig {} _ rfl rfl ⟨by decide, by decide⟩).mpr ?_
  rintro pre w post hws ⟨-, c, x, -, -, hx, -, -, hnot⟩
  have hmem : x ∈ [tickAt 1000 .detached, tickAt 301001 .detached] := by
    rw [hws]
    exact List.mem_append_left _ hx
  have hall : ∀ y ∈ [tickAt 1000 .detached, tickAt 301001 .detached], isCommissioned y = true := by
    decide
  rw [hall x hmem] at hnot
  cases hnot

end TinyEnvSensor
