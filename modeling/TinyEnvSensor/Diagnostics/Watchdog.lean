import TinyEnvSensor.Device.State

/-! # The diagnostic watchdog

`DiagInitWatchdog` and `DiagFeedWatchdog`. A channel below zero means that the watchdog was not
installed or not set up, and is never fed. -/
namespace TinyEnvSensor
set_option autoImplicit false

def diagInitWatchdog (cfg : Config) (w : World) (d : Device) : Device :=
  if !cfg.diagnosticMode || !cfg.hasWdtDev || !w.wdtReady then d
  else
    let d := d.call w (.wdtInstallTimeout cfg.watchdogTimeoutMs w.wdtInstallTimeout)
    let d := { d with mWdtChannel := w.wdtInstallTimeout }
    if d.mWdtChannel < 0 then { d with mWdtChannel := -1 }
    else
      let d := d.call w (.wdtSetup w.wdtSetup)
      if w.wdtSetup ≠ 0 then { d with mWdtChannel := -1 } else d

def diagFeedWatchdog (cfg : Config) (w : World) (d : Device) : Device :=
  if !cfg.diagnosticMode || decide (d.mWdtChannel < 0) || !cfg.hasWdtDev then d
  else d.call w (.wdtFeed d.mWdtChannel)

/-! ## The calls -/

def wdtInitCalls (cfg : Config) (w : World) : List Call :=
  if !cfg.diagnosticMode || !cfg.hasWdtDev || !w.wdtReady then []
  else .wdtInstallTimeout cfg.watchdogTimeoutMs w.wdtInstallTimeout ::
    if w.wdtInstallTimeout < 0 then [] else [.wdtSetup w.wdtSetup]

/-- The feed of a channel, if it is one that is fed. -/
def feedCalls (cfg : Config) (channel : ℤ) : List Call :=
  if !cfg.diagnosticMode || decide (channel < 0) || !cfg.hasWdtDev then [] else [.wdtFeed channel]

section Watchdog
variable (cfg : Config) (w : World) (d : Device)

theorem diagInitWatchdog_frame :
    (diagInitWatchdog cfg w d).toAppTask =
      { d.toAppTask with mWdtChannel := (diagInitWatchdog cfg w d).mWdtChannel } := by
  simp only [diagInitWatchdog]
  split_ifs <;> rfl

theorem diagInitWatchdog_trace :
    (diagInitWatchdog cfg w d).trace =
      d.trace ++ (wdtInitCalls cfg w).map (Event.mk w.uptimeMs) := by
  simp only [diagInitWatchdog, wdtInitCalls]
  split_ifs <;> simp

@[simp] theorem diagFeedWatchdog_toAppTask :
    (diagFeedWatchdog cfg w d).toAppTask = d.toAppTask := by
  unfold diagFeedWatchdog
  split <;> rfl

@[simp] theorem diagInitWatchdog_sense : (diagInitWatchdog cfg w d).sense = d.sense := by
  simp only [diagInitWatchdog]
  split_ifs <;> rfl

@[simp] theorem diagFeedWatchdog_sense : (diagFeedWatchdog cfg w d).sense = d.sense := by
  unfold diagFeedWatchdog
  split <;> rfl

theorem diagFeedWatchdog_trace :
    (diagFeedWatchdog cfg w d).trace =
      d.trace ++ (feedCalls cfg d.mWdtChannel).map (Event.mk w.uptimeMs) := by
  unfold diagFeedWatchdog feedCalls
  split <;> simp

theorem mem_feedCalls {cfg : Config} {channel : ℤ} {c : Call} (hc : c ∈ feedCalls cfg channel) :
    c = .wdtFeed channel := by
  unfold feedCalls at hc
  split at hc
  · simp at hc
  · exact List.mem_singleton.mp hc

end Watchdog
end TinyEnvSensor
