import Mathlib.Data.Int.Notation
import Mathlib.Tactic.Common

/-! # Build configuration

The Kconfig options the application reads, with the ranges Kconfig enforces carried as fields, and
the compile-time constants of `app_task.h` and `app_task.cpp`. Times are milliseconds. -/
namespace TinyEnvSensor
set_option autoImplicit false

/-- The options of `Kconfig`, plus whether the devicetree has a `wdt0` node. -/
structure Config where
  diagnosticMode : Bool := false
  diagWatchdogTimeoutSec : ℕ := 180
  diagSnapshotIntervalSec : ℕ := 600
  diagDetachedRebootSec : ℕ := 300
  postCommissionThreadTxPowerDbm : ℤ := 0
  disableBoardUi : Bool := false
  statusLedActivity : Bool := true
  hasWdtDev : Bool := true
  watchdog_range : 30 ≤ diagWatchdogTimeoutSec ∧ diagWatchdogTimeoutSec ≤ 3600 := by decide
  snapshot_range : 60 ≤ diagSnapshotIntervalSec ∧ diagSnapshotIntervalSec ≤ 3600 := by decide
  reboot_range : 60 ≤ diagDetachedRebootSec ∧ diagDetachedRebootSec ≤ 3600 := by decide
  txPower_range :
    -20 ≤ postCommissionThreadTxPowerDbm ∧ postCommissionThreadTxPowerDbm ≤ 20 := by decide

/-- The default build of `prj.conf`: diagnostic mode on, every other option at its default. -/
def diagConfig : Config := { diagnosticMode := true }

def kSensorUpdateIntervalMs : ℤ := 60000
def kCommissionGraceMs : ℤ := 30000
def kCommissionWindowPostCloseGraceMs : ℤ := 180000
def kCommissionAwakeKickPeriodMs : ℤ := 1000
def kCommissioningThreadTxPowerDbm : Int8 := 8

namespace Config
variable (cfg : Config)

def kDiagSnapshotIntervalMs : ℤ := (cfg.diagSnapshotIntervalSec : ℤ) * 1000
def kDetachedRebootThresholdMs : ℤ := (cfg.diagDetachedRebootSec : ℤ) * 1000
def kPostCommissionThreadTxPowerDbm : Int8 := Int8.ofInt cfg.postCommissionThreadTxPowerDbm

def watchdogTimeoutMs : ℤ := (cfg.diagWatchdogTimeoutSec : ℤ) * 1000

theorem kDiagSnapshotIntervalMs_pos : 0 < cfg.kDiagSnapshotIntervalMs := by
  have h := cfg.snapshot_range.1
  unfold kDiagSnapshotIntervalMs
  omega

theorem kDetachedRebootThresholdMs_pos : 0 < cfg.kDetachedRebootThresholdMs := by
  have h := cfg.reboot_range.1
  unfold kDetachedRebootThresholdMs
  omega

theorem kPostCommissionThreadTxPowerDbm_toInt :
    cfg.kPostCommissionThreadTxPowerDbm.toInt = cfg.postCommissionThreadTxPowerDbm := by
  have h := cfg.txPower_range
  exact Int8.toInt_ofInt_of_le (by omega) (by omega)

end Config
end TinyEnvSensor
