import TinyEnvSensor.Device.Config
import TinyEnvSensor.Foundations.History
import Mathlib.Data.List.AList
import Mathlib.Data.Rat.Defs

/-! # The device: application state, hardware state and the outside world

`AppTask` groups the members of the class `AppTask` by the functions that own them. `Device` adds
what lives outside the class: the function statics of the battery code, the VBAT enable pin, the
settings partition, the `RESETREAS` register, and the trace of calls made to the outside.

`World` holds the answers the outside gives during one work item (one boot, one timer tick, one
call). The clock has one reading per work item: every `k_uptime_get` in it returns `uptimeMs`. Only
the feed of the watchdog, which reads no clock, has a time of its own: it comes after the sleeps of
its work item. Uptimes are integers; the `int64_t` arithmetic on them cannot overflow in a device's
life. -/
namespace TinyEnvSensor
open History
set_option autoImplicit false

inductive OtDeviceRole where
  | disabled
  | detached
  | child
  | router
  | leader
  deriving DecidableEq, Repr

def OtDeviceRole.toUInt32 : OtDeviceRole → UInt32
  | .disabled => 0
  | .detached => 1
  | .child => 2
  | .router => 3
  | .leader => 4

/-- The values that `DiagOnBoot` loads; all but the last are the six persistent counters. -/
inductive DiagField where
  | bootCount
  | wdtResetCount
  | threadDetachCount
  | threadReattachCount
  | sensorFailureCount
  | adcFailureCount
  | lastResetReas
  deriving DecidableEq, Repr

def DiagField.isCounter : DiagField → Bool
  | .lastResetReas => false
  | _ => true

structure SensorValue where
  val1 : ℤ
  val2 : ℤ
  deriving DecidableEq, Repr

inductive SensorChannel where
  | ambientTemp
  | humidity
  deriving DecidableEq, Repr

inductive PowerSourceAttribute where
  | status
  | batPresent
  | batReplaceability
  | batChargeLevel
  | batVoltage
  | batPercentRemaining
  deriving DecidableEq, Repr

inductive ChipError where
  | incorrectState
  | bufferTooSmall
  | internal
  | callee (code : ℕ)
  deriving DecidableEq, Repr

/-! ## Calls to the outside -/

/-- A call the application makes, with the answer it got. A radio request without an OpenThread
instance has no answer. -/
inductive Call where
  | settingsSaveOne (key : String) (value : UInt32) (rc : ℤ)
  | wdtInstallTimeout (windowMaxMs : ℤ) (rc : ℤ)
  | wdtSetup (rc : ℤ)
  | wdtFeed (channel : ℤ)
  | radioRequest (dbm : Int8) (err : Option ℕ)
  | onNetworkActivity
  | sysReboot
  | sensorSampleFetch (rc : ℤ)
  | sensorChannelGet (chan : SensorChannel) (rc : ℤ)
  | temperatureMinMeasuredValueSet (value : Int16)
  | temperatureMaxMeasuredValueSet (value : Int16)
  | temperatureMeasuredValueSet (value : Int16)
  | humidityMeasuredValueSet (value : UInt16)
  | powerSourceSet (attr : PowerSourceAttribute) (value : UInt32)
  | gpioPinConfigure (err : ℤ)
  | gpioPinSet (level : ℤ)
  | adcChannelSetup (err : ℤ)
  | adcRead (err : ℤ) (raw : Int16)
  | diagSnapshotLog (uptimeSec : UInt32) (role : OtDeviceRole)
      (detach reattach sensorFail adcFail : UInt32)
  deriving DecidableEq, Repr

structure Event where
  atMs : ℤ
  call : Call
  deriving DecidableEq, Repr

/-! ## Answers of the outside

Return codes are integers, `0` for success. `parentInfo` is `none` when `otThreadGetParentInfo`
fails. -/

structure ThreadReply where
  role : OtDeviceRole := .disabled
  parentInfo : Option UInt16 := none
  deriving DecidableEq, Repr

structure AdcReply where
  err : ℤ := 0
  raw : Int16 := 0
  deriving DecidableEq, Repr

/-- The answers of the outside during one work item. The instance that `HandleThreadStateChange`
finds and the one `ApplyThreadTxPower` sends its request to are separate answers; either may be null
(`none`). The settings answers go by key: the result of a save, whether a load hands the entry over
before it ends, and what `read_cb` then returns. ADC reads go by their index within one battery
reading. `shtReady` says that an SHT4x is in the devicetree and ready, `minMeasuredValueGet` that
the attribute is read and not null. `busyMs` is how long the calls of a cycle take in all, its
sleeps aside. -/
structure World where
  uptimeMs : ℤ := 1
  busyMs : ℤ := 0
  fabricCount : ℕ := 0
  commissioningWindowOpen : Bool := false
  threadInstance : Option ThreadReply := some {}
  radio : Option ℕ := some 0
  settingsSaveOne : String → ℤ := fun _ => 0
  settingsDelivers : String → Bool := fun _ => true
  readCb : String → ℤ := fun _ => 4
  sensorSampleFetch : ℤ := 0
  temperatureGet : ℤ := 0
  humidityGet : ℤ := 0
  temperature : SensorValue := ⟨0, 0⟩
  humidity : SensorValue := ⟨0, 0⟩
  adcReady : Bool := true
  gpioReady : Bool := true
  gpioPinConfigure : ℤ := 0
  adcChannelSetup : ℤ := 0
  adcRead : ℕ → AdcReply := fun _ => {}
  prepareServer : Option ChipError := none
  boardInit : Bool := true
  registerEventHandler : Option ChipError := none
  identifyInit : Option ChipError := none
  startServer : Option ChipError := none
  shtReady : Bool := true
  wdtReady : Bool := true
  wdtInstallTimeout : ℤ := 0
  wdtSetup : ℤ := 0
  minMeasuredValueGet : Bool := true

def isCommissioned (w : World) : Bool := decide (0 < w.fabricCount)

/-- The same answers, `ms` later. -/
def World.later (w : World) (ms : ℤ) : World := { w with uptimeMs := w.uptimeMs + ms }

/-! ## State

The members of `AppTask` by owner: `HandleThreadStateChange`, then `UpdateCommissioningAwakePolicy`
with `ApplyThreadTxPower`, then sampling. `mDiag` holds `mDiagBootCount` to `mDiagLastResetReas`.
`BatterySense` holds the function statics of `InitBatterySense`, and `vbatEnable` the level of the
VBAT enable pin, `none` before it is configured. -/

structure ThreadTracker where
  mLastThreadRole : OtDeviceRole := .disabled
  mLastParentRloc16 : UInt16 := 0
  mHasLastParent : Bool := false
  mThreadDetached : Bool := false
  mThreadDetachedSinceMs : ℤ := 0
  deriving DecidableEq, Repr

structure AwakePolicy where
  mCommissioningWindowOpen : Bool := false
  mStayAwakeUntilMs : ℤ := 0
  mLastAwakeKickMs : ℤ := 0
  mAppliedThreadTxPowerDbm : Int8 := -128
  deriving DecidableEq, Repr

structure Sampler where
  mShtReady : Bool := false
  mCommissionedAtMs : ℤ := 0
  mWasCommissioned : Bool := false
  mCurrentTemperature : Int16 := 0
  mCurrentHumidity : UInt16 := 0
  mTemperatureSensorMaxValue : Int16 := 0
  mTemperatureSensorMinValue : Int16 := 0
  deriving DecidableEq, Repr

structure AppTask where
  thread : ThreadTracker := {}
  awake : AwakePolicy := {}
  sampler : Sampler := {}
  mLastHealthSnapshotMs : ℤ := 0
  mWdtChannel : ℤ := -1
  mDiag : DiagField → UInt32 := fun _ => 0

structure BatterySense where
  sInit : Bool := false
  sReady : Bool := false
  deriving DecidableEq, Repr

/-- A settings entry as stored: its length and the `uint32_t` its first four bytes make. -/
structure Payload where
  len : ℕ
  value : UInt32
  deriving DecidableEq, Repr

abbrev Settings := AList fun _ : String => Payload

structure Device extends AppTask where
  sense : BatterySense := {}
  vbatEnable : Option ℤ := none
  settings : Settings := ∅
  resetreas : UInt32 := 0
  trace : List Event := []

/-! ## The trace -/

/-- Make a call: it is recorded with the uptime of the work item. -/
def Device.call (d : Device) (w : World) (c : Call) : Device :=
  { d with trace := d.trace ++ [⟨w.uptimeMs, c⟩] }

/-- The calls that a step from `d` to `d'` added to the trace. -/
def newCalls (d d' : Device) : List Call := (d'.trace.drop d.trace.length).map Event.call

section Trace
variable (d : Device) (w : World) (c : Call)

@[simp] theorem call_toAppTask : (d.call w c).toAppTask = d.toAppTask := rfl
@[simp] theorem call_sense : (d.call w c).sense = d.sense := rfl
@[simp] theorem call_vbatEnable : (d.call w c).vbatEnable = d.vbatEnable := rfl
@[simp] theorem call_settings : (d.call w c).settings = d.settings := rfl
@[simp] theorem call_resetreas : (d.call w c).resetreas = d.resetreas := rfl
@[simp] theorem call_trace : (d.call w c).trace = d.trace ++ [⟨w.uptimeMs, c⟩] := rfl

theorem foldl_call (l : List Call) :
    (l.foldl (fun d c => d.call w c) d).toAppTask = d.toAppTask ∧
      (l.foldl (fun d c => d.call w c) d).trace = d.trace ++ l.map (Event.mk w.uptimeMs) := by
  induction l generalizing d with
  | nil => simp
  | cons c l ih =>
    obtain ⟨htask, htrace⟩ := ih (d.call w c)
    refine ⟨htask, htrace.trans ?_⟩
    simp

end Trace

theorem newCalls_of_append {d d' : Device} {l : List Event} (h : d'.trace = d.trace ++ l) :
    newCalls d d' = l.map Event.call := by
  rw [newCalls, h, List.drop_left]

theorem newCalls_eq {d d' : Device} {atMs : ℤ} {l : List Call}
    (h : d'.trace = d.trace ++ l.map (Event.mk atMs)) : newCalls d d' = l := by
  rw [newCalls_of_append h, List.map_map]
  exact List.map_id _

@[simp] theorem newCalls_self (d : Device) : newCalls d d = [] := by
  rw [newCalls, List.drop_length, List.map_nil]

theorem newCalls_trans {d₀ d d' : Device} (h₀ : d₀.trace <+: d.trace) (h : d.trace <+: d'.trace) :
    newCalls d₀ d' = newCalls d₀ d ++ newCalls d d' := by
  obtain ⟨l₀, hl₀⟩ := h₀
  obtain ⟨l, hl⟩ := h
  have hall : d'.trace = d₀.trace ++ (l₀ ++ l) := by rw [← hl, ← hl₀, List.append_assoc]
  rw [newCalls_of_append hall, newCalls_of_append hl₀.symm, newCalls_of_append hl.symm,
    List.map_append]

/-- The times of the calls of a kind in a trace. -/
def timesOf (p : Call → Bool) (trace : List Event) : List ℤ :=
  trace.filterMap fun ev => if p ev.call then some ev.atMs else none

theorem timesOf_events (p : Call → Bool) (trace evs : List Event) :
    timesOf p (trace ++ evs) = timesOf p trace ++ timesOf p evs := List.filterMap_append ..

theorem timesOf_calls (p : Call → Bool) (atMs : ℤ) (l : List Call) :
    timesOf p (l.map (Event.mk atMs)) = List.replicate (l.countP p) atMs := by
  unfold timesOf
  induction l with
  | nil => rfl
  | cons c l ih => cases hc : p c <;> simp [hc, ih, List.replicate_succ]

theorem timesOf_append (p : Call → Bool) (trace : List Event) (atMs : ℤ) (l : List Call) :
    timesOf p (trace ++ l.map (Event.mk atMs)) =
      timesOf p trace ++ List.replicate (l.countP p) atMs := by
  rw [timesOf_events, timesOf_calls]

theorem length_timesOf (p : Call → Bool) (trace : List Event) :
    (timesOf p trace).length = (trace.map Event.call).countP p := by
  unfold timesOf
  rw [List.length_filterMap_eq_countP, List.countP_map]
  congr 1
  funext ev
  cases h : p ev.call <;> simp [h]

/-! ## Runs that only add to the trace -/

section Runs
variable {α : Type} {step : Device → α → Device}

theorem run_extends (hstep : ∀ d a, d.trace <+: (step d a).trace) (d : Device) (l : List α) :
    d.trace <+: (run step d l).trace := by
  induction l using List.reverseRecOn with
  | nil => exact List.prefix_rfl
  | append_singleton l a ih =>
    rw [run_concat]
    exact ih.trans (hstep _ a)

theorem newCalls_run_concat (hstep : ∀ d a, d.trace <+: (step d a).trace) (d : Device)
    (l : List α) (a : α) :
    newCalls d (run step d (l ++ [a])) =
      newCalls d (run step d l) ++ newCalls (run step d l) (step (run step d l) a) := by
  rw [run_concat]
  exact newCalls_trans (run_extends hstep d l) (hstep _ a)

end Runs

end TinyEnvSensor
