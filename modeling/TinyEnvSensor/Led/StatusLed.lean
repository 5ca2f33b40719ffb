import TinyEnvSensor.Device.State
import TinyEnvSensor.Foundations.History

/-! # The status LED

`LedStatusThread` shows on the red and the blue LED whether the node is commissioned.
`PulseGreenOnce` lights the green one for a moment and holds `sPulseActive` up meanwhile, which
keeps the status thread from its next pass. Threads take turns between any two of their accesses to
a pin, to the flag or to the server; a sleep is a point where others may go on. -/
namespace TinyEnvSensor
open History
set_option autoImplicit false

inductive Led where
  | red
  | green
  | blue
  deriving DecidableEq, Repr

/-- What the build and the board say about the LEDs: `CONFIG_TINYENV_ENABLE_STATUS_LED_ACTIVITY`,
`TINYENV_STATUS_LED_ENABLED`, the devicetree nodes and `device_is_ready` of their ports. -/
structure LedBoard where
  statusLedActivity : Bool := true
  statusLedEnabled : Bool := true
  hasLed : Led → Bool := fun _ => true
  portReady : Led → Bool := fun _ => true

namespace LedBoard
variable (b : LedBoard)

def anyLed : Bool := b.hasLed .red || b.hasLed .green || b.hasLed .blue
def kStatusLedEnabled : Bool := b.statusLedEnabled && b.statusLedActivity

/-- `PulseGreenOnce` lights a LED. -/
def pulses : Bool := b.statusLedActivity && b.hasLed .green

/-- `SetLedState` sets the pin of the LED. -/
def drives (led : Led) : Bool := b.hasLed led && b.portReady led

end LedBoard

def kLedHeartbeatIntervalMs : UInt32 := 5000
def kLedHeartbeatOnMs : UInt32 := 200
def kEnableHeartbeat : Bool := false

/-- The arguments of a call of `SetLeds`. -/
structure Colors where
  redOn : Bool
  greenOn : Bool
  blueOn : Bool
  deriving DecidableEq, Repr

def Colors.on (c : Colors) : Led → Bool
  | .red => c.redOn
  | .green => c.greenOn
  | .blue => c.blueOn

/-- Where `LedStatusThread` stands: not created, at the head of its loop, before one of its two
reads of the server, or before one of the three pins of `SetLeds`. -/
inductive StatusThread where
  | absent
  | load
  | fabrics
  | window (commissioned : Bool)
  | red (c : Colors)
  | green (c : Colors)
  | blue (c : Colors)
  deriving DecidableEq, Repr

/-- The threads that call `PulseGreenOnce`. -/
inductive AppThread where
  | main
  | matter
  deriving DecidableEq, Repr

/-- Where a thread stands in `PulseGreenOnce`: not in it, or before the store of `true`, the pin set
to `1`, the sleep with the pin set to `0`, or the store of `false`. -/
inductive Pulser where
  | away
  | called
  | stored
  | lit
  | dark
  deriving DecidableEq, Repr

def Pulser.next : Pulser → Pulser
  | .away => .away
  | .called => .stored
  | .stored => .lit
  | .lit => .dark
  | .dark => .away

structure Leds where
  pin : Led → Bool := fun _ => false
  sPulseActive : Bool := false
  elapsed : UInt32 := 0
  status : StatusThread := .absent
  pulser : AppThread → Pulser := fun _ => .away

section Functions
variable (b : LedBoard)

def setLedState (led : Led) (on : Bool) (s : Leds) : Leds :=
  if !b.portReady led then s else { s with pin := Function.update s.pin led on }

/-- A line of `SetLeds`, which is there when the devicetree has the LED. -/
def setLed (led : Led) (on : Bool) (s : Leds) : Leds :=
  if b.hasLed led then setLedState b led on s else s

/-- What a pass of the status thread asks of `SetLeds`, and `elapsed` after it. -/
def statusColors (commissioned commissioning : Bool) (elapsed : UInt32) : Colors × UInt32 :=
  if commissioning then (⟨false, false, true⟩, elapsed)
  else if !commissioned then (⟨true, false, false⟩, elapsed)
  else if kEnableHeartbeat then
    (⟨false, decide (elapsed < kLedHeartbeatOnMs), false⟩,
      (elapsed + 200) % kLedHeartbeatIntervalMs)
  else (⟨false, false, false⟩, elapsed)

def ledStatusThread (w : World) (s : Leds) : Leds :=
  match s.status with
  | .absent => s
  | .load =>
    if !b.kStatusLedEnabled then { s with status := .red ⟨false, false, false⟩ }
    else if s.sPulseActive then s
    else { s with status := .fabrics }
  | .fabrics => { s with status := .window (isCommissioned w) }
  | .window commissioned =>
    let (c, elapsed) := statusColors commissioned w.commissioningWindowOpen s.elapsed
    { s with elapsed := elapsed, status := .red c }
  | .red c => { setLed b .red c.redOn s with status := .green c }
  | .green c => { setLed b .green c.greenOn s with status := .blue c }
  | .blue c => { setLed b .blue c.blueOn s with status := .load }

def Leds.setPulser (t : AppThread) (p : Pulser) (s : Leds) : Leds :=
  { s with pulser := Function.update s.pulser t p }

/-- A thread that is not in `PulseGreenOnce` calls it. Without a green LED it just sleeps. -/
def pulseGreenOnce (t : AppThread) (s : Leds) : Leds :=
  if !b.statusLedActivity then s
  else if !b.hasLed .green then s
  else s.setPulser t .called

/-- A thread goes on in `PulseGreenOnce`. -/
def pulseOn (t : AppThread) (s : Leds) : Leds :=
  match s.pulser t with
  | .away => s
  | .called => { s.setPulser t .stored with sPulseActive := true }
  | .stored => setLedState b .green true (s.setPulser t .lit)
  | .lit => setLedState b .green false (s.setPulser t .dark)
  | .dark => { s.setPulser t .away with sPulseActive := false }

/-- The part of `AppTask::Init` that is about the LEDs. -/
def initLeds (s : Leds) : Leds :=
  if b.anyLed && b.kStatusLedEnabled then
    { s with
        pin := fun led => if b.drives led then false else s.pin led
        status := .load }
  else s

end Functions

inductive LedEvent where
  | reset
  | init
  | status (w : World)
  | call (t : AppThread)
  | pulse (t : AppThread)

/-- `Init` runs once in a boot, so it never finds the status thread. -/
def ledStep (b : LedBoard) (s : Leds) (e : LedEvent) : Leds :=
  match e with
  | .reset => {}
  | .init => if s.status = .absent then initLeds b s else s
  | .status w => ledStatusThread b w s
  | .call t => if s.pulser t = .away then pulseGreenOnce b t s else s
  | .pulse t => pulseOn b t s

def leds (b : LedBoard) (es : List LedEvent) : Leds := run (ledStep b) {} es

@[simp] theorem leds_concat (b : LedBoard) (es : List LedEvent) (e : LedEvent) :
    leds b (es ++ [e]) = ledStep b (leds b es) e := run_concat ..

/-! ## What the steps leave alone -/

section Frame
variable (b : LedBoard) (s : Leds)

theorem setLedState_pin (led : Led) (on : Bool) (other : Led) :
    (setLedState b led on s).pin other =
      if other = led ∧ b.portReady led = true then on else s.pin other := by
  unfold setLedState
  cases hready : b.portReady led with
  | false => simp
  | true => by_cases h : other = led <;> simp [Function.update, h]

@[simp] theorem setLedState_sPulseActive (led : Led) (on : Bool) :
    (setLedState b led on s).sPulseActive = s.sPulseActive := by
  unfold setLedState
  split <;> rfl

@[simp] theorem setLedState_status (led : Led) (on : Bool) :
    (setLedState b led on s).status = s.status := by
  unfold setLedState
  split <;> rfl

@[simp] theorem setLedState_pulser (led : Led) (on : Bool) :
    (setLedState b led on s).pulser = s.pulser := by
  unfold setLedState
  split <;> rfl

theorem setLed_pin (led : Led) (on : Bool) (other : Led) :
    (setLed b led on s).pin other =
      if other = led ∧ b.drives led = true then on else s.pin other := by
  unfold setLed
  cases hled : b.hasLed led with
  | false => simp [LedBoard.drives, hled]
  | true => simp [setLedState_pin, LedBoard.drives, hled]

@[simp] theorem setLed_sPulseActive (led : Led) (on : Bool) :
    (setLed b led on s).sPulseActive = s.sPulseActive := by
  unfold setLed
  split <;> simp

@[simp] theorem setLed_pulser (led : Led) (on : Bool) :
    (setLed b led on s).pulser = s.pulser := by
  unfold setLed
  split <;> simp

@[simp] theorem setPulser_pin (t : AppThread) (p : Pulser) : (s.setPulser t p).pin = s.pin := rfl

@[simp] theorem setPulser_sPulseActive (t : AppThread) (p : Pulser) :
    (s.setPulser t p).sPulseActive = s.sPulseActive := rfl

@[simp] theorem setPulser_status (t : AppThread) (p : Pulser) :
    (s.setPulser t p).status = s.status := rfl

@[simp] theorem setPulser_pulser (t t' : AppThread) (p : Pulser) :
    (s.setPulser t p).pulser t' = if t' = t then p else s.pulser t' := by
  simp [Leds.setPulser, Function.update]

/-- The status thread has no part in a pulse. -/
theorem ledStatusThread_pulse (w : World) :
    (ledStatusThread b w s).sPulseActive = s.sPulseActive ∧
      (ledStatusThread b w s).pulser = s.pulser := by
  unfold ledStatusThread
  cases s.status with
  | absent => exact ⟨rfl, rfl⟩
  | load =>
    dsimp only
    split_ifs <;> exact ⟨rfl, rfl⟩
  | fabrics => exact ⟨rfl, rfl⟩
  | window commissioned => exact ⟨rfl, rfl⟩
  | red c => simp
  | green c => simp
  | blue c => simp

/-- A pulse is on the green LED only, and does not move the status thread. -/
theorem pulseOn_display (t : AppThread) :
    (pulseOn b t s).status = s.status ∧
      ∀ led, led ≠ .green → (pulseOn b t s).pin led = s.pin led := by
  unfold pulseOn
  cases s.pulser t with
  | away => exact ⟨rfl, fun _ _ => rfl⟩
  | called => exact ⟨rfl, fun _ _ => rfl⟩
  | stored => exact ⟨by simp, fun led h => by simp [setLedState_pin, h]⟩
  | lit => exact ⟨by simp, fun led h => by simp [setLedState_pin, h]⟩
  | dark => exact ⟨rfl, fun _ _ => rfl⟩

theorem pulseOn_pulser (t t' : AppThread) :
    (pulseOn b t s).pulser t' = if t' = t then (s.pulser t).next else s.pulser t' := by
  unfold pulseOn
  by_cases h : t' = t
  · subst h
    cases hpulser : s.pulser t' <;> simp [hpulser, Pulser.next]
  · cases s.pulser t <;> simp [h]

theorem pulseGreenOnce_pulser (t t' : AppThread) :
    (pulseGreenOnce b t s).pulser t' =
      if t' = t ∧ b.pulses = true then .called else s.pulser t' := by
  unfold pulseGreenOnce
  cases hactivity : b.statusLedActivity <;> cases hled : b.hasLed .green <;>
    simp [LedBoard.pulses, hactivity, hled]

theorem initLeds_pulser : (initLeds b s).pulser = s.pulser := by
  unfold initLeds
  split <;> rfl

theorem pulseGreenOnce_frame (t : AppThread) :
    (pulseGreenOnce b t s).status = s.status ∧ (pulseGreenOnce b t s).pin = s.pin ∧
      (pulseGreenOnce b t s).sPulseActive = s.sPulseActive := by
  unfold pulseGreenOnce
  split_ifs <;> exact ⟨rfl, rfl, rfl⟩

/-- The heartbeat is off, so the status thread never lights the green LED. -/
theorem statusColors_green (commissioned commissioning : Bool) (elapsed : UInt32) :
    (statusColors commissioned commissioning elapsed).1.greenOn = false := by
  cases commissioned <;> cases commissioning <;> rfl

/-- What a pass shows depends on what it read from the server only. -/
theorem statusColors_eq (commissioned commissioning : Bool) (elapsed : UInt32) :
    statusColors commissioned commissioning elapsed =
      (⟨!commissioning && !commissioned, false, commissioning⟩, elapsed) := by
  cases commissioned <;> cases commissioning <;> rfl

end Frame
end TinyEnvSensor
