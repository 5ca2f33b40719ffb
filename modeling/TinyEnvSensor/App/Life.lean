import TinyEnvSensor.App.Task
import TinyEnvSensor.Diagnostics.Journaled

/-! # The life of a device

The main thread runs `StartApp`. Once it has started its timers, the Matter thread takes up their
work items, and the two threads go on in turns of one function call each, in any order. The source
takes no lock; here a call is over before the other thread has its turn, so calls of the two threads
never overlap, those of `MaybeLogAndPersistHealthSnapshot` included. A reset may come at any time,
in the middle of a function too: then the function has made some of its calls, and what is left are
the settings and `RESETREAS`. `sys_reboot` does not return, so the tick that calls it is the last
work before a reset. In a life the diagnostic settings are the application's own: neither the Matter
server nor a shell command writes or erases them. -/
namespace TinyEnvSensor
open History
set_option autoImplicit false

/-- `AppTask::StartApp` up to the start of its timers, or its error. -/
def startUp (cfg : Config) (w : World) (d : Device) : Device × Option ChipError :=
  match init cfg w d with
  | (d, some err) => (d, some err)
  | (d, none) =>
    if !w.minMeasuredValueGet then (d, some .incorrectState)
    else
      let d := d.call w (.temperatureMinMeasuredValueSet kSht4xMinCentiDegC)
      let d := d.call w (.temperatureMaxMeasuredValueSet kSht4xMaxCentiDegC)
      ({ d with
          sampler.mTemperatureSensorMinValue := kSht4xMinCentiDegC
          sampler.mTemperatureSensorMaxValue := kSht4xMaxCentiDegC }, none)

/-! ## The two threads -/

/-- What the main thread does next: `StartApp`, a function of the first cycle, the main loop, or
nothing after `StartApp` has returned an error. -/
inductive MainThread where
  | startApp
  | sample
  | publish
  | snapshot
  | loop
  | exited
  deriving DecidableEq, Repr

/-- What the Matter thread does next in the work item of the sensor timer; `idle` between items. -/
inductive MatterThread where
  | idle
  | publish
  | snapshot
  | feed
  deriving DecidableEq, Repr

structure Life where
  device : Device
  main : MainThread := .exited
  matter : MatterThread := .idle

/-- A turn of a thread, which is one whole call: the main thread goes on, the Matter thread takes up
a work item or goes on with one. -/
inductive Turn where
  | main
  | sensorWork
  | policyWork
  | matter
  deriving DecidableEq, Repr

/-- The timers are started. -/
def Life.running (l : Life) : Bool := l.main != .startApp && l.main != .exited

def rebooted (d d' : Device) : Bool := decide (.sysReboot ∈ newCalls d d')

def mainTurn (cfg : Config) (w : World) (l : Life) : Life :=
  match l.main with
  | .startApp =>
    match startUp cfg w l.device with
    | (d, none) => { l with device := d, main := .sample }
    | (d, some _) => { l with device := d, main := .exited }
  | .sample =>
    match updateSensorReadings cfg w true l.device with
    | (true, d) => { l with device := d, main := .publish }
    | (false, d) => { l with device := d, main := .loop }
  | .publish => { l with device := updateMatterAttributes cfg w l.device, main := .snapshot }
  | .snapshot =>
    { l with device := maybeLogAndPersistHealthSnapshot cfg w l.device, main := .loop }
  | .loop => { l with device := diagFeedWatchdog cfg w l.device }
  | .exited => l

def sensorWorkTurn (cfg : Config) (w : World) (l : Life) : Life :=
  match l.matter with
  | .idle =>
    match updateSensorReadings cfg w false l.device with
    | (true, d) => { l with device := d, matter := .publish }
    | (false, d) => { l with device := d }
  | _ => l

def policyWorkTurn (cfg : Config) (w : World) (l : Life) : Life :=
  match l.matter with
  | .idle =>
    let d := commissionPolicyTimeoutCallback cfg w l.device
    if rebooted l.device d then { device := d } else { l with device := d }
  | _ => l

def matterTurn (cfg : Config) (w : World) (l : Life) : Life :=
  match l.matter with
  | .idle => l
  | .publish => { l with device := updateMatterAttributes cfg w l.device, matter := .snapshot }
  | .snapshot =>
    { l with device := maybeLogAndPersistHealthSnapshot cfg w l.device, matter := .feed }
  | .feed => { l with device := diagFeedWatchdog cfg w l.device, matter := .idle }

def turn (cfg : Config) (t : Turn) (w : World) (l : Life) : Life :=
  match t with
  | .main => mainTurn cfg w l
  | .sensorWork => if l.running then sensorWorkTurn cfg w l else l
  | .policyWork => if l.running then policyWorkTurn cfg w l else l
  | .matter => if l.running then matterTurn cfg w l else l

/-! ## Resets -/

/-- A reset between two turns, or one that cuts a turn short after some of its calls. In a turn of
`StartApp` that has made no call yet, `RESETREAS` may be cleared or not. The shell's `wipe_settings`
and `decom` are no events of a life. -/
inductive LifeEvent where
  | turn (t : Turn) (w : World)
  | reset (causes : UInt32)
  | cut (t : Turn) (w : World) (calls : ℕ) (cleared : Bool) (causes : UInt32)

/-- What is left of `d` when its way to `d'` ends after some calls. -/
def cutDevice (d d' : Device) (calls : ℕ) (cleared : Bool) : Device :=
  let made := (d'.trace.drop d.trace.length).take calls
  { settings := made.foldl Settings.after d.settings
    resetreas := if cleared || decide (0 < calls) then d'.resetreas else d.resetreas
    trace := d.trace ++ made }

def lifeStep (cfg : Config) (l : Life) (e : LifeEvent) : Life :=
  match e with
  | .turn t w => turn cfg t w l
  | .reset causes => { device := resetDevice causes l.device, main := .startApp }
  | .cut t w calls cleared causes =>
    { device := resetDevice causes
        (cutDevice l.device (turn cfg t w l).device calls cleared)
      main := .startApp }

/-- A device before its first reset. -/
def unborn (store : Settings) : Life := { device := freshDevice store }

def life (cfg : Config) (store : Settings) (es : List LifeEvent) : Life :=
  run (lifeStep cfg) (unborn store) es

/-! ## Where the threads stand -/

section Threads
variable (cfg : Config) (w : World) (l : Life)

theorem mainTurn_main : (mainTurn cfg w l).main ≠ .startApp := by
  unfold mainTurn
  cases hl : l.main <;> dsimp only
  · split <;> simp
  · split <;> simp
  · simp
  · simp
  · simp
  · simp [hl]

theorem sensorWorkTurn_main : (sensorWorkTurn cfg w l).main = l.main := by
  unfold sensorWorkTurn
  cases l.matter with
  | idle =>
    dsimp only
    split <;> rfl
  | _ => rfl

theorem policyWorkTurn_main :
    (policyWorkTurn cfg w l).main = l.main ∨ (policyWorkTurn cfg w l).main = .exited := by
  unfold policyWorkTurn
  cases l.matter with
  | idle =>
    dsimp only
    split
    · exact Or.inr rfl
    · exact Or.inl rfl
  | _ => exact Or.inl rfl

theorem matterTurn_main : (matterTurn cfg w l).main = l.main := by
  unfold matterTurn
  cases l.matter <;> rfl

/-- `StartApp` begins after a reset only. -/
theorem turn_main {t : Turn} (h : t = .main ∨ l.main ≠ .startApp) :
    (turn cfg t w l).main ≠ .startApp := by
  cases t with
  | main => exact mainTurn_main cfg w l
  | sensorWork =>
    obtain h | h := h
    · cases h
    · simp only [turn]
      split
      · rwa [sensorWorkTurn_main]
      · exact h
  | policyWork =>
    obtain h | h := h
    · cases h
    · simp only [turn]
      split
      · obtain hsame | hexited := policyWorkTurn_main cfg w l
        · rwa [hsame]
        · rw [hexited]
          decide
      · exact h
  | matter =>
    obtain h | h := h
    · cases h
    · simp only [turn]
      split
      · rwa [matterTurn_main]
      · exact h

end Threads

/-! ## What a turn comes to -/

/-- The Matter thread takes up a work item. -/
def Life.takesWork (l : Life) : Bool := l.running && decide (l.matter = .idle)

/-- The function that a turn calls, and where its thread stands then. -/
inductive TurnStep (cfg : Config) (w : World) (l : Life) : Turn → Device → Prop
  | idle (t : Turn) (h : t = .main → l.main = .exited) : TurnStep cfg w l t l.device
  | startUp (h : l.main = .startApp) : TurnStep cfg w l .main (startUp cfg w l.device).1
  | mainSample (h : l.main = .sample) :
      TurnStep cfg w l .main (updateSensorReadings cfg w true l.device).2
  | mainPublish (h : l.main = .publish) :
      TurnStep cfg w l .main (updateMatterAttributes cfg w l.device)
  | mainSnapshot (h : l.main = .snapshot) :
      TurnStep cfg w l .main (maybeLogAndPersistHealthSnapshot cfg w l.device)
  | mainFeed (h : l.main = .loop) : TurnStep cfg w l .main (diagFeedWatchdog cfg w l.device)
  | sensorWork (h : l.takesWork = true) :
      TurnStep cfg w l .sensorWork (updateSensorReadings cfg w false l.device).2
  | policyWork (h : l.takesWork = true) :
      TurnStep cfg w l .policyWork (policyStep cfg l.device w)
  | matterPublish (hrunning : l.running = true) (h : l.matter = .publish) :
      TurnStep cfg w l .matter (updateMatterAttributes cfg w l.device)
  | matterSnapshot (hrunning : l.running = true) (h : l.matter = .snapshot) :
      TurnStep cfg w l .matter (maybeLogAndPersistHealthSnapshot cfg w l.device)
  | matterFeed (hrunning : l.running = true) (h : l.matter = .feed) :
      TurnStep cfg w l .matter (diagFeedWatchdog cfg w l.device)

/-- **A turn is one function call or none.** -/
theorem turn_step (cfg : Config) (w : World) (l : Life) (t : Turn) :
    TurnStep cfg w l t (turn cfg t w l).device := by
  have hidle : t ≠ .main → TurnStep cfg w l t l.device := fun h => .idle t fun ht => absurd ht h
  cases t with
  | main =>
    simp only [turn, mainTurn]
    cases hmain : l.main with
    | startApp =>
      have h : TurnStep cfg w l .main (startUp cfg w l.device).1 := .startUp hmain
      dsimp only
      split <;> simp_all
    | sample =>
      have h : TurnStep cfg w l .main (updateSensorReadings cfg w true l.device).2 :=
        .mainSample hmain
      dsimp only
      split <;> simp_all
    | publish => exact .mainPublish hmain
    | snapshot => exact .mainSnapshot hmain
    | loop => exact .mainFeed hmain
    | exited => exact .idle _ fun _ => hmain
  | sensorWork =>
    simp only [turn]
    split
    · rename_i hrunning
      unfold sensorWorkTurn
      cases hmatter : l.matter with
      | idle =>
        have h : TurnStep cfg w l .sensorWork (updateSensorReadings cfg w false l.device).2 :=
          .sensorWork (by simp [Life.takesWork, hrunning, hmatter])
        dsimp only
        split <;> simp_all
      | _ => exact hidle (by decide)
    · exact hidle (by decide)
  | policyWork =>
    simp only [turn]
    split
    · rename_i hrunning
      unfold policyWorkTurn
      cases hmatter : l.matter with
      | idle =>
        have h : TurnStep cfg w l .policyWork (policyStep cfg l.device w) :=
          .policyWork (by simp [Life.takesWork, hrunning, hmatter])
        dsimp only
        split <;> exact h
      | _ => exact hidle (by decide)
    · exact hidle (by decide)
  | matter =>
    simp only [turn]
    split
    · rename_i hrunning
      unfold matterTurn
      cases hmatter : l.matter with
      | idle => exact hidle (by decide)
      | publish => exact .matterPublish hrunning hmatter
      | snapshot => exact .matterSnapshot hrunning hmatter
      | feed => exact .matterFeed hrunning hmatter
    · exact hidle (by decide)

end TinyEnvSensor
