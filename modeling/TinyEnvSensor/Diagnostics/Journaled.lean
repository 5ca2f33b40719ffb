import TinyEnvSensor.Diagnostics.Ledger
import TinyEnvSensor.Diagnostics.Watchdog
import TinyEnvSensor.Foundations.Journal

/-! # The trace as a journal of the diagnostic records

The calls that a device makes say all that happens to its diagnostic records: the settings, the
counters in RAM, the watchdog, the time of the last snapshot and `RESETREAS`. `applyEvent` moves the
records by one call, `Allowed` says which calls may come in which records, and `Owner` which part of
the application makes a call. -/
namespace TinyEnvSensor
open Journal
set_option autoImplicit false

/-! ## Records -/

/-- What a call leaves in the settings partition. -/
def Settings.after (s : Settings) (ev : Event) : Settings :=
  match ev.call with
  | .settingsSaveOne key value rc => if rc = 0 then s.insert key ⟨4, value⟩ else s
  | _ => s

/-- `armed` is ahead of the channel by the call of `wdt_setup`. -/
structure Records where
  settings : Settings
  mDiag : DiagField → UInt32
  mWdtChannel : ℤ
  armed : Bool
  mLastHealthSnapshotMs : ℤ
  resetreas : UInt32

def records (d : Device) : Records :=
  ⟨d.settings, d.mDiag, d.mWdtChannel, decide (0 ≤ d.mWdtChannel), d.mLastHealthSnapshotMs,
    d.resetreas⟩

def applyEvent (r : Records) (ev : Event) : Records :=
  match ev.call with
  | .settingsSaveOne key value rc =>
    { r with
      settings := if rc = 0 then r.settings.insert key ⟨4, value⟩ else r.settings
      mDiag := fun f => if diagKey f = key then value else r.mDiag f }
  | .wdtInstallTimeout _ rc =>
    { r with
      mWdtChannel := if rc < 0 then -1 else rc
      armed := false }
  | .wdtSetup rc =>
    { r with
      mWdtChannel := if rc ≠ 0 then -1 else r.mWdtChannel
      armed := decide (rc = 0) }
  | .diagSnapshotLog _ _ _ _ _ _ => { r with mLastHealthSnapshotMs := ev.atMs }
  | _ => r

def deviceReader : Reader Device Event Records := ⟨Device.trace, records, applyEvent⟩

@[simp] theorem deviceReader_log (d : Device) : deviceReader.log d = d.trace := rfl

@[simp] theorem deviceReader_view (d : Device) : deviceReader.view d = records d := rfl

@[simp] theorem deviceReader_apply (r : Records) (ev : Event) :
    deviceReader.apply r ev = applyEvent r ev := rfl

/-! ## Who makes which calls -/

inductive Owner where
  | startUp
  | sampling
  | publishing
  | policy
  | snapshot
  | feeding
  deriving DecidableEq, Repr

/-- A save under a foreign key has no owner. -/
def Call.owner : Call → Option Owner
  | .settingsSaveOne key _ _ =>
    if key = diagKey .bootCount ∨ key = diagKey .lastResetReas ∨ key = diagKey .wdtResetCount then
      some .startUp
    else if key = diagKey .sensorFailureCount then some .sampling
    else if key = diagKey .adcFailureCount then some .publishing
    else if key = diagKey .threadDetachCount ∨ key = diagKey .threadReattachCount then some .policy
    else if key = kDiagKeyLastUptimeSec ∨ key = kDiagKeyLastThreadRole then some .snapshot
    else none
  | .wdtInstallTimeout _ _ => some .startUp
  | .wdtSetup _ => some .startUp
  | .wdtFeed _ => some .feeding
  | .radioRequest _ _ => some .policy
  | .onNetworkActivity => some .policy
  | .sysReboot => some .policy
  | .sensorSampleFetch _ => some .sampling
  | .sensorChannelGet _ _ => some .sampling
  | .temperatureMinMeasuredValueSet _ => some .startUp
  | .temperatureMaxMeasuredValueSet _ => some .startUp
  | .temperatureMeasuredValueSet _ => some .publishing
  | .humidityMeasuredValueSet _ => some .publishing
  | .powerSourceSet _ _ => some .publishing
  | .gpioPinConfigure _ => some .publishing
  | .gpioPinSet _ => some .publishing
  | .adcChannelSetup _ => some .publishing
  | .adcRead _ _ => some .publishing
  | .diagSnapshotLog _ _ _ _ _ _ => some .snapshot

/-- What must hold of the records when a call is made. -/
def Allowed (cfg : Config) (r : Records) (ev : Event) : Prop :=
  match ev.call with
  | .settingsSaveOne key value _ =>
    cfg.diagnosticMode = true ∧
      ∀ f : DiagField, f.isCounter = true → key = diagKey f → value = r.mDiag f + 1
  | .wdtInstallTimeout _ _ => cfg.diagnosticMode = true
  | .wdtSetup _ => cfg.diagnosticMode = true ∧ 0 ≤ r.mWdtChannel
  | .wdtFeed channel => cfg.diagnosticMode = true ∧ r.armed = true ∧ channel = r.mWdtChannel
  | .sysReboot => cfg.diagnosticMode = true ∧ cfg.kDetachedRebootThresholdMs < ev.atMs
  | .diagSnapshotLog uptimeSec _ detach reattach sensorFail adcFail =>
    cfg.diagnosticMode = true ∧ uptimeSec = UInt32.ofInt (ev.atMs.tdiv 1000) ∧
      detach = r.mDiag .threadDetachCount ∧ reattach = r.mDiag .threadReattachCount ∧
      sensorFail = r.mDiag .sensorFailureCount ∧ adcFail = r.mDiag .adcFailureCount
  | _ => True

def Made (cfg : Config) (owners : List Owner) (r : Records) (ev : Event) : Prop :=
  Allowed cfg r ev ∧ ∃ o ∈ owners, ev.call.owner = some o

/-- From `d` to `d'` the owners made calls that account for the records. -/
abbrev Does (cfg : Config) (owners : List Owner) (d d' : Device) : Prop :=
  Writes deviceReader (Made cfg owners) d d'

/-- A call that is allowed in any records and leaves them alone. -/
def Call.plain : Call → Bool
  | .settingsSaveOne _ _ _ => false
  | .wdtInstallTimeout _ _ => false
  | .wdtSetup _ => false
  | .wdtFeed _ => false
  | .sysReboot => false
  | .diagSnapshotLog _ _ _ _ _ _ => false
  | _ => true

section Calls
variable {cfg : Config} {owners : List Owner} {o : Owner} {w : World} {d : Device} {c : Call}

theorem Call.plain.allowed (cfg : Config) (hc : c.plain = true) (r : Records) (atMs : ℤ) :
    Allowed cfg r ⟨atMs, c⟩ ∧ applyEvent r ⟨atMs, c⟩ = r := by
  cases c <;> first | exact ⟨trivial, rfl⟩ | cases hc

theorem Does.widen {owners' : List Owner} {d' : Device} (h : Does cfg owners d d')
    (hsub : owners ⊆ owners') : Does cfg owners' d d' := by
  refine h.mono fun r ev ⟨hallowed, o, ho, howner⟩ => ?_
  exact ⟨hallowed, o, hsub ho, howner⟩

theorem does_call (o : Owner) (ho : o ∈ owners) (howner : c.owner = some o) (hc : c.plain = true) :
    Does cfg owners d (d.call w c) := by
  obtain ⟨hallowed, happly⟩ := Call.plain.allowed cfg hc (records d) w.uptimeMs
  exact Writes.entry rfl ⟨hallowed, o, ho, howner⟩ happly.symm

theorem does_calls (o : Owner) (ho : o ∈ owners) (l : List Call)
    (hl : ∀ c ∈ l, c.owner = some o ∧ c.plain = true) :
    Does cfg owners d (l.foldl (fun d c => d.call w c) d) := by
  induction l generalizing d with
  | nil => exact Writes.refl d
  | cons c l ih =>
    obtain ⟨howner, hc⟩ := hl c (by simp)
    exact (does_call o ho howner hc).trans (ih fun c hc => hl c (by simp [hc]))

theorem accepts_others {r : Records} {evs : List Event}
    (h : Accepts deviceReader (Made cfg owners) r evs) (ho : o ∉ owners) :
    ∀ ev ∈ evs, ev.call.owner ≠ some o := by
  refine h.forall fun r ev hmade howner => ?_
  obtain ⟨-, o', hmem, howner'⟩ := hmade
  rw [howner] at howner'
  exact ho (Option.some_inj.mp howner' ▸ hmem)

/-- What only the calls of `o` move is kept by the others. -/
theorem Does.kept {ν : Type} {d' : Device} (h : Does cfg owners d d') (ho : o ∉ owners)
    (part : Records → ν)
    (hpart : ∀ r ev, ev.call.owner ≠ some o → part (applyEvent r ev) = part r) :
    part (records d') = part (records d) := by
  obtain ⟨evs, -, haccepts, hrecords⟩ := h
  have hothers := accepts_others haccepts ho
  have hsame : records d' = replay deviceReader (records d) evs := hrecords
  rw [hsame]
  exact replay_kept part (fun r ev hev => hpart r ev (hothers ev hev)) (records d)

end Calls

/-! ## The functions of the diagnostics -/

section Functions
variable {cfg : Config} {w : World} {d : Device}

theorem update_of_diagKey (m : DiagField → UInt32) (f : DiagField) (value : UInt32) :
    (fun g => if diagKey g = diagKey f then value else m g) = Function.update m f value := by
  funext g
  by_cases hg : g = f
  · subst hg
    simp
  · rw [if_neg fun hkey => hg (diagKey_injective hkey), Function.update_of_ne hg]

theorem settings_diagRaise (f : DiagField) :
    (diagRaise w f d).settings =
      if w.settingsSaveOne (diagKey f) = 0 then d.settings.insert (diagKey f) ⟨4, d.mDiag f + 1⟩
      else d.settings := by
  simp only [diagRaise, saveDiagValue_settings, Function.update_self]

theorem does_diagRaise {owners : List Owner} {f : DiagField} (o : Owner) (ho : o ∈ owners)
    (hdiag : cfg.diagnosticMode = true)
    (howner : ∀ value rc, (Call.settingsSaveOne (diagKey f) value rc).owner = some o) :
    Does cfg owners d (diagRaise w f d) := by
  refine Writes.entry (diagRaise_trace w f d) ⟨⟨hdiag, fun g _ hkey => ?_⟩, o, ho, howner _ _⟩ ?_
  · rw [diagKey_injective hkey]
    rfl
  · simp only [deviceReader_view, deviceReader_apply, records, applyEvent, diagRaise_toAppTask,
      diagRaise_resetreas, settings_diagRaise, update_of_diagKey]

theorem does_diagCount {owners : List Owner} {f : DiagField} (o : Owner) (ho : o ∈ owners)
    (howner : ∀ value rc, (Call.settingsSaveOne (diagKey f) value rc).owner = some o) :
    Does cfg owners d (diagCount cfg w f d) := by
  unfold diagCount
  cases hdiag : cfg.diagnosticMode with
  | false => exact Writes.refl d
  | true => exact does_diagRaise o ho hdiag howner

theorem does_noteResetReas (hdiag : cfg.diagnosticMode = true) (r : UInt32) :
    Does cfg [.startUp] d (noteResetReas w r d) := by
  refine Writes.entry (saveDiagValue_trace w (diagKey .lastResetReas) r d)
    ⟨⟨hdiag, fun f hf hkey => ?_⟩, .startUp, by simp, rfl⟩ ?_
  · rw [← diagKey_injective hkey] at hf
    cases hf
  · simp only [deviceReader_view, deviceReader_apply, records, applyEvent, noteResetReas,
      saveDiagValue_toAppTask, saveDiagValue_settings, saveDiagValue_resetreas, update_of_diagKey]

/-- A boot reads the records of the counters from the settings and then counts itself. -/
theorem does_diagOnBoot (hdiag : cfg.diagnosticMode = true) :
    Does cfg [.startUp] (loadedDevice w d) (diagOnBoot cfg w d) := by
  have hboot : Does cfg [.startUp] (loadedDevice w d) (diagRaise w .bootCount (loadedDevice w d)) :=
    does_diagRaise .startUp (by simp) hdiag fun _ _ => rfl
  have hnoted := hboot.trans (does_noteResetReas (w := w) hdiag d.resetreas)
  rw [diagOnBoot_eq cfg w d hdiag]
  refine Writes.ite (fun _ => hnoted.trans ?_) fun _ => hnoted
  exact does_diagRaise .startUp (by simp) hdiag fun _ _ => rfl

theorem settings_snapshot (hdue : snapshotDue cfg w d.mLastHealthSnapshotMs = true) :
    (maybeLogAndPersistHealthSnapshot cfg w d).settings =
      (saveDiagValue w kDiagKeyLastThreadRole d.thread.mLastThreadRole.toUInt32
        (saveDiagValue w kDiagKeyLastUptimeSec (UInt32.ofInt (w.uptimeMs.tdiv 1000))
          d).2).2.settings := by
  unfold snapshotDue at hdue
  obtain ⟨hdiag, hlimit⟩ := Bool.and_eq_true_iff.mp hdue
  rw [← Bool.decide_and, Bool.not_eq_true', decide_eq_false_iff_not] at hlimit
  simp only [maybeLogAndPersistHealthSnapshot, hdiag, Bool.not_true, Bool.false_eq_true, if_false,
    if_neg hlimit, call_settings, saveDiagValue_settings, saveDiagValue_toAppTask]

@[simp] theorem resetreas_snapshot :
    (maybeLogAndPersistHealthSnapshot cfg w d).resetreas = d.resetreas := by
  simp only [maybeLogAndPersistHealthSnapshot]
  split_ifs <;> simp

theorem does_snapshot : Does cfg [.snapshot] d (maybeLogAndPersistHealthSnapshot cfg w d) := by
  obtain ⟨-, h⟩ | ⟨hdue, htask, htrace⟩ := snapshot_cases cfg w d
  · rw [h]
    exact Writes.refl d
  · have hdiag : cfg.diagnosticMode = true := (Bool.and_eq_true_iff.mp hdue).1
    have hsettings := settings_snapshot hdue
    rw [saveDiagValue_settings, saveDiagValue_settings] at hsettings
    have huptime := diagKey_ne_lastUptimeSec
    have hrole := diagKey_ne_lastThreadRole
    refine ⟨_, htrace, ⟨⟨⟨hdiag, fun f _ h => absurd h.symm (huptime f)⟩, .snapshot, by simp,
      rfl⟩, ⟨⟨hdiag, fun f _ h => absurd h.symm (hrole f)⟩, .snapshot, by simp, rfl⟩,
      ⟨⟨hdiag, rfl, ?_⟩, .snapshot, by simp, rfl⟩, trivial⟩, ?_⟩
    · simp [applyEvent, records, huptime, hrole]
    · simp only [snapshotCalls, List.map_cons, List.map_nil, replay_cons, replay_nil,
        deviceReader_view, deviceReader_apply, records, applyEvent, htask, hsettings, huptime,
        hrole, resetreas_snapshot, if_false]

theorem does_diagFeedWatchdog : Does cfg [.feeding] d (diagFeedWatchdog cfg w d) := by
  unfold diagFeedWatchdog
  refine Writes.ite (fun _ => Writes.refl d) fun hfed => ?_
  simp only [Bool.or_eq_true, Bool.not_eq_true', decide_eq_true_eq, not_or, not_lt,
    Bool.not_eq_false] at hfed
  exact Writes.entry rfl ⟨⟨hfed.1.1, decide_eq_true hfed.1.2, rfl⟩, .feeding, by simp, rfl⟩ rfl

theorem does_diagInitWatchdog : Does cfg [.startUp] d (diagInitWatchdog cfg w d) := by
  simp only [diagInitWatchdog]
  refine Writes.ite (fun _ => Writes.refl d) fun hon => ?_
  simp only [Bool.or_eq_true, Bool.not_eq_true', not_or, Bool.not_eq_false] at hon
  have hdiag : cfg.diagnosticMode = true := hon.1.1
  refine Writes.ite (fun hfailed => ?_) fun hinstalled => ?_
  · refine Writes.entry rfl ⟨hdiag, .startUp, by simp, rfl⟩ ?_
    simp [records, applyEvent, hfailed]
  · have hchannel : (w.wdtInstallTimeout < 0) = False := eq_false hinstalled
    -- installed, and either set up or given up
    have htwo : ∀ d' : Device, d'.trace = d.trace ++
          [⟨w.uptimeMs, .wdtInstallTimeout cfg.watchdogTimeoutMs w.wdtInstallTimeout⟩,
            ⟨w.uptimeMs, .wdtSetup w.wdtSetup⟩] →
        records d' =
          { records d with
            mWdtChannel := if w.wdtSetup ≠ 0 then -1 else w.wdtInstallTimeout
            armed := decide (w.wdtSetup = 0) } →
        Does cfg [.startUp] d d' := by
      intro d' htrace hrecords
      refine ⟨_, htrace, ⟨⟨hdiag, .startUp, by simp, rfl⟩,
        ⟨⟨hdiag, ?_⟩, .startUp, by simp, rfl⟩, trivial⟩, hrecords.trans ?_⟩
      · simpa [applyEvent, hchannel] using not_lt.mp hinstalled
      · simp [replay_cons, applyEvent, hchannel]
    refine Writes.ite (fun hsetup => htwo _ (by simp) ?_) fun hsetup => htwo _ (by simp) ?_
    · simp [records, hsetup]
    · simp [records, not_not.mp hsetup, not_lt.mp hinstalled]

end Functions
end TinyEnvSensor
