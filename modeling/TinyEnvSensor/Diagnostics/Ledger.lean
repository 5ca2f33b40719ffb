import TinyEnvSensor.Diagnostics.Counters
import TinyEnvSensor.Foundations.History
import TinyEnvSensor.Foundations.SavedCounter
import Mathlib.Algebra.Group.Nat.Defs

/-! # The ledger of the persistent counters

A run is a list of diagnostic operations: a boot is a reset followed by `DiagOnBoot`, and between
two boots come the four counted events and snapshots in any order. Seen through `cell`, one counter
of the device is a counter with a saved copy; `cell_run` says which counts and saves it saw. -/
namespace TinyEnvSensor
open History SavedCounter
set_option autoImplicit false

/-! ## Runs over many boots -/

/-- A reset: RAM is initialised afresh, the settings stay, and the causes add up in `RESETREAS`. -/
def resetDevice (causes : UInt32) (d : Device) : Device :=
  { settings := d.settings, resetreas := d.resetreas ||| causes, trace := d.trace }

inductive DiagOp where
  | boot (causes : UInt32)
  | threadDetached
  | threadReattached
  | sensorReadFailure
  | adcReadFailure
  | snapshot
  deriving DecidableEq, Repr

def DiagOp.isBoot : DiagOp → Bool
  | .boot _ => true
  | _ => false

def diagStep (cfg : Config) (d : Device) (op : DiagOp × World) : Device :=
  match op.1 with
  | .boot causes => diagOnBoot cfg op.2 (resetDevice causes d)
  | .threadDetached => diagOnThreadDetached cfg op.2 d
  | .threadReattached => diagOnThreadReattached cfg op.2 d
  | .sensorReadFailure => diagOnSensorReadFailure cfg op.2 d
  | .adcReadFailure => diagOnAdcReadFailure cfg op.2 d
  | .snapshot => maybeLogAndPersistHealthSnapshot cfg op.2 d

/-- The events of a counter: for `boot_count` the boot itself, for `wdt_reset_count` a boot whose
own causes include DOG. -/
def DiagOp.counts (f : DiagField) : DiagOp → Bool
  | .boot causes =>
    decide (f = .bootCount) ||
      decide (f = .wdtResetCount ∧ causes &&& NRF_POWER_RESETREAS_DOG_MASK ≠ 0)
  | .threadDetached => decide (f = .threadDetachCount)
  | .threadReattached => decide (f = .threadReattachCount)
  | .sensorReadFailure => decide (f = .sensorFailureCount)
  | .adcReadFailure => decide (f = .adcFailureCount)
  | .snapshot => false

def saveSucceeds (w : World) (f : DiagField) : Bool := decide (w.settingsSaveOne (diagKey f) = 0)

/-- The saves of a counter in a row of operations. -/
def savesOf (f : DiagField) (ops : List (DiagOp × World)) : List Bool :=
  ops.filterMap fun op => if op.1.counts f then some (saveSucceeds op.2 f) else none

def eventsOf (f : DiagField) (ops : List (DiagOp × World)) : ℕ := ops.countP fun op => op.1.counts f

theorem savesOf_append (f : DiagField) (ops ops' : List (DiagOp × World)) :
    savesOf f (ops ++ ops') = savesOf f ops ++ savesOf f ops' := List.filterMap_append

theorem eventsOf_append (f : DiagField) (ops ops' : List (DiagOp × World)) :
    eventsOf f (ops ++ ops') = eventsOf f ops + eventsOf f ops' := List.countP_append

theorem length_savesOf (f : DiagField) (ops : List (DiagOp × World)) :
    (savesOf f ops).length = eventsOf f ops := by
  unfold savesOf eventsOf
  rw [List.length_filterMap_eq_countP]
  congr 1
  funext op
  cases op.1.counts f <;> rfl

/-! ## One counter of the device -/

def cell (d : Device) (f : DiagField) : Cell :=
  ⟨(d.mDiag f).toNat, (storedValue d.settings f).toNat⟩

theorem toNat_add_one {n : UInt32} (h : n.toNat + 1 < 2 ^ 32) : (n + 1).toNat = n.toNat + 1 := by
  rw [UInt32.toNat_add]
  exact Nat.mod_eq_of_lt h

theorem cell_diagRaise (w : World) (g f : DiagField) (d : Device)
    (h : f = g → (d.mDiag f).toNat + 1 < 2 ^ 32) :
    cell (diagRaise w g d) f = if f = g then bump (cell d f) (saveSucceeds w f) else cell d f := by
  unfold cell
  rw [storedValue_diagRaise, diagRaise_toAppTask]
  by_cases hfg : f = g
  · subst hfg
    have hsucc := toNat_add_one (h rfl)
    by_cases hrc : w.settingsSaveOne (diagKey f) = 0 <;> simp [bump, saveSucceeds, hsucc, hrc]
  · simp [hfg]

theorem cell_snapshot (cfg : Config) (w : World) (d : Device) (f : DiagField) :
    cell (maybeLogAndPersistHealthSnapshot cfg w d) f = cell d f := by
  have hstored : storedValue (maybeLogAndPersistHealthSnapshot cfg w d).settings f =
      storedValue d.settings f := by
    simp only [maybeLogAndPersistHealthSnapshot]
    split_ifs
    · rfl
    · rfl
    · rw [call_settings, storedValue_save_other _ _ _ _ _ (diagKey_ne_lastThreadRole f),
        storedValue_save_other _ _ _ _ _ (diagKey_ne_lastUptimeSec f)]
  unfold cell
  rw [snapshot_mDiag, hstored]

/-! ## A boot, seen from one counter -/

def loadedDevice (w : World) (d : Device) : Device :=
  { d with
    mDiag := loadDiag w d.settings
    resetreas := d.resetreas &&& ~~~d.resetreas }

/-- The reset causes, noted in the settings and in RAM. -/
def noteResetReas (w : World) (r : UInt32) (d : Device) : Device :=
  let d := (saveDiagValue w (diagKey .lastResetReas) r d).2
  { d with mDiag := Function.update d.mDiag .lastResetReas r }

theorem diagOnBoot_eq (cfg : Config) (w : World) (d : Device) (hdiag : cfg.diagnosticMode = true) :
    diagOnBoot cfg w d =
      if d.resetreas &&& NRF_POWER_RESETREAS_DOG_MASK ≠ 0 then
        diagRaise w .wdtResetCount
          (noteResetReas w d.resetreas (diagRaise w .bootCount (loadedDevice w d)))
      else noteResetReas w d.resetreas (diagRaise w .bootCount (loadedDevice w d)) := by
  unfold diagOnBoot
  rw [hdiag]
  rfl

def bootCalls (w : World) (r : UInt32) (loaded : DiagField → UInt32) : List Call :=
  [.settingsSaveOne (diagKey .bootCount) (loaded .bootCount + 1)
      (w.settingsSaveOne (diagKey .bootCount)),
    .settingsSaveOne (diagKey .lastResetReas) r (w.settingsSaveOne (diagKey .lastResetReas))] ++
  if r &&& NRF_POWER_RESETREAS_DOG_MASK ≠ 0 then
    [.settingsSaveOne (diagKey .wdtResetCount) (loaded .wdtResetCount + 1)
      (w.settingsSaveOne (diagKey .wdtResetCount))]
  else []

theorem diagOnBoot_trace (cfg : Config) (w : World) (d : Device)
    (hdiag : cfg.diagnosticMode = true) :
    (diagOnBoot cfg w d).trace = d.trace ++
      (bootCalls w d.resetreas (loadDiag w d.settings)).map (Event.mk w.uptimeMs) := by
  rw [diagOnBoot_eq cfg w d hdiag]
  unfold bootCalls
  split <;> simp [noteResetReas, loadedDevice]

theorem diagOnBoot_frame (cfg : Config) (w : World) (d : Device) :
    (diagOnBoot cfg w d).toAppTask =
      { d.toAppTask with mDiag := (diagOnBoot cfg w d).mDiag } := by
  cases hdiag : cfg.diagnosticMode with
  | false =>
    unfold diagOnBoot
    rw [hdiag]
    rfl
  | true =>
    rw [diagOnBoot_eq cfg w d hdiag]
    split <;> simp [noteResetReas, loadedDevice]

theorem cell_noteResetReas (w : World) (r : UInt32) (d : Device) (f : DiagField)
    (hf : f.isCounter = true) : cell (noteResetReas w r d) f = cell d f := by
  have hne : f ≠ .lastResetReas := fun h => by rw [h] at hf; cases hf
  have hram : (noteResetReas w r d).mDiag f = d.mDiag f := by
    simp [noteResetReas, hne]
  have hstored : storedValue (noteResetReas w r d).settings f = storedValue d.settings f := by
    have hsave := storedValue_save w .lastResetReas f r d
    rw [if_neg (fun h => hne h.1)] at hsave
    exact hsave
  unfold cell
  rw [hram, hstored]

theorem savesOf_boot (f : DiagField) (causes : UInt32) (w : World) :
    savesOf f [(.boot causes, w)] =
      if f = .bootCount ∨ (f = .wdtResetCount ∧ causes &&& NRF_POWER_RESETREAS_DOG_MASK ≠ 0) then
        [saveSucceeds w f]
      else [] := by
  unfold savesOf DiagOp.counts
  by_cases h : f = .bootCount ∨ (f = .wdtResetCount ∧ causes &&& NRF_POWER_RESETREAS_DOG_MASK ≠ 0)
  · rw [if_pos h]
    simp only [← Bool.decide_or, h, decide_true, if_true, List.filterMap_cons, List.filterMap_nil]
  · rw [if_neg h]
    simp only [← Bool.decide_or, h, decide_false, Bool.false_eq_true, if_false,
      List.filterMap_cons, List.filterMap_nil]

/-- A counter at the start of a boot: what the load found, next to the stored copy. -/
def bootCell (w : World) (d : Device) (f : DiagField) : Cell :=
  ⟨(loadDiag w d.settings f).toNat, (storedValue d.settings f).toNat⟩

theorem cell_diagOnBoot (cfg : Config) (w : World) (d : Device) (f : DiagField)
    (hdiag : cfg.diagnosticMode = true) (hf : f.isCounter = true)
    (hwrap : (bootCell w d f).ram + eventsOf f [(.boot d.resetreas, w)] < 2 ^ 32) :
    cell (diagOnBoot cfg w d) f =
      (savesOf f [(.boot d.resetreas, w)]).foldl bump (bootCell w d f) := by
  rw [← length_savesOf, savesOf_boot] at hwrap
  rw [savesOf_boot, diagOnBoot_eq cfg w d hdiag]
  have hloaded : cell (loadedDevice w d) f = bootCell w d f := rfl
  by_cases hboot : f = .bootCount
  · -- `boot_count`: the raise comes first, and neither later save is of this counter
    rw [if_pos (Or.inl hboot)] at hwrap ⊢
    have hraise : cell (diagRaise w .bootCount (loadedDevice w d)) f =
        bump (bootCell w d f) (saveSucceeds w f) := by
      rw [cell_diagRaise w .bootCount f (loadedDevice w d) (fun _ => hwrap), if_pos hboot, hloaded]
    have hwdt : f ≠ .wdtResetCount := by rw [hboot]; decide
    split
    · rw [cell_diagRaise _ _ _ _ (fun h => absurd h hwdt), if_neg hwdt,
        cell_noteResetReas _ _ _ _ hf, hraise]
      rfl
    · rw [cell_noteResetReas _ _ _ _ hf, hraise]
      rfl
  · have hnoted : cell (noteResetReas w d.resetreas
        (diagRaise w .bootCount (loadedDevice w d))) f = bootCell w d f := by
      rw [cell_noteResetReas _ _ _ _ hf, cell_diagRaise _ _ _ _ (fun h => absurd h hboot),
        if_neg hboot, hloaded]
    by_cases hdog : d.resetreas &&& NRF_POWER_RESETREAS_DOG_MASK ≠ 0
    · rw [if_pos hdog]
      by_cases hwdt : f = .wdtResetCount
      · rw [if_pos (Or.inr ⟨hwdt, hdog⟩)] at hwrap ⊢
        have hram : ((noteResetReas w d.resetreas
            (diagRaise w .bootCount (loadedDevice w d))).mDiag f).toNat = (bootCell w d f).ram :=
          congrArg Cell.ram hnoted
        rw [cell_diagRaise _ _ _ _ (fun _ => by rw [hram]; exact hwrap), if_pos hwdt, hnoted]
        rfl
      · rw [if_neg (by tauto), cell_diagRaise _ _ _ _ (fun h => absurd h hwdt), if_neg hwdt,
          hnoted]
        rfl
    · rw [if_neg hdog, if_neg (by tauto), hnoted]
      rfl

/-! ## Runs, seen from one counter -/

theorem cell_event (cfg : Config) (d : Device) (op : DiagOp × World) (f : DiagField)
    (hdiag : cfg.diagnosticMode = true) (hop : op.1.isBoot = false)
    (hwrap : (cell d f).ram + eventsOf f [op] < 2 ^ 32) :
    cell (diagStep cfg d op) f = (savesOf f [op]).foldl bump (cell d f) := by
  obtain ⟨op, w⟩ := op
  have hcount : ∀ g, (f = g → (cell d f).ram + 1 < 2 ^ 32) →
      cell (diagCount cfg w g d) f =
        (if f = g then [saveSucceeds w f] else []).foldl bump (cell d f) := by
    intro g hg
    unfold diagCount
    rw [hdiag]
    rw [if_neg (by decide), cell_diagRaise w g f d hg]
    split <;> rfl
  have hsaves : ∀ g, op.counts f = decide (f = g) →
      savesOf f [(op, w)] = if f = g then [saveSucceeds w f] else [] := by
    intro g hg
    by_cases hfg : f = g
    · subst hfg
      simp [savesOf, hg]
    · simp [savesOf, hg, hfg]
  have hstep : ∀ g, op.counts f = decide (f = g) → diagStep cfg d (op, w) = diagCount cfg w g d →
      cell (diagStep cfg d (op, w)) f = (savesOf f [(op, w)]).foldl bump (cell d f) := by
    intro g hg hd
    rw [← length_savesOf, hsaves g hg] at hwrap
    rw [hd, hsaves g hg]
    exact hcount g fun hfg => by rwa [if_pos hfg] at hwrap
  cases op with
  | boot causes => cases hop
  | threadDetached => exact hstep .threadDetachCount rfl rfl
  | threadReattached => exact hstep .threadReattachCount rfl rfl
  | sensorReadFailure => exact hstep .sensorFailureCount rfl rfl
  | adcReadFailure => exact hstep .adcFailureCount rfl rfl
  | snapshot => exact cell_snapshot cfg w d f

theorem cell_events (cfg : Config) (d : Device) (evs : List (DiagOp × World)) (f : DiagField)
    (hdiag : cfg.diagnosticMode = true) (hevs : ∀ e ∈ evs, e.1.isBoot = false)
    (hwrap : (cell d f).ram + eventsOf f evs < 2 ^ 32) :
    cell (run (diagStep cfg) d evs) f = (savesOf f evs).foldl bump (cell d f) := by
  induction evs using List.reverseRecOn with
  | nil => rfl
  | append_singleton evs e ih =>
    rw [eventsOf_append] at hwrap
    have hpre := ih (fun x hx => hevs x (by simp [hx])) (by omega)
    have hram : (cell (run (diagStep cfg) d evs) f).ram = (cell d f).ram + eventsOf f evs := by
      rw [hpre, ram_bumps, length_savesOf]
    rw [run_concat, cell_event cfg _ e f hdiag (hevs e (by simp)) (by omega), hpre,
      savesOf_append, List.foldl_append]

theorem resetreas_run (cfg : Config) (d : Device) (ops : List (DiagOp × World))
    (hdiag : cfg.diagnosticMode = true) (hd : d.resetreas = 0) :
    (run (diagStep cfg) d ops).resetreas = 0 := by
  induction ops using List.reverseRecOn with
  | nil => exact hd
  | append_singleton ops op ih =>
    obtain ⟨op, w⟩ := op
    rw [run_concat]
    generalize run (diagStep cfg) d ops = d at ih
    have hnoted : ∀ d' : Device, (noteResetReas w d'.resetreas
        (diagRaise w .bootCount (loadedDevice w d'))).resetreas = 0 := by
      intro d'
      simp [noteResetReas, loadedDevice]
    have hsnapshot : (maybeLogAndPersistHealthSnapshot cfg w d).resetreas = d.resetreas := by
      simp only [maybeLogAndPersistHealthSnapshot]
      split_ifs <;> simp
    cases op with
    | boot causes =>
      simp only [diagStep, diagOnBoot_eq cfg w _ hdiag]
      split
      · rw [diagRaise_resetreas, hnoted]
      · rw [hnoted]
    | threadDetached => simpa [diagStep, diagOnThreadDetached] using ih
    | threadReattached => simpa [diagStep, diagOnThreadReattached] using ih
    | sensorReadFailure => simpa [diagStep, diagOnSensorReadFailure] using ih
    | adcReadFailure => simpa [diagStep, diagOnAdcReadFailure] using ih
    | snapshot => exact hsnapshot.trans ih

/-- The device before the first reset of a run: what it has so far is its settings. -/
def freshDevice (store : Settings) : Device := { settings := store }

/-- **A counter during a boot.** It starts from what the load found and goes through the counts and
saves of the boot. -/
theorem cell_run (cfg : Config) (store : Settings) (pre : List (DiagOp × World)) (causes : UInt32)
    (w : World) (evs : List (DiagOp × World)) (f : DiagField)
    (hdiag : cfg.diagnosticMode = true) (hf : f.isCounter = true)
    (hevs : ∀ e ∈ evs, e.1.isBoot = false)
    (hwrap : (bootCell w (run (diagStep cfg) (freshDevice store) pre) f).ram +
      eventsOf f ((.boot causes, w) :: evs) < 2 ^ 32) :
    cell (run (diagStep cfg) (freshDevice store) (pre ++ (.boot causes, w) :: evs)) f =
      (savesOf f ((.boot causes, w) :: evs)).foldl bump
        (bootCell w (run (diagStep cfg) (freshDevice store) pre) f) := by
  have hclear := resetreas_run cfg (freshDevice store) pre hdiag rfl
  rw [run_append]
  generalize run (diagStep cfg) (freshDevice store) pre = d at hwrap hclear
  have hcons : (.boot causes, w) :: evs = [((.boot causes, w) : DiagOp × World)] ++ evs := rfl
  -- `RESETREAS` was clear before the reset, so it holds the causes of this one only
  have hreg : (resetDevice causes d).resetreas = causes := by simp [resetDevice, hclear]
  rw [hcons, eventsOf_append] at hwrap
  have hboot := cell_diagOnBoot cfg w (resetDevice causes d) f hdiag hf (by
    rw [hreg]
    exact lt_of_le_of_lt (by exact Nat.add_le_add_left (Nat.le_add_right ..) _) hwrap)
  rw [hreg] at hboot
  have hram : (cell (diagOnBoot cfg w (resetDevice causes d)) f).ram =
      (bootCell w d f).ram + eventsOf f [(.boot causes, w)] := by
    rw [hboot, ram_bumps, length_savesOf]
    rfl
  have hrun := cell_events cfg (diagOnBoot cfg w (resetDevice causes d)) evs f hdiag hevs (by omega)
  rw [hcons, run_append, savesOf_append, List.foldl_append]
  exact hrun.trans (by rw [hboot]; rfl)

/-! ## The saves an operation makes -/

section Saves
variable {cfg : Config} {d : Device} {w : World} {f g : DiagField} {rc : ℤ}

theorem saves_diagCount (hdiag : cfg.diagnosticMode = true) :
    (∃ v, .settingsSaveOne (diagKey f) v rc ∈ newCalls d (diagCount cfg w g d)) ↔
      f = g ∧ rc = w.settingsSaveOne (diagKey f) := by
  rw [newCalls_of_append (diagCount_trace cfg w g d), hdiag]
  simp only [if_true, List.map_singleton, List.mem_singleton, Call.settingsSaveOne.injEq,
    diagKey_injective.eq_iff]
  constructor
  · rintro ⟨v, rfl, -, hrc⟩
    exact ⟨rfl, hrc⟩
  · rintro ⟨rfl, hrc⟩
    exact ⟨_, rfl, rfl, hrc⟩

theorem saves_bootCalls {causes : UInt32} {loaded : DiagField → UInt32}
    (hf : f.isCounter = true) :
    (∃ v, .settingsSaveOne (diagKey f) v rc ∈ bootCalls w causes loaded) ↔
      (DiagOp.boot causes).counts f = true ∧ rc = w.settingsSaveOne (diagKey f) := by
  unfold bootCalls
  constructor
  · rintro ⟨v, hc⟩
    obtain hc | hc := List.mem_append.mp hc
    · simp only [List.mem_cons, List.not_mem_nil, or_false, Call.settingsSaveOne.injEq] at hc
      obtain ⟨hk, -, hrc⟩ | ⟨hk, -, hrc⟩ := hc
      · obtain rfl := diagKey_injective hk
        exact ⟨by simp [DiagOp.counts], hrc⟩
      · -- the reset causes are saved under a key of their own
        obtain rfl := diagKey_injective hk
        cases hf
    · split at hc
      · rename_i hdog
        simp only [List.mem_singleton, Call.settingsSaveOne.injEq] at hc
        obtain ⟨hk, -, hrc⟩ := hc
        obtain rfl := diagKey_injective hk
        exact ⟨by simpa [DiagOp.counts] using hdog, hrc⟩
      · simp at hc
  · rintro ⟨hcounts, rfl⟩
    simp only [DiagOp.counts, Bool.or_eq_true, decide_eq_true_eq] at hcounts
    obtain rfl | ⟨rfl, hdog⟩ := hcounts
    · exact ⟨_, List.mem_append_left _ List.mem_cons_self⟩
    · refine ⟨loaded .wdtResetCount + 1, List.mem_append_right _ ?_⟩
      rw [if_pos hdog]
      exact List.mem_cons_self

theorem not_mem_snapshotCalls {role : OtDeviceRole} {m : DiagField → UInt32} {v : UInt32} :
    .settingsSaveOne (diagKey f) v rc ∉ snapshotCalls w role m := by
  intro hc
  simp only [snapshotCalls, List.mem_cons, List.not_mem_nil, or_false,
    Call.settingsSaveOne.injEq, reduceCtorEq] at hc
  obtain ⟨hk, -⟩ | ⟨hk, -⟩ := hc
  · exact absurd hk (diagKey_ne_lastUptimeSec f)
  · exact absurd hk (diagKey_ne_lastThreadRole f)

/-- An operation saves the counters it counts, and no others. -/
theorem saves_iff_counts {op : DiagOp × World} (hdiag : cfg.diagnosticMode = true)
    (hf : f.isCounter = true) (hd : d.resetreas = 0) :
    (∃ v, .settingsSaveOne (diagKey f) v rc ∈ newCalls d (diagStep cfg d op)) ↔
      op.1.counts f = true ∧ rc = op.2.settingsSaveOne (diagKey f) := by
  obtain ⟨op, w⟩ := op
  have hcount : ∀ g, op.counts f = decide (f = g) → diagStep cfg d (op, w) = diagCount cfg w g d →
      ((∃ v, .settingsSaveOne (diagKey f) v rc ∈ newCalls d (diagStep cfg d (op, w))) ↔
        op.counts f = true ∧ rc = w.settingsSaveOne (diagKey f)) := by
    intro g hg hstep
    rw [hstep, hg, decide_eq_true_eq]
    exact saves_diagCount hdiag
  cases op with
  | boot causes =>
    have htrace := diagOnBoot_trace cfg w (resetDevice causes d) hdiag
    have hreg : (resetDevice causes d).resetreas = causes := by simp [resetDevice, hd]
    have hsame : (resetDevice causes d).trace = d.trace := rfl
    rw [hreg, hsame] at htrace
    have hcalls : newCalls d (diagStep cfg d (.boot causes, w)) =
        bootCalls w causes (loadDiag w (resetDevice causes d).settings) := newCalls_eq htrace
    rw [hcalls]
    exact saves_bootCalls hf
  | threadDetached => exact hcount .threadDetachCount rfl rfl
  | threadReattached => exact hcount .threadReattachCount rfl rfl
  | sensorReadFailure => exact hcount .sensorFailureCount rfl rfl
  | adcReadFailure => exact hcount .adcFailureCount rfl rfl
  | snapshot =>
    have hcalls : newCalls d (diagStep cfg d (.snapshot, w)) =
        if snapshotDue cfg w d.mLastHealthSnapshotMs then
          snapshotCalls w d.thread.mLastThreadRole d.mDiag else [] :=
      newCalls_eq (snapshot_trace cfg w d)
    rw [hcalls]
    refine ⟨fun ⟨v, hc⟩ => ?_, fun h => by cases h.1⟩
    split at hc
    · exact absurd hc not_mem_snapshotCalls
    · simp at hc

end Saves

/-! ## The account -/

section Account
variable {cfg : Config} {store : Settings} {pre : List (DiagOp × World)} {causes : UInt32}
  {w : World} {evs : List (DiagOp × World)} {f : DiagField}

theorem stored_run (hdiag : cfg.diagnosticMode = true) (hf : f.isCounter = true)
    (hevs : ∀ e ∈ evs, e.1.isBoot = false)
    (hwrap : (bootCell w (run (diagStep cfg) (freshDevice store) pre) f).ram +
      eventsOf f ((.boot causes, w) :: evs) < 2 ^ 32)
    (before after : List (DiagOp × World)) (hsplit : (.boot causes, w) :: evs = before ++ after) :
    (storedValue (run (diagStep cfg) (freshDevice store) (pre ++ before)).settings f).toNat =
      ((savesOf f before).foldl bump
        (bootCell w (run (diagStep cfg) (freshDevice store) pre) f)).stored := by
  cases before with
  | nil =>
    rw [List.append_nil]
    rfl
  | cons b before =>
    obtain ⟨rfl, rfl⟩ := List.cons.inj hsplit
    rw [hsplit, eventsOf_append] at hwrap
    have hcell := cell_run cfg store pre causes w before f hdiag hf
      (fun e he => hevs e (List.mem_append_left _ he)) (by omega)
    exact congrArg Cell.stored hcell

theorem bootCell_of_loads {d : Device} (hload : loadsField w f = true) :
    (bootCell w d f).ram = (bootCell w d f).stored := by
  unfold bootCell
  rw [loadDiag_apply, if_pos hload]

theorem savesOf_concat (f : DiagField) (ops : List (DiagOp × World)) (op : DiagOp × World) :
    savesOf f (ops ++ [op]) =
      if op.1.counts f then savesOf f ops ++ [saveSucceeds op.2 f] else savesOf f ops := by
  rw [savesOf_append]
  cases h : op.1.counts f <;> simp [savesOf, h]

end Account

/-- **Persisted counters account for the events.** At every point of a boot whose load found a
counter, until it would wrap: RAM holds the value stored when the boot began plus the events since;
the stored value is at most that; the last operation did not lower the stored value; it saved the
counter iff it is one of its events, and after a save that succeeds the stored value is the one in
RAM, whatever saves failed before. -/
theorem counter_account (cfg : Config) (store : Settings) (pre : List (DiagOp × World))
    (causes : UInt32) (w : World) (evs : List (DiagOp × World)) (f : DiagField)
    (hdiag : cfg.diagnosticMode = true) (hf : f.isCounter = true)
    (hevs : ∀ e ∈ evs, e.1.isBoot = false) (hload : loadsField w f = true)
    (hwrap : (storedValue (run (diagStep cfg) (freshDevice store) pre).settings f).toNat +
      eventsOf f ((.boot causes, w) :: evs) < 2 ^ 32) :
    let began := run (diagStep cfg) (freshDevice store) pre
    let now := run (diagStep cfg) (freshDevice store) (pre ++ (.boot causes, w) :: evs)
    (now.mDiag f).toNat =
      (storedValue began.settings f).toNat + eventsOf f ((.boot causes, w) :: evs) ∧
    storedValue now.settings f ≤ now.mDiag f ∧
    ∀ before op, (.boot causes, w) :: evs = before ++ [op] →
      let last := run (diagStep cfg) (freshDevice store) (pre ++ before)
      storedValue last.settings f ≤ storedValue now.settings f ∧
      (∀ rc, (∃ v, .settingsSaveOne (diagKey f) v rc ∈ newCalls last now) ↔
        op.1.counts f = true ∧ rc = op.2.settingsSaveOne (diagKey f)) ∧
      (op.1.counts f = true → saveSucceeds op.2 f = true →
        storedValue now.settings f = now.mDiag f) := by
  intro began now
  have hstart : (bootCell w began f).ram = (bootCell w began f).stored := bootCell_of_loads hload
  have hbase : (bootCell w began f).stored = (storedValue began.settings f).toNat := rfl
  have hbound : (bootCell w began f).ram + eventsOf f ((.boot causes, w) :: evs) < 2 ^ 32 := by
    rw [hstart]
    exact hwrap
  have hcell := cell_run cfg store pre causes w evs f hdiag hf hevs hbound
  have hram : (now.mDiag f).toNat = (bootCell w began f).ram +
      eventsOf f ((.boot causes, w) :: evs) := by
    rw [← length_savesOf, ← ram_bumps]
    exact congrArg Cell.ram hcell
  have hstored : (storedValue now.settings f).toNat =
      ((savesOf f ((.boot causes, w) :: evs)).foldl bump (bootCell w began f)).stored :=
    congrArg Cell.stored hcell
  refine ⟨by rw [hram, hstart, hbase], ?_, fun before op hsplit => ⟨?_, fun rc => ?_, ?_⟩⟩
  · have hle := stored_bumps_le (bootCell w began f) (savesOf f ((.boot causes, w) :: evs))
    rw [UInt32.le_iff_toNat_le, hram, hstored]
    rw [← hstart, length_savesOf] at hle
    omega
  · have hlast := stored_run hdiag hf hevs hbound before [op] hsplit
    rw [UInt32.le_iff_toNat_le, hlast, hstored, hsplit, savesOf_concat]
    split
    · exact stored_le_bump _ _ _ fun _ =>
        (hstart.ge.trans (Nat.le_add_right ..)).trans (Nat.le_succ _)
    · exact le_rfl
  · have hnow := run_concat (diagStep cfg) (freshDevice store) (pre ++ before) op
    rw [List.append_assoc, ← hsplit] at hnow
    rw [show now = _ from hnow]
    exact saves_iff_counts hdiag hf (resetreas_run cfg _ _ hdiag rfl)
  · intro hcounts hok
    apply UInt32.toNat_inj.mp
    rw [hram, hstored, hsplit, ← length_savesOf, savesOf_concat, if_pos hcounts, hok,
      stored_bump_true, List.length_append, List.length_singleton, Nat.add_assoc]

/-- The second detachment is saved, and the first one with it. -/
theorem counter_account_of_two_detachments :
    let unsaved : World := { settingsSaveOne := fun _ => -5 }
    let lost := run (diagStep diagConfig) (freshDevice ∅)
      ([] ++ [(.boot 2, {}), (.threadDetached, unsaved)])
    let now := run (diagStep diagConfig) (freshDevice ∅)
      ([] ++ (.boot 2, {}) :: [(.threadDetached, unsaved), (.threadDetached, {})])
    storedValue lost.settings .threadDetachCount = 0 ∧
      (now.mDiag .threadDetachCount).toNat = 0 + 2 ∧
      storedValue now.settings .threadDetachCount = now.mDiag .threadDetachCount := by
  intro unsaved lost now
  obtain ⟨hram, -, hlast⟩ := counter_account diagConfig ∅ [] 2 {}
    [(.threadDetached, unsaved), (.threadDetached, {})] .threadDetachCount rfl rfl (by decide)
    (by decide +kernel) (by decide +kernel)
  obtain ⟨-, -, hsaved⟩ := hlast [(.boot 2, {}), (.threadDetached, unsaved)]
    (.threadDetached, {}) rfl
  exact ⟨by decide +kernel, hram, hsaved rfl rfl⟩

end TinyEnvSensor
