import TinyEnvSensor.Device.State
import TinyEnvSensor.Foundations.LastWrite

/-! # The diagnostic keys in the settings partition

`SaveDiagValue` writes under the full keys `tinyenv/diag/...`; `DiagLoadCb` compares the names that
`settings_load_subtree_direct` passes relative to `tinyenv/diag`. Both spellings are literals of
the source, `diagKey` and `diagName`; `diagKey_eq` is what keeps them in step. -/
namespace TinyEnvSensor
set_option autoImplicit false

/-! ## Saving -/

def diagKey : DiagField → String
  | .bootCount => "tinyenv/diag/boot_count"
  | .wdtResetCount => "tinyenv/diag/wdt_reset_count"
  | .threadDetachCount => "tinyenv/diag/thread_detach_count"
  | .threadReattachCount => "tinyenv/diag/thread_reattach_count"
  | .sensorFailureCount => "tinyenv/diag/sensor_failure_count"
  | .adcFailureCount => "tinyenv/diag/adc_failure_count"
  | .lastResetReas => "tinyenv/diag/last_reset_reas"

def kDiagKeyLastUptimeSec : String := "tinyenv/diag/last_uptime_sec"
def kDiagKeyLastThreadRole : String := "tinyenv/diag/last_thread_role"

/-- `SaveDiagValue`: whether the save succeeded, and the device after it. -/
def saveDiagValue (w : World) (key : String) (value : UInt32) (d : Device) : Bool × Device :=
  let rc := w.settingsSaveOne key
  let d := d.call w (.settingsSaveOne key value rc)
  if rc = 0 then (true, { d with settings := d.settings.insert key ⟨4, value⟩ }) else (false, d)

/-! ## Loading -/

/-- An entry as `settings_load_subtree_direct` hands it to the callback: `readCb` is what reading
four bytes returns and `value` what it leaves in the buffer. -/
structure SettingsEntry where
  key : String
  len : ℕ
  readCb : ℤ
  value : UInt32
  deriving DecidableEq, Repr

abbrev DiagLoadContext := DiagField → UInt32

def diagLoadCb (ctx : DiagLoadContext) (e : SettingsEntry) : DiagLoadContext :=
  if e.len ≠ 4 ∨ e.readCb ≠ 4 then ctx
  else if e.key = "boot_count" then Function.update ctx .bootCount e.value
  else if e.key = "wdt_reset_count" then Function.update ctx .wdtResetCount e.value
  else if e.key = "thread_detach_count" then Function.update ctx .threadDetachCount e.value
  else if e.key = "thread_reattach_count" then Function.update ctx .threadReattachCount e.value
  else if e.key = "sensor_failure_count" then Function.update ctx .sensorFailureCount e.value
  else if e.key = "adc_failure_count" then Function.update ctx .adcFailureCount e.value
  else if e.key = "last_reset_reas" then Function.update ctx .lastResetReas e.value
  else ctx

def relativeName (subtree key : String) : Option String :=
  (key.toList.dropPrefix? (subtree.toList ++ ['/'])).map String.ofList

/-- The entries of a subtree that the backend hands over during a load. -/
def subtreeEntries (w : World) (subtree : String) (store : Settings) : List SettingsEntry :=
  store.entries.filterMap fun e =>
    if w.settingsDelivers e.1 then
      (relativeName subtree e.1).map fun name => ⟨name, e.2.len, w.readCb e.1, e.2.value⟩
    else none

/-- `settings_load_subtree_direct("tinyenv/diag", DiagLoadCb, &loaded)` on a fresh context. -/
def loadDiag (w : World) (store : Settings) : DiagLoadContext :=
  (subtreeEntries w "tinyenv/diag" store).foldl diagLoadCb fun _ => 0

/-! ## What a load finds -/

def diagName : DiagField → String
  | .bootCount => "boot_count"
  | .wdtResetCount => "wdt_reset_count"
  | .threadDetachCount => "thread_detach_count"
  | .threadReattachCount => "thread_reattach_count"
  | .sensorFailureCount => "sensor_failure_count"
  | .adcFailureCount => "adc_failure_count"
  | .lastResetReas => "last_reset_reas"

/-- The value a load should find: that of a well-formed entry of the field's key, else `0`. -/
def storedValue (store : Settings) (f : DiagField) : UInt32 :=
  match store.lookup (diagKey f) with
  | some p => if p.len = 4 then p.value else 0
  | none => 0

/-- The load hands over the entry of the field and reads it in full. -/
def loadsField (w : World) (f : DiagField) : Bool :=
  w.settingsDelivers (diagKey f) && decide (w.readCb (diagKey f) = 4)

theorem diagKey_eq (f : DiagField) : diagKey f = "tinyenv/diag" ++ "/" ++ diagName f := by
  cases f <;> rfl

theorem diagKey_injective : Function.Injective diagKey := by
  intro f g h
  cases f <;> cases g <;> first | rfl | exact absurd h (by decide)

theorem diagKey_ne_lastUptimeSec (f : DiagField) : diagKey f ≠ kDiagKeyLastUptimeSec := by
  cases f <;> decide

theorem diagKey_ne_lastThreadRole (f : DiagField) : diagKey f ≠ kDiagKeyLastThreadRole := by
  cases f <;> decide

theorem relativeName_eq_some (subtree key name : String) :
    relativeName subtree key = some name ↔ key = subtree ++ "/" ++ name := by
  unfold relativeName
  rw [Option.map_eq_some_iff]
  simp only [List.dropPrefix?_eq_some_iff, beq_iff_eq]
  constructor
  · rintro ⟨s, ⟨p, hkey, rfl⟩, rfl⟩
    rw [← String.toList_inj, hkey]
    simp [String.toList_append]
  · rintro rfl
    exact ⟨name.toList, ⟨_, by simp [String.toList_append], rfl⟩, String.ofList_toList⟩

theorem diagLoadCb_apply (ctx : DiagLoadContext) (e : SettingsEntry) (f : DiagField) :
    diagLoadCb ctx e f =
      if decide (e.len = 4 ∧ e.readCb = 4 ∧ e.key = diagName f) then e.value else ctx f := by
  unfold diagLoadCb
  by_cases hok : e.len = 4 ∧ e.readCb = 4
  · obtain ⟨hlen, hread⟩ := hok
    rw [if_neg (by omega)]
    split_ifs <;> cases f <;> simp_all [diagName]
  · rw [if_pos (by omega), if_neg (by simp; tauto)]

theorem entry_pick (w : World) (f : DiagField) (e : Sigma fun _ : String => Payload) :
    (((if w.settingsDelivers e.1 then
        (relativeName "tinyenv/diag" e.1).map fun name =>
          (⟨name, e.2.len, w.readCb e.1, e.2.value⟩ : SettingsEntry)
      else none).filter fun s => decide (s.len = 4 ∧ s.readCb = 4 ∧ s.key = diagName f)).map
        SettingsEntry.value) =
      if e.1 = diagKey f then
        if loadsField w f ∧ e.2.len = 4 then some e.2.value else none
      else none := by
  by_cases hk : e.1 = diagKey f
  · have hname : relativeName "tinyenv/diag" e.1 = some (diagName f) :=
      (relativeName_eq_some _ _ _).mpr (hk.trans (diagKey_eq f))
    rw [if_pos hk, hname, hk]
    by_cases hd : w.settingsDelivers (diagKey f) = true
    · rw [if_pos hd]
      by_cases hok : e.2.len = 4 ∧ w.readCb (diagKey f) = 4
      · rw [if_pos (by simp [loadsField, hd, hok.1, hok.2])]
        simp [Option.filter, hok.1, hok.2]
      · rw [if_neg (by simp only [loadsField, hd, Bool.true_and, decide_eq_true_eq]; tauto)]
        simp only [Option.map_some, Option.filter_some, and_true]
        rw [if_neg (by simpa using hok)]
        rfl
    · rw [if_neg hd, if_neg (by simp [loadsField, hd])]
      rfl
  · rw [if_neg hk]
    have hname : ∀ name, relativeName "tinyenv/diag" e.1 = some name → name ≠ diagName f := by
      rintro name hn rfl
      exact hk (((relativeName_eq_some _ _ _).mp hn).trans (diagKey_eq f).symm)
    split
    · cases hr : relativeName "tinyenv/diag" e.1 with
      | none => rfl
      | some name => simp [Option.filter, hname name hr]
    · rfl

/-- A load takes for each field the stored value, or `0` when its entry does not come through. -/
theorem loadDiag_apply (w : World) (store : Settings) (f : DiagField) :
    loadDiag w store f = if loadsField w f then storedValue store f else 0 := by
  have hfold := LastWrite.foldl_last diagLoadCb (fun ctx : DiagLoadContext => ctx f)
    (fun e => decide (e.len = 4 ∧ e.readCb = 4 ∧ e.key = diagName f)) SettingsEntry.value
    (fun ctx e => diagLoadCb_apply ctx e f) (subtreeEntries w "tinyenv/diag" store) (fun _ => 0)
  have hpick : ((subtreeEntries w "tinyenv/diag" store).filter fun e =>
        decide (e.len = 4 ∧ e.readCb = 4 ∧ e.key = diagName f)).map SettingsEntry.value =
      (store.entries.filter fun e => decide (e.1 = diagKey f)).filterMap fun e =>
        if loadsField w f ∧ e.2.len = 4 then some e.2.value else none := by
    unfold subtreeEntries
    rw [List.filter_filterMap, List.map_filterMap, List.filterMap_filter]
    apply List.filterMap_congr
    intro e _
    rw [entry_pick]
    simp
  rw [loadDiag, hfold, hpick, LastWrite.filter_key _ _ store.nodupKeys]
  unfold storedValue AList.lookup
  cases hl : store.entries.dlookup (diagKey f) with
  | none => simp
  | some p =>
    by_cases hw : loadsField w f = true <;> by_cases hlen : p.len = 4 <;> simp [hw, hlen]

/-! ## What a save changes -/

section Save
variable (w : World) (key : String) (value : UInt32) (d : Device)

@[simp] theorem saveDiagValue_toAppTask :
    (saveDiagValue w key value d).2.toAppTask = d.toAppTask := by
  simp only [saveDiagValue]
  split <;> rfl

@[simp] theorem saveDiagValue_sense : (saveDiagValue w key value d).2.sense = d.sense := by
  simp only [saveDiagValue]
  split <;> rfl

@[simp] theorem saveDiagValue_vbatEnable :
    (saveDiagValue w key value d).2.vbatEnable = d.vbatEnable := by
  simp only [saveDiagValue]
  split <;> rfl

@[simp] theorem saveDiagValue_resetreas :
    (saveDiagValue w key value d).2.resetreas = d.resetreas := by
  simp only [saveDiagValue]
  split <;> rfl

@[simp] theorem saveDiagValue_trace :
    (saveDiagValue w key value d).2.trace =
      d.trace ++ [⟨w.uptimeMs, .settingsSaveOne key value (w.settingsSaveOne key)⟩] := by
  simp only [saveDiagValue]
  split <;> rfl

theorem saveDiagValue_settings :
    (saveDiagValue w key value d).2.settings =
      if w.settingsSaveOne key = 0 then d.settings.insert key ⟨4, value⟩ else d.settings := by
  simp only [saveDiagValue]
  split <;> rfl

end Save

theorem storedValue_save (w : World) (f g : DiagField) (value : UInt32) (d : Device) :
    storedValue (saveDiagValue w (diagKey f) value d).2.settings g =
      if g = f ∧ w.settingsSaveOne (diagKey f) = 0 then value else storedValue d.settings g := by
  rw [saveDiagValue_settings]
  by_cases hrc : w.settingsSaveOne (diagKey f) = 0
  · rw [if_pos hrc]
    by_cases hg : g = f
    · subst hg
      simp [storedValue, hrc, AList.lookup_insert]
    · have hne : diagKey g ≠ diagKey f := fun h => hg (diagKey_injective h)
      simp [storedValue, hg, AList.lookup_insert_ne hne]
  · simp [hrc]

theorem storedValue_save_other (w : World) (key : String) (value : UInt32) (d : Device)
    (g : DiagField) (hkey : diagKey g ≠ key) :
    storedValue (saveDiagValue w key value d).2.settings g = storedValue d.settings g := by
  rw [saveDiagValue_settings]
  split
  · simp [storedValue, AList.lookup_insert_ne hkey]
  · rfl

end TinyEnvSensor
