import TinyEnvSensor.Diagnostics.Store

/-! # The dump of the diagnostic keys

`cmd_diag_dump` walks the same subtree as `DiagOnBoot` with a callback of its own. Both callbacks
take an entry only when it has four bytes and all are read, and both always let the walk go on. -/
namespace TinyEnvSensor
open LastWrite
set_option autoImplicit false

/-! ## The two callbacks -/

/-- `settings_load_subtree_direct` on the entries that the backend delivers, in their order: a
callback that returns nonzero ends the search. -/
def settingsLoadSubtreeDirect {γ : Type} (cb : γ → SettingsEntry → ℤ × γ) (param : γ)
    (entries : List SettingsEntry) : γ := walk cb param entries

/-- `DiagLoadCb` with its result: both of its returns are `0`. -/
def diagLoadCallback (ctx : DiagLoadContext) (e : SettingsEntry) : ℤ × DiagLoadContext :=
  (0, diagLoadCb ctx e)

inductive ShellOutput where
  | entry (key : String) (value : UInt32)
  | readFailed (err : ℤ)
  | noKeys
  deriving DecidableEq, Repr

def ShellOutput.text : ShellOutput → String
  | .entry key value => "tinyenv/diag/" ++ key ++ ": " ++ toString value.toNat
  | .readFailed err => "diag read failed: " ++ toString err
  | .noKeys => "No diagnostic keys found."

/-- The `Ctx` of `cmd_diag_dump`, with what it has printed to its shell. -/
structure DumpContext where
  shell : List ShellOutput := []
  any : Bool := false

def diagDumpCallback (ctx : DumpContext) (e : SettingsEntry) : ℤ × DumpContext :=
  if e.len = 4 ∧ e.readCb = 4 then
    (0, { shell := ctx.shell ++ [.entry e.key e.value], any := true })
  else (0, ctx)

/-- What the command prints and returns when the load delivers `entries` and returns `err`. -/
def cmdDiagDump (entries : List SettingsEntry) (err : ℤ) : List ShellOutput × ℤ :=
  let ctx := settingsLoadSubtreeDirect diagDumpCallback {} entries
  if err ≠ 0 then (ctx.shell ++ [.readFailed err], err)
  else if !ctx.any then (ctx.shell ++ [.noKeys], 0)
  else (ctx.shell, 0)

/-! ## Which entries count -/

def wellFormed (e : SettingsEntry) : Bool := decide (e.len = 4 ∧ e.readCb = 4)

/-- The entries that a load takes for a field: well-formed, under exactly its name. -/
def entriesOf (f : DiagField) (entries : List SettingsEntry) : List SettingsEntry :=
  entries.filter fun e => wellFormed e && decide (e.key = diagName f)

def printedValue (key : String) : ShellOutput → Option UInt32
  | .entry k value => if k = key then some value else none
  | .readFailed _ => none
  | .noKeys => none

theorem load_eq_foldl (ctx : DiagLoadContext) (entries : List SettingsEntry) :
    settingsLoadSubtreeDirect diagLoadCallback ctx entries = entries.foldl diagLoadCb ctx :=
  walk_eq_foldl (fun _ _ => rfl) ctx entries

theorem loadDiag_eq (w : World) (store : Settings) :
    loadDiag w store = settingsLoadSubtreeDirect diagLoadCallback (fun _ => 0)
      (subtreeEntries w "tinyenv/diag" store) := (load_eq_foldl _ _).symm

theorem load_apply (entries : List SettingsEntry) (f : DiagField) :
    settingsLoadSubtreeDirect diagLoadCallback (fun _ => 0) entries f =
      ((entriesOf f entries).map SettingsEntry.value).getLastD 0 := by
  rw [load_eq_foldl]
  refine foldl_last diagLoadCb (fun ctx : DiagLoadContext => ctx f) _ _ (fun ctx e => ?_) _ _
  rw [diagLoadCb_apply]
  simp [wellFormed, and_assoc]

theorem diagLoadCb_of_skipped {e : SettingsEntry}
    (h : wellFormed e = false ∨ ∀ f, e.key ≠ diagName f) (ctx : DiagLoadContext) :
    diagLoadCb ctx e = ctx := by
  funext f
  rw [diagLoadCb_apply, if_neg]
  rw [decide_eq_true_iff]
  rintro ⟨hlen, hread, hkey⟩
  obtain hbad | hother := h
  · simp [wellFormed, hlen, hread] at hbad
  · exact hother f hkey

theorem load_of_skipped {e : SettingsEntry} (h : wellFormed e = false ∨ ∀ f, e.key ≠ diagName f)
    (pre post : List SettingsEntry) (ctx : DiagLoadContext) :
    settingsLoadSubtreeDirect diagLoadCallback ctx (pre ++ e :: post) =
      settingsLoadSubtreeDirect diagLoadCallback ctx (pre ++ post) := by
  simp only [load_eq_foldl, List.foldl_append, List.foldl_cons, diagLoadCb_of_skipped h]

/-! ## What the dump prints -/

theorem dump_walk (ctx : DumpContext) (entries : List SettingsEntry) :
    settingsLoadSubtreeDirect diagDumpCallback ctx entries =
      { shell := ctx.shell ++
          (entries.filter wellFormed).map fun e => ShellOutput.entry e.key e.value
        any := ctx.any || entries.any wellFormed } := by
  have hgo : ∀ (ctx : DumpContext) (e : SettingsEntry), (diagDumpCallback ctx e).1 = 0 := by
    intro ctx e
    unfold diagDumpCallback
    split <;> rfl
  rw [settingsLoadSubtreeDirect, walk_eq_foldl hgo]
  induction entries generalizing ctx with
  | nil => simp
  | cons e l ih =>
    rw [List.foldl_cons, ih]
    unfold diagDumpCallback
    by_cases he : e.len = 4 ∧ e.readCb = 4
    · simp [he, wellFormed]
    · have hbad : wellFormed e = false := decide_eq_false he
      simp [he, hbad]

def closingOutput (entries : List SettingsEntry) (err : ℤ) : List ShellOutput :=
  if err ≠ 0 then [.readFailed err] else if entries.any wellFormed then [] else [.noKeys]

theorem cmdDiagDump_eq (entries : List SettingsEntry) (err : ℤ) :
    cmdDiagDump entries err =
      ((entries.filter wellFormed).map (fun e => ShellOutput.entry e.key e.value) ++
        closingOutput entries err, err) := by
  unfold cmdDiagDump closingOutput
  rw [dump_walk]
  by_cases herr : err = 0
  · subst herr
    cases entries.any wellFormed with
    | false => simp
    | true => simp
  · simp [herr]

theorem printedValues_entries (entries : List SettingsEntry) (f : DiagField) :
    ((entries.filter wellFormed).map fun e => ShellOutput.entry e.key e.value).filterMap
        (printedValue (diagName f)) =
      (entriesOf f entries).map SettingsEntry.value := by
  induction entries with
  | nil => rfl
  | cons e l ih =>
    unfold entriesOf at ih ⊢
    cases hok : wellFormed e with
    | false => simpa [hok] using ih
    | true =>
      by_cases hkey : e.key = diagName f
      · simpa [hok, hkey, printedValue] using ih
      · simpa [hok, hkey, printedValue] using ih

theorem printedValues_dump (entries : List SettingsEntry) (err : ℤ) (f : DiagField) :
    (cmdDiagDump entries err).1.filterMap (printedValue (diagName f)) =
      (entriesOf f entries).map SettingsEntry.value := by
  have hclosing : (closingOutput entries err).filterMap (printedValue (diagName f)) = [] := by
    unfold closingOutput
    split_ifs <;> rfl
  rw [cmdDiagDump_eq, List.filterMap_append, hclosing, List.append_nil, printedValues_entries]

theorem noKeys_mem_iff (entries : List SettingsEntry) (err : ℤ) :
    ShellOutput.noKeys ∈ (cmdDiagDump entries err).1 ↔
      err = 0 ∧ ∀ e ∈ entries, wellFormed e = false := by
  have hentries : ShellOutput.noKeys ∉
      (entries.filter wellFormed).map fun e => ShellOutput.entry e.key e.value := by
    simp
  rw [cmdDiagDump_eq, List.mem_append, or_iff_right hentries, closingOutput]
  by_cases herr : err = 0
  · cases hany : entries.any wellFormed with
    | false => simpa [herr] using List.any_eq_false.mp hany
    | true =>
      obtain ⟨e, he, hok⟩ := List.any_eq_true.mp hany
      simp only [herr, ne_eq, not_true_eq_false, if_false, if_true, List.not_mem_nil, true_and,
        false_iff]
      exact fun hnone => by simp [hnone e he] at hok
  · simp [herr]

/-- **Loader and dump agree on every store content.** A field is the value of the last entry of
exactly its name that has four bytes and is read in full, or `0`; any other entry might as well not
be there. The dump prints the well-formed entries in their order, so the last value it prints for a
field is the one the loader took, and it says that there are none iff none is well-formed. -/
theorem loader_and_dump_agree (entries : List SettingsEntry) (err : ℤ) :
    let loaded := settingsLoadSubtreeDirect diagLoadCallback (fun _ => 0) entries
    let out := (cmdDiagDump entries err).1
    (∀ f, loaded f = ((entriesOf f entries).map SettingsEntry.value).getLastD 0) ∧
    (∀ pre e post, entries = pre ++ e :: post →
      (wellFormed e = false ∨ ∀ f, e.key ≠ diagName f) →
        loaded = settingsLoadSubtreeDirect diagLoadCallback (fun _ => 0) (pre ++ post)) ∧
    out = (entries.filter wellFormed).map (fun e => ShellOutput.entry e.key e.value) ++
      closingOutput entries err ∧
    (∀ f, (out.filterMap (printedValue (diagName f))).getLastD 0 = loaded f) ∧
    (err = 0 → (ShellOutput.noKeys ∈ out ↔ ∀ e ∈ entries, wellFormed e = false)) ∧
    (cmdDiagDump entries err).2 = err := by
  intro loaded out
  refine ⟨load_apply entries, fun pre e post hentries hskip => ?_, ?_, fun f => ?_, fun herr => ?_,
    ?_⟩
  · rw [← load_of_skipped hskip, ← hentries]
  · exact congrArg Prod.fst (cmdDiagDump_eq entries err)
  · rw [printedValues_dump]
    exact (load_apply entries f).symm
  · rw [noKeys_mem_iff]
    exact and_iff_right herr
  · rw [cmdDiagDump_eq]

example :
    (cmdDiagDump [⟨"boot_count", 4, 4, 7⟩, ⟨"boot_count", 2, 2, 9⟩] 0).1.map ShellOutput.text =
      ["tinyenv/diag/boot_count: 7"] := by decide

end TinyEnvSensor
