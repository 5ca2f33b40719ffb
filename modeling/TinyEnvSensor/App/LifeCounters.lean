import TinyEnvSensor.App.LifeStore
import TinyEnvSensor.Diagnostics.Dump

/-! # The counters over a whole life

Within a boot a counter starts from what the load found, and its saves carry consecutive values,
whatever the threads do and whichever saves fail. When the saves and loads of a counter succeed, it
goes on across resets as if there were none, and a dump of the running device shows it. -/
namespace TinyEnvSensor
open History Journal
set_option autoImplicit false

/-! ## A counter in the journal -/

def isSaveOf (f : DiagField) : Call → Bool
  | .settingsSaveOne key _ _ => decide (key = diagKey f)
  | _ => false

def Event.saves (f : DiagField) (ev : Event) : Bool := isSaveOf f ev.call

def Event.savedValue (ev : Event) : UInt32 :=
  match ev.call with
  | .settingsSaveOne _ value _ => value
  | _ => 0

/-- The events that lie between two states of a device. -/
def newEvents (d d' : Device) : List Event := d'.trace.drop d.trace.length

theorem newEvents_of_append {d d' : Device} {evs : List Event} (h : d'.trace = d.trace ++ evs) :
    newEvents d d' = evs := by
  rw [newEvents, h, List.drop_left]

theorem counts_mDiag {cfg : Config} {owners : List Owner} {f : DiagField}
    (hf : f.isCounter = true) :
    Counts deviceReader (Made cfg owners) (fun n : UInt32 => n + 1) (fun r => r.mDiag f)
      (Event.saves f) Event.savedValue := by
  constructor
  · rintro r ⟨atMs, c⟩ ⟨hallowed, -⟩ hq
    cases c with
    | settingsSaveOne key value rc =>
      have hkey : key = diagKey f := of_decide_eq_true hq
      exact hallowed.2 f hf hkey
    | _ => cases hq
  · rintro r ⟨atMs, c⟩ -
    cases c with
    | settingsSaveOne key value rc =>
      by_cases hkey : key = diagKey f
      · subst hkey
        simp [applyEvent, Event.saves, isSaveOf, Event.savedValue]
      · have hne : diagKey f ≠ key := fun h => hkey h.symm
        simp [applyEvent, Event.saves, isSaveOf, hkey, hne]
    | _ => rfl

theorem iterate_add_one (n : ℕ) (x : UInt32) :
    (fun y : UInt32 => y + 1)^[n] x = x + UInt32.ofNat n := by
  induction n with
  | zero => simp
  | succ n ih =>
    rw [Function.iterate_succ_apply', ih, UInt32.ofNat_add, ← UInt32.add_assoc]
    rfl

theorem storedValue_replay (s : Settings) (evs : List Event) (f : DiagField) :
    storedValue (evs.foldl Settings.after s) f =
      (evs.filterMap (savedUnder (diagKey f))).getLastD (storedValue s f) := by
  unfold storedValue
  rw [lookup_replay, List.getLastD_eq_getLast?]
  cases (evs.filterMap (savedUnder (diagKey f))).getLast? with
  | none => rfl
  | some value => rfl

/-! ## Turns of one boot -/

def allOwners : List Owner := [.startUp, .sampling, .publishing, .policy, .snapshot, .feeding]

theorem mem_allOwners (o : Owner) : o ∈ allOwners := by
  cases o <;> simp [allOwners]

theorem begins_of_booted {cfg : Config} {w : World} {l : Life} (h : l.main ≠ .startApp) (t : Turn) :
    l.begins cfg w t = l.device := by
  cases t with
  | main => exact if_neg h
  | _ => rfl

theorem does_turns {cfg : Config} {l : Life} {es : List LifeEvent} (hl : l.main ≠ .startApp)
    (hes : ∀ e ∈ es, e.isReset = false) :
    Does cfg allOwners l.device (run (lifeStep cfg) l es).device ∧
      (run (lifeStep cfg) l es).main ≠ .startApp := by
  induction es using List.reverseRecOn with
  | nil => exact ⟨Writes.refl _, hl⟩
  | append_singleton es e ih =>
    obtain ⟨hdoes, hmain⟩ := ih fun e he => hes e (by simp [he])
    rw [run_concat]
    cases e with
    | turn t w =>
      have hturn := does_turn cfg w (run (lifeStep cfg) l es) t
      rw [begins_of_booted hmain] at hturn
      exact ⟨hdoes.trans (Does.widen hturn fun o _ => mem_allOwners o),
        turn_main cfg w _ (Or.inr hmain)⟩
    | reset causes => cases hes (.reset causes) (by simp)
    | cut t w calls cleared causes => cases hes (.cut t w calls cleared causes) (by simp)

/-- The journal of a boot begins at the loaded counters. -/
theorem does_boot {cfg : Config} {store : Settings} {pre post : List LifeEvent} {w : World}
    (hdiag : cfg.diagnosticMode = true) (hboot : (life cfg store pre).main = .startApp)
    (hserver : w.prepareServer = none) (hpost : ∀ e ∈ post, e.isReset = false) :
    Does cfg allOwners (loadedDevice w (life cfg store pre).device)
      (life cfg store (pre ++ .turn .main w :: post)).device := by
  have hlife : life cfg store (pre ++ .turn .main w :: post) =
      run (lifeStep cfg) (turn cfg .main w (life cfg store pre)) post := run_append ..
  have hstart := does_turn cfg w (life cfg store pre) .main
  have hbegins : (life cfg store pre).begins cfg w .main =
      loadedDevice w (life cfg store pre).device := by
    simp [Life.begins, hboot, loadedBoot, hdiag, hserver]
  rw [hbegins] at hstart
  rw [hlife]
  exact Writes.trans (Does.widen hstart fun o _ => mem_allOwners o)
    (does_turns (turn_main cfg w _ (Or.inl rfl)) hpost).1

/-- **The log of a counter during a boot.** After `DiagOnBoot` has run, and whatever turns the
threads take until the next reset: the saves of a counter carry consecutive values from what the
load found, modulo `2^32` and whether they succeed or not; RAM holds as many more as there were
saves; and the stored value is that of the last save that succeeded. -/
theorem counter_log (cfg : Config) (store : Settings) (pre post : List LifeEvent) (w : World)
    (f : DiagField) (hdiag : cfg.diagnosticMode = true) (hf : f.isCounter = true)
    (hboot : (life cfg store pre).main = .startApp) (hserver : w.prepareServer = none)
    (hpost : ∀ e ∈ post, e.isReset = false) :
    let began := (life cfg store pre).device
    let now := (life cfg store (pre ++ .turn .main w :: post)).device
    let loaded := if loadsField w f then storedValue began.settings f else 0
    let saves := (newEvents began now).filter (Event.saves f)
    saves.map Event.savedValue =
      (List.range saves.length).map (fun i => loaded + UInt32.ofNat (i + 1)) ∧
    now.mDiag f = loaded + UInt32.ofNat saves.length ∧
    storedValue now.settings f =
      ((newEvents began now).filterMap (savedUnder (diagKey f))).getLastD
        (storedValue began.settings f) := by
  intro began now loaded saves
  obtain ⟨evs, htrace, haccepts, hrecords⟩ := does_boot hdiag hboot hserver hpost
  have hnew : newEvents began now = evs := newEvents_of_append htrace
  have hsaves : saves = evs.filter (Event.saves f) := congrArg _ hnew
  have hlength : saves.length = evs.countP (Event.saves f) := by
    rw [hsaves, List.countP_eq_length_filter]
  have hloaded : (deviceReader.view (loadedDevice w (life cfg store pre).device)).mDiag f =
      loaded := loadDiag_apply w _ f
  refine ⟨?_, ?_, ?_⟩
  · rw [hlength, hsaves, (counts_mDiag hf).values haccepts]
    simp only [iterate_add_one, hloaded]
  · have hram : now.mDiag f = (records now).mDiag f := rfl
    rw [hram, hlength, ← deviceReader_view, hrecords, (counts_mDiag hf).get_replay haccepts,
      iterate_add_one, hloaded]
  · have hsettings : now.settings = (records now).settings := rfl
    rw [hnew, hsettings, ← deviceReader_view, hrecords, replay_settings, storedValue_replay]
    rfl

def failedAccess (uptimeMs saved : ℤ) : World :=
  { uptimeMs := uptimeMs, fabricCount := 1, sensorSampleFetch := -5,
    settingsSaveOne := fun _ => saved }

/-- The third failed access is saved, and the two before it with it. -/
theorem counter_log_of_two_failed_saves :
    let now := (life diagConfig ∅ ([.reset 1] ++ .turn .main {} ::
      [.turn .main (failedAccess 2 (-5)), .turn .sensorWork (failedAccess 60001 (-5)),
        .turn .sensorWork (failedAccess 120001 0)])).device
    now.mDiag .sensorFailureCount = 3 ∧ storedValue now.settings .sensorFailureCount = 3 := by
  obtain ⟨-, hram, hstored⟩ := counter_log diagConfig ∅ [.reset 1]
    [.turn .main (failedAccess 2 (-5)), .turn .sensorWork (failedAccess 60001 (-5)),
      .turn .sensorWork (failedAccess 120001 0)] {} .sensorFailureCount rfl rfl rfl rfl
    (by simp [LifeEvent.isReset])
  exact ⟨hram.trans (by decide +kernel), hstored.trans (by decide +kernel)⟩

/-! ## Across resets -/

/-- The loads of a field succeed in the turns of the main thread. -/
def Loads (f : DiagField) : LifeEvent → Prop
  | .turn .main w => loadsField w f = true
  | .cut .main w _ _ _ => loadsField w f = true
  | _ => True

/-- Every save of a field so far succeeded. -/
def Saved (f : DiagField) (trace : List Event) : Prop :=
  ∀ ev ∈ trace, ev.saves f = true → savedUnder (diagKey f) ev = some ev.savedValue

theorem Saved.append {f : DiagField} {trace evs : List Event} (h : Saved f (trace ++ evs)) :
    Saved f trace ∧ Saved f evs :=
  ⟨fun ev hev => h ev (List.mem_append_left _ hev),
    fun ev hev => h ev (List.mem_append_right _ hev)⟩

theorem storedValue_after {f : DiagField} {r : Records} {ev : Event}
    (h : ev.saves f = true → savedUnder (diagKey f) ev = some ev.savedValue) :
    storedValue (applyEvent r ev).settings f =
      if ev.saves f then ev.savedValue else storedValue r.settings f := by
  have hreplay := storedValue_replay r.settings [ev] f
  rw [List.foldl_cons, List.foldl_nil, ← applyEvent_settings] at hreplay
  rw [hreplay]
  cases hq : ev.saves f with
  | true => simp [h hq]
  | false =>
    have hnone : savedUnder (diagKey f) ev = none := by
      unfold Event.saves at hq
      unfold savedUnder
      split
      · rename_i k value rc hcall
        rw [hcall] at hq
        exact if_neg fun hk => of_decide_eq_false hq hk.1
      · rfl
    simp [hnone]

/-- A turn begins with RAM equal to the stored value, or does nothing and leaves the application
not running. -/
theorem turn_begins {cfg : Config} {l : Life} {f : DiagField} {t : Turn} {w : World}
    (hdiag : cfg.diagnosticMode = true)
    (hram : l.running = true → l.device.mDiag f = storedValue l.device.settings f)
    (hload : t = .main → loadsField w f = true) :
    ((turn cfg t w l).device = l.device ∧ (turn cfg t w l).running = false) ∨
      (l.begins cfg w t).mDiag f = storedValue (l.begins cfg w t).settings f := by
  by_cases hrunning : l.running = true
  · refine Or.inr ?_
    have hmain : l.main ≠ .startApp := by
      intro h
      simp [Life.running, h] at hrunning
    rw [begins_of_booted hmain]
    exact hram hrunning
  · have hidle : l.running = false := eq_false_of_ne_true hrunning
    cases t with
    | main =>
      by_cases hstart : l.main = .startApp
      · cases hserver : w.prepareServer with
        | some err =>
          refine Or.inl ?_
          simp [turn, mainTurn, hstart, startUp, init, hserver, Life.running]
        | none =>
          refine Or.inr ?_
          have hbegins : l.begins cfg w .main = loadedDevice w l.device := by
            simp [Life.begins, hstart, loadedBoot, hdiag, hserver]
          rw [hbegins]
          show loadDiag w l.device.settings f = storedValue l.device.settings f
          rw [loadDiag_apply, if_pos (hload rfl)]
      · refine Or.inl ?_
        have hexited : l.main = .exited := by
          cases hl : l.main <;> simp_all [Life.running]
        simp [turn, mainTurn, hexited, Life.running]
    | sensorWork => exact Or.inl (by simp [turn, hidle])
    | policyWork => exact Or.inl (by simp [turn, hidle])
    | matter => exact Or.inl (by simp [turn, hidle])

/-- The stored value counts the saves, and RAM agrees with it while the application runs. -/
structure Tallied (f : DiagField) (start : UInt32) (l : Life) : Prop where
  stored : storedValue l.device.settings f =
    start + UInt32.ofNat (l.device.trace.countP (Event.saves f))
  ram : l.running = true → l.device.mDiag f = storedValue l.device.settings f

section Tallied
variable {cfg : Config} {f : DiagField} {start : UInt32} {l : Life}

/-- A piece of the journal that begins with RAM equal to the stored value. -/
theorem Tallied.replay (h : Tallied f start l) {owners : List Owner} {r : Records}
    {evs : List Event} (hf : f.isCounter = true) (hr : r.settings = l.device.settings)
    (hram : r.mDiag f = storedValue r.settings f) (hsaved : Saved f evs)
    (haccepts : Accepts deviceReader (Made cfg owners) r evs) :
    let r' := Journal.replay deviceReader r evs
    storedValue r'.settings f = r'.mDiag f ∧
      storedValue r'.settings f = start +
        UInt32.ofNat ((l.device.trace ++ evs).countP (Event.saves f)) := by
  intro r'
  have hcopy : storedValue r'.settings f = r'.mDiag f :=
    (counts_mDiag hf).copy_replay (fun r => storedValue r.settings f)
      (fun r ev hev _ => storedValue_after (hsaved ev hev)) haccepts hram.symm
  refine ⟨hcopy, ?_⟩
  have hcount := (counts_mDiag hf).get_replay haccepts
  rw [iterate_add_one, hram, hr, h.stored, UInt32.add_assoc, ← UInt32.ofNat_add] at hcount
  rw [hcopy, List.countP_append]
  exact hcount

theorem Tallied.step (h : Tallied f start l) {e : LifeEvent} (hdiag : cfg.diagnosticMode = true)
    (hf : f.isCounter = true) (hload : Loads f e)
    (hsaved : Saved f (lifeStep cfg l e).device.trace) : Tallied f start (lifeStep cfg l e) := by
  cases e with
  | turn t w =>
    obtain ⟨evs, htrace, haccepts, hrecords, -⟩ := turn_entries cfg l t w
    have hloaded : t = .main → loadsField w f = true := fun ht => by
      subst ht
      exact hload
    have htrace' : (lifeStep cfg l (.turn t w)).device.trace = l.device.trace ++ evs := htrace
    obtain ⟨hsame, hstopped⟩ | hbegins := turn_begins hdiag h.ram hloaded
    · have hdevice : (lifeStep cfg l (.turn t w)).device = l.device := hsame
      refine ⟨by rw [hdevice, h.stored], fun hrunning => ?_⟩
      rw [show (lifeStep cfg l (.turn t w)).running = _ from hstopped] at hrunning
      cases hrunning
    · rw [htrace'] at hsaved
      obtain ⟨hcopy, hstored⟩ := h.replay hf (begins_frame cfg w l t).2 hbegins hsaved.append.2
        haccepts
      rw [← hrecords] at hcopy hstored
      exact ⟨by rw [htrace']; exact hstored, fun _ => hcopy.symm⟩
  | reset causes => exact ⟨h.stored, fun hrunning => by cases hrunning⟩
  | cut t w calls cleared causes =>
    obtain ⟨evs, htrace, haccepts, -, hcut⟩ := turn_entries cfg l t w
    obtain ⟨hmade, hsettings⟩ := hcut calls cleared
    have hloaded : t = .main → loadsField w f = true := fun ht => by
      subst ht
      exact hload
    have htrace' : (lifeStep cfg l (.cut t w calls cleared causes)).device.trace =
        l.device.trace ++ evs.take calls := hmade
    have hsettings' : (lifeStep cfg l (.cut t w calls cleared causes)).device.settings =
        (Journal.replay deviceReader (records (l.begins cfg w t)) (evs.take calls)).settings :=
      hsettings
    refine ⟨?_, fun hrunning => by cases hrunning⟩
    rw [hsettings', htrace']
    obtain ⟨hsame, -⟩ | hbegins := turn_begins hdiag h.ram hloaded
    · have hnone : evs = [] := by
        rw [hsame] at htrace
        exact List.self_eq_append_right.mp htrace
      rw [hnone, List.take_nil, List.append_nil, ← h.stored]
      exact congrArg (fun s => storedValue s f) (begins_frame cfg w l t).2
    · rw [htrace'] at hsaved
      exact (h.replay hf (begins_frame cfg w l t).2 hbegins hsaved.append.2
        (haccepts.take calls)).2

theorem tallied_life {store : Settings} {es : List LifeEvent} (hdiag : cfg.diagnosticMode = true)
    (hf : f.isCounter = true) (hload : ∀ e ∈ es, Loads f e)
    (hsaved : Saved f (life cfg store es).device.trace) :
    Tallied f (storedValue store f) (life cfg store es) := by
  induction es using List.reverseRecOn with
  | nil => exact ⟨(UInt32.add_zero _).symm, fun hrunning => by cases hrunning⟩
  | append_singleton es e ih =>
    obtain ⟨evs, hevs⟩ := life_extends cfg store es [e]
    have hbefore : Saved f (life cfg store es).device.trace := by
      rw [← hevs] at hsaved
      exact hsaved.append.1
    rw [life_concat] at hsaved ⊢
    exact (ih (fun e he => hload e (by simp [he])) hbefore).step hdiag hf (hload e (by simp)) hsaved

end Tallied

/-- **A counter counts across resets.** Over any life in diagnostic mode in which its saves and its
loads succeed, with resets in the middle of turns too, and the settings are not erased: the stored
value is the one at the start plus the number of its saves, modulo `2^32`, and whenever the
application runs RAM holds the same value. -/
theorem counter_lifelong (cfg : Config) (store : Settings) (es : List LifeEvent) (f : DiagField)
    (hdiag : cfg.diagnosticMode = true) (hf : f.isCounter = true) (hload : ∀ e ∈ es, Loads f e)
    (hsaved : Saved f (life cfg store es).device.trace) :
    let l := life cfg store es
    storedValue l.device.settings f = storedValue store f +
      UInt32.ofNat (l.device.trace.countP (Event.saves f)) ∧
    (l.running = true → l.device.mDiag f = storedValue l.device.settings f) := by
  have h := tallied_life hdiag hf hload hsaved
  exact ⟨h.stored, h.ram⟩

theorem counter_lifelong_over_a_cut :
    storedValue
      (life diagConfig ∅ [.reset 1, .cut .main {} 1 true 1, .turn .main {}]).device.settings
      .bootCount = storedValue ∅ .bootCount + UInt32.ofNat
        ((life diagConfig ∅ [.reset 1, .cut .main {} 1 true 1, .turn .main {}]).device.trace.countP
          (Event.saves .bootCount)) :=
  (counter_lifelong diagConfig ∅ [.reset 1, .cut .main {} 1 true 1, .turn .main {}] .bootCount rfl
    rfl (by simp [Loads]; decide +kernel) (by unfold Saved; decide +kernel)).1

/-- **The dump of a running device shows its counters.** In diagnostic mode, where the saves and
loads of a counter have succeeded so far and the settings were not erased, the last value a
`diag_dump` prints for it, when its own load delivers the entry, is the one in RAM, `0` standing for
none. -/
theorem dump_shows_counter (cfg : Config) (store : Settings) (es : List LifeEvent) (f : DiagField)
    (w : World) (err : ℤ) (hdiag : cfg.diagnosticMode = true) (hf : f.isCounter = true)
    (hload : ∀ e ∈ es, Loads f e) (hsaved : Saved f (life cfg store es).device.trace)
    (hrunning : (life cfg store es).running = true) (hdump : loadsField w f = true) :
    let d := (life cfg store es).device
    ((cmdDiagDump (subtreeEntries w "tinyenv/diag" d.settings) err).1.filterMap
      (printedValue (diagName f))).getLastD 0 = d.mDiag f := by
  intro d
  have h := tallied_life hdiag hf hload hsaved
  rw [printedValues_dump, ← load_apply, ← loadDiag_eq, loadDiag_apply, if_pos hdump]
  exact (h.ram hrunning).symm

theorem dump_shows_counter_of_first_boot :
    let d := (life diagConfig ∅ [.reset 1, .turn .main {}]).device
    ((cmdDiagDump (subtreeEntries {} "tinyenv/diag" d.settings) 0).1.filterMap
      (printedValue (diagName .bootCount))).getLastD 0 = d.mDiag .bootCount :=
  dump_shows_counter diagConfig ∅ [.reset 1, .turn .main {}] .bootCount {} 0 rfl rfl
    (by simp [Loads]; decide +kernel) (by unfold Saved; decide +kernel) (by decide +kernel)
    (by decide +kernel)

end TinyEnvSensor
