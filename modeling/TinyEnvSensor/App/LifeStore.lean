import TinyEnvSensor.App.Journaled

/-! # The settings over a whole life

However the threads take turns and wherever resets cut them short, the settings partition is the
replay of the saves that the device got to make, and the application touches its own nine keys in it
and nothing else. -/
namespace TinyEnvSensor
open History Journal
set_option autoImplicit false

/-! ## Settings along the journal -/

theorem applyEvent_settings (r : Records) (ev : Event) :
    (applyEvent r ev).settings = r.settings.after ev := by
  obtain ⟨atMs, c⟩ := ev
  cases c <;> rfl

theorem replay_settings (r : Records) (evs : List Event) :
    (replay deviceReader r evs).settings = evs.foldl Settings.after r.settings :=
  replay_part Records.settings Settings.after (fun r ev _ => applyEvent_settings r ev) r

/-! ## What an event of a life does -/

def LifeEvent.isReset : LifeEvent → Bool
  | .turn _ _ => false
  | _ => true

/-- The owners of the calls that an event makes. -/
def Life.eventOwners (l : Life) : LifeEvent → List Owner
  | .turn t _ => l.owners t
  | .reset _ => []
  | .cut t _ _ _ _ => l.owners t

/-- The records where the journal of an event begins. -/
def Life.eventBegins (cfg : Config) (l : Life) : LifeEvent → Records
  | .turn t w => records (l.begins cfg w t)
  | .reset _ => records l.device
  | .cut t w _ _ _ => records (l.begins cfg w t)

section Events
variable (cfg : Config) (l : Life)

theorem eventBegins_settings (e : LifeEvent) :
    (l.eventBegins cfg e).settings = l.device.settings := by
  cases e with
  | turn t w => exact (begins_frame cfg w l t).2
  | reset causes => rfl
  | cut t w calls cleared causes => exact (begins_frame cfg w l t).2

/-- The journal of a turn, up to the point where a reset cuts it short. -/
theorem turn_entries (t : Turn) (w : World) : ∃ evs,
    (turn cfg t w l).device.trace = l.device.trace ++ evs ∧
      Accepts deviceReader (Made cfg (l.owners t)) (records (l.begins cfg w t)) evs ∧
      records (turn cfg t w l).device = replay deviceReader (records (l.begins cfg w t)) evs ∧
      ∀ calls cleared, (cutDevice l.device (turn cfg t w l).device calls cleared).trace =
          l.device.trace ++ evs.take calls ∧
        (cutDevice l.device (turn cfg t w l).device calls cleared).settings =
          (replay deviceReader (records (l.begins cfg w t)) (evs.take calls)).settings := by
  obtain ⟨evs, htrace, haccepts, hrecords⟩ := does_turn cfg w l t
  obtain ⟨hbegins, hsettings⟩ := begins_frame cfg w l t
  have hsame : (turn cfg t w l).device.trace = l.device.trace ++ evs := by
    rw [← hbegins]
    exact htrace
  refine ⟨evs, hsame, haccepts, hrecords, fun calls cleared => ?_⟩
  have hmade : (turn cfg t w l).device.trace.drop l.device.trace.length = evs := by
    rw [hsame, List.drop_left]
  rw [replay_settings]
  simp only [cutDevice, hmade]
  exact ⟨trivial, congrArg (fun s => (evs.take calls).foldl Settings.after s) hsettings.symm⟩

/-- An event of a life writes a piece of the journal, and the settings follow it. -/
theorem lifeStep_entries (e : LifeEvent) : ∃ evs,
    (lifeStep cfg l e).device.trace = l.device.trace ++ evs ∧
      Accepts deviceReader (Made cfg (l.eventOwners e)) (l.eventBegins cfg e) evs ∧
      (lifeStep cfg l e).device.settings =
        (replay deviceReader (l.eventBegins cfg e) evs).settings ∧
      (e.isReset = false → records (lifeStep cfg l e).device =
        replay deviceReader (l.eventBegins cfg e) evs) := by
  cases e with
  | turn t w =>
    obtain ⟨evs, htrace, haccepts, hrecords, -⟩ := turn_entries cfg l t w
    exact ⟨evs, htrace, haccepts, congrArg Records.settings hrecords, fun _ => hrecords⟩
  | reset causes =>
    exact ⟨[], (List.append_nil _).symm, trivial, rfl, fun h => by cases h⟩
  | cut t w calls cleared causes =>
    obtain ⟨evs, -, haccepts, -, hcut⟩ := turn_entries cfg l t w
    obtain ⟨htrace, hsettings⟩ := hcut calls cleared
    exact ⟨evs.take calls, htrace, haccepts.take calls, hsettings, fun h => by cases h⟩

end Events

/-- A turn of other owners makes none of an owner's calls. -/
theorem calls_of_others {cfg : Config} {l : Life} {t : Turn} {w : World} {o : Owner}
    {evs : List Event} (ho : o ∉ l.owners t)
    (htrace : (turn cfg t w l).device.trace = l.device.trace ++ evs) :
    ∀ ev ∈ evs, ev.call.owner ≠ some o := by
  obtain ⟨evs', htrace', haccepts, -⟩ := turn_entries cfg l t w
  obtain rfl : evs' = evs := List.append_cancel_left (htrace'.symm.trans htrace)
  exact accepts_others haccepts ho

/-- A turn that makes a call of an owner is that owner's and does something. -/
theorem owner_of_call {cfg : Config} {l : Life} {t : Turn} {w : World} {o : Owner}
    {evs : List Event} (htrace : (turn cfg t w l).device.trace = l.device.trace ++ evs) {ev : Event}
    (hev : ev ∈ evs) (howner : ev.call.owner = some o) :
    o ∈ l.owners t ∧ (turn cfg t w l).device ≠ l.device := by
  constructor
  · by_contra hnot
    exact calls_of_others hnot htrace ev hev howner
  · intro hsame
    rw [hsame] at htrace
    rw [List.self_eq_append_right.mp htrace] at hev
    cases hev

theorem life_concat (cfg : Config) (store : Settings) (es : List LifeEvent) (e : LifeEvent) :
    life cfg store (es ++ [e]) = lifeStep cfg (life cfg store es) e := run_concat ..

/-- Before the start-up of the main thread no other thread works. -/
theorem turn_of_startApp {cfg : Config} {l : Life} {t : Turn} (w : World) (h : l.main = .startApp)
    (ht : t ≠ .main) : turn cfg t w l = l := by
  have hrunning : l.running = false := by simp [Life.running, h]
  cases t <;> simp_all [turn]

theorem startApp_fresh {cfg : Config} {store : Settings} {es : List LifeEvent}
    (h : (life cfg store es).main = .startApp) : (life cfg store es).device.toAppTask = {} := by
  induction es using List.reverseRecOn with
  | nil => rfl
  | append_singleton es e ih =>
    rw [life_concat] at h ⊢
    cases e with
    | turn t w =>
      have hwaits : t ≠ .main ∧ (life cfg store es).main = .startApp := by
        by_contra hnot
        refine turn_main cfg w (life cfg store es) (t := t) ?_ h
        tauto
      have hsame : lifeStep cfg (life cfg store es) (.turn t w) = life cfg store es :=
        turn_of_startApp w hwaits.2 hwaits.1
      rw [hsame]
      exact ih hwaits.2
    | reset causes => rfl
    | cut t w calls cleared causes => rfl

theorem life_extends (cfg : Config) (store : Settings) (es es' : List LifeEvent) :
    (life cfg store es).device.trace <+: (life cfg store (es ++ es')).device.trace := by
  induction es' using List.reverseRecOn with
  | nil => simp
  | append_singleton es' e ih =>
    rw [← List.append_assoc, life_concat]
    obtain ⟨evs, htrace, -⟩ := lifeStep_entries cfg (life cfg store (es ++ es')) e
    exact ih.trans ⟨evs, htrace.symm⟩

/-- The turn that an event brings, to its end or cut short. -/
def LifeEvent.work : LifeEvent → Option (Turn × World)
  | .turn t w => some (t, w)
  | .reset _ => none
  | .cut t w _ _ _ => some (t, w)

/-- Every call of a life was made in one of its turns. -/
theorem made_in_turn {cfg : Config} {store : Settings} {es : List LifeEvent} {ev : Event}
    (hev : ev ∈ (life cfg store es).device.trace) :
    ∃ before e after t w evs, es = before ++ e :: after ∧ e.work = some (t, w) ∧
      (turn cfg t w (life cfg store before)).device.trace =
        (life cfg store before).device.trace ++ evs ∧ ev ∈ evs := by
  induction es using List.reverseRecOn with
  | nil => exact absurd hev List.not_mem_nil
  | append_singleton es e ih =>
    rw [life_concat] at hev
    have hlast : ∀ t w evs, e.work = some (t, w) →
        (turn cfg t w (life cfg store es)).device.trace =
          (life cfg store es).device.trace ++ evs →
        (lifeStep cfg (life cfg store es) e).device.trace <+:
          (life cfg store es).device.trace ++ evs →
        ∃ before e' after t w evs, es ++ [e] = before ++ e' :: after ∧ e'.work = some (t, w) ∧
          (turn cfg t w (life cfg store before)).device.trace =
            (life cfg store before).device.trace ++ evs ∧ ev ∈ evs := by
      intro t w evs hwork htrace hpre
      obtain hev | hev := List.mem_append.mp (hpre.subset hev)
      · obtain ⟨before, e', after, t', w', evs', rfl, hrest⟩ := ih hev
        exact ⟨before, e', after ++ [e], t', w', evs', by simp, hrest⟩
      · exact ⟨es, e, [], t, w, evs, rfl, hwork, htrace, hev⟩
    cases e with
    | turn t w =>
      obtain ⟨evs, htrace, -⟩ := turn_entries cfg (life cfg store es) t w
      exact hlast t w evs rfl htrace ⟨[], by rw [List.append_nil]; exact htrace⟩
    | reset causes =>
      obtain ⟨before, e', after, t', w', evs', rfl, hrest⟩ := ih hev
      exact ⟨before, e', after ++ [.reset causes], t', w', evs', by simp, hrest⟩
    | cut t w calls cleared causes =>
      obtain ⟨evs, htrace, -, -, hcut⟩ := turn_entries cfg (life cfg store es) t w
      refine hlast t w evs rfl htrace ?_
      have htaken : (lifeStep cfg (life cfg store es)
          (.cut t w calls cleared causes)).device.trace =
            (life cfg store es).device.trace ++ evs.take calls := (hcut calls cleared).1
      rw [htaken]
      exact (List.prefix_append_right_inj _).mpr (List.take_prefix calls evs)

/-! ## The whole store -/

theorem life_settings (cfg : Config) (store : Settings) (es : List LifeEvent) :
    (life cfg store es).device.settings =
      (life cfg store es).device.trace.foldl Settings.after store := by
  induction es using List.reverseRecOn with
  | nil => rfl
  | append_singleton es e ih =>
    obtain ⟨evs, htrace, -, hsettings, -⟩ := lifeStep_entries cfg (life cfg store es) e
    rw [life_concat, htrace, List.foldl_append, ← ih, hsettings, replay_settings,
      eventBegins_settings]

/-- Every call of a life was allowed, in some records, and has an owner. -/
theorem life_made (cfg : Config) (store : Settings) (es : List LifeEvent) :
    ∀ ev ∈ (life cfg store es).device.trace,
      ∃ (r : Records) (o : Owner), Allowed cfg r ev ∧ ev.call.owner = some o := by
  induction es using List.reverseRecOn with
  | nil => exact fun ev hev => absurd hev List.not_mem_nil
  | append_singleton es e ih =>
    obtain ⟨evs, htrace, haccepts, -⟩ := lifeStep_entries cfg (life cfg store es) e
    rw [life_concat, htrace]
    intro ev hev
    obtain hev | hev := List.mem_append.mp hev
    · exact ih ev hev
    · have hmade := haccepts.forall (p := fun ev => ∃ (r : Records) (o : Owner),
        Allowed cfg r ev ∧ ev.call.owner = some o) fun r ev ⟨hallowed, o, _, howner⟩ =>
          ⟨r, o, hallowed, howner⟩
      exact hmade ev hev

def diagKeys : List String :=
  [diagKey .bootCount, diagKey .wdtResetCount, diagKey .threadDetachCount,
    diagKey .threadReattachCount, diagKey .sensorFailureCount, diagKey .adcFailureCount,
    diagKey .lastResetReas, kDiagKeyLastUptimeSec, kDiagKeyLastThreadRole]

theorem key_of_owner {o : Owner} {key : String} {value : UInt32} {rc : ℤ}
    (h : (Call.settingsSaveOne key value rc).owner = some o) : key ∈ diagKeys := by
  simp only [Call.owner] at h
  split_ifs at h <;> simp only [diagKeys, List.mem_cons, List.not_mem_nil, or_false] <;> tauto

/-- The value of a successful save under a key. -/
def savedUnder (key : String) (ev : Event) : Option UInt32 :=
  match ev.call with
  | .settingsSaveOne k value rc => if k = key ∧ rc = 0 then some value else none
  | _ => none

theorem lookup_after (s : Settings) (ev : Event) (key : String) :
    (s.after ev).lookup key = ((savedUnder key ev).map (Payload.mk 4)).or (s.lookup key) := by
  obtain ⟨atMs, c⟩ := ev
  cases c with
  | settingsSaveOne k value rc =>
    by_cases hrc : rc = 0
    · by_cases hk : k = key
      · subst hk
        simp [Settings.after, savedUnder, hrc, AList.lookup_insert]
      · have hne : key ≠ k := fun h => hk h.symm
        simp [Settings.after, savedUnder, hrc, hk, AList.lookup_insert_ne hne]
    · simp [Settings.after, savedUnder, hrc]
  | _ => rfl

theorem lookup_replay (s : Settings) (evs : List Event) (key : String) :
    (evs.foldl Settings.after s).lookup key =
      ((evs.filterMap (savedUnder key)).getLast?.map (Payload.mk 4)).or (s.lookup key) := by
  induction evs using List.reverseRecOn with
  | nil => rfl
  | append_singleton evs ev ih =>
    rw [List.foldl_append, List.foldl_cons, List.foldl_nil, lookup_after, ih,
      List.filterMap_append]
    cases h : savedUnder key ev with
    | none => simp [h]
    | some value => simp [h]

/-- **The settings are a journal of the saves.** Over any life, in which nothing but the application
writes or erases the settings, with resets between and in the middle of turns: under each key is the
value of the application's last successful save, four bytes long, or what was there at the start; it
saves in diagnostic mode only, and only under the nine diagnostic keys, so it changes no other
entry. -/
theorem settings_journal (cfg : Config) (store : Settings) (es : List LifeEvent) :
    let d := (life cfg store es).device
    (∀ key, d.settings.lookup key =
      ((d.trace.filterMap (savedUnder key)).getLast?.map (Payload.mk 4)).or (store.lookup key)) ∧
    (∀ ev ∈ d.trace, ∀ key value rc, ev.call = .settingsSaveOne key value rc →
      cfg.diagnosticMode = true ∧ key ∈ diagKeys) ∧
    (∀ key, key ∉ diagKeys → d.settings.lookup key = store.lookup key) := by
  intro d
  have hlookup : ∀ key, d.settings.lookup key =
      ((d.trace.filterMap (savedUnder key)).getLast?.map (Payload.mk 4)).or
        (store.lookup key) := by
    intro key
    rw [life_settings, lookup_replay]
  have hsaves : ∀ ev ∈ d.trace, ∀ key value rc, ev.call = .settingsSaveOne key value rc →
      cfg.diagnosticMode = true ∧ key ∈ diagKeys := by
    intro ev hev key value rc hcall
    obtain ⟨r, o, hallowed, howner⟩ := life_made cfg store es ev hev
    unfold Allowed at hallowed
    rw [hcall] at hallowed howner
    exact ⟨hallowed.1, key_of_owner howner⟩
  refine ⟨hlookup, hsaves, fun key hkey => ?_⟩
  have hnone : d.trace.filterMap (savedUnder key) = [] := by
    rw [List.filterMap_eq_nil_iff]
    intro ev hev
    unfold savedUnder
    split
    · rename_i k value rc hcall
      rw [if_neg]
      rintro ⟨rfl, -⟩
      exact hkey (hsaves ev hev k value rc hcall).2
    · rfl
  rw [hlookup, hnone]
  rfl

end TinyEnvSensor
