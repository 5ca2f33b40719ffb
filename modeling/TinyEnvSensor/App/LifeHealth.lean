import TinyEnvSensor.App.LifeParties

/-! # The health record

A snapshot leaves in the settings the uptime it was taken at. Every tick of the policy that does not
reboot tries one, so after a tick the record is younger than the snapshot interval, and it stays so
to the end of the boot, wherever the reset comes that ends it. -/
namespace TinyEnvSensor
open History Interleaving Journal
set_option autoImplicit false

/-- The settings hold the uptime `ms`, in seconds. -/
def RecordsUptime (s : Settings) (ms : ℤ) : Prop :=
  s.lookup kDiagKeyLastUptimeSec = some ⟨4, UInt32.ofInt (ms.tdiv 1000)⟩

/-! ## One snapshot -/

section Snapshot
variable {cfg : Config} {w : World} {d : Device}

theorem owner_lastUptimeSec (value : UInt32) (rc : ℤ) :
    (Call.settingsSaveOne kDiagKeyLastUptimeSec value rc).owner = some .snapshot := rfl

/-- Calls of others leave the record and the time of the last snapshot alone. -/
theorem applyEvent_quiet (r : Records) (ev : Event) (hother : ev.call.owner ≠ some .snapshot) :
    (applyEvent r ev).mLastHealthSnapshotMs = r.mLastHealthSnapshotMs ∧
      (applyEvent r ev).settings.lookup kDiagKeyLastUptimeSec =
        r.settings.lookup kDiagKeyLastUptimeSec := by
  obtain ⟨atMs, c⟩ := ev
  cases c with
  | settingsSaveOne key value rc =>
    refine ⟨rfl, ?_⟩
    have hkey : kDiagKeyLastUptimeSec ≠ key := by
      rintro rfl
      exact hother (owner_lastUptimeSec value rc)
    simp only [applyEvent]
    split
    · exact AList.lookup_insert_ne hkey
    · rfl
  | diagSnapshotLog uptimeSec role detach reattach sensorFail adcFail => exact absurd rfl hother
  | _ => exact ⟨rfl, rfl⟩

theorem Does.quiet {owners : List Owner} {d' : Device} (h : Does cfg owners d d')
    (ho : Owner.snapshot ∉ owners) :
    d'.mLastHealthSnapshotMs = d.mLastHealthSnapshotMs ∧
      d'.settings.lookup kDiagKeyLastUptimeSec = d.settings.lookup kDiagKeyLastUptimeSec := by
  have hlast := h.kept ho Records.mLastHealthSnapshotMs fun r ev hother =>
    (applyEvent_quiet r ev hother).1
  have hlookup := h.kept ho (fun r => r.settings.lookup kDiagKeyLastUptimeSec)
    fun r ev hother => (applyEvent_quiet r ev hother).2
  exact ⟨hlast, hlookup⟩

theorem snapshot_records (hok : w.settingsSaveOne kDiagKeyLastUptimeSec = 0)
    (hdue : snapshotDue cfg w d.mLastHealthSnapshotMs = true) :
    RecordsUptime (maybeLogAndPersistHealthSnapshot cfg w d).settings w.uptimeMs := by
  have hkey : kDiagKeyLastUptimeSec ≠ kDiagKeyLastThreadRole := by decide
  have hsettings := settings_snapshot hdue
  rw [saveDiagValue_settings, saveDiagValue_settings, if_pos hok] at hsettings
  unfold RecordsUptime
  rw [hsettings]
  split
  · rw [AList.lookup_insert_ne hkey, AList.lookup_insert]
  · exact AList.lookup_insert _

/-- After a try the record is younger than the interval. -/
theorem snapshot_fresh (hdiag : cfg.diagnosticMode = true)
    (hok : w.settingsSaveOne kDiagKeyLastUptimeSec = 0)
    (hkept : d.mLastHealthSnapshotMs = 0 ∨ RecordsUptime d.settings d.mLastHealthSnapshotMs) :
    ∃ m, RecordsUptime (maybeLogAndPersistHealthSnapshot cfg w d).settings m ∧
      w.uptimeMs - cfg.kDiagSnapshotIntervalMs < m ∧
        (m = w.uptimeMs ∨ m = d.mLastHealthSnapshotMs ∧ d.mLastHealthSnapshotMs ≠ 0) := by
  cases hdue : snapshotDue cfg w d.mLastHealthSnapshotMs with
  | true =>
    have hpos := cfg.kDiagSnapshotIntervalMs_pos
    exact ⟨w.uptimeMs, snapshot_records hok hdue, by omega, Or.inl rfl⟩
  | false =>
    obtain ⟨-, hsame⟩ | ⟨hyes, -⟩ := snapshot_cases cfg w d
    · unfold snapshotDue at hdue
      rw [hdiag, Bool.true_and, Bool.not_eq_false', Bool.and_eq_true, decide_eq_true_eq,
        decide_eq_true_eq] at hdue
      obtain ⟨hne, hrecent⟩ := hdue
      rw [hsame]
      exact ⟨_, hkept.resolve_left hne, by omega, Or.inr ⟨rfl, hne⟩⟩
    · rw [hdue] at hyes
      cases hyes

end Snapshot

/-! ## One turn -/

/-- A turn does what is not of the snapshots, and then it may try one. -/
theorem turn_split (cfg : Config) (w : World) (l : Life) (t : Turn) :
    ∃ (d₁ : Device) (owners : List Owner), Owner.snapshot ∉ owners ∧
      Does cfg owners (l.begins cfg w t) d₁ ∧
      ((turn cfg t w l).device = d₁ ∨
        (turn cfg t w l).device = maybeLogAndPersistHealthSnapshot cfg w d₁) := by
  by_cases ho : Owner.snapshot ∈ l.owners t
  · have hbegins : l.begins cfg w t = l.device := by
      cases t with
      | main =>
        simp only [Life.begins]
        split
        · simp_all [Life.owners]
        · rfl
      | _ => rfl
    rw [hbegins]
    have hstep := turn_step cfg w l t
    generalize (turn cfg t w l).device = d' at hstep ⊢
    cases hstep with
    | idle => exact ⟨l.device, [], by simp, Writes.refl _, Or.inl rfl⟩
    | mainSnapshot => exact ⟨l.device, [], by simp, Writes.refl _, Or.inr rfl⟩
    | matterSnapshot => exact ⟨l.device, [], by simp, Writes.refl _, Or.inr rfl⟩
    | policyWork hwork =>
      obtain ⟨d₁, hdoes, -, hsplit⟩ := policy_split cfg w l.device
      rw [policyStep, hsplit]
      split
      · rename_i hlong
        exact ⟨_, [.policy], by simp, hdoes.trans (does_sysReboot hlong), Or.inl rfl⟩
      · exact ⟨d₁, [.policy], by simp, hdoes, Or.inr rfl⟩
    | _ => simp_all [Life.owners]
  · exact ⟨_, l.owners t, ho, does_turn cfg w l t, Or.inl rfl⟩

/-- What a turn leaves of the record before it, or puts in its place. -/
theorem turn_record {cfg : Config} {w : World} {l : Life} {t : Turn}
    (hok : w.settingsSaveOne kDiagKeyLastUptimeSec = 0) :
    ((turn cfg t w l).device.mLastHealthSnapshotMs = l.device.mLastHealthSnapshotMs ∧
      (turn cfg t w l).device.settings.lookup kDiagKeyLastUptimeSec =
        l.device.settings.lookup kDiagKeyLastUptimeSec) ∨
    ((turn cfg t w l).device.mLastHealthSnapshotMs = w.uptimeMs ∧
      RecordsUptime (turn cfg t w l).device.settings w.uptimeMs) := by
  obtain ⟨d₁, owners, ho, hdoes, hend⟩ := turn_split cfg w l t
  obtain ⟨hlast, hlookup⟩ := hdoes.quiet ho
  rw [begins_toAppTask] at hlast
  rw [(begins_frame cfg w l t).2] at hlookup
  obtain hend | hend := hend
  · rw [hend]
    exact Or.inl ⟨hlast, hlookup⟩
  · rw [hend]
    cases hdue : snapshotDue cfg w d₁.mLastHealthSnapshotMs with
    | false =>
      obtain ⟨-, hsame⟩ | ⟨hyes, -⟩ := snapshot_cases cfg w d₁
      · rw [hsame]
        exact Or.inl ⟨hlast, hlookup⟩
      · rw [hdue] at hyes
        cases hyes
    | true =>
      refine Or.inr ⟨?_, snapshot_records hok hdue⟩
      rw [snapshot_mLastHealthSnapshotMs, hdue]
      rfl

/-- The saves of a turn under the key of the uptime, however far it gets, save its own uptime. -/
theorem turn_saves_uptime {cfg : Config} {w : World} {l : Life} {t : Turn} {evs : List Event}
    (htrace : (turn cfg t w l).device.trace = l.device.trace ++ evs) {ev : Event} (hev : ev ∈ evs)
    {value : UInt32} (hvalue : savedUnder kDiagKeyLastUptimeSec ev = some value) :
    value = UInt32.ofInt (w.uptimeMs.tdiv 1000) := by
  obtain ⟨d₁, owners, ho, ⟨evs₁, htrace₁, haccepts, -⟩, hend⟩ := turn_split cfg w l t
  have hquiet : ∀ ev ∈ evs₁, savedUnder kDiagKeyLastUptimeSec ev = none := by
    intro ev hev
    have hother := accepts_others haccepts ho ev hev
    unfold savedUnder
    split
    · rename_i key v rc hcall
      rw [if_neg]
      rintro ⟨rfl, -⟩
      rw [hcall] at hother
      exact hother (owner_lastUptimeSec v rc)
    · rfl
  have htrace₁ : d₁.trace = l.device.trace ++ evs₁ := by
    rw [← (begins_frame cfg w l t).1]
    exact htrace₁
  have hsplit : ∃ evs₂, evs = evs₁ ++ evs₂ ∧ ∀ ev ∈ evs₂, ∀ v,
      savedUnder kDiagKeyLastUptimeSec ev = some v →
        v = UInt32.ofInt (w.uptimeMs.tdiv 1000) := by
    obtain hend | hend := hend
    · rw [hend, htrace₁] at htrace
      exact ⟨[], by rw [List.append_nil]; exact (List.append_cancel_left htrace).symm, by simp⟩
    · rw [hend, snapshot_trace, htrace₁, List.append_assoc] at htrace
      refine ⟨_, (List.append_cancel_left htrace).symm, ?_⟩
      intro ev hev v hv
      have hne : kDiagKeyLastThreadRole ≠ kDiagKeyLastUptimeSec := by decide
      split at hev
      · simp only [snapshotCalls, List.map_cons, List.map_nil, List.mem_cons, List.not_mem_nil,
          or_false] at hev
        obtain rfl | rfl | rfl := hev
        · simp only [savedUnder] at hv
          split at hv
          · exact (Option.some.inj hv).symm
          · cases hv
        · simp [savedUnder, hne] at hv
        · cases hv
      · cases hev
  obtain ⟨evs₂, rfl, hall⟩ := hsplit
  obtain hev | hev := List.mem_append.mp hev
  · rw [hquiet ev hev] at hvalue
    cases hvalue
  · exact hall ev hev value hvalue

/-! ## Lives -/

/-- All turns since the last reset. -/
def bootParty : Party Life LifeEvent World where
  takes _
    | .turn _ w => some w
    | _ => none
  restarts := LifeEvent.isReset

def bootInbox (cfg : Config) (store : Settings) (es : List LifeEvent) : List World :=
  bootParty.inbox (lifeStep cfg) (unborn store) es

/-- The time of the last snapshot, once there is one, is an uptime of this boot, and the settings
hold it. -/
theorem life_recorded (cfg : Config) (store : Settings) (es : List LifeEvent)
    (hok : ∀ x ∈ bootInbox cfg store es, x.settingsSaveOne kDiagKeyLastUptimeSec = 0) :
    let d := (life cfg store es).device
    d.mLastHealthSnapshotMs = 0 ∨ RecordsUptime d.settings d.mLastHealthSnapshotMs ∧
      ∃ x ∈ bootInbox cfg store es, x.uptimeMs = d.mLastHealthSnapshotMs := by
  induction es using List.reverseRecOn with
  | nil => exact Or.inl rfl
  | append_singleton es e ih =>
    unfold bootInbox at hok ih ⊢
    rw [inbox_concat] at hok ⊢
    rw [life_concat]
    cases e with
    | reset causes => exact Or.inl rfl
    | cut t w calls cleared causes => exact Or.inl rfl
    | turn t w =>
      have hbox : bootParty.receive (run (lifeStep cfg) (unborn store) es)
          (bootParty.inbox (lifeStep cfg) (unborn store) es) (.turn t w) =
            bootParty.inbox (lifeStep cfg) (unborn store) es ++ [w] := rfl
      rw [hbox] at hok ⊢
      have hearlier := ih fun x hx => hok x (List.mem_append_left _ hx)
      have hstep : lifeStep cfg (life cfg store es) (.turn t w) =
        turn cfg t w (life cfg store es) := rfl
      rw [hstep]
      dsimp only at hearlier ⊢
      obtain ⟨hlast, hlookup⟩ | ⟨hlast, hrecord⟩ :=
        turn_record (l := life cfg store es) (t := t) (hok w (by simp))
      · rw [hlast]
        refine hearlier.imp_right fun ⟨hrecord, x, hx, htime⟩ => ⟨?_, x, by simp [hx], htime⟩
        unfold RecordsUptime at hrecord ⊢
        rw [hlookup, hrecord]
      · rw [hlast]
        exact Or.inr ⟨hrecord, w, by simp, rfl⟩

/-- Whatever comes next leaves the record alone or replaces it with its own uptime. -/
theorem lifeStep_record (cfg : Config) (l : Life) (e : LifeEvent) :
    (lifeStep cfg l e).device.settings.lookup kDiagKeyLastUptimeSec =
        l.device.settings.lookup kDiagKeyLastUptimeSec ∨
      ∃ t w, e.work = some (t, w) ∧
        RecordsUptime (lifeStep cfg l e).device.settings w.uptimeMs := by
  have hreplay : ∀ (t : Turn) (w : World) (evs : List Event), e.work = some (t, w) →
      (∀ ev ∈ evs, ∀ value, savedUnder kDiagKeyLastUptimeSec ev = some value →
        value = UInt32.ofInt (w.uptimeMs.tdiv 1000)) →
      (lifeStep cfg l e).device.settings = evs.foldl Settings.after l.device.settings →
      (lifeStep cfg l e).device.settings.lookup kDiagKeyLastUptimeSec =
          l.device.settings.lookup kDiagKeyLastUptimeSec ∨
        ∃ t w, e.work = some (t, w) ∧
          RecordsUptime (lifeStep cfg l e).device.settings w.uptimeMs := by
    intro t w evs hwork hvalues hsettings
    unfold RecordsUptime
    rw [hsettings, lookup_replay]
    cases hlast : (evs.filterMap (savedUnder kDiagKeyLastUptimeSec)).getLast? with
    | none => exact Or.inl rfl
    | some value =>
      obtain ⟨ev, hev, hvalue⟩ := List.mem_filterMap.mp (List.mem_of_getLast? hlast)
      refine Or.inr ⟨t, w, hwork, ?_⟩
      rw [hvalues ev hev value hvalue]
      rfl
  cases e with
  | turn t w =>
    obtain ⟨evs, htrace, -, hrecords, -⟩ := turn_entries cfg l t w
    refine hreplay t w evs rfl (fun ev hev value => turn_saves_uptime htrace hev) ?_
    have hsettings := congrArg Records.settings hrecords
    rw [replay_settings] at hsettings
    exact hsettings.trans (by rw [← (begins_frame cfg w l t).2]; rfl)
  | reset causes => exact Or.inl rfl
  | cut t w calls cleared causes =>
    obtain ⟨evs, htrace, -, -, hcut⟩ := turn_entries cfg l t w
    refine hreplay t w (evs.take calls) rfl
      (fun ev hev value => turn_saves_uptime htrace (List.mem_of_mem_take hev)) ?_
    have hsettings := (hcut calls cleared).2
    rw [replay_settings] at hsettings
    exact hsettings.trans (by rw [← (begins_frame cfg w l t).2]; rfl)

/-- A tick of the policy that does not reboot leaves a record younger than the interval. -/
theorem tick_record {cfg : Config} {store : Settings} {es : List LifeEvent} {w : World}
    (hdiag : cfg.diagnosticMode = true)
    (hok : ∀ x ∈ bootInbox cfg store es ++ [w], x.settingsSaveOne kDiagKeyLastUptimeSec = 0)
    (hwork : (life cfg store es).takesWork = true)
    (hstays : ¬ RequestsReboot cfg (life cfg store es).device w) :
    ∃ m, RecordsUptime (life cfg store (es ++ [.turn .policyWork w])).device.settings m ∧
      w.uptimeMs - cfg.kDiagSnapshotIntervalMs < m ∧
        ∃ x ∈ bootInbox cfg store es ++ [w], x.uptimeMs = m := by
  have hearlier := life_recorded cfg store es fun x hx => hok x (List.mem_append_left _ hx)
  obtain ⟨d₁, hdoes, hthread, hsplit⟩ := policy_split cfg w (life cfg store es).device
  have hnot : detachedTooLong cfg w d₁.thread = false := by
    rw [hthread]
    unfold RequestsReboot at hstays
    rw [mem_tickCalls (by simp) (by simp)] at hstays
    simpa using hstays
  have hturn : (life cfg store (es ++ [.turn .policyWork w])).device =
      maybeLogAndPersistHealthSnapshot cfg w d₁ := by
    rw [life_concat]
    refine (turn_policyWork cfg w _ hwork).trans ?_
    rw [policyStep, hsplit, hnot]
    rfl
  obtain ⟨hlast, hlookup⟩ := hdoes.quiet (by simp)
  have hkept : d₁.mLastHealthSnapshotMs = 0 ∨
      RecordsUptime d₁.settings d₁.mLastHealthSnapshotMs := by
    unfold RecordsUptime
    rw [hlast, hlookup]
    exact hearlier.imp_right fun h => h.1
  obtain ⟨m, hrecord, hfresh, hm⟩ := snapshot_fresh hdiag (hok w (by simp)) hkept
  rw [hturn]
  refine ⟨m, hrecord, hfresh, ?_⟩
  obtain rfl | ⟨rfl, hne⟩ := hm
  · exact ⟨w, by simp, rfl⟩
  · rw [hlast] at hne ⊢
    obtain ⟨-, x, hx, htime⟩ := hearlier.resolve_left hne
    exact ⟨x, List.mem_append_left _ hx, htime⟩

/-- **The health record is fresh whenever the device dies.** In diagnostic mode, once a tick of the
policy at uptime `u` has run to its end without a reboot, with the saves of the uptime since the
reset successful, the settings hold, in seconds, an uptime of this boot later than `u` less the
snapshot interval. They go on to hold one through the later turns of the boot, whose calls do not
overlap, and through the reset that ends it between two turns or in the middle of one: up to the
first work at an uptime before `u`, which the next boot begins with. -/
theorem health_record_fresh (cfg : Config) (store : Settings) (es after : List LifeEvent)
    (w : World) (hdiag : cfg.diagnosticMode = true)
    (hwork : (life cfg store es).takesWork = true)
    (hstays : ¬ RequestsReboot cfg (life cfg store es).device w)
    (hok : ∀ x ∈ bootInbox cfg store es ++ [w], x.settingsSaveOne kDiagKeyLastUptimeSec = 0)
    (hlater : ∀ e ∈ after, ∀ t x, e.work = some (t, x) → w.uptimeMs ≤ x.uptimeMs) :
    ∃ m, RecordsUptime (life cfg store (es ++ .turn .policyWork w :: after)).device.settings m ∧
      w.uptimeMs - cfg.kDiagSnapshotIntervalMs < m ∧
        ((∃ x ∈ bootInbox cfg store es ++ [w], x.uptimeMs = m) ∨
          ∃ e ∈ after, ∃ t x, e.work = some (t, x) ∧ x.uptimeMs = m) := by
  induction after using List.reverseRecOn with
  | nil =>
    obtain ⟨m, hrecord, hfresh, hm⟩ := tick_record hdiag hok hwork hstays
    exact ⟨m, hrecord, hfresh, Or.inl hm⟩
  | append_singleton after e ih =>
    obtain ⟨m, hrecord, hfresh, hm⟩ := ih fun e' he' => hlater e' (List.mem_append_left _ he')
    have hsplit : es ++ .turn .policyWork w :: (after ++ [e]) =
        (es ++ .turn .policyWork w :: after) ++ [e] := by simp
    rw [hsplit, life_concat]
    obtain hsame | ⟨t, x, hx, hnew⟩ := lifeStep_record cfg
      (life cfg store (es ++ .turn .policyWork w :: after)) e
    · refine ⟨m, hsame.trans hrecord, hfresh, hm.imp_right ?_⟩
      rintro ⟨e', he', hrest⟩
      exact ⟨e', List.mem_append_left _ he', hrest⟩
    · have hpos := cfg.kDiagSnapshotIntervalMs_pos
      have hle := hlater e (by simp) t x hx
      exact ⟨x.uptimeMs, hnew, by omega, Or.inr ⟨e, by simp, t, x, hx, rfl⟩⟩

theorem health_record_fresh_over_a_cut_snapshot :
    let l := life diagConfig ∅ ([.reset 1, .turn .main {}] ++
      .turn .policyWork { uptimeMs := 2000 } ::
        [.turn .main { uptimeMs := 2500 }, .cut .policyWork { uptimeMs := 3000 } 1 false 1])
    ∃ m, RecordsUptime l.device.settings m ∧
      2000 - diagConfig.kDiagSnapshotIntervalMs < m := by
  obtain ⟨m, hrecord, hfresh, -⟩ := health_record_fresh diagConfig ∅ [.reset 1, .turn .main {}]
    [.turn .main { uptimeMs := 2500 }, .cut .policyWork { uptimeMs := 3000 } 1 false 1]
    { uptimeMs := 2000 } rfl (by decide +kernel)
    (by unfold RequestsReboot; decide +kernel) (by decide +kernel)
    (by simp [LifeEvent.work])
  exact ⟨m, hrecord, hfresh⟩

end TinyEnvSensor
