import TinyEnvSensor.App.LifeAccount
import TinyEnvSensor.App.LifeParties

/-! # Flash writes in every life

From the start-up of a boot on, however the threads take turns and each turn in a world of its own:
the saves are those of the boot, of the role changes that the policy saw, of the failures, and two
of each snapshot. The snapshots of the two threads keep the interval between them, as no two calls
of `MaybeLogAndPersistHealthSnapshot` overlap in a life. -/
namespace TinyEnvSensor
open History Interleaving Stretch Spacing
set_option autoImplicit false

/-! ## One turn -/

/-- Calls from `d` to `d'` with the saves of their failures and snapshots, and `changes` more. They
hold a snapshot if one is tried and due. -/
structure Accounts (cfg : Config) (w : World) (changes : ℕ) (calls : List Call) (tries : Bool)
    (d d' : Device) : Prop where
  trace : d'.trace = d.trace ++ calls.map (Event.mk w.uptimeMs)
  count : calls.countP isSave = changes + calls.countP isFailedAccess +
    calls.countP isFailedAdcRead + 2 * calls.countP isSnapshot
  snapshots : calls.countP isSnapshot =
    if tries = true ∧ snapshotDue cfg w d.mLastHealthSnapshotMs = true then 1 else 0
  last : d'.mLastHealthSnapshotMs =
    if tries = true ∧ snapshotDue cfg w d.mLastHealthSnapshotMs = true then w.uptimeMs
    else d.mLastHealthSnapshotMs

section Functions
variable {cfg : Config} {w : World} {d d' : Device}

/-- A function that tries no snapshot. -/
theorem Accounts.of_balanced {calls : List Call} (hbalanced : Balanced calls)
    (htrace : d'.trace = d.trace ++ calls.map (Event.mk w.uptimeMs))
    (hnone : calls.countP isSnapshot = 0)
    (hlast : d'.mLastHealthSnapshotMs = d.mLastHealthSnapshotMs) :
    Accounts cfg w 0 calls false d d' := by
  unfold Balanced at hbalanced
  refine ⟨htrace, by omega, ?_, ?_⟩
  · rw [hnone]
    rfl
  · rw [hlast]
    rfl

theorem accounts_idle : Accounts cfg w 0 [] false d d :=
  .of_balanced balanced_nil (List.append_nil _).symm rfl rfl

theorem accounts_updateSensorReadings (hdiag : cfg.diagnosticMode = true) (force : Bool) :
    Accounts cfg w 0 (samplingCalls cfg w d force) false d
      (updateSensorReadings cfg w force d).2 := by
  have hbalanced : Balanced (samplingCalls cfg w d force) :=
    balanced_ite (balanced_accessCalls cfg w d hdiag)
  have hplain : Plain (samplingCalls cfg w d force) := by
    intro c hc
    unfold samplingCalls at hc
    split at hc
    · obtain hc | hc := List.mem_append.mp hc
      · exact plain_accessCalls w c hc
      · split at hc
        · cases hc
        · exact plain_accessFailureCalls cfg w d c hc
    · cases hc
  refine .of_balanced hbalanced (updateSensorReadings_trace cfg w d force)
    (hplain.countP fun _ h => Or.inr h) ?_
  obtain ⟨-, hout⟩ | ⟨-, -, hout⟩ | ⟨-, -, hout⟩ := updateSensorReadings_step cfg w force d
  · rw [hout]
  · rw [hout]
    simp [diagOnSensorReadFailure]
  · rw [hout]
    rfl

theorem accounts_updateMatterAttributes (hdiag : cfg.diagnosticMode = true) :
    Accounts cfg w 0 (publishCalls cfg w d) false d (updateMatterAttributes cfg w d) := by
  have hpower : ∀ vbat, Balanced (powerSourceCalls vbat) := fun _ => rfl
  have hbalanced : Balanced (publishCalls cfg w d) :=
    Balanced.append rfl ((balanced_batteryCalls cfg w _ hdiag).append (hpower _))
  exact .of_balanced hbalanced (updateMatterAttributes_trace cfg w d)
    ((plain_publishCalls cfg w d).countP fun _ h => Or.inr h) (by simp)

theorem accounts_diagFeedWatchdog :
    Accounts cfg w 0 (feedCalls cfg d.mWdtChannel) false d (diagFeedWatchdog cfg w d) :=
  .of_balanced (balanced_feedCalls cfg d.mWdtChannel) (diagFeedWatchdog_trace cfg w d)
    (countP_feedCalls cfg d.mWdtChannel) (by simp)

theorem accounts_snapshot :
    Accounts cfg w 0
      (if snapshotDue cfg w d.mLastHealthSnapshotMs then
        snapshotCalls w d.thread.mLastThreadRole d.mDiag else []) true d
      (maybeLogAndPersistHealthSnapshot cfg w d) := by
  refine ⟨snapshot_trace cfg w d, ?_, ?_, ?_⟩
  · split <;> rfl
  · cases snapshotDue cfg w d.mLastHealthSnapshotMs <;> rfl
  · rw [snapshot_mLastHealthSnapshotMs]
    simp

/-- The ticks among the events of a boot. -/
def ticks (ws : List World) : List (AppEvent × World) := ws.map fun w => (.policyTick, w)

theorem ticks_concat (ws : List World) (w : World) :
    ticks (ws ++ [w]) = ticks ws ++ [(.policyTick, w)] := List.map_append ..

theorem accounts_policyStep {ws : List World} (hdiag : cfg.diagnosticMode = true)
    (h : Tracked eventRole (fun e => e.2.uptimeMs) (ticks ws) d.thread) :
    ∃ tries, Accounts cfg w (roleChanges (ticks (ws ++ [w])) - roleChanges (ticks ws))
      (tickCalls cfg d w) tries d (policyStep cfg d w) := by
  rw [ticks_concat]
  have htrace := policy_trace cfg w d
  rw [← tickCalls_eq] at htrace
  exact ⟨_, htrace, countP_eventSaves (.policyTick, w) hdiag h,
    countP_eventCalls cfg d (.policyTick, w), appStep_mLastHealthSnapshotMs cfg d (.policyTick, w)⟩

/-- The turns of a running boot, those of the policy aside. -/
theorem accounts_turn {l : Life} {t : Turn} (hdiag : cfg.diagnosticMode = true)
    (hstarted : l.main ≠ .startApp) (h : t = .policyWork → l.takesWork = false) :
    ∃ calls tries, Accounts cfg w 0 calls tries l.device (turn cfg t w l).device := by
  have hstep := turn_step cfg w l t
  generalize (turn cfg t w l).device = d' at hstep ⊢
  cases hstep with
  | idle => exact ⟨_, _, accounts_idle⟩
  | startUp hmain => exact absurd hmain hstarted
  | mainSample => exact ⟨_, _, accounts_updateSensorReadings hdiag true⟩
  | mainPublish => exact ⟨_, _, accounts_updateMatterAttributes hdiag⟩
  | mainSnapshot => exact ⟨_, _, accounts_snapshot⟩
  | mainFeed => exact ⟨_, _, accounts_diagFeedWatchdog⟩
  | sensorWork => exact ⟨_, _, accounts_updateSensorReadings hdiag false⟩
  | policyWork hwork =>
    rw [h rfl] at hwork
    cases hwork
  | matterPublish => exact ⟨_, _, accounts_updateMatterAttributes hdiag⟩
  | matterSnapshot => exact ⟨_, _, accounts_snapshot⟩
  | matterFeed => exact ⟨_, _, accounts_diagFeedWatchdog⟩

end Functions

/-! ## A boot -/

/-- A device with what it has done since it was `d₀`. -/
def sinceStart (d₀ d : Device) : Device := { d with trace := newEvents d₀ d }

theorem sinceStart_trace {d₀ d d' : Device} {evs : List Event} (hgrows : d₀.trace <+: d.trace)
    (htrace : d'.trace = d.trace ++ evs) :
    (sinceStart d₀ d').trace = (sinceStart d₀ d).trace ++ evs := by
  obtain ⟨made, hmade⟩ := hgrows
  have hboth : d'.trace = d₀.trace ++ (made ++ evs) := by rw [htrace, ← hmade, List.append_assoc]
  have hnew : newEvents d₀ d = made := newEvents_of_append hmade.symm
  exact (newEvents_of_append hboth).trans (by rw [← hnew]; rfl)

/-- What a boot that began at `d₀` has done by the turns of the worlds `ws`, the ticks `ticks inbox`
among them. -/
structure BootBudget (cfg : Config) (d₀ : Device) (ws inbox : List World) (d : Device) :
    Prop where
  grows : d₀.trace <+: d.trace
  tracked : Tracked eventRole (fun e => e.2.uptimeMs) (ticks inbox) d.thread
  clock : ClockTracked cfg ws (sinceStart d₀ d)
  count : ((sinceStart d₀ d).trace.map Event.call).countP isSave =
    (2 + (hasDog d₀.resetreas).toNat) + roleChanges (ticks inbox) +
      ((sinceStart d₀ d).trace.map Event.call).countP isFailedAccess +
      ((sinceStart d₀ d).trace.map Event.call).countP isFailedAdcRead +
      2 * ((sinceStart d₀ d).trace.map Event.call).countP isSnapshot

section Boot
variable {cfg : Config} {d₀ d d' : Device} {ws inbox : List World} {w : World}

theorem BootBudget.step {inbox' : List World} {calls : List Call} {tries : Bool}
    (h : BootBudget cfg d₀ ws inbox d) (hdiag : cfg.diagnosticMode = true)
    (hpos : ∀ x ∈ ws, 0 < x.uptimeMs)
    (hmade : Accounts cfg w (roleChanges (ticks inbox') - roleChanges (ticks inbox)) calls tries
      d d')
    (hmono : roleChanges (ticks inbox) ≤ roleChanges (ticks inbox'))
    (htracked : Tracked eventRole (fun e => e.2.uptimeMs) (ticks inbox') d'.thread) :
    BootBudget cfg d₀ (ws ++ [w]) inbox' d' := by
  have htrace := sinceStart_trace h.grows hmade.trace
  refine ⟨h.grows.trans ⟨_, hmade.trace.symm⟩, htracked, ?_, ?_⟩
  · exact h.clock.step tries hdiag hpos htrace (madeAt_calls ..) hmade.snapshots hmade.last
  · have hcount := count_step h.count htrace (madeAt_calls w.uptimeMs calls).calls hmade.count
    omega

/-- A start-up that gets to `DiagOnBoot` saves two or three times. -/
theorem BootBudget.start (hdiag : cfg.diagnosticMode = true) (hserver : w.prepareServer = none)
    (hfresh : d₀.toAppTask = {}) : BootBudget cfg d₀ [w] [] (startUp cfg w d₀).1 := by
  obtain ⟨rest, hrest, htrace⟩ := startUp_calls hdiag hserver
  have hdoes : Does cfg [.startUp] (loadedBoot cfg w d₀) (startUp cfg w d₀).1 := does_startUp
  obtain ⟨evs, hevs, haccepts, -⟩ := hdoes
  rw [deviceReader_log, deviceReader_log, loadedBoot_trace] at hevs
  obtain rfl := List.append_cancel_left (hevs.symm.trans htrace)
  have hsince : (sinceStart d₀ (startUp cfg w d₀).1).trace =
      (bootCalls w d₀.resetreas (loadDiag w d₀.settings) ++ rest).map (Event.mk w.uptimeMs) :=
    newEvents_of_append htrace
  have hnone : ∀ (o : Owner) (p : Call → Bool), o ≠ .startUp →
      (∀ c, p c = true → c.owner = some o) →
      (bootCalls w d₀.resetreas (loadDiag w d₀.settings) ++ rest).countP p = 0 := by
    intro o p ho hp
    rw [List.countP_eq_zero]
    intro c hc hpc
    exact accepts_others haccepts (o := o) (by simpa using ho) _ (List.mem_map_of_mem hc) (hp c hpc)
  have hsnapshot := hnone .snapshot isSnapshot (by decide) fun c hc => by
    cases c <;> first | rfl | cases hc
  have haccess := hnone .sampling isFailedAccess (by decide) fun c hc => by
    cases c <;> first | rfl | cases hc
  have hadc := hnone .publishing isFailedAdcRead (by decide) fun c hc => by
    cases c <;> first | rfl | cases hc
  have hsaves : (bootCalls w d₀.resetreas (loadDiag w d₀.settings) ++ rest).countP isSave =
      2 + (hasDog d₀.resetreas).toNat := by
    have hquiet : rest.countP isSave = 0 := by
      rw [List.countP_eq_zero]
      simpa using hrest
    rw [List.countP_append, hquiet]
    unfold bootCalls hasDog
    by_cases hdog : d₀.resetreas &&& NRF_POWER_RESETREAS_DOG_MASK ≠ 0
    · simp only [if_pos hdog, decide_eq_true hdog]
      rfl
    · simp only [if_neg hdog, decide_eq_false hdog]
      rfl
  have htimes : timesOf isSnapshot (sinceStart d₀ (startUp cfg w d₀).1).trace = [] := by
    rw [hsince, ← List.nil_append (List.map _ _), timesOf_append, hsnapshot]
    rfl
  have hcalls : (sinceStart d₀ (startUp cfg w d₀).1).trace.map Event.call =
      bootCalls w d₀.resetreas (loadDiag w d₀.settings) ++ rest := by
    rw [hsince, List.map_map]
    exact List.map_id _
  have hframe := startUp_frame cfg w d₀
  refine ⟨⟨_, htrace.symm⟩, ?_, ⟨?_, ?_, ?_⟩, ?_⟩
  · rw [hframe, hfresh]
    exact Tracked.initial
  · have hlast : (startUp cfg w d₀).1.mLastHealthSnapshotMs = 0 := by
      rw [hframe, hfresh]
    rw [htimes]
    exact hlast
  · rw [htimes]
    exact List.Pairwise.nil
  · rw [htimes]
    simp
  · rw [hcalls, hsaves, haccess, hadc, hsnapshot]
    rfl

end Boot

theorem policyInbox_of_startApp {cfg : Config} {store : Settings} {es : List LifeEvent}
    (h : (life cfg store es).main = .startApp) : policyInbox cfg store es = [] := by
  induction es using List.reverseRecOn with
  | nil => rfl
  | append_singleton es e ih =>
    have hinbox : policyInbox cfg store (es ++ [e]) =
      policyParty.receive (life cfg store es) (policyInbox cfg store es) e := inbox_concat ..
    rw [life_concat] at h
    rw [hinbox]
    cases e with
    | turn t w =>
      have hmain : (life cfg store es).main = .startApp := by
        by_contra hnot
        exact turn_main cfg w (life cfg store es) (Or.inr hnot) h
      have hidle : (life cfg store es).takesWork = false := by
        simp [Life.takesWork, Life.running, hmain]
      rw [ih hmain]
      cases t <;> simp [Party.receive, policyParty, hidle, LifeEvent.isReset]
    | reset causes => rfl
    | cut t w calls cleared causes => rfl

def turnEvents (ts : List (Turn × World)) : List LifeEvent := ts.map fun tw => .turn tw.1 tw.2

theorem bootBudget_run {cfg : Config} {store : Settings} {es : List LifeEvent} {w₀ : World}
    {ts : List (Turn × World)} (hdiag : cfg.diagnosticMode = true)
    (hmain : (life cfg store es).main = .startApp) (hserver : w₀.prepareServer = none)
    (hpos : ∀ x ∈ w₀ :: ts.map Prod.snd, 0 < x.uptimeMs) :
    BootBudget cfg (life cfg store es).device (w₀ :: ts.map Prod.snd)
      (policyInbox cfg store (es ++ .turn .main w₀ :: turnEvents ts))
      (life cfg store (es ++ .turn .main w₀ :: turnEvents ts)).device ∧
    (life cfg store (es ++ .turn .main w₀ :: turnEvents ts)).main ≠ .startApp := by
  have hreceive : ∀ es e, policyInbox cfg store (es ++ [e]) =
      policyParty.receive (life cfg store es) (policyInbox cfg store es) e :=
    fun _ _ => inbox_concat ..
  induction ts using List.reverseRecOn with
  | nil =>
    have hinbox : policyInbox cfg store (es ++ [.turn .main w₀]) = [] := by
      rw [hreceive, policyInbox_of_startApp hmain]
      rfl
    have hdevice : (life cfg store (es ++ [.turn .main w₀])).device =
        (startUp cfg w₀ (life cfg store es).device).1 := by
      rw [life_concat]
      exact startUp_turn hmain
    refine ⟨?_, ?_⟩
    · simp only [turnEvents, List.map_nil, hinbox, hdevice]
      exact BootBudget.start hdiag hserver (startApp_fresh hmain)
    · simp only [turnEvents, List.map_nil, life_concat]
      exact turn_main cfg w₀ _ (Or.inl rfl)
  | append_singleton ts tw ih =>
    obtain ⟨t, w⟩ := tw
    have hsplit : es ++ .turn .main w₀ :: turnEvents (ts ++ [(t, w)]) =
        (es ++ .turn .main w₀ :: turnEvents ts) ++ [.turn t w] := by simp [turnEvents]
    have hworlds : w₀ :: (ts ++ [(t, w)]).map Prod.snd = (w₀ :: ts.map Prod.snd) ++ [w] := by simp
    rw [hworlds] at hpos ⊢
    rw [hsplit, life_concat, hreceive]
    have hearlier : ∀ x ∈ w₀ :: ts.map Prod.snd, 0 < x.uptimeMs := fun x hx =>
      hpos x (List.mem_append_left _ hx)
    obtain ⟨hbudget, hstarted⟩ := ih hearlier
    generalize policyInbox cfg store (es ++ .turn .main w₀ :: turnEvents ts) = inbox at hbudget ⊢
    generalize life cfg store (es ++ .turn .main w₀ :: turnEvents ts) = l at hbudget hstarted ⊢
    refine ⟨?_, turn_main cfg w l (Or.inr hstarted)⟩
    by_cases htakes : t = .policyWork ∧ l.takesWork = true
    · obtain ⟨rfl, hwork⟩ := htakes
      have hinbox : policyParty.receive l inbox (.turn .policyWork w) = inbox ++ [w] := by
        simp [Party.receive, policyParty, hwork, LifeEvent.isReset]
      have hdevice : (lifeStep cfg l (.turn .policyWork w)).device = policyStep cfg l.device w :=
        turn_policyWork cfg w l hwork
      obtain ⟨tries, hmade⟩ := accounts_policyStep (w := w) hdiag hbudget.tracked
      have htracked : Tracked eventRole (fun e => e.2.uptimeMs) (ticks inbox ++ [(.policyTick, w)])
          (policyStep cfg l.device w).thread := appStep_tracked (.policyTick, w) hbudget.tracked
      have hmono := roleChanges_mono (ticks inbox) (.policyTick, w)
      rw [← ticks_concat] at htracked hmono
      rw [hinbox, hdevice]
      exact hbudget.step hdiag hearlier hmade hmono htracked
    · have hidle : t = .policyWork → l.takesWork = false := by
        intro ht
        simpa [ht] using htakes
      have hinbox : policyParty.receive l inbox (.turn t w) = inbox := by
        cases t with
        | policyWork => simp [Party.receive, policyParty, hidle rfl, LifeEvent.isReset]
        | _ => simp [Party.receive, policyParty, LifeEvent.isReset]
      obtain ⟨calls, tries, hmade⟩ := accounts_turn (w := w) hdiag hstarted hidle
      have hthread := (keepsPolicy_turn cfg w l hidle).1
      have hzero : roleChanges (ticks inbox) - roleChanges (ticks inbox) = 0 := Nat.sub_self _
      rw [← hzero] at hmade
      rw [hinbox]
      exact hbudget.step hdiag hearlier hmade le_rfl (hthread ▸ hbudget.tracked)

/-- **The flash-write budget in every life.** Take a start-up that gets to `DiagOnBoot`, anywhere in
a life in diagnostic mode, and any turns of the threads after it, each a whole call that is over
before the next begins, at uptimes that never go back. The saves so far are two of the boot and one
more for a DOG reset, one for each entry into DETACHED and each exit from it that the policy saw,
one for each failed access and each failed ADC read, and two for each snapshot. The snapshots of
both threads together are an interval apart, so that there is at most one more of them than
intervals have passed. A reset in the middle of one more turn leaves at most the saves that the
whole turn leaves. -/
theorem flash_budget_in_every_life (cfg : Config) (store : Settings) (es : List LifeEvent)
    (w₀ : World) (ts : List (Turn × World)) (hdiag : cfg.diagnosticMode = true)
    (hmain : (life cfg store es).main = .startApp) (hserver : w₀.prepareServer = none)
    (htime : Timely World.uptimeMs (w₀ :: ts.map Prod.snd)) :
    let boot := es ++ .turn .main w₀ :: turnEvents ts
    let d := (life cfg store es).device
    let calls := newCalls d (life cfg store boot).device
    let times := timesOf isSnapshot (newEvents d (life cfg store boot).device)
    let roles := (policyInbox cfg store boot).filterMap policyRole
    calls.countP isSave = 2 + (hasDog d.resetreas).toNat +
        (begun isDetached .disabled roles + begun (fun r => !isDetached r) .disabled roles) +
        calls.countP isFailedAccess + calls.countP isFailedAdcRead + 2 * times.length ∧
      times.Pairwise (fun s t => s + cfg.kDiagSnapshotIntervalMs ≤ t) ∧
      (times.length : ℤ) ≤ 1 + ((ts.map fun tw => tw.2.uptimeMs).getLastD w₀.uptimeMs -
        w₀.uptimeMs) / cfg.kDiagSnapshotIntervalMs ∧
      ∀ t w made cleared causes,
        (newCalls d (life cfg store
            (boot ++ [.cut t w made cleared causes])).device).countP isSave ≤
          (newCalls d (life cfg store (boot ++ [.turn t w])).device).countP isSave := by
  obtain ⟨hbudget, -⟩ := bootBudget_run hdiag hmain hserver htime.pos
  intro boot d calls times roles
  have hlength : times.length = calls.countP isSnapshot := length_timesOf ..
  have hroles : (ticks (policyInbox cfg store boot)).filterMap eventRole = roles :=
    List.filterMap_map ..
  have hcount := hbudget.count
  unfold roleChanges at hcount
  rw [hroles] at hcount
  refine ⟨?_, hbudget.clock.spaced, ?_, ?_⟩
  · rw [hlength]
    exact hcount
  · have hle := htime.between
    rw [List.map_map] at hle
    refine hbudget.clock.spaced.length_le cfg.kDiagSnapshotIntervalMs_pos ?_ fun s hs => ?_
    · exact (hle w₀ (by simp)).2
    · obtain ⟨x, hx, rfl⟩ := hbudget.clock.times s hs
      exact hle x hx
  · intro t w made cleared causes
    obtain ⟨evs, htrace, -, -, hcut⟩ := turn_entries cfg (life cfg store boot) t w
    have hbefore := hbudget.grows
    have hwhole : (life cfg store (boot ++ [.turn t w])).device.trace =
        (life cfg store boot).device.trace ++ evs := by
      rw [life_concat]
      exact htrace
    have hpart : (life cfg store (boot ++ [.cut t w made cleared causes])).device.trace =
        (life cfg store boot).device.trace ++ evs.take made := by
      rw [life_concat]
      exact (hcut made cleared).1
    rw [newCalls_trans hbefore ⟨_, hwhole.symm⟩, newCalls_trans hbefore ⟨_, hpart.symm⟩,
      newCalls_of_append hwhole, newCalls_of_append hpart, List.countP_append, List.countP_append,
      List.map_take]
    have hfewer := (List.take_sublist made (evs.map Event.call)).countP_le (p := isSave)
    omega

/-- A start-up, its first sample, and a tick that sees the node detach before the first snapshot of
the main thread. -/
theorem flash_budget_in_every_life_of_a_first_minute :
    (newCalls (life diagConfig ∅ [.reset 2]).device
      (life diagConfig ∅ ([.reset 2] ++ .turn .main { uptimeMs := 1 } ::
        turnEvents [(.main, { uptimeMs := 2 }), (.main, { uptimeMs := 3 }),
          (.policyWork, tickAt 1000 .detached), (.main, { uptimeMs := 1001 })])).device).countP
            isSave = 6 := by
  have h := (flash_budget_in_every_life diagConfig ∅ [.reset 2] { uptimeMs := 1 }
    [(.main, { uptimeMs := 2 }), (.main, { uptimeMs := 3 }),
      (.policyWork, tickAt 1000 .detached), (.main, { uptimeMs := 1001 })] rfl rfl rfl
    ⟨by decide, by decide⟩).1
  rw [h]
  decide +kernel

end TinyEnvSensor
