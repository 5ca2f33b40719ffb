import TinyEnvSensor.App.LifeAccount
import TinyEnvSensor.App.LifeParties
import TinyEnvSensor.App.Observer
import TinyEnvSensor.App.WatchdogFeeding

/-! # Start-ups and the watchdog over a life

A start-up ends at the first of its stages that fails. The watchdog is set up before the last two,
so when one of these fails it runs and nothing feeds it. In any life, what is fed is the channel
that the start-up of the same boot set up. -/
namespace TinyEnvSensor
open History Journal
set_option autoImplicit false

/-! ## The stages of a start-up -/

inductive StartStage where
  | prepareServer
  | boardInit
  | registerEventHandler
  | identifyInit
  | startServer
  | minMeasuredValue
  deriving DecidableEq, Repr

def startStages : List StartStage :=
  [.prepareServer, .boardInit, .registerEventHandler, .identifyInit, .startServer,
    .minMeasuredValue]

/-- The error of a stage, were it reached. -/
def StartStage.error (cfg : Config) (w : World) : StartStage → Option ChipError
  | .prepareServer => w.prepareServer
  | .boardInit => if !cfg.disableBoardUi && !w.boardInit then some .incorrectState else none
  | .registerEventHandler => if !cfg.disableBoardUi then w.registerEventHandler else none
  | .identifyInit => w.identifyInit
  | .startServer => w.startServer
  | .minMeasuredValue => if w.minMeasuredValueGet then none else some .incorrectState

def failingStage (cfg : Config) (w : World) : Option StartStage :=
  startStages.find? fun s => (s.error cfg w).isSome

/-- The watchdog comes after `IdentifyCluster::Init`. -/
def StartStage.afterWatchdog : StartStage → Bool
  | .startServer => true
  | .minMeasuredValue => true
  | _ => false

section Stages
variable (cfg : Config) (w : World) (d : Device)

theorem startUp_error :
    (startUp cfg w d).2 = (failingStage cfg w).bind (StartStage.error cfg w) := by
  unfold failingStage startStages startUp init
  cases hserver : w.prepareServer with
  | some err => simp [StartStage.error, hserver]
  | none =>
    cases hui : cfg.disableBoardUi <;> cases hboard : w.boardInit <;>
      cases hevent : w.registerEventHandler <;> cases hidentify : w.identifyInit <;>
      cases hstart : w.startServer <;> cases hmin : w.minMeasuredValueGet <;>
      simp [StartStage.error, hserver, hui, hboard, hevent, hidentify, hstart, hmin]

theorem diagInitWatchdog_channel (hfresh : d.mWdtChannel = -1) :
    (InstallsWatchdog cfg w ∧ (diagInitWatchdog cfg w d).mWdtChannel = w.wdtInstallTimeout) ∨
      (¬ InstallsWatchdog cfg w ∧ (diagInitWatchdog cfg w d).mWdtChannel = -1) := by
  simp only [diagInitWatchdog]
  split_ifs with hoff hinstall hsetup
  · refine Or.inr ⟨fun h => ?_, hfresh⟩
    simp [h.diag, h.dev, h.ready] at hoff
  · exact Or.inr ⟨fun h => absurd hinstall (not_lt.mpr h.installed), rfl⟩
  · exact Or.inr ⟨fun h => hsetup h.setUp, rfl⟩
  · simp only [Bool.or_eq_true, Bool.not_eq_true', not_or, Bool.not_eq_false] at hoff
    exact Or.inl ⟨⟨hoff.1.1, hoff.1.2, hoff.2, not_lt.mp hinstall, not_not.mp hsetup⟩, rfl⟩

/-- The start-up gets past the watchdog. -/
def ReachesWatchdog : Prop := ∀ s, failingStage cfg w = some s → s.afterWatchdog = true

theorem reachesWatchdog_iff : ReachesWatchdog cfg w ↔
    ∀ s : StartStage, s.afterWatchdog = false → s.error cfg w = none := by
  have hall : (∀ s : StartStage, s.afterWatchdog = false → s.error cfg w = none) ↔
      StartStage.prepareServer.error cfg w = none ∧ StartStage.boardInit.error cfg w = none ∧
        StartStage.registerEventHandler.error cfg w = none ∧
          StartStage.identifyInit.error cfg w = none := by
    constructor
    · exact fun h => ⟨h _ rfl, h _ rfl, h _ rfl, h _ rfl⟩
    · rintro ⟨hserver, hboard, hevent, hidentify⟩ s hs
      cases s with
      | prepareServer => exact hserver
      | boardInit => exact hboard
      | registerEventHandler => exact hevent
      | identifyInit => exact hidentify
      | _ => cases hs
  rw [hall]
  unfold ReachesWatchdog failingStage startStages
  cases hserver : StartStage.prepareServer.error cfg w <;>
    cases hboard : StartStage.boardInit.error cfg w <;>
    cases hevent : StartStage.registerEventHandler.error cfg w <;>
    cases hidentify : StartStage.identifyInit.error cfg w <;>
    cases hstart : StartStage.startServer.error cfg w <;>
    cases hmin : StartStage.minMeasuredValue.error cfg w <;>
    simp [hserver, hboard, hevent, hidentify, hstart, hmin, StartStage.afterWatchdog]

theorem startUp_channel (hfresh : d.mWdtChannel = -1) :
    (InstallsWatchdog cfg w ∧ ReachesWatchdog cfg w ∧
        (startUp cfg w d).1.mWdtChannel = w.wdtInstallTimeout) ∨
      (¬ (InstallsWatchdog cfg w ∧ ReachesWatchdog cfg w) ∧
        (startUp cfg w d).1.mWdtChannel = -1) := by
  have hboot : (diagOnBoot cfg w d).mWdtChannel = -1 := by
    rw [diagOnBoot_frame]
    exact hfresh
  have hinit : (ReachesWatchdog cfg w ∧ (init cfg w d).1 =
        diagInitWatchdog cfg w { diagOnBoot cfg w d with sampler.mShtReady := w.shtReady }) ∨
      (¬ ReachesWatchdog cfg w ∧ (init cfg w d).1.mWdtChannel = -1) := by
    rw [reachesWatchdog_iff]
    unfold init
    cases hserver : w.prepareServer with
    | some err =>
      refine Or.inr ⟨fun h => ?_, hfresh⟩
      have herror := h .prepareServer rfl
      simp [StartStage.error, hserver] at herror
    | none =>
      dsimp only
      split_ifs with hui hevent hidentify
      · refine Or.inr ⟨fun h => ?_, hboot⟩
        have herror := h .boardInit rfl
        simp [StartStage.error, hui] at herror
      · refine Or.inr ⟨fun h => ?_, hboot⟩
        have herror := h .registerEventHandler rfl
        simp only [Bool.and_eq_true, Bool.not_eq_true'] at hevent
        simp [StartStage.error, hevent.1] at herror
        simp [herror] at hevent
      · refine Or.inr ⟨fun h => ?_, hboot⟩
        have herror := h .identifyInit rfl
        simp only [StartStage.error] at herror
        simp [herror] at hidentify
      · refine Or.inl ⟨fun s hs => ?_, rfl⟩
        cases s with
        | prepareServer => exact hserver
        | boardInit => simp only [StartStage.error, if_neg hui]
        | registerEventHandler =>
          simp only [StartStage.error]
          split
          · simpa [*] using hevent
          · rfl
        | identifyInit => simpa [StartStage.error] using hidentify
        | _ => cases hs
  have hstart : (startUp cfg w d).1.mWdtChannel = (init cfg w d).1.mWdtChannel := by
    unfold startUp
    cases init cfg w d with
    | mk d₁ err =>
      cases err with
      | some err => rfl
      | none =>
        dsimp only
        split <;> rfl
  rw [hstart]
  obtain ⟨hreaches, hinit⟩ | ⟨hnot, hinit⟩ := hinit
  · rw [hinit]
    obtain ⟨hinstalls, hchannel⟩ | ⟨hnot, hchannel⟩ := diagInitWatchdog_channel cfg w
      { diagOnBoot cfg w d with sampler.mShtReady := w.shtReady } hboot
    · exact Or.inl ⟨hinstalls, hreaches, hchannel⟩
    · exact Or.inr ⟨fun h => hnot h.1, hchannel⟩
  · exact Or.inr ⟨fun h => hnot h.2, hinit⟩

end Stages

/-! ## The channel over a life -/

theorem startApp_channel {cfg : Config} {store : Settings} {es : List LifeEvent}
    (h : (life cfg store es).main = .startApp) : (life cfg store es).device.mWdtChannel = -1 := by
  rw [startApp_fresh h]

theorem applyEvent_channel (r : Records) (ev : Event) (hother : ev.call.owner ≠ some .startUp) :
    (applyEvent r ev).mWdtChannel = r.mWdtChannel := by
  obtain ⟨atMs, c⟩ := ev
  cases c with
  | wdtInstallTimeout windowMaxMs rc => exact absurd rfl hother
  | wdtSetup rc => exact absurd rfl hother
  | _ => rfl

/-- Only a start-up sets the channel. -/
theorem turn_channel (cfg : Config) (w : World) (l : Life) (t : Turn) :
    (turn cfg t w l).device.mWdtChannel = l.device.mWdtChannel ∨
      (t = .main ∧ l.main = .startApp ∧
        (turn cfg t w l).device = (startUp cfg w l.device).1) := by
  by_cases ho : Owner.startUp ∈ l.owners t
  · have hstep := turn_step cfg w l t
    generalize (turn cfg t w l).device = d' at hstep ⊢
    cases hstep with
    | idle => exact Or.inl rfl
    | startUp hmain => exact Or.inr ⟨rfl, hmain, rfl⟩
    | _ => simp_all [Life.owners]
  · refine Or.inl ?_
    have hkept := (does_turn cfg w l t).kept ho Records.mWdtChannel applyEvent_channel
    have hbegins := congrArg AppTask.mWdtChannel (begins_toAppTask cfg w l t)
    exact hkept.trans hbegins

/-- A channel that is fed was set up by the start-up of the same boot. -/
theorem channel_life {cfg : Config} {store : Settings} {es : List LifeEvent}
    (hchannel : 0 ≤ (life cfg store es).device.mWdtChannel) :
    ∃ before w ts, es = before ++ .turn .main w :: ts ∧ (∀ e ∈ ts, e.isReset = false) ∧
      (life cfg store before).main = .startApp ∧ InstallsWatchdog cfg w ∧ ReachesWatchdog cfg w ∧
      (life cfg store es).device.mWdtChannel = w.wdtInstallTimeout := by
  induction es using List.reverseRecOn with
  | nil => cases hchannel
  | append_singleton es e ih =>
    rw [life_concat] at hchannel ⊢
    cases e with
    | reset causes => cases hchannel
    | cut t w calls cleared causes => cases hchannel
    | turn t w =>
      have hstep : lifeStep cfg (life cfg store es) (.turn t w) =
        turn cfg t w (life cfg store es) := rfl
      rw [hstep] at hchannel ⊢
      obtain hsame | ⟨rfl, hmain, hdevice⟩ := turn_channel cfg w (life cfg store es) t
      · rw [hsame] at hchannel ⊢
        obtain ⟨before, w₀, ts, rfl, hts, hrest⟩ := ih hchannel
        refine ⟨before, w₀, ts ++ [.turn t w], by simp, fun e he => ?_, hrest⟩
        obtain he | he := List.mem_append.mp he
        · exact hts e he
        · rw [List.mem_singleton.mp he]
          rfl
      · rw [hdevice] at hchannel ⊢
        obtain ⟨hinstalls, hreaches, hset⟩ | ⟨-, hnone⟩ :=
          startUp_channel cfg w (life cfg store es).device (startApp_channel hmain)
        · exact ⟨es, w, [], rfl, by simp, hmain, hinstalls, hreaches, hset⟩
        · rw [hnone] at hchannel
          cases hchannel

/-- The channel that a turn feeds is set up when the turn begins. -/
theorem feed_channel {cfg : Config} {l : Life} {t : Turn} {w : World} {evs : List Event}
    (htrace : (turn cfg t w l).device.trace = l.device.trace ++ evs) {ev : Event} (hev : ev ∈ evs)
    {channel : ℤ} (hcall : ev.call = .wdtFeed channel) :
    0 ≤ l.device.mWdtChannel ∧ channel = l.device.mWdtChannel := by
  obtain ⟨ho, hmoved⟩ := owner_of_call htrace hev (o := .feeding) (by rw [hcall]; rfl)
  have hfeeds : (turn cfg t w l).device = diagFeedWatchdog cfg w l.device := by
    have hstep := turn_step cfg w l t
    generalize (turn cfg t w l).device = d' at hstep hmoved ⊢
    cases hstep with
    | idle => exact absurd rfl hmoved
    | mainFeed => rfl
    | matterFeed => rfl
    | _ => simp_all [Life.owners]
  rw [hfeeds, diagFeedWatchdog_trace] at htrace
  obtain rfl := List.append_cancel_left htrace
  obtain ⟨c, hc, rfl⟩ := List.mem_map.mp hev
  obtain rfl : c = .wdtFeed channel := hcall
  have hsame := mem_feedCalls hc
  refine ⟨?_, Call.wdtFeed.inj hsame⟩
  unfold feedCalls at hc
  split at hc
  · cases hc
  · rename_i hon
    simp only [Bool.or_eq_true, Bool.not_eq_true', decide_eq_true_eq, not_or, not_lt] at hon
    exact hon.1.2

/-- **Only a watchdog that runs is fed.** Every feed of a life goes to the channel that the start-up
of the same boot installed, after it had set the watchdog up: no reset lies between the two. -/
theorem feeds_follow_setup (cfg : Config) (store : Settings) (es : List LifeEvent) :
    ∀ ev ∈ (life cfg store es).device.trace, ∀ channel, ev.call = .wdtFeed channel →
      ∃ before w ts e after, es = before ++ .turn .main w :: ts ++ e :: after ∧
        (life cfg store before).main = .startApp ∧ (∀ e ∈ ts, e.isReset = false) ∧
        InstallsWatchdog cfg w ∧ ReachesWatchdog cfg w ∧ channel = w.wdtInstallTimeout ∧
        ∃ t x, e.work = some (t, x) ∧
          .wdtFeed channel ∈ newCalls (life cfg store (before ++ .turn .main w :: ts)).device
            (turn cfg t x (life cfg store (before ++ .turn .main w :: ts))).device := by
  intro ev hev channel hcall
  obtain ⟨before, e, after, t, x, evs, rfl, hwork, htrace, hmade⟩ := made_in_turn hev
  obtain ⟨hset, rfl⟩ := feed_channel htrace hmade hcall
  obtain ⟨first, w, ts, rfl, hts, hmain, hinstalls, hreaches, hchannel⟩ := channel_life hset
  refine ⟨first, w, ts, e, after, rfl, hmain, hts, hinstalls, hreaches, hchannel, t, x, hwork, ?_⟩
  rw [newCalls_of_append htrace, ← hcall]
  exact List.mem_map_of_mem hmade

theorem feeds_follow_setup_of_first_feed :
    ∃ w, InstallsWatchdog diagConfig w ∧ w.wdtInstallTimeout = 3 := by
  obtain ⟨-, w, -, -, -, -, -, -, hinstalls, -, hchannel, -⟩ := feeds_follow_setup diagConfig ∅
    [.reset 1, .turn .main { wdtInstallTimeout := 3 },
      .turn .main { sensorSampleFetch := -5 }, .turn .main {}]
    ⟨1, .wdtFeed 3⟩
    (by decide +kernel) 3 rfl
  exact ⟨w, hinstalls, hchannel.symm⟩

/-! ## Start-ups that fail -/

theorem failingStage_isSome {cfg : Config} {w : World} {stage : StartStage}
    (h : failingStage cfg w = some stage) : ∃ err, stage.error cfg w = some err := by
  have hsome : (stage.error cfg w).isSome = true :=
    List.find?_some (p := fun s : StartStage => (s.error cfg w).isSome) h
  exact Option.isSome_iff_exists.mp hsome

theorem failingStage_prepareServer {cfg : Config} {w : World} {stage : StartStage}
    (h : failingStage cfg w = some stage) : stage = .prepareServer ↔ w.prepareServer ≠ none := by
  constructor
  · rintro rfl hnone
    obtain ⟨err, herr⟩ := failingStage_isSome h
    rw [StartStage.error, hnone] at herr
    cases herr
  · intro hsome
    obtain ⟨err, hserver⟩ := Option.ne_none_iff_exists'.mp hsome
    unfold failingStage startStages at h
    rw [List.find?_cons_of_pos (by simp [StartStage.error, hserver])] at h
    exact (Option.some.inj h).symm

/-- The boot is counted by a start-up that gets to `DiagOnBoot`. -/
theorem startUp_counts {cfg : Config} {l : Life} {w : World} (hmain : l.main = .startApp) :
    (newEvents l.device (turn cfg .main w l).device).countP (Event.saves .bootCount) =
      (cfg.diagnosticMode && w.prepareServer.isNone).toNat := by
  obtain ⟨evs, htrace, haccepts, -⟩ := turn_entries cfg l .main w
  rw [newEvents_of_append htrace]
  cases hdiag : cfg.diagnosticMode with
  | false =>
    rw [Bool.false_and, Bool.toNat_false, List.countP_eq_zero]
    intro ev hev hsave
    have hallowed := haccepts.forall (p := fun ev => ∃ r, Allowed cfg r ev)
      (fun r ev hmade => ⟨r, hmade.1⟩) ev hev
    obtain ⟨r, hallowed⟩ := hallowed
    obtain ⟨atMs, c⟩ := ev
    cases c with
    | settingsSaveOne key value rc =>
      have hyes : cfg.diagnosticMode = true := hallowed.1
      rw [hdiag] at hyes
      cases hyes
    | _ => cases hsave
  | true =>
    rw [Bool.true_and]
    cases hserver : w.prepareServer with
    | some err =>
      have hsame : (turn cfg .main w l).device = l.device := by
        simp [turn, mainTurn, hmain, startUp_of_error hserver]
      rw [hsame] at htrace
      rw [List.self_eq_append_right.mp htrace]
      rfl
    | none =>
      exact (startUp_saves hdiag hserver hmain htrace).1

/-- **A start-up that fails is the last thing a boot does.** When a stage fails, no turn of the two
threads changes anything until a reset, and the watchdog is not fed; yet in diagnostic mode it runs,
where it can be set up, exactly when the stage comes after it, and the boot is counted unless the
first stage failed. -/
theorem failed_startup_is_final (cfg : Config) (store : Settings) (es : List LifeEvent)
    (w : World) (stage : StartStage) (ts : List (Turn × World))
    (hstart : (life cfg store es).main = .startApp) (hfail : failingStage cfg w = some stage) :
    let d := (life cfg store es).device
    let l := life cfg store (es ++ [.turn .main w])
    life cfg store (es ++ .turn .main w :: ts.map fun tw => .turn tw.1 tw.2) = l ∧
      (∀ channel, .wdtFeed channel ∉ newCalls d l.device) ∧
      (0 ≤ l.device.mWdtChannel ↔ InstallsWatchdog cfg w ∧ stage.afterWatchdog = true) ∧
      (newEvents d l.device).countP (Event.saves .bootCount) =
        (cfg.diagnosticMode && decide (stage ≠ .prepareServer)).toNat := by
  intro d l
  have hl : l = turn cfg .main w (life cfg store es) := by
    simp only [l]
    rw [life_concat]
    rfl
  have herror : (startUp cfg w d).2 ≠ none := by
    obtain ⟨err, herr⟩ := failingStage_isSome hfail
    rw [startUp_error, hfail, Option.bind_some, herr]
    exact Option.some_ne_none err
  have hexited : l.main = .exited := by
    rw [hl]
    simp only [turn, mainTurn, hstart]
    cases hout : startUp cfg w (life cfg store es).device with
    | mk d₁ err =>
      cases err with
      | none => exact absurd (congrArg Prod.snd hout) herror
      | some err => rfl
  refine ⟨?_, ?_, ?_, ?_⟩
  · have hsplit : es ++ LifeEvent.turn .main w :: (ts.map fun tw => .turn tw.1 tw.2) =
        (es ++ [.turn .main w]) ++ ts.map fun tw => .turn tw.1 tw.2 := by simp
    rw [hsplit]
    refine life_of_exited hexited fun e he => ?_
    obtain ⟨tw, -, rfl⟩ := List.mem_map.mp he
    rfl
  · intro channel hfeed
    obtain ⟨evs, htrace, -⟩ := turn_entries cfg (life cfg store es) .main w
    have hnot : Owner.feeding ∉ (life cfg store es).owners .main := by
      simp [Life.owners, hstart]
    rw [hl, newCalls_of_append htrace] at hfeed
    obtain ⟨ev, hev, hcall⟩ := List.mem_map.mp hfeed
    exact calls_of_others hnot htrace ev hev (by rw [hcall]; rfl)
  · have hreaches : ReachesWatchdog cfg w ↔ stage.afterWatchdog = true := by
      unfold ReachesWatchdog
      rw [hfail]
      exact ⟨fun h => h stage rfl, fun h s hs => Option.some.inj hs ▸ h⟩
    have hdevice : l.device = (startUp cfg w d).1 := by
      rw [hl]
      exact startUp_turn hstart
    rw [hdevice, ← hreaches]
    obtain ⟨hinstalls, hreached, hset⟩ | ⟨hnot, hnone⟩ :=
      startUp_channel cfg w d (startApp_channel hstart)
    · rw [hset]
      exact ⟨fun _ => ⟨hinstalls, hreached⟩, fun _ => hinstalls.installed⟩
    · rw [hnone]
      exact ⟨fun h => by omega, fun h => absurd h hnot⟩
  · rw [hl, startUp_counts hstart]
    have hserver : w.prepareServer.isNone = decide (stage ≠ .prepareServer) := by
      have hiff := failingStage_prepareServer hfail
      cases hw : w.prepareServer <;> simp_all
    rw [hserver]

theorem failed_startup_is_final_without_server :
    0 ≤ (life diagConfig ∅
      ([.reset 1] ++ [.turn .main { startServer := some .internal }])).device.mWdtChannel :=
  (failed_startup_is_final diagConfig ∅ [.reset 1] { startServer := some .internal } .startServer
    [(.main, {})] rfl rfl).2.2.1.mpr ⟨⟨rfl, rfl, rfl, by decide, rfl⟩, rfl⟩

end TinyEnvSensor
