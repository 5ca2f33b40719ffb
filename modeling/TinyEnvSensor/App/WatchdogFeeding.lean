import TinyEnvSensor.App.Task
import TinyEnvSensor.Sensor.BatteryMeaning
import TinyEnvSensor.Foundations.Coverage

/-! # What keeps the watchdog fed

No task is posted to the queue, so the main loop feeds once and then blocks: from there on the feeds
are those of the ticks of the sensor timer that get to their end. Which ones do is a matter of the
commissioned flag at the tick and the one before, and of the sensor; when they get there, of the
sleeps on the way. -/
namespace TinyEnvSensor
open History Coverage
set_option autoImplicit false

/-! ## The runs -/

def sensorTicks (ws : ℕ → World) (n : ℕ) : List (AppEvent × World) :=
  (List.range n).map fun k => (.sensorTick, ws (k + 1))

/-- The device `n` ticks after it booted in the world `ws 0`. -/
def afterTicks (cfg : Config) (store : Settings) (causes : UInt32) (ws : ℕ → World) (n : ℕ) :
    Device :=
  run (appStep cfg) (boot cfg store causes (ws 0)).1 (sensorTicks ws n)

theorem afterTicks_succ (cfg : Config) (store : Settings) (causes : UInt32) (ws : ℕ → World)
    (n : ℕ) :
    afterTicks cfg store causes ws (n + 1) =
      updateTemperatureTimeoutCallback cfg (ws (n + 1)) (afterTicks cfg store causes ws n) := by
  unfold afterTicks sensorTicks
  rw [List.range_succ, List.map_append, List.map_singleton, run_concat]
  rfl

/-- `DiagInitWatchdog` installs a channel and sets the watchdog up. -/
structure InstallsWatchdog (cfg : Config) (w : World) : Prop where
  diag : cfg.diagnosticMode = true
  dev : cfg.hasWdtDev = true
  ready : w.wdtReady = true
  installed : 0 ≤ w.wdtInstallTimeout
  setUp : w.wdtSetup = 0

/-- The start-up feeds, and a tick does if the node is commissioned at it and was at the one before,
and the sensor is there and answers. -/
def feedsAt (ws : ℕ → World) : ℕ → Bool
  | 0 => true
  | k + 1 =>
    isCommissioned (ws k) && isCommissioned (ws (k + 1)) && (ws 0).shtReady &&
      accessSucceeds (ws (k + 1))

/-- The start-up publishes its sample, if it gets one; a tick publishes the one it feeds after. -/
def publishesAt (ws : ℕ → World) : ℕ → Bool
  | 0 => (ws 0).shtReady && accessSucceeds (ws 0)
  | k + 1 => feedsAt ws (k + 1)

/-- The publications before the tick `k`. The first of them set up the ADC for all. -/
def published (ws : ℕ → World) (k : ℕ) : List World :=
  ((List.range k).filter (publishesAt ws)).map ws

/-- How long the work item of the tick `k` takes: the time of its calls and, where it publishes, the
sleeps of 2 ms for the divider, between the samples, and for the pulse of the LED. -/
def workMs (cfg : Config) (ws : ℕ → World) (k : ℕ) : ℤ :=
  (ws k).busyMs +
    if publishesAt ws k then
      (if initSucceeds ((published ws k).headD (ws k)) then
          2 + sampleSleepMs (ws k) kBatterySampleCount 0
        else 0) + pulseSleepMs cfg
    else 0

def endsAt (cfg : Config) (ws : ℕ → World) (k : ℕ) : ℤ := (ws k).uptimeMs + workMs cfg ws k

/-- The timer ticks every minute, and each work item is done before the next tick. -/
structure OnTime (cfg : Config) (ws : ℕ → World) : Prop where
  start : 0 ≤ (ws 0).uptimeMs
  next : ∀ k, (ws (k + 1)).uptimeMs = (ws k).uptimeMs + kSensorUpdateIntervalMs
  busy : ∀ k, 0 ≤ (ws k).busyMs
  ends : ∀ k, endsAt cfg ws k < (ws (k + 1)).uptimeMs

theorem published_succ (ws : ℕ → World) (k : ℕ) :
    published ws (k + 1) = published ws k ++ if publishesAt ws k then [ws k] else [] := by
  unfold published
  rw [List.range_succ, List.filter_append, List.map_append]
  cases hpub : publishesAt ws k <;> simp [hpub]

section OnTime
variable {cfg : Config} {ws : ℕ → World}

theorem OnTime.nonneg (htime : OnTime cfg ws) (k : ℕ) : 0 ≤ (ws k).uptimeMs := by
  induction k with
  | zero => exact htime.start
  | succ k ih =>
    rw [htime.next k]
    exact add_nonneg ih (by decide)

theorem OnTime.workMs_nonneg (htime : OnTime cfg ws) (k : ℕ) : 0 ≤ workMs cfg ws k := by
  have hbusy := htime.busy k
  have hsamples := sampleSleepMs_nonneg (ws k) kBatterySampleCount 0
  unfold workMs pulseSleepMs
  split_ifs <;> omega

/-- The sleeps of a work item take 205 ms at most. -/
theorem workMs_le (k : ℕ) : workMs cfg ws k ≤ 205 + (ws k).busyMs := by
  have hsamples := sampleSleepMs_le (ws k) kBatterySampleCount 0
  unfold kBatterySampleDelayMs kBatterySampleCount at hsamples
  unfold workMs pulseSleepMs kBatterySampleCount
  split_ifs <;> omega

theorem OnTime.endsAt_lt (htime : OnTime cfg ws) (k : ℕ) :
    endsAt cfg ws k < endsAt cfg ws (k + 1) := by
  have hwork := htime.workMs_nonneg (k + 1)
  calc endsAt cfg ws k < (ws (k + 1)).uptimeMs := htime.ends k
    _ ≤ endsAt cfg ws (k + 1) := by
      unfold endsAt
      omega

/-- Work items whose calls take no time are done well before the next tick. -/
theorem OnTime.of_sleeps (hstart : 0 ≤ (ws 0).uptimeMs)
    (hnext : ∀ k, (ws (k + 1)).uptimeMs = (ws k).uptimeMs + kSensorUpdateIntervalMs)
    (hbusy : ∀ k, (ws k).busyMs = 0) : OnTime cfg ws := by
  refine ⟨hstart, hnext, fun k => (hbusy k).ge, fun k => ?_⟩
  have hwork : workMs cfg ws k ≤ 205 + (ws k).busyMs := workMs_le k
  unfold endsAt
  rw [hnext k, kSensorUpdateIntervalMs]
  rw [hbusy k] at hwork
  omega

end OnTime

/-! ## The gate of a tick -/

section Gate
variable (cfg : Config) (w : World)

theorem noteCommissioned_mCommissionedAtMs_le {s : Sampler} (hw : 0 ≤ w.uptimeMs)
    (hs : s.mCommissionedAtMs ≤ w.uptimeMs) :
    (noteCommissioned w s).mCommissionedAtMs ≤ w.uptimeMs := by
  simp only [noteCommissioned]
  split
  · split
    · exact le_rfl
    · exact hw
  · exact hs

theorem gatePasses_later {s : Sampler} (hw : 0 < w.uptimeMs)
    (hs : s.mCommissionedAtMs + kCommissionGraceMs ≤ w.uptimeMs) :
    gatePasses w false s = (s.mWasCommissioned && isCommissioned w) := by
  unfold gatePasses
  rw [Bool.false_or]
  cases hcomm : isCommissioned w with
  | false => simp
  | true =>
    cases hwas : s.mWasCommissioned with
    | false =>
      -- the tick itself notes the commissioning, and is the first of its grace
      have hsince : (noteCommissioned w s).mCommissionedAtMs = w.uptimeMs := by
        simp [noteCommissioned, hcomm, hwas]
      rw [hsince, sub_self]
      simp [hw, kCommissionGraceMs]
    | true =>
      have hsame : noteCommissioned w s = s := by
        simp [noteCommissioned, hcomm, hwas]
      have hgrace : ¬ w.uptimeMs - s.mCommissionedAtMs < kCommissionGraceMs := by omega
      rw [hsame, decide_eq_false hgrace, Bool.and_false]
      rfl

theorem sensorCycle_gate (d : Device) (force : Bool) :
    (sensorCycle cfg w force d).2.sampler.mShtReady = d.sampler.mShtReady ∧
      (sensorCycle cfg w force d).2.sampler.mWasCommissioned = isCommissioned w ∧
      (sensorCycle cfg w force d).2.sampler.mCommissionedAtMs =
        (noteCommissioned w d.sampler).mCommissionedAtMs := by
  have hready := (noteCommissioned_rest w d.sampler).1
  have hwas := noteCommissioned_mWasCommissioned w d.sampler
  rw [sensorCycle_sampler]
  split
  · exact ⟨hready, hwas, rfl⟩
  · exact ⟨hready, hwas, rfl⟩

end Gate

/-! ## The feeds among the calls -/

theorem countP_isFeed_cycleCalls (cfg : Config) (w : World) (d : Device) (force : Bool) :
    (cycleCalls cfg w d force).countP isFeed = 0 := by
  rw [countP_cycleCalls cfg w d (fun c hc => Or.inl hc)]
  split
  · rfl
  · rfl

theorem countP_isFeed_feedCalls {cfg : Config} {channel : ℤ} (hdiag : cfg.diagnosticMode = true)
    (hdev : cfg.hasWdtDev = true) (hchannel : 0 ≤ channel) :
    (feedCalls cfg channel).countP isFeed = 1 := by
  have hfed : ¬ channel < 0 := not_lt.mpr hchannel
  unfold feedCalls
  rw [hdiag, hdev, decide_eq_false hfed]
  rfl

theorem firstDevice_mWdtChannel {cfg : Config} (store : Settings) (causes : UInt32) {w : World}
    (hinst : InstallsWatchdog cfg w) :
    (firstDevice cfg store causes w).mWdtChannel = w.wdtInstallTimeout := by
  have hnonneg : ¬ w.wdtInstallTimeout < 0 := not_lt.mpr hinst.installed
  simp [firstDevice, beforeFirstSample, initialised, diagInitWatchdog, hinst.diag, hinst.dev,
    hinst.ready, hinst.setUp, hnonneg]

/-! ## The time a cycle takes -/

section Sleeps
variable {cfg : Config} {w : World} {d : Device} {ws : List World} {force : Bool}

theorem batterySleepMs_after (h : d.sense = senseAfter ws) :
    batterySleepMs w d =
      if initSucceeds (ws.headD w) then 2 + sampleSleepMs w kBatterySampleCount 0 else 0 := by
  unfold batterySleepMs
  rw [(initBatterySense_after h).1]

theorem cycleMs_after (h : d.sense = senseAfter ws) :
    cycleMs cfg w force d = w.busyMs +
      if accessesSensor w force d.sampler && accessSucceeds w then
        (if initSucceeds (ws.headD w) then 2 + sampleSleepMs w kBatterySampleCount 0 else 0) +
          pulseSleepMs cfg
      else 0 := by
  unfold cycleMs
  obtain ⟨haccess, hout⟩ | ⟨haccess, hfail, hout⟩ | ⟨haccess, hok, hout⟩ :=
    updateSensorReadings_step cfg w force d
  · rw [hout, haccess]
    rfl
  · rw [hout, haccess, hfail]
    rfl
  · have hsampled : (sampled w d).sense = senseAfter ws := h
    rw [hout, haccess, hok]
    dsimp only
    rw [batterySleepMs_after hsampled]
    rfl

theorem updateMatterAttributes_after (h : d.sense = senseAfter ws) :
    (updateMatterAttributes cfg w d).sense = senseAfter (ws ++ [w]) := by
  have hread := (readBatteryVolts_pin cfg w (afterMeasuredSets w d)).1
  have hsets : (afterMeasuredSets w d).sense = senseAfter ws := h
  rw [updateMatterAttributes_eq]
  simp only [powerSourceCalls, List.foldl_cons, List.foldl_nil, call_sense]
  exact hread.trans (initBatterySense_after hsets).2

theorem sensorCycle_after (h : d.sense = senseAfter ws) :
    (sensorCycle cfg w force d).2.sense =
      senseAfter (ws ++ if accessesSensor w force d.sampler && accessSucceeds w then [w]
        else []) := by
  obtain ⟨haccess, hout⟩ | ⟨haccess, hfail, hout⟩ | ⟨haccess, hok, hout⟩ :=
    sensorCycle_step cfg w d force
  · rw [hout, haccess]
    simpa using h
  · rw [hout, haccess, hfail]
    simpa [diagOnSensorReadFailure] using h
  · have hsampled : (sampled w d).sense = senseAfter ws := h
    have hpublished : (updateMatterAttributes cfg w (sampled w d)).sense = senseAfter (ws ++ [w]) :=
      updateMatterAttributes_after hsampled
    rw [hout, haccess, hok]
    simpa using hpublished

end Sleeps

/-! ## Feeding along a run -/

theorem firstDevice_sense (cfg : Config) (store : Settings) (causes : UInt32) (w : World) :
    (firstDevice cfg store causes w).sense = {} := by
  simp [firstDevice, beforeFirstSample, initialised, resetDevice, freshDevice]

/-- The device after `n` ticks remembers the last commissioned flag and what became of the setup of
the ADC, and was fed when `feedsAt` says. -/
structure FeedTracked (cfg : Config) (ws : ℕ → World) (n : ℕ) (d : Device) : Prop where
  channel : 0 ≤ d.mWdtChannel
  ready : d.sampler.mShtReady = (ws 0).shtReady
  was : d.sampler.mWasCommissioned = isCommissioned (ws n)
  since : d.sampler.mCommissionedAtMs ≤ (ws n).uptimeMs
  sense : d.sense = senseAfter (published ws (n + 1))
  feeds : ∀ t, t ∈ timesOf isFeed d.trace ↔ t ∈ markedTimes (endsAt cfg ws) (feedsAt ws ·) n

theorem FeedTracked.start {cfg : Config} {store : Settings} {causes : UInt32} {ws : ℕ → World}
    (hstart : (boot cfg store causes (ws 0)).2 = none) (hinst : InstallsWatchdog cfg (ws 0))
    (htime : 0 ≤ (ws 0).uptimeMs) :
    FeedTracked cfg ws 0 (boot cfg store causes (ws 0)).1 := by
  have hframe := firstDevice_frame cfg store causes (ws 0)
  have hchannel := firstDevice_mWdtChannel store causes hinst
  have hsense : (firstDevice cfg store causes (ws 0)).sense = senseAfter [] :=
    firstDevice_sense cfg store causes (ws 0)
  have hbefore : timesOf isFeed (firstDevice cfg store causes (ws 0)).trace = [] :=
    timesOf_firstDevice cfg store causes (ws 0) hinst.diag fun _ hc => Or.inl hc
  rw [boot_of_success cfg store causes (ws 0) hstart]
  generalize firstDevice cfg store causes (ws 0) = d at hframe hchannel hsense hbefore
  have hsampler : d.sampler.mShtReady = (ws 0).shtReady ∧ d.sampler.mCommissionedAtMs = 0 := by
    rw [hframe]
    exact ⟨rfl, rfl⟩
  obtain ⟨hready, hwas, hsince⟩ := sensorCycle_gate cfg (ws 0) d true
  have hinstalled : 0 ≤ d.mWdtChannel := by
    rw [hchannel]
    exact hinst.installed
  have hpub : (accessesSensor (ws 0) true d.sampler && accessSucceeds (ws 0)) =
      publishesAt ws 0 := by
    simp [accessesSensor, gatePasses, hsampler.1, publishesAt]
  refine ⟨?_, ?_, ?_, ?_, ?_, fun t => ?_⟩
  · rw [diagFeedWatchdog_toAppTask, (sensorCycle_rest cfg (ws 0) d true).2.2]
    exact hinstalled
  · rw [diagFeedWatchdog_toAppTask, hready, hsampler.1]
  · rw [diagFeedWatchdog_toAppTask, hwas]
  · rw [diagFeedWatchdog_toAppTask, hsince]
    refine noteCommissioned_mCommissionedAtMs_le (ws 0) htime ?_
    rw [hsampler.2]
    exact htime
  · rw [diagFeedWatchdog_sense, sensorCycle_after hsense, hpub, published_succ]
    rfl
  · -- the start-up's cycle does not feed; the first round of the main loop does
    have hcycle : cycleMs cfg (ws 0) true d = workMs cfg ws 0 := by
      rw [cycleMs_after hsense, hpub]
      rfl
    rw [fedCycle_trace, hcycle, timesOf_events, timesOf_append, timesOf_calls, hbefore,
      countP_isFeed_cycleCalls, countP_isFeed_feedCalls hinst.diag hinst.dev hinstalled]
    constructor
    · intro ht
      exact ⟨0, le_rfl, rfl, by simpa [endsAt] using ht⟩
    · rintro ⟨k, hk, -, rfl⟩
      rw [Nat.le_zero.mp hk]
      simp [endsAt]

section Tick
variable {cfg : Config} {ws : ℕ → World} {n : ℕ} {d : Device}

theorem FeedTracked.reaches (h : FeedTracked cfg ws n d) (htime : OnTime cfg ws) :
    (accessesSensor (ws (n + 1)) false d.sampler && accessSucceeds (ws (n + 1))) =
      feedsAt ws (n + 1) := by
  have hnext := htime.next n
  have hpast := htime.nonneg n
  have hsince := h.since
  unfold kSensorUpdateIntervalMs at hnext
  have hpos : 0 < (ws (n + 1)).uptimeMs := by omega
  have hgrace : d.sampler.mCommissionedAtMs + kCommissionGraceMs ≤ (ws (n + 1)).uptimeMs := by
    unfold kCommissionGraceMs
    omega
  rw [accessesSensor, gatePasses_later (ws (n + 1)) hpos hgrace, h.was, h.ready]
  rfl

theorem FeedTracked.cycleMs (h : FeedTracked cfg ws n d) (htime : OnTime cfg ws) :
    cycleMs cfg (ws (n + 1)) false d = workMs cfg ws (n + 1) := by
  rw [cycleMs_after h.sense, h.reaches htime]
  rfl

theorem FeedTracked.feedTimes (h : FeedTracked cfg ws n d) (hdiag : cfg.diagnosticMode = true)
    (hdev : cfg.hasWdtDev = true) (htime : OnTime cfg ws) :
    timesOf isFeed (updateTemperatureTimeoutCallback cfg (ws (n + 1)) d).trace =
      timesOf isFeed d.trace ++
        if feedsAt ws (n + 1) then [endsAt cfg ws (n + 1)] else [] := by
  rw [updateTemperatureTimeoutCallback_eq, sensorCycle_fst, h.reaches htime]
  split
  · rw [fedCycle_trace, h.cycleMs htime, timesOf_events, timesOf_append, timesOf_calls,
      countP_isFeed_cycleCalls, countP_isFeed_feedCalls hdiag hdev h.channel]
    rfl
  · rw [sensorCycle_trace, timesOf_append, countP_isFeed_cycleCalls]
    simp

/-- **One tick.** It feeds iff `feedsAt` says so, and remembers its own commissioned flag. -/
theorem FeedTracked.tick (h : FeedTracked cfg ws n d) (hdiag : cfg.diagnosticMode = true)
    (hdev : cfg.hasWdtDev = true) (htime : OnTime cfg ws) :
    FeedTracked cfg ws (n + 1) (updateTemperatureTimeoutCallback cfg (ws (n + 1)) d) := by
  have htask := updateTemperatureTimeoutCallback_toAppTask cfg (ws (n + 1)) d
  have hchannel := (sensorCycle_rest cfg (ws (n + 1)) d false).2.2
  obtain ⟨hready, hwas, hcomm⟩ := sensorCycle_gate cfg (ws (n + 1)) d false
  refine ⟨?_, ?_, ?_, ?_, ?_, fun t => ?_⟩
  · rw [htask, hchannel]
    exact h.channel
  · rw [htask, hready]
    exact h.ready
  · rw [htask]
    exact hwas
  · rw [htask, hcomm]
    have hnext := htime.next n
    have hsince := h.since
    unfold kSensorUpdateIntervalMs at hnext
    exact noteCommissioned_mCommissionedAtMs_le _ (htime.nonneg (n + 1)) (by omega)
  · have hcycle : (sensorCycle cfg (ws (n + 1)) false d).2.sense =
        senseAfter (published ws (n + 2)) := by
      rw [sensorCycle_after h.sense, h.reaches htime, published_succ ws (n + 1)]
      rfl
    rw [updateTemperatureTimeoutCallback_eq]
    split
    · rw [diagFeedWatchdog_sense, hcycle]
    · exact hcycle
  · rw [h.feedTimes hdiag hdev htime, List.mem_append, h.feeds]
    constructor
    · rintro (⟨k, hk, hfed, rfl⟩ | ht)
      · exact ⟨k, Nat.le_succ_of_le hk, hfed, rfl⟩
      · split at ht
        · rename_i hfed
          exact ⟨n + 1, le_rfl, hfed, List.mem_singleton.mp ht⟩
        · simp at ht
    · rintro ⟨k, hk, hfed, rfl⟩
      obtain rfl | hlt := Nat.eq_or_lt_of_le hk
      · right
        rw [if_pos hfed]
        exact List.mem_singleton.mpr rfl
      · exact Or.inl ⟨k, Nat.lt_succ_iff.mp hlt, hfed, rfl⟩

end Tick

section Runs
variable {cfg : Config} {store : Settings} {causes : UInt32} {ws : ℕ → World}

theorem feedTracked_run (hstart : (boot cfg store causes (ws 0)).2 = none)
    (hinst : InstallsWatchdog cfg (ws 0)) (htime : OnTime cfg ws) (n : ℕ) :
    FeedTracked cfg ws n (afterTicks cfg store causes ws n) := by
  induction n with
  | zero => exact FeedTracked.start hstart hinst htime.start
  | succ n ih =>
    rw [afterTicks_succ]
    exact ih.tick hinst.diag hinst.dev htime

/-- **When the watchdog stays fed.** From the first feed to the end of `n` ticks the last feed is at
every moment at most the timeout back iff the work item of every tick ends at most the timeout after
a feed: that of the start-up or of a tick at which the node was commissioned, already was at the
tick before, and got a sample. -/
theorem watchdog_fed_iff (hstart : (boot cfg store causes (ws 0)).2 = none)
    (hinst : InstallsWatchdog cfg (ws 0)) (htime : OnTime cfg ws) (n : ℕ) :
    Covered cfg.watchdogTimeoutMs
        {t | t ∈ timesOf isFeed (afterTicks cfg store causes ws n).trace}
        (endsAt cfg ws 0) (endsAt cfg ws n) ↔
      ∀ k, 0 < k → k ≤ n →
        ∃ j < k, feedsAt ws j = true ∧
          endsAt cfg ws k - endsAt cfg ws j ≤ cfg.watchdogTimeoutMs := by
  have hfeeds : {t | t ∈ timesOf isFeed (afterTicks cfg store causes ws n).trace} =
      markedTimes (endsAt cfg ws) (feedsAt ws ·) n :=
    Set.ext (feedTracked_run hstart hinst htime n).feeds
  rw [hfeeds]
  exact covered_iff htime.endsAt_lt

end Runs

def healthyWorlds (k : ℕ) : World := { uptimeMs := 1000 + 60000 * k, fabricCount := 1 }

theorem onTime_healthyWorlds : OnTime diagConfig healthyWorlds := by
  refine .of_sleeps (by decide) (fun k => ?_) fun _ => rfl
  simp only [healthyWorlds, kSensorUpdateIntervalMs]
  push_cast
  omega

theorem watchdog_fed_when_healthy :
    Covered diagConfig.watchdogTimeoutMs
      {t | t ∈ timesOf isFeed (afterTicks diagConfig ∅ 1 healthyWorlds 5).trace}
      (endsAt diagConfig healthyWorlds 0) (endsAt diagConfig healthyWorlds 5) := by
  refine (watchdog_fed_iff (by decide +kernel) ⟨rfl, rfl, rfl, by decide, rfl⟩
    onTime_healthyWorlds 5).mpr fun k hpos _ => ⟨k - 1, by omega, ?_, ?_⟩
  · cases k - 1 with
    | zero => rfl
    | succ j => rfl
  · obtain ⟨j, rfl⟩ := Nat.exists_eq_succ_of_ne_zero hpos.ne'
    have hlate : workMs diagConfig healthyWorlds (j + 1) ≤ 205 + 0 := workMs_le (j + 1)
    have hearly := onTime_healthyWorlds.workMs_nonneg j
    have hnext := onTime_healthyWorlds.next j
    have htimeout : diagConfig.watchdogTimeoutMs = 180000 := rfl
    rw [htimeout, Nat.succ_eq_add_one, Nat.add_sub_cancel, endsAt, endsAt, hnext,
      kSensorUpdateIntervalMs]
    omega

def uncommissionedWorlds (k : ℕ) : World := { uptimeMs := 1000 + 60000 * k }

theorem uncommissioned_node_unfed :
    (boot diagConfig ∅ 1 (uncommissionedWorlds 0)).2 = none ∧
      InstallsWatchdog diagConfig (uncommissionedWorlds 0) ∧
      OnTime diagConfig uncommissionedWorlds ∧
      2 * kSensorUpdateIntervalMs ≤ diagConfig.watchdogTimeoutMs ∧
      ¬ Covered diagConfig.watchdogTimeoutMs
        {t | t ∈ timesOf isFeed (afterTicks diagConfig ∅ 1 uncommissionedWorlds 4).trace}
        (endsAt diagConfig uncommissionedWorlds 0) (endsAt diagConfig uncommissionedWorlds 4) := by
  have hfeeds : timesOf isFeed (afterTicks diagConfig ∅ 1 uncommissionedWorlds 4).trace =
      [1205] := by decide +kernel
  refine ⟨by decide +kernel, ⟨rfl, rfl, rfl, by decide, rfl⟩,
    .of_sleeps (by decide) (fun k => ?_) fun _ => rfl, by decide, fun hcov => ?_⟩
  · simp only [uncommissionedWorlds, kSensorUpdateIntervalMs]
    push_cast
    omega
  · obtain ⟨t, ht, -, hgap⟩ := hcov 181206 (by decide +kernel) (by decide +kernel)
    rw [hfeeds] at ht
    rw [List.mem_singleton.mp ht] at hgap
    exact absurd hgap (by decide)

end TinyEnvSensor
