import TinyEnvSensor.Policy.AwakePolicy
import TinyEnvSensor.Foundations.Stretch

/-! # What the commissioning hold and the cached radio power mean

Two fields encode the window history: the window last seen and the end of the grace after its last
closing. `HoldTracked` says which closing that is. The cached power is compared with the calls of
the whole run: it is the last power the radio accepted. -/
namespace TinyEnvSensor
open History Stretch
set_option autoImplicit false

def windowSeen (w : World) : Option Bool := some w.commissioningWindowOpen

/-- The closing whose closed stretch is still running: the window was open just before it. -/
def Closing : List World → World → Prop := Opener windowSeen (· = false) false

/-! ## The hold -/

/-- The two window fields agree with the windows seen at the ticks `l`. -/
structure HoldTracked (l : List World) (a : AwakePolicy) : Prop where
  window : a.mCommissioningWindowOpen = lastSeen windowSeen false l
  closed : ∀ c, Closing l c →
    a.mStayAwakeUntilMs = c.uptimeMs + kCommissionWindowPostCloseGraceMs
  idle : (∀ c, ¬ Closing l c) → a.mStayAwakeUntilMs = 0

theorem HoldTracked.initial : HoldTracked [] {} where
  window := rfl
  closed := fun _ h => absurd h not_opener_nil
  idle := fun _ => rfl

theorem HoldTracked.congr {l : List World} {a a' : AwakePolicy} (h : HoldTracked l a)
    (hwindow : a'.mCommissioningWindowOpen = a.mCommissioningWindowOpen)
    (huntil : a'.mStayAwakeUntilMs = a.mStayAwakeUntilMs) : HoldTracked l a' where
  window := hwindow.trans h.window
  closed := fun c hc => huntil.trans (h.closed c hc)
  idle := fun hno => huntil.trans (h.idle hno)

theorem not_closing_of_open {l : List World} {w c : World}
    (hw : w.commissioningWindowOpen = true) : ¬ Closing (l ++ [w]) c :=
  opener_close (r := w.commissioningWindowOpen) rfl (by rw [hw]; decide)

theorem HoldTracked.track {l : List World} {a : AwakePolicy} (h : HoldTracked l a) (w : World) :
    HoldTracked (l ++ [w]) (trackWindow w a) := by
  have hlast : lastSeen windowSeen false (l ++ [w]) = w.commissioningWindowOpen := lastSeen_seen rfl
  unfold trackWindow
  by_cases hsame : w.commissioningWindowOpen = a.mCommissioningWindowOpen
  · -- no edge: a running closed stretch goes on
    rw [if_neg (not_not.mpr hsame)]
    have hseen : lastSeen windowSeen false l = w.commissioningWindowOpen := by
      rw [← h.window, hsame]
    cases hw : w.commissioningWindowOpen with
    | true =>
      have hno : ∀ c, ¬ Closing l c := fun c hc => by
        have hclosed : lastSeen windowSeen false l = false := hc.lastSeen
        rw [hseen, hw] at hclosed
        cases hclosed
      exact ⟨hsame.symm.trans hlast.symm, fun c hc => absurd hc (not_closing_of_open hw),
        fun _ => h.idle hno⟩
    | false =>
      have hiff : ∀ c, Closing (l ++ [w]) c ↔ Closing l c := fun c =>
        opener_extend (r := w.commissioningWindowOpen) rfl hw (by rw [hseen, hw])
      exact ⟨hsame.symm.trans hlast.symm, fun c hc => h.closed c ((hiff c).mp hc),
        fun hno => h.idle fun c hc => hno c ((hiff c).mpr hc)⟩
  · -- an edge: the window opens and ends all grace, or this tick is the closing
    rw [if_pos hsame]
    cases hw : w.commissioningWindowOpen with
    | true =>
      exact ⟨hw.symm.trans hlast.symm, fun c hc => absurd hc (not_closing_of_open hw),
        fun _ => rfl⟩
    | false =>
      have hold : ¬ lastSeen windowSeen false l = false := by
        rw [← h.window]
        rw [hw] at hsame
        exact fun he => hsame he.symm
      have hiff : ∀ c, Closing (l ++ [w]) c ↔ c = w := fun c =>
        opener_open (r := w.commissioningWindowOpen) rfl hw hold
      refine ⟨hw.symm.trans hlast.symm, fun c hc => ?_, fun hno => ?_⟩
      · rw [(hiff c).mp hc]
        rfl
      · exact absurd ((hiff w).mpr rfl) (hno w)

theorem holdTracked_ticks (cfg : Config) (d : Device) (hd : d.awake = {}) (ws : List World) :
    HoldTracked ws (run (policyStep cfg) d ws).awake := by
  refine run_invariant (fun l (d : Device) => HoldTracked l d.awake) ?_ ?_ ws
  · rw [hd]
    exact HoldTracked.initial
  · intro l w h
    rw [policyStep, policy_awake]
    exact (h.track w).congr rfl rfl

theorem holdAt_iff {l : List World} {w : World} {d : Device} (h : HoldTracked l d.awake)
    (hpos : 0 < w.uptimeMs) :
    holdAt w d = true ↔ w.commissioningWindowOpen = true ∨
      ∃ c, Closing (l ++ [w]) c ∧ w.uptimeMs < c.uptimeMs + kCommissionWindowPostCloseGraceMs := by
  have htrack := h.track w
  simp only [holdAt, holdActive, Bool.or_eq_true, decide_eq_true_eq]
  refine or_congr_right ?_
  constructor
  · intro hlt
    by_cases hc : ∃ c, Closing (l ++ [w]) c
    · obtain ⟨c, hc⟩ := hc
      rw [htrack.closed c hc] at hlt
      exact ⟨c, hc, hlt⟩
    · rw [htrack.idle (not_exists.mp hc)] at hlt
      omega
  · rintro ⟨c, hc, hlt⟩
    rw [htrack.closed c hc]
    exact hlt

theorem closing_iff (l : List World) (c : World) :
    Closing l c ↔ ∃ before p after, l = before ++ p :: c :: after ∧
      p.commissioningWindowOpen = true ∧
      ∀ x ∈ c :: after, x.commissioningWindowOpen = false := by
  constructor
  · rintro ⟨pre, after, hl, ⟨r, hr, hclosed⟩, hopen, hafter⟩
    have hc : c.commissioningWindowOpen = false := by
      rw [← hclosed]
      exact Option.some.inj hr
    obtain rfl | ⟨before, p, rfl⟩ := List.eq_nil_or_concat pre
    · exact absurd rfl hopen
    · have hp : lastSeen windowSeen false (before ++ [p]) = p.commissioningWindowOpen :=
        lastSeen_seen rfl
      rw [List.concat_eq_append] at hopen hl
      rw [hp] at hopen
      refine ⟨before, p, after, by simpa using hl, by simpa using hopen, fun x hx => ?_⟩
      obtain rfl | hx := List.mem_cons.mp hx
      · exact hc
      · exact hafter x hx _ rfl
  · rintro ⟨before, p, after, rfl, hp, hclosed⟩
    have hseen : lastSeen windowSeen false (before ++ [p]) = p.commissioningWindowOpen :=
      lastSeen_seen rfl
    refine ⟨before ++ [p], after, by simp, ⟨_, rfl, hclosed c (by simp)⟩, ?_, fun x hx r hr => ?_⟩
    · rw [hseen, hp]
      decide
    · rw [← Option.some.inj hr]
      exact hclosed x (by simp [hx])

/-! ## The radio power -/

/-- The power of a radio request that the radio accepted. -/
def acceptedPower : Call → Option Int8
  | .radioRequest dbm (some 0) => some dbm
  | _ => none

def isRadioRequest : Call → Bool
  | .radioRequest _ _ => true
  | _ => false

/-- The last power the radio accepted in a run of ticks. -/
def radioPower (cfg : Config) (d : Device) (ws : List World) : Option Int8 :=
  ((newCalls d (run (policyStep cfg) d ws)).filterMap acceptedPower).getLast?

def wantedAt (cfg : Config) (d : Device) (ws : List World) (w : World) : Int8 :=
  wantedTxPower cfg (holdAt w (run (policyStep cfg) d ws))

theorem wantedTxPower_toInt (cfg : Config) (hold : Bool) :
    (wantedTxPower cfg hold).toInt = if hold then 8 else cfg.postCommissionThreadTxPowerDbm := by
  unfold wantedTxPower
  cases hold
  · exact cfg.kPostCommissionThreadTxPowerDbm_toInt
  · rfl

theorem wantedTxPower_ne_initial (cfg : Config) (hold : Bool) : wantedTxPower cfg hold ≠ -128 := by
  intro h
  have hint := wantedTxPower_toInt cfg hold
  have hrange := cfg.txPower_range
  rw [h, show (-128 : Int8).toInt = -128 by decide] at hint
  split at hint <;> omega

theorem radioRequests_tick (cfg : Config) (d : Device) (w : World) :
    (tickCalls cfg d w).filter isRadioRequest =
      if d.awake.mAppliedThreadTxPowerDbm = wantedTxPower cfg (holdAt w d) then []
      else [.radioRequest (wantedTxPower cfg (holdAt w d)) w.radio] := by
  have hsaves : (threadSaves cfg w threadChangedMask d).filter isRadioRequest = [] := by
    rw [List.filter_eq_nil_iff]
    intro c hc
    obtain ⟨key, value, rc, rfl⟩ := mem_threadSaves hc
    simp [isRadioRequest]
  have hsnapshot : ∀ role m, (snapshotCalls w role m).filter isRadioRequest = [] := fun _ _ => rfl
  rw [tickCalls_eq, List.filter_append, hsaves, policyCalls, holdAt_handleThreadStateChange,
    handleThreadStateChange_awake, List.filter_append, List.filter_append]
  split <;> split <;> split <;> first | rfl | (split <;> simp [hsnapshot, isRadioRequest])

theorem filterMap_acceptedPower (l : List Call) :
    l.filterMap acceptedPower = (l.filter isRadioRequest).filterMap acceptedPower := by
  rw [List.filterMap_filter]
  apply List.filterMap_congr
  intro c _
  unfold acceptedPower
  split
  · rfl
  · exact (ite_self none).symm

theorem accepted_tick (cfg : Config) (d : Device) (w : World) :
    (tickCalls cfg d w).filterMap acceptedPower =
      if d.awake.mAppliedThreadTxPowerDbm ≠ wantedTxPower cfg (holdAt w d) ∧ w.radio = some 0 then
        [wantedTxPower cfg (holdAt w d)]
      else [] := by
  rw [filterMap_acceptedPower, radioRequests_tick]
  by_cases hsame : d.awake.mAppliedThreadTxPowerDbm = wantedTxPower cfg (holdAt w d)
  · simp [hsame]
  · by_cases hok : w.radio = some 0
    · simp [hsame, hok, acceptedPower]
    · have hnone :
          acceptedPower (.radioRequest (wantedTxPower cfg (holdAt w d)) w.radio) = none := by
        unfold acceptedPower
        split
        · rename_i h
          injection h with _ h
          exact absurd h hok
        · rfl
      simp [hsame, hok, hnone]

theorem radioPower_concat (cfg : Config) (d : Device) (ws : List World) (w : World) :
    radioPower cfg d (ws ++ [w]) =
      if (run (policyStep cfg) d ws).awake.mAppliedThreadTxPowerDbm ≠ wantedAt cfg d ws w ∧
          w.radio = some 0 then some (wantedAt cfg d ws w)
      else radioPower cfg d ws := by
  have hcalls := newCalls_run_concat (policyStep_extends cfg) d ws w
  have htick := accepted_tick cfg (run (policyStep cfg) d ws) w
  rw [tickCalls] at htick
  rw [radioPower, hcalls, List.filterMap_append, htick]
  unfold wantedAt radioPower
  split <;> simp

theorem applied_tick (cfg : Config) (d : Device) (w : World) :
    (policyStep cfg d w).awake.mAppliedThreadTxPowerDbm =
      if w.radio = some 0 then wantedTxPower cfg (holdAt w d)
      else d.awake.mAppliedThreadTxPowerDbm := by
  rw [policyStep, policy_awake]
  rfl

/-- **The cache agrees with the radio.** -/
theorem applied_eq_radioPower (cfg : Config) (d : Device) (hd : d.awake = {}) (ws : List World) :
    (run (policyStep cfg) d ws).awake.mAppliedThreadTxPowerDbm =
      (radioPower cfg d ws).getD (-128) := by
  induction ws using List.reverseRecOn with
  | nil =>
    rw [radioPower, run_nil, newCalls_self, hd]
    rfl
  | append_singleton ws w ih =>
    rw [radioPower_concat, run_concat, applied_tick, wantedAt]
    by_cases hok : w.radio = some 0
    · by_cases hsame : (run (policyStep cfg) d ws).awake.mAppliedThreadTxPowerDbm =
          wantedTxPower cfg (holdAt w (run (policyStep cfg) d ws))
      · rw [if_pos hok, if_neg (by simp [hsame]), ← ih, hsame]
      · rw [if_pos hok, if_pos ⟨hsame, hok⟩]
        rfl
    · rw [if_neg hok, if_neg (by simp [hok]), ih]

theorem applied_of_rejected (cfg : Config) (d : Device) (ws : List World)
    (hrej : ∀ x ∈ ws, x.radio ≠ some 0) :
    (run (policyStep cfg) d ws).awake.mAppliedThreadTxPowerDbm =
      d.awake.mAppliedThreadTxPowerDbm := by
  induction ws using List.reverseRecOn with
  | nil => rfl
  | append_singleton ws w ih =>
    rw [run_concat, applied_tick, if_neg (hrej w (by simp))]
    exact ih fun x hx => hrej x (by simp [hx])

theorem radioPower_of_not_rejected (cfg : Config) (d : Device) (hd : d.awake = {})
    (ws : List World) (w : World)
    (hok : ∀ dbm err, Call.radioRequest dbm err ∈ tickCalls cfg (run (policyStep cfg) d ws) w →
      err = some 0) :
    radioPower cfg d (ws ++ [w]) = some (wantedAt cfg d ws w) := by
  have hcache := applied_eq_radioPower cfg d hd ws
  rw [radioPower_concat]
  by_cases hsame : (run (policyStep cfg) d ws).awake.mAppliedThreadTxPowerDbm =
      wantedAt cfg d ws w
  · rw [if_neg (by simp [hsame])]
    cases hpower : radioPower cfg d ws with
    | some p => rw [← hsame, hcache, hpower]; rfl
    | none =>
      -- the cache still holds its initial value, which no tick wants
      rw [hpower, hsame] at hcache
      exact absurd hcache (wantedTxPower_ne_initial cfg _)
  · have hreq : Call.radioRequest (wantedAt cfg d ws w) w.radio ∈
        tickCalls cfg (run (policyStep cfg) d ws) w :=
      (mem_tickCalls (by simp) (by simp)).mpr (Or.inl ⟨rfl, hsame⟩)
    rw [if_pos ⟨hsame, hok _ _ hreq⟩]

/-! ## The policy of a run -/

/-- **Hold and radio power follow the window history.** From the initial state, at a tick `w` after
the ticks `ws`: the hold is active iff the window is open, or closed ticks have run since a closing
less than the grace ago; the cache is the last accepted power; the radio is asked for the wanted
power iff that differs; a rejected request is repeated at every later tick that wants the same
power while it stays rejected; and unless the request is rejected the radio then has the power
wanted. -/
theorem hold_and_radio_follow_window (cfg : Config) (d : Device) (ws : List World) (w : World)
    (hd : d.awake = {}) (htime : Ticking World.uptimeMs (ws ++ [w])) :
    let d' := run (policyStep cfg) d ws
    let wanted := wantedTxPower cfg (holdAt w d')
    (holdAt w d' = true ↔ w.commissioningWindowOpen = true ∨
      ∃ before p c after, ws ++ [w] = before ++ p :: c :: after ∧
        p.commissioningWindowOpen = true ∧
        (∀ x ∈ c :: after, x.commissioningWindowOpen = false) ∧
        w.uptimeMs < c.uptimeMs + 180000) ∧
    wanted.toInt = (if holdAt w d' then 8 else cfg.postCommissionThreadTxPowerDbm) ∧
    d'.awake.mAppliedThreadTxPowerDbm = (radioPower cfg d ws).getD (-128) ∧
    (tickCalls cfg d' w).filter isRadioRequest =
      (if (radioPower cfg d ws).getD (-128) = wanted then [] else [.radioRequest wanted w.radio]) ∧
    ((.radioRequest wanted w.radio ∈ tickCalls cfg d' w ∧ w.radio ≠ some 0) →
      ∀ later v, (∀ x ∈ later, x.radio ≠ some 0) →
        wantedAt cfg d (ws ++ w :: later) v = wanted →
        .radioRequest wanted v.radio ∈
          tickCalls cfg (run (policyStep cfg) d (ws ++ w :: later)) v) ∧
    ((∀ dbm err, .radioRequest dbm err ∈ tickCalls cfg d' w → err = some 0) →
      radioPower cfg d (ws ++ [w]) = some wanted) := by
  intro d' wanted
  have hcache : d'.awake.mAppliedThreadTxPowerDbm = (radioPower cfg d ws).getD (-128) :=
    applied_eq_radioPower cfg d hd ws
  refine ⟨?_, wantedTxPower_toInt cfg _, hcache, ?_, ?_, radioPower_of_not_rejected cfg d hd ws w⟩
  · rw [holdAt_iff (holdTracked_ticks cfg d hd ws) (htime.pos w (by simp))]
    simp only [closing_iff]
    refine or_congr_right ⟨?_, ?_⟩
    · rintro ⟨c, ⟨before, p, after, hws, hp, hclosed⟩, hlt⟩
      exact ⟨before, p, c, after, hws, hp, hclosed, hlt⟩
    · rintro ⟨before, p, c, after, hws, hp, hclosed, hlt⟩
      exact ⟨c, ⟨before, p, after, hws, hp, hclosed⟩, hlt⟩
  · rw [← hcache]
    exact radioRequests_tick cfg d' w
  · rintro ⟨hreq, hrej⟩ later v hlater hwant
    have hne : d'.awake.mAppliedThreadTxPowerDbm ≠ wanted := by
      obtain ⟨-, hne⟩ | ⟨h, -⟩ | ⟨h, -⟩ := (mem_tickCalls (by simp) (by simp)).mp hreq
      · exact hne
      · cases h
      · cases h
    have hkept := applied_of_rejected cfg d' (w :: later) (by simpa using ⟨hrej, hlater⟩)
    rw [← run_append] at hkept
    refine (mem_tickCalls (by simp) (by simp)).mpr (Or.inl ⟨?_, ?_⟩)
    · rw [← hwant]
      rfl
    · rw [hkept, show wantedTxPower cfg _ = wanted from hwant]
      exact hne

theorem hold_after_closing :
    holdAt { uptimeMs := 3000 } (run (policyStep diagConfig) {}
      [{ uptimeMs := 1000, commissioningWindowOpen := true }, { uptimeMs := 2000 }]) = true := by
  have h := hold_and_radio_follow_window diagConfig {}
    [{ uptimeMs := 1000, commissioningWindowOpen := true }, { uptimeMs := 2000 }]
    { uptimeMs := 3000 } rfl ⟨by decide, by decide⟩
  exact h.1.mpr (Or.inr ⟨[], _, _, [_], rfl, rfl, by decide, by decide⟩)

end TinyEnvSensor
