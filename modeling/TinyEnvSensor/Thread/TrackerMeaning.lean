import TinyEnvSensor.Thread.Tracker
import TinyEnvSensor.Foundations.History
import TinyEnvSensor.Foundations.Stretch

/-! # What the Thread tracker remembers

The tracker of `HandleThreadStateChange` against the history of the roles it observed. A call
observes a role when the OpenThread instance exists and the ROLE flag is set. The invariant
`Tracked` is stated over an arbitrary kind of call, so that it serves direct calls as well as the
ticks of the awake policy, and is kept by one call (`Tracked.step`). -/
namespace TinyEnvSensor
open History Stretch
set_option autoImplicit false

section Role
variable {α : Type} {obs : α → Option OtDeviceRole} {time : α → ℤ}

/-- The role part of the tracker agrees with the observations `obs` of the calls `l`. -/
structure Tracked (obs : α → Option OtDeviceRole) (time : α → ℤ) (l : List α)
    (t : ThreadTracker) : Prop where
  last : t.mLastThreadRole = lastSeen obs .disabled l
  latch : t.mThreadDetached = true ↔ t.mLastThreadRole = .detached
  idle : t.mThreadDetached = false → t.mThreadDetachedSinceMs = 0
  since : ∀ c, Opener obs (· = .detached) .disabled l c → t.mThreadDetachedSinceMs = time c

theorem Tracked.initial : Tracked obs time [] {} where
  last := rfl
  latch := by decide
  idle := fun _ => rfl
  since := fun _ h => absurd h not_opener_nil

theorem Tracked.exists_since {l : List α} {t : ThreadTracker} (h : Tracked obs time l t)
    (hlatch : t.mThreadDetached = true) :
    ∃ c, Opener obs (· = .detached) .disabled l c ∧ t.mThreadDetachedSinceMs = time c := by
  have hlast : lastSeen obs .disabled l = .detached := by
    rw [← h.last]
    exact h.latch.mp hlatch
  obtain ⟨c, hc⟩ := exists_opener (p := (· = OtDeviceRole.detached)) (by decide) hlast
  exact ⟨c, hc, h.since c hc⟩

theorem Tracked.silent {l : List α} {t t' : ThreadTracker} {a : α} (h : Tracked obs time l t)
    (ha : obs a = none) (hrole : t'.mLastThreadRole = t.mLastThreadRole)
    (hlatch : t'.mThreadDetached = t.mThreadDetached)
    (hsince : t'.mThreadDetachedSinceMs = t.mThreadDetachedSinceMs) :
    Tracked obs time (l ++ [a]) t' where
  last := by rw [hrole, lastSeen_silent ha, h.last]
  latch := by rw [hrole, hlatch]; exact h.latch
  idle := by rw [hlatch, hsince]; exact h.idle
  since := fun c hc => by rw [hsince]; exact h.since c ((opener_silent ha).mp hc)

theorem Tracked.role {cfg : Config} {w : World} {role : OtDeviceRole} {d d' : Device}
    {l : List α} {a : α} (h : Tracked obs time l d.thread) (hstep : RoleStep cfg w role d d')
    (ha : obs a = some role) (ht : time a = w.uptimeMs) :
    Tracked obs time (l ++ [a]) d'.thread := by
  have hlast : lastSeen obs .disabled (l ++ [a]) = role := lastSeen_seen ha
  cases hstep with
  | same hrole heq =>
    subst heq
    refine ⟨by rw [hlast, hrole], h.latch, h.idle, fun c hc => ?_⟩
    -- a repeated DETACHED extends the running stretch; any other repeated role is outside of one
    by_cases hdet : role = .detached
    · have hold : lastSeen obs .disabled l = .detached := by rw [← h.last, ← hrole, hdet]
      exact h.since c ((opener_extend (p := (· = OtDeviceRole.detached)) ha hdet hold).mp hc)
    · exact absurd hc (opener_close (p := (· = OtDeviceRole.detached)) ha hdet)
  | detach hne hrole hlatch htask =>
    have hold : ¬ lastSeen obs .disabled l = .detached := by
      rw [← h.last, ← hrole]
      exact fun he => hne he.symm
    rw [htask]
    refine ⟨hlast.symm, by simp [hrole], by simp, fun c hc => ?_⟩
    rw [(opener_open (p := (· = OtDeviceRole.detached)) ha hrole hold).mp hc]
    exact ht.symm
  | reattach hne hrole hlatch htask =>
    rw [htask]
    refine ⟨hlast.symm, by simp [hrole], by simp, fun c hc => ?_⟩
    exact absurd hc (opener_close (p := (· = OtDeviceRole.detached)) ha hrole)
  | move hne hlatch htask =>
    -- the latch agrees with the old role and the new one, which differ: neither is DETACHED
    have hrole : ¬ role = .detached := by
      intro hrole
      exact hne (hrole.trans (h.latch.mp (hlatch.mp hrole)).symm)
    have hoff : d.thread.mThreadDetached = false := by
      cases hd : d.thread.mThreadDetached with
      | false => rfl
      | true => exact absurd (hlatch.mpr hd) hrole
    rw [htask]
    refine ⟨hlast.symm, by simp [hoff, hrole], fun _ => h.idle hoff, fun c hc => ?_⟩
    exact absurd hc (opener_close (p := (· = OtDeviceRole.detached)) ha hrole)

end Role

/-! ## The parent block leaves the role part alone -/

theorem trackParent_role (reply : ThreadReply) (t : ThreadTracker) :
    (trackParent reply t).mLastThreadRole = t.mLastThreadRole ∧
      (trackParent reply t).mThreadDetached = t.mThreadDetached ∧
      (trackParent reply t).mThreadDetachedSinceMs = t.mThreadDetachedSinceMs := by
  unfold trackParent
  split
  · split
    · split <;> exact ⟨rfl, rfl, rfl⟩
    · exact ⟨rfl, rfl, rfl⟩
  · split <;> exact ⟨rfl, rfl, rfl⟩

theorem Tracked.parent {α : Type} {obs : α → Option OtDeviceRole} {time : α → ℤ} {l : List α}
    {t : ThreadTracker} (h : Tracked obs time l t) (reply : ThreadReply) :
    Tracked obs time l (trackParent reply t) := by
  obtain ⟨hrole, hlatch, hsince⟩ := trackParent_role reply t
  refine ⟨hrole.trans h.last, ?_, ?_, ?_⟩
  · rw [hrole, hlatch]
    exact h.latch
  · rw [hlatch, hsince]
    exact h.idle
  · rw [hsince]
    exact h.since

/-- **One call keeps the tracker in step with the observations.** -/
theorem Tracked.step {α : Type} {obs : α → Option OtDeviceRole} {time : α → ℤ} {l : List α} {a : α}
    {cfg : Config} {w : World} {flags : UInt32} {d : Device} (h : Tracked obs time l d.thread)
    (ha : obs a = observedRole flags w) (ht : time a = w.uptimeMs) :
    Tracked obs time (l ++ [a]) (handleThreadStateChange cfg w flags d).thread := by
  unfold handleThreadStateChange
  cases hi : w.threadInstance with
  | none =>
    have hnone : obs a = none := by simp [ha, observedRole, hi]
    exact h.silent hnone rfl rfl rfl
  | some reply =>
    by_cases hflag : flags &&& OT_CHANGED_THREAD_ROLE ≠ 0
    · have hsome : obs a = some reply.role := by simp [ha, observedRole, hi, hflag]
      have hrole := h.role (trackRole_step cfg w reply.role d) hsome ht
      simp only [if_pos hflag]
      split
      · exact hrole.parent reply
      · exact hrole
    · have hnone : obs a = none := by simp [ha, observedRole, hflag]
      simp only [if_neg hflag]
      split
      · exact (h.silent hnone rfl rfl rfl).parent reply
      · exact h.silent hnone rfl rfl rfl

/-! ## Counting the stretches -/

def isDetached (r : OtDeviceRole) : Bool := decide (r = .detached)

section Count
variable {α : Type} {obs : α → Option OtDeviceRole} {time : α → ℤ}

/-- The two Thread counters stand at their values in `m₀` plus the DETACHED stretches begun and
ended, modulo `2^32`; the other values are those of `m₀`. -/
structure RoleCounted (obs : α → Option OtDeviceRole) (m₀ : DiagField → UInt32) (l : List α)
    (m : DiagField → UInt32) : Prop where
  detach : m .threadDetachCount =
    m₀ .threadDetachCount + UInt32.ofNat (begun isDetached .disabled (l.filterMap obs))
  reattach : m .threadReattachCount =
    m₀ .threadReattachCount +
      UInt32.ofNat (begun (fun r => !isDetached r) .disabled (l.filterMap obs))
  other : ∀ f, f ≠ .threadDetachCount → f ≠ .threadReattachCount → m f = m₀ f

theorem RoleCounted.initial (m₀ : DiagField → UInt32) : RoleCounted obs m₀ [] m₀ where
  detach := by simp [begun]
  reattach := by simp [begun]
  other := fun _ _ _ => rfl

theorem RoleCounted.silent {m₀ m : DiagField → UInt32} {l : List α} {a : α}
    (h : RoleCounted obs m₀ l m) (ha : obs a = none) : RoleCounted obs m₀ (l ++ [a]) m where
  detach := by rw [begun_silent _ _ ha]; exact h.detach
  reattach := by rw [begun_silent _ _ ha]; exact h.reattach
  other := h.other

theorem RoleCounted.role {cfg : Config} {w : World} {role : OtDeviceRole} {d d' : Device}
    {l : List α} {a : α} {m₀ : DiagField → UInt32} (h : RoleCounted obs m₀ l d.mDiag)
    (ht : Tracked obs time l d.thread) (hstep : RoleStep cfg w role d d')
    (hdiag : cfg.diagnosticMode = true) (ha : obs a = some role) :
    RoleCounted obs m₀ (l ++ [a]) d'.mDiag := by
  have hdetach := begun_seen (p := isDetached) .disabled l ha
  have hreattach := begun_seen (p := fun r => !isDetached r) .disabled l ha
  rw [← ht.last] at hdetach hreattach
  cases hstep with
  | same hrole heq =>
    subst heq
    refine ⟨?_, ?_, h.other⟩
    · rw [hdetach, hrole]
      simpa using h.detach
    · rw [hreattach, hrole]
      simpa using h.reattach
  | detach hne hrole hlatch htask =>
    have hold : d.thread.mLastThreadRole ≠ .detached := fun he => hne (hrole.trans he.symm)
    rw [htask]
    refine ⟨?_, ?_, fun f hf₁ hf₂ => ?_⟩
    · rw [hdetach]
      simp [diagOnThreadDetached, hdiag, hrole, isDetached, hold, h.detach, UInt32.add_assoc]
    · rw [hreattach]
      simp [diagOnThreadDetached, hdiag, hrole, isDetached, h.reattach]
    · simp [diagOnThreadDetached, hdiag, hf₁, h.other f hf₁ hf₂]
  | reattach hne hrole hlatch htask =>
    have hold : d.thread.mLastThreadRole = .detached := ht.latch.mp hlatch
    rw [htask]
    refine ⟨?_, ?_, fun f hf₁ hf₂ => ?_⟩
    · rw [hdetach]
      simp [diagOnThreadReattached, hdiag, hrole, isDetached, h.detach]
    · rw [hreattach]
      simp [diagOnThreadReattached, hdiag, hrole, isDetached, hold, h.reattach, UInt32.add_assoc]
    · simp [diagOnThreadReattached, hdiag, hf₂, h.other f hf₁ hf₂]
  | move hne hlatch htask =>
    have hrole : role ≠ .detached := by
      intro hrole
      exact hne (hrole.trans (ht.latch.mp (hlatch.mp hrole)).symm)
    have hold : d.thread.mLastThreadRole ≠ .detached := by
      intro hold
      exact hrole (hlatch.mpr (ht.latch.mpr hold))
    rw [htask]
    refine ⟨?_, ?_, h.other⟩
    · rw [hdetach]
      simp [isDetached, hrole, h.detach]
    · rw [hreattach]
      simp [isDetached, hold, h.reattach]

theorem RoleCounted.step {l : List α} {a : α} {cfg : Config} {w : World} {flags : UInt32}
    {d : Device} {m₀ : DiagField → UInt32} (h : RoleCounted obs m₀ l d.mDiag)
    (ht : Tracked obs time l d.thread) (hdiag : cfg.diagnosticMode = true)
    (ha : obs a = observedRole flags w) :
    RoleCounted obs m₀ (l ++ [a]) (handleThreadStateChange cfg w flags d).mDiag := by
  unfold handleThreadStateChange
  cases hi : w.threadInstance with
  | none => exact h.silent (by simp [ha, observedRole, hi])
  | some reply =>
    by_cases hflag : flags &&& OT_CHANGED_THREAD_ROLE ≠ 0
    · have hsome : obs a = some reply.role := by simp [ha, observedRole, hi, hflag]
      have hrole := h.role ht (trackRole_step cfg w reply.role d) hdiag hsome
      simp only [if_pos hflag]
      split <;> exact hrole
    · have hnone : obs a = none := by simp [ha, observedRole, hflag]
      simp only [if_neg hflag]
      split <;> exact h.silent hnone

end Count

/-! ## The parent -/

/-- The RLOC16 a call reads of the parent: only as a child, and only if the read succeeds. -/
def parentRead (w : World) : Option UInt16 :=
  match w.threadInstance with
  | some reply => if reply.role = .child then reply.parentInfo else none
  | none => none

section Parent
variable {α : Type} {obs : α → Option OtDeviceRole} {read : α → Option UInt16}

/-- `rloc` is the last RLOC16 read in the calls `l`, in a CHILD stretch still running: since that
read nothing but CHILD was observed. -/
def LastRead (obs : α → Option OtDeviceRole) (read : α → Option UInt16) (l : List α)
    (rloc : UInt16) : Prop :=
  ∃ pre c post, l = pre ++ c :: post ∧ read c = some rloc ∧
    ∀ x ∈ post, read x = none ∧ ∀ r, obs x = some r → r = .child

theorem LastRead.fresh {l : List α} {a : α} {rloc : UInt16} (ha : read a = some rloc) :
    LastRead obs read (l ++ [a]) rloc := ⟨l, a, [], rfl, ha, by simp⟩

theorem LastRead.extend {l : List α} {a : α} {rloc : UInt16} (h : LastRead obs read l rloc)
    (hread : read a = none) (hobs : ∀ r, obs a = some r → r = .child) :
    LastRead obs read (l ++ [a]) rloc := by
  obtain ⟨pre, c, post, rfl, hc, hpost⟩ := h
  refine ⟨pre, c, post ++ [a], by simp, hc, fun x hx => ?_⟩
  obtain hx | hx := List.mem_append.mp hx
  · exact hpost x hx
  · rw [List.mem_singleton.mp hx]
    exact ⟨hread, hobs⟩

def ParentTracked (obs : α → Option OtDeviceRole) (read : α → Option UInt16) (l : List α)
    (t : ThreadTracker) : Prop :=
  t.mHasLastParent = true →
    t.mLastThreadRole = .child ∧ LastRead obs read l t.mLastParentRloc16

theorem RoleStep.parent {cfg : Config} {w : World} {role : OtDeviceRole} {d d' : Device}
    (h : RoleStep cfg w role d d') :
    d'.thread.mLastThreadRole = role ∧ d'.thread.mHasLastParent = d.thread.mHasLastParent ∧
      d'.thread.mLastParentRloc16 = d.thread.mLastParentRloc16 := by
  cases h with
  | same hrole heq => rw [heq]; exact ⟨hrole.symm, rfl, rfl⟩
  | detach _ _ _ htask => rw [htask]; exact ⟨rfl, rfl, rfl⟩
  | reattach _ _ _ htask => rw [htask]; exact ⟨rfl, rfl, rfl⟩
  | move _ _ htask => rw [htask]; exact ⟨rfl, rfl, rfl⟩

theorem ParentTracked.step {l : List α} {a : α} {cfg : Config} {w : World} {d : Device}
    (h : ParentTracked obs read l d.thread) (ha : obs a = observedRole threadChangedMask w)
    (hread : read a = parentRead w) :
    ParentTracked obs read (l ++ [a])
      (handleThreadStateChange cfg w threadChangedMask d).thread := by
  unfold handleThreadStateChange
  cases hi : w.threadInstance with
  | none =>
    intro hhas
    obtain ⟨hchild, hlast⟩ := h hhas
    exact ⟨hchild, hlast.extend (by simp [hread, parentRead, hi])
      (by simp [ha, observedRole, hi])⟩
  | some reply =>
    obtain ⟨hrole, hhas, hrloc⟩ := (trackRole_step cfg w reply.role d).parent
    have hobs : obs a = some reply.role := by
      simp [ha, observedRole, hi, show threadChangedMask &&& OT_CHANGED_THREAD_ROLE ≠ 0 by decide]
    simp only [if_pos (show threadChangedMask &&& OT_CHANGED_THREAD_ROLE ≠ 0 by decide),
      if_pos (show threadChangedMask &&& threadChangedMask ≠ 0 by decide)]
    unfold trackParent ParentTracked
    by_cases hchild : reply.role = .child
    · cases hinfo : reply.parentInfo with
      | none =>
        simp only [if_pos hchild]
        intro hnow
        rw [hhas] at hnow
        obtain ⟨-, hlast⟩ := h hnow
        rw [hrloc]
        refine ⟨hrole.trans hchild, hlast.extend ?_ fun r hr => ?_⟩
        · simp [hread, parentRead, hi, hchild, hinfo]
        · rw [hobs] at hr
          rw [← Option.some.inj hr, hchild]
      | some rloc =>
        have hfresh : LastRead obs read (l ++ [a]) rloc :=
          LastRead.fresh (by simp [hread, parentRead, hi, hchild, hinfo])
        simp only [if_pos hchild]
        -- the fields are written only if the RLOC16 is new, but it was read in either case
        split
        · exact fun _ => ⟨hrole.trans hchild, hfresh⟩
        · rename_i hsame
          have hkept : (trackRole cfg w reply.role d).thread.mLastParentRloc16 = rloc := by
            simp_all
          intro _
          rw [hkept]
          exact ⟨hrole.trans hchild, hfresh⟩
    · -- outside of CHILD the block forgets the parent
      simp only [if_neg hchild]
      split
      · simp
      · rename_i hoff
        exact fun hnow => absurd hnow hoff

end Parent

/-! ## Runs of calls -/

structure ThreadCall where
  flags : UInt32
  w : World

def threadStep (cfg : Config) (d : Device) (c : ThreadCall) : Device :=
  handleThreadStateChange cfg c.w c.flags d

def ThreadCall.role (c : ThreadCall) : Option OtDeviceRole := observedRole c.flags c.w

def ThreadCall.time (c : ThreadCall) : ℤ := c.w.uptimeMs

theorem tracked_run (cfg : Config) (d : Device) (calls : List ThreadCall)
    (hd : d.thread = {}) :
    Tracked ThreadCall.role ThreadCall.time calls (run (threadStep cfg) d calls).thread := by
  refine run_invariant (fun l (d : Device) => Tracked ThreadCall.role ThreadCall.time l d.thread)
    ?_ ?_ calls
  · rw [hd]
    exact Tracked.initial
  · intro l c h
    exact h.step rfl rfl

theorem roleCounted_run (cfg : Config) (d : Device) (calls : List ThreadCall)
    (hd : d.thread = {}) (hdiag : cfg.diagnosticMode = true) :
    RoleCounted ThreadCall.role d.mDiag calls (run (threadStep cfg) d calls).mDiag := by
  refine run_invariant (fun l (d' : Device) => RoleCounted ThreadCall.role d.mDiag l d'.mDiag)
    (RoleCounted.initial _) ?_ calls
  intro l c h
  exact h.step (tracked_run cfg d l hd) hdiag rfl

theorem parentTracked_run (cfg : Config) (d : Device) (calls : List ThreadCall)
    (hd : d.thread = {}) (hflags : ∀ c ∈ calls, c.flags = threadChangedMask) :
    ParentTracked ThreadCall.role (fun c => parentRead c.w) calls
      (run (threadStep cfg) d calls).thread := by
  refine run_induction (fun l : List ThreadCall => ∀ c ∈ l, c.flags = threadChangedMask)
    (fun l (d : Device) => ParentTracked ThreadCall.role (fun c => parentRead c.w) l d.thread)
    (fun l a h c hc => h c (List.mem_append_left _ hc)) ?_ ?_ calls hflags
  · rw [hd]
    exact fun h => by simp at h
  · intro l c hadm h
    have hc : c.flags = threadChangedMask := hadm c (by simp)
    unfold threadStep
    rw [hc]
    exact h.step (by rw [ThreadCall.role, hc]) rfl

/-- **The Thread tracker invariant.** From the initial tracker, after any calls at positive
uptimes that never go back: the latch says whether the last role is DETACHED; the start time is
positive exactly then and is the uptime of the call that opened the running DETACHED stretch; in
diagnostic mode the detach counter has risen by the stretches begun; and under the four-flag mask a
remembered parent is the last one read in the current CHILD stretch. -/
theorem thread_tracker_invariant (cfg : Config) (d : Device) (calls : List ThreadCall)
    (hd : d.thread = {}) (htime : Timely ThreadCall.time calls) :
    let d' := run (threadStep cfg) d calls
    (d'.thread.mThreadDetached = true ↔ d'.thread.mLastThreadRole = .detached) ∧
    (0 < d'.thread.mThreadDetachedSinceMs ↔ d'.thread.mThreadDetached = true) ∧
    (d'.thread.mThreadDetached = true → ∃ c,
      Opener ThreadCall.role (· = .detached) .disabled calls c ∧
        d'.thread.mThreadDetachedSinceMs = c.time) ∧
    (cfg.diagnosticMode = true →
      d'.mDiag .threadDetachCount = d.mDiag .threadDetachCount +
        UInt32.ofNat (begun isDetached .disabled (calls.filterMap ThreadCall.role))) ∧
    ((∀ c ∈ calls, c.flags = threadChangedMask) → d'.thread.mHasLastParent = true →
      d'.thread.mLastThreadRole = .child ∧
        LastRead ThreadCall.role (fun c => parentRead c.w) calls d'.thread.mLastParentRloc16) := by
  have htrack := tracked_run cfg d calls hd
  refine ⟨htrack.latch, ?_, htrack.exists_since, fun hdiag => ?_, fun hflags => ?_⟩
  · constructor
    · intro hpos
      by_contra hoff
      have hzero := htrack.idle (by simpa using hoff)
      omega
    · intro hlatch
      obtain ⟨c, hc, hsince⟩ := htrack.exists_since hlatch
      rw [hsince]
      exact htime.pos c hc.mem
  · exact (roleCounted_run cfg d calls hd hdiag).detach
  · exact parentTracked_run cfg d calls hd hflags

def detachingCalls : List ThreadCall :=
  [⟨threadChangedMask, { uptimeMs := 1000, threadInstance := some { role := .child } }⟩,
    ⟨threadChangedMask, { uptimeMs := 2000, threadInstance := some { role := .detached } }⟩,
    ⟨threadChangedMask, { uptimeMs := 3000, threadInstance := some { role := .detached } }⟩]

theorem thread_tracker_invariant_when_detaching :
    ∃ c, Opener ThreadCall.role (· = .detached) .disabled detachingCalls c ∧
      (run (threadStep diagConfig) {} detachingCalls).thread.mThreadDetachedSinceMs = c.time :=
  (thread_tracker_invariant diagConfig {} detachingCalls rfl ⟨by decide, by decide⟩).2.2.1
    (by decide)

end TinyEnvSensor
