import TinyEnvSensor.Thread.TrackerMeaning
import Mathlib.Algebra.Group.Nat.Defs

/-! # What the reattach counter counts

The counter rises whenever the latch is released, which is at every role but DETACHED. Of the ends
of DETACHED stretches that it counts, those at an attached role are reattachments; the others, at
DISABLED, are not. -/
namespace TinyEnvSensor
open History Stretch
set_option autoImplicit false

def isAttached : OtDeviceRole → Bool
  | .disabled => false
  | .detached => false
  | .child => true
  | .router => true
  | .leader => true

/-- DETACHED stretches of the observed roles that were followed by an attached role, with no
DISABLED in between. -/
def reattachments (roles : List OtDeviceRole) : ℕ :=
  changes (fun a b => isDetached a && isAttached b) .disabled roles

/-- DETACHED stretches that were followed by DISABLED. -/
def dropouts (roles : List OtDeviceRole) : ℕ :=
  changes (fun a b => isDetached a && decide (b = .disabled)) .disabled roles

theorem stretchesEnded_eq (roles : List OtDeviceRole) :
    begun (fun r => !isDetached r) .disabled roles = reattachments roles + dropouts roles := by
  rw [begun_eq_changes]
  refine changes_or (fun a b => ?_) (fun a b => ?_) _ _
  · cases a <;> cases b <;> rfl
  · cases a <;> cases b <;> rfl

theorem dropouts_eq_zero_iff (roles : List OtDeviceRole) :
    dropouts roles = 0 ↔ ¬ [.detached, .disabled] <:+: roles := by
  rw [dropouts, changes_eq_zero_iff]
  constructor
  · intro h hpair
    have hstep := h .detached .disabled (List.infix_cons hpair)
    exact absurd hstep (by decide)
  · intro h a b hpair
    by_contra hstep
    have hroles : a = .detached ∧ b = .disabled := by simpa [isDetached] using hstep
    obtain ⟨rfl, rfl⟩ := hroles
    -- the role assumed before the first observation is not DETACHED
    obtain hfirst | hpair := List.infix_cons_iff.mp hpair
    · cases (List.cons_prefix_cons.mp hfirst).1
    · exact h hpair

theorem dropouts_concat_le (roles : List OtDeviceRole) (role : OtDeviceRole) :
    dropouts (roles ++ [role]) ≤ dropouts roles + 1 := changes_concat_le ..

section Count
variable {cfg : Config} {d : Device}

/-- The counter shows the reattachments exactly when it has counted no DISABLED for one, up to the
wrap. -/
theorem reattachCount_eq_iff (hdiag : cfg.diagnosticMode = true) (hd : d.thread = {})
    (calls : List ThreadCall) :
    (run (threadStep cfg) d calls).mDiag .threadReattachCount =
        d.mDiag .threadReattachCount +
          UInt32.ofNat (reattachments (calls.filterMap ThreadCall.role)) ↔
      dropouts (calls.filterMap ThreadCall.role) % 2 ^ 32 = 0 := by
  rw [(roleCounted_run cfg d calls hd hdiag).reattach, stretchesEnded_eq, UInt32.ofNat_add,
    UInt32.add_right_inj, UInt32.add_eq_left, UInt32.ofNat_eq_iff_mod_eq_toNat]
  rfl

theorem dropouts_call_le (calls : List ThreadCall) (c : ThreadCall) :
    dropouts ((calls ++ [c]).filterMap ThreadCall.role) ≤
      dropouts (calls.filterMap ThreadCall.role) + 1 := by
  cases hrole : c.role with
  | none => simp [List.filterMap_append, hrole]
  | some role =>
    have hconcat := dropouts_concat_le (calls.filterMap ThreadCall.role) role
    simpa [List.filterMap_append, hrole] using hconcat

/-- **When the counter counts only reattachments.** It does so after every call of a run iff no
DISABLED is observed right after a DETACHED in it. -/
theorem reattach_count_iff (cfg : Config) (d : Device) (calls : List ThreadCall)
    (hdiag : cfg.diagnosticMode = true) (hd : d.thread = {}) :
    (∀ pre, pre <+: calls →
      (run (threadStep cfg) d pre).mDiag .threadReattachCount =
        d.mDiag .threadReattachCount +
          UInt32.ofNat (reattachments (pre.filterMap ThreadCall.role))) ↔
      ¬ [.detached, .disabled] <:+: calls.filterMap ThreadCall.role := by
  constructor
  · intro h
    have hnone : ∀ pre, pre <+: calls → dropouts (pre.filterMap ThreadCall.role) = 0 := by
      intro pre
      induction pre using List.reverseRecOn with
      | nil => exact fun _ => rfl
      | append_singleton pre c ih =>
        intro hpre
        have hbefore := ih ((List.prefix_append pre [c]).trans hpre)
        have hnext := dropouts_call_le pre c
        have hwrapped := (reattachCount_eq_iff hdiag hd _).mp (h _ hpre)
        -- one call adds at most one, so the count cannot have wrapped
        omega
    exact (dropouts_eq_zero_iff _).mp (hnone calls List.prefix_rfl)
  · intro h pre hpre
    have hroles : pre.filterMap ThreadCall.role <+: calls.filterMap ThreadCall.role :=
      hpre.filterMap _
    have hnone : dropouts (pre.filterMap ThreadCall.role) = 0 :=
      (dropouts_eq_zero_iff _).mpr fun hpair => h (hpair.trans hroles.isInfix)
    exact (reattachCount_eq_iff hdiag hd pre).mpr (by rw [hnone, Nat.zero_mod])

end Count

def roleCall (uptimeMs : ℤ) (role : OtDeviceRole) : ThreadCall :=
  ⟨OT_CHANGED_THREAD_ROLE, { uptimeMs := uptimeMs, threadInstance := some { role := role } }⟩

theorem reattach_count_after_rejoin :
    (run (threadStep diagConfig) {} [roleCall 1000 .detached, roleCall 2000 .child]).mDiag
      .threadReattachCount = 0 + UInt32.ofNat 1 :=
  (reattach_count_iff diagConfig {} [roleCall 1000 .detached, roleCall 2000 .child] rfl rfl).mpr
    (by decide) _ List.prefix_rfl

theorem disabled_node_counts_as_reattached :
    (run (threadStep diagConfig) {} [roleCall 1000 .detached, roleCall 2000 .disabled]).mDiag
        .threadReattachCount ≠
      ({} : Device).mDiag .threadReattachCount +
        UInt32.ofNat (reattachments
          ([roleCall 1000 .detached, roleCall 2000 .disabled].filterMap ThreadCall.role)) := by
  decide +kernel

end TinyEnvSensor
