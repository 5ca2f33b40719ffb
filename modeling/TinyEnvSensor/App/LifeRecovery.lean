import TinyEnvSensor.App.LifeParties
import TinyEnvSensor.App.Observer
import Mathlib.Data.List.Chain

/-! # What the recovery achieves

`sys_reboot` ends the boot, so a tick that finds the reboot due is the last tick of its boot. With
ticks at most `G` apart, a commissioned node is never seen detached for longer than the threshold
and `G`. -/
namespace TinyEnvSensor
open History Interleaving Stretch
set_option autoImplicit false

section Ending
variable {cfg : Config} {l : Life} {w : World}

theorem exited_of_reboot (hwork : l.takesWork = true) (hreboot : RequestsReboot cfg l.device w) :
    (turn cfg .policyWork w l).main = .exited := by
  obtain ⟨hrunning, hidle⟩ := Bool.and_eq_true_iff.mp hwork
  have hrebooted : rebooted l.device (commissionPolicyTimeoutCallback cfg w l.device) = true :=
    decide_eq_true hreboot
  simp [turn, hrunning, policyWorkTurn, of_decide_eq_true hidle, hrebooted]

/-- Who has exited takes no tick until the next reset. -/
theorem policyInbox_of_exited {store : Settings} {es after : List LifeEvent}
    (hexited : (life cfg store es).main = .exited) (hstays : ∀ e ∈ after, e.isReset = false) :
    policyInbox cfg store (es ++ after) = policyInbox cfg store es := by
  induction after using List.reverseRecOn with
  | nil => rw [List.append_nil]
  | append_singleton after e ih =>
    have hbefore : ∀ x ∈ after, x.isReset = false := fun x hx =>
      hstays x (List.mem_append_left _ hx)
    have hsame := life_of_exited hexited hbefore
    have he := hstays e (by simp)
    have hinbox : policyInbox cfg store (es ++ after ++ [e]) =
        policyParty.receive (life cfg store (es ++ after))
          (policyInbox cfg store (es ++ after)) e := inbox_concat ..
    rw [← List.append_assoc, hinbox, hsame, ih hbefore]
    cases e with
    | turn t w =>
      have hidle : (life cfg store es).takesWork = false := by
        simp [Life.takesWork, Life.running, hexited]
      cases t <;> simp [Party.receive, policyParty, hidle, LifeEvent.isReset]
    | reset causes => cases he
    | cut t w calls cleared causes => cases he

end Ending

/-- A tick that finds the reboot due is the last of its boot. -/
theorem due_is_last {cfg : Config} {store : Settings} {es : List LifeEvent} {ws rest : List World}
    {w : World} (hbox : policyInbox cfg store es = ws ++ w :: rest)
    (hpos : ∀ x ∈ ws ++ [w], 0 < x.uptimeMs) (hdue : RebootDue cfg ws w) : rest = [] := by
  obtain ⟨before, e, after, rfl, hbefore, htakes, hstays⟩ := inbox_split _ _ _ hbox
  obtain ⟨rfl, hwork⟩ := takes_policy htakes
  have hbefore' : policyInbox cfg store before = ws := hbefore
  have hreboot : RequestsReboot cfg (life cfg store before).device w := by
    rw [life_requestsReboot_iff cfg store before w (by rwa [hbefore']), hbefore']
    exact hdue
  have hexited : (life cfg store (before ++ [.turn .policyWork w])).main = .exited := by
    rw [life_concat]
    exact exited_of_reboot hwork hreboot
  have hlast : policyInbox cfg store (before ++ [.turn .policyWork w]) = ws ++ [w] := by
    have hinbox : policyInbox cfg store (before ++ [.turn .policyWork w]) =
        policyParty.receive (life cfg store before) (policyInbox cfg store before)
          (.turn .policyWork w) := inbox_concat ..
    rw [hinbox, hbefore']
    have hwork' : (life cfg store before).takesWork = true := hwork
    simp [Party.receive, policyParty, hwork', LifeEvent.isReset]
  have hafter : ∀ e ∈ after, e.isReset = false := fun e he =>
    hstays e (List.mem_cons_of_mem _ he)
  have hend := policyInbox_of_exited hexited hafter
  have hsplit : before ++ .turn .policyWork w :: after =
      (before ++ [.turn .policyWork w]) ++ after := by simp
  rw [hsplit, hend, hlast] at hbox
  simpa using hbox

/-- **No commissioned node stays detached for longer than the threshold and a gap.** In any life in
diagnostic mode whose ticks since the last reset came at most `G` apart and found the node
commissioned: if a DETACHED stretch opened by the tick `c` is still running, then the last tick came
at most the threshold and `G` after `c`. -/
theorem detachment_is_bounded (cfg : Config) (store : Settings) (es : List LifeEvent) (c z : World)
    (G : ℤ) (hdiag : cfg.diagnosticMode = true) (hG : 0 ≤ G)
    (hpos : ∀ w ∈ policyInbox cfg store es, 0 < w.uptimeMs)
    (hgaps : (policyInbox cfg store es).IsChain fun a b => b.uptimeMs - a.uptimeMs ≤ G)
    (hcommissioned : ∀ w ∈ policyInbox cfg store es, isCommissioned w = true)
    (hdetached : Opener policyRole (· = .detached) .disabled (policyInbox cfg store es) c)
    (hlast : (policyInbox cfg store es).getLast? = some z) :
    z.uptimeMs - c.uptimeMs ≤ cfg.kDetachedRebootThresholdMs + G := by
  have hthreshold := cfg.kDetachedRebootThresholdMs_pos
  obtain ⟨ws, hws⟩ := List.getLast?_eq_some_iff.mp hlast
  rw [hws] at hdetached hgaps hcommissioned hpos
  obtain ⟨rfl, -⟩ | ⟨hopen, -⟩ := opener_concat_cases hdetached
  · omega
  · obtain rfl | ⟨xs, y, rfl⟩ := List.eq_nil_or_concat ws
    · exact absurd hopen not_opener_nil
    · rw [List.concat_eq_append] at hopen hgaps hcommissioned hpos hws
      have hgap : z.uptimeMs - y.uptimeMs ≤ G := by
        have hchain : ((xs ++ y :: [z]).IsChain fun a b => b.uptimeMs - a.uptimeMs ≤ G) := by
          simpa using hgaps
        exact (List.isChain_append_cons_cons.mp hchain).2.1
      have hfresh : y.uptimeMs - c.uptimeMs ≤ cfg.kDetachedRebootThresholdMs := by
        by_contra hold
        have hdue : RebootDue cfg xs y :=
          ⟨hdiag, hcommissioned y (by simp), c, hopen, not_le.mp hold⟩
        have hbox : policyInbox cfg store es = xs ++ y :: [z] := by simpa using hws
        have hnone := due_is_last hbox (fun x hx => hpos x (List.mem_append_left _ hx)) hdue
        cases hnone
      omega

theorem detachment_is_bounded_over_two_ticks :
    (tickAt 2000 .detached).uptimeMs - (tickAt 1000 .detached).uptimeMs ≤
      diagConfig.kDetachedRebootThresholdMs + 1000 := by
  have hbox : policyInbox diagConfig ∅
      (detachedLife ++ [.turn .policyWork (tickAt 2000 .detached)]) =
        [tickAt 1000 .detached, tickAt 2000 .detached] := rfl
  refine detachment_is_bounded diagConfig ∅
    (detachedLife ++ [.turn .policyWork (tickAt 2000 .detached)]) (tickAt 1000 .detached)
    (tickAt 2000 .detached) 1000 rfl (by decide) ?_ ?_ ?_ ?_ ?_
  · rw [hbox]
    simp [tickAt]
  · rw [hbox]
    simp [tickAt]
  · rw [hbox]
    decide
  · rw [hbox]
    exact ⟨[], [tickAt 2000 .detached], rfl, ⟨_, rfl, rfl⟩, by decide, by decide⟩
  · rw [hbox]
    rfl

end TinyEnvSensor
