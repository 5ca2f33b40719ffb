import TinyEnvSensor.Foundations.History
import Mathlib.Data.List.Forall2

/-! # One machine shadows another

A machine follows a run of another one: for each input of the run it takes a matching input of its
own, or none where the input is idle. What matches an input, and whether it is idle, may depend on
all the inputs before it. -/
namespace Simulation
open History List
set_option autoImplicit false

variable {τ α β : Type*} {step : τ → β → τ} {t₀ : τ}

/-- `l'` matches the inputs of `l` one by one, less the idle ones. -/
inductive Selects (Matches : List α → β → α → Prop) (Idle : List α → α → Prop) :
    List β → List α → Prop
  | nil : Selects Matches Idle [] []
  | take {l' : List β} {l : List α} {b : β} {a : α} (h : Selects Matches Idle l' l)
      (hlive : ¬Idle l a) (hmatch : Matches l b a) : Selects Matches Idle (l' ++ [b]) (l ++ [a])
  | skip {l' : List β} {l : List α} {a : α} (h : Selects Matches Idle l' l) (hidle : Idle l a) :
      Selects Matches Idle l' (l ++ [a])

/-- `R` relates the inputs of the run so far to the state of the machine that follows it. -/
structure Shadows (step : τ → β → τ) (t₀ : τ) (R : List α → τ → Prop)
    (Matches : List α → β → α → Prop) (Idle : List α → α → Prop) : Prop where
  start : R [] t₀
  next : ∀ l t a, R l t → (Idle l a ∧ R (l ++ [a]) t) ∨
    (¬Idle l a ∧ ∃ b, Matches l b a ∧ R (l ++ [a]) (step t b))

variable {R : List α → τ → Prop} {Matches : List α → β → α → Prop} {Idle : List α → α → Prop}

theorem Shadows.run (h : Shadows step t₀ R Matches Idle) (l : List α) :
    ∃ l', Selects Matches Idle l' l ∧ R l (History.run step t₀ l') := by
  induction l using List.reverseRecOn with
  | nil => exact ⟨[], Selects.nil, h.start⟩
  | append_singleton l a ih =>
    obtain ⟨l', hsel, hrel⟩ := ih
    obtain ⟨hidle, hnext⟩ | ⟨hlive, b, hb, hnext⟩ := h.next l _ a hrel
    · exact ⟨l', hsel.skip hidle, hnext⟩
    · refine ⟨l' ++ [b], hsel.take hlive hb, ?_⟩
      rw [run_concat]
      exact hnext

/-- Where no input is idle, each one is matched. -/
theorem Selects.all {Matches : β → α → Prop} {l' : List β} {l : List α}
    (h : Selects (fun _ => Matches) Idle l' l)
    (hlive : ∀ before a after, l = before ++ a :: after → ¬Idle before a) :
    Forall₂ Matches l' l := by
  induction h with
  | nil => exact Forall₂.nil
  | @take l' l b a h _ hmatch ih =>
    have hfirst := ih fun before x after hl => hlive before x (after ++ [a]) (by rw [hl]; simp)
    exact List.rel_append hfirst (Forall₂.cons hmatch Forall₂.nil)
  | @skip l' l a h hidle ih => exact absurd hidle (hlive l a [] rfl)

end Simulation
