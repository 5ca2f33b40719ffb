import Mathlib.Data.List.Induction
import Mathlib.Data.List.Pairwise
import Mathlib.Algebra.Order.Group.Int
import Mathlib.Tactic.Linarith

/-! # Events kept a gap apart

A limiter lets an event through when it is due: when every event it let through before lies at least
a gap back. The events let through are spaced, the last one alone decides what is due, and no more
than one fits each gap of the time they span. -/
namespace Spacing
set_option autoImplicit false

variable {gap : ℤ} {l : List ℤ} {t : ℤ}

/-- The times are at least a gap apart, in order. -/
def Spaced (gap : ℤ) (l : List ℤ) : Prop := l.Pairwise fun a b => a + gap ≤ b

/-- Every event let through before lies at least a gap back. -/
def Due (gap : ℤ) (l : List ℤ) (t : ℤ) : Prop := ∀ s ∈ l, s + gap ≤ t

theorem Spaced.concat (hl : Spaced gap l) (ht : Due gap l t) : Spaced gap (l ++ [t]) := by
  refine List.pairwise_append.mpr ⟨hl, List.pairwise_singleton _ _, fun a ha b hb => ?_⟩
  rw [List.mem_singleton.mp hb]
  exact ht a ha

theorem due_nil : Due gap [] t := fun _ h => absurd h List.not_mem_nil

theorem due_concat (hgap : 0 ≤ gap) {s : ℤ} (hl : Spaced gap (l ++ [s])) :
    Due gap (l ++ [s]) t ↔ s + gap ≤ t := by
  constructor
  · intro h
    exact h s (by simp)
  · intro h a ha
    obtain ha | ha := List.mem_append.mp ha
    · have hle := (List.pairwise_append.mp hl).2.2 a ha s (by simp)
      omega
    · rw [List.mem_singleton.mp ha]
      exact h

/-- A limiter that remembers its last event, or time zero before any, knows what is due once a gap
has passed since zero. -/
theorem due_iff_getLastD (hgap : 0 ≤ gap) (hl : Spaced gap l) (ht : gap ≤ t) :
    Due gap l t ↔ gap ≤ t - l.getLastD 0 := by
  obtain rfl | ⟨l, s, rfl⟩ := List.eq_nil_or_concat l
  · rw [List.getLastD_nil, sub_zero]
    exact ⟨fun _ => ht, fun _ => due_nil⟩
  · rw [List.concat_eq_append] at hl ⊢
    rw [due_concat hgap hl, List.getLastD_concat]
    omega

theorem Spaced.span {a : ℤ} (hl : Spaced gap (l ++ [t])) (ha : ∀ s ∈ l ++ [t], a ≤ s) :
    l.length * gap ≤ t - a := by
  induction l using List.reverseRecOn generalizing t with
  | nil =>
    have h := ha t (by simp)
    simp only [List.length_nil, Nat.cast_zero, zero_mul]
    omega
  | append_singleton l s ih =>
    obtain ⟨hl', -, hlast⟩ := List.pairwise_append.mp hl
    have hspan := ih hl' fun x hx => ha x (List.mem_append_left _ hx)
    have hstep := hlast s (by simp) t (by simp)
    rw [List.length_append, List.length_singleton]
    push_cast
    linarith

/-- **How many spaced events fit a span.** -/
theorem Spaced.length_le {a b : ℤ} (hgap : 0 < gap) (hab : a ≤ b) (hl : Spaced gap l)
    (hmem : ∀ s ∈ l, a ≤ s ∧ s ≤ b) : (l.length : ℤ) ≤ 1 + (b - a) / gap := by
  obtain rfl | ⟨l, t, rfl⟩ := List.eq_nil_or_concat l
  · have hdiv := Int.ediv_nonneg (sub_nonneg.mpr hab) hgap.le
    simp only [List.length_nil, Nat.cast_zero]
    omega
  · rw [List.concat_eq_append] at hl hmem ⊢
    have hspan := hl.span fun s hs => (hmem s hs).1
    have ht := (hmem t (by simp)).2
    have hdiv : (l.length : ℤ) ≤ (b - a) / gap := by
      rw [Int.le_ediv_iff_mul_le hgap]
      omega
    rw [List.length_append, List.length_singleton]
    push_cast
    omega

end Spacing
