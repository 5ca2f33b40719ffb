import Mathlib.Algebra.Order.Field.Basic
import Mathlib.Data.List.Pairwise
import Mathlib.Tactic.GCongr
import Mathlib.Tactic.Linarith

/-! # Piecewise linear interpolation in a table

A table lists breakpoints from the highest down. A search walks the adjacent pairs and takes the
first segment that holds the argument, ends included. In a falling table neighbouring segments meet
at their common end, so it does not matter which of two is taken, and the interpolation rises with
its argument. -/
namespace Interpolation
set_option autoImplicit false

variable {K : Type*}

/-- Arguments fall strictly down the table, and values never rise. -/
def Falling [LinearOrder K] (table : List (K × K)) : Prop :=
  table.Pairwise fun p q => q.1 < p.1 ∧ q.2 ≤ p.2

/-- The segment from `lo` to `hi` holds `v`. -/
def Holds [LinearOrder K] (hi lo : K × K) (v : K) : Prop := v ≤ hi.1 ∧ lo.1 ≤ v

instance [LinearOrder K] (hi lo : K × K) (v : K) : Decidable (Holds hi lo v) :=
  inferInstanceAs (Decidable (_ ∧ _))

/-- The line through two breakpoints, at `v`. -/
def line [Field K] (hi lo : K × K) (v : K) : K :=
  lo.2 + (v - lo.1) / (hi.1 - lo.1) * (hi.2 - lo.2)

def interpolate [Field K] [LinearOrder K] (v : K) : List (K × K) → Option K
  | hi :: lo :: rest => if Holds hi lo v then some (line hi lo v) else interpolate v (lo :: rest)
  | _ => none

theorem line_lo [Field K] (hi lo : K × K) : line hi lo lo.1 = lo.2 := by
  rw [line, sub_self, zero_div, zero_mul, add_zero]

section Order
variable [LinearOrder K] {hi lo p : K × K} {table : List (K × K)}

theorem Falling.segment (h : Falling table) (hseg : [hi, lo] <:+: table) :
    lo.1 < hi.1 ∧ lo.2 ≤ hi.2 := by
  have hpair : Falling [hi, lo] := h.sublist hseg.sublist
  exact (List.pairwise_cons.mp hpair).1 lo (by simp)

theorem Falling.tail (h : Falling (p :: table)) : Falling table := (List.pairwise_cons.mp h).2

theorem Falling.below {q : K × K} (h : Falling (p :: table)) (hq : q ∈ p :: table) :
    q = p ∨ q.1 < p.1 := by
  obtain rfl | hq := List.mem_cons.mp hq
  · exact Or.inl rfl
  · exact Or.inr ((List.pairwise_cons.mp h).1 q hq).1

end Order

section Search
variable [Field K] [LinearOrder K] {hi lo : K × K} {table : List (K × K)} {v x : K}

theorem exists_segment (h : interpolate v table = some x) :
    ∃ hi lo, [hi, lo] <:+: table ∧ Holds hi lo v ∧ x = line hi lo v := by
  induction table with
  | nil => cases h
  | cons hi table ih =>
    cases table with
    | nil => cases h
    | cons lo rest =>
      rw [interpolate] at h
      split at h
      · rename_i hholds
        exact ⟨hi, lo, ⟨[], rest, rfl⟩, hholds, (Option.some.inj h).symm⟩
      · obtain ⟨hi', lo', hseg, hrest⟩ := ih h
        exact ⟨hi', lo', List.infix_cons hseg, hrest⟩

/-- The segments leave no gap between the last breakpoint and the first. -/
theorem exists_interpolate (hne : table ≠ []) (hhi : v ≤ hi.1)
    (hlo : ∀ p, table.getLast? = some p → p.1 ≤ v) :
    ∃ x, interpolate v (hi :: table) = some x := by
  induction table generalizing hi with
  | nil => exact absurd rfl hne
  | cons lo rest ih =>
    rw [interpolate]
    split
    · exact ⟨_, rfl⟩
    · rename_i hholds
      have habove : v < lo.1 := lt_of_not_ge fun hle => hholds ⟨hhi, hle⟩
      cases rest with
      | nil => exact absurd (hlo lo rfl) (not_le.mpr habove)
      | cons next rest =>
        exact ih (List.cons_ne_nil _ _) habove.le fun p hp => hlo p (by simpa using hp)

end Search

section Monotone
variable [Field K] [LinearOrder K] [IsStrictOrderedRing K] {hi lo p : K × K}
  {table : List (K × K)} {v w x y : K}

theorem line_hi (h : lo.1 < hi.1) : line hi lo hi.1 = hi.2 := by
  have hspan : hi.1 - lo.1 ≠ 0 := (sub_pos.mpr h).ne'
  rw [line, div_self hspan, one_mul, add_sub_cancel]

theorem line_mono (h₁ : lo.1 < hi.1) (h₂ : lo.2 ≤ hi.2) (hvw : v ≤ w) :
    line hi lo v ≤ line hi lo w := by
  have hspan : 0 < hi.1 - lo.1 := sub_pos.mpr h₁
  have hrise : 0 ≤ hi.2 - lo.2 := sub_nonneg.mpr h₂
  unfold line
  gcongr

/-- **Neighbouring segments agree.** Whichever segment holds the argument, it gives the value. -/
theorem interpolate_of_holds (htable : Falling table) (hseg : [hi, lo] <:+: table)
    (hholds : Holds hi lo v) : interpolate v table = some (line hi lo v) := by
  induction table with
  | nil => simp at hseg
  | cons hi₀ table ih =>
    cases table with
    | nil => exact absurd hseg.length_le (by simp)
    | cons lo₀ rest =>
      obtain ⟨h₁, -⟩ := htable.segment hseg
      rw [interpolate]
      obtain hfirst | hseg := List.infix_cons_iff.mp hseg
      · obtain ⟨rfl, hrest⟩ := List.cons_prefix_cons.mp hfirst
        obtain ⟨rfl, -⟩ := List.cons_prefix_cons.mp hrest
        rw [if_pos hholds]
      · split
        · -- both hold the argument, so it is their common breakpoint
          rename_i hholds₀
          obtain rfl | hbelow := htable.tail.below (hseg.subset (by simp : hi ∈ [hi, lo]))
          · obtain rfl : v = hi.1 := le_antisymm hholds.1 hholds₀.2
            rw [line_lo, line_hi h₁]
          · exact absurd (hholds₀.2.trans hholds.1) (not_le.mpr hbelow)
        · exact ih htable.tail hseg

/-- Below the argument of a breakpoint the interpolation stays below its value. -/
theorem interpolate_le (htable : Falling table) (hv : interpolate v table = some x)
    (hp : p ∈ table) (hvp : v ≤ p.1) : x ≤ p.2 := by
  induction table generalizing p with
  | nil => simp at hp
  | cons hi table ih =>
    cases table with
    | nil => cases hv
    | cons lo rest =>
      obtain ⟨h₁, h₂⟩ := htable.segment (⟨[], rest, rfl⟩ : [hi, lo] <:+: hi :: lo :: rest)
      rw [interpolate] at hv
      split at hv
      · rename_i hholds
        obtain rfl := Option.some.inj hv
        obtain rfl | hp := List.mem_cons.mp hp
        · calc line p lo v ≤ line p lo p.1 := line_mono h₁ h₂ hvp
            _ = p.2 := line_hi h₁
        · obtain rfl | hbelow := htable.tail.below hp
          · rw [le_antisymm hvp hholds.2, line_lo]
          · exact absurd (hholds.2.trans hvp) (not_le.mpr hbelow)
      · rename_i hholds
        obtain rfl | hp := List.mem_cons.mp hp
        · have habove : v < lo.1 := lt_of_not_ge fun hle => hholds ⟨hvp, hle⟩
          exact (ih htable.tail hv (by simp) habove.le).trans h₂
        · exact ih htable.tail hv hp hvp

/-- **The interpolation rises with its argument.** -/
theorem interpolate_mono (htable : Falling table) (hv : interpolate v table = some x)
    (hw : interpolate w table = some y) (hvw : v ≤ w) : x ≤ y := by
  obtain ⟨hi, lo, hseg, hholds, rfl⟩ := exists_segment hw
  obtain ⟨h₁, h₂⟩ := htable.segment hseg
  obtain hlow | hlow := le_total lo.1 v
  · have hsame := interpolate_of_holds htable hseg ⟨hvw.trans hholds.1, hlow⟩
    obtain rfl : line hi lo v = x := Option.some.inj (hsame.symm.trans hv)
    exact line_mono h₁ h₂ hvw
  · have hlo : lo ∈ table := hseg.subset (by simp)
    calc x ≤ lo.2 := interpolate_le htable hv hlo hlow
      _ = line hi lo lo.1 := (line_lo hi lo).symm
      _ ≤ line hi lo w := line_mono h₁ h₂ hholds.2

end Monotone
end Interpolation
