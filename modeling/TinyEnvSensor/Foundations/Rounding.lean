import Mathlib.Algebra.Order.Round
import Mathlib.Data.Rat.Floor
import Mathlib.Tactic.Linarith

/-! # Rounding half away from zero

`lround` over exact rationals: the nearest integer, and of two nearest ones the one further from
zero. -/
namespace Rounding
set_option autoImplicit false

/-- C's `lround`. -/
def lround (q : ℚ) : ℤ := if 0 ≤ q then ⌊q + 1 / 2⌋ else -⌊-q + 1 / 2⌋

variable {q : ℚ} {n : ℤ}

theorem abs_lround_sub_le (q : ℚ) : |(lround q : ℚ) - q| ≤ 1 / 2 := by
  unfold lround
  split
  · have h₁ := Int.floor_le (q + 1 / 2)
    have h₂ := Int.lt_floor_add_one (q + 1 / 2)
    rw [abs_le]
    constructor <;> linarith
  · have h₁ := Int.floor_le (-q + 1 / 2)
    have h₂ := Int.lt_floor_add_one (-q + 1 / 2)
    push_cast
    rw [abs_le]
    constructor <;> linarith

theorem le_lround_of_nonpos (hn : n ≤ 0) : n ≤ lround q ↔ (n : ℚ) - 1 / 2 < q := by
  have hn' : (n : ℚ) ≤ 0 := by exact_mod_cast hn
  unfold lround
  split
  · have hfloor : (0 : ℤ) ≤ ⌊q + 1 / 2⌋ := by
      rw [Int.le_floor]
      push_cast
      linarith
    constructor
    · intro h
      linarith
    · intro h
      omega
  · have hflip : n ≤ -⌊-q + 1 / 2⌋ ↔ ⌊-q + 1 / 2⌋ < -n + 1 := by omega
    rw [hflip, Int.floor_lt]
    push_cast
    constructor <;> intro h <;> linarith

theorem lround_neg (q : ℚ) : lround (-q) = -lround q := by
  unfold lround
  rcases lt_trichotomy q 0 with hq | hq | hq
  · rw [if_pos (by linarith), if_neg (by linarith), neg_neg]
  · subst hq
    norm_num
  · rw [if_neg (by linarith), if_pos hq.le, neg_neg]

theorem lround_le_of_nonneg (hn : 0 ≤ n) : lround q ≤ n ↔ q < (n : ℚ) + 1 / 2 := by
  have h := le_lround_of_nonpos (q := -q) (n := -n) (by omega)
  rw [lround_neg] at h
  push_cast at h
  constructor
  · intro hle
    have := h.mp (by omega)
    linarith
  · intro hlt
    have := h.mpr (by linarith)
    omega

theorem lround_mono {q r : ℚ} (h : q ≤ r) : lround q ≤ lround r := by
  by_cases hq : 0 ≤ q
  · unfold lround
    rw [if_pos hq, if_pos (hq.trans h)]
    exact Int.floor_mono (by linarith)
  · by_cases hr : 0 ≤ r
    · have hq₀ : lround q ≤ 0 := (lround_le_of_nonneg le_rfl).mpr (by push_cast; linarith)
      have hr₀ : 0 ≤ lround r := (le_lround_of_nonpos le_rfl).mpr (by push_cast; linarith)
      exact hq₀.trans hr₀
    · unfold lround
      rw [if_neg hq, if_neg hr, neg_le_neg_iff]
      exact Int.floor_mono (by linarith)

theorem lround_intCast (n : ℤ) : lround n = n := by
  have hround := abs_lround_sub_le (n : ℚ)
  rw [← Int.cast_sub, abs_le] at hround
  obtain ⟨h₁, h₂⟩ := hround
  have hlow : ((-1 : ℤ) : ℚ) < (lround n - n : ℤ) := by push_cast at h₁ ⊢; linarith
  have hhigh : ((lround n - n : ℤ) : ℚ) < (1 : ℤ) := by push_cast at h₂ ⊢; linarith
  have hlow' := Int.cast_lt.mp hlow
  have hhigh' := Int.cast_lt.mp hhigh
  omega

end Rounding
