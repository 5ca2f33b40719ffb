import Mathlib.Algebra.Order.Group.Defs
import Mathlib.Data.Nat.Find
import Mathlib.Data.Set.Basic
import Mathlib.Order.Monotone.Basic

/-! # Times that cover a span

A span is covered by a set of times when each of its moments has one of them at most a gap back: a
watchdog fed at these times never runs out in it. Where the times are among those of a sequence, it
is enough to look at the moments of the sequence. -/
namespace Coverage
set_option autoImplicit false

variable {α : Type*} [LinearOrder α]

/-- The first point of a sequence that a moment does not lie after. -/
theorem exists_next {e : ℕ → α} {n : ℕ} {m : α} (hm : e 0 < m) (hmn : m ≤ e n) :
    ∃ k, 0 < k ∧ k ≤ n ∧ m ≤ e k ∧ ∀ j < k, e j < m := by
  have hex : ∃ k, m ≤ e k := ⟨n, hmn⟩
  refine ⟨Nat.find hex, ?_, Nat.find_min' hex hmn, Nat.find_spec hex, fun j hj => ?_⟩
  · rw [Nat.find_pos]
    exact not_le.mpr hm
  · exact not_le.mp (Nat.find_min hex hj)

/-- The times of the marked points among the first of a sequence. -/
def markedTimes (e : ℕ → α) (marked : ℕ → Prop) (n : ℕ) : Set α :=
  {t | ∃ k ≤ n, marked k ∧ t = e k}

variable [AddCommGroup α]

/-- Each moment after `a` and up to `b` has one of the times before it and at most `gap` back. A
time at the moment itself comes too late for it. -/
def Covered (gap : α) (times : Set α) (a b : α) : Prop :=
  ∀ m, a < m → m ≤ b → ∃ t ∈ times, t < m ∧ m - t ≤ gap

section Sequence
variable {e : ℕ → α} {marked : ℕ → Prop} {gap : α} {n : ℕ}

theorem Covered.behind (he : ∀ k, e k < e (k + 1))
    (hcov : Covered gap (markedTimes e marked n) (e 0) (e n)) {k : ℕ} (hpos : 0 < k) (hk : k ≤ n) :
    ∃ j < k, marked j ∧ e k - e j ≤ gap := by
  have hmono : StrictMono e := strictMono_nat_of_lt_succ he
  obtain ⟨t, ⟨j, -, hj, rfl⟩, hlt, hgap⟩ := hcov (e k) (hmono hpos) (hmono.monotone hk)
  exact ⟨j, hmono.lt_iff_lt.mp hlt, hj, hgap⟩

/-- **Coverage by a sequence.** The marked points of a rising sequence cover its span iff every
point after the first has a marked one behind it, at most a gap back. -/
theorem covered_iff [IsOrderedAddMonoid α] (he : ∀ k, e k < e (k + 1)) :
    Covered gap (markedTimes e marked n) (e 0) (e n) ↔
      ∀ k, 0 < k → k ≤ n → ∃ j < k, marked j ∧ e k - e j ≤ gap := by
  refine ⟨fun hcov k hpos hk => hcov.behind he hpos hk, fun hbehind m hm hmn => ?_⟩
  obtain ⟨k, hpos, hk, hmk, hbefore⟩ := exists_next hm hmn
  obtain ⟨j, hjk, hj, hgap⟩ := hbehind k hpos hk
  have hle : m - e j ≤ e k - e j := sub_le_sub_right hmk (e j)
  exact ⟨e j, ⟨j, hjk.le.trans hk, hj, rfl⟩, hbefore j hjk, hle.trans hgap⟩

end Sequence

end Coverage
