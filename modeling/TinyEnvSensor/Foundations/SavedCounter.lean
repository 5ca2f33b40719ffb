import Mathlib.Data.List.Induction
import Mathlib.Order.MinMax
import Mathlib.Tactic.Common

/-! # A counter with a saved copy

A counter counts in memory and saves its new value each time; a save may fail and then leaves the
old copy. A list of flags says of each count whether its save succeeded. A restart begins with some
value in memory next to the copy: the copy itself after a good load, anything after a bad one. -/
namespace SavedCounter
set_option autoImplicit false

structure Cell where
  ram : ℕ
  stored : ℕ
  deriving DecidableEq, Repr

/-- One count and its save. -/
def bump (c : Cell) (saved : Bool) : Cell :=
  ⟨c.ram + 1, if saved then c.ram + 1 else c.stored⟩

section Bumps
variable (c : Cell) (saves : List Bool)

theorem ram_bumps : (saves.foldl bump c).ram = c.ram + saves.length := by
  induction saves generalizing c with
  | nil => rfl
  | cons b saves ih =>
    rw [List.foldl_cons, ih, List.length_cons]
    simp only [bump]
    omega

theorem stored_bump_true :
    ((saves ++ [true]).foldl bump c).stored = c.ram + saves.length + 1 := by
  rw [List.foldl_append, List.foldl_cons, List.foldl_nil, bump, ram_bumps]
  rfl

theorem stored_bump_false :
    ((saves ++ [false]).foldl bump c).stored = (saves.foldl bump c).stored := by
  rw [List.foldl_append]
  rfl

/-- The copy is the one of the start, or no newer than the count. -/
theorem stored_bumps_le : (saves.foldl bump c).stored ≤ max c.stored (c.ram + saves.length) := by
  induction saves using List.reverseRecOn with
  | nil => exact le_max_left ..
  | append_singleton saves b ih =>
    rw [List.length_append, List.length_singleton]
    cases b with
    | false =>
      rw [stored_bump_false]
      omega
    | true =>
      rw [stored_bump_true]
      omega

theorem stored_le_bump (b : Bool) (h : b = true → c.stored ≤ c.ram + saves.length + 1) :
    (saves.foldl bump c).stored ≤ ((saves ++ [b]).foldl bump c).stored := by
  have hle := stored_bumps_le c saves
  cases b with
  | false => rw [stored_bump_false]
  | true =>
    have hstart := h rfl
    rw [stored_bump_true]
    omega

end Bumps
end SavedCounter
