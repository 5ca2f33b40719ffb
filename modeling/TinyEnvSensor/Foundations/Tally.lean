import TinyEnvSensor.Foundations.History

/-! # Counting along a run

What an input counts may depend on the state that reads it. Two counts of a run differ by what the
state at its end still owes. -/
namespace History
set_option autoImplicit false

variable {σ α : Type*}

/-- The sum of what the inputs of a run count in the states that read them. -/
def tally (step : σ → α → σ) (p : σ → α → ℕ) : σ → List α → ℕ
  | _, [] => 0
  | s, a :: l => p s a + tally step p (step s a) l

variable {step : σ → α → σ} {p q : σ → α → ℕ} {s : σ}

@[simp] theorem tally_nil : tally step p s [] = 0 := rfl

theorem tally_append (l m : List α) :
    tally step p s (l ++ m) = tally step p s l + tally step p (run step s l) m := by
  induction l generalizing s with
  | nil => simp
  | cons a l ih =>
    rw [List.cons_append, tally, tally, ih, Nat.add_assoc]
    rfl

@[simp] theorem tally_concat (l : List α) (a : α) :
    tally step p s (l ++ [a]) = tally step p s l + p (run step s l) a := by
  rw [tally_append, tally, tally_nil, Nat.add_zero]

theorem tally_add (l : List α) :
    tally step (fun s a => p s a + q s a) s l = tally step p s l + tally step q s l := by
  induction l generalizing s with
  | nil => rfl
  | cons a l ih =>
    rw [tally, tally, tally, ih]
    omega

/-- Each input counts on one side what it counts on the other, or leaves it owed. -/
theorem tally_balance (owed : σ → ℕ) (pays : ∀ s a, q s a + owed (step s a) = owed s + p s a)
    (s : σ) (l : List α) :
    tally step q s l + owed (run step s l) = owed s + tally step p s l := by
  induction l generalizing s with
  | nil => simp
  | cons a l ih =>
    have hrest := ih (step s a)
    have hfirst := pays s a
    have hrun : run step s (a :: l) = run step (step s a) l := rfl
    rw [tally, tally, hrun]
    omega

end History
