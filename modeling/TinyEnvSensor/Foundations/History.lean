import Mathlib.Data.List.Induction
import Mathlib.Data.List.Pairwise
import Mathlib.Algebra.Order.Group.Int
import Mathlib.Order.Basic

/-! # Runs of a deterministic machine and invariants over their history

A machine is a step function `σ → α → σ`. A run feeds it a list of inputs, oldest first. An
invariant may speak of the whole list of inputs read so far, so the induction of
`run_induction` is from the right: one step appends one input to the history. -/
namespace History
set_option autoImplicit false

variable {σ α : Type*}

def run (step : σ → α → σ) (s : σ) (l : List α) : σ := l.foldl step s

@[simp] theorem run_nil (step : σ → α → σ) (s : σ) : run step s [] = s := rfl

@[simp] theorem run_concat (step : σ → α → σ) (s : σ) (l : List α) (a : α) :
    run step s (l ++ [a]) = step (run step s l) a := by
  rw [run, List.foldl_append]
  rfl

theorem run_append (step : σ → α → σ) (s : σ) (l m : List α) :
    run step s (l ++ m) = run step (run step s l) m := List.foldl_append ..

/-- A relation between history and state holds after every admissible history if it holds at the
start and one more admissible input keeps it. -/
theorem run_induction {step : σ → α → σ} {s : σ} (Adm : List α → Prop) (I : List α → σ → Prop)
    (closed : ∀ l a, Adm (l ++ [a]) → Adm l) (init : I [] s)
    (next : ∀ l a, Adm (l ++ [a]) → I l (run step s l) → I (l ++ [a]) (step (run step s l) a)) :
    ∀ l, Adm l → I l (run step s l) := by
  intro l
  induction l using List.reverseRecOn with
  | nil => exact fun _ => init
  | append_singleton l a ih =>
    intro hadm
    rw [run_concat]
    exact next l a hadm (ih (closed l a hadm))

theorem run_invariant {step : σ → α → σ} {s : σ} (I : List α → σ → Prop) (init : I [] s)
    (next : ∀ l a, I l (run step s l) → I (l ++ [a]) (step (run step s l) a)) (l : List α) :
    I l (run step s l) :=
  run_induction (fun _ => True) I (fun _ _ _ => trivial) init (fun l a _ => next l a) l trivial

/-! ## Clocks -/

/-- The inputs carry positive times that never go back. -/
structure Timely (time : α → ℤ) (l : List α) : Prop where
  pos : ∀ a ∈ l, 0 < time a
  sorted : l.Pairwise fun a b => time a ≤ time b

/-- The inputs carry positive times that strictly increase. -/
structure Ticking (time : α → ℤ) (l : List α) : Prop where
  pos : ∀ a ∈ l, 0 < time a
  sorted : l.Pairwise fun a b => time a < time b

variable {time : α → ℤ}

theorem Timely.init {l : List α} {a : α} (h : Timely time (l ++ [a])) : Timely time l :=
  ⟨fun b hb => h.pos b (List.mem_append_left _ hb), (List.pairwise_append.mp h.sorted).1⟩

theorem Timely.right {l m : List α} (h : Timely time (l ++ m)) : Timely time m :=
  ⟨fun b hb => h.pos b (List.mem_append_right _ hb), (List.pairwise_append.mp h.sorted).2.1⟩

theorem Timely.le_last {l : List α} {a : α} (h : Timely time (l ++ [a])) :
    ∀ b ∈ l, time b ≤ time a :=
  fun b hb => (List.pairwise_append.mp h.sorted).2.2 b hb a (by simp)

theorem Timely.between {a : α} {l : List α} (h : Timely time (a :: l)) :
    ∀ x ∈ a :: l, time a ≤ time x ∧ time x ≤ (l.map time).getLastD (time a) := by
  intro x hx
  have hfirst : time a ≤ time x := by
    obtain rfl | hx := List.mem_cons.mp hx
    · exact le_rfl
    · exact (List.pairwise_cons.mp h.sorted).1 x hx
  refine ⟨hfirst, ?_⟩
  obtain rfl | ⟨l, b, rfl⟩ := List.eq_nil_or_concat l
  · rw [List.mem_singleton.mp hx]
    exact le_rfl
  · rw [List.concat_eq_append, ← List.cons_append] at h hx
    rw [List.concat_eq_append, List.map_append, List.map_singleton, List.getLastD_concat]
    obtain hx | hx := List.mem_append.mp hx
    · exact h.le_last x hx
    · rw [List.mem_singleton.mp hx]

theorem Ticking.left {l m : List α} (h : Ticking time (l ++ m)) : Ticking time l :=
  ⟨fun b hb => h.pos b (List.mem_append_left _ hb), (List.pairwise_append.mp h.sorted).1⟩

end History
