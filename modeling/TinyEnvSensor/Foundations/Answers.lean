import Mathlib.Data.List.Count
import Mathlib.Data.List.TakeDrop
import Mathlib.Tactic.Common

/-! # Entries that are answered

A row of entries in which every question is followed by its answer before the next question comes.
The row may be cut anywhere, and then at most the last question is without its answer. -/
namespace Answers
set_option autoImplicit false

variable {ε : Type*} {p q : ε → Bool}

structure Answered (p q : ε → Bool) (l : List ε) : Prop where
  balanced : l.countP p = l.countP q
  answers_le : ∀ n, (l.take n).countP q ≤ (l.take n).countP p
  questions_le : ∀ n, (l.take n).countP p ≤ (l.take n).countP q + 1

theorem countP_take_of_neither {l : List ε} (h : ∀ e ∈ l, p e = false ∧ q e = false) (n : ℕ) :
    (l.take n).countP p = 0 ∧ (l.take n).countP q = 0 := by
  constructor
  · exact List.countP_eq_zero.mpr fun e he => by simp [(h e (List.mem_of_mem_take he)).1]
  · exact List.countP_eq_zero.mpr fun e he => by simp [(h e (List.mem_of_mem_take he)).2]

theorem answered_of_neither {l : List ε} (h : ∀ e ∈ l, p e = false ∧ q e = false) :
    Answered p q l := by
  have hcount := countP_take_of_neither h
  refine ⟨?_, fun n => ?_, fun n => ?_⟩
  · have hall := hcount l.length
    rw [List.take_length] at hall
    exact hall.1.trans hall.2.symm
  · have hn := hcount n
    omega
  · have hn := hcount n
    omega

theorem answered_nil : Answered p q ([] : List ε) := answered_of_neither (by simp)

theorem Answered.map {ε' : Type*} {f : ε' → ε} {l : List ε'}
    (h : Answered (fun e => p (f e)) (fun e => q (f e)) l) : Answered p q (l.map f) := by
  refine ⟨?_, fun n => ?_, fun n => ?_⟩
  · simpa [List.countP_map, Function.comp_def] using h.balanced
  · simpa [← List.map_take, List.countP_map, Function.comp_def] using h.answers_le n
  · simpa [← List.map_take, List.countP_map, Function.comp_def] using h.questions_le n

theorem Answered.append {l m : List ε} (hl : Answered p q l) (hm : Answered p q m) :
    Answered p q (l ++ m) := by
  have hcount : ∀ n, ∃ k j, ((l ++ m).take n).countP p = (l.take k).countP p + (m.take j).countP p ∧
      ((l ++ m).take n).countP q = (l.take k).countP q + (m.take j).countP q ∧
      ((l.take k).countP p = (l.take k).countP q ∨ m.take j = []) := by
    intro n
    by_cases hn : n ≤ l.length
    · refine ⟨n, 0, ?_⟩
      simp [List.take_append_of_le_length hn]
    · refine ⟨l.length, n - l.length, ?_⟩
      have hall : l.take n = l := List.take_of_length_le (by omega)
      simp [List.take_append, hall, hl.balanced]
  refine ⟨?_, fun n => ?_, fun n => ?_⟩
  · rw [List.countP_append, List.countP_append, hl.balanced, hm.balanced]
  · obtain ⟨k, j, hp, hq, -⟩ := hcount n
    have hk := hl.answers_le k
    have hj := hm.answers_le j
    omega
  · obtain ⟨k, j, hp, hq, hbalanced⟩ := hcount n
    have hk := hl.questions_le k
    have hj := hm.questions_le j
    obtain hbalanced | hnone := hbalanced
    · omega
    · rw [hnone] at hp hq
      simp only [List.countP_nil] at hp hq
      omega

/-- A question, some other entries, and the answer. -/
theorem answered_pair {x y : ε} {l : List ε} (hx : p x = true ∧ q x = false)
    (hl : ∀ e ∈ l, p e = false ∧ q e = false) (hy : p y = false ∧ q y = true) :
    Answered p q (x :: l ++ [y]) := by
  have hcount := countP_take_of_neither hl
  have hend : ∀ n, ([y].take n).countP p = 0 ∧ ([y].take n).countP q ≤ 1 := by
    intro n
    cases n <;> simp [hy.1, hy.2]
  have htake : ∀ n, (x :: l ++ [y]).take (n + 1) = x :: (l.take n ++ [y].take (n - l.length)) := by
    intro n
    rw [List.cons_append, List.take_succ_cons, List.take_append]
  refine ⟨?_, fun n => ?_, fun n => ?_⟩
  · have hall := hcount l.length
    rw [List.take_length] at hall
    simp [hx.1, hx.2, hy.1, hy.2, hall.1, hall.2]
  · cases n with
    | zero => simp
    | succ n =>
      rw [htake]
      simp [hcount n, hx.1, hx.2, hend (n - l.length)]
  · cases n with
    | zero => simp
    | succ n =>
      rw [htake]
      simp [hcount n, hx.1, hx.2, hend (n - l.length)]

end Answers
