import TinyEnvSensor.Foundations.History

/-! # One party of a system

A party takes some of the inputs of a system, and starts anew at others. Its inbox is what it has
taken since it last started. When nothing else moves the part of the state that belongs to it, that
part is what the party alone makes of its inbox. -/
namespace Interleaving
open History
set_option autoImplicit false

variable {σ τ α β : Type*}

structure Party (σ α β : Type*) where
  takes : σ → α → Option β
  restarts : α → Bool

/-- The inbox after one more input of the system. -/
def Party.receive (p : Party σ α β) (s : σ) (box : List β) (a : α) : List β :=
  if p.restarts a then [] else box ++ (p.takes s a).toList

def Party.inbox (p : Party σ α β) (step : σ → α → σ) (s : σ) (l : List α) : List β :=
  (run (fun (x : σ × List β) a => (step x.1 a, p.receive x.1 x.2 a)) (s, []) l).2

section Inbox
variable (p : Party σ α β) (step : σ → α → σ) (s : σ)

theorem inbox_nil : p.inbox step s [] = [] := rfl

theorem run_receive (l : List α) :
    run (fun (x : σ × List β) a => (step x.1 a, p.receive x.1 x.2 a)) (s, []) l =
      (run step s l, p.inbox step s l) := by
  induction l using List.reverseRecOn with
  | nil => rfl
  | append_singleton l a ih =>
    refine Prod.ext ?_ rfl
    rw [run_concat, run_concat, ih]

theorem inbox_concat (l : List α) (a : α) :
    p.inbox step s (l ++ [a]) = p.receive (run step s l) (p.inbox step s l) a := by
  unfold Party.inbox
  rw [run_concat, run_receive]

/-- What is in the inbox was taken at one of the inputs, and the party has not restarted since. -/
theorem inbox_split {l : List α} {xs ys : List β} {b : β}
    (h : p.inbox step s l = xs ++ b :: ys) :
    ∃ l₁ a l₂, l = l₁ ++ a :: l₂ ∧ p.inbox step s l₁ = xs ∧ p.takes (run step s l₁) a = some b ∧
      ∀ x ∈ a :: l₂, p.restarts x = false := by
  induction l using List.reverseRecOn generalizing ys with
  | nil => simp [inbox_nil] at h
  | append_singleton l a ih =>
    rw [inbox_concat, Party.receive] at h
    split_ifs at h with hrestart
    · simp at h
    · have hlater : ∀ ys', p.inbox step s l = xs ++ b :: ys' →
          ∃ l₁ a' l₂, l ++ [a] = l₁ ++ a' :: l₂ ∧ p.inbox step s l₁ = xs ∧
            p.takes (run step s l₁) a' = some b ∧ ∀ x ∈ a' :: l₂, p.restarts x = false := by
        intro ys' hys
        obtain ⟨l₁, a', l₂, rfl, hbox, htakes, hnone⟩ := ih hys
        refine ⟨l₁, a', l₂ ++ [a], by simp, hbox, htakes, fun x hx => ?_⟩
        obtain hx | hx := List.mem_append.mp (List.cons_append ▸ hx)
        · exact hnone x hx
        · rw [List.mem_singleton.mp hx]
          simpa using hrestart
      cases htakes : p.takes (run step s l) a with
      | none =>
        rw [htakes, Option.toList_none, List.append_nil] at h
        exact hlater ys h
      | some c =>
        rw [htakes, Option.toList_some] at h
        obtain rfl | ⟨ys', d, rfl⟩ := List.eq_nil_or_concat ys
        · obtain ⟨hbox, hcb⟩ := List.append_inj' h rfl
          obtain rfl : c = b := by simpa using hcb
          exact ⟨l, a, [], rfl, hbox, htakes, by simpa using hrestart⟩
        · have hsplit : p.inbox step s l ++ [c] = (xs ++ b :: ys') ++ [d] := by simpa using h
          exact hlater ys' (List.append_inj' hsplit rfl).1

theorem takes_of_mem_inbox {l : List α} {b : β} (h : b ∈ p.inbox step s l) :
    ∃ s', ∃ a ∈ l, p.takes s' a = some b := by
  obtain ⟨xs, ys, hbox⟩ := List.append_of_mem h
  obtain ⟨l₁, a, l₂, rfl, -, htakes, -⟩ := inbox_split p step s hbox
  exact ⟨_, a, by simp, htakes⟩

end Inbox

/-- `Shows s t` says that the party's part of the system in `s` is the party's own state `t`. -/
structure Alone (p : Party σ α β) (step : σ → α → σ) (own : τ → β → τ) (start : τ)
    (Shows : σ → τ → Prop) : Prop where
  restart : ∀ s a, p.restarts a = true → Shows (step s a) start
  take : ∀ s t a b, p.restarts a = false → p.takes s a = some b → Shows s t →
    Shows (step s a) (own t b)
  leave : ∀ s t a, p.restarts a = false → p.takes s a = none → Shows s t → Shows (step s a) t

/-- The party's part of the system is a run of the party alone. -/
theorem Alone.run {p : Party σ α β} {step : σ → α → σ} {own : τ → β → τ} {start : τ}
    {Shows : σ → τ → Prop} (h : Alone p step own start Shows) {s : σ} (hs : Shows s start)
    (l : List α) : Shows (run step s l) (History.run own start (p.inbox step s l)) := by
  induction l using List.reverseRecOn with
  | nil => exact hs
  | append_singleton l a ih =>
    rw [run_concat, inbox_concat, Party.receive]
    cases hrestart : p.restarts a with
    | true => exact h.restart _ a hrestart
    | false =>
      cases htake : p.takes (History.run step s l) a with
      | none =>
        simp only [Option.toList_none, List.append_nil]
        exact h.leave _ _ a hrestart htake ih
      | some b =>
        simp only [Option.toList_some, Bool.false_eq_true, if_false, run_concat]
        exact h.take _ _ a b hrestart htake ih

end Interleaving
