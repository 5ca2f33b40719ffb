import Mathlib.Data.List.Induction
import Mathlib.Tactic.Common

/-! # Unbroken stretches of an observed property

Calls of type `α` arrive one after the other. A call may observe a value (`obs a = some r`) or
nothing. A stretch of `p` is a maximal block of calls whose observations all satisfy `p`; calls
that observe nothing neither open nor break one. `Opener` names the call that opened the stretch
still running at the end of a history, and `begun` counts the stretches begun so far. -/
namespace Stretch
set_option autoImplicit false

variable {α ρ : Type*}

/-- The value the last observing call saw, `r₀` before any. -/
def lastSeen (obs : α → Option ρ) (r₀ : ρ) (l : List α) : ρ := (l.filterMap obs).getLastD r₀

/-- Call `c` opened the stretch of `p` that is still running at the end of `l`: it observed `p`
after something else, and nothing after it observed anything but `p`. -/
def Opener (obs : α → Option ρ) (p : ρ → Prop) (r₀ : ρ) (l : List α) (c : α) : Prop :=
  ∃ pre post, l = pre ++ c :: post ∧ (∃ r, obs c = some r ∧ p r) ∧ ¬ p (lastSeen obs r₀ pre) ∧
    ∀ x ∈ post, ∀ r, obs x = some r → p r

/-- Stretches of `p` begun in a sequence of observed values, when `r₀` was seen before it. -/
def begun (p : ρ → Bool) : ρ → List ρ → ℕ
  | _, [] => 0
  | r₀, r :: l => (if p r && !p r₀ then 1 else 0) + begun p r l

/-- Adjacent values in relation `q` in a sequence of observed values, when `r₀` was seen before. -/
def changes (q : ρ → ρ → Bool) : ρ → List ρ → ℕ
  | _, [] => 0
  | r₀, r :: l => (if q r₀ r then 1 else 0) + changes q r l

section LastSeen
variable {obs : α → Option ρ} {r₀ : ρ}

theorem lastSeen_silent {l : List α} {a : α} (h : obs a = none) :
    lastSeen obs r₀ (l ++ [a]) = lastSeen obs r₀ l := by
  simp [lastSeen, List.filterMap_append, h]

theorem lastSeen_seen {l : List α} {a : α} {r : ρ} (h : obs a = some r) :
    lastSeen obs r₀ (l ++ [a]) = r := by
  simp [lastSeen, List.filterMap_append, h]

theorem lastSeen_of_all {p : ρ → Prop} {l m : List α} (h : p (lastSeen obs r₀ l))
    (hm : ∀ x ∈ m, ∀ r, obs x = some r → p r) : p (lastSeen obs r₀ (l ++ m)) := by
  induction m using List.reverseRecOn with
  | nil => simpa using h
  | append_singleton m a ih =>
    rw [← List.append_assoc]
    have hl := ih fun x hx => hm x (by simp [hx])
    cases ho : obs a with
    | none => rwa [lastSeen_silent ho]
    | some r =>
      rw [lastSeen_seen ho]
      exact hm a (by simp) r ho

end LastSeen

section Opener
variable {obs : α → Option ρ} {p : ρ → Prop} {r₀ : ρ} {l : List α} {a c : α}

theorem not_opener_nil : ¬ Opener obs p r₀ [] c := by
  rintro ⟨pre, post, h, -⟩
  simp at h

theorem Opener.lastSeen (h : Opener obs p r₀ l c) : p (lastSeen obs r₀ l) := by
  obtain ⟨pre, post, rfl, ⟨r, hr, hp⟩, -, hpost⟩ := h
  have hc : p (Stretch.lastSeen obs r₀ (pre ++ [c])) := by rwa [lastSeen_seen hr]
  simpa using lastSeen_of_all hc hpost

theorem Opener.mem (h : Opener obs p r₀ l c) : c ∈ l := by
  obtain ⟨pre, post, rfl, -⟩ := h
  simp

theorem Opener.append {m : List α} (h : Opener obs p r₀ l c)
    (hm : ∀ x ∈ m, ∀ r, obs x = some r → p r) : Opener obs p r₀ (l ++ m) c := by
  obtain ⟨pre, post, rfl, hc, hpre, hpost⟩ := h
  refine ⟨pre, post ++ m, by simp, hc, hpre, fun x hx => ?_⟩
  obtain hx | hx := List.mem_append.mp hx
  · exact hpost x hx
  · exact hm x hx

theorem Opener.extend (h : Opener obs p r₀ l c) (ha : ∀ r, obs a = some r → p r) :
    Opener obs p r₀ (l ++ [a]) c :=
  h.append fun x hx => by rwa [List.mem_singleton.mp hx]

/-- The opener of a history that ends in `a` is `a` itself, or `a` kept an older stretch open. -/
theorem opener_concat_cases (h : Opener obs p r₀ (l ++ [a]) c) :
    (c = a ∧ ¬ p (lastSeen obs r₀ l) ∧ ∃ r, obs a = some r ∧ p r) ∨
      (Opener obs p r₀ l c ∧ ∀ r, obs a = some r → p r) := by
  obtain ⟨pre, post, hl, hc, hpre, hpost⟩ := h
  rcases List.eq_nil_or_concat post with rfl | ⟨post, b, rfl⟩
  · obtain ⟨rfl, hca⟩ := List.append_inj' hl rfl
    obtain rfl : a = c := by simpa using hca
    exact Or.inl ⟨rfl, hpre, hc⟩
  · have hl' : l ++ [a] = (pre ++ c :: post) ++ [b] := by simpa using hl
    obtain ⟨rfl, hab⟩ := List.append_inj' hl' rfl
    obtain rfl : a = b := by simpa using hab
    exact Or.inr ⟨⟨pre, post, rfl, hc, hpre, fun x hx => hpost x (by simp [hx])⟩,
      fun r hr => hpost a (by simp) r hr⟩

/-- A stretch that is running after `m` was opened in `m` if none was running before it. -/
theorem Opener.mem_of_closed {m : List α} (h : Opener obs p r₀ (l ++ m) c)
    (hl : ¬ p (Stretch.lastSeen obs r₀ l)) : c ∈ m := by
  induction m using List.reverseRecOn with
  | nil =>
    rw [List.append_nil] at h
    exact absurd h.lastSeen hl
  | append_singleton m a ih =>
    rw [← List.append_assoc] at h
    obtain ⟨rfl, -⟩ | ⟨h, -⟩ := opener_concat_cases h
    · simp
    · exact List.mem_append_left _ (ih h)

theorem opener_silent (ha : obs a = none) :
    Opener obs p r₀ (l ++ [a]) c ↔ Opener obs p r₀ l c := by
  constructor
  · intro h
    rcases opener_concat_cases h with ⟨-, -, r, hr, -⟩ | ⟨h, -⟩
    · rw [ha] at hr; cases hr
    · exact h
  · intro h
    exact h.extend fun r hr => by rw [ha] at hr; cases hr

theorem opener_extend {r : ρ} (ha : obs a = some r) (hr : p r) (hl : p (lastSeen obs r₀ l)) :
    Opener obs p r₀ (l ++ [a]) c ↔ Opener obs p r₀ l c := by
  constructor
  · intro h
    rcases opener_concat_cases h with ⟨-, hn, -⟩ | ⟨h, -⟩
    · exact absurd hl hn
    · exact h
  · intro h
    refine h.extend fun r' hr' => ?_
    rw [ha] at hr'
    obtain rfl := Option.some.inj hr'
    exact hr

theorem opener_open {r : ρ} (ha : obs a = some r) (hr : p r) (hl : ¬ p (lastSeen obs r₀ l)) :
    Opener obs p r₀ (l ++ [a]) c ↔ c = a := by
  constructor
  · intro h
    rcases opener_concat_cases h with ⟨hca, -⟩ | ⟨h, -⟩
    · exact hca
    · exact absurd h.lastSeen hl
  · rintro rfl
    exact ⟨l, [], rfl, ⟨r, ha, hr⟩, hl, by simp⟩

theorem opener_close {r : ρ} (ha : obs a = some r) (hr : ¬ p r) :
    ¬ Opener obs p r₀ (l ++ [a]) c := by
  intro h
  have hlast := h.lastSeen
  rw [lastSeen_seen ha] at hlast
  exact hr hlast

theorem exists_opener (h₀ : ¬ p r₀) (h : p (lastSeen obs r₀ l)) : ∃ c, Opener obs p r₀ l c := by
  induction l using List.reverseRecOn with
  | nil => exact absurd h h₀
  | append_singleton l a ih =>
    cases ha : obs a with
    | none =>
      rw [lastSeen_silent ha] at h
      obtain ⟨c, hc⟩ := ih h
      exact ⟨c, (opener_silent ha).mpr hc⟩
    | some r =>
      rw [lastSeen_seen ha] at h
      by_cases hl : p (lastSeen obs r₀ l)
      · obtain ⟨c, hc⟩ := ih hl
        exact ⟨c, (opener_extend ha h hl).mpr hc⟩
      · exact ⟨a, (opener_open ha h hl).mpr rfl⟩

end Opener

section Begun
variable {p : ρ → Bool}

theorem begun_concat (r₀ r : ρ) (l : List ρ) :
    begun p r₀ (l ++ [r]) = begun p r₀ l + if p r && !p (l.getLastD r₀) then 1 else 0 := by
  induction l generalizing r₀ with
  | nil => simp [begun]
  | cons b l ih =>
    have hlast : (b :: l).getLastD r₀ = l.getLastD b := List.getLastD_cons ..
    rw [List.cons_append, begun, begun, ih, hlast, Nat.add_assoc]

theorem begun_silent {obs : α → Option ρ} {a : α} (r₀ : ρ) (l : List α) (ha : obs a = none) :
    begun p r₀ ((l ++ [a]).filterMap obs) = begun p r₀ (l.filterMap obs) := by
  simp [List.filterMap_append, ha]

theorem begun_seen {obs : α → Option ρ} {a : α} {r : ρ} (r₀ : ρ) (l : List α)
    (ha : obs a = some r) :
    begun p r₀ ((l ++ [a]).filterMap obs) =
      begun p r₀ (l.filterMap obs) + if p r && !p (lastSeen obs r₀ l) then 1 else 0 := by
  have hlist : (l ++ [a]).filterMap obs = l.filterMap obs ++ [r] := by
    simp [List.filterMap_append, ha]
  rw [hlist, begun_concat]
  rfl

end Begun

section Changes
variable {q q₁ q₂ : ρ → ρ → Bool}

theorem begun_eq_changes (p : ρ → Bool) (r₀ : ρ) (l : List ρ) :
    begun p r₀ l = changes (fun a b => p b && !p a) r₀ l := by
  induction l generalizing r₀ with
  | nil => rfl
  | cons r l ih => rw [begun, changes, ih]

theorem changes_or (hor : ∀ a b, q a b = (q₁ a b || q₂ a b))
    (hand : ∀ a b, (q₁ a b && q₂ a b) = false) (r₀ : ρ) (l : List ρ) :
    changes q r₀ l = changes q₁ r₀ l + changes q₂ r₀ l := by
  induction l generalizing r₀ with
  | nil => rfl
  | cons r l ih =>
    have hboth := hand r₀ r
    rw [changes, changes, changes, ih, hor]
    cases h₁ : q₁ r₀ r with
    | false =>
      rw [Bool.false_or, if_neg Bool.false_ne_true]
      omega
    | true =>
      rw [h₁, Bool.true_and] at hboth
      rw [hboth, Bool.or_false, if_neg Bool.false_ne_true]
      omega

theorem changes_concat_le (r₀ r : ρ) (l : List ρ) :
    changes q r₀ (l ++ [r]) ≤ changes q r₀ l + 1 := by
  induction l generalizing r₀ with
  | nil =>
    simp only [List.nil_append, changes]
    split <;> simp
  | cons b l ih =>
    have hrest := ih b
    simp only [List.cons_append, changes]
    omega

theorem changes_eq_zero_iff (r₀ : ρ) (l : List ρ) :
    changes q r₀ l = 0 ↔ ∀ a b, [a, b] <:+: r₀ :: l → q a b = false := by
  induction l generalizing r₀ with
  | nil => simp [changes, List.infix_cons_iff]
  | cons r l ih =>
    rw [changes, Nat.add_eq_zero_iff, ih]
    constructor
    · rintro ⟨hfirst, hrest⟩ a b hab
      obtain hab | hab := List.infix_cons_iff.mp hab
      · obtain ⟨rfl, hb⟩ := List.cons_prefix_cons.mp hab
        obtain ⟨rfl, -⟩ := List.cons_prefix_cons.mp hb
        simpa using hfirst
      · exact hrest a b hab
    · intro h
      refine ⟨?_, fun a b hab => h a b (List.infix_cons_iff.mpr (Or.inr hab))⟩
      have hfirst := h r₀ r ⟨[], l, rfl⟩
      rw [hfirst, if_neg Bool.false_ne_true]

end Changes
end Stretch
