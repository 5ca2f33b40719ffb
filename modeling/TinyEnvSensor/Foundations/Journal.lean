import TinyEnvSensor.Foundations.History
import Mathlib.Data.List.Basic
import Mathlib.Logic.Function.Iterate

/-! # Journals

A machine appends entries to a log as it works. A reader of the log has a state of its own that the
entries move. The machine is journaled when over every stretch of its work the reader's state of it
moves exactly as the new entries say, each entry being allowed in the state it is written in. What a
machine leaves behind that stops in the middle is then known from the entries it got to write. -/
namespace Journal
open History
set_option autoImplicit false

structure Reader (σ ε τ : Type*) where
  log : σ → List ε
  view : σ → τ
  apply : τ → ε → τ

variable {σ ε τ ν : Type*} {R : Reader σ ε τ} {P Q : τ → ε → Prop}

/-! ## Replaying entries -/

def replay (R : Reader σ ε τ) (t : τ) (es : List ε) : τ := es.foldl R.apply t

@[simp] theorem replay_nil (t : τ) : replay R t [] = t := rfl

theorem replay_cons (t : τ) (e : ε) (es : List ε) :
    replay R t (e :: es) = replay R (R.apply t e) es := rfl

theorem replay_append (t : τ) (es es' : List ε) :
    replay R t (es ++ es') = replay R (replay R t es) es' := List.foldl_append ..

/-- A part of the reader's state that each entry moves on its own. -/
theorem replay_part (part : τ → ν) (f : ν → ε → ν) {es : List ε}
    (h : ∀ t, ∀ e ∈ es, part (R.apply t e) = f (part t) e) (t : τ) :
    part (replay R t es) = es.foldl f (part t) := by
  induction es generalizing t with
  | nil => rfl
  | cons e es ih =>
    rw [replay_cons, ih (fun t x hx => h t x (List.mem_cons_of_mem _ hx)), h t e List.mem_cons_self]
    rfl

theorem replay_kept (part : τ → ν) {es : List ε}
    (h : ∀ t, ∀ e ∈ es, part (R.apply t e) = part t) (t : τ) : part (replay R t es) = part t := by
  rw [replay_part part (fun x _ => x) h t]
  exact List.foldl_fixed ..

/-- Each entry is allowed in the state that the ones before it lead to. -/
def Accepts (R : Reader σ ε τ) (P : τ → ε → Prop) : τ → List ε → Prop
  | _, [] => True
  | t, e :: es => P t e ∧ Accepts R P (R.apply t e) es

theorem accepts_append {t : τ} {es es' : List ε} :
    Accepts R P t (es ++ es') ↔ Accepts R P t es ∧ Accepts R P (replay R t es) es' := by
  induction es generalizing t with
  | nil => exact (true_and _).to_iff.symm
  | cons e es ih =>
    rw [List.cons_append, Accepts, Accepts, ih, replay_cons, and_assoc]

theorem Accepts.mono {t : τ} {es : List ε} (h : Accepts R P t es) (hPQ : ∀ t e, P t e → Q t e) :
    Accepts R Q t es := by
  induction es generalizing t with
  | nil => trivial
  | cons e es ih => exact ⟨hPQ t e h.1, ih h.2⟩

theorem Accepts.take {t : τ} {es : List ε} (h : Accepts R P t es) (n : ℕ) :
    Accepts R P t (es.take n) := by
  rw [← List.take_append_drop n es] at h
  exact (accepts_append.mp h).1

theorem Accepts.forall {p : ε → Prop} {t : τ} {es : List ε} (h : Accepts R P t es)
    (hp : ∀ t e, P t e → p e) : ∀ e ∈ es, p e := by
  induction es generalizing t with
  | nil => simp
  | cons e es ih =>
    intro x hx
    obtain rfl | hx := List.mem_cons.mp hx
    · exact hp t x h.1
    · exact ih h.2 x hx

/-! ## Stretches of work -/

/-- Between two states the machine wrote entries that account for what the reader sees change. -/
def Writes (R : Reader σ ε τ) (P : τ → ε → Prop) (s s' : σ) : Prop :=
  ∃ es, R.log s' = R.log s ++ es ∧ Accepts R P (R.view s) es ∧
    R.view s' = replay R (R.view s) es

theorem Writes.silent {s s' : σ} (hlog : R.log s' = R.log s) (hview : R.view s' = R.view s) :
    Writes R P s s' :=
  ⟨[], hlog.trans (List.append_nil _).symm, trivial, hview⟩

theorem Writes.refl (s : σ) : Writes R P s s := Writes.silent rfl rfl

theorem Writes.entry {s s' : σ} {e : ε} (hlog : R.log s' = R.log s ++ [e]) (he : P (R.view s) e)
    (hview : R.view s' = R.apply (R.view s) e) : Writes R P s s' :=
  ⟨[e], hlog, ⟨he, trivial⟩, hview⟩

theorem Writes.trans {s m s' : σ} (h : Writes R P s m) (h' : Writes R P m s') :
    Writes R P s s' := by
  obtain ⟨es, hlog, hacc, hview⟩ := h
  obtain ⟨es', hlog', hacc', hview'⟩ := h'
  rw [hview] at hacc' hview'
  exact ⟨es ++ es', by rw [hlog', hlog, List.append_assoc], accepts_append.mpr ⟨hacc, hacc'⟩,
    hview'.trans (replay_append ..).symm⟩

theorem Writes.mono {s s' : σ} (h : Writes R P s s') (hPQ : ∀ t e, P t e → Q t e) :
    Writes R Q s s' := by
  obtain ⟨es, hlog, hacc, hview⟩ := h
  exact ⟨es, hlog, hacc.mono hPQ, hview⟩

theorem Writes.ite {s s' s'' : σ} {b : Prop} [Decidable b] (h : b → Writes R P s s')
    (h' : ¬ b → Writes R P s s'') : Writes R P s (if b then s' else s'') := by
  split
  · exact h ‹_›
  · exact h' ‹_›

theorem Writes.run {α : Type*} {step : σ → α → σ} {s : σ} {l : List α}
    (hstep : ∀ s, ∀ a ∈ l, Writes R P s (step s a)) : Writes R P s (run step s l) := by
  induction l using List.reverseRecOn with
  | nil => exact Writes.refl s
  | append_singleton l a ih =>
    rw [run_concat]
    exact (ih fun s b hb => hstep s b (by simp [hb])).trans (hstep _ a (by simp))

/-! ## Counters in a journal

A counter that every entry of its kind moves to the successor, which the entry also carries. -/

structure Counts (R : Reader σ ε τ) (P : τ → ε → Prop) (succ : ν → ν) (get : τ → ν) (q : ε → Bool)
    (val : ε → ν) : Prop where
  written : ∀ t e, P t e → q e = true → val e = succ (get t)
  kept : ∀ t e, P t e → get (R.apply t e) = if q e then val e else get t

section Counts
variable {succ : ν → ν} {get : τ → ν} {q : ε → Bool} {val : ε → ν} {t : τ} {es : List ε}

theorem Counts.apply (h : Counts R P succ get q val) {e : ε} (he : P t e) :
    get (R.apply t e) = if q e then succ (get t) else get t := by
  rw [h.kept t e he]
  split
  · exact h.written t e he ‹_›
  · rfl

theorem Counts.get_replay (h : Counts R P succ get q val) (ha : Accepts R P t es) :
    get (replay R t es) = succ^[es.countP q] (get t) := by
  induction es generalizing t with
  | nil => rfl
  | cons e es ih =>
    rw [replay_cons, ih ha.2, h.apply ha.1]
    cases hq : q e with
    | false => simp [hq]
    | true =>
      rw [List.countP_cons_of_pos hq, Function.iterate_succ_apply]
      rfl

/-- **A journaled counter writes consecutive values.** -/
theorem Counts.values (h : Counts R P succ get q val) (ha : Accepts R P t es) :
    (es.filter q).map val = (List.range (es.countP q)).map fun i => succ^[i + 1] (get t) := by
  induction es using List.reverseRecOn with
  | nil => rfl
  | append_singleton es e ih =>
    obtain ⟨hes, he, -⟩ := accepts_append.mp ha
    rw [List.filter_append, List.map_append, ih hes, List.countP_append]
    cases hq : q e with
    | false => simp [hq]
    | true =>
      have hval := h.written _ e he hq
      rw [h.get_replay hes, ← Function.iterate_succ_apply' succ] at hval
      simp [hq, List.range_succ, hval]

/-- A copy that takes each value the counter writes stays equal to the counter. -/
theorem Counts.copy_replay (h : Counts R P succ get q val) (copy : τ → ν)
    (hcopy : ∀ t, ∀ e ∈ es, P t e → copy (R.apply t e) = if q e then val e else copy t)
    (ha : Accepts R P t es) (ht : copy t = get t) : copy (replay R t es) = get (replay R t es) := by
  induction es generalizing t with
  | nil => exact ht
  | cons e es ih =>
    refine ih (fun t x hx => hcopy t x (List.mem_cons_of_mem _ hx)) ha.2 ?_
    rw [hcopy t e List.mem_cons_self ha.1, h.kept t e ha.1, ht]

end Counts
end Journal
