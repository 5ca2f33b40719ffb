import Mathlib.Data.List.Sigma
import Mathlib.Data.List.Induction
import Mathlib.Data.Int.Notation

/-! # Registers that keep the last matching value

A loader walks a list of entries and lets every matching one overwrite a register. The register
then holds the value of the last match. When the entries come from a keyed store, with one entry a
key, the last match is the only one, and it is the store's own lookup. -/
namespace LastWrite
set_option autoImplicit false

variable {σ ε κ ν : Type*}

/-- A register read through `get` that takes `v e` at each entry with `q e` and else stays. -/
theorem foldl_last (step : σ → ε → σ) (get : σ → ν) (q : ε → Bool) (v : ε → ν)
    (h : ∀ s e, get (step s e) = if q e then v e else get s) (l : List ε) (s : σ) :
    get (l.foldl step s) = ((l.filter q).map v).getLastD (get s) := by
  induction l using List.reverseRecOn with
  | nil => rfl
  | append_singleton l e ih =>
    rw [List.foldl_append, List.foldl_cons, List.foldl_nil, h, List.filter_append, List.map_append]
    by_cases hq : q e = true
    · rw [if_pos hq, List.filter_cons_of_pos hq, List.filter_nil, List.map_singleton,
        List.getLastD_concat]
    · rw [if_neg hq, List.filter_cons_of_neg hq, List.filter_nil, List.map_nil, List.append_nil, ih]

/-- A walk over entries that stops after the first one whose callback answers nonzero. -/
def walk (cb : σ → ε → ℤ × σ) : σ → List ε → σ
  | s, [] => s
  | s, e :: l => if (cb s e).1 = 0 then walk cb (cb s e).2 l else (cb s e).2

theorem walk_eq_foldl {cb : σ → ε → ℤ × σ} (h : ∀ s e, (cb s e).1 = 0) (s : σ) (l : List ε) :
    walk cb s l = l.foldl (fun s e => (cb s e).2) s := by
  induction l generalizing s with
  | nil => rfl
  | cons e l ih => rw [walk, if_pos (h s e), ih, List.foldl_cons]

theorem filter_key [DecidableEq κ] (k : κ) (l : List (Sigma fun _ : κ => ν)) (hl : l.NodupKeys) :
    l.filter (fun e => decide (e.1 = k)) = ((l.dlookup k).map fun x => ⟨k, x⟩).toList := by
  induction l with
  | nil => rfl
  | cons e l ih =>
    obtain ⟨k', x⟩ := e
    have hl' := List.nodupKeys_cons.mp hl
    by_cases hk : k' = k
    · subst hk
      have hnone : l.dlookup k' = none := List.dlookup_eq_none.mpr hl'.1
      have htail := ih hl'.2
      rw [hnone] at htail
      rw [List.filter_cons_of_pos (by simp), htail, List.dlookup_cons_eq]
      rfl
    · rw [List.filter_cons_of_neg (by simpa using hk), ih hl'.2,
        List.dlookup_cons_ne _ _ (fun h => hk h.symm)]

end LastWrite
