import TinyEnvSensor.Diagnostics.Ledger

/-! # Boots whose load fails

`DiagOnBoot` ignores the result of the load, so a counter whose entry did not come through starts
from zero, and the next successful save of it replaces what was stored. The stored value goes down
unless the events of the boot have caught up with it by then. -/
namespace TinyEnvSensor
open History SavedCounter
set_option autoImplicit false

/-- A run starts with a boot. -/
def StartsWithBoot (l : List (DiagOp × World)) : Prop := ∀ op ∈ l.head?, op.1.isBoot = true

/-- No counter wraps: what a boot loads and its events so far fit 32 bits. -/
def NoWrap (cfg : Config) (store : Settings) (l : List (DiagOp × World)) : Prop :=
  ∀ pre causes w evs post f, l = pre ++ (.boot causes, w) :: evs ++ post →
    (∀ e ∈ evs, e.1.isBoot = false) → f.isCounter = true →
    (loadDiag w (run (diagStep cfg) (freshDevice store) pre).settings f).toNat +
      eventsOf f ((.boot causes, w) :: evs) < 2 ^ 32

def NeverDecreases (cfg : Config) (store : Settings) (l : List (DiagOp × World)) : Prop :=
  ∀ pre op post, l = pre ++ op :: post → ∀ f, f.isCounter = true →
    storedValue (run (diagStep cfg) (freshDevice store) pre).settings f ≤
      storedValue (run (diagStep cfg) (freshDevice store) (pre ++ [op])).settings f

/-- The row of operations ends in an event of the counter whose save succeeds. -/
def EndsInSave (f : DiagField) (ops : List (DiagOp × World)) : Prop :=
  ∃ before op, ops = before ++ [op] ∧ op.1.counts f = true ∧ saveSucceeds op.2 f = true

/-- Whenever a counter that its boot failed to load is saved, the boot has seen at least as many
events of it as were stored when the boot began. -/
def SavesCatchUp (cfg : Config) (store : Settings) (l : List (DiagOp × World)) : Prop :=
  ∀ pre causes w evs post f, l = pre ++ (.boot causes, w) :: evs ++ post →
    (∀ e ∈ evs, e.1.isBoot = false) → f.isCounter = true → loadsField w f = false →
    EndsInSave f ((.boot causes, w) :: evs) →
    (storedValue (run (diagStep cfg) (freshDevice store) pre).settings f).toNat ≤
      eventsOf f ((.boot causes, w) :: evs)

/-! ## The boot an operation belongs to -/

theorem exists_last_boot {l : List (DiagOp × World)} (hl : StartsWithBoot l) (hne : l ≠ []) :
    ∃ pre causes w evs, l = pre ++ (.boot causes, w) :: evs ∧ ∀ e ∈ evs, e.1.isBoot = false := by
  induction l using List.reverseRecOn with
  | nil => exact absurd rfl hne
  | append_singleton l op ih =>
    obtain ⟨op, w⟩ := op
    cases hop : op.isBoot with
    | true =>
      cases op with
      | boot causes => exact ⟨l, causes, w, [], rfl, by simp⟩
      | _ => cases hop
    | false =>
      cases l with
      | nil =>
        have hboot := hl (op, w) (by simp)
        rw [hop] at hboot
        cases hboot
      | cons a l =>
        obtain ⟨pre, causes, w', evs, heq, hevs⟩ := ih (fun x hx => hl x (by simpa using hx))
          (by simp)
        refine ⟨pre, causes, w', evs ++ [(op, w)], by rw [heq]; simp, fun e he => ?_⟩
        obtain he | he := List.mem_append.mp he
        · exact hevs e he
        · rw [List.mem_singleton.mp he]
          exact hop

theorem exists_boot_of_op {l pre post : List (DiagOp × World)} {op : DiagOp × World}
    (hl : StartsWithBoot l) (hsplit : l = pre ++ op :: post) :
    ∃ pre' causes w evs before, pre = pre' ++ before ∧
      (.boot causes, w) :: evs = before ++ [op] ∧ (∀ e ∈ evs, e.1.isBoot = false) ∧
      l = pre' ++ (.boot causes, w) :: evs ++ post := by
  have hstart : StartsWithBoot (pre ++ [op]) := by
    intro x hx
    apply hl x
    rw [hsplit]
    cases pre <;> simpa using hx
  obtain ⟨pre', causes, w, evs, heq, hevs⟩ := exists_last_boot hstart (by simp)
  obtain hnil | ⟨before, x, hlast⟩ := List.eq_nil_or_concat ((.boot causes, w) :: evs)
  · cases hnil
  · rw [List.concat_eq_append] at hlast
    have hpre : pre ++ [op] = (pre' ++ before) ++ [x] := by rw [heq, hlast, List.append_assoc]
    obtain ⟨rfl, hx⟩ := List.append_inj' hpre rfl
    obtain rfl := List.singleton_inj.mp hx
    refine ⟨pre', causes, w, evs, before, rfl, hlast, hevs, ?_⟩
    rw [hsplit, ← heq]
    simp

/-! ## When the stored values never go down -/

theorem NeverDecreases.stretch {cfg : Config} {store : Settings}
    {pre m post : List (DiagOp × World)} {f : DiagField}
    (h : NeverDecreases cfg store (pre ++ m ++ post)) (hf : f.isCounter = true) :
    storedValue (run (diagStep cfg) (freshDevice store) pre).settings f ≤
      storedValue (run (diagStep cfg) (freshDevice store) (pre ++ m)).settings f := by
  induction m using List.reverseRecOn generalizing post with
  | nil =>
    rw [List.append_nil]
    exact UInt32.le_refl _
  | append_singleton m op ih =>
    have hrest : pre ++ (m ++ [op]) ++ post = pre ++ m ++ op :: post := by simp
    rw [hrest] at h
    have hstep := h (pre ++ m) op post rfl f hf
    rw [List.append_assoc] at hstep
    exact UInt32.le_trans (ih h) hstep

/-- **When a failed load destroys no history.** In a run in which no counter wraps, no stored
counter ever decreases iff every save of a counter that its boot failed to load comes when the
events of that boot have caught up with the value stored before it. -/
theorem stored_never_decreases_iff (cfg : Config) (store : Settings) (l : List (DiagOp × World))
    (hdiag : cfg.diagnosticMode = true) (hstart : StartsWithBoot l) (hwrap : NoWrap cfg store l) :
    NeverDecreases cfg store l ↔ SavesCatchUp cfg store l := by
  constructor
  · rintro hdec pre causes w evs post f hl hevs hf hlost ⟨before, op, hsplit, hcounts, hok⟩
    have hbound := hwrap pre causes w evs post f hl hevs hf
    have hnow := stored_run hdiag hf hevs hbound ((.boot causes, w) :: evs) [] (by simp)
    -- the lost counter starts from zero, so its save stores the events of the boot
    have hzero : (bootCell w (run (diagStep cfg) (freshDevice store) pre) f).ram = 0 := by
      simp [bootCell, loadDiag_apply, hlost]
    rw [hsplit, savesOf_concat, if_pos hcounts, hok, stored_bump_true, hzero, length_savesOf,
      Nat.zero_add] at hnow
    have hone : eventsOf f [op] = 1 := by simp [eventsOf, hcounts]
    rw [hsplit] at hl ⊢
    rw [eventsOf_append, hone, ← hnow]
    rw [hl] at hdec
    exact UInt32.le_iff_toNat_le.mp (hdec.stretch hf)
  · intro hcatch pre op post hsplit f hf
    obtain ⟨pre', causes, w, evs, before, rfl, hboot, hevs, hl⟩ := exists_boot_of_op hstart hsplit
    have hbound := hwrap pre' causes w evs post f hl hevs hf
    have hlast := stored_run hdiag hf hevs hbound before [op] hboot
    have hnow := stored_run hdiag hf hevs hbound (before ++ [op]) []
      (by rw [hboot, List.append_nil])
    rw [← List.append_assoc] at hnow
    rw [UInt32.le_iff_toNat_le, hlast, hnow, savesOf_concat]
    split
    · rename_i hcounts
      apply stored_le_bump
      intro hok
      cases hload : loadsField w f with
      | true =>
        have hsame := bootCell_of_loads (d := run (diagStep cfg) (freshDevice store) pre') hload
        omega
      | false =>
        have hcaught := hcatch pre' causes w evs post f hl hevs hf hload
          ⟨before, op, hboot, hcounts, hok⟩
        have hone : eventsOf f [op] = 1 := by simp [eventsOf, hcounts]
        have hstored : (bootCell w (run (diagStep cfg) (freshDevice store) pre') f).stored =
            (storedValue (run (diagStep cfg) (freshDevice store) pre').settings f).toNat := rfl
        rw [hboot, eventsOf_append, hone] at hcaught
        rw [hstored, length_savesOf]
        omega
    · exact le_rfl

/-! ## One boot whose load fails -/

section OneBoot
variable {cfg : Config} {store : Settings} {a : DiagOp × World} {causes : UInt32} {w : World}
  {rest pre evs post : List (DiagOp × World)}

theorem split_one_boot (hrest : ∀ e ∈ rest, e.1.isBoot = false)
    (h : a :: rest = pre ++ (.boot causes, w) :: evs ++ post) :
    pre = [] ∧ (.boot causes, w) = a ∧ rest = evs ++ post := by
  cases pre with
  | nil =>
    obtain ⟨ha, hevs⟩ := List.cons.inj h
    exact ⟨rfl, ha.symm, hevs⟩
  | cons b pre =>
    obtain ⟨-, hevs⟩ := List.cons.inj h
    have hboot := hrest (.boot causes, w) (by rw [hevs]; simp)
    cases hboot

theorem noWrap_one_boot (hrest : ∀ e ∈ rest, e.1.isBoot = false)
    (h : ∀ f, (loadDiag w store f).toNat + (rest.length + 1) < 2 ^ 32) :
    NoWrap cfg store ((.boot causes, w) :: rest) := by
  intro pre causes' w' evs post f hsplit _ _
  obtain ⟨rfl, hop, hevs⟩ := split_one_boot hrest hsplit
  obtain ⟨-, rfl⟩ := Prod.mk.inj hop
  have hevents : eventsOf f ((.boot causes', w') :: evs) ≤ rest.length + 1 := by
    refine List.countP_le_length.trans ?_
    rw [hevs, List.length_cons, List.length_append]
    omega
  exact lt_of_le_of_lt (Nat.add_le_add_left hevents _) (h f)

end OneBoot

def failedLoad : World := { settingsDelivers := fun _ => false }

def twoDetachments : List (DiagOp × World) :=
  [(.threadDetached, { settingsSaveOne := fun _ => -5 }), (.threadDetached, {})]

def detachedTwice : Settings := AList.singleton (diagKey .threadDetachCount) ⟨4, 2⟩

theorem caught_up_after_failed_load :
    NeverDecreases diagConfig detachedTwice ((.boot 0, failedLoad) :: twoDetachments) := by
  have hevents : ∀ e ∈ twoDetachments, e.1.isBoot = false := by decide
  refine (stored_never_decreases_iff diagConfig detachedTwice _ rfl
    (by simp [StartsWithBoot, DiagOp.isBoot]) (noWrap_one_boot hevents fun f => ?_)).mpr ?_
  · cases f <;> decide +kernel
  · rintro pre causes w evs post f hsplit - hf - ⟨before, op, hends, hcounts, hok⟩
    obtain ⟨rfl, -, hevs⟩ := split_one_boot hevents hsplit
    have hop : ((DiagOp.boot causes, w) :: evs).getLast? = some op := by
      rw [hends, List.getLast?_concat]
    change (storedValue detachedTwice f).toNat ≤ _
    by_cases hdetach : f = .threadDetachCount
    · subst hdetach
      unfold twoDetachments at hevs
      -- the boot counts no detachment, and the save of the first one fails
      obtain _ | ⟨x, _ | ⟨y, evs⟩⟩ := evs
      · obtain rfl := Option.some.inj hop
        cases hcounts
      · obtain ⟨rfl, -⟩ := List.cons.inj hevs
        obtain rfl := Option.some.inj hop
        cases hok
      · obtain ⟨rfl, hrest⟩ := List.cons.inj hevs
        obtain ⟨rfl, -⟩ := List.cons.inj hrest
        have hstored : (storedValue detachedTwice .threadDetachCount).toNat = 2 := by
          decide +kernel
        rw [hstored]
        simp [eventsOf, DiagOp.counts]
    · have hnone : (storedValue detachedTwice f).toNat = 0 := by
        cases f <;> first | exact absurd rfl hdetach | decide +kernel
      rw [hnone]
      exact Nat.zero_le _

def sevenBoots : Settings := AList.singleton (diagKey .bootCount) ⟨4, 7⟩

theorem failed_load_destroys_history :
    StartsWithBoot [(.boot 0, failedLoad)] ∧
      NoWrap diagConfig sevenBoots [(.boot 0, failedLoad)] ∧
      ¬ NeverDecreases diagConfig sevenBoots [(.boot 0, failedLoad)] := by
  refine ⟨by simp [StartsWithBoot, DiagOp.isBoot], noWrap_one_boot (by simp) fun f => ?_,
    fun h => ?_⟩
  · cases f <;> decide +kernel
  · have hle := h [] (.boot 0, failedLoad) [] rfl .bootCount rfl
    revert hle
    decide +kernel

end TinyEnvSensor
