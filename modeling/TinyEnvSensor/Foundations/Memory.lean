import Mathlib.Algebra.Group.Nat.Defs
import Mathlib.Order.Nat
import Mathlib.Tactic.Common

/-! # Memory behind a pointer

What a pointer reaches: a value at each offset, past the end of its buffer too, so that a write out
of bounds shows. On it stand terminated strings, the print function that cuts its text to the
buffer, and words laid out byte by byte. -/
namespace Memory
set_option autoImplicit false

variable {α : Type*}

def read (mem : ℕ → α) (a n : ℕ) : List α := (List.range n).map fun i => mem (a + i)

def write (mem : ℕ → α) (a : ℕ) (l : List α) : ℕ → α := fun i =>
  if a ≤ i then (l[i - a]?).getD (mem i) else mem i

/-! ## Reading and writing -/

section Access
variable {mem mem' : ℕ → α} {l : List α} {a b i j k m n : ℕ}

theorem length_read : (read mem a n).length = n := by
  rw [read, List.length_map, List.length_range]

theorem getElem?_read (hj : j < n) : (read mem a n)[j]? = some (mem (a + j)) := by
  rw [read, List.getElem?_map, List.getElem?_range hj, Option.map_some]

theorem read_congr (h : ∀ j < n, mem (a + j) = mem' (a + j)) : read mem a n = read mem' a n :=
  List.map_congr_left fun j hj => h j (List.mem_range.mp hj)

theorem read_add (mem : ℕ → α) (a m n : ℕ) :
    read mem a (m + n) = read mem a m ++ read mem (a + m) n := by
  rw [read, List.range_add, List.map_append, List.map_map, read, read]
  congr 1
  exact List.map_congr_left fun i _ => congrArg mem (Nat.add_assoc a m i).symm

/-- What is inside a stretch of memory can be read off the stretch. -/
theorem read_inside (h : k + m ≤ n) (mem : ℕ → α) (a : ℕ) :
    read mem (a + k) m = ((read mem a n).drop k).take m := by
  obtain ⟨r, rfl⟩ := Nat.exists_eq_add_of_le h
  rw [read_add, read_add, List.append_assoc, List.drop_left' length_read,
    List.take_left' length_read]

/-- Memories that agree word by word agree on the whole row of words. -/
theorem read_words {width : ℕ}
    (h : ∀ k < n, read mem (a + width * k) width = read mem' (a + width * k) width) :
    read mem a (width * n) = read mem' a (width * n) := by
  induction n with
  | zero => rfl
  | succ n ih =>
    rw [Nat.mul_succ, read_add, read_add, ih fun k hk => h k (Nat.lt_succ_of_lt hk),
      h n (Nat.lt_succ_self n)]

theorem write_before (h : i < a) : write mem a l i = mem i := if_neg (not_le.mpr h)

theorem write_after (h : a + l.length ≤ i) : write mem a l i = mem i := by
  rw [write, if_pos (le_trans (Nat.le_add_right a l.length) h),
    List.getElem?_eq_none (Nat.le_sub_of_add_le' h), Option.getD_none]

theorem write_at (h : j < l.length) : write mem a l (a + j) = l[j] := by
  rw [write, if_pos (Nat.le_add_right a j), Nat.add_sub_cancel_left, List.getElem?_eq_getElem h,
    Option.getD_some]

theorem read_write : read (write mem a l) a l.length = l := by
  apply List.ext_getElem length_read
  intro j hj hj'
  rw [← Option.some_inj, ← List.getElem?_eq_getElem, getElem?_read hj', write_at hj']

end Access

/-! ## Terminated strings -/

section Strings
variable {nul : α} {mem : ℕ → α} {s t : List α}

/-- The memory starts with `s` and its terminator, which does not occur in `s`. -/
def IsCString (nul : α) (mem : ℕ → α) (s : List α) : Prop :=
  read mem 0 (s.length + 1) = s ++ [nul] ∧ nul ∉ s

theorem IsCString.at_length (h : IsCString nul mem s) : mem s.length = nul := by
  have hlast := congrArg (fun l => l[s.length]?) h.1
  rw [getElem?_read (Nat.lt_succ_self _), Nat.zero_add, List.getElem?_concat_length] at hlast
  exact Option.some.inj hlast

theorem IsCString.ne_nul {i : ℕ} (h : IsCString nul mem s) (hi : i < s.length) : mem i ≠ nul := by
  have hat := congrArg (fun l => l[i]?) h.1
  rw [getElem?_read (Nat.lt_succ_of_lt hi), Nat.zero_add, List.getElem?_append_left hi,
    List.getElem?_eq_getElem hi] at hat
  rw [Option.some.inj hat]
  exact fun hnul => h.2 (hnul ▸ List.getElem_mem hi)

theorem IsCString.unique (hs : IsCString nul mem s) (ht : IsCString nul mem t) : s = t := by
  have hlength : s.length = t.length := by
    obtain hlt | heq | hgt := lt_trichotomy s.length t.length
    · exact absurd hs.at_length (ht.ne_nul hlt)
    · exact heq
    · exact absurd ht.at_length (hs.ne_nul hgt)
  have hsame : s ++ [nul] = t ++ [nul] := by rw [← hs.1, ← ht.1, hlength]
  exact List.append_cancel_right hsame

theorem isCString_write (h : nul ∉ s) : IsCString nul (write mem 0 (s ++ [nul])) s := by
  refine ⟨?_, h⟩
  have hread : read (write mem 0 (s ++ [nul])) 0 (s ++ [nul]).length = s ++ [nul] := read_write
  rwa [List.length_append, List.length_singleton] at hread

/-- `snprintf` with the formatted text: the length the text needs, and the memory with as much of
it as fits before the terminator. -/
def snprintf (nul : α) (mem : ℕ → α) (size : ℕ) (text : List α) : ℤ × (ℕ → α) :=
  (text.length, if size = 0 then mem else write mem 0 (text.take (size - 1) ++ [nul]))

theorem snprintf_frame {size i : ℕ} (h : size ≤ i) (text : List α) :
    (snprintf nul mem size text).2 i = mem i := by
  unfold snprintf
  dsimp only
  split
  · rfl
  · refine write_after ?_
    have htake : (text.take (size - 1)).length ≤ size - 1 := List.length_take_le _ _
    rw [List.length_append, List.length_singleton]
    omega

theorem isCString_snprintf {size : ℕ} {text : List α} (hsize : 0 < size) (h : nul ∉ text) :
    IsCString nul (snprintf nul mem size text).2 (text.take (size - 1)) := by
  unfold snprintf
  dsimp only
  rw [if_neg (Nat.ne_of_gt hsize)]
  exact isCString_write fun hmem => h (List.mem_of_mem_take hmem)

end Strings

/-! ## Words, lowest byte first -/

def leBytes : ℕ → ℕ → List UInt8
  | 0, _ => []
  | width + 1, n => UInt8.ofNat (n % 256) :: leBytes width (n / 256)

def leValue (l : List UInt8) : ℕ := l.foldr (fun b acc => b.toNat + 256 * acc) 0

theorem length_leBytes (width n : ℕ) : (leBytes width n).length = width := by
  induction width generalizing n with
  | zero => rfl
  | succ width ih => rw [leBytes, List.length_cons, ih]

theorem leValue_leBytes (width n : ℕ) : leValue (leBytes width n) = n % 256 ^ width := by
  induction width generalizing n with
  | zero => rw [pow_zero, Nat.mod_one]; rfl
  | succ width ih =>
    have hbyte : (UInt8.ofNat (n % 256)).toNat = n % 256 := by
      rw [UInt8.toNat_ofNat', Nat.mod_mod]
    calc leValue (leBytes (width + 1) n)
      _ = (UInt8.ofNat (n % 256)).toNat + 256 * leValue (leBytes width (n / 256)) := rfl
      _ = n % 256 + 256 * (n / 256 % 256 ^ width) := by rw [hbyte, ih]
      _ = n % 256 ^ (width + 1) := by rw [pow_succ', Nat.mod_mul]

/-- Rows of bytes of one length with one value are equal. -/
theorem leValue_injective {l l' : List UInt8} (hlength : l.length = l'.length)
    (h : leValue l = leValue l') : l = l' := by
  induction l generalizing l' with
  | nil => exact (List.length_eq_zero_iff.mp hlength.symm).symm
  | cons b l ih =>
    obtain - | ⟨b', l'⟩ := l'
    · exact absurd hlength (by simp)
    · have hsum : b.toNat + 256 * leValue l = b'.toNat + 256 * leValue l' := h
      have hb := b.toNat_lt
      have hb' := b'.toNat_lt
      have hfirst : b = b' := UInt8.toNat_inj.mp (by omega)
      rw [hfirst, ih (Nat.succ.inj hlength) (by omega)]

end Memory
