import Mathlib.Algebra.Group.Nat.Defs
import Mathlib.Order.MinMax
import Mathlib.Tactic.Common

/-! # Upper-case hexadecimal

The digits of a number as `%lX` prints them, padded with zeros on the left, and the decoder that
reads any row of such digits. Padding does not change what is decoded. -/
namespace Hex
set_option autoImplicit false

def alphabet : List Char := "0123456789ABCDEF".toList

def digitValue (c : Char) : Option ℕ := alphabet.idxOf? c

def upper (n : ℕ) : List Char := (Nat.toDigits 16 n).map Char.toUpper

def padded (width n : ℕ) : List Char := (upper n).leftpad width '0'

/-- Read one more digit after the value `acc`. -/
def push (acc : ℕ) (c : Char) : Option ℕ := (digitValue c).map (16 * acc + ·)

def decode (l : List Char) : Option ℕ := l.foldlM push 0

theorem digitValue_digitChar {d : ℕ} (h : d < 16) :
    digitValue (Nat.digitChar d).toUpper = some d := by
  revert d
  decide

theorem digitChar_mem_alphabet {d : ℕ} (h : d < 16) : (Nat.digitChar d).toUpper ∈ alphabet := by
  revert d
  decide

theorem upper_of_lt {n : ℕ} (h : n < 16) : upper n = [(Nat.digitChar n).toUpper] := by
  rw [upper, Nat.toDigits_of_lt_base h, List.map_singleton]

theorem upper_of_le {n : ℕ} (h : 16 ≤ n) :
    upper n = upper (n / 16) ++ [(Nat.digitChar (n % 16)).toUpper] := by
  rw [upper, Nat.toDigits_of_base_le (by decide) h, List.map_append, List.map_singleton, upper]

theorem decode_concat (l : List Char) (c : Char) :
    decode (l ++ [c]) = (decode l).bind fun acc => push acc c := by
  simp [decode, List.foldlM_append]

theorem decode_upper (n : ℕ) : decode (upper n) = some n := by
  induction n using Nat.strongRecOn with
  | ind n ih =>
    by_cases h : n < 16
    · rw [upper_of_lt h]
      simp [decode, push, digitValue_digitChar h]
    · have hdigit := digitValue_digitChar (Nat.mod_lt n (by decide : 0 < 16))
      rw [upper_of_le (not_lt.mp h), decode_concat, ih (n / 16) (by omega), Option.bind_some, push,
        hdigit, Option.map_some, Nat.div_add_mod]

/-- Zeros on the left do not count. -/
theorem decode_zeros (k : ℕ) (l : List Char) : decode (List.replicate k '0' ++ l) = decode l := by
  induction k with
  | zero => rfl
  | succ k ih =>
    have hzero : push 0 '0' = some 0 := by decide
    rw [← ih]
    simp [decode, List.replicate_succ, hzero]

theorem decode_padded (width n : ℕ) : decode (padded width n) = some n := by
  rw [padded, List.leftpad, decode_zeros, decode_upper]

theorem length_padded {width n : ℕ} (hwidth : 0 < width) (hn : n < 16 ^ width) :
    (padded width n).length = width := by
  have hlen : (upper n).length ≤ width := by
    rw [upper, List.length_map]
    exact (Nat.length_toDigits_le_iff (by decide) hwidth).mpr hn
  rw [padded, List.length_leftpad, max_eq_left hlen]

theorem mem_upper (n : ℕ) : ∀ c ∈ upper n, c ∈ alphabet := by
  induction n using Nat.strongRecOn with
  | ind n ih =>
    intro c hc
    by_cases h : n < 16
    · rw [upper_of_lt h, List.mem_singleton] at hc
      rw [hc]
      exact digitChar_mem_alphabet h
    · rw [upper_of_le (not_lt.mp h)] at hc
      obtain hc | hc := List.mem_append.mp hc
      · exact ih (n / 16) (by omega) c hc
      · rw [List.mem_singleton.mp hc]
        exact digitChar_mem_alphabet (Nat.mod_lt n (by decide))

theorem mem_padded (width n : ℕ) : ∀ c ∈ padded width n, c ∈ alphabet := by
  intro c hc
  rw [padded, List.leftpad] at hc
  obtain hc | hc := List.mem_append.mp hc
  · rw [List.eq_of_mem_replicate hc]
    decide
  · exact mem_upper n c hc

theorem padded_injective (width : ℕ) : Function.Injective (padded width) := by
  intro m n h
  have hdecode := congrArg decode h
  rw [decode_padded, decode_padded] at hdecode
  exact Option.some.inj hdecode

end Hex
