import Mathlib.Data.Nat.Bitwise
import Mathlib.Data.Nat.ModEq
import Mathlib.Data.List.Count
import Mathlib.Tactic.NormNum

/-!
# Bitmaps over 64-bit words

A bitmap is a list of 64-bit words in which bit `n` lives at position `n % 64`
of word `n / 64`. The operations are the usual mask expressions; the lemmas
describe each of them by the set of positions `n` with `holds bitmap n`.
-/

namespace Kurdistan.Support.Bitmap

open List

variable (position : UInt64)

/-- The mask of a position inside its word. -/
def mask : UInt64 := 1 <<< (position % 64)

/-- The word which contains a position. -/
def wordOf : ℕ := (position / 64).toNat

variable (bitmap : List UInt64)

/-- `bitmap[position/64] & (1 << (position%64)) != 0`. -/
def test (position : UInt64) : Bool :=
  bitmap.getD (wordOf position) 0 &&& mask position != 0

/-- `bitmap[position/64] |= 1 << (position%64)`. -/
def set (position : UInt64) : List UInt64 :=
  bitmap.modify (wordOf position) (· ||| mask position)

/-- `bitmap[position/64] &^= 1 << (position%64)`. -/
def unset (position : UInt64) : List UInt64 :=
  bitmap.modify (wordOf position) (· &&& ~~~ mask position)

/-- Number of set bits of a word. -/
def onesCount64 (word : UInt64) : ℕ :=
  (range 64).countP fun n => word.toNat.testBit n

/-- Number of set bits of a bitmap. -/
def onesCount : ℕ :=
  (bitmap.map onesCount64).sum

/-- The bit at position `n` is set. -/
def holds (n : ℕ) : Bool :=
  (bitmap.getD (n / 64) 0).toNat.testBit (n % 64)

/-! ## Words -/

theorem toNat_mask : (mask position).toNat = 2 ^ (position.toNat % 64) := by
  have hlt : position.toNat % 64 < 64 := Nat.mod_lt _ (by norm_num)
  have hposition : (position % 64).toNat = position.toNat % 64 := by simp
  rw [mask, UInt64.toNat_shiftLeft, hposition, Nat.mod_eq_of_lt hlt,
    UInt64.toNat_one, Nat.shiftLeft_eq, one_mul]
  exact Nat.mod_eq_of_lt (Nat.pow_lt_pow_right (by norm_num) hlt)

theorem and_mask_ne_zero (word position : UInt64) :
    (word &&& mask position != 0) = word.toNat.testBit (position.toNat % 64) := by
  have hzero : word &&& mask position = 0 ↔ word.toNat.testBit (position.toNat % 64) = false := by
    rw [← UInt64.toNat_inj, UInt64.toNat_and, toNat_mask, Nat.and_two_pow]
    cases word.toNat.testBit (position.toNat % 64) <;> simp
  rcases hbit : word.toNat.testBit (position.toNat % 64) with _ | _
  · simp [hzero.mpr hbit]
  · have hne : word &&& mask position ≠ 0 := by
      intro h
      simp [hzero.mp h] at hbit
    simpa using hne

theorem testBit_or_mask (word position : UInt64) (k : ℕ) :
    (word ||| mask position).toNat.testBit k =
      (decide (position.toNat % 64 = k) || word.toNat.testBit k) := by
  rw [UInt64.toNat_or, Nat.testBit_or, toNat_mask, Nat.testBit_two_pow, Bool.or_comm]

theorem testBit_and_not_mask (word position : UInt64) {k : ℕ} (hk : k < 64) :
    (word &&& ~~~ mask position).toNat.testBit k =
      (!decide (position.toNat % 64 = k) && word.toNat.testBit k) := by
  rw [UInt64.toNat_and, Nat.testBit_and, Bool.and_comm]
  have hlt : position.toNat % 64 < 64 := Nat.mod_lt _ (by norm_num)
  have hpow : 2 ^ (position.toNat % 64) < 2 ^ 64 := Nat.pow_lt_pow_right (by norm_num) hlt
  rw [UInt64.toNat_not, toNat_mask, UInt64.size,
    show (18446744073709551616 : ℕ) = 2 ^ 64 by norm_num,
    Nat.sub_sub, Nat.add_comm 1, Nat.testBit_two_pow_sub_succ hpow,
    Nat.testBit_two_pow]
  simp [hk]

/-! ## Positions -/

theorem test_eq_holds (position : UInt64) : test bitmap position = holds bitmap position.toNat := by
  rw [test, and_mask_ne_zero]
  simp [holds, wordOf]

@[simp] theorem length_set (position : UInt64) : (set bitmap position).length = bitmap.length := by
  simp [set]

@[simp] theorem length_unset (position : UInt64) :
    (unset bitmap position).length = bitmap.length := by
  simp [unset]

@[simp] theorem holds_replicate_zero (words n : ℕ) : holds (replicate words 0) n = false := by
  simp [holds]

theorem getD_modify (change : UInt64 → UInt64) (i j : ℕ) (hi : i < bitmap.length) :
    (bitmap.modify i change).getD j 0 =
      if i = j then change (bitmap.getD j 0) else bitmap.getD j 0 := by
  by_cases hij : i = j
  · subst hij
    simp [hi]
  · simp [hij]

theorem holds_set {bitmap : List UInt64} {position : UInt64}
    (h : wordOf position < bitmap.length) (n : ℕ) :
    holds (set bitmap position) n = (decide (n = position.toNat) || holds bitmap n) := by
  have hword : wordOf position = position.toNat / 64 := by simp [wordOf]
  rw [holds, set, getD_modify _ _ _ _ h, hword]
  by_cases hsame : position.toNat / 64 = n / 64
  · rw [if_pos hsame, testBit_or_mask, holds]
    congr 2
    rw [eq_iff_iff]
    constructor <;> intro <;> omega
  · have hne : n ≠ position.toNat := by
      rintro rfl
      exact hsame rfl
    simp [hsame, hne, holds]

theorem holds_unset {bitmap : List UInt64} {position : UInt64}
    (h : wordOf position < bitmap.length) (n : ℕ) :
    holds (unset bitmap position) n = (!decide (n = position.toNat) && holds bitmap n) := by
  have hword : wordOf position = position.toNat / 64 := by simp [wordOf]
  rw [holds, unset, getD_modify _ _ _ _ h, hword]
  by_cases hsame : position.toNat / 64 = n / 64
  · rw [if_pos hsame, testBit_and_not_mask _ _ (Nat.mod_lt _ (by norm_num)), holds]
    congr 3
    rw [eq_iff_iff]
    constructor <;> intro <;> omega
  · have hne : n ≠ position.toNat := by
      rintro rfl
      exact hsame rfl
    simp [hsame, hne, holds]

/-- The population count is the number of positions that hold. -/
theorem onesCount_eq_countP :
    onesCount bitmap = (range (64 * bitmap.length)).countP (holds bitmap) := by
  induction bitmap with
  | nil => simp [onesCount]
  | cons word bitmap ih =>
    have hlength : 64 * (word :: bitmap).length = 64 + 64 * bitmap.length := by
      simp only [length_cons]
      omega
    have hfirst : (range 64).countP (holds (word :: bitmap)) = onesCount64 word := by
      refine countP_congr fun n hn => ?_
      have hn64 : n < 64 := mem_range.mp hn
      simp [holds, Nat.div_eq_of_lt hn64, Nat.mod_eq_of_lt hn64]
    have hrest : ∀ n, holds (word :: bitmap) (64 + n) = holds bitmap n := by
      intro n
      have hdiv : (64 + n) / 64 = n / 64 + 1 := by omega
      have hmod : (64 + n) % 64 = n % 64 := by omega
      simp [holds]
    rw [hlength, range_add, countP_append, countP_map, hfirst,
      onesCount, map_cons, sum_cons, ← onesCount, ih]
    congr 1
    exact (countP_congr fun n _ => by simp [hrest]).symm

/-! ## Residues in a window -/

/-- Inside a window of length `w`, a number is determined by its residue. -/
theorem eq_of_mod_eq_in_window {low w a b : ℕ}
    (ha : low ≤ a) (ha' : a < low + w) (hb : low ≤ b) (hb' : b < low + w)
    (h : a % w = b % w) : a = b := by
  refine Nat.ModEq.eq_of_abs_lt h ?_
  rw [abs_lt]
  omega

end Kurdistan.Support.Bitmap
