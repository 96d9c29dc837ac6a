import Kurdistan.Support.Bytes

/-!
# Unsigned variable-length integers

The little-endian base-128 encoding of `encoding/binary`: every byte but the
last has its high bit set. A `uint64` takes at most ten bytes, which bounds
the recursion of the writer and of the reader.
-/

namespace Kurdistan.Support

open List

/-- `binary.MaxVarintLen64`. -/
def maxVarintLen64 : ℕ := 10

/-- Write `value` with at most `fuel` bytes. -/
def putUvarintFuel : ℕ → ℕ → List UInt8
  | 0, _ => []
  | fuel + 1, value =>
    if value < 128 then [UInt8.ofNat value]
    else UInt8.ofNat (value % 128 + 128) :: putUvarintFuel fuel (value / 128)

variable (value : UInt64)

/-- The bytes written by `binary.PutUvarint`. -/
def putUvarint : List UInt8 :=
  putUvarintFuel maxVarintLen64 value.toNat

/-- The loop of `binary.Uvarint` from byte number `index` on. The seven bits of
each byte land above those read before, so `|=` is addition. The result is the
value and the number of bytes read; `none` stands for every non-positive byte
count, that is for a short buffer and for overflow of 64 bits. -/
def uvarintFrom (index acc : ℕ) : List UInt8 → Option (ℕ × ℕ)
  | [] => none
  | byte :: rest =>
    if index = maxVarintLen64 then none
    else if byte.toNat < 128 then
      if index = maxVarintLen64 - 1 ∧ 1 < byte.toNat then none
      else some (acc + byte.toNat * 128 ^ index, index + 1)
    else uvarintFrom (index + 1) (acc + (byte.toNat % 128) * 128 ^ index) rest

/-- `binary.Uvarint`. -/
def uvarint (bytes : List UInt8) : Option (ℕ × ℕ) := uvarintFrom 0 0 bytes

/-- Count the bytes `putUvarintFuel` needs, on top of `n`. -/
def uvarintSizeFuel : ℕ → ℕ → ℕ → ℕ
  | 0, n, _ => n
  | fuel + 1, n, value =>
    if 128 ≤ value then uvarintSizeFuel fuel (n + 1) (value / 128) else n

/-- The number of bytes of an encoded value, counted without writing it. -/
def uvarintSize : ℕ :=
  uvarintSizeFuel maxVarintLen64 1 value.toNat

/-! ## Size -/

theorem div_lt_pow {value n : ℕ} (h : value < 128 ^ (n + 1)) : value / 128 < 128 ^ n := by
  rw [Nat.div_lt_iff_lt_mul (by norm_num), ← pow_succ]
  exact h

theorem uvarintSizeFuel_eq {fuel value : ℕ} (n : ℕ) (hvalue : value < 128 ^ (fuel + 1)) :
    uvarintSizeFuel (fuel + 1) (n + 1) value = n + (putUvarintFuel (fuel + 1) value).length := by
  induction fuel generalizing n value with
  | zero =>
    have hsmall : value < 128 := by simpa using hvalue
    simp [uvarintSizeFuel, putUvarintFuel, hsmall]
  | succ fuel ih =>
    by_cases hsmall : value < 128
    · simp [uvarintSizeFuel, putUvarintFuel, hsmall]
    · rw [uvarintSizeFuel, putUvarintFuel, if_pos (Nat.not_lt.mp hsmall),
        if_neg hsmall, ih (n + 1) (div_lt_pow hvalue), length_cons]
      omega

theorem toNat_lt_uvarint : value.toNat < 128 ^ maxVarintLen64 := by
  have h := value.toNat_lt
  simp only [maxVarintLen64]
  omega

theorem uvarintSize_eq_length : uvarintSize value = (putUvarint value).length := by
  have h := uvarintSizeFuel_eq 0 (toNat_lt_uvarint value)
  simpa [uvarintSize, putUvarint, maxVarintLen64] using h

theorem length_putUvarintFuel_le {fuel value n : ℕ} (hvalue : value < 128 ^ (n + 1)) :
    (putUvarintFuel fuel value).length ≤ n + 1 := by
  induction fuel generalizing n value with
  | zero => simp [putUvarintFuel]
  | succ fuel ih =>
    by_cases hsmall : value < 128
    · simp [putUvarintFuel, hsmall]
    · cases n with
      | zero => exact absurd (by simpa using hvalue) hsmall
      | succ n =>
        rw [putUvarintFuel, if_neg hsmall, length_cons]
        exact Nat.succ_le_succ (ih (div_lt_pow hvalue))

/-- Smaller numbers take fewer bytes: `n + 1` bytes hold `7 * (n + 1)` bits. -/
theorem length_putUvarint_le {value : UInt64} {n : ℕ} (hvalue : value.toNat < 128 ^ (n + 1)) :
    (putUvarint value).length ≤ n + 1 :=
  length_putUvarintFuel_le hvalue

theorem length_putUvarint_pos : 0 < (putUvarint value).length := by
  rw [putUvarint, maxVarintLen64, putUvarintFuel]
  split <;> simp

theorem uvarintSizeFuel_mono {fuel n a b : ℕ} (h : a ≤ b) :
    uvarintSizeFuel fuel n a ≤ uvarintSizeFuel fuel n b := by
  have hgrow : ∀ fuel n value, n ≤ uvarintSizeFuel fuel n value := by
    intro fuel
    induction fuel with
    | zero => simp [uvarintSizeFuel]
    | succ fuel ih =>
      intro n value
      rw [uvarintSizeFuel]
      split
      · exact (Nat.le_succ n).trans (ih _ _)
      · exact le_rfl
  induction fuel generalizing n a b with
  | zero => simp [uvarintSizeFuel]
  | succ fuel ih =>
    simp only [uvarintSizeFuel]
    by_cases ha : 128 ≤ a
    · rw [if_pos ha, if_pos (ha.trans h)]
      exact ih (Nat.div_le_div_right h)
    · rw [if_neg ha]
      split
      · exact (Nat.le_succ n).trans (hgrow _ _ _)
      · exact le_rfl

/-! ## Round trip -/

/-- Reading resumes correctly at any byte of an encoding. -/
theorem uvarintFrom_putUvarintFuel {fuel value index : ℕ} (acc : ℕ)
    (tail : List UInt8) (hfuel : index + (fuel + 1) ≤ maxVarintLen64)
    (hvalue : value < 128 ^ (fuel + 1)) (hword : value * 128 ^ index < 2 ^ 64) :
    uvarintFrom index acc (putUvarintFuel (fuel + 1) value ++ tail) =
      some (acc + value * 128 ^ index, index + (putUvarintFuel (fuel + 1) value).length) := by
  simp only [maxVarintLen64] at hfuel
  induction fuel generalizing index acc value with
  | zero =>
    have hsmall : value < 128 := by simpa using hvalue
    have hbyte : (UInt8.ofNat value).toNat = value := by
      simp; omega
    have hlast : ¬ (index = 9 ∧ 1 < value) := by
      rintro ⟨rfl, hbig⟩
      omega
    have hindex : index ≠ 10 := by omega
    simp [putUvarintFuel, uvarintFrom, hsmall, hbyte, hlast, hindex, maxVarintLen64]
  | succ fuel ih =>
    have hindex : index ≠ 10 := by omega
    by_cases hsmall : value < 128
    · have hbyte : (UInt8.ofNat value).toNat = value := by
        simp; omega
      have hlast : ¬ (index = 9 ∧ 1 < value) := by
        omega
      simp [putUvarintFuel, uvarintFrom, hsmall, hbyte, hlast, hindex, maxVarintLen64]
    · have hbyte : (UInt8.ofNat (value % 128 + 128)).toNat = value % 128 + 128 := by
        simp; omega
      have hcontinues : ¬ (value % 128 + 128 < 128) := by omega
      have hsplit : value % 128 * 128 ^ index + value / 128 * 128 ^ (index + 1) =
          value * 128 ^ index := by
        rw [pow_succ, mul_comm (128 ^ index) 128, ← mul_assoc, ← add_mul]
        congr 1
        omega
      have hrest : value / 128 * 128 ^ (index + 1) < 2 ^ 64 := by omega
      rw [putUvarintFuel, if_neg hsmall, cons_append, uvarintFrom,
        if_neg (by simpa [maxVarintLen64] using hindex), hbyte, if_neg hcontinues,
        ih _ (by omega) (div_lt_pow hvalue) hrest]
      have hmod : (value % 128 + 128) % 128 = value % 128 := by omega
      rw [hmod, length_cons, Option.some.injEq, Prod.mk.injEq]
      constructor
      · omega
      · omega

theorem uvarint_putUvarint (tail : List UInt8) :
    uvarint (putUvarint value ++ tail) = some (value.toNat, (putUvarint value).length) := by
  have h := uvarintFrom_putUvarintFuel 0 tail (show 0 + (9 + 1) ≤ maxVarintLen64 by decide)
    (toNat_lt_uvarint value) (by simpa using value.toNat_lt)
  simpa [uvarint, putUvarint, maxVarintLen64] using h

theorem uvarintFrom_take {fuel value index n : ℕ} (acc : ℕ)
    (h : n < (putUvarintFuel fuel value).length) :
    uvarintFrom index acc ((putUvarintFuel fuel value).take n) = none := by
  induction fuel generalizing index acc value n with
  | zero => cases h
  | succ fuel ih =>
    cases n with
    | zero => rfl
    | succ n =>
      rw [putUvarintFuel] at h ⊢
      split_ifs at h ⊢ with hsmall
      · simp at h
      · have hbyte : ¬ (UInt8.ofNat (value % 128 + 128)).toNat < 128 := by
          simp
          omega
        rw [take_succ_cons, uvarintFrom, if_neg hbyte, ih _ (by simpa using h), ite_self]

/-- No proper initial segment of an encoding is one. -/
theorem uvarint_take_putUvarint {value : UInt64} {n : ℕ} (h : n < (putUvarint value).length) :
    uvarint ((putUvarint value).take n) = none :=
  uvarintFrom_take 0 h

end Kurdistan.Support
