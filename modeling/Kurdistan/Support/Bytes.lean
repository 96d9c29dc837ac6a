import Mathlib.Data.UInt
import Mathlib.Data.Vector.Basic
import Mathlib.Data.List.Induction
import Mathlib.Tactic.Ring

/-!
# Byte strings and fixed-width integers

Byte strings are lists of `UInt8`. This module supplies the big-endian and
little-endian encodings used by wire formats, their inverses, bytewise
exclusive or, and fixed-length byte arrays which carry their length.

Nothing here refers to a particular protocol.
-/

namespace Kurdistan.Support

open List

/-- A statement about all bytes of a string is decided along the string. Mathlib's instances
for finite types would decide it over all 256 bytes. -/
instance (priority := 1100) decidableForallBytes (p : UInt8 → Prop) [DecidablePred p]
    (bytes : List UInt8) : Decidable (∀ byte ∈ bytes, p byte) := decidableBAll p bytes

instance lawfulBEqBytes : LawfulBEq (List UInt8) := inferInstance

/-- A byte array whose length is part of its type. -/
abbrev FixedBytes (n : ℕ) := List.Vector UInt8 n

/-- Copy a byte string into a zeroed array of `n` bytes. -/
def fixedBytes (n : ℕ) (bytes : List UInt8) : FixedBytes n :=
  ⟨bytes.take n ++ replicate (n - bytes.length) 0, by simp; omega⟩

variable {bytes : List UInt8}

theorem toList_fixedBytes {n : ℕ} (h : bytes.length = n) : (fixedBytes n bytes).toList = bytes := by
  simp [fixedBytes, ← h]

@[simp] theorem fixedBytes_toList {n : ℕ} (bytes : FixedBytes n) :
    fixedBytes n bytes.toList = bytes :=
  List.Vector.toList_injective (toList_fixedBytes bytes.toList_length)

/-- The bytes of an ASCII text. -/
def asciiBytes (text : String) : List UInt8 :=
  text.toList.map fun c => UInt8.ofNat c.toNat

/-! ## Big-endian integers -/

/-- The `n` low-order bytes of `value`, most significant byte first. -/
def bigEndian : ℕ → ℕ → List UInt8
  | 0, _ => []
  | n + 1, value => bigEndian n (value / 256) ++ [UInt8.ofNat (value % 256)]

/-- The natural number written by a big-endian byte string. -/
def bigEndianValue (bytes : List UInt8) : ℕ :=
  bytes.foldl (fun acc byte => acc * 256 + byte.toNat) 0

@[simp] theorem length_bigEndian (n value : ℕ) : (bigEndian n value).length = n := by
  induction n generalizing value with
  | zero => rfl
  | succ n ih => simp [bigEndian, ih]

@[simp] theorem bigEndianValue_nil : bigEndianValue [] = 0 := rfl

theorem bigEndianValue_concat (bytes : List UInt8) (byte : UInt8) :
    bigEndianValue (bytes ++ [byte]) = bigEndianValue bytes * 256 + byte.toNat := by
  simp [bigEndianValue]

theorem bigEndianValue_lt (bytes : List UInt8) : bigEndianValue bytes < 256 ^ bytes.length := by
  induction bytes using reverseRecOn with
  | nil => simp
  | append_singleton bytes byte ih =>
    rw [bigEndianValue_concat, length_append, length_singleton, pow_succ]
    have hbyte := byte.toNat_lt
    omega

/-- Decoding the `n` low-order bytes recovers the value modulo `256 ^ n`. -/
theorem bigEndianValue_bigEndian (n value : ℕ) :
    bigEndianValue (bigEndian n value) = value % 256 ^ n := by
  induction n generalizing value with
  | zero => simp [bigEndian, Nat.mod_one]
  | succ n ih =>
    have hbyte : (UInt8.ofNat (value % 256)).toNat = value % 256 := by simp
    rw [bigEndian, bigEndianValue_concat, ih, hbyte, pow_succ, mul_comm (256 ^ n) 256, Nat.mod_mul]
    ring

theorem bigEndianValue_bigEndian_of_lt {n value : ℕ} (h : value < 256 ^ n) :
    bigEndianValue (bigEndian n value) = value := by
  rw [bigEndianValue_bigEndian, Nat.mod_eq_of_lt h]

/-- Re-encoding a byte string of length `n` at width `n` gives it back. -/
theorem bigEndian_bigEndianValue (bytes : List UInt8) :
    bigEndian bytes.length (bigEndianValue bytes) = bytes := by
  induction bytes using reverseRecOn with
  | nil => rfl
  | append_singleton bytes byte ih =>
    have hbyte := byte.toNat_lt
    have hdiv : (bigEndianValue bytes * 256 + byte.toNat) / 256 = bigEndianValue bytes := by
      omega
    have hmod : (bigEndianValue bytes * 256 + byte.toNat) % 256 = byte.toNat := by
      omega
    rw [length_append, length_singleton, bigEndian, bigEndianValue_concat, hdiv, hmod, ih]
    simp

/-! ## Little-endian integers -/

/-- The `n` low-order bytes of `value`, least significant byte first. -/
def littleEndian (n value : ℕ) : List UInt8 :=
  (bigEndian n value).reverse

/-- The natural number written by a little-endian byte string. -/
def littleEndianValue (bytes : List UInt8) : ℕ :=
  bigEndianValue bytes.reverse

@[simp] theorem length_littleEndian (n value : ℕ) : (littleEndian n value).length = n := by
  simp [littleEndian]

theorem littleEndianValue_littleEndian_of_lt {n value : ℕ} (h : value < 256 ^ n) :
    littleEndianValue (littleEndian n value) = value := by
  simp [littleEndianValue, littleEndian, bigEndianValue_bigEndian_of_lt h]

/-! ## Machine words on the wire -/

/-- Big-endian `uint16`. -/
def putUint16 (value : UInt16) : List UInt8 := bigEndian 2 value.toNat

/-- Big-endian `uint32`. -/
def putUint32 (value : UInt32) : List UInt8 := bigEndian 4 value.toNat

/-- Big-endian `uint64`. -/
def putUint64 (value : UInt64) : List UInt8 := bigEndian 8 value.toNat

/-- Read a big-endian `uint16` from the first two bytes. -/
def getUint16 (bytes : List UInt8) : UInt16 :=
  UInt16.ofNat (bigEndianValue (bytes.take 2))

/-- Read a big-endian `uint32` from the first four bytes. -/
def getUint32 (bytes : List UInt8) : UInt32 :=
  UInt32.ofNat (bigEndianValue (bytes.take 4))

/-- Read a big-endian `uint64` from the first eight bytes. -/
def getUint64 (bytes : List UInt8) : UInt64 :=
  UInt64.ofNat (bigEndianValue (bytes.take 8))

@[simp] theorem length_putUint16 (value : UInt16) :
    (putUint16 value).length = 2 := length_bigEndian 2 _

@[simp] theorem length_putUint32 (value : UInt32) :
    (putUint32 value).length = 4 := length_bigEndian 4 _

@[simp] theorem length_putUint64 (value : UInt64) :
    (putUint64 value).length = 8 := length_bigEndian 8 _

@[simp] theorem getUint16_putUint16 (value : UInt16) (rest : List UInt8) :
    getUint16 (putUint16 value ++ rest) = value := by
  have hvalue : value.toNat < 256 ^ 2 := value.toNat_lt
  rw [getUint16, take_left' (length_putUint16 value), putUint16,
    bigEndianValue_bigEndian_of_lt hvalue, UInt16.ofNat_toNat]

@[simp] theorem getUint32_putUint32 (value : UInt32) (rest : List UInt8) :
    getUint32 (putUint32 value ++ rest) = value := by
  have hvalue : value.toNat < 256 ^ 4 := value.toNat_lt
  rw [getUint32, take_left' (length_putUint32 value), putUint32,
    bigEndianValue_bigEndian_of_lt hvalue, UInt32.ofNat_toNat]

@[simp] theorem getUint64_putUint64 (value : UInt64) (rest : List UInt8) :
    getUint64 (putUint64 value ++ rest) = value := by
  have hvalue : value.toNat < 256 ^ 8 := value.toNat_lt
  rw [getUint64, take_left' (length_putUint64 value), putUint64,
    bigEndianValue_bigEndian_of_lt hvalue, UInt64.ofNat_toNat]

@[simp] theorem getUint16_putUint16_nil (value : UInt16) : getUint16 (putUint16 value) = value := by
  simpa using getUint16_putUint16 value []

@[simp] theorem getUint32_putUint32_nil (value : UInt32) : getUint32 (putUint32 value) = value := by
  simpa using getUint32_putUint32 value []

@[simp] theorem getUint64_putUint64_nil (value : UInt64) : getUint64 (putUint64 value) = value := by
  simpa using getUint64_putUint64 value []

theorem bigEndian_of_read {n value : ℕ} (h : bytes.length = n)
    (hvalue : value = bigEndianValue (bytes.take n) % 256 ^ n) : bigEndian n value = bytes := by
  have hlt := bigEndianValue_lt bytes
  rw [h] at hlt
  rw [hvalue, take_of_length_le (Nat.le_of_eq h), Nat.mod_eq_of_lt hlt, ← h,
    bigEndian_bigEndianValue]

theorem putUint16_getUint16 (h : bytes.length = 2) : putUint16 (getUint16 bytes) = bytes :=
  bigEndian_of_read h UInt16.toNat_ofNat'

theorem putUint32_getUint32 (h : bytes.length = 4) : putUint32 (getUint32 bytes) = bytes :=
  bigEndian_of_read h UInt32.toNat_ofNat'

theorem putUint32_getUint32_take (h : 4 ≤ bytes.length) :
    putUint32 (getUint32 bytes) = bytes.take 4 := by
  have hread : getUint32 bytes = getUint32 (bytes.take 4) := by simp [getUint32, take_take]
  rw [hread, putUint32_getUint32 (length_take_of_le h)]

theorem putUint64_getUint64 (h : bytes.length = 8) : putUint64 (getUint64 bytes) = bytes :=
  bigEndian_of_read h UInt64.toNat_ofNat'

theorem putUint16_injective : Function.Injective putUint16 := by
  intro a b h
  rw [← getUint16_putUint16_nil a, h, getUint16_putUint16_nil]

theorem putUint32_injective : Function.Injective putUint32 := by
  intro a b h
  rw [← getUint32_putUint32_nil a, h, getUint32_putUint32_nil]

theorem putUint64_injective : Function.Injective putUint64 := by
  intro a b h
  rw [← getUint64_putUint64_nil a, h, getUint64_putUint64_nil]

/-! ## Bytewise exclusive or -/

/-- Exclusive or of two byte strings, truncated to the shorter one. -/
def xorBytes (left right : List UInt8) : List UInt8 :=
  zipWith (· ^^^ ·) left right

@[simp] theorem length_xorBytes (left right : List UInt8) :
    (xorBytes left right).length = min left.length right.length := by
  simp [xorBytes]

theorem xorBytes_cancel {mask : List UInt8} (h : bytes.length ≤ mask.length) :
    xorBytes mask (xorBytes mask bytes) = bytes := by
  induction mask generalizing bytes with
  | nil =>
    have hnil : bytes = [] := eq_nil_of_length_eq_zero (by simpa using h)
    simp [xorBytes, hnil]
  | cons m mask ih =>
    cases bytes with
    | nil => rfl
    | cons b bytes =>
      have htail : bytes.length ≤ mask.length := by simpa using h
      have hcancel : m ^^^ (m ^^^ b) = b := by
        rw [← UInt8.xor_assoc, UInt8.xor_self, UInt8.zero_xor]
      have := ih htail
      simp only [xorBytes, zipWith_cons_cons] at this ⊢
      rw [hcancel, this]

/-- Masking with a fixed string is injective on strings it covers. -/
theorem xorBytes_injective {mask left right : List UInt8}
    (hleft : left.length ≤ mask.length) (hright : right.length ≤ mask.length)
    (h : xorBytes mask left = xorBytes mask right) : left = right := by
  rw [← xorBytes_cancel hleft, ← xorBytes_cancel hright, h]

end Kurdistan.Support
