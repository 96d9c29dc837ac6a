import Mathlib.Data.Rat.Defs
import Mathlib.Data.Rat.Cast.Order
import Mathlib.Data.Nat.Log
import Mathlib.Algebra.Order.Field.Rat
import Mathlib.Tactic.FieldSimp
import Mathlib.Tactic.Linarith

/-!
# Floating point numbers

The values of a `float64` and their binary interchange formats. A finite number
of a format is a natural multiple of a fixed power of two, so its fields are
computed on natural numbers.
-/

namespace Kurdistan.Support

/-- A `float64`. Every finite double is a rational number; zero has a second,
negative, form. -/
inductive Float64 where
  | nan
  | negInf
  | negZero
  | finite (value : ℚ)
  | posInf
  deriving DecidableEq

namespace Float64

/-- The number which comparisons see: both zeros are zero. -/
def number : Float64 → Float64
  | .negZero => .finite 0
  | value => value

/-- The IEEE comparison `left < right`, false whenever a side is NaN. -/
def lt (left right : Float64) : Bool :=
  match left.number, right.number with
  | .finite left, .finite right => left < right
  | .negInf, .finite _ => true
  | .negInf, .posInf => true
  | .finite _, .posInf => true
  | _, _ => false

/-- The IEEE comparison `left == right`. -/
def eq (left right : Float64) : Bool :=
  left ≠ .nan ∧ left.number = right.number

/-- `math.IsNaN`. -/
def isNaN (value : Float64) : Bool := value = .nan

/-- `math.IsInf` with sign zero. -/
def isInf (value : Float64) : Bool := value = .posInf ∨ value = .negInf

end Float64

/-! ## Interchange formats -/

/-- A binary interchange format: a sign bit, an exponent and a fraction. -/
structure FloatFormat where
  exponentBits : ℕ
  fractionBits : ℕ
  deriving DecidableEq

namespace FloatFormat

def half : FloatFormat := ⟨5, 10⟩
def single : FloatFormat := ⟨8, 23⟩
def double : FloatFormat := ⟨11, 52⟩

variable (f : FloatFormat)

/-- The position of the sign bit. -/
def signBit : ℕ := f.exponentBits + f.fractionBits

/-- The exponent of infinities and of numbers which are none. -/
def topExponent : ℕ := 2 ^ f.exponentBits - 1

/-- Every finite number of the format is a multiple of `2 ^ -scale`. -/
def scale : ℕ := 2 ^ (f.exponentBits - 1) - 1 + f.fractionBits

/-- The multiple of `2 ^ -scale` which an exponent and a fraction stand for. -/
def numerator (exponent fraction : ℕ) : ℕ :=
  if exponent = 0 then 2 * fraction
  else (2 ^ f.fractionBits + fraction) * 2 ^ exponent

def magnitude (exponent fraction : ℕ) : ℚ :=
  (f.numerator exponent fraction : ℚ) / 2 ^ f.scale

/-- The number with the given bits. -/
def read (bits : ℕ) : Float64 :=
  let exponent := bits / 2 ^ f.fractionBits % 2 ^ f.exponentBits
  let fraction := bits % 2 ^ f.fractionBits
  let negative := bits / 2 ^ f.signBit % 2 = 1
  if exponent = f.topExponent then
    if fraction = 0 then (if negative then .negInf else .posInf) else .nan
  else if negative then
    if f.magnitude exponent fraction = 0 then .negZero
    else .finite (-f.magnitude exponent fraction)
  else .finite (f.magnitude exponent fraction)

/-- Exponent and fraction of a natural multiple of `2 ^ -scale`. -/
def fieldsOfNumerator (multiple : ℕ) : ℕ × ℕ :=
  if multiple < 2 ^ (f.fractionBits + 1) then (0, multiple / 2)
  else
    let exponent := Nat.log2 multiple - f.fractionBits
    (exponent, multiple / 2 ^ exponent - 2 ^ f.fractionBits)

/-- Exponent and fraction of a nonnegative number, if it is one of the format. -/
def fieldsOf (value : ℚ) : Option (ℕ × ℕ) :=
  let fields := f.fieldsOfNumerator (value * 2 ^ f.scale).num.toNat
  if fields.1 < f.topExponent ∧ fields.2 < 2 ^ f.fractionBits ∧
      f.magnitude fields.1 fields.2 = value then some fields
  else none

/-- The bits of a number, if it is one of the format. -/
def bitsOf (value : ℚ) : Option ℕ :=
  (f.fieldsOf |value|).map fun fields =>
    (if value < 0 then 2 ^ f.signBit else 0) + fields.1 * 2 ^ f.fractionBits + fields.2

variable {f} {exponent fraction : ℕ}

theorem fieldsOfNumerator_numerator (hfraction : fraction < 2 ^ f.fractionBits) :
    f.fieldsOfNumerator (f.numerator exponent fraction) = (exponent, fraction) := by
  unfold fieldsOfNumerator numerator
  by_cases hexponent : exponent = 0
  · subst hexponent
    rw [if_pos rfl, if_pos (by omega)]
    simp
  · have hlower : 2 ^ (f.fractionBits + exponent) ≤
        (2 ^ f.fractionBits + fraction) * 2 ^ exponent := by
      rw [pow_add]
      exact Nat.mul_le_mul_right _ (Nat.le_add_right _ _)
    have hupper : (2 ^ f.fractionBits + fraction) * 2 ^ exponent <
        2 ^ (f.fractionBits + exponent + 1) := by
      rw [show f.fractionBits + exponent + 1 = f.fractionBits + 1 + exponent by omega, pow_add]
      exact Nat.mul_lt_mul_of_pos_right (by omega) (by positivity)
    have hlog : Nat.log2 ((2 ^ f.fractionBits + fraction) * 2 ^ exponent) =
        f.fractionBits + exponent := by
      rw [Nat.log2_eq_log_two]
      exact Nat.log_eq_of_pow_le_of_lt_pow hlower hupper
    have hnormal : ¬ (2 ^ f.fractionBits + fraction) * 2 ^ exponent < 2 ^ (f.fractionBits + 1) := by
      have : 2 ^ (f.fractionBits + 1) ≤ 2 ^ (f.fractionBits + exponent) :=
        Nat.pow_le_pow_right (by omega) (by omega)
      omega
    rw [if_neg hexponent, if_neg hnormal]
    dsimp only
    rw [hlog, Nat.add_sub_cancel_left, Nat.mul_div_cancel _ (by positivity),
      Nat.add_sub_cancel_left]

variable {value : ℚ}

theorem fieldsOf_eq_some (h : f.fieldsOf value = some (exponent, fraction)) :
    exponent < f.topExponent ∧ fraction < 2 ^ f.fractionBits ∧
      f.magnitude exponent fraction = value := by
  unfold fieldsOf at h
  dsimp only at h
  split_ifs at h with hfields
  rw [Option.some.injEq] at h
  rw [h] at hfields
  exact hfields

theorem fieldsOf_magnitude (hexponent : exponent < f.topExponent)
    (hfraction : fraction < 2 ^ f.fractionBits) :
    f.fieldsOf (f.magnitude exponent fraction) = some (exponent, fraction) := by
  have hmultiple : f.magnitude exponent fraction * 2 ^ f.scale =
      (f.numerator exponent fraction : ℚ) := by
    unfold magnitude
    field_simp
  unfold fieldsOf
  rw [hmultiple, Rat.num_natCast, Int.toNat_natCast,
    fieldsOfNumerator_numerator hfraction, if_pos ⟨hexponent, hfraction, rfl⟩]

theorem magnitude_nonneg (exponent fraction : ℕ) : 0 ≤ f.magnitude exponent fraction := by
  exact div_nonneg (Nat.cast_nonneg _) (by positivity)

theorem fields_lt (hexponent : exponent < f.topExponent) (hfraction : fraction < 2 ^
    f.fractionBits) : exponent * 2 ^ f.fractionBits + fraction < 2 ^ f.signBit := by
  have hsmall : exponent + 1 ≤ 2 ^ f.exponentBits := by
    unfold topExponent at hexponent
    omega
  calc exponent * 2 ^ f.fractionBits + fraction
      < exponent * 2 ^ f.fractionBits + 2 ^ f.fractionBits := by omega
    _ = (exponent + 1) * 2 ^ f.fractionBits := (Nat.succ_mul _ _).symm
    _ ≤ 2 ^ f.exponentBits * 2 ^ f.fractionBits := Nat.mul_le_mul_right _ hsmall
    _ = 2 ^ f.signBit := (pow_add _ _ _).symm

theorem read_fields (hexponent : exponent < f.topExponent)
    (hfraction : fraction < 2 ^ f.fractionBits) (negative : Bool) :
    f.read ((if negative then 2 ^ f.signBit else 0) + exponent * 2 ^ f.fractionBits +
        fraction) =
      if negative then
        if f.magnitude exponent fraction = 0 then .negZero
        else .finite (-f.magnitude exponent fraction)
      else .finite (f.magnitude exponent fraction) := by
  have hsmall : exponent < 2 ^ f.exponentBits := by
    unfold topExponent at hexponent
    omega
  have hlow := fields_lt hexponent hfraction
  have hsign : 2 ^ f.signBit = 2 ^ f.exponentBits * 2 ^ f.fractionBits := by
    rw [signBit, pow_add]
  have hpos : 0 < 2 ^ f.fractionBits := by positivity
  unfold read
  cases negative with
  | false =>
    simp only [Bool.false_eq_true, if_false, zero_add]
    rw [Nat.mul_add_mod_self_right, Nat.mod_eq_of_lt hfraction,
      Nat.add_comm (exponent * _), Nat.add_mul_div_right _ _ hpos,
      Nat.div_eq_of_lt hfraction, Nat.zero_add, Nat.mod_eq_of_lt hsmall,
      if_neg (by omega), Nat.div_eq_of_lt (by omega), if_neg (by simp)]
  | true =>
    simp only [if_true]
    rw [hsign, ← Nat.add_mul, Nat.mul_add_mod_self_right, Nat.mod_eq_of_lt hfraction,
      Nat.add_comm (_ * _), Nat.add_mul_div_right _ _ hpos, Nat.div_eq_of_lt hfraction,
      Nat.zero_add, Nat.add_mod_left, Nat.mod_eq_of_lt hsmall, if_neg (by omega)]
    have hhigh : (fraction + (2 ^ f.exponentBits + exponent) * 2 ^ f.fractionBits) /
        (2 ^ f.exponentBits * 2 ^ f.fractionBits) = 1 := by
      rw [← hsign, Nat.add_mul, ← hsign]
      rw [show fraction + (2 ^ f.signBit + exponent * 2 ^ f.fractionBits) =
        exponent * 2 ^ f.fractionBits + fraction + 2 ^ f.signBit by omega]
      rw [Nat.add_div_right _ (by positivity), Nat.div_eq_of_lt hlow]
    rw [hhigh, if_pos rfl]

theorem read_bitsOf {bits : ℕ} (h : f.bitsOf value = some bits) : f.read bits = .finite value := by
  obtain ⟨⟨exponent, fraction⟩, hfields, rfl⟩ := Option.map_eq_some_iff.mp h
  obtain ⟨hexponent, hfraction, hmagnitude⟩ := fieldsOf_eq_some hfields
  have hread := read_fields hexponent hfraction (decide (value < 0))
  simp only [decide_eq_true_eq, hmagnitude] at hread
  rw [hread]
  by_cases hneg : value < 0
  · rw [if_pos hneg, if_neg (by simpa using hneg.ne), abs_of_neg hneg, neg_neg]
  · rw [if_neg hneg, abs_of_nonneg (not_lt.mp hneg)]

theorem bitsOf_lt {bits : ℕ} (h : f.bitsOf value = some bits) : bits < 2 ^ (f.signBit + 1) := by
  obtain ⟨⟨exponent, fraction⟩, hfields, rfl⟩ := Option.map_eq_some_iff.mp h
  obtain ⟨hexponent, hfraction, -⟩ := fieldsOf_eq_some hfields
  have hlow := fields_lt hexponent hfraction
  dsimp only
  split_ifs <;> omega

/-- A format has the bits of every finite number it reads. -/
theorem exists_bitsOf_of_read {bits : ℕ} (h : f.read bits = .finite value) :
    ∃ found, f.bitsOf value = some found := by
  have hexponent : bits / 2 ^ f.fractionBits % 2 ^ f.exponentBits < 2 ^ f.exponentBits :=
    Nat.mod_lt _ (by positivity)
  have hfraction : bits % 2 ^ f.fractionBits < 2 ^ f.fractionBits := Nat.mod_lt _ (by positivity)
  have hfields : ∀ exponent fraction, exponent < 2 ^ f.exponentBits →
      exponent ≠ f.topExponent → fraction < 2 ^ f.fractionBits →
      f.fieldsOf (f.magnitude exponent fraction) = some (exponent, fraction) := by
    intro exponent fraction hlt hne hfraction
    refine fieldsOf_magnitude ?_ hfraction
    unfold topExponent at hne ⊢
    omega
  unfold read at h
  dsimp only at h
  split_ifs at h with htop hzero hsign hsign hmagnitude <;> obtain rfl := Float64.finite.inj h
  · exact ⟨_, by rw [bitsOf, abs_neg, abs_of_nonneg (magnitude_nonneg _ _),
      hfields _ _ hexponent htop hfraction, Option.map_some]⟩
  · exact ⟨_, by rw [bitsOf, abs_of_nonneg (magnitude_nonneg _ _),
      hfields _ _ hexponent htop hfraction, Option.map_some]⟩

end FloatFormat

/-! ## The shortest format of a double -/

namespace Float64

variable (value : Float64)

/-- The value is one of the numbers 64 bits stand for. -/
def IsDouble : Prop :=
  ∃ bits < 2 ^ 64, FloatFormat.double.read bits = value

/-- The first of the three formats which has the value, and its bits there. -/
def shortest : Float64 → FloatFormat × ℕ
  | .nan => (.half, 0x7e00)
  | .negInf => (.half, 0xfc00)
  | .negZero => (.half, 0x8000)
  | .posInf => (.half, 0x7c00)
  | .finite value =>
    match FloatFormat.half.bitsOf value, FloatFormat.single.bitsOf value with
    | some bits, _ => (.half, bits)
    | none, some bits => (.single, bits)
    | none, none => (.double, (FloatFormat.double.bitsOf value).getD 0)

theorem shortest_finite (value : ℚ) :
    (∃ f ∈ [FloatFormat.half, .single], ∃ bits, f.bitsOf value = some bits ∧
        shortest (.finite value) = (f, bits)) ∨
      shortest (.finite value) = (.double, (FloatFormat.double.bitsOf value).getD 0) := by
  rw [shortest]
  rcases hhalf : FloatFormat.half.bitsOf value with _ | bits
  · rcases hsingle : FloatFormat.single.bitsOf value with _ | bits
    · exact .inr rfl
    · exact .inl ⟨.single, by simp, bits, hsingle, rfl⟩
  · exact .inl ⟨.half, by simp, bits, hhalf, rfl⟩

theorem read_shortest {value : Float64} (h : value.IsDouble) :
    value.shortest.1.read value.shortest.2 = value := by
  cases value with
  | nan | negInf | negZero | posInf => decide +kernel
  | finite value =>
    obtain ⟨bits, -, hbits⟩ := h
    obtain ⟨found, hfound⟩ := FloatFormat.exists_bitsOf_of_read hbits
    rcases shortest_finite value with ⟨f, -, short, hshort, heq⟩ | heq
    · rw [heq]
      exact FloatFormat.read_bitsOf hshort
    · rw [heq, hfound, Option.getD_some]
      exact FloatFormat.read_bitsOf hfound

theorem shortest_format : value.shortest.1 ∈ [FloatFormat.half, .single, .double] := by
  cases value with
  | nan | negInf | negZero | posInf => decide
  | finite value =>
    rcases shortest_finite value with ⟨f, hf, short, -, heq⟩ | heq
    · rw [heq]
      simp only [List.mem_cons, List.not_mem_nil, or_false] at hf ⊢
      rcases hf with rfl | rfl <;> simp
    · simp [heq]

theorem shortest_lt : value.shortest.2 < 2 ^ (value.shortest.1.signBit + 1) := by
  cases value with
  | nan | negInf | negZero | posInf => decide
  | finite value =>
    rcases shortest_finite value with ⟨f, -, short, hshort, heq⟩ | heq
    · rw [heq]
      exact FloatFormat.bitsOf_lt hshort
    · rw [heq]
      rcases hdouble : FloatFormat.double.bitsOf value with _ | bits
      · exact Nat.two_pow_pos _
      · exact FloatFormat.bitsOf_lt hdouble

end Float64

end Kurdistan.Support
