import Kurdistan.Support.Bytes

/-!
# Length-prefixed fields

A field is written with its length in front, as a big-endian `uint32`. The
writer truncates the length, as the conversion to `uint32` does; every lemma
which recovers a field therefore asks that its length fits.

`readExactly` and `readPrefixed` are the matching readers. Each has one lemma
which says exactly what it accepts, so that a successful parse can be turned
back into an equation about the bytes.
-/

namespace Kurdistan.Support

open List

/-- A field with its length in front. -/
def lengthPrefixed (value : List UInt8) : List UInt8 :=
  putUint32 (UInt32.ofNat value.length) ++ value

@[simp] theorem length_lengthPrefixed (value : List UInt8) :
    (lengthPrefixed value).length = 4 + value.length := by
  simp [lengthPrefixed]

variable {value : List UInt8}

theorem getUint32_lengthPrefixed (h : value.length < 2 ^ 32) (rest : List UInt8) :
    (getUint32 (lengthPrefixed value ++ rest)).toNat = value.length := by
  rw [lengthPrefixed, append_assoc, getUint32_putUint32]
  exact UInt32.toNat_ofNat_of_lt' h

variable {leftRest rightRest : List UInt8}

theorem lengthPrefixed_append_inj {left right : List UInt8} (hleft : left.length < 2 ^ 32)
    (hright : right.length < 2 ^ 32)
    (h : lengthPrefixed left ++ leftRest = lengthPrefixed right ++ rightRest) :
    left = right ∧ leftRest = rightRest := by
  have hlength : left.length = right.length := by
    rw [← getUint32_lengthPrefixed hleft leftRest, ← getUint32_lengthPrefixed hright rightRest, h]
  rw [lengthPrefixed, lengthPrefixed, hlength, append_assoc, append_assoc] at h
  exact append_inj (append_cancel_left h) hlength

theorem fixedBytes_append_inj {n : ℕ} {left right : FixedBytes n}
    (h : left.toList ++ leftRest = right.toList ++ rightRest) :
    left = right ∧ leftRest = rightRest := by
  have hlength : left.toList.length = right.toList.length := by
    rw [left.toList_length, right.toList_length]
  obtain ⟨hfield, hrest⟩ := append_inj h hlength
  exact ⟨List.Vector.toList_injective hfield, hrest⟩

/-- Several fields, one after the other. -/
def framed (parts : List (List UInt8)) : List UInt8 :=
  parts.flatMap lengthPrefixed

@[simp] theorem framed_nil : framed [] = [] := rfl

@[simp] theorem framed_cons (part : List UInt8) (parts : List (List UInt8)) :
    framed (part :: parts) = lengthPrefixed part ++ framed parts := rfl

theorem framed_ne_nil (part : List UInt8) (parts : List (List UInt8)) :
    framed (part :: parts) ≠ [] := by
  simp [← length_eq_zero_iff]

theorem framed_inj {left right : List (List UInt8)} (hleft : ∀ part ∈ left, part.length < 2 ^ 32)
    (hright : ∀ part ∈ right, part.length < 2 ^ 32)
    (h : framed left = framed right) : left = right := by
  induction left generalizing right with
  | nil =>
    cases right with
    | nil => rfl
    | cons part parts => exact absurd h.symm (framed_ne_nil part parts)
  | cons first left ih =>
    cases right with
    | nil => exact absurd h (framed_ne_nil first left)
    | cons second right =>
      rw [forall_mem_cons] at hleft hright
      obtain ⟨hhead, htail⟩ := lengthPrefixed_append_inj hleft.1 hright.1 h
      rw [hhead, ih hleft.2 hright.2 htail]

theorem framed_append_inj {left right : List (List UInt8)}
    (hleft : ∀ part ∈ left, part.length < 2 ^ 32) (hright : ∀ part ∈ right, part.length < 2 ^ 32)
    (hcount : left.length = right.length) (h : framed left ++ leftRest = framed right ++ rightRest)
      : left = right ∧ leftRest = rightRest := by
  induction left generalizing right with
  | nil =>
    have hnil : right = [] := eq_nil_of_length_eq_zero hcount.symm
    rw [hnil] at h ⊢
    exact ⟨rfl, h⟩
  | cons first left ih =>
    cases right with
    | nil => cases hcount
    | cons second right =>
      rw [forall_mem_cons] at hleft hright
      rw [framed_cons, framed_cons, append_assoc, append_assoc] at h
      obtain ⟨hhead, htail⟩ := lengthPrefixed_append_inj hleft.1 hright.1 h
      obtain ⟨hrest, hafter⟩ := ih hleft.2 hright.2 (Nat.succ.inj hcount) htail
      exact ⟨by rw [hhead, hrest], hafter⟩

theorem length_le_framed {part : List UInt8} {parts : List (List UInt8)}
    (h : part ∈ parts) : part.length ≤ (framed parts).length := by
  induction parts with
  | nil => cases h
  | cons first parts ih =>
    rw [framed_cons, length_append, length_lengthPrefixed]
    rcases mem_cons.mp h with rfl | htail
    · omega
    · have := ih htail
      omega

/-! ## Readers -/

/-- Split off exactly `n` bytes. -/
def readExactly (n : ℕ) (bytes : List UInt8) : Option (List UInt8 × List UInt8) :=
  if n ≤ bytes.length then some (bytes.take n, bytes.drop n) else none

theorem readExactly_eq_some {n : ℕ} {bytes rest : List UInt8} :
    readExactly n bytes = some (value, rest) ↔ bytes = value ++ rest ∧ value.length = n := by
  rw [readExactly]
  constructor
  · intro h
    by_cases hn : n ≤ bytes.length
    · rw [if_pos hn, Option.some.injEq, Prod.mk.injEq] at h
      obtain ⟨rfl, rfl⟩ := h
      exact ⟨(take_append_drop n bytes).symm, length_take_of_le hn⟩
    · rw [if_neg hn] at h
      exact absurd h (by simp)
  · rintro ⟨rfl, rfl⟩
    simp

/-- Read a length-prefixed field of at most `limit` bytes. -/
def readPrefixed (limit : ℕ) (bytes : List UInt8) : Option (List UInt8 × List UInt8) :=
  (readExactly 4 bytes).bind fun field =>
    let length := (getUint32 field.1).toNat
    if limit < length ∨ field.2.length < length then none else readExactly length field.2

theorem readPrefixed_eq_some {limit : ℕ} (hlimit : limit < 2 ^ 32) {bytes rest : List UInt8} :
    readPrefixed limit bytes = some (value, rest) ↔
      bytes = lengthPrefixed value ++ rest ∧ value.length ≤ limit := by
  rw [readPrefixed]
  constructor
  · intro h
    obtain ⟨⟨raw, tail⟩, hraw, hfield⟩ := Option.bind_eq_some_iff.mp h
    obtain ⟨hbytes, hlength⟩ := readExactly_eq_some.mp hraw
    simp only [ite_eq_iff, reduceCtorEq, and_false, false_or, not_or] at hfield
    obtain ⟨⟨hsize, -⟩, hfield⟩ := hfield
    obtain ⟨htail, hvalue⟩ := readExactly_eq_some.mp hfield
    have hprefix : putUint32 (UInt32.ofNat value.length) = raw := by
      rw [hvalue, UInt32.ofNat_toNat, putUint32_getUint32 hlength]
    constructor
    · rw [hbytes, htail, lengthPrefixed, hprefix, append_assoc]
    · rw [hvalue]
      exact Nat.le_of_not_lt hsize
  · rintro ⟨rfl, hvalue⟩
    have hfits : value.length < 2 ^ 32 := Nat.lt_of_le_of_lt hvalue hlimit
    have hraw : readExactly 4 (lengthPrefixed value ++ rest) =
        some (putUint32 (UInt32.ofNat value.length), value ++ rest) := by
      rw [readExactly_eq_some, lengthPrefixed, append_assoc]
      exact ⟨rfl, length_putUint32 _⟩
    have hread : (getUint32 (putUint32 (UInt32.ofNat value.length))).toNat =
        value.length := by
      rw [getUint32_putUint32_nil]
      exact UInt32.toNat_ofNat_of_lt' hfits
    have hsize : ¬ (limit < value.length ∨ (value ++ rest).length < value.length) := by
      rw [length_append]
      omega
    simp only [hraw, Option.bind_some, hread]
    rw [if_neg hsize, readExactly_eq_some]
    exact ⟨rfl, rfl⟩

end Kurdistan.Support
