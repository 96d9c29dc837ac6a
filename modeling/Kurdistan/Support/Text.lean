import Kurdistan.Support.Bytes
import Mathlib.Data.List.Sort
import Mathlib.Order.Lex

/-!
# Texts as byte strings

Texts are written as their UTF-8 bytes and sorted in the order of these bytes.
Hexadecimal texts are read back with `hexDecode`.
-/

namespace Kurdistan.Support

open List

/-- The bytes of a text. -/
def utf8Bytes (text : String) : List UInt8 := text.toByteArray.data.toList

theorem utf8Bytes_injective : Function.Injective utf8Bytes := by
  intro a b h
  rw [← String.toByteArray_inj]
  exact ByteArray.ext (Array.ext' h)

variable (bytes : List UInt8)

/-- The text with the given bytes, if they are UTF-8. -/
def textOfBytes : Option String :=
  String.fromUTF8? ⟨bytes.toArray⟩

theorem textOfBytes_eq_some {bytes : List UInt8} {text : String} :
    textOfBytes bytes = some text ↔ utf8Bytes text = bytes := by
  unfold textOfBytes String.fromUTF8? utf8Bytes
  constructor
  · intro h
    split_ifs at h with hvalid
    rw [← Option.some.inj h, String.fromUTF8]
  · rintro rfl
    rw [dif_pos text.isValidUTF8]
    rfl

@[simp]
theorem textOfBytes_utf8Bytes (text : String) : textOfBytes (utf8Bytes text) = some text :=
  textOfBytes_eq_some.mpr rfl

theorem isSome_textOfBytes_of_ascii {bytes : List UInt8} (h : ∀ byte ∈ bytes, byte < 128) :
    (textOfBytes bytes).isSome := by
  have hvalid : ByteArray.IsValidUTF8 ⟨bytes.toArray⟩ := by
    induction bytes using reverseRecOn with
    | nil => exact ByteArray.isValidUTF8_empty
    | append_singleton bytes byte ih =>
      have hbyte := h byte (by simp)
      have hfirst := ih fun other hother => h other (by simp [hother])
      have hval : (Char.ofUInt8 byte).val = byte.toUInt32 := rfl
      have hsize : (Char.ofUInt8 byte).utf8Size = 1 := by
        rw [Char.utf8Size, hval, if_pos]
        exact Nat.le_of_lt_succ (UInt8.lt_iff_toNat_lt.mp hbyte)
      have hpush := hfirst.push hsize
      have hback : (Char.ofUInt8 byte).toUInt8 = byte := by
        rw [Char.toUInt8, hval]
        simp
      rw [hback] at hpush
      have hsame : (⟨bytes.toArray⟩ : ByteArray).push byte = ⟨(bytes ++ [byte]).toArray⟩ :=
        congrArg ByteArray.mk (push_toArray bytes byte)
      rwa [hsame] at hpush
  rw [textOfBytes, String.fromUTF8?, dif_pos hvalid]
  rfl

/-- The order in which `sort.Strings` puts texts. -/
def TextLE (a b : String) : Prop := utf8Bytes a ≤ utf8Bytes b

instance : DecidableRel TextLE := fun a b =>
  inferInstanceAs (Decidable (utf8Bytes a ≤ utf8Bytes b))

/-- `sort.Strings`. -/
def sortTexts (values : List String) : List String := values.insertionSort TextLE

/-! ## Go strings -/

/-- The bytes of a Go string. -/
abbrev Text := List UInt8

/-- The encodings of the white space characters. -/
def spaces : List Text :=
  [[0x09], [0x0a], [0x0b], [0x0c], [0x0d], [0x20], [0xc2, 0x85], [0xc2, 0xa0],
    [0xe1, 0x9a, 0x80], [0xe2, 0x80, 0x80], [0xe2, 0x80, 0x81], [0xe2, 0x80, 0x82],
    [0xe2, 0x80, 0x83], [0xe2, 0x80, 0x84], [0xe2, 0x80, 0x85], [0xe2, 0x80, 0x86],
    [0xe2, 0x80, 0x87], [0xe2, 0x80, 0x88], [0xe2, 0x80, 0x89], [0xe2, 0x80, 0x8a],
    [0xe2, 0x80, 0xa8], [0xe2, 0x80, 0xa9], [0xe2, 0x80, 0xaf], [0xe2, 0x81, 0x9f],
    [0xe3, 0x80, 0x80]]

/-- `strings.TrimSpace` leaves the text as it is. -/
def isTrimmed (text : Text) : Bool :=
  spaces.all fun space => ¬ space.isPrefixOf text ∧ ¬ space.isSuffixOf text

/-! ## Hexadecimal texts -/

def hexDigit (value : ℕ) : UInt8 :=
  if value < 10 then UInt8.ofNat (48 + value) else UInt8.ofNat (87 + value)

/-- `hex.EncodeToString`. -/
def hexEncode : Text :=
  bytes.flatMap fun byte => [hexDigit (byte.toNat / 16), hexDigit (byte.toNat % 16)]

@[simp]
theorem length_hexEncode : (hexEncode bytes).length = 2 * bytes.length := by
  induction bytes with
  | nil => rfl
  | cons byte rest ih =>
    simp only [hexEncode, flatMap_cons, length_append, length_cons,
      length_nil] at ih ⊢
    omega

theorem hexEncode_ascii : ∀ digit ∈ hexEncode bytes, digit < 128 := by
  have hall : ∀ value < 16, hexDigit value < 128 := by decide
  intro digit hdigit
  obtain ⟨byte, -, hdigit⟩ := mem_flatMap.mp hdigit
  have hbyte := byte.toNat_lt
  rcases mem_pair.mp hdigit with rfl | rfl
  · exact hall _ (by omega)
  · exact hall _ (by omega)

theorem hexDigit_injective {a b : ℕ} (ha : a < 16) (hb : b < 16)
    (h : hexDigit a = hexDigit b) : a = b := by
  have hall : ∀ a < 16, ∀ b < 16, hexDigit a = hexDigit b → a = b := by decide
  exact hall a ha b hb h

theorem hexEncode_injective : Function.Injective hexEncode := by
  intro left
  induction left with
  | nil =>
    intro right h
    cases right with
    | nil => rfl
    | cons byte rest => cases h
  | cons byte rest ih =>
    intro right h
    cases right with
    | nil => cases h
    | cons other others =>
      simp only [hexEncode, flatMap_cons, cons_append, cons.injEq] at h
      obtain ⟨hhigh, hlow, hrest⟩ := h
      have hbyte := byte.toNat_lt
      have hother := other.toNat_lt
      have hdiv := hexDigit_injective (by omega) (by omega) hhigh
      have hmod := hexDigit_injective (by omega) (by omega) hlow
      rw [ih hrest, UInt8.toNat_inj.mp (by omega : byte.toNat = other.toNat)]

/-- The value of a hexadecimal digit. -/
def hexValue (byte : UInt8) : Option ℕ :=
  if 48 ≤ byte ∧ byte ≤ 57 then some (byte.toNat - 48)
  else if 97 ≤ byte ∧ byte ≤ 102 then some (byte.toNat - 87)
  else if 65 ≤ byte ∧ byte ≤ 70 then some (byte.toNat - 55)
  else none

def hexDecodeBytes : List UInt8 → Option (List UInt8)
  | [] => some []
  | [_] => none
  | high :: low :: rest => do
    let h ← hexValue high
    let l ← hexValue low
    let tail ← hexDecodeBytes rest
    return UInt8.ofNat (16 * h + l) :: tail

/-- `hex.DecodeString`. -/
def hexDecode (text : String) : Option (List UInt8) := hexDecodeBytes (utf8Bytes text)

end Kurdistan.Support
