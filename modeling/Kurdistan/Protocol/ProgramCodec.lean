import Kurdistan.Protocol.LiveProgram

/-!
# Encoded live programs

`encodeV1` writes a validated program as canonical CBOR and `decodeV1` accepts
nothing but the bytes `encodeV1` would write. The CBOR library is a parameter.
-/

namespace Kurdistan.Protocol

open Support

/-- The part of the CBOR library, and of its field by field use, which the program
codec depends on. -/
structure ProgramCBOR where
  /-- The deterministic encoding of `programMap`. -/
  marshal : ProgramV1 → Option (List UInt8)
  /-- `validateCore`: the bytes are one item in core deterministic form. -/
  validateCore : List UInt8 → Bool
  /-- `decodeProgramFieldsV1`. -/
  decodeProgramFieldsV1 : List UInt8 → Except ErrorCategory ProgramV1

def maxEncodedBytes : ℕ := 48 * 2 ^ 10

def encodeV1 (cbor : ProgramCBOR) (program : ProgramV1) :
    Except ErrorCategory (List UInt8) := do
  validateV1 program
  match cbor.marshal program with
  | none => .error .nonCanonical
  | some encoded => do
    ensure (encoded ≠ [] ∧ encoded.length ≤ maxEncodedBytes) .size
    .ok encoded

def decodeV1 (cbor : ProgramCBOR) (encoded : List UInt8) :
    Except ErrorCategory ProgramV1 := do
  ensure (encoded ≠ [] ∧ encoded.length ≤ maxEncodedBytes) .size
  ensure (cbor.validateCore encoded = true) .nonCanonical
  let program ← cbor.decodeProgramFieldsV1 encoded
  validateV1 program
  match encodeV1 cbor program with
  | .error _ => .error .nonCanonical
  | .ok reencoded => do
    ensure (encoded = reencoded) .nonCanonical
    .ok program

theorem encodeV1_eq_ok {cbor : ProgramCBOR} {program : ProgramV1} {encoded : List UInt8} :
    encodeV1 cbor program = .ok encoded ↔
      validateV1 program = .ok () ∧ cbor.marshal program = some encoded ∧
        encoded ≠ [] ∧ encoded.length ≤ maxEncodedBytes := by
  unfold encodeV1
  rw [check_ok_iff]
  cases hmarshal : cbor.marshal program with
  | none => simp
  | some raw =>
    simp only [check_ok_iff, ensure_eq_ok, Except.ok.injEq, Option.some.injEq]
    constructor
    · rintro ⟨hvalid, hsize, rfl⟩
      exact ⟨hvalid, rfl, hsize⟩
    · rintro ⟨hvalid, rfl, hsize⟩
      exact ⟨hvalid, hsize, rfl⟩

/-- The decoder accepts the bytes the encoder writes, and no others. -/
theorem decodeV1_eq_ok {cbor : ProgramCBOR} {encoded : List UInt8} {program : ProgramV1} :
    decodeV1 cbor encoded = .ok program ↔
      cbor.validateCore encoded = true ∧
        cbor.decodeProgramFieldsV1 encoded = .ok program ∧
        encodeV1 cbor program = .ok encoded := by
  simp only [decodeV1, bind_ok_iff, ensure_ok_iff, exists_const]
  constructor
  · rintro ⟨-, hcore, decoded, hfields, _, -, h⟩
    split at h
    · cases h
    · rename_i hencode
      rw [check_ok_iff, ensure_eq_ok] at h
      obtain ⟨rfl, ⟨⟩⟩ := h
      exact ⟨hcore, hfields, hencode⟩
  · rintro ⟨hcore, hfields, hencode⟩
    obtain ⟨hvalid, -, hsize⟩ := encodeV1_eq_ok.mp hencode
    exact ⟨hsize, hcore, program, hfields, (), hvalid, by simp [hencode]⟩

end Kurdistan.Protocol
