import Kurdistan.Protocol.Wire
import Kurdistan.Security.Capability

/-!
# Process records

A protected record is a wire frame whose payload is an application header and the
ciphertext of an envelope. The header carries what the receiver needs to recompute
nonce and additional data.
-/

namespace Kurdistan.Runtime

open Support Security

inductive RuntimeError where
  | secureChannel
  | recordInvalid
  | operationAckInvalid
  | sessionMessageLimit
  | profileIncompatible
  | serviceResourceLimit
  | linkClosed
  | authenticatedFrameState
  | security (err : SecurityError)
  deriving DecidableEq

/-- The security errors which leave an endpoint as they are. -/
def admittedSecurityErrors : List SecurityError :=
  [.authenticationFailed, .replayDuplicate, .replayStale, .replayOutOfOrder,
    .replayTooFarFuture, .replayExhausted, .nonceMismatch, .nonceExhausted]

def normalizeProcessRecordErrorV1 : RuntimeError → RuntimeError
  | .secureChannel => .secureChannel
  | .recordInvalid => .recordInvalid
  | .operationAckInvalid => .operationAckInvalid
  | .sessionMessageLimit => .sessionMessageLimit
  | .security err => if err ∈ admittedSecurityErrors then .security err else .secureChannel
  | _ => .secureChannel

def processControlSlotV1 : UInt16 := 65535

def processEnvelopeHeaderBytes : ℕ := 28

def applicationRecordVersionV1 : UInt16 := 1

def recordTypeApplicationFragmentV1 : UInt16 := 1

/-- The directions of application records, which are those of nonces. -/
def applicationDirectionClientV1 : UInt16 := directionClientToRelayV1

def applicationDirectionRelayV1 : UInt16 := directionRelayToClientV1

def closeCodeTerminalV1 : UInt16 := 1

/-! ## Binding -/

/-- `KRDBND01`. -/
def processBindMagicV1 : List UInt8 := [75, 82, 68, 66, 78, 68, 48, 49]

/-- `KRDREADY`. -/
def processReadyMagicV1 : List UInt8 := [75, 82, 68, 82, 69, 65, 68, 89]

/-- The body of a profile bind record. -/
def profileBindBody (exporter digest : FixedBytes 32) : List UInt8 :=
  processBindMagicV1 ++ exporter.toList ++ digest.toList

/-! ## Envelopes on the wire -/

structure ApplicationHeaderV1 where
  version : UInt16
  type : UInt16
  epoch : UInt64
  direction : UInt16
  streamSlot : UInt16
  sequence : UInt64
  sealedLength : UInt32

def encodeApplicationHeaderV1 (header : ApplicationHeaderV1) : List UInt8 :=
  putUint16 header.version ++ putUint16 header.type ++ putUint64 header.epoch ++
    putUint16 header.direction ++ putUint16 header.streamSlot ++
    putUint64 header.sequence ++ putUint32 header.sealedLength

variable (encoded : List UInt8)

/-- `parseApplicationHeaderV1` on the 28 bytes its callers cut off. -/
def parseApplicationHeaderV1 : ApplicationHeaderV1 where
  version := getUint16 encoded
  type := getUint16 (encoded.drop 2)
  epoch := getUint64 (encoded.drop 4)
  direction := getUint16 (encoded.drop 12)
  streamSlot := getUint16 (encoded.drop 14)
  sequence := getUint64 (encoded.drop 16)
  sealedLength := getUint32 (encoded.drop 24)

/-- The header in front of the ciphertext of a record. -/
def recordHeaderV1 (record : EnvelopeRecordV1) : ApplicationHeaderV1 where
  version := applicationRecordVersionV1
  type := recordTypeApplicationFragmentV1
  epoch := record.epoch
  direction := record.direction
  streamSlot := record.slot
  sequence := record.sequence
  sealedLength := record.sealedLength

def encodeProcessEnvelopeV1 (record : EnvelopeRecordV1) :
    Except RuntimeError (List UInt8) := do
  ensure (record.recordType = recordTypeApplicationFragmentV1 ∧
    (record.direction = applicationDirectionClientV1 ∨
      record.direction = applicationDirectionRelayV1) ∧
    record.slot ≠ 0 ∧ record.sealedLength = UInt32.ofNat record.ciphertext.length ∧
    aeadOverhead ≤ record.ciphertext.length) .recordInvalid
  .ok (encodeApplicationHeaderV1 (recordHeaderV1 record) ++ record.ciphertext)

/-- `decodeProcessEnvelopeViewV3`, and `decodeProcessEnvelopeV1`, which copies the
ciphertext. -/
def decodeProcessEnvelopeV1 (direction : UInt16)
    (maxEnvelope : UInt32) : Except RuntimeError EnvelopeRecordV1 := do
  ensure (44 ≤ encoded.length) .recordInvalid
  let h := parseApplicationHeaderV1 (encoded.take 28)
  ensure (h.version = applicationRecordVersionV1 ∧
    h.type = recordTypeApplicationFragmentV1 ∧ h.direction = direction ∧
    h.streamSlot ≠ 0 ∧ 16 ≤ h.sealedLength.toNat ∧ h.sealedLength ≤ maxEnvelope ∧
    h.sealedLength.toNat + 28 = encoded.length) .recordInvalid
  .ok ⟨h.type, h.epoch, h.direction, h.streamSlot, h.sequence, h.sealedLength, encoded.drop 28⟩

/-- The frame around an envelope. -/
def encodeRecordFrameV1 (frameType : UInt8) (outerStream : UInt32)
    (digest : FixedBytes 32) (record : EnvelopeRecordV1) :
    Except RuntimeError (List UInt8) := do
  let payload ← encodeProcessEnvelopeV1 record
  match Wire.encode ⟨frameType, Wire.flagCritical, outerStream, digest, payload⟩ with
  | .error _ => .error .recordInvalid
  | .ok encoded => .ok encoded

def decodeProcessRecordFrameV1 (frameType : UInt8)
    (digest : FixedBytes 32) (direction : UInt16) (maxEnvelope : UInt32) :
    Except RuntimeError (Wire.Frame × EnvelopeRecordV1) :=
  match Wire.decode encoded with
  | .error _ => .error .recordInvalid
  | .ok frame => do
    ensure (frame.type = frameType ∧ frame.flags = Wire.flagCritical ∧
      frame.planDigest = digest) .recordInvalid
    let envelope ← decodeProcessEnvelopeV1 frame.payload direction maxEnvelope
    .ok (frame, envelope)

end Kurdistan.Runtime
