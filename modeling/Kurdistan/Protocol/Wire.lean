import Kurdistan.Support.Bytes
import Kurdistan.Support.Outcome

/-!
# Outer wire records

The canonical outer envelope of wire major 1: a header of 48 bytes and a payload.
The payload is opaque here; its authentication belongs to the runtime.
-/

namespace Kurdistan.Wire

open Support

def majorVersion : UInt8 := 1

def minorVersion : UInt8 := 0

def headerBytes : ℕ := 48

def maxControlBytes : ℕ := 64 * 2 ^ 10

def maxPayloadBytes : ℕ := 2 ^ 20

def typeClientHello : UInt8 := 1

def typeProfileBind : UInt8 := 3

def typeEngineReady : UInt8 := 4

def typeReliableData : UInt8 := 5

def typeHeartbeat : UInt8 := 6

def typeClose : UInt8 := 7

def typeServerFinish : UInt8 := 9

def flagCritical : UInt8 := 1

/-- `KURD`. -/
def magic : List UInt8 := [75, 85, 82, 68]

structure Frame where
  type : UInt8
  flags : UInt8
  streamID : UInt32
  planDigest : FixedBytes 32
  payload : List UInt8
  deriving DecidableEq

/-- `ErrInvalidFrame`, the only error of the package. -/
inductive WireError where
  | invalidFrame
  deriving DecidableEq

def knownType (value : UInt8) : Bool := typeClientHello ≤ value ∧ value ≤ typeServerFinish

def validate (frame : Frame) : Except WireError Unit := do
  ensure (knownType frame.type ∧ frame.flags &&& ~~~flagCritical = 0 ∧
    frame.planDigest ≠ fixedBytes 32 [] ∧ frame.payload.length ≤ maxPayloadBytes)
    .invalidFrame
  if frame.type = typeReliableData then
    ensure (frame.streamID ≠ 0 ∧ frame.payload ≠ []) .invalidFrame
  else if frame.type = typeHeartbeat then
    ensure (frame.streamID = 0 ∧ frame.payload = []) .invalidFrame
  else
    ensure (frame.streamID = 0 ∧ frame.payload ≠ [] ∧
      frame.payload.length ≤ maxControlBytes) .invalidFrame

/-- The bytes `writeFrame` leaves in a buffer of the right length. -/
def writeFrame (frame : Frame) : List UInt8 :=
  magic ++ [majorVersion, minorVersion, frame.type, frame.flags] ++
    putUint32 frame.streamID ++ putUint32 (UInt32.ofNat frame.payload.length) ++
    frame.planDigest.toList ++ frame.payload

def encode (frame : Frame) : Except WireError (List UInt8) := do
  validate frame
  .ok (writeFrame frame)

/-- `EncodeInto` with the length of its destination: the bytes it writes to the front. -/
def encodeInto (dstLength : ℕ) (frame : Frame) : Except WireError (List UInt8) := do
  validate frame
  ensure (headerBytes + frame.payload.length ≤ dstLength) .invalidFrame
  .ok (writeFrame frame)

/-- `DecodeView`, and `Decode`, which copies the payload. -/
def decode (encoded : List UInt8) : Except WireError Frame := do
  ensure (headerBytes ≤ encoded.length ∧ encoded.length ≤ headerBytes + maxPayloadBytes ∧
    encoded.take 4 = magic ∧ encoded.getD 4 0 = majorVersion ∧
    encoded.getD 5 0 = minorVersion) .invalidFrame
  ensure ((getUint32 (encoded.drop 12)).toNat + headerBytes = encoded.length) .invalidFrame
  let frame : Frame := {
    type := encoded.getD 6 0
    flags := encoded.getD 7 0
    streamID := getUint32 (encoded.drop 8)
    planDigest := fixedBytes 32 ((encoded.drop 16).take 32)
    payload := encoded.drop headerBytes }
  validate frame
  .ok frame

end Kurdistan.Wire
