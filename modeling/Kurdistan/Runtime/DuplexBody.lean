import Kurdistan.Runtime.Record
import Kurdistan.Framing.LiveData

/-!
# Bodies of duplex records

The plaintext of a duplex record: a header of sixteen bytes and, for an operation, its
length-prefixed inner frames. The first version of the endpoint copies the frames out
of the body. The third version checks the whole grammar first and then moves the frames
to the front of the same buffer, so that the caller-buffer codec can read them.
-/

namespace Kurdistan.Runtime

open Support Framing Protocol

variable {source : RandSource}

/-- `KRDDPX01`. -/
def duplexMagicV1 : List UInt8 := [75, 82, 68, 68, 80, 88, 48, 49]

def duplexKindOperationV1 : UInt8 := 1

def duplexKindKeepaliveV1 : UInt8 := 2

def duplexKindCloseV1 : UInt8 := 3

def duplexBodyHeaderV1 : ℕ := 16

def duplexMaximumFramesV1 : ℕ := 256

/-! ## Encoding -/

/-- The inner frames, each behind its length. -/
def frameEntries (frames : List (List UInt8)) : List UInt8 :=
  frames.flatMap fun frame => putUint32 (UInt32.ofNat frame.length) ++ frame

/-- The sixteen bytes in front of a body of the given length. -/
def duplexHeader (kind : UInt8) (value : UInt16) (length : ℕ) : List UInt8 :=
  duplexMagicV1 ++ [kind, 0] ++ putUint16 value ++ putUint32 (UInt32.ofNat length)

/-- A body with its header. -/
def duplexBody (kind : UInt8) (value : UInt16) (entries : List UInt8) : List UInt8 :=
  duplexHeader kind value entries.length ++ entries

/-- The loop over the frames, which adds up the length of the body. -/
def checkBodyFrames : ℕ → List (List UInt8) → Except RuntimeError Unit
  | _, [] => .ok ()
  | total, frame :: frames => do
    ensure (frame ≠ [] ∧ frame.length ≤ Wire.maxPayloadBytes ∧
      total + 4 + frame.length ≤ Wire.maxPayloadBytes) .recordInvalid
    checkBodyFrames (total + 4 + frame.length) frames

def encodeDuplexOperationBodyV1 (frames : List (List UInt8)) :
    Except RuntimeError (List UInt8) := do
  ensure (frames ≠ [] ∧ frames.length ≤ duplexMaximumFramesV1) .recordInvalid
  checkBodyFrames duplexBodyHeaderV1 frames
  .ok (duplexBody duplexKindOperationV1 (UInt16.ofNat frames.length) (frameEntries frames))

/-- `encodeDuplexControlBodyV1`, and what `writeDuplexControlBodyV3` leaves in a buffer
of sixteen bytes. -/
def encodeDuplexControlBodyV1 (kind : UInt8) (code : UInt16) : List UInt8 :=
  duplexBody kind code []

/-! ## Decoding by copying -/

/-- The loop over the inner frames, on the rest of the body. -/
def readBodyFrames : ℕ → List UInt8 → Except RuntimeError (List (List UInt8))
  | 0, rest => do
    ensure (rest = []) .recordInvalid
    .ok []
  | count + 1, rest => do
    ensure (4 ≤ rest.length) .recordInvalid
    let length := (getUint32 rest).toNat
    ensure (length ≠ 0 ∧ length ≤ Wire.maxPayloadBytes ∧ 4 + length ≤ rest.length) .recordInvalid
    let frames ← readBodyFrames count (rest.drop (4 + length))
    .ok ((rest.drop 4).take length :: frames)

structure DecodedBodyV1 where
  kind : UInt8
  code : UInt16
  frames : List (List UInt8)

def decodeDuplexBodyV1 (body : List UInt8) : Except RuntimeError DecodedBodyV1 := do
  ensure (duplexBodyHeaderV1 ≤ body.length ∧ body.take 8 = duplexMagicV1 ∧
    body.getD 9 0 = 0) .recordInvalid
  let kind := body.getD 8 0
  let value := getUint16 (body.drop 10)
  let payloadLength := (getUint32 (body.drop 12)).toNat
  ensure (duplexBodyHeaderV1 + payloadLength = body.length) .recordInvalid
  if kind ≠ duplexKindOperationV1 then do
    ensure (payloadLength = 0 ∧ (kind = duplexKindKeepaliveV1 ∨ kind = duplexKindCloseV1))
      .recordInvalid
    .ok ⟨kind, value, []⟩
  else do
    ensure (value.toNat ≠ 0 ∧ value.toNat ≤ duplexMaximumFramesV1) .recordInvalid
    let frames ← readBodyFrames value.toNat (body.drop duplexBodyHeaderV1)
    .ok ⟨kind, 0, frames⟩

/-- What an accepted body asks for. -/
inductive DuplexMessage where
  | keepalive
  | close
  | operation (op : Operation)

/-- The part of `openFrameV1` between authentication and commit: the body has to fit
the outer frame. -/
def readDuplexBodyV1 (program : ProgramV1) (frameType : UInt8) (outerStream : UInt32)
    (body : List UInt8) : Except RuntimeError DuplexMessage := do
  let decoded ← decodeDuplexBodyV1 body
  if decoded.kind = duplexKindKeepaliveV1 then do
    ensure (frameType = Wire.typeReliableData ∧
      outerStream = processControlSlotV1.toUInt32 ∧ decoded.code = 0) .recordInvalid
    .ok .keepalive
  else if decoded.kind = duplexKindCloseV1 then do
    ensure (frameType = Wire.typeClose ∧ outerStream = 0 ∧
      decoded.code = closeCodeTerminalV1) .recordInvalid
    .ok .close
  else do
    ensure (frameType = Wire.typeReliableData ∧
      outerStream ≠ processControlSlotV1.toUInt32 ∧ decoded.code = 0) .recordInvalid
    match decodeLiveFrames program decoded.frames with
    | .error _ => .error .recordInvalid
    | .ok (operation, _) => do
      ensure (operation.streamID = outerStream ∧ operation.streamID ≠ 0 ∧
        operation.streamID < processControlSlotV1.toUInt32) .recordInvalid
      .ok (.operation operation)

/-! ## Decoding in place -/

/-- The first loop of `openFrameV3`: the spans of the inner frames, from `offset` on,
and the offset behind the last one. -/
def bodySpansV3 (body : List UInt8) : ℕ → ℕ → Except RuntimeError (List FrameSpanV3 × ℕ)
  | 0, offset => .ok ([], offset)
  | count + 1, offset => do
    ensure (4 ≤ body.length - offset) .recordInvalid
    let n := (getUint32 (body.drop offset)).toNat
    ensure (n ≠ 0 ∧ n ≤ Wire.maxPayloadBytes ∧ n ≤ body.length - (offset + 4)) .recordInvalid
    let rest ← bodySpansV3 body count (offset + 4 + n)
    .ok (⟨UInt32.ofNat (offset + 4), UInt32.ofNat n⟩ :: rest.1, rest.2)

/-- The buffer, the moved spans and the number of bytes in front of which they end. -/
structure CompactedV3 where
  body : List UInt8
  spans : List FrameSpanV3
  pos : ℕ

/-- One round of the second loop: copy a frame down to `pos`. -/
def compactFrameV3 (body : List UInt8) (pos : ℕ) (span : FrameSpanV3) : List UInt8 :=
  splice body pos (spanFrame body span)

/-- The second loop of `openFrameV3`. -/
def compactFramesV3 : List UInt8 → ℕ → List FrameSpanV3 → CompactedV3
  | body, pos, [] => ⟨body, [], pos⟩
  | body, pos, span :: spans =>
    let rest := compactFramesV3 (compactFrameV3 body pos span) (pos + span.length.toNat) spans
    ⟨rest.body, ⟨UInt32.ofNat pos, span.length⟩ :: rest.spans, rest.pos⟩

/-- The receive buffers of the third version: where an authenticated body lies, the
table of its spans and the destination of the payload, which overlaps neither. -/
structure ReceiveBuffersV3 where
  rxBody : Slice
  rxSpans : SpanTable
  rxPayload : Slice
  bodyApart : ∀ n ≤ rxBody.bytes.length, regionsOverlap rxPayload.address
    rxPayload.bytes.length rxBody.address n = false
  spansApart : ∀ n ≤ 256, regionsOverlap rxPayload.address rxPayload.bytes.length
    rxSpans.address (n * frameSpanBytes) = false

/-- The part of `openFrameV3` between authentication and commit. -/
def readDuplexBodyV3 (codec : LiveDataCodecV3 source) (w : ReceiveBuffersV3)
    (frameType : UInt8) (streamID : UInt32) (body : List UInt8) :
    Except RuntimeError DuplexMessage := do
  ensure (16 ≤ body.length ∧ body.take 8 = duplexMagicV1 ∧ body.getD 9 0 = 0 ∧
    (getUint32 (body.drop 12)).toNat + 16 = body.length) .recordInvalid
  let kind := body.getD 8 0
  let value := getUint16 (body.drop 10)
  if kind ≠ duplexKindOperationV1 then do
    ensure (body.length = 16) .recordInvalid
    if kind = duplexKindKeepaliveV1 then do
      ensure (frameType = Wire.typeReliableData ∧ streamID = 65535 ∧ value = 0) .recordInvalid
      .ok .keepalive
    else if kind = duplexKindCloseV1 then do
      ensure (frameType = Wire.typeClose ∧ streamID = 0 ∧ value = closeCodeTerminalV1)
        .recordInvalid
      .ok .close
    else .error .recordInvalid
  else do
    ensure (frameType = Wire.typeReliableData ∧ streamID ≠ 65535 ∧ 1 ≤ value.toNat ∧
      value.toNat ≤ 256) .recordInvalid
    let spans ← bodySpansV3 body value.toNat 16
    ensure (spans.2 = body.length) .recordInvalid
    let moved := compactFramesV3 body 0 spans.1
    match codec.decodeInto w.rxPayload ⟨w.rxBody.address, moved.body.take moved.pos⟩
        ⟨w.rxSpans.address, moved.spans⟩ with
    | .error _ => .error .recordInvalid
    | .ok (info, payload) => do
      ensure (info.streamID = streamID) .recordInvalid
      .ok (.operation {
        semantic := .known .data
        streamID := info.streamID
        payload := payload.take info.payloadBytes.toNat })

end Kurdistan.Runtime
