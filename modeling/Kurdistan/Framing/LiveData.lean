import Kurdistan.Framing.Codec

/-!
# The caller-buffer codec

The third version of the live data codec writes frames into buffers of its caller
and parses them without allocating. Slices carry the address of their first byte,
because the codec refuses buffers which overlap. The codec modelled here is one
that was constructed; the nil checks of its methods concern no other value.
-/

namespace Kurdistan.Framing

open Support Protocol

variable {source : RandSource}

/-! ## Buffers -/

/-- A byte slice: the address of its first byte and its contents. -/
structure Slice where
  address : ℕ
  bytes : List UInt8

/-- `byteSlicesOverlap`, on the addresses and lengths of two slices. -/
def regionsOverlap (a aLength b bLength : ℕ) : Bool :=
  if aLength = 0 ∨ bLength = 0 then false
  else if a ≤ b then b - a < aLength else a - b < bLength

def byteSlicesOverlap (a b : Slice) : Bool :=
  regionsOverlap a.address a.bytes.length b.address b.bytes.length

/-- One consecutive encoded frame in the caller's slab. -/
structure FrameSpanV3 where
  offset : UInt32 := 0
  length : UInt32 := 0

/-- The size of a span record in memory. -/
def frameSpanBytes : ℕ := 8

/-- The caller's table of 256 spans. -/
structure SpanTable where
  address : ℕ
  entries : List.Vector FrameSpanV3 256

/-- A slice of spans. -/
structure SpanSlice where
  address : ℕ
  entries : List FrameSpanV3

structure LiveDataInfoV3 where
  streamID : UInt32
  payloadBytes : UInt32

structure LiveDataBoundsV3 where
  frameBytes : UInt32
  largestFrameBytes : UInt32
  frameCount : UInt16
  paddingBytes : UInt32
  deriving DecidableEq

/-! ## Construction and bounds -/

structure LiveDataCodecV3 (source : RandSource) where
  spec : CodecSpec
  minPayload : Int
  maxPayload : Int
  chunk : Int
  engine : Engine source

/-- The chunk computed by `NewLiveDataCodecV3`. -/
def liveChunk (spec : CodecSpec) : Int :=
  let frameChunk := spec.maxFrameBytes - 512
  let batch :=
    if spec.maxBatchBytes ≤ 0 ∨ frameChunk < spec.maxBatchBytes then frameChunk
    else spec.maxBatchBytes
  let limited :=
    match spec.fragmentationMode with
    | .known .fixedSizeChunks => min batch 4096
    | .known .boundedVariableChunks => min batch 6144
    | .known .schedulerControlledChunks => min batch spec.maxBatchBytes
    | _ => min batch 16384
  max limited 1

def newLiveDataCodecV3 (source : RandSource) (program : ProgramV1) :
    Except FramingError (LiveDataCodecV3 source) := do
  let spec ← codecSpecFromLiveProgram program
  match program.messages with
  | [] => .error .panic
  | message :: _ => do
    ensure (message.minPayloadBytes ≤ 8 ∧ 272 ≤ message.maxPayloadBytes) .liveDataBufferV3
    .ok ⟨spec, message.minPayloadBytes, min message.maxPayloadBytes spec.maxPayloadBytes,
      liveChunk spec, newEngine source spec.padding 0⟩

variable (c : LiveDataCodecV3 source)

/-- The message every frame of the codec carries. -/
def LiveDataCodecV3.dataMessage : Except FramingError CodecMessage :=
  match c.spec.messages with
  | [] => .error .panic
  | message :: _ => .ok message

/-- The largest padding of a frame. -/
def LiveDataCodecV3.paddingBound : Int :=
  if c.spec.padding.mode ≠ .known .none then c.spec.padding.maxPaddingBytes else 0

/-- The closure `frameSize` of `Bounds`: a frame with a payload of `n` bytes, the
largest padding and four bytes of stream identifier. -/
def LiveDataCodecV3.frameBound (n : ℕ) :
    Except FramingError ℕ := do
  let message ← c.dataMessage
  let body := message.typeTag.length + 4 + 9 + 51 + n + c.paddingBound.toNat + checksumSize c.spec
  ensure ((body : Int) ≤ c.spec.maxFrameBytes ∧ body ≤ 2 ^ 32 - 1) .liveDataBufferV3
  let wrapper ← lengthWrapperSize c.spec body
  .ok (body + wrapper)

/-- The sizes of the largest frame and of all frames together: `count - 1` frames of
a whole chunk and one of the rest. -/
def LiveDataCodecV3.frameBounds (count last : ℕ) :
    Except FramingError (ℕ × ℕ) := do
  let tail ← c.frameBound last
  if 1 < count then do
    let full ← c.frameBound c.chunk.toNat
    .ok (max full tail, tail + (count - 1) * full)
  else .ok (tail, tail)

def LiveDataCodecV3.bounds (payloadBytes : Int) :
    Except FramingError LiveDataBoundsV3 := do
  ensure (0 < payloadBytes ∧ c.minPayload ≤ payloadBytes ∧ payloadBytes ≤ c.maxPayload)
    .liveDataBufferV3
  let count := 1 + (payloadBytes - 1) / c.chunk
  ensure (count ≤ 256) .liveDataBufferV3
  ensure (c.paddingBound ≤ 65535) .liveDataBufferV3
  let last := payloadBytes - (count - 1) * c.chunk
  let sizes ← c.frameBounds count.toNat last.toNat
  ensure (sizes.2 ≤ 2 ^ 32 - 1 ∧ sizes.1 ≤ 2 ^ 32 - 1) .liveDataBufferV3
  .ok ⟨UInt32.ofNat sizes.2, UInt32.ofNat sizes.1, UInt16.ofNat count.toNat,
    UInt32.ofNat c.paddingBound.toNat⟩

/-! ## Encoding -/

/-- The caller's buffers and the progress of the encoder. -/
structure EncodeStateV3 (source : RandSource) where
  frames : List UInt8
  scratch : List UInt8
  spans : List FrameSpanV3
  engine : Engine source
  pos : ℕ
  offset : ℕ

/-- What every round of the encoder reads. -/
structure EncodeInputV3 where
  message : CodecMessage
  metadata : List UInt8
  payload : List UInt8
  streamID : UInt32
  count : ℕ
  paddingBytes : ℕ

/-- Write frame number `i`. The source drops the errors of the padding engine and
of the frame size here, which the bounds have excluded; the model returns them. -/
def LiveDataCodecV3.encodeRound (input : EncodeInputV3)
    (i : ℕ) (s : EncodeStateV3 source) : Except FramingError (EncodeStateV3 source) := do
  let size := min c.chunk.toNat (input.payload.length - s.offset)
  let drawn ← s.engine.generateInto (s.scratch.take input.paddingBytes)
  let scratch := splice s.scratch 0 drawn.2.1
  let sizes ← frameSizeWithSpec c.spec input.message input.streamID
    (input.metadata.length + size + drawn.1)
  let n := sizes.1 + sizes.2
  ensure (s.pos + n ≤ s.frames.length) .panic
  let written ← writeFrameWithSpec c.spec ((s.frames.drop s.pos).take n) input.message
    input.streamID input.metadata ((input.payload.drop s.offset).take size)
    (scratch.take drawn.1) i input.count sizes.1 sizes.2
  .ok {
    frames := splice s.frames s.pos written
    scratch := scratch
    spans := s.spans.set i ⟨UInt32.ofNat s.pos, UInt32.ofNat n⟩
    engine := drawn.2.2
    pos := s.pos + n
    offset := s.offset + size }

/-- The rounds `i`, `i + 1`, … of the encoder. -/
def LiveDataCodecV3.encodeRounds (c : LiveDataCodecV3 source) (input : EncodeInputV3) :
    ℕ → ℕ → EncodeStateV3 source → Except FramingError (EncodeStateV3 source)
  | 0, _, s => .ok s
  | rounds + 1, i, s => do
    let next ← c.encodeRound input i s
    encodeRounds c input rounds (i + 1) next

/-- The six pairs of buffers which must not overlap. -/
def encodeBuffersOverlap (framesDst paddingScratch payload : Slice) (spans : SpanTable) :
    Bool :=
  let spanBytes := 256 * frameSpanBytes
  byteSlicesOverlap framesDst paddingScratch || byteSlicesOverlap framesDst payload ||
    byteSlicesOverlap paddingScratch payload ||
    regionsOverlap spans.address spanBytes framesDst.address framesDst.bytes.length ||
    regionsOverlap spans.address spanBytes paddingScratch.address paddingScratch.bytes.length ||
    regionsOverlap spans.address spanBytes payload.address payload.bytes.length

/-- `encodeDataInto`. The result is the state of the buffers, in which `pos` is the
number of bytes written, and the number of frames. `spans` may be nil. -/
def LiveDataCodecV3.encodeDataInto
    (framesDst paddingScratch payload : Slice) (streamID : UInt32) (seed : Int64)
    (spans : Option SpanTable) (sequence : UInt64) :
    Except FramingError (EncodeStateV3 source × ℕ) := do
  let b ← c.bounds payload.bytes.length
  match spans with
  | none => .error .liveDataBufferV3
  | some spans => do
    ensure (2 ≤ streamID.toNat ∧ streamID.toNat ≤ 65534 ∧
      b.frameBytes.toNat ≤ framesDst.bytes.length ∧
      b.paddingBytes.toNat ≤ paddingScratch.bytes.length) .liveDataBufferV3
    ensure (encodeBuffersOverlap framesDst paddingScratch payload spans = false) .liveDataBufferV3
    let message ← c.dataMessage
    let metadata ← writeOperationMetadata { sequence := sequence } ⟨List.replicate 51 0, 0⟩
    let input : EncodeInputV3 := ⟨message, metadata.buffer, payload.bytes, streamID,
      b.frameCount.toNat, b.paddingBytes.toNat⟩
    let done ← c.encodeRounds input b.frameCount.toNat 0 {
      frames := framesDst.bytes
      scratch := paddingScratch.bytes
      spans := spans.entries.toList
      engine := c.engine.resetSeed seed
      pos := 0
      offset := 0 }
    .ok (done, b.frameCount.toNat)

def LiveDataCodecV3.encodeInto
    (framesDst paddingScratch payload : Slice) (streamID : UInt32) (seed : Int64)
    (spans : Option SpanTable) : Except FramingError (EncodeStateV3 source × ℕ) :=
  c.encodeDataInto framesDst paddingScratch payload streamID seed spans 0

def LiveDataCodecV3.encodePacketV2Into
    (framesDst paddingScratch payload : Slice) (streamID : UInt32) (seed : Int64)
    (spans : Option SpanTable) : Except FramingError (EncodeStateV3 source × ℕ) :=
  c.encodeDataInto framesDst paddingScratch payload streamID seed spans streamID.toUInt64

/-! ## Decoding -/

/-- The frame bytes a span selects. -/
def spanFrame (frameBytes : List UInt8) (span : FrameSpanV3) : List UInt8 :=
  (frameBytes.drop span.offset.toNat).take span.length.toNat

/-- The first loop of `DecodeInto`: ordered spans without gaps, from `position` on. -/
def checkSpans (total : ℕ) : ℕ → List FrameSpanV3 → Except FramingError ℕ
  | position, [] => .ok position
  | position, span :: spans => do
    ensure (span.length ≠ 0 ∧ span.offset.toNat = position) .liveDataBufferV3
    ensure (position + span.length.toNat ≤ total) .liveDataBufferV3
    checkSpans total (position + span.length.toNat) spans

/-- One round of the second loop: compare a fragment with the first one and add its
payload to `total`. -/
def LiveDataCodecV3.checkFragment (count i : ℕ)
    (expected part : FrameView) (total : ℕ) : Except FramingError ℕ := do
  ensure (i = 0 → part.fragCount = count) (.fragment .missing)
  ensure (part.fragCount = expected.fragCount) (.fragment .conflictingCount)
  ensure (part.fragIndex < count) (.fragment .outOfRange)
  ensure (i ≤ part.fragIndex) (.fragment .duplicate)
  ensure (part.fragIndex = i) (.fragment .reordered)
  ensure (part.msg.semantic = expected.msg.semantic) (.fragment .semantic)
  ensure (part.streamID = expected.streamID) (.fragment .stream)
  ensure (part.msg.wireSymbol = expected.msg.wireSymbol) (.fragment .message)
  ensure (part.metadata.validOperation ∧ part.metadata.equal expected.metadata)
    (.fragment .operation)
  ensure (part.msg.semantic = .known .data ∧ 2 ≤ part.streamID.toNat ∧
    part.streamID.toNat ≤ 65534 ∧ (part.bodyBytes : Int) ≤ c.spec.maxFrameBytes ∧
    (part.payload.length : Int) ≤ c.maxPayload - total) .liveDataBufferV3
  .ok (total + part.payload.length)

/-- The second loop from round `i` on; the first fragment is the expected one. -/
def LiveDataCodecV3.checkFragments (c : LiveDataCodecV3 source) (frameBytes : List UInt8)
    (count : ℕ) : ℕ → Option FrameView → ℕ → List FrameSpanV3 →
      Except FramingError (Option FrameView × ℕ)
  | _, expected, total, [] => .ok (expected, total)
  | i, expected, total, span :: spans => do
    let part ← parseFrameView c.spec (spanFrame frameBytes span)
    let first := expected.getD part
    let next ← c.checkFragment count i first part total
    checkFragments c frameBytes count (i + 1) (some first) next spans

/-- The last loop: copy the payloads behind each other. -/
def LiveDataCodecV3.copyPayloads (c : LiveDataCodecV3 source) (frameBytes : List UInt8) :
    List FrameSpanV3 → Write FramingError
  | [], cursor => .ok cursor
  | span :: spans, cursor => do
    let part ← parseFrameView c.spec (spanFrame frameBytes span)
    let next ← copy .panic part.payload cursor
    copyPayloads c frameBytes spans next

/-- `DecodeInto`: the information about the payload and the destination afterwards. -/
def LiveDataCodecV3.decodeInto (payloadDst frameBytes : Slice)
    (spans : SpanSlice) : Except FramingError (LiveDataInfoV3 × List UInt8) := do
  ensure (spans.entries ≠ []) (.fragment .empty)
  ensure (spans.entries.length ≤ 256 ∧ byteSlicesOverlap payloadDst frameBytes = false)
    .liveDataBufferV3
  ensure (regionsOverlap payloadDst.address payloadDst.bytes.length spans.address
    (spans.entries.length * frameSpanBytes) = false) .liveDataBufferV3
  let last ← checkSpans frameBytes.bytes.length 0 spans.entries
  ensure (last = frameBytes.bytes.length) .liveDataBufferV3
  let checked ← c.checkFragments frameBytes.bytes spans.entries.length 0 none 0 spans.entries
  let total := checked.2
  ensure (0 < total ∧ c.minPayload ≤ total ∧ total ≤ payloadDst.bytes.length) .liveDataBufferV3
  let copied ← c.copyPayloads frameBytes.bytes spans.entries ⟨payloadDst.bytes.take total, 0⟩
  let streamID := (checked.1.map FrameView.streamID).getD 0
  .ok (⟨streamID, UInt32.ofNat total⟩, splice payloadDst.bytes 0 copied.buffer)

end Kurdistan.Framing
