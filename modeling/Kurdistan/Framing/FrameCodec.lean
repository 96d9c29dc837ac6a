import Kurdistan.Support.Uvarint
import Kurdistan.Framing.Operation

/-!
# The frame codec

Writing one frame into a destination and parsing one frame. The layout is
defined by the codec specification: the length wrapper, the order of the header
fields, the encoding of the stream identifier, the place of the padding and the
optional checksum. `parseFrameView` is shared by the allocating codec and by the
caller-buffer codec.
-/

namespace Kurdistan.Framing

open Support Protocol

/-! ## Writing the header -/

variable (spec : CodecSpec)

/-- The bytes `writeStreamID` leaves at the front of its five-byte buffer. -/
def writeStreamID (streamID : UInt32) : Except FramingError (List UInt8) :=
  match spec.streamEncodingMode with
  | .known .fixed32BE | .other "" => .ok (putUint32 streamID)
  | .known .profileXOR32 => .ok (putUint32 (streamID ^^^ spec.profileXORStreamMask))
  | .known .tableMapped32LE =>
    .ok (littleEndian 4 (streamID ^^^ spec.tableStreamMask).toNat)
  | .known .varint => .ok (putUvarint streamID.toUInt64)
  | _ => .error (.text "unsupported stream id encoding")

/-- The flags byte: more than one fragment, and padding present. -/
def flagsByte (fragCount padLen : ℕ) : UInt8 :=
  (if 1 < fragCount then 1 else 0) ||| (if 0 < padLen then 2 else 0)

def writeHeaderField (msg : CodecMessage) (stream : List UInt8)
    (fragIndex fragCount padLen : ℕ) : Choice HeaderField → Write FramingError
  | .known .type => writeText msg.typeTag
  | .known .stream => writeText stream
  | .known .flags => fun c => do
    let c ← put .panic [flagsByte fragCount padLen] c
    let c ← put .panic (putUint16 (UInt16.ofNat fragIndex)) c
    let c ← put .panic (putUint16 (UInt16.ofNat fragCount)) c
    put .panic (putUint16 (UInt16.ofNat padLen)) c
  | _ => fun c => .ok c

def writeHeaderFields (msg : CodecMessage) (streamID : UInt32)
    (fragIndex fragCount padLen : ℕ) : Write FramingError := fun c => do
  let stream ← writeStreamID spec streamID
  ensure (msg.typeTag.length ≤ 255) (.text "type tag too long")
  writeAll (writeHeaderField msg stream fragIndex fragCount padLen) spec.headerOrder c

/-! ## Sizes -/

def lengthWrapperSize (bodyBytes : ℕ) : Except FramingError ℕ :=
  match spec.lengthMode with
  | .known .varintPrefix => .ok (uvarintSize (UInt64.ofNat bodyBytes))
  | .known .fixed2Prefix =>
    if 65535 < bodyBytes then .error (.text "frame too large for fixed 2-byte length")
    else .ok 2
  | .known .fixed4Prefix | .known .lengthSuffixLab => .ok 4
  | _ => .error (.text "unsupported length mode")

/-- The bytes one occurrence of a header field takes. -/
def headerFieldSize (msg : CodecMessage) (streamBytes : ℕ) : Choice HeaderField → ℕ
  | .known .type => 1 + msg.typeTag.length
  | .known .stream => 1 + streamBytes
  | .known .flags => 7
  | _ => 0

/-- The loop of `headerFieldsSize`, which counts every occurrence. -/
def headerFieldsSizeFrom (msg : CodecMessage) (streamBytes : ℕ) (limit : Int) :
    ℕ → List (Choice HeaderField) → Except FramingError ℕ
  | size, [] => .ok size
  | size, field :: rest => do
    let fieldBytes := headerFieldSize msg streamBytes field
    ensure ((fieldBytes : Int) ≤ limit - size) (.text "frame exceeds profile limit")
    headerFieldsSizeFrom msg streamBytes limit (size + fieldBytes) rest

def headerFieldsSize (msg : CodecMessage) (streamID : UInt32)
    (limit : Int) : Except FramingError ℕ := do
  let stream ← writeStreamID spec streamID
  ensure (msg.typeTag.length ≤ 255) (.text "type tag too long")
  ensure (0 ≤ limit) (.text "frame exceeds profile limit")
  headerFieldsSizeFrom msg stream.length limit 0 spec.headerOrder

def checksumSize : ℕ :=
  if spec.checksumMode = .known .crc32 then 4 else 0

/-- The sizes of the body and of the length wrapper. -/
def frameSizeWithSpec (msg : CodecMessage) (streamID : UInt32)
    (contentBytes : ℕ) : Except FramingError (ℕ × ℕ) := do
  ensure ((contentBytes : Int) ≤ spec.maxFrameBytes) (.text "frame exceeds profile limit")
  ensure ((checksumSize spec : Int) ≤ spec.maxFrameBytes - contentBytes)
    (.text "frame exceeds profile limit")
  let headerBytes ← headerFieldsSize spec msg streamID
    (spec.maxFrameBytes - contentBytes - checksumSize spec)
  let bodyBytes := headerBytes + contentBytes + checksumSize spec
  let wrapperBytes ← lengthWrapperSize spec bodyBytes
  ensure ((wrapperBytes : Int) ≤ 2 ^ 63 - 1 - bodyBytes) (.text "frame length overflow")
  .ok (bodyBytes, wrapperBytes)

/-! ## Writing a frame -/

def crcForSpec (body : List UInt8) : UInt32 :=
  crc32Update spec.crc32PrefixState body

/-- Copy the padding when it belongs at this place. -/
def writePadding (here : Prop) [Decidable here] (pad : List UInt8) : Write FramingError :=
  fun c => if here then copy .panic pad c else .ok c

/-- The checksum of what was written so far. -/
def writeChecksum : Write FramingError := fun c =>
  if spec.checksumMode = .known .crc32 then
    put .panic (putUint32 (crcForSpec spec (c.buffer.take c.pos))) c
  else .ok c

/-- Everything of the body before the checksum. -/
def writeContent (msg : CodecMessage) (streamID : UInt32)
    (metadata payload pad : List UInt8) (fragIndex fragCount : ℕ) :
    Write FramingError := fun c => do
  let c ← writeHeaderFields spec msg streamID fragIndex fragCount pad.length c
  let c ← writePadding (spec.paddingPlacement = .known .before) pad c
  let c ← copy .panic metadata c
  let c ← copy .panic payload c
  writePadding (spec.paddingPlacement ≠ .known .before) pad c

/-- The length wrapper, written around a finished body. -/
def writeLength (bodyBytes : ℕ) (dst : List UInt8) :
    Except FramingError Cursor :=
  match spec.lengthMode with
  | .known .varintPrefix => put .panic (putUvarint (UInt64.ofNat bodyBytes)) ⟨dst, 0⟩
  | .known .fixed2Prefix => put .panic (putUint16 (UInt16.ofNat bodyBytes)) ⟨dst, 0⟩
  | .known .fixed4Prefix => put .panic (putUint32 (UInt32.ofNat bodyBytes)) ⟨dst, 0⟩
  | .known .lengthSuffixLab =>
    put .panic (putUint32 (UInt32.ofNat bodyBytes)) ⟨dst, bodyBytes⟩
  | _ => .ok ⟨dst, 0⟩

/-- Write a frame into `dst` and return its new contents. The source drops the
error of `writeHeaderFields` here; callers have asked for the frame size before,
which fails on the same inputs. -/
def writeFrameWithSpec (dst : List UInt8) (msg : CodecMessage)
    (streamID : UInt32) (metadata payload pad : List UInt8)
    (fragIndex fragCount bodyBytes wrapperBytes : ℕ) :
    Except FramingError (List UInt8) := do
  let start := if spec.lengthMode = .known .lengthSuffixLab then 0 else wrapperBytes
  ensure (start + bodyBytes ≤ dst.length) .panic
  let body := (dst.drop start).take bodyBytes
  let written ← writeContent spec msg streamID metadata payload pad fragIndex fragCount ⟨body, 0⟩
  let finished ← writeChecksum spec written
  let wrapped ← writeLength spec bodyBytes (splice dst start finished.buffer)
  .ok wrapped.buffer

/-- The sizes are added one after the other, each against what is left. -/
def contentSize (maxFrameBytes : Int) : ℕ → List ℕ → Except FramingError ℕ
  | contentBytes, [] => .ok contentBytes
  | contentBytes, size :: rest => do
    ensure ((size : Int) ≤ maxFrameBytes - contentBytes)
      (.text "frame exceeds profile limit")
    contentSize maxFrameBytes (contentBytes + size) rest

def encodeFrameWithSpec (op : Operation) (pad : List UInt8)
    (fragIndex fragCount : ℕ) : Except FramingError (List UInt8) :=
  match spec.messageBySemantic op.semantic with
  | none => .error (.text "unknown semantic")
  | some msg => do
    ensure (0 < pad.length → spec.padding.minPaddingBytes ≤ pad.length ∧
      (pad.length : Int) ≤ spec.padding.maxPaddingBytes) (.text "padding outside bounds")
    let metadata ← encodeOperationMetadata op
    let contentBytes ← contentSize spec.maxFrameBytes 0
      [metadata.length, op.payload.length, pad.length]
    let sizes ← frameSizeWithSpec spec msg op.streamID contentBytes
    writeFrameWithSpec spec (List.replicate (sizes.1 + sizes.2) 0) msg op.streamID metadata
      op.payload pad fragIndex fragCount sizes.1 sizes.2

/-! ## Parsing a frame -/

/-- The body announced by the length wrapper. `int(length)` wraps to 64 bits. -/
def unwrapLengthWithSpec (frame : List UInt8) :
    Except FramingError (List UInt8) :=
  match spec.lengthMode with
  | .known .varintPrefix =>
    match uvarint frame with
    | none => .error (.text "invalid varint length")
    | some (length, n) => do
      ensure ((Int64.ofInt length).toInt = frame.length - n)
        (.text "frame length mismatch")
      .ok (frame.drop n)
  | .known .fixed2Prefix => do
    ensure (2 ≤ frame.length) .unexpectedEOF
    ensure ((getUint16 frame).toNat = frame.length - 2) (.text "frame length mismatch")
    .ok (frame.drop 2)
  | .known .fixed4Prefix => do
    ensure (4 ≤ frame.length) .unexpectedEOF
    ensure ((getUint32 frame).toNat = frame.length - 4) (.text "frame length mismatch")
    .ok (frame.drop 4)
  | .known .lengthSuffixLab => do
    ensure (4 ≤ frame.length) .unexpectedEOF
    ensure ((getUint32 (frame.drop (frame.length - 4))).toNat = frame.length - 4)
      (.text "frame length mismatch")
    .ok (frame.take (frame.length - 4))
  | _ => .error (.text "unsupported length mode")

def decodeStreamIDWithSpec (encoded : List UInt8) : Except FramingError UInt32 :=
  match spec.streamEncodingMode with
  | .known .fixed32BE | .other "" => do
    ensure (encoded.length = 4) (.text "invalid fixed stream id length")
    .ok (getUint32 encoded)
  | .known .profileXOR32 => do
    ensure (encoded.length = 4) (.text "invalid xor stream id length")
    .ok (getUint32 encoded ^^^ spec.profileXORStreamMask)
  | .known .tableMapped32LE => do
    ensure (encoded.length = 4) (.text "invalid table stream id length")
    .ok (UInt32.ofNat (littleEndianValue encoded) ^^^ spec.tableStreamMask)
  | .known .varint =>
    match uvarint encoded with
    | none => .error (.text "invalid varint stream id")
    | some (value, _) => do
      ensure (value ≤ 2 ^ 32 - 1) (.text "invalid varint stream id")
      .ok (UInt32.ofNat value)
  | _ => .error (.text "unsupported stream id encoding")

/-- What the header has told so far; the message is absent before a type field. -/
structure HeaderView where
  msg : Option CodecMessage := none
  streamID : UInt32 := 0
  fragIndex : ℕ := 0
  fragCount : ℕ := 1
  padLen : ℕ := 0

/-- Split a length-prefixed byte string from the front. -/
def takeText : List UInt8 → Except FramingError (List UInt8 × List UInt8)
  | [] => .error .unexpectedEOF
  | size :: rest =>
    if rest.length < size.toNat then .error .unexpectedEOF
    else .ok (rest.take size.toNat, rest.drop size.toNat)

def decodeHeaderField (header : HeaderView) (rest : List UInt8) :
    Choice HeaderField → Except FramingError (HeaderView × List UInt8)
  | .known .type => do
    let tag ← takeText rest
    match spec.messageByTag tag.1 with
    | none => .error (.text "unknown type tag")
    | some found => .ok ({ header with msg := some found }, tag.2)
  | .known .stream => do
    let encoded ← takeText rest
    ensure (encoded.1 ≠ []) .unexpectedEOF
    let id ← decodeStreamIDWithSpec spec encoded.1
    .ok ({ header with streamID := id }, encoded.2)
  | .known .flags => do
    ensure (7 ≤ rest.length) .unexpectedEOF
    .ok ({ header with
      fragIndex := (getUint16 (rest.drop 1)).toNat
      fragCount := (getUint16 (rest.drop 3)).toNat
      padLen := (getUint16 (rest.drop 5)).toNat }, rest.drop 7)
  | _ => .ok (header, rest)

def decodeHeaderFields (spec : CodecSpec) :
    List (Choice HeaderField) → HeaderView → List UInt8 →
      Except FramingError (HeaderView × List UInt8)
  | [], header, rest => .ok (header, rest)
  | field :: fields, header, rest => do
    let decoded ← decodeHeaderField spec header rest field
    decodeHeaderFields spec fields decoded.1 decoded.2

/-- The message, the header and the section behind it. -/
def decodeHeaderAndPayloadWithSpec (body : List UInt8) :
    Except FramingError (CodecMessage × HeaderView × List UInt8) := do
  let decoded ← decodeHeaderFields spec spec.headerOrder {} body
  match decoded.1.msg with
  | none => .error (.text "missing type tag")
  | some msg => do
    ensure (0 < decoded.1.fragCount) (.text "invalid fragment count")
    .ok (msg, decoded.1, decoded.2)

structure FrameView where
  msg : CodecMessage
  streamID : UInt32
  fragIndex : ℕ
  fragCount : ℕ
  padLen : ℕ
  bodyBytes : ℕ
  metadata : MetadataView
  payload : List UInt8

/-- Check and remove the checksum, when there is one. -/
def stripChecksum (body : List UInt8) : Except FramingError (List UInt8) :=
  if spec.checksumMode = .known .crc32 then do
    ensure (4 ≤ body.length) (.text "missing checksum")
    let content := body.take (body.length - 4)
    ensure (crcForSpec spec content = getUint32 (body.drop (body.length - 4)))
      (.text "checksum mismatch")
    .ok content
  else .ok body

/-- Remove `padLen` bytes of padding from its end of the section. -/
def stripPadding (padLen : ℕ) (content : List UInt8) : List UInt8 :=
  if spec.paddingPlacement = .known .before then content.drop padLen
  else content.take (content.length - padLen)

def parseFrameView (frame : List UInt8) :
    Except FramingError FrameView := do
  ensure (frame ≠ [] ∧ (frame.length : Int) ≤ spec.maxFrameBytes + maxVarintLen64)
    (.text "invalid frame size")
  let body ← unwrapLengthWithSpec spec frame
  let content ← stripChecksum spec body
  let decoded ← decodeHeaderAndPayloadWithSpec spec content
  let header := decoded.2.1
  ensure (header.padLen ≤ decoded.2.2.length)
    (.text "padding length exceeds payload section")
  let parsed ← parseMetadataView (stripPadding spec header.padLen decoded.2.2)
  ensure ((parsed.2.length : Int) ≤ spec.maxPayloadBytes)
    (.text "payload exceeds profile limit")
  .ok ⟨decoded.1, header.streamID, header.fragIndex, header.fragCount, header.padLen,
    body.length, parsed.1, parsed.2⟩

structure DecodedFrame where
  operation : Operation
  wireSymbol : List UInt8
  frameBytes : ℕ
  payloadBytes : ℕ
  paddingBytes : ℕ
  fragIndex : ℕ
  fragCount : ℕ
  deriving DecidableEq

/-- The decoded frame of a parsed view. -/
def FrameView.decoded (view : FrameView) (frameBytes : ℕ) : DecodedFrame where
  operation :=
    { view.metadata.materialize with
      semantic := view.msg.semantic
      streamID := view.streamID
      payload := view.payload }
  wireSymbol := view.msg.wireSymbol
  frameBytes := frameBytes
  payloadBytes := view.payload.length
  paddingBytes := view.padLen
  fragIndex := view.fragIndex
  fragCount := view.fragCount

def decodeFrameWithSpec (frame : List UInt8) :
    Except FramingError DecodedFrame := do
  let view ← parseFrameView spec frame
  .ok (view.decoded frame.length)

end Kurdistan.Framing
