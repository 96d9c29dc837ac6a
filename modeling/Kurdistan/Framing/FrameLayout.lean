import Kurdistan.Framing.FrameCodec

/-!
# The layout of a frame

`FrameParts.frame` describes a frame as the concatenation of its parts. The
writer produces exactly this byte string, and the parser takes it apart again, for
every header order, stream encoding, padding placement, checksum and length mode.
-/

namespace Kurdistan.Framing

open Support Protocol List

/-! ## Layout -/

/-- What one frame carries, with the stream identifier already encoded. -/
structure FrameParts where
  msg : CodecMessage
  stream : List UInt8
  metadata : List UInt8
  payload : List UInt8
  pad : List UInt8
  fragIndex : ℕ
  fragCount : ℕ

variable (f : FrameParts)

def FrameParts.fieldBytes : Choice HeaderField → List UInt8
  | .known .type => textBytes f.msg.typeTag
  | .known .stream => textBytes f.stream
  | .known .flags =>
    [flagsByte f.fragCount f.pad.length] ++ (putUint16 (UInt16.ofNat f.fragIndex) ++
      (putUint16 (UInt16.ofNat f.fragCount) ++ putUint16 (UInt16.ofNat f.pad.length)))
  | _ => []

def FrameParts.headerBytes (spec : CodecSpec) : List UInt8 :=
  spec.headerOrder.flatMap f.fieldBytes

/-- Everything between the header and the checksum. -/
def FrameParts.blockBytes (spec : CodecSpec) : List UInt8 :=
  if spec.paddingPlacement = .known .before then f.pad ++ (f.metadata ++ f.payload)
  else f.metadata ++ (f.payload ++ f.pad)

def FrameParts.content (spec : CodecSpec) : List UInt8 :=
  f.headerBytes spec ++ f.blockBytes spec

/-- The checksum which follows the content. -/
def checksumBytes (spec : CodecSpec) (content : List UInt8) : List UInt8 :=
  if spec.checksumMode = .known .crc32 then putUint32 (crcForSpec spec content) else []

def FrameParts.body (spec : CodecSpec) : List UInt8 :=
  f.content spec ++ checksumBytes spec (f.content spec)

/-- Wrap a body in its length. -/
def wrapLength (spec : CodecSpec) (body : List UInt8) : List UInt8 :=
  match spec.lengthMode with
  | .known .varintPrefix => putUvarint (UInt64.ofNat body.length) ++ body
  | .known .fixed2Prefix => putUint16 (UInt16.ofNat body.length) ++ body
  | .known .fixed4Prefix => putUint32 (UInt32.ofNat body.length) ++ body
  | .known .lengthSuffixLab => body ++ putUint32 (UInt32.ofNat body.length)
  | _ => body

def FrameParts.frame (spec : CodecSpec) : List UInt8 :=
  wrapLength spec (f.body spec)

/-! ## Sizes -/

theorem length_fieldBytes (field : Choice HeaderField) :
    (f.fieldBytes field).length = headerFieldSize f.msg f.stream.length field := by
  rcases field with field | text
  · cases field <;> simp [FrameParts.fieldBytes, headerFieldSize, textBytes] <;> omega
  · rfl

@[simp] theorem length_checksumBytes (spec : CodecSpec) (content : List UInt8) :
    (checksumBytes spec content).length = checksumSize spec := by
  unfold checksumBytes checksumSize
  split <;> simp

theorem length_headerBytes (spec : CodecSpec) :
    (f.headerBytes spec).length =
      (spec.headerOrder.map (headerFieldSize f.msg f.stream.length)).sum := by
  rw [FrameParts.headerBytes, length_flatMap]
  congr 1
  exact map_congr_left fun field _ => length_fieldBytes f field

theorem length_blockBytes (spec : CodecSpec) :
    (f.blockBytes spec).length = f.metadata.length + f.payload.length + f.pad.length := by
  unfold FrameParts.blockBytes
  split <;> simp only [length_append] <;> omega

theorem length_body (spec : CodecSpec) :
    (f.body spec).length =
      (spec.headerOrder.map (headerFieldSize f.msg f.stream.length)).sum +
        (f.metadata.length + f.payload.length + f.pad.length) + checksumSize spec := by
  rw [FrameParts.body, FrameParts.content, length_append, length_append,
    length_headerBytes, length_blockBytes, length_checksumBytes]

/-- The size loop succeeds exactly when the header fits under the limit. -/
theorem headerFieldsSizeFrom_eq_ok (msg : CodecMessage) (streamBytes : ℕ)
    (order : List (Choice HeaderField)) {size result : ℕ} {limit : Int}
    (hsize : (size : Int) ≤ limit) :
    headerFieldsSizeFrom msg streamBytes limit size order = .ok result ↔
      result = size + (order.map (headerFieldSize msg streamBytes)).sum ∧
        (result : Int) ≤ limit := by
  induction order generalizing size with
  | nil =>
    simp only [headerFieldsSizeFrom, Except.ok.injEq, map_nil, sum_nil]
    omega
  | cons field order ih =>
    rw [headerFieldsSizeFrom, check_ok_iff, ensure_eq_ok, map_cons, sum_cons]
    constructor
    · rintro ⟨hfield, hrest⟩
      obtain ⟨hresult, hlimit⟩ := (ih (by omega)).mp hrest
      exact ⟨by omega, hlimit⟩
    · rintro ⟨hresult, hlimit⟩
      exact ⟨by omega, (ih (by omega)).mpr ⟨by omega, hlimit⟩⟩

variable {wrapperBytes : ℕ} {spec : CodecSpec} {streamID : UInt32}

/-- The size computation succeeds exactly when the stream identifier can be encoded,
the tag has a length byte, the body fits and so does its wrapper. -/
theorem frameSizeWithSpec_eq_ok {msg : CodecMessage} {contentBytes bodyBytes : ℕ} :
    frameSizeWithSpec spec msg streamID contentBytes = .ok (bodyBytes, wrapperBytes) ↔
      (∃ stream, writeStreamID spec streamID = .ok stream ∧
        bodyBytes = (spec.headerOrder.map (headerFieldSize msg stream.length)).sum +
          contentBytes + checksumSize spec) ∧
      msg.typeTag.length ≤ 255 ∧ (bodyBytes : Int) ≤ spec.maxFrameBytes ∧
      lengthWrapperSize spec bodyBytes = .ok wrapperBytes ∧
      (wrapperBytes : Int) ≤ 2 ^ 63 - 1 - bodyBytes := by
  simp only [frameSizeWithSpec, headerFieldsSize, bind_ok_iff, ensure_ok_iff, exists_const]
  constructor
  · rintro ⟨hcontent, hchecksum, headerBytes, ⟨stream, hstream, htag, hlimit, hheader⟩, wrapper,
      hwrapper, hoverflow, ⟨⟩⟩
    obtain ⟨hsum, hfits⟩ := (headerFieldsSizeFrom_eq_ok _ _ _ (by omega)).mp hheader
    exact ⟨⟨stream, hstream, by omega⟩, htag, by omega, hwrapper, hoverflow⟩
  · rintro ⟨⟨stream, hstream, rfl⟩, htag, hfits, hwrapper, hoverflow⟩
    have hzero : ((0 : ℕ) : Int) ≤ spec.maxFrameBytes - contentBytes - checksumSize spec := by omega
    have hheader := (headerFieldsSizeFrom_eq_ok msg stream.length spec.headerOrder
      hzero).mpr ⟨rfl, by omega⟩
    rw [Nat.zero_add] at hheader
    exact ⟨by omega, by omega, _, ⟨stream, hstream, htag, by omega, hheader⟩, _, hwrapper,
      hoverflow, rfl⟩

/-! ## Writing -/

theorem emits_writeHeaderField (field : Choice HeaderField) :
    Emits (writeHeaderField f.msg f.stream f.fragIndex f.fragCount f.pad.length field)
      (f.fieldBytes field) := by
  rcases field with field | text
  · cases field with
    | length => exact emits_pure
    | type => exact emits_writeText _
    | stream => exact emits_writeText _
    | flags =>
      apply (emits_put _ _).bind
      apply (emits_put _ _).bind
      exact (emits_put _ _).bind (emits_put _ _)
  · exact emits_pure

theorem emits_writePadding (here : Prop) [Decidable here] (pad : List UInt8) :
    Emits (writePadding here pad) (if here then pad else []) := by
  unfold writePadding
  by_cases h : here
  · simpa only [if_pos h] using emits_copy FramingError.panic pad
  · simpa only [if_neg h] using emits_pure

theorem emits_writeHeaderFields
    (hstream : writeStreamID spec streamID = .ok f.stream) (htag : f.msg.typeTag.length ≤ 255) :
    Emits (writeHeaderFields spec f.msg streamID f.fragIndex f.fragCount f.pad.length)
      (f.headerBytes spec) := by
  have hwriter :
      writeHeaderFields spec f.msg streamID f.fragIndex f.fragCount f.pad.length =
        writeAll (writeHeaderField f.msg f.stream f.fragIndex f.fragCount f.pad.length)
          spec.headerOrder := by
    funext c
    rw [writeHeaderFields, hstream, ok_bind, ensure_of_pos htag, ok_bind]
  rw [hwriter]
  exact emits_writeAll fun field _ => emits_writeHeaderField f field

theorem emits_writeContent
    (hstream : writeStreamID spec streamID = .ok f.stream) (htag : f.msg.typeTag.length ≤ 255) :
    Emits (writeContent spec f.msg streamID f.metadata f.payload f.pad f.fragIndex
      f.fragCount) (f.content spec) := by
  have hcontent : f.content spec = f.headerBytes spec ++
      ((if spec.paddingPlacement = .known .before then f.pad else []) ++
        (f.metadata ++ (f.payload ++
          if spec.paddingPlacement ≠ .known .before then f.pad else []))) := by
    rw [FrameParts.content, FrameParts.blockBytes]
    by_cases h : spec.paddingPlacement = .known .before
    · simp [h]
    · simp [h]
  rw [hcontent]
  apply (emits_writeHeaderFields f hstream htag).bind
  apply (emits_writePadding _ _).bind
  apply (emits_copy _ _).bind
  exact (emits_copy _ _).bind (emits_writePadding _ _)

/-- The checksum covers everything written before it. -/
theorem writeChecksum_eq (spec : CodecSpec) (content : List UInt8) {rest : List UInt8}
    (hrest : rest.length = checksumSize spec) :
    writeChecksum spec ⟨content ++ rest, content.length⟩ =
      .ok ⟨content ++ checksumBytes spec content,
        (content ++ checksumBytes spec content).length⟩ := by
  unfold writeChecksum checksumBytes
  by_cases h : spec.checksumMode = .known .crc32
  · have hfour : rest.length = 4 := by rw [hrest, checksumSize, if_pos h]
    rw [if_pos h, if_pos h, take_left]
    rw [emits_put FramingError.panic _ content rest (by simp [hfour])]
    rw [drop_of_length_le (by simp [hfour]), append_nil]
  · have hnil : rest = [] := by
      apply eq_nil_of_length_eq_zero
      rw [hrest, checksumSize, if_neg h]
    simp [if_neg h, hnil]

variable {body : List UInt8}

/-- The modes which can express the length of a body, with the bytes it takes. -/
theorem lengthWrapperSize_cases {n : ℕ} (h : lengthWrapperSize spec n = .ok wrapperBytes) :
    (spec.lengthMode = .known .varintPrefix ∧
      (putUvarint (UInt64.ofNat n)).length = wrapperBytes) ∨
    (spec.lengthMode = .known .fixed2Prefix ∧ n < 2 ^ 16 ∧ wrapperBytes = 2) ∨
    (spec.lengthMode = .known .fixed4Prefix ∧ wrapperBytes = 4) ∨
    (spec.lengthMode = .known .lengthSuffixLab ∧ wrapperBytes = 4) := by
  rw [lengthWrapperSize] at h
  split at h
  · rw [uvarintSize_eq_length] at h
    exact .inl ⟨‹_›, Except.ok.inj h⟩
  · split at h
    · cases h
    · cases h
      exact .inr (.inl ⟨‹_›, by omega, rfl⟩)
  · cases h
    exact .inr (.inr (.inl ⟨‹_›, rfl⟩))
  · cases h
    exact .inr (.inr (.inr ⟨‹_›, rfl⟩))
  · cases h

/-- Writing the length around a body completes the frame. -/
theorem writeLength_eq {dst : List UInt8}
    (hwrapper : lengthWrapperSize spec body.length = .ok wrapperBytes)
    (hdst : dst.length = body.length + wrapperBytes) :
    ∃ pos, writeLength spec body.length
      (splice dst (if spec.lengthMode = .known .lengthSuffixLab then 0 else wrapperBytes)
        body) = .ok ⟨wrapLength spec body, pos⟩ := by
  -- a length of `wrapperBytes` bytes fills the front of the destination exactly
  have hfront (length : List UInt8) (hlength : length.length = wrapperBytes) :
      put FramingError.panic length ⟨splice dst wrapperBytes body, 0⟩ =
        .ok ⟨length ++ body, length.length⟩ := by
    have hbuffer : splice dst wrapperBytes body = dst.take wrapperBytes ++ body := by
      rw [splice, drop_of_length_le (by omega), append_nil]
    have hroom : length.length ≤ (dst.take wrapperBytes ++ body).length := by
      rw [length_append, length_take]
      omega
    have hrun := emits_put FramingError.panic length [] (dst.take wrapperBytes ++ body) hroom
    have hdrop : (dst.take wrapperBytes ++ body).drop length.length = body := by
      rw [drop_left' (by rw [length_take]; omega)]
    rw [hbuffer]
    simpa [hdrop] using hrun
  unfold writeLength wrapLength
  rcases lengthWrapperSize_cases hwrapper with
    ⟨hmode, hsize⟩ | ⟨hmode, -, rfl⟩ | ⟨hmode, rfl⟩ | ⟨hmode, rfl⟩ <;> rw [hmode]
  · exact ⟨_, by simpa using hfront _ hsize⟩
  · exact ⟨_, by simpa using hfront _ (length_putUint16 _)⟩
  · exact ⟨_, by simpa using hfront _ (length_putUint32 _)⟩
  · have hbuffer : splice dst 0 body = body ++ dst.drop body.length := by
      simp [splice]
    have hroom : (putUint32 (UInt32.ofNat body.length)).length ≤
        (dst.drop body.length).length := by
      rw [length_putUint32, length_drop]
      omega
    have hrun := emits_put FramingError.panic _ body (dst.drop body.length) hroom
    have hdrop : (dst.drop body.length).drop
        (putUint32 (UInt32.ofNat body.length)).length = [] := by
      apply drop_of_length_le
      rw [length_putUint32, length_drop]
      omega
    rw [hdrop, append_nil] at hrun
    exact ⟨_, by simpa [hbuffer] using hrun⟩

/-- The writer fills a destination of the computed size with the frame. -/
theorem writeFrameWithSpec_eq (dst : List UInt8)
    {bodyBytes : ℕ} (hstream : writeStreamID spec streamID = .ok f.stream)
    (hsize : frameSizeWithSpec spec f.msg streamID
      (f.metadata.length + f.payload.length + f.pad.length) = .ok (bodyBytes, wrapperBytes))
    (hdst : dst.length = bodyBytes + wrapperBytes) :
    writeFrameWithSpec spec dst f.msg streamID f.metadata f.payload f.pad f.fragIndex
      f.fragCount bodyBytes wrapperBytes = .ok (f.frame spec) := by
  obtain ⟨⟨stream, hstream', hbody⟩, htag, -, hwrapper, -⟩ := frameSizeWithSpec_eq_ok.mp hsize
  obtain ⟨⟩ := hstream.symm.trans hstream'
  rw [← length_body f spec] at hbody
  subst hbody
  generalize hstart :
    (if spec.lengthMode = .known .lengthSuffixLab then 0 else wrapperBytes) = start
  have hinside : start + (f.body spec).length ≤ dst.length := by
    rw [← hstart, hdst]
    split <;> omega
  have hslice : ((dst.drop start).take (f.body spec).length).length = (f.body spec).length := by
    rw [length_take, length_drop]
    omega
  have hcontent := emits_writeContent f hstream htag [] ((dst.drop start).take (f.body spec).length)
    (by rw [hslice, FrameParts.body, length_append]; omega)
  have hrest : (((dst.drop start).take (f.body spec).length).drop
      (f.content spec).length).length = checksumSize spec := by
    rw [length_drop, hslice, FrameParts.body, length_append, length_checksumBytes]
    omega
  have hchecksum := writeChecksum_eq spec (f.content spec) hrest
  obtain ⟨pos, hlength⟩ := writeLength_eq hwrapper hdst
  rw [hstart] at hlength
  simp only [nil_append, length_nil] at hcontent
  simp only [writeFrameWithSpec, hstart]
  rw [ensure_of_pos hinside, ok_bind, hcontent, ok_bind, hchecksum, ok_bind]
  simp only [FrameParts.body] at hlength ⊢
  rw [hlength, ok_bind, FrameParts.frame, FrameParts.body]

/-! ## Parsing the wrapper and the checksum -/

theorem length_wrapLength (hwrapper : lengthWrapperSize spec body.length = .ok wrapperBytes) :
    (wrapLength spec body).length = body.length + wrapperBytes ∧ 0 < wrapperBytes ∧
      wrapperBytes ≤ maxVarintLen64 := by
  unfold wrapLength
  rcases lengthWrapperSize_cases hwrapper with
    ⟨hmode, hsize⟩ | ⟨hmode, -, rfl⟩ | ⟨hmode, rfl⟩ | ⟨hmode, rfl⟩ <;> rw [hmode]
  · have hpos := length_putUvarint_pos (UInt64.ofNat body.length)
    have hten : (putUvarint (UInt64.ofNat body.length)).length ≤ 9 + 1 :=
      length_putUvarint_le (toNat_lt_uvarint _)
    rw [hsize] at hpos hten
    refine ⟨?_, hpos, hten⟩
    rw [length_append, hsize, Nat.add_comm]
  · simp only [length_append, length_putUint16, maxVarintLen64]
    omega
  · simp only [length_append, length_putUint32, maxVarintLen64]
    omega
  · simp [maxVarintLen64]

/-- Unwrapping inverts wrapping for every length the wrapper can express. -/
theorem unwrapLength_wrapLength (hwrapper : lengthWrapperSize spec body.length = .ok wrapperBytes)
    (hbody : body.length < 2 ^ 32) :
    unwrapLengthWithSpec spec (wrapLength spec body) = .ok body := by
  have hword : (UInt32.ofNat body.length).toNat = body.length := UInt32.toNat_ofNat_of_lt' hbody
  unfold unwrapLengthWithSpec wrapLength
  rcases lengthWrapperSize_cases hwrapper with
    ⟨hmode, -⟩ | ⟨hmode, hsmall, -⟩ | ⟨hmode, -⟩ | ⟨hmode, -⟩ <;> rw [hmode]
  · have hlength : (UInt64.ofNat body.length).toNat = body.length :=
      UInt64.toNat_ofNat_of_lt' (hbody.trans (by decide))
    have hint : (Int64.ofInt body.length).toInt = body.length :=
      Int64.toInt_ofInt_of_le (by omega) (by omega)
    have hmatch : (Int64.ofInt body.length).toInt =
        ((putUvarint (UInt64.ofNat body.length) ++ body).length : Int) -
          (putUvarint (UInt64.ofNat body.length)).length := by
      rw [hint, length_append]
      omega
    simp only [uvarint_putUvarint, hlength]
    rw [ensure_of_pos hmatch, ok_bind, drop_left]
  · have hshort : (UInt16.ofNat body.length).toNat = body.length :=
      UInt16.toNat_ofNat_of_lt' hsmall
    simp only [getUint16_putUint16, length_append, length_putUint16]
    rw [ensure_of_pos (by omega), ok_bind, ensure_of_pos (by omega), ok_bind,
      drop_left' (length_putUint16 _)]
  · simp only [getUint32_putUint32, length_append, length_putUint32]
    rw [ensure_of_pos (by omega), ok_bind, ensure_of_pos (by omega), ok_bind,
      drop_left' (length_putUint32 _)]
  · have hlength : (body ++ putUint32 (UInt32.ofNat body.length)).length - 4 =
        body.length := by
      simp
    simp only [hlength, drop_left, take_left, getUint32_putUint32_nil, hword]
    rw [ensure_of_pos (by simp), ok_bind, ensure_true, ok_bind]

theorem stripChecksum_append (spec : CodecSpec) (content : List UInt8) :
    stripChecksum spec (content ++ checksumBytes spec content) = .ok content := by
  unfold stripChecksum checksumBytes
  by_cases h : spec.checksumMode = .known .crc32
  · have hlength :
        (content ++ putUint32 (crcForSpec spec content)).length - 4 = content.length := by
      simp
    rw [if_pos h, if_pos h]
    simp only [hlength, take_left, drop_left, getUint32_putUint32_nil]
    rw [ensure_of_pos (by simp), ok_bind, ensure_true, ok_bind]
  · rw [if_neg h, if_neg h, append_nil]

/-! ## Parsing the header -/

theorem decodeStreamID_writeStreamID
    {stream : List UInt8} (h : writeStreamID spec streamID = .ok stream) :
    decodeStreamIDWithSpec spec stream = .ok streamID := by
  have hcancel (mask : UInt32) : streamID ^^^ mask ^^^ mask = streamID := by
    rw [UInt32.xor_assoc, UInt32.xor_self, UInt32.xor_zero]
  unfold writeStreamID at h
  unfold decodeStreamIDWithSpec
  split at h
  · obtain ⟨⟩ := h
    simp
  · obtain ⟨⟩ := h
    simp
  · obtain ⟨⟩ := h
    simp [hcancel]
  · obtain ⟨⟩ := h
    have hword : (streamID ^^^ spec.tableStreamMask).toNat < 256 ^ 4 :=
      (streamID ^^^ spec.tableStreamMask).toNat_lt
    simp only [length_littleEndian, ensure_true, ok_bind]
    rw [littleEndianValue_littleEndian_of_lt hword, UInt32.ofNat_toNat, hcancel]
  · obtain ⟨⟩ := h
    have hvalue := uvarint_putUvarint streamID.toUInt64 []
    rw [append_nil, UInt32.toNat_toUInt64] at hvalue
    have hword := streamID.toNat_lt
    simp only [hvalue]
    rw [ensure_of_pos (by omega), ok_bind, UInt32.ofNat_toNat]
  · cases h

theorem length_writeStreamID {stream : List UInt8} (h : writeStreamID spec streamID = .ok stream) :
    0 < stream.length ∧ stream.length ≤ 5 := by
  unfold writeStreamID at h
  split at h
  · obtain ⟨⟩ := h
    simp
  · obtain ⟨⟩ := h
    simp
  · obtain ⟨⟩ := h
    simp
  · obtain ⟨⟩ := h
    simp
  · obtain ⟨⟩ := h
    refine ⟨length_putUvarint_pos _, length_putUvarint_le ?_⟩
    have hword := streamID.toNat_lt
    rw [UInt32.toNat_toUInt64]
    omega
  · cases h

theorem takeText_textBytes {value : List UInt8} (h : value.length ≤ 255)
    (tail : List UInt8) : takeText (textBytes value ++ tail) = .ok (value, tail) := by
  have hsize : (UInt8.ofNat value.length).toNat = value.length := by
    simp; omega
  rw [textBytes, cons_append, takeText, hsize, if_neg (by simp), take_left, drop_left]

/-- What the parser reads from the flags field. -/
def FrameParts.flags (header : HeaderView) : HeaderView :=
  { header with
    fragIndex := f.fragIndex % 2 ^ 16
    fragCount := f.fragCount % 2 ^ 16
    padLen := f.pad.length % 2 ^ 16 }

/-- The effect of one header field on what the parser knows. -/
def FrameParts.observe (found : CodecMessage) (streamID : UInt32)
    (header : HeaderView) : Choice HeaderField → HeaderView
  | .known .type => { header with msg := some found }
  | .known .stream => { header with streamID := streamID }
  | .known .flags => f.flags header
  | _ => header

section Header

variable {spec : CodecSpec} {f : FrameParts} {streamID : UInt32} {found : CodecMessage}
  (hstream : writeStreamID spec streamID = .ok f.stream)
  (htag : f.msg.typeTag.length ≤ 255) (hfound : spec.messageByTag f.msg.typeTag = some found)
  (header : HeaderView) (tail : List UInt8)

include hstream htag hfound

theorem decodeHeaderField_fieldBytes (field : Choice HeaderField) :
    decodeHeaderField spec header (f.fieldBytes field ++ tail) field =
      .ok (f.observe found streamID header field, tail) := by
  obtain ⟨hpos, hfive⟩ := length_writeStreamID hstream
  rcases field with field | text
  · cases field with
    | length => rfl
    | type =>
      simp only [decodeHeaderField, FrameParts.fieldBytes]
      rw [takeText_textBytes htag, ok_bind]
      simp only [hfound]
      rfl
    | stream =>
      simp only [decodeHeaderField, FrameParts.fieldBytes]
      rw [takeText_textBytes (by omega), ok_bind,
        ensure_of_pos (ne_nil_of_length_pos hpos), ok_bind,
        decodeStreamID_writeStreamID hstream, ok_bind]
      rfl
    | flags =>
      have hmod (n : ℕ) : (UInt16.ofNat n).toNat = n % 2 ^ 16 := UInt16.toNat_ofNat'
      have hdrop (value : UInt16) (rest : List UInt8) : (putUint16 value ++ rest).drop 2 = rest :=
        drop_left' (length_putUint16 value)
      have hindex (rest : List UInt8) : (flagsByte f.fragCount f.pad.length :: rest).drop 1 =
          rest := rfl
      simp only [decodeHeaderField, FrameParts.fieldBytes, append_assoc, cons_append, nil_append]
      simp only [show (3 : ℕ) = 1 + 2 from rfl, show (5 : ℕ) = 1 + 2 + 2 from rfl, ← drop_drop,
        hindex, hdrop, getUint16_putUint16]
      rfl
  · rfl

/-- Everything the header fields in `order` tell. -/
def FrameParts.observeAll (f : FrameParts) (found : CodecMessage) (streamID : UInt32)
    (header : HeaderView) (order : List (Choice HeaderField)) : HeaderView :=
  order.foldl (f.observe found streamID) header

theorem decodeHeaderFields_headerBytes (order : List (Choice HeaderField)) :
    decodeHeaderFields spec order header (order.flatMap f.fieldBytes ++ tail) =
      .ok (f.observeAll found streamID header order, tail) := by
  induction order generalizing header with
  | nil => rfl
  | cons field order ih =>
    rw [decodeHeaderFields, flatMap_cons, append_assoc,
      decodeHeaderField_fieldBytes hstream htag hfound, ok_bind]
    exact ih _

omit hstream htag hfound in
/-- A header which names every field is read completely, whatever the order and
however often a field is repeated. -/
theorem observeAll_eq (order : List (Choice HeaderField)) (header : HeaderView) :
    f.observeAll found streamID header order =
      { msg := if .known .type ∈ order then some found else header.msg
        streamID := if .known .stream ∈ order then streamID else header.streamID
        fragIndex := if .known .flags ∈ order then f.fragIndex % 2 ^ 16
          else header.fragIndex
        fragCount := if .known .flags ∈ order then f.fragCount % 2 ^ 16
          else header.fragCount
        padLen := if .known .flags ∈ order then f.pad.length % 2 ^ 16
          else header.padLen } := by
  induction order generalizing header with
  | nil => rfl
  | cons field order ih =>
    have hstep : f.observeAll found streamID header (field :: order) =
        f.observeAll found streamID (f.observe found streamID header field) order := rfl
    rw [hstep, ih]
    rcases field with field | text
    · cases field <;> simp [FrameParts.observe, FrameParts.flags]
    · simp [FrameParts.observe]

end Header

/-! ## Parsing a frame -/

/-- The specification names the fields the parser depends on. -/
structure CompleteHeader (spec : CodecSpec) : Prop where
  type : .known .type ∈ spec.headerOrder
  stream : .known .stream ∈ spec.headerOrder
  flags : .known .flags ∈ spec.headerOrder

/-- What the parser does once the header of a written frame is read. -/
def parseBlock (spec : CodecSpec) (f : FrameParts) (found : CodecMessage)
    (streamID : UInt32) : Except FramingError FrameView := do
  ensure (0 < f.fragCount % 2 ^ 16) (.text "invalid fragment count")
  ensure (f.pad.length % 2 ^ 16 ≤ (f.blockBytes spec).length)
    (.text "padding length exceeds payload section")
  let parsed ← parseMetadataView (stripPadding spec (f.pad.length % 2 ^ 16) (f.blockBytes spec))
  ensure ((parsed.2.length : Int) ≤ spec.maxPayloadBytes) (.text "payload exceeds profile limit")
  .ok ⟨found, streamID, f.fragIndex % 2 ^ 16, f.fragCount % 2 ^ 16,
    f.pad.length % 2 ^ 16, (f.body spec).length, parsed.1, parsed.2⟩

/-- A frame can carry these parts: everything has a length field of its width and
the body is within the limit. -/
structure FrameFits (spec : CodecSpec) (f : FrameParts) : Prop where
  tag : f.msg.typeTag.length ≤ 255
  body : ((f.body spec).length : Int) ≤ spec.maxFrameBytes
  wrapper : ∃ wrapperBytes, lengthWrapperSize spec (f.body spec).length = .ok wrapperBytes ∧
    (wrapperBytes : Int) ≤ 2 ^ 63 - 1 - (f.body spec).length

/-- The parser takes a written frame apart up to its section. -/
theorem parseFrameView_frame {f : FrameParts} {found : CodecMessage} (hheader : CompleteHeader spec)
    (hstream : writeStreamID spec streamID = .ok f.stream)
    (hfound : spec.messageByTag f.msg.typeTag = some found) (hfits : FrameFits spec f)
    (hbody : (f.body spec).length < 2 ^ 32) :
    parseFrameView spec (f.frame spec) = parseBlock spec f found streamID := by
  obtain ⟨htag, hlimit, wrapperBytes, hwrapper, -⟩ := hfits
  obtain ⟨hlength, hpos, hten⟩ := length_wrapLength hwrapper
  have hsize : f.frame spec ≠ [] ∧
      ((f.frame spec).length : Int) ≤ spec.maxFrameBytes + maxVarintLen64 := by
    rw [FrameParts.frame]
    refine ⟨ne_nil_of_length_pos (by omega), by omega⟩
  rw [parseFrameView, ensure_of_pos hsize, ok_bind, FrameParts.frame,
    unwrapLength_wrapLength hwrapper hbody, ok_bind, FrameParts.body, stripChecksum_append, ok_bind]
  have hfields := decodeHeaderFields_headerBytes hstream htag hfound {}
    (f.blockBytes spec) spec.headerOrder
  simp only [observeAll_eq, if_pos hheader.type, if_pos hheader.stream,
    if_pos hheader.flags] at hfields
  simp only [decodeHeaderAndPayloadWithSpec, FrameParts.content, FrameParts.headerBytes,
    hfields, ok_bind, parseBlock, FrameParts.body]
  by_cases hcount : 0 < f.fragCount % 2 ^ 16
  · simp only [ensure_of_pos hcount, ok_bind]
  · simp only [ensure_of_neg hcount, error_bind]

/-- Stripping the padding of a block leaves the metadata and the payload, as long
as the padding length is representable. -/
theorem stripPadding_blockBytes (spec : CodecSpec) (f : FrameParts) (hpad : f.pad.length < 2 ^ 16) :
    stripPadding spec (f.pad.length % 2 ^ 16) (f.blockBytes spec) = f.metadata ++ f.payload := by
  rw [Nat.mod_eq_of_lt hpad, stripPadding, FrameParts.blockBytes]
  by_cases h : spec.paddingPlacement = .known .before
  · rw [if_pos h, if_pos h, drop_left]
  · rw [if_neg h, if_neg h, ← append_assoc, take_left']
    simp only [length_append]
    omega

/-! ## Encoding a frame -/

theorem contentSize_eq_ok {maxFrameBytes : Int} {start result : ℕ} {sizes : List ℕ} :
    contentSize maxFrameBytes start sizes = .ok result ↔
      result = start + sizes.sum ∧ (sizes = [] ∨ (result : Int) ≤ maxFrameBytes) := by
  induction sizes generalizing start with
  | nil => simp [contentSize, eq_comm]
  | cons size sizes ih =>
    rw [contentSize, check_ok_iff, ensure_eq_ok, ih, sum_cons]
    constructor
    · rintro ⟨hsize, hresult, hrest⟩
      refine ⟨by omega, .inr ?_⟩
      rcases hrest with rfl | hlimit
      · simp only [sum_nil] at hresult
        omega
      · exact hlimit
    · rintro ⟨hresult, hrest⟩
      have hlimit : (result : Int) ≤ maxFrameBytes := by simpa using hrest
      exact ⟨by omega, by omega, .inr hlimit⟩

/-- The parts of the frame which carries one fragment of an operation. -/
def operationParts (msg : CodecMessage) (stream : List UInt8) (op : Operation)
    (pad : List UInt8) (fragIndex fragCount : ℕ) : FrameParts :=
  ⟨msg, stream, metadataBytes op, op.payload, pad, fragIndex, fragCount⟩

theorem frameSizeWithSpec_parts {f : FrameParts} {bodyBytes : ℕ}
    (hstream : writeStreamID spec streamID = .ok f.stream) :
    (∃ wrapperBytes, frameSizeWithSpec spec f.msg streamID
      (f.metadata.length + f.payload.length + f.pad.length) = .ok (bodyBytes, wrapperBytes)) ↔
        bodyBytes = (f.body spec).length ∧ FrameFits spec f := by
  simp only [frameSizeWithSpec_eq_ok, hstream, Except.ok.injEq, exists_eq_left', ← length_body]
  constructor
  · rintro ⟨wrapperBytes, rfl, htag, hbody, hwrapper⟩
    exact ⟨rfl, htag, hbody, wrapperBytes, hwrapper⟩
  · rintro ⟨rfl, htag, hbody, wrapperBytes, hwrapper⟩
    exact ⟨wrapperBytes, rfl, htag, hbody, hwrapper⟩

/-- A fragment is encoded exactly when its parts fit, and then as their frame. -/
theorem encodeFrameWithSpec_eq_ok {op : Operation} {pad : List UInt8}
    {fragIndex fragCount : ℕ} {frame : List UInt8} :
    encodeFrameWithSpec spec op pad fragIndex fragCount = .ok frame ↔
      ∃ msg stream, spec.messageBySemantic op.semantic = some msg ∧
        writeStreamID spec op.streamID = .ok stream ∧ EncodableMetadata op ∧
        (0 < pad.length → spec.padding.minPaddingBytes ≤ pad.length ∧
          (pad.length : Int) ≤ spec.padding.maxPaddingBytes) ∧
        FrameFits spec (operationParts msg stream op pad fragIndex fragCount) ∧
        frame = (operationParts msg stream op pad fragIndex fragCount).frame spec := by
  unfold encodeFrameWithSpec
  cases hmsg : spec.messageBySemantic op.semantic with
  | none => simp
  | some msg =>
    simp only [bind_ok_iff, ensure_ok_iff, exists_const, encodeOperationMetadata_eq_ok,
      contentSize_eq_ok, sum_cons, sum_nil, Prod.exists]
    constructor
    · rintro ⟨hpad, metadata, ⟨hencodable, rfl⟩, contentBytes, ⟨hsum, -⟩, bodyBytes, wrapperBytes,
        hsizes, hwritten⟩
      obtain ⟨⟨stream, hstream, -⟩, -⟩ := frameSizeWithSpec_eq_ok.mp hsizes
      obtain rfl : contentBytes = (metadataBytes op).length + op.payload.length + pad.length := by
        omega
      have hwrite := writeFrameWithSpec_eq (operationParts msg stream op pad fragIndex fragCount)
        (replicate (bodyBytes + wrapperBytes) 0) hstream hsizes length_replicate
      obtain ⟨-, hfits⟩ := (frameSizeWithSpec_parts
        (f := operationParts msg stream op pad fragIndex fragCount) hstream).mp ⟨_, hsizes⟩
      exact ⟨msg, stream, rfl, hstream, hencodable, hpad, hfits,
        Except.ok.inj (hwritten.symm.trans hwrite)⟩
    · rintro ⟨_, stream, ⟨⟩, hstream, hencodable, hpad, hfits, rfl⟩
      obtain ⟨wrapperBytes, hsizes⟩ := (frameSizeWithSpec_parts hstream).mpr ⟨rfl, hfits⟩
      have hbody := hfits.body
      rw [length_body] at hbody
      simp only [operationParts] at hbody
      exact ⟨hpad, _, ⟨hencodable, rfl⟩,
        (metadataBytes op).length + op.payload.length + pad.length, ⟨by omega, .inr (by omega)⟩, _,
        wrapperBytes, hsizes, writeFrameWithSpec_eq _ _ hstream hsizes length_replicate⟩

end Kurdistan.Framing
