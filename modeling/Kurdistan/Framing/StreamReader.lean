import Kurdistan.Framing.RoundTrip
import Kurdistan.Support.Reader

/-!
# Frames from a stream

`ReadFrame` finds the end of a frame in a byte stream. A prefix tells the length; in
the suffix mode the reader tries every byte for the end of a frame which decodes.
-/

namespace Kurdistan.Framing

open Support Protocol List

inductive ReadError where
  | eof
  | framing (err : FramingError)
  deriving DecidableEq

def ReadError.text (message : String) : ReadError := .framing (.text message)

def readPrefixBodyWithSpec (spec : CodecSpec) (lead : List UInt8) (length : Int) :
    Reader ReadError (List UInt8) := do
  if length ≤ 0 ∨ spec.maxFrameBytes < length then
    throw (.text ("invalid frame length " ++ toString length))
  let body ← readFull .eof (.framing .unexpectedEOF) length.toNat
  pure (lead ++ body)

/-- What the suffix mode takes for a frame. -/
def suffixFrame (spec : CodecSpec) (buf : List UInt8) : Option (List UInt8) :=
  if 4 ≤ buf.length ∧ (getUint32 (buf.drop (buf.length - 4))).toNat = buf.length - 4 ∧
    (decodeFrameWithSpec spec buf).isOk then some buf else none

def readUvarint : Reader ReadError (List UInt8 × ℕ) :=
  readUntil (fun lead => (uvarint lead).map fun found => (lead, found.1)) .eof
    (.text "invalid varint length") (maxVarintLen64 + 1) []

def readFrameWithSpec (spec : CodecSpec) : Reader ReadError (List UInt8) :=
  match spec.lengthMode with
  | .known .varintPrefix => do
    let found ← readUvarint
    readPrefixBodyWithSpec spec found.1 (Int64.ofInt found.2).toInt
  | .known .fixed2Prefix => do
    let lead ← readFull .eof (.framing .unexpectedEOF) 2
    readPrefixBodyWithSpec spec lead (getUint16 lead).toNat
  | .known .fixed4Prefix => do
    let lead ← readFull .eof (.framing .unexpectedEOF) 4
    readPrefixBodyWithSpec spec lead (getUint32 lead).toNat
  | .known .lengthSuffixLab =>
    readUntil (suffixFrame spec) .eof (.text "suffix frame exceeds limit")
      spec.maxFrameBytes.toNat []
  | _ => throw (.text "unsupported length mode")

def readFrame (encoding : ProfileEncoding) (p : Profile) : Reader ReadError (List UInt8) :=
  match codecSpecFromProfile encoding p with
  | .error err => throw (.framing err)
  | .ok spec => readFrameWithSpec spec

def ofExcept {α : Type} : Except FramingError α → Reader ReadError α
  | .error err => throw (.framing err)
  | .ok value => pure value

def decodeFrame (encoding : ProfileEncoding) (p : Profile) (frame : List UInt8) :
    Except FramingError DecodedFrame := do
  let spec ← codecSpecFromProfile encoding p
  decodeFrameWithSpec spec frame

/-- The first frame of an operation tells how many frames follow. -/
def readOperation (encoding : ProfileEncoding) (p : Profile) :
    Reader ReadError (Operation × List DecodedFrame) := do
  let first ← readFrame encoding p
  let part ← ofExcept (decodeFrame encoding p first)
  let rest ← readMany (readFrame encoding p) (part.fragCount - 1)
  ofExcept (decodeFrames encoding p (first :: rest))

def encodeFrame (encoding : ProfileEncoding) (p : Profile) (op : Operation) (pad : List UInt8)
    (fragIndex fragCount : ℕ) : Except FramingError (List UInt8) := do
  let spec ← codecSpecFromProfile encoding p
  encodeFrameWithSpec spec op pad fragIndex fragCount

/-! ## The modes with a length in front -/

variable {spec : CodecSpec} {encoding : ProfileEncoding}

theorem yields_readPrefixBody {body lead : List UInt8} {length : Int}
    (hlength : length = body.length) (hpos : 0 < body.length)
    (hmax : (body.length : Int) ≤ spec.maxFrameBytes) :
    Yields (readPrefixBodyWithSpec spec lead length) body (lead ++ body) := by
  subst hlength
  rw [readPrefixBodyWithSpec, if_neg (by omega)]
  exact (yields_readFull _ _ body).map _

theorem yields_readUvarint (value : UInt64) :
    Yields readUvarint (putUvarint value) (putUvarint value, value.toNat) := by
  have hread := uvarint_putUvarint value []
  rw [append_nil] at hread
  refine yields_readUntil_iff.mpr ⟨length_putUvarint_pos _, ?_, ?_, fun n hn => ?_⟩
  · exact (length_putUvarint_le (toNat_lt_uvarint value)).trans (by decide)
  · simp [hread]
  · simp [uvarint_take_putUvarint hn]

theorem yields_readFrameWithSpec {body : List UInt8} {wrapperBytes : ℕ}
    (hmode : spec.lengthMode ≠ .known .lengthSuffixLab)
    (hwrapper : lengthWrapperSize spec body.length = .ok wrapperBytes)
    (hpos : 0 < body.length) (hmax : (body.length : Int) ≤ spec.maxFrameBytes)
    (hhigh : body.length < 2 ^ 32) :
    Yields (readFrameWithSpec spec) (wrapLength spec body) (wrapLength spec body) := by
  unfold readFrameWithSpec wrapLength
  rcases lengthWrapperSize_cases hwrapper with
    ⟨hspec, -⟩ | ⟨hspec, hsmall, -⟩ | ⟨hspec, -⟩ | ⟨hspec, -⟩ <;> rw [hspec]
  · have hlength : (UInt64.ofNat body.length).toNat = body.length :=
      UInt64.toNat_ofNat_of_lt' (hhigh.trans (by decide))
    have hint : (Int64.ofInt body.length).toInt = body.length :=
      Int64.toInt_ofInt_of_le (by omega) (by omega)
    refine (yields_readUvarint _).bind (yields_readPrefixBody ?_ hpos hmax)
    rw [hlength, hint]
  · refine (yields_readFull _ _ (putUint16 _)).bind (yields_readPrefixBody ?_ hpos hmax)
    rw [getUint16_putUint16_nil, UInt16.toNat_ofNat_of_lt' hsmall]
  · refine (yields_readFull _ _ (putUint32 _)).bind (yields_readPrefixBody ?_ hpos hmax)
    rw [getUint32_putUint32_nil, UInt32.toNat_ofNat_of_lt' hhigh]
  · exact absurd hspec hmode

theorem yields_of_fits (hvalid : ValidSpec spec)
    (hmode : spec.lengthMode ≠ .known .lengthSuffixLab) {f : FrameParts}
    (hfits : FrameFits spec f) (hmetadata : 0 < f.metadata.length) :
    Yields (readFrameWithSpec spec) (f.frame spec) (f.frame spec) ∧ f.frame spec ≠ [] := by
  obtain ⟨wrapperBytes, hwrapper, -⟩ := hfits.wrapper
  have hbody := hfits.body
  have hhigh := hvalid.frameHigh
  have hlength := length_body f spec
  have hframe : (f.frame spec).length = (f.body spec).length + wrapperBytes :=
    (length_wrapLength hwrapper).1
  exact ⟨yields_readFrameWithSpec hmode hwrapper (by omega) hbody (by omega),
    ne_nil_of_length_pos (by omega)⟩

/-- `ReadOperation` returns what decoding the frames of the operation returns. -/
theorem readOperation_iff {p : Profile} (hspec : codecSpecFromProfile encoding p = .ok spec)
    {first : List UInt8} {more : List (List UInt8)} {op : Operation}
    (hframes : ∀ frame ∈ first :: more, Yields (readFrameWithSpec spec) frame frame ∧ frame ≠ [])
    (hcount : ∀ part, decodeFrameWithSpec spec first = .ok part →
      part.fragCount ≤ more.length + 1) :
    (∃ parts, Yields (readOperation encoding p) (first :: more).flatten (op, parts)) ↔
      ∃ parts, decodeFramesWithSpec spec (first :: more) = .ok (op, parts) := by
  have hread : readFrame encoding p = readFrameWithSpec spec := by rw [readFrame, hspec]
  rw [forall_mem_cons] at hframes
  obtain ⟨⟨hfirst, -⟩, hmore⟩ := hframes
  simp only [readOperation, hread, decodeFrame, decodeFrames, hspec, ok_bind]
  constructor
  · rintro ⟨parts, h⟩
    obtain ⟨rest, hrun, hrest⟩ := h [(first :: more).flatten] [] (by simp)
    obtain ⟨left, hleft, hchunks⟩ := hfirst [(first :: more).flatten] more.flatten (by simp)
    simp only [bind, StateT.bind, Except.bind, hleft] at hrun
    rcases hpart : decodeFrameWithSpec spec first with err | part
    · rw [hpart] at hrun
      cases hrun
    · rw [hpart] at hrun
      have hle := hcount part hpart
      have hlength : (more.take (part.fragCount - 1)).length = part.fragCount - 1 := by
        rw [length_take]
        omega
      obtain ⟨left', hleft', hchunks'⟩ := yields_readMany
        (fun frame hframe => (hmore frame (mem_of_mem_take hframe)).1) left
        (more.drop (part.fragCount - 1)).flatten
        (by rw [hchunks, ← flatten_append, take_append_drop])
      rw [hlength] at hleft'
      have hpure : (pure part : Reader ReadError DecodedFrame) left = .ok (part, left) := rfl
      simp only [ofExcept, hpure, hleft'] at hrun
      rcases hall : decodeFramesWithSpec spec (first :: more.take (part.fragCount - 1)) with _ | _
      · rw [hall] at hrun
        cases hrun
      · rw [hall] at hrun
        obtain ⟨⟩ := hrun
        -- A frame which was not read would be left in front of the tail.
        have hdone : more.length ≤ part.fragCount - 1 := by
          by_contra hlong
          obtain ⟨frame, hframe⟩ := exists_mem_of_length_pos
            (show 0 < (more.drop (part.fragCount - 1)).length by rw [length_drop]; omega)
          rw [hrest, eq_comm, flatten_eq_nil_iff] at hchunks'
          exact (hmore frame (mem_of_mem_drop hframe)).2 (hchunks' frame hframe)
        rw [take_of_length_le hdone] at hall
        exact ⟨parts, hall⟩
  · rintro ⟨parts, h⟩
    obtain ⟨expected, rest, hparses, hset, -⟩ := decodeFramesWithSpec_eq_ok.mp h
    obtain ⟨hview, hrest⟩ := forall₂_cons.mp hparses
    have hfragments : expected.fragCount = rest.length + 1 :=
      (hset (expected, 0) (by simp)).fragCount
    have hpart : decodeFrameWithSpec spec first = .ok (expected.decoded first.length) := by
      rw [decodeFrameWithSpec, hview, ok_bind]
    have hmany : (expected.decoded first.length).fragCount - 1 = more.length := by
      simp [FrameView.decoded, hfragments, hrest.length_eq]
    refine ⟨parts, hfirst.bind ?_⟩
    rw [hpart, ← append_nil (flatten more)]
    simp only [ofExcept, pure_bind, hmany]
    refine (yields_readMany fun frame hframe => (hmore frame hframe).1).bind ?_
    rw [h]
    exact yields_pure_iff.mpr ⟨rfl, rfl⟩

theorem readOperation_encoded_iff {source : RandSource} {p : Profile} {op : Operation}
    {seed : Int64} {frames : List (List UInt8)}
    (hmode : p.frameGrammar.lengthMode ≠ .known .lengthSuffixLab)
    (h : encodeOperation source encoding p op seed = .ok frames) :
    (∃ parts, Yields (readOperation encoding p) frames.flatten (op, parts)) ↔
      Representable source (profileSpec p) op seed := by
  obtain ⟨hvalid, -, h⟩ := encodeOperation_eq_ok.mp h
  have hspec := codecSpecFromProfile_of_valid hvalid
  have hvalid := validSpec_of_profile hspec
  rw [← decode_encode_iff hvalid h]
  obtain ⟨-, msg, stream, pads, hmsg, hstream, -, hdraws, hfits, rfl⟩ :=
    encodeOperationWithSpec_eq_ok.mp h
  obtain ⟨found, hfound⟩ := exists_messageByTag hmsg
  obtain ⟨hlength, -, -, hshape⟩ := fragmentsOf_spec msg stream (draws_within hdraws).1
  rw [CodecSpec.framesOf]
  generalize (profileSpec p).fragmentsOf msg stream op pads = fragments at *
  rcases fragments with _ | ⟨f, fragments⟩
  · exact absurd (length_eq_zero_iff.mp hlength.symm) (fragmentSizesFor_ne_nil _ _ _ _)
  refine readOperation_iff hspec ?_ fun part hpart => ?_
  · intro frame hframe
    change frame ∈ (f :: fragments).map (·.frame (profileSpec p)) at hframe
    obtain ⟨f, hf, rfl⟩ := mem_map.mp hframe
    refine yields_of_fits hvalid hmode (hfits f hf) ?_
    rw [(hshape f hf).metadata, length_metadataBytes]
    omega
  · have hf := hshape f (by simp)
    obtain ⟨view, hview, hpart⟩ := bind_ok_iff.mp hpart
    obtain ⟨⟩ := hpart
    rw [parseFrameView_of_fits hvalid (hf.stream ▸ hstream) (hf.msg ▸ hfound)
      (hfits f (by simp))] at hview
    simp only [parseBlock, bind_ok_iff] at hview
    obtain ⟨_, -, _, -, parsed, -, _, -, hview⟩ := hview
    obtain ⟨⟩ := hview
    refine (Nat.mod_le _ _).trans ?_
    rw [hf.fragCount, ← hlength, length_cons, length_map]

/-- With a length in front, frames of a profile or a program are read from the front of every
stream, and an operation is read back exactly when it is representable. -/
theorem stream_reading_iff (source : RandSource) (encoding : ProfileEncoding) :
    (∀ spec, (∃ p, codecSpecFromProfile encoding p = .ok spec) ∨
        (∃ program, codecSpecFromLiveProgram program = .ok spec) →
      spec.lengthMode ≠ .known .lengthSuffixLab → ∀ frames : List (List UInt8),
      (∀ frame ∈ frames, ∃ op pad fragIndex fragCount,
        encodeFrameWithSpec spec op pad fragIndex fragCount = .ok frame) →
      Yields (readMany (readFrameWithSpec spec) frames.length) frames.flatten frames) ∧
    ∀ p op seed frames, p.frameGrammar.lengthMode ≠ .known .lengthSuffixLab →
      encodeOperation source encoding p op seed = .ok frames →
      ((∃ parts, Yields (readOperation encoding p) frames.flatten (op, parts)) ↔
        Representable source (profileSpec p) op seed) := by
  refine ⟨fun spec hspec hmode frames hframes => ?_, fun p op seed frames hmode =>
    readOperation_encoded_iff hmode⟩
  have hvalid : ValidSpec spec := by
    rcases hspec with ⟨p, hspec⟩ | ⟨program, hspec⟩
    · exact validSpec_of_profile hspec
    · obtain ⟨data, padding, hlive⟩ := liveSpec_of_program hspec
      exact hlive.toValidSpec
  refine yields_readMany fun frame hframe => ?_
  obtain ⟨op, pad, fragIndex, fragCount, hframe⟩ := hframes frame hframe
  obtain ⟨msg, stream, -, -, -, -, hfits, rfl⟩ := encodeFrameWithSpec_eq_ok.mp hframe
  refine (yields_of_fits hvalid hmode hfits ?_).1
  rw [operationParts, length_metadataBytes]
  omega

theorem stream_reading_iff_sample : ∃ frames parts,
    encodeOperation zeroSource plainEncoding sampleProfile sampleOperation 1 = .ok frames ∧
      Yields (readOperation plainEncoding sampleProfile) frames.flatten
        (sampleOperation, parts) := by
  obtain ⟨frames, hframes, hsample⟩ := encodeOperation_sample
  obtain ⟨parts, hparts⟩ :=
    ((stream_reading_iff zeroSource plainEncoding).2 _ _ _ _ (by decide) hframes).mpr hsample
  exact ⟨frames, parts, hframes, hparts⟩

/-- A window update of `2 ^ 32` bytes is not read back. -/
theorem stream_reading_wideCredit : ∃ frames,
    encodeOperation zeroSource plainEncoding sampleProfile wideCredit 1 = .ok frames ∧
      ¬ ∃ parts, Yields (readOperation plainEncoding sampleProfile) frames.flatten
        (wideCredit, parts) := by
  refine ⟨_, encodeOperation_wideCredit, fun h => ?_⟩
  have hwide := (readOperation_encoded_iff (by decide) encodeOperation_wideCredit).mp h
  exact absurd hwide.creditBytes (by decide)

/-! ## The suffix mode -/

/-- The length in front of the end is checked again by the decoder. -/
theorem suffixFrame_eq (hmode : spec.lengthMode = .known .lengthSuffixLab) (buf : List UInt8) :
    suffixFrame spec buf = if (decodeFrameWithSpec spec buf).isOk then some buf else none := by
  rw [suffixFrame]
  rcases hdecode : decodeFrameWithSpec spec buf with err | part
  · simp [Except.toBool]
  · obtain ⟨view, hview, -⟩ := bind_ok_iff.mp hdecode
    obtain ⟨-, hview⟩ := check_ok_iff.mp hview
    obtain ⟨body, hbody, -⟩ := bind_ok_iff.mp hview
    simp only [unwrapLengthWithSpec, hmode, check_ok_iff, ensure_eq_ok] at hbody
    simp only [hbody.1, hbody.2.1, true_and]

/-- In the suffix mode a frame is read from the front of every stream exactly when it is within
the limit and none of its proper initial segments decodes, but the frame does. -/
theorem suffix_readFrame_iff {p : Profile} (hvalid : validate encoding p = .ok ())
    (hmode : p.frameGrammar.lengthMode = .known .lengthSuffixLab) {op : Operation}
    {pad frame : List UInt8} {fragIndex fragCount : ℕ}
    (hframe : encodeFrame encoding p op pad fragIndex fragCount = .ok frame) :
    Yields (readFrame encoding p) frame frame ↔
      (frame.length : Int) ≤ (profileSpec p).maxFrameBytes ∧
        ∀ n ≤ frame.length,
          (decodeFrameWithSpec (profileSpec p) (frame.take n)).isOk = true ↔ n = frame.length := by
  have hspec := codecSpecFromProfile_of_valid hvalid
  have hsuffix : (profileSpec p).lengthMode = .known .lengthSuffixLab := hmode
  simp only [encodeFrame, hspec] at hframe
  obtain ⟨msg, stream, -, -, -, -, hfits, rfl⟩ := encodeFrameWithSpec_eq_ok.mp hframe
  obtain ⟨wrapperBytes, hwrapper, -⟩ := hfits.wrapper
  obtain ⟨hlength, hpos, -⟩ := length_wrapLength hwrapper
  rw [← FrameParts.frame] at hlength
  simp only [readFrame, hspec, readFrameWithSpec, hsuffix, yields_readUntil_iff, nil_append,
    suffixFrame_eq hsuffix, ite_eq_left_iff, ite_eq_right_iff, reduceCtorEq, imp_false, not_not]
  constructor
  · rintro ⟨-, hlimit, hframe, hnone⟩
    refine ⟨by omega, fun n hn => ⟨fun hok => ?_, ?_⟩⟩
    · by_contra hne
      cases n with
      | zero => cases hok
      | succ n => exact hnone n (by omega) hok
    · rintro rfl
      rwa [take_length]
  · rintro ⟨hlimit, hall⟩
    refine ⟨by omega, by omega, by simpa using hall _ le_rfl, fun n hn hok => ?_⟩
    have heq := (hall _ hn.le).mp hok
    omega

/-! ## A payload which looks like an end -/

/-- The sample profile with the length at the end of a frame. -/
def suffixProfile : Profile :=
  { sampleProfile with
    frameGrammar := { sampleProfile.frameGrammar with lengthMode := .known .lengthSuffixLab } }

theorem validate_suffixProfile : validate plainEncoding suffixProfile = .ok () := by
  have h := validate_sampleProfile
  simp only [validate, check_ok_iff] at h ⊢
  obtain ⟨h1, h2, h3, h4, h5, h6, h7, h8, h9, -, h⟩ := h
  exact ⟨h1, h2, h3, h4, h5, h6, h7, h8, h9, by decide +kernel, h⟩

/-- Data on stream 5. -/
def suffixOperation (payload : List UInt8) : Operation :=
  { semantic := .known .data, streamID := 5, payload := payload }

/-- The frame of the operation, for a payload of less than 194 bytes. -/
def suffixBytes (payload : List UInt8) : List UInt8 :=
  [1, 98, 0, 0, 0, 0, 1, 0, 0, 1, 5] ++ replicate 51 0 ++ payload ++
    [0, 0, 0, UInt8.ofNat (62 + payload.length)]

theorem encodeFrame_suffixBytes {payload : List UInt8}
    (h : encodeFrameWithSpec (profileSpec suffixProfile) (suffixOperation payload) [] 0 1 =
      .ok (suffixBytes payload)) :
    encodeFrame plainEncoding suffixProfile (suffixOperation payload) [] 0 1 =
      .ok (suffixBytes payload) := by
  rw [encodeFrame, codecSpecFromProfile_of_valid validate_suffixProfile, ok_bind, h]

theorem suffix_readFrame_iff_plain : ∃ frame,
    encodeFrame plainEncoding suffixProfile (suffixOperation [1, 2, 3]) [] 0 1 = .ok frame ∧
      Yields (readFrame plainEncoding suffixProfile) frame frame := by
  have hframe := @encodeFrame_suffixBytes [1, 2, 3] (by decide +kernel)
  exact ⟨_, hframe, (suffix_readFrame_iff validate_suffixProfile rfl hframe).mpr
    ⟨by decide +kernel, by decide +kernel⟩⟩

/-- The length 62 inside a payload ends a frame without payload. -/
theorem suffix_readFrame_innerLength : ∃ frame,
    encodeFrame plainEncoding suffixProfile (suffixOperation [0, 0, 0, 62, 9]) [] 0 1 = .ok frame ∧
      readFrame plainEncoding suffixProfile [frame] = .ok (frame.take 66, [frame.drop 66]) ∧
      ¬ Yields (readFrame plainEncoding suffixProfile) frame frame := by
  have hread : readFrame plainEncoding suffixProfile [suffixBytes [0, 0, 0, 62, 9]] =
      .ok ((suffixBytes [0, 0, 0, 62, 9]).take 66, [(suffixBytes [0, 0, 0, 62, 9]).drop 66]) := by
    rw [readFrame, codecSpecFromProfile_of_valid validate_suffixProfile]
    decide +kernel
  refine ⟨_, encodeFrame_suffixBytes (by decide +kernel), hread, fun h => ?_⟩
  obtain ⟨rest, hframe, -⟩ := h [suffixBytes [0, 0, 0, 62, 9]] [] (by simp)
  exact absurd (Prod.mk.inj (Except.ok.inj (hread.symm.trans hframe))).1 (by decide)

end Kurdistan.Framing
