import Mathlib.Algebra.BigOperators.Group.List.Lemmas
import Kurdistan.Framing.RoundTrip

/-!
# The caller-buffer encoder

`Bounds` covers every frame the encoder can write, so the encoder never fails once
its checks have passed. Its rounds then leave in the caller's buffers exactly the
frames of the allocating encoder: each round draws the same padding, cuts the same
fragment and writes the same frame behind the previous one.
-/

namespace Kurdistan.Framing

open Support Protocol LiveDataCodecV3 List

variable {source : RandSource}

/-- A codec made from a live specification. -/
structure LiveCodec (c : LiveDataCodecV3 source) (data padding : CodecMessage) : Prop where
  spec : LiveSpec c.spec data padding
  chunk : c.chunk = liveChunk c.spec
  maxPayload : c.maxPayload ≤ c.spec.maxPayloadBytes
  policy : c.engine.policy = c.spec.padding

variable {codec : LiveDataCodecV3 source}

theorem liveCodec_of_program {program : ProgramV1}
    (h : newLiveDataCodecV3 source program = .ok codec) :
    ∃ data padding, LiveCodec codec data padding := by
  obtain ⟨hspec, hmax, hchunk, hengine⟩ := newLiveDataCodecV3_eq_ok h
  obtain ⟨data, padding, hlive⟩ := liveSpec_of_program hspec
  exact ⟨data, padding, hlive, hchunk, hmax, by rw [hengine]; rfl⟩

/-! ## Fragment sizes -/

theorem liveChunk_eq (spec : CodecSpec) :
    liveChunk spec = maxChunkFor spec.fragmentationMode spec.maxBatchBytes spec.maxFrameBytes := by
  have hclamp (limited : Int) : max limited 1 = if limited < 1 then 1 else limited := by
    split <;> omega
  rw [liveChunk, hclamp]
  rfl

variable {chunk : ℕ}

/-- All chunks but the last one are whole. -/
theorem chunkSizes_eq {fuel remaining : ℕ} (hchunk : 1 ≤ chunk) (hpos : 0 < remaining)
    (hfuel : remaining ≤ fuel) :
    chunkSizes chunk fuel remaining =
      replicate ((remaining - 1) / chunk) chunk ++
        [remaining - (remaining - 1) / chunk * chunk] := by
  induction fuel generalizing remaining with
  | zero => omega
  | succ fuel ih =>
    rw [chunkSizes, if_neg (by omega)]
    dsimp only
    by_cases hlast : remaining ≤ chunk
    · have hzero : (remaining - 1) / chunk = 0 := Nat.div_eq_of_lt (by omega)
      have hrest : chunkSizes chunk fuel 0 = [] := by cases fuel <;> simp [chunkSizes]
      simp [hzero, Nat.min_eq_right hlast, hrest]
    · have hquotient : (remaining - 1) / chunk = (remaining - chunk - 1) / chunk + 1 := by
        rw [← Nat.add_div_right _ (by omega)]
        congr 1
        omega
      have hrest := @ih (remaining - chunk) (by omega) (by omega)
      rw [Nat.min_eq_left (by omega), hrest, hquotient, replicate_succ,
        cons_append, Nat.add_mul, Nat.one_mul]
      congr 3
      omega

variable {spec : CodecSpec}

theorem fragmentSizes_eq {payloadLen : ℕ} (hchunk : liveChunk spec = chunk)
    (hpos : 0 < payloadLen) :
    spec.fragmentSizes payloadLen =
      replicate ((payloadLen - 1) / chunk) chunk ++
        [payloadLen - (payloadLen - 1) / chunk * chunk] := by
  have hone := one_le_maxChunkFor spec.fragmentationMode spec.maxBatchBytes spec.maxFrameBytes
  rw [← liveChunk_eq, hchunk] at hone
  rw [CodecSpec.fragmentSizes, fragmentSizesFor, if_neg (by omega), ← liveChunk_eq, hchunk,
    Int.toNat_natCast]
  exact chunkSizes_eq (by omega) hpos le_rfl

/-! ## Bounds -/

/-- The body `frameBound` allows for. -/
def LiveDataCodecV3.bodyBound (c : LiveDataCodecV3 source) (data : CodecMessage) (n : ℕ) :
    ℕ :=
  data.typeTag.length + 4 + 9 + 51 + n + c.paddingBound.toNat + checksumSize c.spec

variable {data padding : CodecMessage} {c : LiveDataCodecV3 source}

theorem frameBound_eq_ok (hlive : LiveSpec c.spec data padding) {n size : ℕ} :
    c.frameBound n = .ok size ↔
      (c.bodyBound data n : Int) ≤ c.spec.maxFrameBytes ∧
        ∃ wrapperBytes, lengthWrapperSize c.spec (c.bodyBound data n) = .ok wrapperBytes ∧
          size = c.bodyBound data n + wrapperBytes := by
  have hdata : c.dataMessage = .ok data := by
    rw [dataMessage, hlive.messages]
  have hframe := hlive.frameHigh
  rw [frameBound, hdata, ok_bind, check_ok_iff, ensure_eq_ok]
  simp only [bind_ok_iff, Except.ok.injEq, @eq_comm ℕ _ size]
  constructor
  · rintro ⟨⟨hfits, -⟩, hwrapper⟩
    exact ⟨hfits, hwrapper⟩
  · rintro ⟨hfits, hwrapper⟩
    simp only [bodyBound] at hfits
    exact ⟨⟨hfits, by omega⟩, hwrapper⟩

theorem lengthWrapperSize_mono {small large wrapperBytes : ℕ}
    (h : lengthWrapperSize spec large = .ok wrapperBytes) (hle : small ≤ large)
    (hlarge : large < 2 ^ 64) :
    ∃ shorter, lengthWrapperSize spec small = .ok shorter ∧ shorter ≤ wrapperBytes := by
  unfold lengthWrapperSize at h ⊢
  split at h
  · obtain ⟨⟩ := h
    refine ⟨_, rfl, uvarintSizeFuel_mono ?_⟩
    rw [UInt64.toNat_ofNat_of_lt' (show _ < 2 ^ 64 by omega),
      UInt64.toNat_ofNat_of_lt' (show _ < 2 ^ 64 by omega)]
    exact hle
  · split at h
    · cases h
    · obtain ⟨⟩ := h
      exact ⟨2, if_neg (by omega), le_rfl⟩
  · obtain ⟨⟩ := h
    exact ⟨4, rfl, le_rfl⟩
  · obtain ⟨⟩ := h
    exact ⟨4, rfl, le_rfl⟩
  · cases h

theorem sum_headerFieldSize (hlive : LiveSpec spec data padding) (streamBytes : ℕ) :
    (spec.headerOrder.map (headerFieldSize data streamBytes)).sum =
      data.typeTag.length + streamBytes + 9 := by
  rw [(hlive.headerPerm.map _).sum_eq]
  simp only [headerFields, map_cons, map_nil, headerFieldSize, sum_cons, sum_nil]
  omega

variable {streamID : UInt32} {stream : List UInt8}

theorem length_writeStreamID_live
    (h : writeStreamID spec streamID = .ok stream) (hhigh : streamID.toNat ≤ 65534) :
    stream.length ≤ 4 := by
  unfold writeStreamID at h
  split at h
  · obtain ⟨⟩ := h
    simp
  · obtain ⟨⟩ := h
    simp
  · obtain ⟨⟩ := h
    simp
  · obtain ⟨⟩ := h
    simp
  · obtain ⟨⟩ := h
    refine length_putUvarint_le ?_
    rw [UInt32.toNat_toUInt64]
    omega
  · cases h

theorem exists_writeStreamID (h : spec.streamEncodingMode.isKnown = true) (streamID : UInt32) :
    ∃ stream, writeStreamID spec streamID = .ok stream := by
  unfold writeStreamID
  split
  · exact ⟨_, rfl⟩
  · exact ⟨_, rfl⟩
  · exact ⟨_, rfl⟩
  · exact ⟨_, rfl⟩
  · exact ⟨_, rfl⟩
  · cases hmode : spec.streamEncodingMode with
    | known mode => cases mode <;> simp_all
    | other text => simp [hmode, Choice.isKnown] at h

variable {pad : List UInt8}

/-- The largest padding of the codec covers what its engine draws. -/
theorem paddingWithin_le_bound {e e' : Engine source}
    (hpolicy : e.policy = c.spec.padding) (h : e.generate = .ok (pad, e')) :
    pad.length ≤ c.paddingBound.toNat := by
  obtain ⟨-, hwithin⟩ := generate_spec h
  rw [hpolicy] at hwithin
  unfold paddingBound
  split
  · rcases hwithin with rfl | ⟨-, hhigh⟩
    · simp
    · omega
  · rename_i hmode
    unfold Engine.generate at h
    rw [if_pos (by rw [hpolicy]; exact not_not.mp hmode)] at h
    obtain ⟨⟩ := h
    simp

/-- A frame within the bound fits, and is no longer than the bound. -/
theorem frameFits_of_bound (hlive : LiveSpec c.spec data padding) {f : FrameParts} {n size : ℕ}
    (hbound : c.frameBound n = .ok size) (hmsg : f.msg = data)
    (hstream : f.stream.length ≤ 4) (hmetadata : f.metadata.length = 51)
    (hpayload : f.payload.length ≤ n) (hpad : f.pad.length ≤ c.paddingBound.toNat) :
    FrameFits c.spec f ∧ (f.frame c.spec).length ≤ size := by
  obtain ⟨hfits, wrapperBytes, hwrapper, rfl⟩ := (frameBound_eq_ok hlive).mp hbound
  have hframe := hlive.frameHigh
  have hbody : (f.body c.spec).length ≤ c.bodyBound data n := by
    rw [length_body, hmsg, sum_headerFieldSize hlive, hmetadata, bodyBound]
    omega
  obtain ⟨shorter, hshorter, hle⟩ := lengthWrapperSize_mono hwrapper hbody (by omega)
  obtain ⟨hlength, -, hten⟩ := length_wrapLength hshorter
  simp only [maxVarintLen64] at hten
  constructor
  · exact ⟨hmsg ▸ hlive.dataTag, by omega, shorter, hshorter, by omega⟩
  · rw [FrameParts.frame, hlength]
    omega

/-- The bound of a frame, where there is one. -/
def LiveDataCodecV3.frameRoom (c : LiveDataCodecV3 source) (n : ℕ) : ℕ :=
  (c.frameBound n).toOption.getD 0

/-- The bounds cover a frame for every fragment size. -/
theorem frameBounds_spec {wholes last largest total : ℕ}
    (hchunk : c.chunk = chunk) (h : c.frameBounds (wholes + 1) last = .ok (largest, total)) :
    (∀ n ∈ replicate wholes chunk ++ [last],
      c.frameBound n = .ok (c.frameRoom n) ∧ c.frameRoom n ≤ largest) ∧
      (∃ n ∈ replicate wholes chunk ++ [last], c.frameRoom n = largest) ∧
      ((replicate wholes chunk ++ [last]).map c.frameRoom).sum = total := by
  have hroom {n size : ℕ} (hn : c.frameBound n = .ok size) : c.frameRoom n = size := by
    rw [frameRoom, hn]
    rfl
  obtain ⟨tail, htail, h⟩ := bind_ok_iff.mp h
  have htailRoom := hroom htail
  by_cases hone : 1 < wholes + 1
  · rw [if_pos hone] at h
    obtain ⟨full, hfull, h⟩ := bind_ok_iff.mp h
    obtain ⟨⟩ := h
    rw [hchunk, Int.toNat_natCast] at hfull
    have hfullRoom := hroom hfull
    refine ⟨?_, ?_, ?_⟩
    · intro n hn
      rcases mem_append.mp hn with hwhole | hlast
      · rw [eq_of_mem_replicate hwhole, hfullRoom, hfull]
        exact ⟨rfl, le_max_left _ _⟩
      · rw [mem_singleton.mp hlast, htailRoom, htail]
        exact ⟨rfl, le_max_right _ _⟩
    · have hmem : chunk ∈ replicate wholes chunk := mem_replicate.mpr ⟨by omega, rfl⟩
      rcases le_total full tail with hle | hle
      · exact ⟨last, by simp, htailRoom.trans (max_eq_right hle).symm⟩
      · exact ⟨chunk, mem_append_left _ hmem, hfullRoom.trans (max_eq_left hle).symm⟩
    · simp only [map_append, map_replicate, map_singleton, sum_append, sum_replicate_nat,
        sum_singleton, hfullRoom, Nat.add_sub_cancel]
      omega
  · have hzero : wholes = 0 := by omega
    rw [if_neg hone] at h
    obtain ⟨⟩ := h
    subst hzero
    simp [htailRoom, htail]

/-- What accepted bounds promise for a payload of `n` bytes. -/
structure LiveDataCodecV3.BoundsFor (c : LiveDataCodecV3 source) (n : ℕ)
    (b : LiveDataBoundsV3) : Prop where
  positive : 0 < n
  low : c.minPayload ≤ n
  high : (n : Int) ≤ c.maxPayload
  frameCount : b.frameCount.toNat = (c.spec.fragmentSizes n).length
  fragments : (c.spec.fragmentSizes n).length ≤ 256
  padding : c.paddingBound ≤ 65535
  paddingBytes : b.paddingBytes.toNat = c.paddingBound.toNat
  frames : ∀ size ∈ c.spec.fragmentSizes n, c.frameBound size = .ok (c.frameRoom size)
  frameBytes : ((c.spec.fragmentSizes n).map c.frameRoom).sum = b.frameBytes.toNat
  covers : ∀ size ∈ c.spec.fragmentSizes n, c.frameRoom size ≤ b.largestFrameBytes.toNat
  largest : ∃ size ∈ c.spec.fragmentSizes n, c.frameRoom size = b.largestFrameBytes.toNat

variable {b : LiveDataBoundsV3}

theorem bounds_spec (hchunk : c.chunk = liveChunk c.spec) {n : ℕ}
    (h : c.bounds n = .ok b) : c.BoundsFor n b := by
  have hone := one_le_maxChunkFor c.spec.fragmentationMode c.spec.maxBatchBytes c.spec.maxFrameBytes
  rw [← liveChunk_eq, ← hchunk] at hone
  obtain ⟨chunk, hnat⟩ : ∃ chunk : ℕ, c.chunk = chunk := ⟨c.chunk.toNat, by omega⟩
  simp only [bounds, bind_ok_iff] at h
  obtain ⟨_, hsize, _, hcount, _, hpadding, ⟨largest, total⟩, hsizes, _, htotal, h⟩ := h
  obtain ⟨⟩ := h
  obtain ⟨hpos, hlow, hhigh⟩ := ensure_eq_ok.mp hsize
  have hfragments := fragmentSizes_eq (hchunk.symm.trans hnat) (by omega : 0 < n)
  -- The quotient is the same over the integers and over the naturals.
  have hquotient : ((n : Int) - 1) / c.chunk = ((n - 1) / chunk : ℕ) := by
    rw [hnat, Int.natCast_div, Nat.cast_sub (by omega)]
    rfl
  generalize (n - 1) / chunk = wholes at hfragments hquotient
  have hcount := ensure_eq_ok.mp hcount
  rw [hquotient] at hcount hsizes
  have hwholes : (1 + (wholes : Int)).toNat = wholes + 1 := by omega
  have hlast : ((n : Int) - (1 + (wholes : Int) - 1) * c.chunk).toNat = n - wholes * chunk := by
    rw [hnat, add_sub_cancel_left, ← Nat.cast_mul]
    exact Int.toNat_sub n (wholes * chunk)
  rw [hwholes, hlast] at hsizes
  obtain ⟨hframes, hlargest, hsum⟩ := frameBounds_spec hnat hsizes
  rw [← hfragments] at hframes hlargest hsum
  have hlength : (c.spec.fragmentSizes n).length = wholes + 1 := by
    rw [hfragments]
    simp
  obtain ⟨hfull, hwidest⟩ := ensure_eq_ok.mp htotal
  have hbound := ensure_eq_ok.mp hpadding
  have hcountWord : (UInt16.ofNat (wholes + 1)).toNat = wholes + 1 :=
    UInt16.toNat_ofNat_of_lt' (show _ < 2 ^ 16 by omega)
  have hpaddingWord : (UInt32.ofNat c.paddingBound.toNat).toNat = c.paddingBound.toNat :=
    UInt32.toNat_ofNat_of_lt' (show _ < 2 ^ 32 by omega)
  have htotalWord : (UInt32.ofNat total).toNat = total :=
    UInt32.toNat_ofNat_of_lt' (show _ < 2 ^ 32 by omega)
  have hlargestWord : (UInt32.ofNat largest).toNat = largest :=
    UInt32.toNat_ofNat_of_lt' (show _ < 2 ^ 32 by omega)
  exact {
    positive := by omega
    low := hlow
    high := hhigh
    frameCount := by
      simp only [hquotient, hwholes, hcountWord, hlength]
    fragments := by omega
    padding := hbound
    paddingBytes := hpaddingWord
    frames := fun size hsize => (hframes size hsize).1
    frameBytes := hsum.trans htotalWord.symm
    covers := by
      simp only [hlargestWord]
      exact fun size hsize => (hframes size hsize).2
    largest := by
      simp only [hlargestWord]
      exact hlargest }

/-! ## The rounds -/

theorem spansFor_concat (position : ℕ) (frames : List (List UInt8)) (frame : List UInt8) :
    spansFor position (frames ++ [frame]) =
      spansFor position frames ++
        [⟨UInt32.ofNat (position + frames.flatten.length), UInt32.ofNat frame.length⟩] := by
  induction frames generalizing position with
  | nil => simp [spansFor]
  | cons first frames ih => simp [spansFor, ih, Nat.add_assoc]

/-- The buffers after some frames: the frames in front of the slab and their spans in
front of the table, before what was there. -/
structure Written (s : EncodeStateV3 source) (frames : List (List UInt8))
    (tail : List UInt8) (spans : List FrameSpanV3) : Prop where
  buffer : s.frames = frames.flatten ++ tail
  pos : s.pos = frames.flatten.length
  spans : s.spans = spansFor 0 frames ++ spans

/-- The parts of the frame of one round. -/
def EncodeInputV3.parts (input : EncodeInputV3) (stream pad : List UInt8)
    (i offset size : ℕ) : FrameParts :=
  ⟨input.message, stream, input.metadata, (input.payload.drop offset).take size, pad, i,
    input.count⟩

theorem scratch_after_draw {scratch : List UInt8} {room : ℕ} (hroom : room ≤ scratch.length)
    (hpad : pad.length ≤ room) :
    (splice scratch 0 (splice (scratch.take room) 0 pad)).take pad.length = pad ∧
      (splice scratch 0 (splice (scratch.take room) 0 pad)).length = scratch.length := by
  constructor
  · simp [splice]
  · simp only [splice, length_append, length_drop, length_take]
    omega

section Rounds

variable {c : LiveDataCodecV3 source} {input : EncodeInputV3} {stream : List UInt8}

/-- One round writes its frame behind the frames before. -/
theorem encodeRound_eq {s : EncodeStateV3 source} {engine' : Engine source} {tail : List UInt8}
    {frames : List (List UInt8)} {spans : List FrameSpanV3} {size : ℕ} {f : FrameParts}
    (hbounded : BoundedPadding c.spec.padding)
    (hstream : writeStreamID c.spec input.streamID = .ok stream)
    (hpadding : input.paddingBytes = c.paddingBound.toNat)
    (hpolicy : s.engine.policy = c.spec.padding) (hscratch : input.paddingBytes ≤ s.scratch.length)
    (hsize : size = min c.chunk.toNat (input.payload.length - s.offset))
    (hgenerate : s.engine.generate = .ok (pad, engine'))
    (hf : input.parts stream pad frames.length s.offset size = f) (hfits : FrameFits c.spec f)
    (hwritten : Written s frames tail spans) (hspans : spans ≠ [])
    (hroom : (f.frame c.spec).length ≤ tail.length) :
    ∃ next, c.encodeRound input frames.length s = .ok next ∧
      Written next (frames ++ [f.frame c.spec]) (tail.drop (f.frame c.spec).length) spans.tail ∧
      next.engine = engine' ∧ next.offset = s.offset + size ∧
      next.scratch.length = s.scratch.length := by
  have hpad := paddingWithin_le_bound hpolicy hgenerate
  rw [← hpadding] at hpad
  have hdraw : s.engine.generateInto (s.scratch.take input.paddingBytes) =
      .ok (pad.length, splice (s.scratch.take input.paddingBytes) 0 pad, engine') := by
    rw [generateInto_eq _ (hpolicy ▸ hbounded) ?_, hgenerate, ok_bind]
    intro hmode
    rw [hpolicy] at hmode ⊢
    rw [length_take, hpadding, paddingBound, if_pos hmode]
    rw [hpadding, paddingBound, if_pos hmode] at hscratch
    omega
  obtain ⟨hfront, hlength⟩ := scratch_after_draw hscratch hpad
  have hpayload : f.payload.length = size := by
    rw [← hf]
    simp only [EncodeInputV3.parts, length_take, length_drop]
    omega
  obtain ⟨wrapperBytes, hsizes⟩ :=
    (frameSizeWithSpec_parts (f := f) (by rw [← hf]; exact hstream)).mpr ⟨rfl, hfits⟩
  obtain ⟨-, -, -, hwrapper, -⟩ := frameSizeWithSpec_eq_ok.mp hsizes
  have hframe : (f.frame c.spec).length = (f.body c.spec).length + wrapperBytes :=
    (length_wrapLength hwrapper).1
  have hspace : s.pos + ((f.body c.spec).length + wrapperBytes) ≤ s.frames.length := by
    rw [hwritten.buffer, hwritten.pos, length_append]
    omega
  have hdst : ((s.frames.drop s.pos).take ((f.body c.spec).length + wrapperBytes)).length =
      (f.body c.spec).length + wrapperBytes := by
    rw [length_take, length_drop]
    omega
  have hwrite := writeFrameWithSpec_eq f _ (by rw [← hf]; exact hstream) hsizes hdst
  have hcontent : input.metadata.length + size + pad.length =
      f.metadata.length + f.payload.length + f.pad.length := by
    rw [hpayload, ← hf]
    rfl
  have hsizes' : frameSizeWithSpec c.spec input.message input.streamID
      (input.metadata.length + size + pad.length) = .ok ((f.body c.spec).length, wrapperBytes) := by
    rw [hcontent]
    subst hf
    exact hsizes
  have hwrite' : writeFrameWithSpec c.spec
      ((s.frames.drop s.pos).take ((f.body c.spec).length + wrapperBytes)) input.message
      input.streamID input.metadata ((input.payload.drop s.offset).take size)
      ((splice s.scratch 0 (splice (s.scratch.take input.paddingBytes) 0 pad)).take pad.length)
      frames.length input.count (f.body c.spec).length wrapperBytes = .ok (f.frame c.spec) := by
    rw [hfront]
    subst hf
    exact hwrite
  obtain ⟨span, spans, rfl⟩ := exists_cons_of_ne_nil hspans
  unfold encodeRound
  rw [← hsize]
  rw [hdraw, ok_bind]
  rw [hsizes', ok_bind]
  dsimp only
  rw [ensure_of_pos hspace, ok_bind, hwrite', ok_bind]
  refine ⟨_, rfl, ⟨?_, ?_, ?_⟩, rfl, rfl, hlength⟩
  · rw [hwritten.buffer, hwritten.pos, splice_append, flatten_concat]
  · rw [hwritten.pos, ← hframe, flatten_concat, length_append]
  · rw [spansFor_concat, hwritten.spans, hwritten.pos, ← hframe, Nat.zero_add,
      set_append_right _ _ (by rw [length_spansFor]), length_spansFor]
    simp

/-- The rounds write the frames of the remaining fragments, one behind the other. -/
theorem encodeRounds_eq {op : Operation} (hbounded : BoundedPadding c.spec.padding)
    (hstream : writeStreamID c.spec input.streamID = .ok stream)
    (hpadding : input.paddingBytes = c.paddingBound.toNat)
    (hmetadata : input.metadata = metadataBytes op) (hpayload : input.payload = op.payload)
    {fuel : ℕ} {s : EncodeStateV3 source} {sizes : List ℕ} {pads : List (List UInt8)}
    {frames : List (List UInt8)} {tail : List UInt8} {spans : List FrameSpanV3}
    (hsizes : sizes = chunkSizes c.chunk.toNat fuel (op.payload.length - s.offset))
    (hpolicy : s.engine.policy = c.spec.padding) (hscratch : input.paddingBytes ≤ s.scratch.length)
    (hdraws : s.engine.draws sizes.length = .ok pads)
    (hfits : ∀ f ∈ fragmentParts input.message stream op input.count frames.length s.offset
      sizes pads, FrameFits c.spec f)
    (hwritten : Written s frames tail spans) (hspans : sizes.length ≤ spans.length)
    (hroom : ((fragmentParts input.message stream op input.count frames.length s.offset sizes
      pads).map (·.frame c.spec)).flatten.length ≤ tail.length) :
    ∃ final tail' spans', c.encodeRounds input sizes.length frames.length s = .ok final ∧
      Written final
        (frames ++ (fragmentParts input.message stream op input.count frames.length s.offset
          sizes pads).map (·.frame c.spec)) tail' spans' := by
  induction fuel generalizing s sizes pads frames tail spans with
  | zero =>
    obtain rfl : sizes = [] := hsizes
    refine ⟨s, tail, spans, rfl, ?_⟩
    simpa [fragmentParts] using hwritten
  | succ fuel ih =>
    rw [chunkSizes] at hsizes
    by_cases hdone : op.payload.length - s.offset = 0
    · rw [if_pos hdone] at hsizes
      subst hsizes
      refine ⟨s, tail, spans, rfl, ?_⟩
      simpa [fragmentParts] using hwritten
    · rw [if_neg hdone] at hsizes
      subst hsizes
      simp only [length_cons, Engine.draws, bind_ok_iff] at hdraws
      obtain ⟨⟨pad, engine'⟩, hgenerate, rest, hrest, ⟨⟩⟩ := hdraws
      generalize hsize : min c.chunk.toNat (op.payload.length - s.offset) = size at *
      have hparts : operationParts input.message stream
          { op with payload := (op.payload.drop s.offset).take size } pad frames.length
          input.count = input.parts stream pad frames.length s.offset size := by
        rw [EncodeInputV3.parts, hmetadata, hpayload]
        rfl
      simp only [fragmentParts, hparts, forall_mem_cons, map_cons,
        flatten_cons, length_append, length_cons] at hfits hroom hspans ⊢
      obtain ⟨hfirst, hothers⟩ := hfits
      obtain ⟨next, hnext, hwritten', hengine, hoffset, hlength⟩ :=
        encodeRound_eq hbounded hstream hpadding hpolicy hscratch
          (by rw [hpayload, hsize]) hgenerate rfl hfirst hwritten
          (ne_nil_of_length_pos (by omega)) (by omega)
      have hremaining : op.payload.length - next.offset = op.payload.length - s.offset - size := by
        omega
      have hindex : frames.length + 1 =
          (frames ++ [(input.parts stream pad frames.length s.offset size).frame
            c.spec]).length := by
        simp
      rw [hindex, ← hoffset] at hothers hroom
      obtain ⟨final, tail', spans', hfinal, hwritten''⟩ :=
        @ih next _ rest _ _ _ (by rw [hremaining])
          (by rw [hengine]; exact (generate_spec hgenerate).1.trans hpolicy) (by omega)
          (by rw [hengine]; exact hrest) hothers hwritten'
          (by rw [length_tail]; omega) (by rw [length_drop]; omega)
      refine ⟨final, tail', spans', ?_, ?_⟩
      · rw [encodeRounds, hnext, ok_bind, hindex, hfinal]
      · rw [hindex, ← hoffset]
        simpa using hwritten''

end Rounds

/-! ## The whole encoder -/

theorem boundedPadding_of_live (hlive : LiveSpec spec data padding) :
    BoundedPadding spec.padding := by
  have hpadding := hlive.paddingHigh
  have hframe := hlive.frameHigh
  exact ⟨hlive.paddingLow, hlive.paddingOrdered, by simp only [maxInt]; omega⟩

/-- Within machine bounds all draws succeed, each within the largest padding. -/
theorem draws_total (hbounded : BoundedPadding c.spec.padding)
    {e : Engine source} (hpolicy : e.policy = c.spec.padding) (n : ℕ) :
    ∃ pads, e.draws n = .ok pads ∧ ∀ pad ∈ pads, pad.length ≤ c.paddingBound.toNat := by
  induction n generalizing e with
  | zero => exact ⟨[], rfl, by simp⟩
  | succ n ih =>
    obtain ⟨pad, e', hgenerate⟩ := generate_total (hpolicy ▸ hbounded)
    obtain ⟨pads, hdraws, hall⟩ := ih ((generate_spec hgenerate).1.trans hpolicy)
    refine ⟨pad :: pads, ?_, ?_⟩
    · rw [Engine.draws, hgenerate, ok_bind, hdraws, ok_bind]
    · rw [forall_mem_cons]
      exact ⟨paddingWithin_le_bound hpolicy hgenerate, hall⟩

/-- A fragment covered by the bound of one of the sizes, with the header values given. -/
structure LiveDataCodecV3.FragmentWithin (c : LiveDataCodecV3 source) (stream : List UInt8)
    (count limit : ℕ) (sizes : List ℕ) (f : FrameParts) : Prop where
  fits : FrameFits c.spec f
  stream_eq : f.stream = stream
  fragCount : f.fragCount = count
  fragIndex : f.fragIndex < limit
  padding : f.pad.length ≤ c.paddingBound.toNat
  frame : ∃ size ∈ sizes, (f.frame c.spec).length ≤ c.frameRoom size

variable {count : ℕ} {pads : List (List UInt8)}

/-- All fragments fit, and their frames are covered by the bounds. -/
theorem fragmentParts_within_bounds {op : Operation}
    (hlive : LiveSpec c.spec data padding) (hstream : stream.length ≤ 4)
    (hmetadata : (metadataBytes op).length = 51) {idx offset : ℕ} {sizes : List ℕ}
    (hsizes : ∀ size ∈ sizes, c.frameBound size = .ok (c.frameRoom size))
    (hpads : ∀ pad ∈ pads, pad.length ≤ c.paddingBound.toNat) :
    (∀ f ∈ fragmentParts data stream op count idx offset sizes pads,
      c.FragmentWithin stream count (idx + sizes.length) sizes f) ∧
      ((fragmentParts data stream op count idx offset sizes pads).map
        (·.frame c.spec)).flatten.length ≤ (sizes.map c.frameRoom).sum := by
  induction sizes generalizing idx offset pads with
  | nil => simp [fragmentParts]
  | cons size sizes ih =>
    cases pads with
    | nil => simp [fragmentParts]
    | cons pad pads =>
      rw [forall_mem_cons] at hsizes hpads
      obtain ⟨hrest, hsum⟩ := @ih pads (idx + 1) (offset + size) hsizes.2 hpads.2
      obtain ⟨hfits, hlength⟩ := @frameFits_of_bound _ data padding c hlive
        (operationParts data stream
          { op with payload := (op.payload.drop offset).take size } pad idx count)
        size _ hsizes.1 rfl hstream hmetadata
        (by simp only [operationParts, length_take]; omega) hpads.1
      simp only [fragmentParts, forall_mem_cons, map_cons, flatten_cons, length_append, sum_cons]
      refine ⟨⟨⟨hfits, rfl, rfl, Nat.lt_add_of_pos_right (Nat.succ_pos _), hpads.1, size,
        mem_cons_self, hlength⟩, fun f hf => ?_⟩, by omega⟩
      obtain ⟨hfits', hstream', hcount', hindex', hpad', other, hother, hframe'⟩ := hrest f hf
      exact ⟨hfits', hstream', hcount', by rw [length_cons]; omega, hpad', other,
        mem_cons_of_mem _ hother, hframe'⟩

/-- The data operation the codec encodes. -/
def liveOperation (streamID : UInt32) (sequence : UInt64) (payload : List UInt8) :
    Operation :=
  { semantic := .known .data, streamID := streamID, sequence := sequence,
    payload := payload }

theorem length_metadataBytes_live (streamID : UInt32) (sequence : UInt64) (payload : List UInt8) :
    (metadataBytes (liveOperation streamID sequence payload)).length = 51 := by
  rfl

/-- The checks of the encoder on its stream and its buffers. -/
structure EncodableBuffers (framesDst paddingScratch payload : Slice) (streamID : UInt32)
    (spans : SpanTable) (b : LiveDataBoundsV3) : Prop where
  streamLow : 2 ≤ streamID.toNat
  streamHigh : streamID.toNat ≤ 65534
  framesRoom : b.frameBytes.toNat ≤ framesDst.bytes.length
  scratchRoom : b.paddingBytes.toNat ≤ paddingScratch.bytes.length
  apart : encodeBuffersOverlap framesDst paddingScratch payload spans = false

/-- What the encoder leaves in the buffers: the frames of the fragments of the data
operation, which all fit. -/
structure LiveDataCodecV3.Encodes (c : LiveDataCodecV3 source) (data : CodecMessage)
    (op : Operation) (seed : Int64) (done : EncodeStateV3 source) (count : ℕ)
    (stream : List UInt8) (pads : List (List UInt8)) : Prop where
  encodedStream : writeStreamID c.spec op.streamID = .ok stream
  draws : (newEngine source c.spec.padding seed).draws
    (c.spec.fragmentSizes op.payload.length).length = .ok pads
  padLengths : ∀ pad ∈ pads, pad.length ≤ c.paddingBound.toNat
  fits : ∀ f ∈ c.spec.fragmentsOf data stream op pads, FrameFits c.spec f
  frameCount : count = (c.spec.fragmentSizes op.payload.length).length
  written : ∃ tail spans, Written done (c.spec.framesOf data stream op pads) tail spans
  frameBytes : (c.spec.framesOf data stream op pads).flatten.length < 2 ^ 32

variable {framesDst paddingScratch : Slice} {payload : Slice}

/-- Once its checks have passed the encoder succeeds and writes these frames. -/
theorem encodeDataInto_total
    (hcodec : LiveCodec c data padding) {spans : SpanTable} (seed : Int64) (sequence : UInt64)
    (hbounds : c.bounds payload.bytes.length = .ok b)
    (hbuffers : EncodableBuffers framesDst paddingScratch payload streamID spans b) :
    ∃ done count stream pads,
      c.encodeDataInto framesDst paddingScratch payload streamID seed (some spans) sequence =
        .ok (done, count) ∧
      c.Encodes data (liveOperation streamID sequence payload.bytes) seed done count stream
        pads := by
  have hlive := hcodec.spec
  have hb := bounds_spec hcodec.chunk hbounds
  have hbounded := boundedPadding_of_live hlive
  have hdata : c.dataMessage = .ok data := by
    rw [dataMessage, hlive.messages]
  generalize hop : liveOperation streamID sequence payload.bytes = op
  have hpayload : op.payload = payload.bytes := by rw [← hop]; rfl
  have hmetadata : metadataBytes { sequence := sequence } = metadataBytes op := by
    rw [← hop]
    rfl
  have hlength : (metadataBytes op).length = 51 := by
    rw [← hop]
    exact length_metadataBytes_live _ _ _
  have hfill := writeOperationMetadata_fill { sequence := sequence }
    (show (replicate 51 (0 : UInt8)).length = _ by
      rw [hmetadata, hlength, length_replicate])
  obtain ⟨stream, hstream⟩ := exists_writeStreamID hlive.streamMode streamID
  have hshort := length_writeStreamID_live hstream hbuffers.streamHigh
  obtain ⟨pads, hdraws, hpads⟩ := draws_total hbounded
    (show (newEngine source c.spec.padding seed).policy = c.spec.padding from rfl)
    (c.spec.fragmentSizes payload.bytes.length).length
  obtain ⟨hwithin, hroom⟩ := @fragmentParts_within_bounds _ data padding c stream
    (c.spec.fragmentSizes payload.bytes.length).length pads op hlive hshort hlength 0 0 _
    hb.frames hpads
  have hfits := fun f hf => (hwithin f hf).fits
  have hsizes : c.spec.fragmentSizes payload.bytes.length =
      chunkSizes c.chunk.toNat payload.bytes.length (op.payload.length - 0) := by
    have hpositive := hb.positive
    rw [CodecSpec.fragmentSizes, fragmentSizesFor, if_neg (by omega), hcodec.chunk,
      liveChunk_eq, hpayload, Nat.sub_zero]
  have hspans : (c.spec.fragmentSizes payload.bytes.length).length ≤
      spans.entries.toList.length := by
    rw [List.Vector.toList_length]
    exact hb.fragments
  have hframes := hbuffers.framesRoom
  have hscratch := hbuffers.scratchRoom
  rw [hb.frameBytes] at hroom
  obtain ⟨done, tail, rest, hrounds, hwritten⟩ := @encodeRounds_eq _ c
    ⟨data, metadataBytes op, payload.bytes, streamID, b.frameCount.toNat,
      b.paddingBytes.toNat⟩ stream op hbounded hstream hb.paddingBytes rfl hpayload.symm
    payload.bytes.length
    ⟨framesDst.bytes, paddingScratch.bytes, spans.entries.toList,
      newEngine source c.spec.padding seed, 0, 0⟩
    (c.spec.fragmentSizes payload.bytes.length) pads [] framesDst.bytes
    spans.entries.toList hsizes rfl hscratch hdraws (by rw [hb.frameCount]; exact hfits)
    ⟨rfl, rfl, rfl⟩ hspans (by rw [hb.frameCount]; exact hroom.trans hframes)
  simp only [hb.frameCount, length_nil] at hrounds hwritten
  refine ⟨done, (c.spec.fragmentSizes payload.bytes.length).length, stream, pads, ?_, ?_⟩
  · have hengine : c.engine.resetSeed seed = newEngine source c.spec.padding seed := by
      rw [Engine.resetSeed, hcodec.policy]
      rfl
    rw [encodeDataInto, hbounds, ok_bind]
    dsimp only
    rw [ensure_of_pos ⟨hbuffers.streamLow, hbuffers.streamHigh, hframes, hscratch⟩, ok_bind,
      ensure_of_pos hbuffers.apart, ok_bind, hdata, ok_bind, hfill, ok_bind, hmetadata,
      hengine, hb.frameCount, hrounds, ok_bind]
  · have hword := b.frameBytes.toNat_lt
    rw [← hpayload] at hdraws hfits hwritten hroom ⊢
    have hid : op.streamID = streamID := by rw [← hop]; rfl
    exact ⟨hid ▸ hstream, hdraws, hpads, hfits, rfl, ⟨tail, rest, hwritten⟩,
      Nat.lt_of_le_of_lt hroom hword⟩

variable {sequence : UInt64} {done : EncodeStateV3 source} {seed : Int64}

/-- The encoder succeeds only after its checks, and then as described. -/
theorem encodes_of_encodeDataInto (hcodec : LiveCodec c data padding) {spans : Option SpanTable}
    (h : c.encodeDataInto framesDst paddingScratch payload streamID seed spans sequence =
      .ok (done, count)) :
    ∃ stream pads b, c.bounds payload.bytes.length = .ok b ∧
      c.Encodes data (liveOperation streamID sequence payload.bytes) seed done count stream
        pads := by
  have hrun := h
  obtain ⟨b, hbounds, h⟩ := bind_ok_iff.mp h
  cases spans with
  | none => cases h
  | some spans =>
    obtain ⟨hchecks, h⟩ := check_ok_iff.mp h
    obtain ⟨hapart, -⟩ := check_ok_iff.mp h
    obtain ⟨hlow, hhigh, hframes, hscratch⟩ := ensure_eq_ok.mp hchecks
    obtain ⟨done', count', stream, pads, htotal, hencodes⟩ :=
      encodeDataInto_total hcodec seed sequence hbounds
        ⟨hlow, hhigh, hframes, hscratch, ensure_eq_ok.mp hapart⟩
    obtain ⟨⟩ := htotal.symm.trans hrun
    exact ⟨stream, pads, b, hbounds, hencodes⟩

section Encoded

variable {c : LiveDataCodecV3 source} {data padding : CodecMessage} {op : Operation}
  {seed : Int64} {done : EncodeStateV3 source} {count : ℕ} {stream : List UInt8}
  {pads : List (List UInt8)} (h : c.Encodes data op seed done count stream pads)

include h

theorem Encodes.length_frames : (c.spec.framesOf data stream op pads).length = count := by
  rw [CodecSpec.framesOf, CodecSpec.fragmentsOf, length_map,
    length_fragmentParts (draws_within h.draws).1, h.frameCount]

/-- The written bytes and the first spans are those of the frames. -/
theorem Encodes.layout :
    done.frames.take done.pos = (c.spec.framesOf data stream op pads).flatten ∧
      done.spans.take count = spansFor 0 (c.spec.framesOf data stream op pads) := by
  have hlength := Encodes.length_frames h
  obtain ⟨tail, spans, hwritten⟩ := h.written
  constructor
  · rw [hwritten.buffer, hwritten.pos]
    exact take_left
  · rw [hwritten.spans]
    exact take_left' (by rw [length_spansFor]; exact hlength)

theorem Encodes.select :
    (done.spans.take count).map (spanFrame (done.frames.take done.pos)) =
      c.spec.framesOf data stream op pads := by
  obtain ⟨hbytes, hspans⟩ := Encodes.layout h
  have hselect := map_spanFrame_spansFor [] [] h.frameBytes
  rw [hbytes, hspans]
  simpa using hselect

end Encoded

theorem encodableMetadata_live (streamID : UInt32) (sequence : UInt64) (payload : List UInt8) :
    EncodableMetadata (liveOperation streamID sequence payload) :=
  ⟨by simp [operationMetadataStrings, liveOperation], le_rfl, le_rfl, le_rfl, le_rfl⟩

theorem messageBySemantic_data (hlive : LiveSpec spec data padding) :
    spec.messageBySemantic (.known .data) = some data := by
  simp [CodecSpec.messageBySemantic, hlive.messages, hlive.dataSemantic]

theorem messageByTag_data (hlive : LiveSpec spec data padding) :
    spec.messageByTag data.typeTag = some data := by
  simp [CodecSpec.messageByTag, hlive.messages]

/-! ## Equality with the allocating encoder -/

/-- The allocating encoder returns the frames the caller-buffer encoder has written. -/
theorem encodeLiveOperation_of_encodeDataInto {program : ProgramV1}
    (hcodec : newLiveDataCodecV3 source program = .ok codec) {spans : Option SpanTable}
    (h : codec.encodeDataInto framesDst paddingScratch payload streamID seed spans sequence =
      .ok (done, count)) :
    encodeLiveOperation source program (liveOperation streamID sequence payload.bytes) seed =
      .ok ((done.spans.take count).map (spanFrame (done.frames.take done.pos))) := by
  obtain ⟨data, padding, hlive⟩ := liveCodec_of_program hcodec
  obtain ⟨hspec, -⟩ := newLiveDataCodecV3_eq_ok hcodec
  obtain ⟨stream, pads, b, hbounds, hencodes⟩ := encodes_of_encodeDataInto hlive h
  have hpayload : (payload.bytes.length : Int) ≤ codec.spec.maxPayloadBytes :=
    (bounds_spec hlive.chunk hbounds).high.trans hlive.maxPayload
  rw [encodeLiveOperation, hspec, ok_bind, Encodes.select hencodes]
  exact encodeOperationWithSpec_eq_ok.mpr ⟨hpayload, data, stream, pads,
    messageBySemantic_data hlive.spec, hencodes.encodedStream,
    encodableMetadata_live _ _ _, hencodes.draws, hencodes.fits, rfl⟩

/-- The frames which `EncodeInto` and `EncodePacketV2Into` leave in the caller's buffers are
those of `EncodeLiveOperation` for the data operation with sequence zero, or with the stream as
its sequence. -/
theorem liveEncoders_agree {program : ProgramV1} {codec : LiveDataCodecV3 source}
    (hcodec : newLiveDataCodecV3 source program = .ok codec)
    (framesDst paddingScratch payload : Slice) (streamID : UInt32) (seed : Int64)
    (spans : Option SpanTable) (done : EncodeStateV3 source) (count : ℕ) :
    (codec.encodeInto framesDst paddingScratch payload streamID seed spans =
        .ok (done, count) →
      encodeLiveOperation source program
          { semantic := .known .data, streamID := streamID, payload := payload.bytes } seed =
        .ok ((done.spans.take count).map (spanFrame (done.frames.take done.pos)))) ∧
    (codec.encodePacketV2Into framesDst paddingScratch payload streamID seed spans =
        .ok (done, count) →
      encodeLiveOperation source program
          { semantic := .known .data, streamID := streamID, sequence := streamID.toUInt64,
            payload := payload.bytes } seed =
        .ok ((done.spans.take count).map (spanFrame (done.frames.take done.pos)))) :=
  ⟨fun h => encodeLiveOperation_of_encodeDataInto hcodec h,
    fun h => encodeLiveOperation_of_encodeDataInto hcodec h⟩

/-- Buffers for a payload of three bytes. -/
def sampleFramesDst : Slice := ⟨0, replicate 80 0⟩

def samplePaddingScratch : Slice := ⟨1000, replicate 4 0⟩

def samplePayload : Slice := ⟨2000, [1, 2, 3]⟩

def sampleSpanTable : SpanTable := ⟨4000, List.Vector.replicate 256 {}⟩

theorem bounds_samplePayload :
    sampleCodec.bounds samplePayload.bytes.length = .ok ⟨74, 74, 1, 4⟩ := by
  decide +kernel

theorem encodableBuffers_sample :
    EncodableBuffers sampleFramesDst samplePaddingScratch samplePayload 300 sampleSpanTable
      ⟨74, 74, 1, 4⟩ :=
  ⟨by decide, by decide, by decide +kernel, by decide, by decide +kernel⟩

/-- The sample payload is encoded by both encoders of the codec, and as by the
allocating encoder. -/
theorem liveEncoders_agree_samplePayload :
    (∃ done count,
      sampleCodec.encodeInto sampleFramesDst samplePaddingScratch samplePayload 300 5
        (some sampleSpanTable) = .ok (done, count) ∧
      encodeLiveOperation zeroSource sampleProgram
          { semantic := .known .data, streamID := 300, payload := [1, 2, 3] } 5 =
        .ok ((done.spans.take count).map (spanFrame (done.frames.take done.pos)))) ∧
    ∃ done count,
      sampleCodec.encodePacketV2Into sampleFramesDst samplePaddingScratch samplePayload 300 5
        (some sampleSpanTable) = .ok (done, count) ∧
      encodeLiveOperation zeroSource sampleProgram
          { semantic := .known .data, streamID := 300, sequence := 300,
            payload := [1, 2, 3] } 5 =
        .ok ((done.spans.take count).map (spanFrame (done.frames.take done.pos))) := by
  have hcodec := newLiveDataCodecV3_sampleProgram
  obtain ⟨data, padding, hlive⟩ := liveCodec_of_program hcodec
  have htotal (sequence : UInt64) :=
    encodeDataInto_total hlive 5 sequence bounds_samplePayload encodableBuffers_sample
  constructor
  · obtain ⟨done, count, -, -, hencode, -⟩ := htotal 0
    exact ⟨done, count, hencode,
      (liveEncoders_agree hcodec _ _ samplePayload 300 5 _ done count).1 hencode⟩
  · obtain ⟨done, count, -, -, hencode, -⟩ := htotal 300
    exact ⟨done, count, hencode,
      (liveEncoders_agree hcodec _ _ samplePayload 300 5 _ done count).2 hencode⟩

/-! ## The round trip -/

/-- Decoding what the encoder left in its buffers gives this payload and stream, in
every destination which has room for it and lies apart. -/
def LiveDataCodecV3.DecodesTo (c : LiveDataCodecV3 source) (done : EncodeStateV3 source)
    (count : ℕ) (payload : List UInt8) (streamID : UInt32) : Prop :=
  ∀ (payloadDst frameBytes : Slice) (spans : SpanSlice),
    frameBytes.bytes = done.frames.take done.pos →
    spans.entries = done.spans.take count →
    payload.length ≤ payloadDst.bytes.length →
    byteSlicesOverlap payloadDst frameBytes = false →
    regionsOverlap payloadDst.address payloadDst.bytes.length spans.address
      (spans.entries.length * frameSpanBytes) = false →
    c.decodeInto payloadDst frameBytes spans =
      .ok (⟨streamID, UInt32.ofNat payload.length⟩, payload ++ payloadDst.bytes.drop payload.length)

/-- The allocating decoder gives a data operation within the bounds back. -/
theorem Encodes.decodes {streamID : UInt32} {sequence : UInt64} {payload : List UInt8}
    {b : LiveDataBoundsV3} (hcodec : LiveCodec c data padding) (hb : c.BoundsFor payload.length b)
    (h : c.Encodes data (liveOperation streamID sequence payload) seed done count stream
      pads) :
    ∃ parts, decodeFramesWithSpec c.spec
        (c.spec.framesOf data stream (liveOperation streamID sequence payload) pads) =
      .ok (liveOperation streamID sequence payload, parts) := by
  have hlive := hcodec.spec
  have hpadding := hb.padding
  have hfragments := hb.fragments
  have hmetadata := encodableMetadata_live streamID sequence payload
  have hdecode := decodeFramesWithSpec_framesOf hlive.toValidSpec h.encodedStream hmetadata
    (messageByTag_data hlive) (hb.high.trans hcodec.maxPayload) (draws_within h.draws).1
    h.fits (by simp only [liveOperation]; omega)
    (fun pad hpad => by have := h.padLengths pad hpad; omega)
  have hreceived : received data (liveOperation streamID sequence payload) =
      liveOperation streamID sequence payload := by
    have hzero : (0 : Int) < 2 ^ 32 := by omega
    exact (received_eq_self hmetadata).mpr ⟨hlive.dataSemantic, hzero, hzero, hzero, hzero⟩
  rwa [hreceived] at hdecode

/-- The frames of a data operation within the bounds decode to its payload. -/
theorem Encodes.decodesTo {payload : List UInt8} (hcodec : LiveCodec c data padding)
    (hb : c.BoundsFor payload.length b) (hlow : 2 ≤ streamID.toNat) (hhigh : streamID.toNat ≤ 65534)
    (h : c.Encodes data (liveOperation streamID sequence payload) seed done count stream
      pads) : c.DecodesTo done count payload streamID := by
  intro payloadDst frameBytes spans hbytes hentries hroom hframesApart hspansApart
  have hlive := hcodec.spec
  have hfragments := hb.fragments
  obtain ⟨parts, hparts⟩ := Encodes.decodes hcodec hb h
  have hlength := Encodes.length_frames h
  have hcount := h.frameCount
  obtain ⟨hjoined, hspans⟩ := Encodes.layout h
  refine decodeInto_of_decodeFramesWithSpec hlive.frameHigh hparts rfl
    ⟨hlow, hhigh, ?_, ?_, ⟨hb.positive, hb.low, hb.high, hroom⟩⟩
    ⟨hbytes.trans hjoined, hentries.trans hspans, hframesApart, hspansApart⟩
  · simp only [liveOperation] at hcount
    omega
  · intro frame hframe body hbody
    obtain ⟨f, hf, rfl⟩ := mem_map.mp hframe
    have hfits := h.fits f hf
    obtain ⟨wrapperBytes, hwrapper, -⟩ := hfits.wrapper
    have hsize := hfits.body
    have hframe := hlive.frameHigh
    have hunwrap := unwrapLength_wrapLength hwrapper (by omega)
    obtain ⟨⟩ := hunwrap.symm.trans hbody
    exact hsize

/-- Whenever the bounds accept a payload and the buffers satisfy the checks of the encoders,
both encoders succeed, and what they wrote decodes to the payload and the stream. -/
theorem live_round_trip {program : ProgramV1} {codec : LiveDataCodecV3 source}
    (hcodec : newLiveDataCodecV3 source program = .ok codec)
    {framesDst paddingScratch payload : Slice} {streamID : UInt32} {spans : SpanTable}
    {b : LiveDataBoundsV3} (seed : Int64) (hbounds : codec.bounds payload.bytes.length = .ok b)
    (hbuffers : EncodableBuffers framesDst paddingScratch payload streamID spans b) :
    (∃ done count,
      codec.encodeInto framesDst paddingScratch payload streamID seed (some spans) =
        .ok (done, count) ∧ codec.DecodesTo done count payload.bytes streamID) ∧
    ∃ done count,
      codec.encodePacketV2Into framesDst paddingScratch payload streamID seed (some spans) =
        .ok (done, count) ∧ codec.DecodesTo done count payload.bytes streamID := by
  obtain ⟨data, padding, hlive⟩ := liveCodec_of_program hcodec
  have hb := bounds_spec hlive.chunk hbounds
  have hrun (sequence : UInt64) : ∃ done count,
      codec.encodeDataInto framesDst paddingScratch payload streamID seed (some spans)
        sequence = .ok (done, count) ∧ codec.DecodesTo done count payload.bytes streamID := by
    obtain ⟨done, count, stream, pads, hencode, hencodes⟩ :=
      encodeDataInto_total hlive seed sequence hbounds hbuffers
    exact ⟨done, count, hencode,
      Encodes.decodesTo hlive hb hbuffers.streamLow hbuffers.streamHigh hencodes⟩
  exact ⟨hrun 0, hrun streamID.toUInt64⟩

/-- The sample payload comes back from both encoders. -/
theorem live_round_trip_samplePayload :
    (∃ done count,
      sampleCodec.encodeInto sampleFramesDst samplePaddingScratch samplePayload 300 5
        (some sampleSpanTable) = .ok (done, count) ∧
      sampleCodec.DecodesTo done count [1, 2, 3] 300) ∧
    ∃ done count,
      sampleCodec.encodePacketV2Into sampleFramesDst samplePaddingScratch samplePayload 300 5
        (some sampleSpanTable) = .ok (done, count) ∧
      sampleCodec.DecodesTo done count [1, 2, 3] 300 :=
  live_round_trip newLiveDataCodecV3_sampleProgram 5 bounds_samplePayload encodableBuffers_sample

end Kurdistan.Framing
