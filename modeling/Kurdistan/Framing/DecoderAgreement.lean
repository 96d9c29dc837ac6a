import Mathlib.Algebra.Order.BigOperators.Group.List
import Kurdistan.Framing.Reassembly
import Kurdistan.Framing.ValidSpec

/-!
# The two decoders of live frames

The caller-buffer decoder reads its frames through spans of one byte string. It
accepts exactly the complete fragment sets of a data operation within its limits,
and hence agrees with the allocating decoder on every list of frames.
-/

namespace Kurdistan.Framing

open Support Protocol List

variable {source : RandSource}

/-! ## Spans -/

/-- The spans of frames which lie behind each other from `position` on. -/
def spansFor : ℕ → List (List UInt8) → List FrameSpanV3
  | _, [] => []
  | position, frame :: frames =>
    ⟨UInt32.ofNat position, UInt32.ofNat frame.length⟩ :: spansFor (position + frame.length) frames

@[simp] theorem length_spansFor (position : ℕ) (frames : List (List UInt8)) :
    (spansFor position frames).length = frames.length := by
  induction frames generalizing position with
  | nil => rfl
  | cons frame frames ih => simp [spansFor, ih]

variable {frames : List (List UInt8)}

theorem map_spanFrame_spansFor (done rest : List UInt8)
    (h : (done ++ frames.flatten).length < 2 ^ 32) :
    (spansFor done.length frames).map (spanFrame (done ++ frames.flatten ++ rest)) =
      frames := by
  induction frames generalizing done with
  | nil => rfl
  | cons frame frames ih =>
    simp only [flatten_cons, length_append] at h
    have hoffset : (UInt32.ofNat done.length).toNat = done.length :=
      UInt32.toNat_ofNat_of_lt' (show _ < 2 ^ 32 by omega)
    have hlength : (UInt32.ofNat frame.length).toNat = frame.length :=
      UInt32.toNat_ofNat_of_lt' (show _ < 2 ^ 32 by omega)
    have hframe : spanFrame (done ++ (frame :: frames).flatten ++ rest)
        ⟨UInt32.ofNat done.length, UInt32.ofNat frame.length⟩ = frame := by
      simp [spanFrame, hoffset, hlength]
    have hrest := ih (done ++ frame) (by simp only [length_append]; omega)
    rw [length_append] at hrest
    rw [spansFor, map_cons, hframe]
    simp only [flatten_cons, append_assoc] at hrest ⊢
    rw [hrest]

variable {total : ℕ}

/-- The spans of nonempty frames pass the first loop of the decoder. -/
theorem checkSpans_spansFor (position : ℕ) (hnonempty : ∀ frame ∈ frames, frame ≠ [])
    (hfits : position + frames.flatten.length ≤ total) (htotal : total < 2 ^ 32) :
    checkSpans total position (spansFor position frames) =
      .ok (position + frames.flatten.length) := by
  induction frames generalizing position with
  | nil => simp [spansFor, checkSpans]
  | cons frame frames ih =>
    simp only [flatten_cons, length_append] at hfits
    have hoffset : (UInt32.ofNat position).toNat = position :=
      UInt32.toNat_ofNat_of_lt' (show _ < 2 ^ 32 by omega)
    have hlength : (UInt32.ofNat frame.length).toNat = frame.length :=
      UInt32.toNat_ofNat_of_lt' (show _ < 2 ^ 32 by omega)
    have hpositive : 0 < frame.length := length_pos_of_ne_nil (hnonempty frame mem_cons_self)
    have hne : UInt32.ofNat frame.length ≠ 0 := by
      intro hzero
      rw [hzero] at hlength
      exact absurd hlength (by simp; omega)
    have hrest := ih (position + frame.length)
      (fun other hother => hnonempty other (mem_cons_of_mem _ hother)) (by omega)
    rw [spansFor, checkSpans, ensure_of_pos ⟨hne, hoffset⟩, ok_bind, hlength,
      ensure_of_pos (by omega), ok_bind, hrest, flatten_cons, length_append, Nat.add_assoc]

/-! ## Fragments -/

/-- A view within the limits of the codec. -/
structure LiveDataCodecV3.LiveView (c : LiveDataCodecV3 source) (view : FrameView) : Prop where
  semantic : view.msg.semantic = .known .data
  streamLow : 2 ≤ view.streamID.toNat
  streamHigh : view.streamID.toNat ≤ 65534
  bodyBytes : (view.bodyBytes : Int) ≤ c.spec.maxFrameBytes

variable {c : LiveDataCodecV3 source}

/-- One round accepts exactly the live view which belongs at its position. -/
theorem checkFragment_eq_ok {count i next : ℕ} {expected part : FrameView} :
    c.checkFragment count i expected part total = .ok next ↔
      (i = 0 → part.fragCount = count) ∧ FragmentOf expected expected.fragCount i part ∧
        i < count ∧ c.LiveView part ∧ next = total + part.payload.length ∧
        (next : Int) ≤ c.maxPayload := by
  unfold LiveDataCodecV3.checkFragment
  simp only [check_ok_iff, ensure_eq_ok, validOperation_eq_true, true_and, Except.ok.injEq]
  constructor
  · rintro ⟨hfirst, hcount, hrange, -, hindex, hsemantic, hstream, hsymbol, hmetadata,
      ⟨hdata, hlow, hhigh, hbody, hpayload⟩, rfl⟩
    refine ⟨hfirst, ⟨hcount, hindex, hsemantic, hstream, hsymbol, hmetadata⟩, by omega,
      ⟨hdata, hlow, hhigh, hbody⟩, rfl, ?_⟩
    omega
  · rintro ⟨hfirst, hpart, hrange, hlive, rfl, htotal⟩
    have hindex := hpart.fragIndex
    exact ⟨hfirst, hpart.fragCount, by omega, by omega, hindex, hpart.semantic,
      hpart.stream, hpart.symbol, hpart.metadata,
      ⟨hlive.semantic, hlive.streamLow, hlive.streamHigh, hlive.bodyBytes, by omega⟩, rfl⟩

/-- What the second loop requires of the views from round `i` on. -/
def LiveDataCodecV3.LiveFragments (c : LiveDataCodecV3 source) (expected : FrameView)
    (count i : ℕ) (views : List FrameView) : Prop :=
  ∀ entry ∈ views.zipIdx i,
    FragmentOf expected expected.fragCount entry.2 entry.1 ∧ entry.2 < count ∧ c.LiveView entry.1

variable {result : Option FrameView × ℕ}

/-- The second loop after its first round. -/
theorem checkFragments_some {frameBytes : List UInt8} {count i : ℕ} {expected : FrameView}
    {spans : List FrameSpanV3} (hi : 0 < i) (htotal : (total : Int) ≤ c.maxPayload) :
    c.checkFragments frameBytes count i (some expected) total spans = .ok result ↔
      ∃ views, ParsesTo c.spec (spans.map (spanFrame frameBytes)) views ∧
        c.LiveFragments expected count i views ∧
        result = (some expected, total + (joinedPayload views).length) ∧
        ((total + (joinedPayload views).length : ℕ) : Int) ≤ c.maxPayload := by
  induction spans generalizing i total with
  | nil =>
    simp only [LiveDataCodecV3.checkFragments, ParsesTo]
    simp [LiveDataCodecV3.LiveFragments, joinedPayload, htotal, eq_comm]
  | cons span spans ih =>
    rw [LiveDataCodecV3.checkFragments]
    simp only [bind_ok_iff, checkFragment_eq_ok]
    constructor
    · rintro ⟨part, hpart, next, ⟨-, hfragment, hrange, hlive, rfl, hnext⟩, hrest⟩
      obtain ⟨views, hviews, hfragments, rfl, hlimit⟩ := (ih (by omega) hnext).mp hrest
      refine ⟨part :: views, .cons hpart hviews, ?_, ?_, ?_⟩
      · simp only [LiveDataCodecV3.LiveFragments, zipIdx_cons, forall_mem_cons]
        exact ⟨⟨hfragment, hrange, hlive⟩, hfragments⟩
      · simp [joinedPayload, Nat.add_assoc]
      · simpa [joinedPayload, add_assoc] using hlimit
    · rintro ⟨views, hviews, hfragments, hresult, hlimit⟩
      cases hviews with
      | cons hpart hviews =>
        rename_i part views
        simp only [LiveDataCodecV3.LiveFragments, zipIdx_cons, forall_mem_cons] at hfragments
        obtain ⟨⟨hfragment, hrange, hlive⟩, hfragments⟩ := hfragments
        have hjoined : (joinedPayload (part :: views)).length =
            part.payload.length + (joinedPayload views).length := by
          simp [joinedPayload]
        rw [hjoined, ← Nat.add_assoc] at hlimit hresult
        have hnext : ((total + part.payload.length : ℕ) : Int) ≤ c.maxPayload := by
          omega
        exact ⟨part, hpart, _, ⟨by omega, hfragment, hrange, hlive, rfl, hnext⟩,
          (ih (by omega) hnext).mpr ⟨views, hviews, hfragments, hresult, hlimit⟩⟩

/-- The second loop accepts exactly the complete sets of live views. -/
theorem checkFragments_eq_ok {frameBytes : List UInt8} {spans : List FrameSpanV3}
    (hspans : spans ≠ []) :
    c.checkFragments frameBytes spans.length 0 none 0 spans = .ok result ↔
      ∃ expected rest,
        ParsesTo c.spec (spans.map (spanFrame frameBytes)) (expected :: rest) ∧
        FragmentSet expected (expected :: rest) ∧
        (∀ view ∈ expected :: rest, c.LiveView view) ∧
        result = (some expected, (joinedPayload (expected :: rest)).length) ∧
        ((joinedPayload (expected :: rest)).length : Int) ≤ c.maxPayload := by
  obtain ⟨span, spans, rfl⟩ := exists_cons_of_ne_nil hspans
  have hjoined (part : FrameView) (views : List FrameView) :
      (joinedPayload (part :: views)).length =
        0 + part.payload.length + (joinedPayload views).length := by
    simp [joinedPayload]
  rw [LiveDataCodecV3.checkFragments]
  simp only [bind_ok_iff, Option.getD_none, checkFragment_eq_ok]
  constructor
  · rintro ⟨part, hpart, next, ⟨hcount, hfragment, hrange, hlive, rfl, hnext⟩, hrest⟩
    obtain ⟨views, hviews, hfragments, rfl, hlimit⟩ :=
      (checkFragments_some (by omega) hnext).mp hrest
    have hparses : ParsesTo c.spec ((span :: spans).map (spanFrame frameBytes))
        (part :: views) := .cons hpart hviews
    have hlength : part.fragCount = (part :: views).length := by
      rw [hcount trivial, ← hparses.length_eq, length_map]
    have hall : c.LiveFragments part (span :: spans).length 0 (part :: views) := by
      simp only [LiveDataCodecV3.LiveFragments, zipIdx_cons, forall_mem_cons]
      exact ⟨⟨hfragment, hrange, hlive⟩, hfragments⟩
    refine ⟨part, views, hparses, ?_, ?_, by rw [hjoined], by rw [hjoined]; exact hlimit⟩
    · intro entry hentry
      exact hlength ▸ (hall entry hentry).1
    · intro view hview
      rw [← zipIdx_map_fst 0 (part :: views)] at hview
      obtain ⟨entry, hentry, rfl⟩ := mem_map.mp hview
      exact (hall entry hentry).2.2
  · rintro ⟨part, views, hparses, hset, hlive, rfl, hlimit⟩
    have hlength := hparses.length_eq
    rw [length_map] at hlength
    have hcount : part.fragCount = (part :: views).length := (hset (part, 0) (by simp)).fragCount
    have hall : c.LiveFragments part (span :: spans).length 0 (part :: views) := by
      intro entry hentry
      have hbound := snd_lt_of_mem_zipIdx hentry
      refine ⟨hcount ▸ hset entry hentry, by omega, hlive entry.1 (fst_mem_of_mem_zipIdx hentry)⟩
    simp only [LiveDataCodecV3.LiveFragments, zipIdx_cons, forall_mem_cons] at hall
    obtain ⟨⟨hfragment, hrange, hview⟩, hfragments⟩ := hall
    rw [hjoined] at hlimit ⊢
    have hnext : ((0 + part.payload.length : ℕ) : Int) ≤ c.maxPayload := by omega
    cases hparses with
    | cons hpart hviews =>
      exact ⟨part, hpart, _,
        ⟨fun _ => hcount.trans hlength.symm, hfragment, hrange, hview, rfl, hnext⟩,
        (checkFragments_some (by omega) hnext).mpr ⟨views, hviews, hfragments, rfl, hlimit⟩⟩

/-! ## The whole decoder -/

variable {views : List FrameView}

/-- The last loop writes the payloads of the views, one behind the other. -/
theorem emits_copyPayloads {frameBytes : List UInt8} {spans : List FrameSpanV3}
    (h : ParsesTo c.spec (spans.map (spanFrame frameBytes)) views) :
    Emits (c.copyPayloads frameBytes spans) (joinedPayload views) := by
  induction spans generalizing views with
  | nil =>
    cases h
    exact emits_pure
  | cons span spans ih =>
    cases h with
    | cons hpart hviews =>
      rename_i part views
      have hcopy := (emits_copy FramingError.panic part.payload).bind (ih hviews)
      intro done rest hroom
      rw [LiveDataCodecV3.copyPayloads, hpart, ok_bind]
      exact hcopy done rest hroom

/-- What the decoder requires of its destination and of the place of its spans. -/
structure DecodableBuffers (payloadDst frameBytes : Slice) (spans : SpanSlice) : Prop where
  spansNonempty : spans.entries ≠ []
  spansFit : spans.entries.length ≤ 256
  framesApart : byteSlicesOverlap payloadDst frameBytes = false
  spansApart : regionsOverlap payloadDst.address payloadDst.bytes.length spans.address
    (spans.entries.length * frameSpanBytes) = false
  covered : checkSpans frameBytes.bytes.length 0 spans.entries = .ok frameBytes.bytes.length

/-- The payload sizes the decoder delivers. -/
structure LiveDataCodecV3.Deliverable (c : LiveDataCodecV3 source) (room : ℕ)
    (payload : List UInt8) : Prop where
  positive : 0 < payload.length
  low : c.minPayload ≤ payload.length
  high : (payload.length : Int) ≤ c.maxPayload
  room : payload.length ≤ room

variable {frameBytes payloadDst : Slice} {spans : SpanSlice} {info : LiveDataInfoV3}
  {dst : List UInt8}

/-- The caller-buffer decoder accepts exactly the complete sets of live views, and
leaves their payload in front of the destination. -/
theorem decodeInto_eq_ok :
    c.decodeInto payloadDst frameBytes spans = .ok (info, dst) ↔
      DecodableBuffers payloadDst frameBytes spans ∧
      ∃ expected rest,
        ParsesTo c.spec (spans.entries.map (spanFrame frameBytes.bytes)) (expected :: rest) ∧
        FragmentSet expected (expected :: rest) ∧
        (∀ view ∈ expected :: rest, c.LiveView view) ∧
        c.Deliverable payloadDst.bytes.length (joinedPayload (expected :: rest)) ∧
        info = ⟨expected.streamID,
          UInt32.ofNat (joinedPayload (expected :: rest)).length⟩ ∧
        dst = joinedPayload (expected :: rest) ++
          payloadDst.bytes.drop (joinedPayload (expected :: rest)).length := by
  have hcopied {views : List FrameView}
      (hparses : ParsesTo c.spec (spans.entries.map (spanFrame frameBytes.bytes)) views)
      (hroom : (joinedPayload views).length ≤ payloadDst.bytes.length) :
      c.copyPayloads frameBytes.bytes spans.entries
          ⟨payloadDst.bytes.take (joinedPayload views).length, 0⟩ =
        .ok ⟨joinedPayload views, (joinedPayload views).length⟩ :=
    (emits_copyPayloads hparses).fill (by rw [length_take, Nat.min_eq_left hroom])
  have hplaced (payload : List UInt8) :
      splice payloadDst.bytes 0 payload = payload ++ payloadDst.bytes.drop payload.length := by
    simp [splice]
  simp only [LiveDataCodecV3.decodeInto, bind_ok_iff, ensure_ok_iff, exists_const]
  constructor
  · rintro ⟨hspans, ⟨hfit, hframes⟩, happart, last, hlast, rfl, checked, hchecked,
      ⟨hpositive, hlow, hroom⟩, copied, hcopy, h⟩
    obtain ⟨expected, rest, hparses, hset, hlive, rfl, hhigh⟩ :=
      (checkFragments_eq_ok hspans).mp hchecked
    rw [hcopied hparses hroom] at hcopy
    obtain ⟨⟩ := hcopy
    obtain ⟨⟩ := h
    exact ⟨⟨hspans, hfit, hframes, happart, hlast⟩, expected, rest, hparses, hset, hlive,
      ⟨hpositive, hlow, hhigh, hroom⟩, rfl, hplaced _⟩
  · rintro ⟨⟨hspans, hfit, hframes, happart, hlast⟩, expected, rest, hparses, hset, hlive,
      ⟨hpositive, hlow, hhigh, hroom⟩, rfl, rfl⟩
    have hchecked := (checkFragments_eq_ok hspans).mpr
      ⟨expected, rest, hparses, hset, hlive, rfl, hhigh⟩
    exact ⟨hspans, ⟨hfit, hframes⟩, happart, _, hlast, rfl, _, hchecked,
      ⟨hpositive, hlow, hroom⟩, _, hcopied hparses hroom, by rw [hplaced]; rfl⟩

/-! ## Agreement -/

theorem newLiveDataCodecV3_eq_ok {program : ProgramV1} {codec : LiveDataCodecV3 source}
    (h : newLiveDataCodecV3 source program = .ok codec) :
    codecSpecFromLiveProgram program = .ok codec.spec ∧
      codec.maxPayload ≤ codec.spec.maxPayloadBytes ∧
      codec.chunk = liveChunk codec.spec ∧
      codec.engine = newEngine source codec.spec.padding 0 := by
  obtain ⟨spec, hspec, h⟩ := bind_ok_iff.mp h
  split at h
  · cases h
  · obtain ⟨-, h⟩ := check_ok_iff.mp h
    obtain ⟨⟩ := h
    exact ⟨hspec, min_le_right _ _, rfl, rfl⟩

variable {spec : CodecSpec}

theorem decodeLiveFrames_eq {program : ProgramV1} (h : codecSpecFromLiveProgram program = .ok spec)
    (frames : List (List UInt8)) :
    decodeLiveFrames program frames = decodeFramesWithSpec spec frames := by
  rw [decodeLiveFrames, h, ok_bind]

theorem ParsesTo.exists_view (h : ParsesTo spec frames views) {frame : List UInt8}
    (hmem : frame ∈ frames) : ∃ view ∈ views, parseFrameView spec frame = .ok view := by
  obtain ⟨i, hi, rfl⟩ := getElem_of_mem hmem
  have hlength := h.length_eq
  exact ⟨views[i], getElem_mem _, h.get hi (hlength ▸ hi)⟩

theorem ParsesTo.exists_frame (h : ParsesTo spec frames views) {view : FrameView}
    (hmem : view ∈ views) : ∃ frame ∈ frames, parseFrameView spec frame = .ok view := by
  obtain ⟨i, hi, rfl⟩ := getElem_of_mem hmem
  have hlength := h.length_eq
  exact ⟨frames[i], getElem_mem _, h.get (hlength ▸ hi) hi⟩

theorem parseFrameView_size {frame : List UInt8} {view : FrameView}
    (h : parseFrameView spec frame = .ok view) :
    frame ≠ [] ∧ (frame.length : Int) ≤ spec.maxFrameBytes + maxVarintLen64 ∧
      ∃ body, unwrapLengthWithSpec spec frame = .ok body ∧ view.bodyBytes = body.length := by
  simp only [parseFrameView, bind_ok_iff] at h
  obtain ⟨_, hsize, body, hbody, content, -, decoded, -, _, -, parsed, -, _, -, h⟩ := h
  obtain ⟨⟩ := h
  obtain ⟨hnonempty, hlength⟩ := ensure_eq_ok.mp hsize
  exact ⟨hnonempty, hlength, body, hbody, rfl⟩

/-- Few enough parsed frames have 32-bit offsets. -/
theorem flatten_length_le {limit : ℕ} (h : ∀ frame ∈ frames, frame.length ≤ limit) :
    frames.flatten.length ≤ frames.length * limit := by
  simpa using sum_le_card_nsmul (frames.map length) limit (by simpa using h)

/-- The limits of the caller-buffer decoder, for frames and their operation. -/
structure LiveDataCodecV3.WithinLimits (c : LiveDataCodecV3 source)
    (frames : List (List UInt8)) (op : Operation) (room : ℕ) : Prop where
  streamLow : 2 ≤ op.streamID.toNat
  streamHigh : op.streamID.toNat ≤ 65534
  fragments : frames.length ≤ 256
  bodies : ∀ frame ∈ frames, ∀ body, unwrapLengthWithSpec c.spec frame = .ok body →
    (body.length : Int) ≤ c.spec.maxFrameBytes
  payload : c.Deliverable room op.payload

/-- The frames lie behind each other in one byte string which does not overlap the
destination. -/
structure FramesLaidOut (frames : List (List UInt8)) (payloadDst frameBytes : Slice)
    (spans : SpanSlice) : Prop where
  joined : frameBytes.bytes = frames.flatten
  entries : spans.entries = spansFor 0 frames
  framesApart : byteSlicesOverlap payloadDst frameBytes = false
  spansApart : regionsOverlap payloadDst.address payloadDst.bytes.length spans.address
    (spans.entries.length * frameSpanBytes) = false

/-- The stream of an accepted set of frames is one of data, and the destination keeps its
length. -/
theorem decodeInto_limits (h : c.decodeInto payloadDst frameBytes spans = .ok (info, dst)) :
    2 ≤ info.streamID.toNat ∧ info.streamID.toNat ≤ 65534 ∧
      dst.length = payloadDst.bytes.length := by
  obtain ⟨-, expected, rest, -, -, hlive, hsize, rfl, rfl⟩ := decodeInto_eq_ok.mp h
  have hview := hlive expected mem_cons_self
  have hroom := hsize.room
  refine ⟨hview.streamLow, hview.streamHigh, ?_⟩
  rw [length_append, length_drop]
  omega

/-- What the caller-buffer decoder accepts, the allocating decoder accepts. -/
theorem decodeFramesWithSpec_of_decodeInto (hmax : c.maxPayload ≤ 2 ^ 23)
    (h : c.decodeInto payloadDst frameBytes spans = .ok (info, dst)) :
    ∃ op parts,
      decodeFramesWithSpec c.spec (spans.entries.map (spanFrame frameBytes.bytes)) =
        .ok (op, parts) ∧
      op.semantic = .known .data ∧ op.streamID = info.streamID ∧
      op.payload = dst.take info.payloadBytes.toNat := by
  obtain ⟨-, expected, rest, hparses, hset, hlive, hsize, rfl, rfl⟩ := decodeInto_eq_ok.mp h
  have hdecode := decodeFramesWithSpec_eq_ok.mpr ⟨expected, rest, hparses, hset, rfl, rfl⟩
  refine ⟨_, _, hdecode, (hlive expected mem_cons_self).semantic, rfl, ?_⟩
  have hhigh := hsize.high
  have hcount : (UInt32.ofNat (joinedPayload (expected :: rest)).length).toNat =
      (joinedPayload (expected :: rest)).length :=
    UInt32.toNat_ofNat_of_lt' (show _ < 2 ^ 32 by omega)
  simp [hcount, rebuilt]

/-- What the allocating decoder accepts within the limits, the caller-buffer decoder
accepts. -/
theorem decodeInto_of_decodeFramesWithSpec {op : Operation} {parts : List DecodedFrame}
    (hframe : c.spec.maxFrameBytes ≤ 2 ^ 20)
    (h : decodeFramesWithSpec c.spec frames = .ok (op, parts))
    (hsemantic : op.semantic = .known .data)
    (hlimits : c.WithinLimits frames op payloadDst.bytes.length)
    (hlaid : FramesLaidOut frames payloadDst frameBytes spans) :
    c.decodeInto payloadDst frameBytes spans =
      .ok (⟨op.streamID, UInt32.ofNat op.payload.length⟩,
        op.payload ++ payloadDst.bytes.drop op.payload.length) := by
  obtain ⟨expected, rest, hparses, hset, rfl, -⟩ := decodeFramesWithSpec_eq_ok.mp h
  have hframes (frame : List UInt8) (hmem : frame ∈ frames) :
      frame ≠ [] ∧ frame.length ≤ 2 ^ 20 + 10 := by
    obtain ⟨view, -, hview⟩ := hparses.exists_view hmem
    obtain ⟨hnonempty, hlength, -⟩ := parseFrameView_size hview
    simp only [maxVarintLen64] at hlength
    exact ⟨hnonempty, by omega⟩
  have htotal : frames.flatten.length < 2 ^ 32 := by
    have hbound := flatten_length_le fun frame hmem => (hframes frame hmem).2
    have hcount := hlimits.fragments
    omega
  have hselect : spans.entries.map (spanFrame frameBytes.bytes) = frames := by
    have hspans := map_spanFrame_spansFor [] [] htotal
    simpa [hlaid.joined, hlaid.entries] using hspans
  have hcovered : checkSpans frameBytes.bytes.length 0 spans.entries =
      .ok frameBytes.bytes.length := by
    have hspans := checkSpans_spansFor 0
      (fun frame hmem => (hframes frame hmem).1) (by omega) htotal
    simpa [hlaid.joined, hlaid.entries] using hspans
  have hnonempty : spans.entries ≠ [] := by
    intro hnil
    rw [hnil] at hselect
    rw [← hselect] at hparses
    cases hparses
  have hfit : spans.entries.length ≤ 256 := by
    rw [hlaid.entries, length_spansFor]
    exact hlimits.fragments
  refine decodeInto_eq_ok.mpr ⟨⟨hnonempty, hfit, hlaid.framesApart, hlaid.spansApart,
    hcovered⟩, expected, rest, hselect ▸ hparses, hset, ?_, hlimits.payload, rfl, rfl⟩
  intro view hview
  obtain ⟨frame, hmem, hparse⟩ := hparses.exists_frame hview
  obtain ⟨-, -, body, hbody, hbodyBytes⟩ := parseFrameView_size hparse
  obtain ⟨entry, hentry, rfl⟩ : ∃ entry ∈ (expected :: rest).zipIdx, entry.1 = view := by
    rw [← zipIdx_map_fst 0 (expected :: rest)] at hview
    exact mem_map.mp hview
  have hfragment := hset entry hentry
  have hstream := hfragment.stream
  refine ⟨hfragment.semantic.trans hsemantic, ?_, ?_, ?_⟩
  · rw [hstream]
    exact hlimits.streamLow
  · rw [hstream]
    exact hlimits.streamHigh
  · rw [hbodyBytes]
    exact hlimits.bodies frame hmem body hbody

/-- Whatever frames the caller-buffer decoder accepts, the allocating decoder accepts as a
data operation with the same payload and stream; and whatever data operation the allocating
decoder returns within the limits of the caller-buffer decoder, that one accepts with the same
payload and stream. -/
theorem liveDecoders_agree {program : ProgramV1} {codec : LiveDataCodecV3 source}
    (hcodec : newLiveDataCodecV3 source program = .ok codec) :
    (∀ payloadDst frameBytes spans info dst,
      codec.decodeInto payloadDst frameBytes spans = .ok (info, dst) →
        ∃ op parts,
          decodeLiveFrames program (spans.entries.map (spanFrame frameBytes.bytes)) =
            .ok (op, parts) ∧
          op.semantic = .known .data ∧ op.streamID = info.streamID ∧
          op.payload = dst.take info.payloadBytes.toNat) ∧
    (∀ frames op parts payloadDst frameBytes spans,
      decodeLiveFrames program frames = .ok (op, parts) →
      op.semantic = .known .data →
      codec.WithinLimits frames op payloadDst.bytes.length →
      FramesLaidOut frames payloadDst frameBytes spans →
        codec.decodeInto payloadDst frameBytes spans =
          .ok (⟨op.streamID, UInt32.ofNat op.payload.length⟩,
            op.payload ++ payloadDst.bytes.drop op.payload.length)) := by
  obtain ⟨hspec, hmax, -, -⟩ := newLiveDataCodecV3_eq_ok hcodec
  obtain ⟨data, padding, hlive⟩ := liveSpec_of_program hspec
  have hpayload := hlive.payloadHigh
  constructor
  · intro payloadDst frameBytes spans info dst h
    rw [decodeLiveFrames_eq hspec]
    exact decodeFramesWithSpec_of_decodeInto (by omega) h
  · intro frames op parts payloadDst frameBytes spans h hsemantic hlimits hlaid
    rw [decodeLiveFrames_eq hspec] at h
    exact decodeInto_of_decodeFramesWithSpec hlive.frameHigh h hsemantic hlimits hlaid

/-- The frame of a three-byte payload on stream 300. -/
def sampleFrame : List UInt8 :=
  [0, 68, 2, 0, 0, 0, 1, 0, 2, 1, 1, 2, 172, 2, 0, 0] ++ replicate 51 0 ++ [1, 2, 3]

def sampleCodec : LiveDataCodecV3 zeroSource :=
  let spec := programSpec sampleProgram
    ⟨.known .data, asciiBytes "d", "bidirectional", 1, 1024⟩
    ⟨.known .padding, asciiBytes "p", "bidirectional", 0, 1024⟩
  ⟨spec, 1, 1024, liveChunk spec, newEngine zeroSource spec.padding 0⟩

theorem codecSpecFromLiveProgram_sampleProgram :
    codecSpecFromLiveProgram sampleProgram = .ok sampleCodec.spec := by
  unfold codecSpecFromLiveProgram
  rw [validateV1_sampleProgram]
  rfl

theorem newLiveDataCodecV3_sampleProgram :
    newLiveDataCodecV3 zeroSource sampleProgram = .ok sampleCodec := by
  rw [newLiveDataCodecV3, codecSpecFromLiveProgram_sampleProgram, ok_bind]
  rfl

/-- Both decoders read the sample frame, each by the agreement with the other. -/
theorem liveDecoders_agree_sampleFrame :
    sampleCodec.decodeInto ⟨1000, replicate 5 9⟩ ⟨0, sampleFrame⟩ ⟨2000, [⟨0, 70⟩]⟩ =
        .ok (⟨300, 3⟩, [1, 2, 3, 9, 9]) ∧
      ∃ op parts, decodeLiveFrames sampleProgram [sampleFrame] = .ok (op, parts) ∧
        op.semantic = .known .data ∧ op.streamID = 300 ∧ op.payload = [1, 2, 3] := by
  have hagree := liveDecoders_agree newLiveDataCodecV3_sampleProgram
  have hdecode : decodeLiveFrames sampleProgram [sampleFrame] =
      .ok ({ semantic := .known .data, streamID := 300, payload := [1, 2, 3] },
        [⟨{ semantic := .known .data, streamID := 300, payload := [1, 2, 3] },
          asciiBytes "d", 70, 3, 2, 0, 1⟩]) := by
    decide +kernel
  have hinto := hagree.2 [sampleFrame] _ _ ⟨1000, replicate 5 9⟩ ⟨0, sampleFrame⟩
    ⟨2000, [⟨0, 70⟩]⟩ hdecode rfl ⟨by decide, by decide, by decide, by
      intro frame hframe body hbody
      obtain rfl := mem_singleton.mp hframe
      have hlength : unwrapLengthWithSpec sampleCodec.spec sampleFrame =
          .ok (sampleFrame.drop 2) := by decide +kernel
      obtain ⟨⟩ := hlength.symm.trans hbody
      decide, ⟨by decide, by decide, by decide, by decide⟩⟩
    ⟨rfl, rfl, by decide, by decide⟩
  have hselect : [FrameSpanV3.mk 0 70].map (spanFrame sampleFrame) = [sampleFrame] := by
    decide +kernel
  obtain ⟨op, parts, hlegacy, hsemantic, hstream, hpayload⟩ := hagree.1 _ _ _ _ _ hinto
  exact ⟨hinto, op, parts, hselect ▸ hlegacy, hsemantic, hstream, hpayload⟩

end Kurdistan.Framing
