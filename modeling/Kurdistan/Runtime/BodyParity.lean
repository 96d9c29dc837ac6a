import Kurdistan.Runtime.DuplexSize
import Kurdistan.Runtime.DuplexSpec
import Kurdistan.Framing.LiveEncoder

/-!
# Parity of the two readers of duplex bodies

The third version reads a body by moving its frames to the front of the buffer which
holds it. Both readers are compared through the layout of an operation body: a header
and, behind it, the entries of its frames. The moving loop keeps the form "frames moved
so far, a gap, entries not yet read", in which the gap grows by the four bytes of a length
in every round, so a frame is always read from where it was authenticated.
-/

namespace Kurdistan.Runtime

open Support Security Framing Protocol ProcessDuplexStateV1 List

variable {source : RandSource}

/-! ## Entries -/

/-- The frames an operation body may carry. -/
def ValidFrames (frames : List (List UInt8)) : Prop :=
  ∀ frame ∈ frames, frame ≠ [] ∧ frame.length ≤ Wire.maxPayloadBytes

/-- The spans of the frames whose entries start at `offset`. -/
def entrySpans : ℕ → List (List UInt8) → List FrameSpanV3
  | _, [] => []
  | offset, frame :: frames =>
    ⟨UInt32.ofNat (offset + 4), UInt32.ofNat frame.length⟩ ::
      entrySpans (offset + 4 + frame.length) frames

@[simp] theorem frameEntries_nil : frameEntries [] = [] := rfl

@[simp] theorem frameEntries_cons (frame : List UInt8) (frames : List (List UInt8)) :
    frameEntries (frame :: frames) =
      putUint32 (UInt32.ofNat frame.length) ++ frame ++ frameEntries frames := by
  simp [frameEntries]

theorem frameEntries_append (first rest : List (List UInt8)) :
    frameEntries (first ++ rest) = frameEntries first ++ frameEntries rest := by
  simp [frameEntries]

theorem length_frameEntries (frames : List (List UInt8)) :
    (frameEntries frames).length = 4 * frames.length + frames.flatten.length := by
  induction frames with
  | nil => rfl
  | cons frame frames ih =>
    simp only [frameEntries_cons, length_append, length_putUint32, length_cons, flatten_cons]
    omega

theorem ValidFrames.tail {frame : List UInt8} {frames : List (List UInt8)}
    (h : ValidFrames (frame :: frames)) : ValidFrames frames :=
  fun other hother => h other (mem_cons_of_mem _ hother)

theorem ValidFrames.toNat_length {frame : List UInt8} {frames : List (List UInt8)}
    (h : ValidFrames (frame :: frames)) : (UInt32.ofNat frame.length).toNat = frame.length := by
  have hlength := (h frame mem_cons_self).2
  exact UInt32.toNat_ofNat_of_lt' (by
    simp only [Wire.maxPayloadBytes] at hlength
    simp only [UInt32.size]
    omega)

theorem flatten_lt_of_valid {frames : List (List UInt8)} (hvalid : ValidFrames frames)
    (hhigh : frames.length ≤ 256) : frames.flatten.length < 2 ^ 29 := by
  have hbound := flatten_length_le fun frame hframe => (hvalid frame hframe).2
  simp only [Wire.maxPayloadBytes] at hbound
  omega

theorem readBodyFrames_frameEntries {frames : List (List UInt8)} (h : ValidFrames frames) :
    readBodyFrames frames.length (frameEntries frames) = .ok frames := by
  induction frames with
  | nil => simp [readBodyFrames]
  | cons frame frames ih =>
    have hlength := h.toNat_length
    obtain ⟨hnonempty, hhigh⟩ := h frame mem_cons_self
    rw [length_cons, readBodyFrames, frameEntries_cons, append_assoc, getUint32_putUint32, hlength]
    rw [ensure_of_pos (by simp), ok_bind]
    dsimp only
    rw [ensure_of_pos ⟨by simpa using hnonempty, hhigh, by simp⟩, ok_bind]
    have hrest : (putUint32 (UInt32.ofNat frame.length) ++
        (frame ++ frameEntries frames)).drop (4 + frame.length) = frameEntries frames := by
      rw [← append_assoc]
      exact drop_left' (by simp)
    have hfirst : ((putUint32 (UInt32.ofNat frame.length) ++
        (frame ++ frameEntries frames)).drop 4).take frame.length = frame := by
      exact take_left
    rw [hrest, hfirst, ih h.tail, ok_bind]

/-- The first loop of the third version finds the spans of entries. -/
theorem bodySpansV3_frameEntries (front : List UInt8) {frames : List (List UInt8)}
    (h : ValidFrames frames) :
    bodySpansV3 (front ++ frameEntries frames) frames.length front.length =
      .ok (entrySpans front.length frames, (front ++ frameEntries frames).length) := by
  induction frames generalizing front with
  | nil => simp [bodySpansV3, entrySpans]
  | cons frame frames ih =>
    have hlength := h.toNat_length
    obtain ⟨hnonempty, hhigh⟩ := h frame mem_cons_self
    have hrest := ih (front ++ (putUint32 (UInt32.ofNat frame.length) ++ frame)) h.tail
    have hoffset : (front ++ (putUint32 (UInt32.ofNat frame.length) ++ frame)).length =
        front.length + 4 + frame.length := by
      simp only [length_append, length_putUint32]
      omega
    rw [hoffset, append_assoc, ← frameEntries_cons] at hrest
    have hread : getUint32 ((front ++ frameEntries (frame :: frames)).drop front.length) =
        UInt32.ofNat frame.length := by
      rw [drop_left, frameEntries_cons, append_assoc, getUint32_putUint32]
    rw [length_cons, bodySpansV3, hread, hlength]
    rw [ensure_of_pos (by simp), ok_bind]
    dsimp only
    rw [ensure_of_pos ⟨by simpa using hnonempty, hhigh, by simp; omega⟩, ok_bind, hrest,
      ok_bind, entrySpans]

variable {count : ℕ} {body : List UInt8}

/-- Whatever the first loop accepts up to the end of the body is made of entries. -/
theorem exists_entries_of_bodySpansV3 {offset : ℕ} {spans : List FrameSpanV3}
    (hoffset : offset ≤ body.length) (h : bodySpansV3 body count offset = .ok (spans,
      body.length)) :
    ∃ frames, frames.length = count ∧ ValidFrames frames ∧
      body.drop offset = frameEntries frames := by
  induction count generalizing offset spans with
  | zero =>
    obtain ⟨⟩ := h
    exact ⟨[], rfl, by simp [ValidFrames], by simp⟩
  | succ count ih =>
    simp only [bodySpansV3, bind_ok_iff, ensure_ok_iff, exists_const] at h
    obtain ⟨-, ⟨hzero, hhigh, hfits⟩, ⟨later, stop⟩, hlater, ⟨⟩⟩ := h
    generalize hn : getUint32 (body.drop offset) = n at hlater hzero hhigh hfits
    obtain ⟨frames, hcount, hvalid, hrest⟩ := ih (by omega) hlater
    generalize hframe : (body.drop (offset + 4)).take n.toNat = frame
    have hlength : frame.length = n.toNat := by
      rw [← hframe, length_take, length_drop]
      omega
    refine ⟨frame :: frames, by simp [hcount], ?_, ?_⟩
    · intro other hother
      rcases mem_cons.mp hother with rfl | hother
      · refine ⟨?_, hlength.trans_le hhigh⟩
        rintro rfl
        exact hzero hlength.symm
      · exact hvalid other hother
    · have hword : putUint32 n = (body.drop offset).take 4 := by
        rw [← hn, putUint32_getUint32_take]
        rw [length_drop]
        omega
      rw [frameEntries_cons, hlength, UInt32.ofNat_toNat, hword, ← hframe, ← hrest,
        append_assoc, Nat.add_assoc offset 4, ← drop_drop, ← drop_drop,
        ← drop_drop, take_append_drop, take_append_drop]

theorem entrySpans_append (offset : ℕ) (first rest : List (List UInt8)) :
    entrySpans offset (first ++ rest) =
      entrySpans offset first ++ entrySpans (offset + (frameEntries first).length) rest := by
  induction first generalizing offset with
  | nil => rfl
  | cons frame first ih =>
    have hoffset : offset + 4 + frame.length + (frameEntries first).length =
        offset + (frameEntries (frame :: first)).length := by
      simp only [frameEntries_cons, length_append, length_putUint32]
      omega
    rw [cons_append, entrySpans, ih, hoffset, entrySpans, cons_append]

@[simp] theorem length_entrySpans (offset : ℕ) (frames : List (List UInt8)) :
    (entrySpans offset frames).length = frames.length := by
  induction frames generalizing offset with
  | nil => rfl
  | cons frame frames ih => simp [entrySpans, ih]

/-! ## Moving the frames -/

/-- One round: the frame moves down to the frames in front of it, the gap grows by the
length of the entry, and what lies behind the entry stays where it is. -/
theorem compactFrameV3_entry (done gap word frame rest : List UInt8) (span : FrameSpanV3)
    (hword : word.length = 4) (hoffset : span.offset.toNat = done.length + gap.length + 4)
    (hlength : span.length.toNat = frame.length) :
    compactFrameV3 (done ++ gap ++ (word ++ frame) ++ rest) done.length span =
      done ++ frame ++ (gap ++ word ++ frame).drop frame.length ++ rest := by
  have hread : spanFrame (done ++ gap ++ (word ++ frame) ++ rest) span = frame := by
    have hfront : span.offset.toNat = (done ++ gap ++ word).length := by
      simp only [length_append, hword, hoffset]
    rw [spanFrame, hfront, hlength,
      show done ++ gap ++ (word ++ frame) ++ rest = done ++ gap ++ word ++ (frame ++ rest) by
        simp only [append_assoc],
      drop_left]
    exact take_left
  have hlong : frame.length ≤ (gap ++ word ++ frame).length := by
    simp only [length_append]
    omega
  rw [compactFrameV3, hread,
    show done ++ gap ++ (word ++ frame) ++ rest = done ++ ((gap ++ word ++ frame) ++ rest) by
      simp only [append_assoc],
    splice_append, drop_append_of_le_length hlong]
  simp only [append_assoc]

/-- The whole loop, in front of bytes it has not read yet. -/
theorem compactFramesV3_entries (done gap rest : List UInt8) {frames : List (List UInt8)}
    (hvalid : ValidFrames frames)
    (hsize : done.length + gap.length + (frameEntries frames).length < 2 ^ 32) :
    ∃ wider : List UInt8, wider.length = gap.length + 4 * frames.length ∧
      compactFramesV3 (done ++ gap ++ frameEntries frames ++ rest) done.length
          (entrySpans (done.length + gap.length) frames) =
        ⟨done ++ frames.flatten ++ wider ++ rest, spansFor done.length frames,
          done.length + frames.flatten.length⟩ := by
  induction frames generalizing done gap with
  | nil => exact ⟨gap, by simp, by simp [compactFramesV3, entrySpans, spansFor]⟩
  | cons frame frames ih =>
    have hlength := hvalid.toNat_length
    generalize hword : putUint32 (UInt32.ofNat frame.length) = word
    have hfour : word.length = 4 := hword ▸ length_putUint32 _
    simp only [frameEntries_cons, length_append, hword] at hsize
    have hoffset : (UInt32.ofNat (done.length + gap.length + 4)).toNat =
        done.length + gap.length + 4 :=
      UInt32.toNat_ofNat_of_lt' (show _ < 2 ^ 32 by omega)
    generalize hnext : (gap ++ word ++ frame).drop frame.length = next
    have hnextLength : next.length = gap.length + 4 := by
      rw [← hnext, length_drop]
      simp only [length_append]
      omega
    obtain ⟨wider, hwider, hrest⟩ := ih (done ++ frame) next hvalid.tail (by
      simp only [length_append]
      omega)
    refine ⟨wider, by simp only [length_cons]; omega, ?_⟩
    have hround := compactFrameV3_entry done gap word frame (frameEntries frames ++ rest)
      ⟨UInt32.ofNat (done.length + gap.length + 4), UInt32.ofNat frame.length⟩ hfour hoffset hlength
    rw [hnext] at hround
    have hstart : (done ++ frame).length + next.length =
        done.length + gap.length + 4 + frame.length := by
      simp only [length_append]
      omega
    rw [hstart, length_append, append_assoc _ (frameEntries frames)] at hrest
    rw [frameEntries_cons, hword, entrySpans, compactFramesV3,
      append_assoc (done ++ gap), append_assoc (word ++ frame),
      ← append_assoc (done ++ gap), hround, hlength, hrest, spansFor,
      flatten_cons, length_append, Nat.add_assoc]
    simp only [append_assoc]

/-- The frame at `span` is read after the frames in front of it were moved: it still lies
behind everything written, and it and the bytes behind it are those of the body. -/
structure ReadsUnmoved (body : List UInt8) (moved : CompactedV3) (span : FrameSpanV3) : Prop where
  behind : moved.pos < span.offset.toNat
  length : moved.body.length = body.length
  unread : moved.body.drop span.offset.toNat = body.drop span.offset.toNat

/-- No round of the moving loop writes to bytes which were not read yet. -/
theorem readsUnmoved_of_bodySpansV3 {spans first later : List FrameSpanV3}
    {span : FrameSpanV3} (hheader : 16 ≤ body.length) (hhigh : count ≤ 256)
    (h : bodySpansV3 body count 16 = .ok (spans, body.length))
    (hsplit : spans = first ++ span :: later) :
    ReadsUnmoved body (compactFramesV3 body 0 first) span := by
  obtain ⟨frames, hcount, hvalid, hentries⟩ := exists_entries_of_bodySpansV3 hheader h
  have hfront := length_take_of_le hheader
  have hbody : body.take 16 ++ frameEntries frames = body := by
    rw [← hentries, take_append_drop]
  have hsmall : body.length < 2 ^ 32 := by
    have hflatten := flatten_lt_of_valid hvalid (hcount.trans_le hhigh)
    rw [← hbody, length_append, hfront, length_frameEntries]
    omega
  have hspans := bodySpansV3_frameEntries (body.take 16) hvalid
  rw [hfront, hbody, hcount, h] at hspans
  obtain ⟨⟩ := hspans
  -- The frames split where the spans split.
  have hlength : first.length < frames.length := by
    rw [← length_entrySpans 16, hsplit]
    simp
  obtain ⟨moved, frame, rest, rfl, hmoved⟩ :
      ∃ moved frame rest, frames = moved ++ frame :: rest ∧ moved.length = first.length :=
    ⟨frames.take first.length, frames[first.length], frames.drop (first.length + 1), by
      rw [← drop_eq_getElem_cons hlength, take_append_drop], by
      rw [length_take]
      omega⟩
  rw [entrySpans_append, entrySpans] at hsplit
  obtain ⟨rfl, htail⟩ := append_inj hsplit (by rw [length_entrySpans, hmoved])
  obtain ⟨rfl, -⟩ := cons.inj htail
  rw [frameEntries_append] at hbody
  have hsize := congrArg length hbody
  simp only [length_append, frameEntries_cons, length_putUint32] at hsize
  have hoffset : (UInt32.ofNat (16 + (frameEntries moved).length + 4)).toNat =
      16 + (frameEntries moved).length + 4 :=
    UInt32.toNat_ofNat_of_lt' (show _ < 2 ^ 32 by omega)
  obtain ⟨wider, hwider, hcompact⟩ := compactFramesV3_entries [] (body.take 16)
    (frameEntries (frame :: rest)) (fun other hother => hvalid other (mem_append_left _ hother)) (by
      simp only [length_nil]
      omega)
  rw [hfront, nil_append, append_assoc, hbody] at hcompact
  simp only [length_nil, nil_append] at hcompact
  have hentry := length_frameEntries moved
  have hwritten : (body.take 16 ++ frameEntries moved).length =
      (moved.flatten ++ wider).length := by
    simp only [length_append]
    omega
  rw [hcompact]
  refine ⟨by simp only; omega, ?_, ?_⟩
  · rw [length_append, ← hwritten, ← length_append, append_assoc, hbody]
  · have hstart : (body.take 16 ++ frameEntries moved).length =
        16 + (frameEntries moved).length := by
      rw [length_append, hfront]
    have hleft : (moved.flatten ++ wider ++ frameEntries (frame :: rest)).drop
        (16 + (frameEntries moved).length) = frameEntries (frame :: rest) :=
      drop_left' (hwritten.symm.trans hstart)
    have hright : body.drop (16 + (frameEntries moved).length) = frameEntries (frame :: rest) := by
      conv_lhs => rw [← hbody, ← append_assoc, drop_left' hstart]
    have hsame := congrArg (drop 4) (hleft.trans hright.symm)
    simp only [hoffset]
    simpa only [drop_drop] using hsame

/-! ## Operation bodies -/

/-- The body of an operation with these frames. -/
structure OperationBody (body : List UInt8) (frames : List (List UInt8)) : Prop where
  header : 16 ≤ body.length ∧ body.take 8 = duplexMagicV1 ∧ body.getD 9 0 = 0 ∧
    (getUint32 (body.drop 12)).toNat + 16 = body.length
  kind : body.getD 8 0 = duplexKindOperationV1
  count : (getUint16 (body.drop 10)).toNat = frames.length
  low : 1 ≤ frames.length
  high : frames.length ≤ 256
  valid : ValidFrames frames
  entries : body.drop 16 = frameEntries frames

namespace OperationBody

variable {body : List UInt8} {frames : List (List UInt8)} (h : OperationBody body frames)

include h

theorem length_body : body.length = 16 + (frameEntries frames).length := by
  have hlow := h.header.1
  rw [← h.entries, length_drop]
  omega

theorem flatten_lt : frames.flatten.length < 2 ^ 29 :=
  flatten_lt_of_valid h.valid h.high

theorem decodeDuplexBodyV1_eq :
    decodeDuplexBodyV1 body = .ok ⟨duplexKindOperationV1, 0, frames⟩ := by
  obtain ⟨hlow, hmagic, hzero, hlength⟩ := h.header
  have hcount := h.low
  have hhigh := h.high
  rw [decodeDuplexBodyV1, ensure_of_pos ⟨hlow, hmagic, hzero⟩, ok_bind]
  simp only [h.kind, h.count]
  rw [ensure_of_pos (by rw [duplexBodyHeaderV1]; omega), ok_bind,
    if_neg (by simp), ensure_of_pos ⟨by omega, hhigh⟩, ok_bind, duplexBodyHeaderV1,
    h.entries, readBodyFrames_frameEntries h.valid, ok_bind]

theorem bodySpansV3_eq :
    bodySpansV3 body frames.length 16 = .ok (entrySpans 16 frames, body.length) := by
  have hfront := length_take_of_le h.header.1
  have hspans := bodySpansV3_frameEntries (body.take 16) h.valid
  rwa [hfront, ← h.entries, take_append_drop] at hspans

/-- The loops of the third version leave the frames one behind the other. -/
theorem compactFramesV3_eq :
    ∃ wider, compactFramesV3 body 0 (entrySpans 16 frames) =
      ⟨frames.flatten ++ wider, spansFor 0 frames, frames.flatten.length⟩ := by
  have hfront := length_take_of_le h.header.1
  have hsize := h.flatten_lt
  have hhigh := h.high
  obtain ⟨wider, -, hmoved⟩ := compactFramesV3_entries [] (body.take 16) [] h.valid (by
    rw [hfront, length_frameEntries]
    simp only [length_nil]
    omega)
  rw [hfront, ← h.entries] at hmoved
  exact ⟨wider, by simpa using hmoved⟩

end OperationBody

variable {codec : LiveDataCodecV3 source} {w : ReceiveBuffersV3} {frameType : UInt8}
  {streamID : UInt32} {op : Operation}

/-- The third version reads an operation exactly from the bodies of data operations
whose frames the codec decodes from the front of the buffer. -/
theorem readDuplexBodyV3_eq_operation :
    readDuplexBodyV3 codec w frameType streamID body = .ok (.operation op) ↔
      frameType = Wire.typeReliableData ∧ streamID ≠ 65535 ∧
      ∃ frames info payload, OperationBody body frames ∧
        codec.decodeInto w.rxPayload ⟨w.rxBody.address, frames.flatten⟩
          ⟨w.rxSpans.address, spansFor 0 frames⟩ = .ok (info, payload) ∧
        info.streamID = streamID ∧
        op = { semantic := .known .data, streamID := info.streamID,
               payload := payload.take info.payloadBytes.toNat } := by
  constructor
  · intro h
    obtain ⟨hheader, h⟩ := check_ok_iff.mp h
    have hheader := ensure_eq_ok.mp hheader
    dsimp only at h
    split_ifs at h with hkind hkeepalive hclose
    · simp [check_ok_iff] at h
    · simp [check_ok_iff] at h
    · simp [check_ok_iff] at h
    simp only [bind_ok_iff, ensure_ok_iff, exists_const] at h
    obtain ⟨⟨htype, hstream, hlow, hhigh⟩, ⟨spans, stop⟩, hspans, rfl, h⟩ := h
    obtain ⟨frames, hcount, hvalid, hentries⟩ := exists_entries_of_bodySpansV3 hheader.1 hspans
    have hbody : OperationBody body frames :=
      ⟨hheader, not_not.mp hkind, hcount.symm, by omega, by omega, hvalid, hentries⟩
    obtain ⟨wider, hmoved⟩ := hbody.compactFramesV3_eq
    rw [← hcount, hbody.bodySpansV3_eq] at hspans
    obtain ⟨⟩ := hspans
    simp only [hmoved, take_left] at h
    split at h
    · cases h
    · rename_i info payload hdecode
      obtain ⟨hinfo, h⟩ := check_ok_iff.mp h
      cases h
      exact ⟨htype, hstream, frames, info, payload, hbody, hdecode, ensure_eq_ok.mp hinfo, rfl⟩
  · rintro ⟨htype, hstream, frames, info, payload, hbody, hdecode, hinfo, rfl⟩
    obtain ⟨wider, hmoved⟩ := hbody.compactFramesV3_eq
    rw [readDuplexBodyV3, ensure_of_pos hbody.header, ok_bind]
    simp only [hbody.kind, hbody.count]
    rw [if_neg (by simp), ensure_of_pos ⟨htype, hstream, hbody.low, hbody.high⟩, ok_bind,
      hbody.bodySpansV3_eq, ok_bind, ensure_of_pos rfl, ok_bind]
    simp only [hmoved, take_left, hdecode]
    rw [ensure_of_pos hinfo, ok_bind]

/-! ## What the third version accepts, the first accepts -/

/-- The same message up to the metadata of an operation, which the third version does
not hand out. -/
inductive SameMessage : DuplexMessage → DuplexMessage → Prop
  | keepalive : SameMessage .keepalive .keepalive
  | close : SameMessage .close .close
  | operation {left right : Operation} (semantic : left.semantic = right.semantic)
      (stream : left.streamID = right.streamID) (payload : left.payload = right.payload) :
      SameMessage (.operation left) (.operation right)

variable {program : ProgramV1}

theorem readDuplexBodyV1_eq_operation {frames : List (List UInt8)}
    {parts : List DecodedFrame} (hbody : OperationBody body frames)
    (hdecode : decodeLiveFrames program frames = .ok (op, parts)) (hstream : op.streamID = streamID)
    (hlow : 2 ≤ streamID.toNat) (hhigh : streamID.toNat ≤ 65534) :
    readDuplexBodyV1 program Wire.typeReliableData streamID body = .ok (.operation op) := by
  have hcontrol : processControlSlotV1.toUInt32.toNat = 65535 := by decide
  have hne : streamID ≠ processControlSlotV1.toUInt32 := by
    rintro rfl
    omega
  have hzero : op.streamID ≠ 0 := by
    rw [hstream]
    rintro rfl
    exact absurd hlow (by decide)
  have hlt : op.streamID < processControlSlotV1.toUInt32 := by
    rw [hstream, UInt32.lt_iff_toNat_lt]
    omega
  rw [readDuplexBodyV1, hbody.decodeDuplexBodyV1_eq, ok_bind]
  dsimp only
  rw [if_neg (by decide), if_neg (by decide), ensure_of_pos ⟨rfl, hne, rfl⟩, ok_bind, hdecode]
  dsimp only
  rw [ensure_of_pos ⟨hstream, hzero, hlt⟩, ok_bind]

/-- The first version reads an operation which the third version reads. -/
theorem readDuplexBodyV1_of_operation (hcodec : newLiveDataCodecV3 source program = .ok codec)
    (h : readDuplexBodyV3 codec w frameType streamID body = .ok (.operation op)) :
    ∃ other, readDuplexBodyV1 program frameType streamID body = .ok (.operation other) ∧
      op.semantic = other.semantic ∧ op.streamID = other.streamID ∧
      op.payload = other.payload := by
  obtain ⟨rfl, -, frames, info, payload, hbody, hdecode, hinfo, rfl⟩ :=
    readDuplexBodyV3_eq_operation.mp h
  obtain ⟨other, parts, hother, hsemantic, hstream, hpayload⟩ :=
    (liveDecoders_agree hcodec).1 _ _ _ _ _ hdecode
  obtain ⟨hlow, hhigh, -⟩ := decodeInto_limits hdecode
  have hflatten := hbody.flatten_lt
  have hselect := @map_spanFrame_spansFor frames [] [] (by
    simp only [nil_append]
    omega)
  simp only [length_nil, nil_append, append_nil] at hselect
  rw [hselect] at hother
  rw [hinfo] at hlow hhigh hstream
  exact ⟨other, readDuplexBodyV1_eq_operation hbody hother hstream hlow hhigh,
    hsemantic.symm, hinfo.trans hstream.symm, hpayload.symm⟩

variable {message : DuplexMessage}

/-- A body of the operation kind is read as an operation or not at all. -/
theorem exists_operation_of_kind
    (h : readDuplexBodyV3 codec w frameType streamID body = .ok message)
    (hkind : body.getD 8 0 = duplexKindOperationV1) : ∃ op, message = .operation op := by
  obtain ⟨-, h⟩ := check_ok_iff.mp h
  rw [if_neg (not_not.mpr hkind)] at h
  simp only [bind_ok_iff] at h
  obtain ⟨_, -, spans, -, _, -, h⟩ := h
  split at h
  · cases h
  · obtain ⟨-, h⟩ := check_ok_iff.mp h
    exact ⟨_, (Except.ok.inj h).symm⟩

theorem readDuplexBodyV1_of_control
    (h : readDuplexBodyV3 codec w frameType streamID body = .ok message)
    (hkind : body.getD 8 0 ≠ duplexKindOperationV1) :
    readDuplexBodyV1 program frameType streamID body = .ok message ∧
      (message = .keepalive ∨ message = .close) := by
  obtain ⟨hheader, h⟩ := check_ok_iff.mp h
  obtain ⟨hlow, hmagic, hzero, hlength⟩ := ensure_eq_ok.mp hheader
  rw [if_pos hkind] at h
  obtain ⟨hshort, h⟩ := check_ok_iff.mp h
  have hshort := ensure_eq_ok.mp hshort
  have hempty : (getUint32 (body.drop 12)).toNat = 0 := by omega
  have hdecode (hcontrol : body.getD 8 0 = duplexKindKeepaliveV1 ∨
      body.getD 8 0 = duplexKindCloseV1) :
      decodeDuplexBodyV1 body = .ok ⟨body.getD 8 0, getUint16 (body.drop 10), []⟩ := by
    rw [decodeDuplexBodyV1, ensure_of_pos ⟨hlow, hmagic, hzero⟩, ok_bind]
    dsimp only
    rw [ensure_of_pos (by rw [duplexBodyHeaderV1]; omega), ok_bind, if_pos hkind,
      ensure_of_pos ⟨hempty, hcontrol⟩, ok_bind]
  split_ifs at h with hkeepalive hclose
  · obtain ⟨houter, h⟩ := check_ok_iff.mp h
    cases h
    refine ⟨?_, Or.inl rfl⟩
    rw [readDuplexBodyV1, hdecode (Or.inl hkeepalive), ok_bind, if_pos hkeepalive]
    exact check_ok_iff.mpr ⟨houter, rfl⟩
  · obtain ⟨houter, h⟩ := check_ok_iff.mp h
    cases h
    refine ⟨?_, Or.inr rfl⟩
    rw [readDuplexBodyV1, hdecode (Or.inr hclose), ok_bind, if_neg hkeepalive, if_pos hclose]
    exact check_ok_iff.mpr ⟨houter, rfl⟩

theorem readDuplexBodyV1_of_readDuplexBodyV3
    (hcodec : newLiveDataCodecV3 source program = .ok codec)
    (h : readDuplexBodyV3 codec w frameType streamID body = .ok message) :
    ∃ other, readDuplexBodyV1 program frameType streamID body = .ok other ∧
      SameMessage message other := by
  by_cases hkind : body.getD 8 0 = duplexKindOperationV1
  · obtain ⟨op, rfl⟩ := exists_operation_of_kind h hkind
    obtain ⟨other, hother, hsemantic, hstream, hpayload⟩ := readDuplexBodyV1_of_operation hcodec h
    exact ⟨_, hother, .operation hsemantic hstream hpayload⟩
  · have hcontrol := @readDuplexBodyV1_of_control _ _ codec w _ _ program _ h hkind
    obtain ⟨hother, rfl | rfl⟩ := hcontrol
    · exact ⟨_, hother, .keepalive⟩
    · exact ⟨_, hother, .close⟩

/-! ## Sealed bodies -/

/-- The body which `sealPacketDataV3` seals for a payload. -/
def DuplexWorkspaceV3.PacketBody (w : DuplexWorkspaceV3 source) (payload : Slice)
    (stream : UInt32) (seed : Int64) (kind : ProcessDuplexStateV1.PacketPumpKindV1)
    (body : List UInt8) : Prop :=
  2 ≤ stream.toNat ∧ stream.toNat ≤ 65534 ∧
  payload.bytes.length ≤ w.maxPayloadBytes ∧ ∃ done count,
    encodePacket w.framing kind w.txFrames w.padding payload stream seed
      w.txSpans = .ok (done, count) ∧
    16 + 4 * count + done.pos ≤ w.txBody.bytes.length ∧
    body = packetBodyV3 done count

variable {seed : Int64} {kind : ProcessDuplexStateV1.PacketPumpKindV1}
  {payload : Slice} {stream : UInt32}

/-- A record returned by `sealPacketDataV3` encrypts such a body. -/
theorem exists_packetBody_of_record {aead : AEAD} {s : ProcessDuplexStateV1 source}
    {w : DuplexWorkspaceV3 source} (hw : s.bounded = some w) {encoded : List UInt8}
    (h : (s.sealPacketDataV3 aead payload stream seed kind).2 = .record encoded) :
    ∃ body, w.PacketBody payload stream seed kind body ∧
      ProcessDuplexStateV1.SealLogged aead s body
        (s.sealPacketDataV3 aead payload stream seed kind).1.log := by
  simp only [sealPacketDataV3, hw] at h ⊢
  have hfail (t : ProcessDuplexStateV1 source) (err : RuntimeError) :
      (t.failLockedV1 err).2 ≠ .record encoded := by
    simp only [failLockedV1]
    split_ifs <;> simp
  split_ifs at h ⊢ with hguard hpayload hlimit
  · exact absurd h (hfail s _)
  · exact absurd h (hfail s _)
  simp only [Bool.or_eq_true, decide_eq_true_eq, not_or, not_lt] at hguard hpayload
  split at h
  · cases h
  rename_i done count hencode
  split_ifs at h ⊢ with hroom
  · exact absurd h (hfail s _)
  refine ⟨_, ⟨hguard.1.2, hguard.2, hpayload.2, done, count, hencode, not_lt.mp hroom, rfl⟩, ?_⟩
  have hout := sealBodyLockedV1_outcome aead s Wire.typeReliableData
    stream stream.toUInt16 (packetBodyV3 done count)
  simp only [sealOrFail] at h ⊢
  generalize s.sealBodyLockedV1 aead Wire.typeReliableData stream stream.toUInt16
    (packetBodyV3 done count) = result at hout h ⊢
  cases hout with
  | failed nonces log err herr hlog => exact absurd h (hfail _ _)
  | sealed nonces log encoded hroom hlog => exact hlog

theorem duplexHeader_fields (kind : UInt8) (value : UInt16) (length : ℕ) (rest : List UInt8) :
    (duplexHeader kind value length ++ rest).getD 8 0 = kind ∧
      (duplexHeader kind value length ++ rest).getD 9 0 = 0 ∧
      getUint16 ((duplexHeader kind value length ++ rest).drop 10) = value ∧
      getUint32 ((duplexHeader kind value length ++ rest).drop 12) = UInt32.ofNat length ∧
      (duplexHeader kind value length ++ rest).drop 16 = rest ∧
      (duplexHeader kind value length ++ rest).length = 16 + rest.length := by
  have hmagic : duplexMagicV1.length = 8 := rfl
  refine ⟨by simp [duplexHeader, duplexMagicV1], by simp [duplexHeader, duplexMagicV1],
    ?_, ?_, ?_, by simp [duplexHeader]; omega⟩
  · rw [duplexHeader, append_assoc, append_assoc,
      drop_left' (by simp [hmagic]), getUint16_putUint16]
  · rw [duplexHeader, append_assoc, drop_left' (by simp [hmagic]), getUint32_putUint32]
  · exact drop_left' (by simp [duplexHeader, hmagic])

theorem map_length_spansFor (position : ℕ) (frames : List (List UInt8)) :
    (spansFor position frames).map FrameSpanV3.length =
      frames.map fun frame => UInt32.ofNat frame.length := by
  induction frames generalizing position with
  | nil => rfl
  | cons frame frames ih => simp [spansFor, ih]

/-- Copying the frames out of the buffer of the encoder gives their entries. -/
theorem flatMap_spansFor (tail : List UInt8) {frames : List (List UInt8)}
    (h : frames.flatten.length < 2 ^ 32) :
    (spansFor 0 frames).flatMap (fun span =>
        putUint32 span.length ++ spanFrame (frames.flatten ++ tail) span) =
      frameEntries frames := by
  have hselect : (spansFor 0 frames).map (spanFrame (frames.flatten ++ tail)) = frames := by
    simpa using map_spanFrame_spansFor [] tail (by simpa using h)
  have hlength : ∀ span ∈ spansFor 0 frames,
      span.length = UInt32.ofNat (spanFrame (frames.flatten ++ tail) span).length := by
    rw [← map_inj_left, map_length_spansFor]
    conv_lhs => rw [← hselect, map_map]
    rfl
  calc
    (spansFor 0 frames).flatMap (fun span =>
        putUint32 span.length ++ spanFrame (frames.flatten ++ tail) span) =
        (spansFor 0 frames).flatMap (fun span =>
          putUint32 (UInt32.ofNat (spanFrame (frames.flatten ++ tail) span).length) ++
            spanFrame (frames.flatten ++ tail) span) :=
      flatMap_congr fun span hspan => by rw [← hlength span hspan]
    _ = frameEntries ((spansFor 0 frames).map (spanFrame (frames.flatten ++ tail))) := by
      rw [frameEntries, flatMap_map]
    _ = frameEntries frames := by rw [hselect]

/-- The body of encoded frames is an operation body, if it is as short as a wire
record. -/
theorem operationBody_packetBodyV3 {c : LiveDataCodecV3 source} {data padding : CodecMessage}
    {sequence : UInt64} {payload : List UInt8} {done : EncodeStateV3 source} {stream : List UInt8}
    {pads : List (List UInt8)} {b : LiveDataBoundsV3} (hcodec : LiveCodec c data padding)
    (hb : c.BoundsFor payload.length b)
    (h : c.Encodes data (liveOperation streamID sequence payload) seed done count stream pads)
    (hshort : 16 + 4 * count + done.pos ≤ Wire.maxPayloadBytes) :
    OperationBody (packetBodyV3 done count)
      (c.spec.framesOf data stream (liveOperation streamID sequence payload) pads) := by
  have hcount := Encodes.length_frames h
  obtain ⟨-, hspans⟩ := Encodes.layout h
  obtain ⟨parts, hdecode⟩ := Encodes.decodes hcodec hb h
  obtain ⟨tail, spans, hwritten⟩ := h.written
  have hfragments := hb.fragments
  have hframeCount := h.frameCount
  simp only [liveOperation] at hframeCount
  generalize c.spec.framesOf data stream (liveOperation streamID sequence payload) pads =
    frames at *
  obtain ⟨expected, rest, hparses, -⟩ := decodeFramesWithSpec_eq_ok.mp hdecode
  have hpos := hwritten.pos
  simp only [Wire.maxPayloadBytes] at hshort
  have hentries : (done.spans.take count).flatMap (fun span =>
      putUint32 span.length ++ spanFrame done.frames span) = frameEntries frames := by
    rw [hspans, hwritten.buffer]
    exact flatMap_spansFor tail (by omega)
  have hlength : (frameEntries frames).length = 4 * count + done.pos := by
    rw [length_frameEntries, hcount, hpos]
  have hvalid : ValidFrames frames := by
    intro frame hframe
    obtain ⟨view, -, hview⟩ := hparses.exists_view hframe
    have hpart : frame.length ≤ frames.flatten.length := (sublist_flatten_of_mem hframe).length_le
    simp only [Wire.maxPayloadBytes]
    exact ⟨(parseFrameView_size hview).1, by omega⟩
  obtain ⟨hkind, hzero, hvalue, hword, hdrop, hbody⟩ := duplexHeader_fields
    duplexKindOperationV1 (UInt16.ofNat count) (4 * count + done.pos) (frameEntries frames)
  rw [packetBodyV3, hentries]
  refine ⟨⟨by omega, take_duplexHeader _ _ _ _, hzero, ?_⟩, hkind, ?_, ?_, by omega, hvalid, hdrop⟩
  · rw [hword, hbody, hlength, UInt32.toNat_ofNat_of_lt' (show _ < 2 ^ 32 by omega)]
    omega
  · rw [hvalue, hcount, UInt16.toNat_ofNat_of_lt' (show _ < 2 ^ 16 by omega)]
  · have hviews := hparses.length_eq
    simp only [length_cons] at hviews
    omega

/-- What a sealed body holds: the frames of a data operation with the payload, which
decode in every destination with room for it. -/
theorem DuplexWorkspaceV3.PacketBody.frames {w : DuplexWorkspaceV3 source}
    {program : ProgramV1} {n : DuplexSizingV3} (hbuilt : w.BuiltFor program n) {seed : Int64}
    {kind : ProcessDuplexStateV1.PacketPumpKindV1}
    (h : w.PacketBody payload stream seed kind body) :
    ∃ frames sequence parts, OperationBody body frames ∧
      decodeLiveFrames program frames =
        .ok (liveOperation stream sequence payload.bytes, parts) ∧
      ∀ (payloadDst frameBytes : Slice) (spans : SpanSlice),
        FramesLaidOut frames payloadDst frameBytes spans →
        payload.bytes.length ≤ payloadDst.bytes.length →
        w.framing.decodeInto payloadDst frameBytes spans =
          .ok (⟨stream, UInt32.ofNat payload.bytes.length⟩,
            payload.bytes ++ payloadDst.bytes.drop payload.bytes.length) := by
  obtain ⟨hlow, hhigh, -, done, count, hencode, hroom, rfl⟩ := h
  obtain ⟨sequence, hencode⟩ : ∃ sequence, w.framing.encodeDataInto w.txFrames w.padding
      payload stream seed (some w.txSpans) sequence = .ok (done, count) := by
    cases kind with
    | mixed => exact ⟨_, hencode⟩
    | raw => exact ⟨_, hencode⟩
  obtain ⟨data, padding, hlive⟩ := liveCodec_of_program hbuilt.framing
  obtain ⟨hspec, -⟩ := newLiveDataCodecV3_eq_ok hbuilt.framing
  obtain ⟨streamBytes, pads, b, hbounds, hencodes⟩ := encodes_of_encodeDataInto hlive hencode
  have hb := bounds_spec hlive.chunk hbounds
  obtain ⟨parts, hdecode⟩ := Encodes.decodes hlive hb hencodes
  have hcap := hbuilt.txBody_le
  refine ⟨_, sequence, parts, operationBody_packetBodyV3 hlive hb hencodes (by omega),
    by rw [decodeLiveFrames_eq hspec]; exact hdecode, ?_⟩
  intro payloadDst frameBytes spans hlaid hfits
  obtain ⟨hbytes, hspans⟩ := Encodes.layout hencodes
  exact Encodes.decodesTo hlive hb hlow hhigh hencodes payloadDst frameBytes spans
    (hlaid.joined.trans hbytes.symm) (hlaid.entries.trans hspans.symm) hfits
    hlaid.framesApart hlaid.spansApart

/-- The third version reads a sealed body exactly if it has room for the payload. -/
theorem readDuplexBodyV3_packetBody {w peer : DuplexWorkspaceV3 source} {n m : DuplexSizingV3}
    (hbuilt : w.BuiltFor program n) (hpeer : peer.BuiltFor program m)
    (h : w.PacketBody payload stream seed kind body)
    (hfits : body.length ≤ peer.rxBody.bytes.length) :
    readDuplexBodyV3 peer.framing peer.toReceiveBuffersV3 Wire.typeReliableData stream body =
        .ok (.operation { semantic := .known .data, streamID := stream,
                          payload := payload.bytes }) ↔
      payload.bytes.length ≤ peer.maxPayloadBytes := by
  obtain ⟨frames, sequence, parts, hbody, hdecode, hroom⟩ := h.frames hbuilt
  have hcodec : peer.framing = w.framing := Except.ok.inj (hpeer.framing.symm.trans hbuilt.framing)
  have hlength := hbody.length_body
  have hentries := length_frameEntries frames
  have hcount := hbody.high
  obtain ⟨hlow, hhigh, -⟩ := h
  constructor
  · intro hread
    obtain ⟨-, -, _, info, dst, -, hinto, -, heq⟩ := readDuplexBodyV3_eq_operation.mp hread
    obtain ⟨-, -, hdst⟩ := decodeInto_limits hinto
    have hpayload : payload.bytes = dst.take info.payloadBytes.toNat :=
      congrArg Operation.payload heq
    rw [hpayload, ← peer.payloadRoom, ← hdst]
    exact length_take_le' _ _
  · intro hle
    have hsmall : payload.bytes.length < 2 ^ 32 := by
      obtain ⟨size, -, hsized⟩ := hpeer.sized
      have hword := size.bounds.maxPayloadBytes.toNat_lt
      rw [hsized.maxPayloadBytes] at hle
      omega
    rw [← peer.payloadRoom] at hle
    have hinto := hroom peer.rxPayload ⟨peer.rxBody.address, frames.flatten⟩
      ⟨peer.rxSpans.address, spansFor 0 frames⟩
      ⟨rfl, rfl, peer.bodyApart frames.flatten.length (by omega), by
        rw [length_spansFor]
        exact peer.spansApart _ hcount⟩ hle
    rw [hcodec]
    refine readDuplexBodyV3_eq_operation.mpr ⟨rfl, ?_, frames, _, _, hbody, hinto, rfl, ?_⟩
    · rintro rfl
      exact absurd hhigh (by decide)
    · rw [UInt32.toNat_ofNat_of_lt' hsmall, take_left]

/-- Let two workspaces be built for one program. What the third version reads from a body,
the first version reads with the same payload and stream. A body sealed by `sealPacketDataV3`
is read by the first version with the sealed payload, and by the third version of the peer which
authenticated it exactly if the peer has room for the payload, as it has if it is not smaller
than the sender. While frames are moved to the front, no byte is overwritten which is still to
be read. -/
theorem duplex_body_parity (aead : AEAD) {program : ProgramV1} {n m : DuplexSizingV3}
    {sender : ProcessDuplexStateV1 source} {w peer : DuplexWorkspaceV3 source}
    (hw : sender.bounded = some w) (hbuilt : w.BuiltFor program n)
    (hpeer : peer.BuiltFor program m) :
    (∀ frameType streamID body message,
      readDuplexBodyV3 peer.framing peer.toReceiveBuffersV3 frameType streamID body =
          .ok message →
        ∃ other, readDuplexBodyV1 program frameType streamID body = .ok other ∧
          SameMessage message other) ∧
    (∀ payload stream seed kind encoded,
      (sender.sealPacketDataV3 aead payload stream seed kind).2 = .record encoded →
        ∃ body,
          ProcessDuplexStateV1.SealLogged aead sender body
            (sender.sealPacketDataV3 aead payload stream seed kind).1.log ∧
          (∃ op, readDuplexBodyV1 program Wire.typeReliableData stream body =
              .ok (.operation op) ∧ op.payload = payload.bytes ∧ op.streamID = stream) ∧
          payload.bytes.length ≤ w.maxPayloadBytes ∧
          (body.length ≤ peer.rxBody.bytes.length →
            (readDuplexBodyV3 peer.framing peer.toReceiveBuffersV3 Wire.typeReliableData
                stream body =
              .ok (.operation { semantic := .known .data, streamID := stream,
                                payload := payload.bytes }) ↔
              payload.bytes.length ≤ peer.maxPayloadBytes))) ∧
    ∀ body count spans first span later, 16 ≤ body.length → count ≤ 256 →
      bodySpansV3 body count 16 = .ok (spans, body.length) →
      spans = first ++ span :: later → ReadsUnmoved body (compactFramesV3 body 0 first) span := by
  refine ⟨fun _ _ _ _ h => readDuplexBodyV1_of_readDuplexBodyV3 hpeer.framing h, ?_,
    fun _ _ _ _ _ _ hheader hhigh h hsplit =>
      readsUnmoved_of_bodySpansV3 hheader hhigh h hsplit⟩
  intro payload stream seed kind encoded h
  obtain ⟨body, hbody, hlog⟩ := exists_packetBody_of_record hw h
  obtain ⟨frames, sequence, parts, hoperation, hdecode, -⟩ := hbody.frames hbuilt
  refine ⟨body, hlog, ⟨_, readDuplexBodyV1_eq_operation hoperation hdecode rfl hbody.1
    hbody.2.1, rfl, rfl⟩, hbody.2.2.1, ?_⟩
  intro hfits
  exact readDuplexBodyV3_packetBody hbuilt hpeer hbody hfits

/-! ## A pair with different record limits -/

def sampleSizing (recordCap : UInt32) : DuplexSizingV3 :=
  ⟨1200000, 65536, 4096, recordCap, 272, 16777216⟩

/-- The sizes for records of 1024 bytes. -/
def roomySize : DuplexSizeV3 := ⟨⟨1209765, 1024, 841⟩, 932, 912, 4⟩

/-- The sizes for records of 512 bytes. -/
def tightSize : DuplexSizeV3 := ⟨⟨1206693, 512, 329⟩, 420, 400, 4⟩

theorem builtFor_roomySize : (constructWorkspaceV3 sampleCodec roomySize).BuiltFor
    sampleProgram (sampleSizing 1024) :=
  ⟨newLiveDataCodecV3_sampleProgram, roomySize, by decide +kernel, constructWorkspaceV3_sizedBy _ _⟩

theorem builtFor_tightSize : (constructWorkspaceV3 sampleCodec tightSize).BuiltFor
    sampleProgram (sampleSizing 512) :=
  ⟨newLiveDataCodecV3_sampleProgram, tightSize, by decide +kernel, constructWorkspaceV3_sizedBy _ _⟩

/-- A fresh endpoint of the third version for the sample program. -/
def sampleEndpointV3 (client : Bool) (size : DuplexSizeV3) : ProcessDuplexStateV1 zeroSource :=
  newProcessDuplexStateV1 client (fixedBytes 32 [1])
    (freshEnvelopeCodecV1 sampleScheduleV1 sampleContextV1 client false) sampleProgram 9
    (some (constructWorkspaceV3 sampleCodec size))

/-- A returned record, in memory apart from all buffers. -/
def recordOf : DuplexReply → Slice
  | .record encoded => ⟨100000, encoded⟩
  | _ => ⟨100000, []⟩

/-- A client with room for 841 bytes and a relay with room for 329, after the client has
bound the link. -/
def unequalPair : ProcessDuplexStateV1 zeroSource × ProcessDuplexStateV1 zeroSource :=
  let bind := (sampleEndpointV3 true roomySize).step plainAEAD (.profileBind (fixedBytes 32 [2]))
  let ready := (sampleEndpointV3 false tightSize).step plainAEAD
    (.acceptProfileBind (recordOf bind.2) (fixedBytes 32 [2]))
  ((bind.1.step plainAEAD (.acceptEngineReady (recordOf ready.2))).1, ready.1)

/-- 330 bytes on stream 2. -/
def longPayload : DuplexCall := .sealData ⟨100000, replicate 330 1⟩ 2 5 .mixed

/-- The plaintext of the last encryption or decryption of an endpoint. -/
def lastPlaintext (s : ProcessDuplexStateV1 source) : Option (List UInt8) :=
  match s.log with
  | .released _ m _ :: _ => some m.plaintext
  | .accepted _ m _ :: _ => some m.plaintext
  | _ => none

/-- The relay authenticates the body which the client has sealed for 330 bytes, and
rejects it. -/
theorem duplex_body_parity_unequal :
    let sealed := unequalPair.1.step plainAEAD longPayload
    let opened := unequalPair.2.step plainAEAD (.openFrame (recordOf sealed.2))
    unequalPair.1.bound = true ∧ unequalPair.2.bound = true ∧
      sealed.2 = .record (recordOf sealed.2).bytes ∧
      lastPlaintext opened.1 = lastPlaintext sealed.1 ∧
      opened.2 = .failed .recordInvalid := by
  decide +kernel

/-- Both readers accept three bytes which the client of the pair seals. -/
theorem duplex_body_parity_samplePayload :
    let sender := { sampleEndpointV3 true roomySize with bound := true }
    ∃ body,
      ProcessDuplexStateV1.SealLogged plainAEAD sender body
        (sender.sealPacketDataV3 plainAEAD samplePayload 300 5 .raw).1.log ∧
      ∃ op, readDuplexBodyV1 sampleProgram Wire.typeReliableData 300 body =
          .ok (.operation op) ∧ op.payload = [1, 2, 3] ∧ op.streamID = 300 := by
  intro sender
  have hrecord : (sender.sealPacketDataV3 plainAEAD samplePayload 300 5 .raw).2 =
      .record (recordOf (sender.sealPacketDataV3 plainAEAD samplePayload 300 5 .raw).2).bytes := by
    decide +kernel
  obtain ⟨body, hlog, hread, -⟩ := (duplex_body_parity plainAEAD
    (show sender.bounded = some _ from rfl) builtFor_roomySize builtFor_tightSize).2.1
    samplePayload 300 5 .raw _ hrecord
  exact ⟨body, hlog, hread⟩

end Kurdistan.Runtime
