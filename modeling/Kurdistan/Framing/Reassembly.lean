import Kurdistan.Framing.LiveData

/-!
# Fragment sets

Both decoders accept a list of frames exactly when the frames are, in order, the
complete fragment set of one operation. This module says so for each of them in
terms of the parsed views, on which the two decoders can then be compared.
-/

namespace Kurdistan.Framing

open Support Protocol List

/-- `view` is fragment number `i` of `count` of the operation `expected` belongs
to. -/
structure FragmentOf (expected : FrameView) (count i : ℕ) (view : FrameView) : Prop where
  fragCount : view.fragCount = count
  fragIndex : view.fragIndex = i
  semantic : view.msg.semantic = expected.msg.semantic
  stream : view.streamID = expected.streamID
  symbol : view.msg.wireSymbol = expected.msg.wireSymbol
  metadata : view.metadata.equal expected.metadata = true

/-- The frames parse to these views. -/
def ParsesTo (spec : CodecSpec) (frames : List (List UInt8)) (views : List FrameView) :
    Prop :=
  List.Forall₂ (fun frame view => parseFrameView spec frame = .ok view) frames views

/-- The views are a complete fragment set in order. -/
def FragmentSet (expected : FrameView) (views : List FrameView) : Prop :=
  ∀ entry ∈ views.zipIdx, FragmentOf expected views.length entry.2 entry.1

/-- The payload carried by a list of views. -/
def joinedPayload (views : List FrameView) : List UInt8 :=
  views.flatMap FrameView.payload

variable {spec : CodecSpec} {view : FrameView}

theorem parseFrameView_texts {frame : List UInt8} (h : parseFrameView spec frame = .ok view) :
    ∀ value ∈ view.metadata.values.toList, value.length ≤ 255 := by
  simp only [parseFrameView, bind_ok_iff] at h
  obtain ⟨_, -, body, -, content, -, decoded, -, _, -, parsed, hparsed, _, -, h⟩ := h
  obtain ⟨⟩ := h
  exact (parseMetadataView_spec hparsed).1

/-! ## The allocating decoder -/

variable {frames : List (List UInt8)} {parts : List DecodedFrame}

theorem decodeAll_eq_ok :
    decodeAll spec frames = .ok parts ↔
      ∃ views, ParsesTo spec frames views ∧
        parts = zipWith (fun frame view => FrameView.decoded view frame.length) frames views := by
  induction frames generalizing parts with
  | nil => simp [decodeAll, ParsesTo]
  | cons frame frames ih =>
    simp only [decodeAll, decodeFrameWithSpec, bind_ok_iff, ih]
    constructor
    · rintro ⟨_, ⟨view, hview, ⟨⟩⟩, _, ⟨views, hviews, rfl⟩, ⟨⟩⟩
      exact ⟨view :: views, .cons hview hviews, rfl⟩
    · rintro ⟨_, hviews, rfl⟩
      cases hviews with
      | cons hview hviews => exact ⟨_, ⟨_, hview, rfl⟩, _, ⟨_, hviews, rfl⟩, rfl⟩

/-- A decoded part agrees with the expected one at `position`. -/
structure PartOf (expected : DecodedFrame) (expectedMetadata : List UInt8)
    (position : ℕ) (part : DecodedFrame) : Prop where
  fragCount : part.fragCount = expected.fragCount
  fragIndex : part.fragIndex = position
  semantic : part.operation.semantic = expected.operation.semantic
  stream : part.operation.streamID = expected.operation.streamID
  symbol : part.wireSymbol = expected.wireSymbol
  metadata : encodeOperationMetadata part.operation = .ok expectedMetadata

/-- The slots after `position` fragments: the seen ones in front. -/
def slotsAfter (payloads : List (List UInt8)) (remaining : ℕ) : Reassembly :=
  ⟨replicate payloads.length true ++ replicate remaining false, payloads ++ replicate remaining []⟩

variable {expected : DecodedFrame} {expectedMetadata : List UInt8}
  {payloads : List (List UInt8)} {state : Reassembly}

/-- One round accepts exactly the part which belongs at this position. -/
theorem collectFragment_eq_ok {part : DecodedFrame} {remaining : ℕ} :
    collectFragment expected expectedMetadata (payloads.length + (remaining + 1))
        payloads.length (slotsAfter payloads (remaining + 1)) part = .ok state ↔
      PartOf expected expectedMetadata payloads.length part ∧
        state = slotsAfter (payloads ++ [part.operation.payload]) remaining := by
  have hslot : (slotsAfter payloads (remaining + 1)).seen.getD payloads.length false =
      false := by
    simp [slotsAfter]
  have hset : (⟨(slotsAfter payloads (remaining + 1)).seen.set payloads.length true,
      (slotsAfter payloads (remaining + 1)).payloads.set payloads.length
        part.operation.payload⟩ : Reassembly) =
      slotsAfter (payloads ++ [part.operation.payload]) remaining := by
    have hseen : (replicate payloads.length true ++
        false :: replicate remaining false).set payloads.length true =
        replicate (payloads.length + 1) true ++ replicate remaining false := by
      rw [replicate_succ']
      simp
    simp only [slotsAfter, replicate_succ (n := remaining), hseen]
    simp
  simp only [collectFragment, check_ok_iff, ensure_eq_ok]
  constructor
  · rintro ⟨hcount, hrange, hfresh, hindex, hsemantic, hstream, hsymbol, h⟩
    split at h
    · cases h
    · rename_i hmetadata
      rw [check_ok_iff, ensure_eq_ok, hindex, hset] at h
      obtain ⟨rfl, ⟨⟩⟩ := h
      exact ⟨⟨hcount, hindex, hsemantic, hstream, hsymbol, hmetadata⟩, rfl⟩
  · rintro ⟨⟨hcount, hindex, hsemantic, hstream, hsymbol, hmetadata⟩, rfl⟩
    rw [hindex, hmetadata]
    refine ⟨hcount, by omega, hslot, rfl, hsemantic, hstream, hsymbol, ?_⟩
    simp only [ensure_true, ok_bind, hset]

/-- The loop accepts exactly the parts which belong at their positions. -/
theorem collectFragments_eq_ok :
    collectFragments expected expectedMetadata (payloads.length + parts.length)
        payloads.length (slotsAfter payloads parts.length) parts = .ok state ↔
      (∀ entry ∈ parts.zipIdx payloads.length,
        PartOf expected expectedMetadata entry.2 entry.1) ∧
        state = slotsAfter (payloads ++ parts.map (·.operation.payload)) 0 := by
  induction parts generalizing payloads with
  | nil => simp [collectFragments, eq_comm]
  | cons part parts ih =>
    have hlength : (payloads ++ [part.operation.payload]).length = payloads.length + 1 := by
      simp
    have ih := @ih (payloads ++ [part.operation.payload])
    rw [hlength, Nat.add_assoc, Nat.add_comm 1] at ih
    rw [length_cons, collectFragments, bind_ok_iff]
    simp only [collectFragment_eq_ok, zipIdx_cons, forall_mem_cons]
    constructor
    · rintro ⟨next, ⟨hpart, rfl⟩, hrest⟩
      obtain ⟨hparts, hstate⟩ := ih.mp hrest
      exact ⟨⟨hpart, hparts⟩, by simpa using hstate⟩
    · rintro ⟨⟨hpart, hparts⟩, hstate⟩
      exact ⟨_, ⟨hpart, rfl⟩, ih.mpr ⟨hparts, by simpa using hstate⟩⟩

theorem encodeOperationMetadata_decoded
    (h : ∀ value ∈ view.metadata.values.toList, value.length ≤ 255) (frameBytes : ℕ) :
    encodeOperationMetadata (view.decoded frameBytes).operation =
      .ok (metadataBytes view.metadata.materialize) := by
  have hencodable := encodableMetadata_materialize h
  exact encodeOperationMetadata_eq_ok.mpr
    ⟨⟨hencodable.texts, hencodable.creditBytes, hencodable.payloadByteCount,
      hencodable.responseByteCount, hencodable.responseChunkIndex⟩, rfl⟩

/-- For parsed views, belonging at a position means the same before and after
decoding. -/
theorem partOf_decoded_iff {expected : FrameView} {expectedBytes frameBytes i : ℕ}
    (hexpected : ∀ value ∈ expected.metadata.values.toList, value.length ≤ 255)
    (hview : ∀ value ∈ view.metadata.values.toList, value.length ≤ 255) :
    PartOf (expected.decoded expectedBytes) (metadataBytes expected.metadata.materialize) i
        (view.decoded frameBytes) ↔
      FragmentOf expected expected.fragCount i view := by
  have hmetadata := encodeOperationMetadata_decoded hview frameBytes
  constructor
  · intro h
    have hbytes := Except.ok.inj (hmetadata.symm.trans h.metadata)
    exact ⟨h.fragCount, h.fragIndex, h.semantic, h.stream, h.symbol,
      (equal_iff_metadataBytes hview hexpected).mpr hbytes⟩
  · intro h
    have hbytes := (equal_iff_metadataBytes hview hexpected).mp h.metadata
    exact ⟨h.fragCount, h.fragIndex, h.semantic, h.stream, h.symbol, hbytes ▸ hmetadata⟩

/-- The operation rebuilt from a fragment set. -/
def rebuilt (expected : FrameView) (views : List FrameView) : Operation :=
  { expected.metadata.materialize with
    semantic := expected.msg.semantic
    streamID := expected.streamID
    payload := joinedPayload views }

variable {views : List FrameView}

theorem forall₂_texts (h : ParsesTo spec frames views) :
    ∀ view ∈ views, ∀ value ∈ view.metadata.values.toList, value.length ≤ 255 := by
  induction h with
  | nil => simp
  | cons hview _ ih =>
    intro view hmem
    rcases mem_cons.mp hmem with rfl | hrest
    · exact parseFrameView_texts hview
    · exact ih view hrest

/-- The positions of decoded parts are the positions of their views. -/
theorem forall_zipIdx_zipWith (hlength : frames.length = views.length) {P : DecodedFrame → ℕ → Prop}
    {Q : FrameView → ℕ → Prop} (start : ℕ)
    (h : ∀ view ∈ views, ∀ i n, P (view.decoded n) i ↔ Q view i) :
    (∀ entry ∈ (zipWith (fun frame view => FrameView.decoded view frame.length)
        frames views).zipIdx start, P entry.1 entry.2) ↔
      ∀ entry ∈ views.zipIdx start, Q entry.1 entry.2 := by
  induction frames generalizing views start with
  | nil =>
    have hnil : views = [] := eq_nil_of_length_eq_zero hlength.symm
    simp [hnil]
  | cons frame frames ih =>
    cases views with
    | nil => simp at hlength
    | cons view views =>
      have hrest := @ih views (by simpa using hlength) (start + 1)
        fun other hother => h other (mem_cons_of_mem view hother)
      simp only [zipWith_cons_cons, zipIdx_cons, forall_mem_cons, hrest, h view mem_cons_self]

theorem flatten_map_payload_zipWith (hlength : frames.length = views.length) :
    ((zipWith (fun frame view => FrameView.decoded view frame.length)
      frames views).map (·.operation.payload)).flatten = joinedPayload views := by
  induction frames generalizing views with
  | nil =>
    have hnil : views = [] := eq_nil_of_length_eq_zero hlength.symm
    simp [hnil, joinedPayload]
  | cons frame frames ih =>
    cases views with
    | nil => simp at hlength
    | cons view views =>
      have hrest := @ih views (by simpa using hlength)
      simp only [zipWith_cons_cons, map_cons, flatten_cons, hrest]
      rfl

theorem collectFragments_start :
    collectFragments expected expectedMetadata parts.length 0
        ⟨replicate parts.length false, replicate parts.length []⟩ parts =
          .ok state ↔
      (∀ entry ∈ parts.zipIdx, PartOf expected expectedMetadata entry.2 entry.1) ∧
        state = ⟨replicate parts.length true, parts.map (·.operation.payload)⟩ := by
  have h := @collectFragments_eq_ok parts expected expectedMetadata [] state
  simpa [slotsAfter] using h

/-- On frames which parse, the decoder decides whether the views are a complete
fragment set. -/
theorem decodeFramesWithSpec_of_parses {expected : FrameView} {rest : List FrameView}
    {op : Operation} (hviews : ParsesTo spec frames (expected :: rest)) :
    decodeFramesWithSpec spec frames = .ok (op, parts) ↔
      FragmentSet expected (expected :: rest) ∧ op = rebuilt expected (expected :: rest) ∧
        parts = zipWith (fun frame view => FrameView.decoded view frame.length)
          frames (expected :: rest) := by
  have hlength := hviews.length_eq
  have htexts := forall₂_texts hviews
  have hexpected := htexts expected mem_cons_self
  have hdecode := decodeAll_eq_ok.mpr ⟨_, hviews, rfl⟩
  have hpayload := flatten_map_payload_zipWith hlength
  obtain ⟨frame, frames, rfl⟩ := exists_cons_of_length_eq_add_one hlength
  have hpositions := forall_zipIdx_zipWith hlength 0
    (P := fun part i => PartOf (expected.decoded frame.length)
      (metadataBytes expected.metadata.materialize) i part)
    fun view hview i n => partOf_decoded_iff hexpected (htexts view hview)
  have hcount : (zipWith (fun frame view => FrameView.decoded view frame.length)
      (frame :: frames) (expected :: rest)).length = (expected :: rest).length := by
    simp only [length_zipWith, hlength, Nat.min_self]
  simp only [zipWith_cons_cons] at hdecode hpayload hpositions hcount ⊢
  rw [decodeFramesWithSpec, hdecode, ok_bind]
  simp only [encodeOperationMetadata_decoded hexpected, bind_ok_iff, ensure_ok_iff, exists_const,
    collectFragments_start, hpositions]
  constructor
  · rintro ⟨hfragCount, _, ⟨hfragments, rfl⟩, -, ⟨⟩⟩
    refine ⟨?_, ?_, rfl⟩
    · intro entry hentry
      exact (hfragCount.trans hcount : expected.fragCount = _) ▸ hfragments entry hentry
    · rw [hpayload]
      rfl
  · rintro ⟨hset, rfl, rfl⟩
    have hfragCount : expected.fragCount = (expected :: rest).length :=
      (hset (expected, 0) (by simp)).fragCount
    refine ⟨hfragCount.trans hcount.symm, _,
      ⟨fun entry hentry => hfragCount ▸ hset entry hentry, rfl⟩, by simp, ?_⟩
    rw [hpayload]
    rfl

/-- The allocating decoder accepts exactly the complete fragment sets. -/
theorem decodeFramesWithSpec_eq_ok {op : Operation} :
    decodeFramesWithSpec spec frames = .ok (op, parts) ↔
      ∃ expected rest, ParsesTo spec frames (expected :: rest) ∧
        FragmentSet expected (expected :: rest) ∧ op = rebuilt expected (expected :: rest) ∧
        parts = zipWith (fun frame view => FrameView.decoded view frame.length)
          frames (expected :: rest) := by
  constructor
  · intro h
    obtain ⟨decoded, hdecode, -⟩ := bind_ok_iff.mp h
    obtain ⟨views, hviews, rfl⟩ := decodeAll_eq_ok.mp hdecode
    cases views with
    | nil =>
      cases hviews
      cases h
    | cons expected rest =>
      exact ⟨expected, rest, hviews, (decodeFramesWithSpec_of_parses hviews).mp h⟩
  · rintro ⟨expected, rest, hviews, hset⟩
    exact (decodeFramesWithSpec_of_parses hviews).mpr hset

end Kurdistan.Framing
