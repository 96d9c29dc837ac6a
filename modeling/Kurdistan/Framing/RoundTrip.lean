import Kurdistan.Framing.DecoderAgreement

/-!
# The legacy round trip

The frames of an operation decode to it exactly when nothing was narrowed on the
way: four integer fields, the number of fragments and the padding lengths have to
fit their wire fields, and the type tag has to lead back to the semantic.
-/

namespace Kurdistan.Framing

open Support Protocol List

variable {source : RandSource}

/-! ## The frames of an operation -/

/-- The parts of the frames which carry an operation, from fragment `idx` at `offset`
on, one frame for every size and padding. -/
def fragmentParts (msg : CodecMessage) (stream : List UInt8) (op : Operation)
    (count : ℕ) : ℕ → ℕ → List ℕ → List (List UInt8) → List FrameParts
  | idx, offset, size :: sizes, pad :: pads =>
    operationParts msg stream { op with payload := (op.payload.drop offset).take size } pad
        idx count ::
      fragmentParts msg stream op count (idx + 1) (offset + size) sizes pads
  | _, _, _, _ => []

/-- The fragments of a whole operation. -/
def CodecSpec.fragmentsOf (spec : CodecSpec) (msg : CodecMessage) (stream : List UInt8)
    (op : Operation) (pads : List (List UInt8)) : List FrameParts :=
  fragmentParts msg stream op (spec.fragmentSizes op.payload.length).length 0 0
    (spec.fragmentSizes op.payload.length) pads

/-- The frames of a whole operation. -/
def CodecSpec.framesOf (spec : CodecSpec) (msg : CodecMessage) (stream : List UInt8)
    (op : Operation) (pads : List (List UInt8)) : List (List UInt8) :=
  (spec.fragmentsOf msg stream op pads).map (·.frame spec)

variable {op : Operation}

theorem encodableMetadata_payload {payload : List UInt8} :
    EncodableMetadata { op with payload := payload } ↔ EncodableMetadata op :=
  ⟨fun ⟨htexts, hcredit, hpayload, hresponse, hchunk⟩ =>
      ⟨htexts, hcredit, hpayload, hresponse, hchunk⟩,
    fun ⟨htexts, hcredit, hpayload, hresponse, hchunk⟩ =>
      ⟨htexts, hcredit, hpayload, hresponse, hchunk⟩⟩

variable {idx offset : ℕ} {sizes : List ℕ} {frames : List (List UInt8)}
  {spec : CodecSpec} {msg : CodecMessage} {stream : List UInt8}

/-- The encoding loop succeeds exactly when all drawn paddings and all frames fit. -/
theorem encodeFragments_eq_ok {count : ℕ} {engine : Engine source}
    (hmsg : spec.messageBySemantic op.semantic = some msg)
    (hstream : writeStreamID spec op.streamID = .ok stream) (hmetadata : EncodableMetadata op)
    (hpolicy : engine.policy = spec.padding) :
    encodeFragments spec op count idx offset sizes engine = .ok frames ↔
      ∃ pads, engine.draws sizes.length = .ok pads ∧
        (∀ f ∈ fragmentParts msg stream op count idx offset sizes pads, FrameFits spec f) ∧
        frames = (fragmentParts msg stream op count idx offset sizes pads).map (·.frame spec) := by
  induction sizes generalizing idx offset engine frames with
  | nil => simp [encodeFragments, Engine.draws, fragmentParts]
  | cons size sizes ih =>
    simp only [encodeFragments, length_cons, Engine.draws, bind_ok_iff]
    constructor
    · rintro ⟨⟨pad, engine'⟩, hgenerate, frame, hframe, rest, hrest, ⟨⟩⟩
      obtain ⟨msg', stream', hmsg', hstream', -, -, hfits, rfl⟩ :=
        encodeFrameWithSpec_eq_ok.mp hframe
      obtain ⟨⟩ := hmsg.symm.trans hmsg'
      obtain ⟨⟩ := hstream.symm.trans hstream'
      obtain ⟨pads, hdraws, hall, rfl⟩ := (ih ((generate_spec hgenerate).1.trans hpolicy)).mp hrest
      exact ⟨_, ⟨_, hgenerate, pads, hdraws, rfl⟩, forall_mem_cons.mpr ⟨hfits, hall⟩, rfl⟩
    · rintro ⟨pads, ⟨⟨pad, engine'⟩, hgenerate, rest, hrest, ⟨⟩⟩, hall, rfl⟩
      obtain ⟨hpolicy', hwithin⟩ := generate_spec hgenerate
      rw [hpolicy] at hwithin
      obtain ⟨hfits, hall⟩ := forall_mem_cons.mp hall
      have hpad : 0 < pad.length → spec.padding.minPaddingBytes ≤ pad.length ∧
          (pad.length : Int) ≤ spec.padding.maxPaddingBytes := by
        intro hpos
        rcases hwithin with rfl | hbounds
        · simp at hpos
        · exact hbounds
      have hframe := (@encodeFrameWithSpec_eq_ok spec
        { op with payload := (op.payload.drop offset).take size } pad idx count _).mpr
        ⟨msg, stream, hmsg, hstream, encodableMetadata_payload.mpr hmetadata, hpad, hfits, rfl⟩
      have hframes := (ih (hpolicy'.trans hpolicy)).mpr ⟨rest, hrest, hall, rfl⟩
      exact ⟨_, hgenerate, _, hframe, _, hframes, rfl⟩

variable {seed : Int64}

/-- What a successful encoder has found out about its operation. -/
theorem encodeOperationWithSpec_eq_ok :
    encodeOperationWithSpec source spec op seed = .ok frames ↔
      (op.payload.length : Int) ≤ spec.maxPayloadBytes ∧
      ∃ msg stream pads, spec.messageBySemantic op.semantic = some msg ∧
        writeStreamID spec op.streamID = .ok stream ∧ EncodableMetadata op ∧
        (newEngine source spec.padding seed).draws
          (spec.fragmentSizes op.payload.length).length = .ok pads ∧
        (∀ f ∈ spec.fragmentsOf msg stream op pads, FrameFits spec f) ∧
        frames = spec.framesOf msg stream op pads := by
  have hsizes : spec.fragmentSizes op.payload.length ≠ [] := fragmentSizesFor_ne_nil _ _ _ _
  unfold encodeOperationWithSpec
  simp only [check_ok_iff, ensure_eq_ok]
  constructor
  · rintro ⟨hpayload, -, h⟩
    obtain ⟨msg, stream, hmsg, hstream, hmetadata⟩ : ∃ msg stream,
        spec.messageBySemantic op.semantic = some msg ∧
        writeStreamID spec op.streamID = .ok stream ∧ EncodableMetadata op := by
      obtain ⟨size, sizes, hcons⟩ := exists_cons_of_ne_nil hsizes
      rw [hcons, encodeFragments] at h
      obtain ⟨drawn, -, h⟩ := bind_ok_iff.mp h
      obtain ⟨frame, hframe, -⟩ := bind_ok_iff.mp h
      obtain ⟨msg, stream, hmsg, hstream, hmetadata, -⟩ := encodeFrameWithSpec_eq_ok.mp hframe
      exact ⟨msg, stream, hmsg, hstream, encodableMetadata_payload.mp hmetadata⟩
    obtain ⟨pads, hdraws, hfits, rfl⟩ := (encodeFragments_eq_ok hmsg hstream hmetadata rfl).mp h
    exact ⟨hpayload, msg, stream, pads, hmsg, hstream, hmetadata, hdraws, hfits, rfl⟩
  · rintro ⟨hpayload, msg, stream, pads, hmsg, hstream, hmetadata, hdraws, hfits, rfl⟩
    refine ⟨hpayload, by simp [hmsg], ?_⟩
    exact (encodeFragments_eq_ok hmsg hstream hmetadata rfl).mpr ⟨pads, hdraws, hfits, rfl⟩

/-! ## The fragments -/

section Fragments

variable {msg : CodecMessage} {stream : List UInt8} {op : Operation} {count : ℕ}

/-- What all fragments of one operation share. -/
structure FragmentShape (msg : CodecMessage) (stream : List UInt8) (op : Operation)
    (count : ℕ) (f : FrameParts) : Prop where
  msg : f.msg = msg
  stream : f.stream = stream
  metadata : f.metadata = metadataBytes op
  fragCount : f.fragCount = count
  payload : f.payload.length ≤ op.payload.length

variable {pads : List (List UInt8)}

theorem fragmentShape_of_mem {f : FrameParts}
    (h : f ∈ fragmentParts msg stream op count idx offset sizes pads) :
    FragmentShape msg stream op count f := by
  induction sizes generalizing idx offset pads with
  | nil => simp [fragmentParts] at h
  | cons size sizes ih =>
    cases pads with
    | nil => simp [fragmentParts] at h
    | cons pad pads =>
      rw [fragmentParts, mem_cons] at h
      rcases h with rfl | hrest
      · refine ⟨rfl, rfl, rfl, rfl, ?_⟩
        simp only [operationParts, length_take, length_drop]
        omega
      · exact ih hrest

theorem map_pad_fragmentParts (hlength : pads.length = sizes.length) :
    (fragmentParts msg stream op count idx offset sizes pads).map FrameParts.pad = pads := by
  induction sizes generalizing idx offset pads with
  | nil => simpa [fragmentParts] using hlength
  | cons size sizes ih =>
    cases pads with
    | nil => simp at hlength
    | cons pad pads =>
      have hrest := @ih (idx + 1) (offset + size) pads (by simpa using hlength)
      simp [fragmentParts, hrest, operationParts]

theorem length_fragmentParts (hlength : pads.length = sizes.length) :
    (fragmentParts msg stream op count idx offset sizes pads).length = sizes.length := by
  rw [← hlength, ← length_map FrameParts.pad, map_pad_fragmentParts hlength]

theorem fragIndex_fragmentParts :
    ∀ entry ∈ (fragmentParts msg stream op count idx offset sizes pads).zipIdx idx,
      entry.1.fragIndex = entry.2 := by
  induction sizes generalizing idx offset pads with
  | nil => simp [fragmentParts]
  | cons size sizes ih =>
    cases pads with
    | nil => simp [fragmentParts]
    | cons pad pads =>
      rw [fragmentParts, zipIdx_cons, forall_mem_cons]
      exact ⟨rfl, ih⟩

/-- The fragments carry consecutive pieces of the payload. -/
theorem flatMap_payload_fragmentParts (hlength : pads.length = sizes.length) :
    (fragmentParts msg stream op count idx offset sizes pads).flatMap FrameParts.payload =
      (op.payload.drop offset).take sizes.sum := by
  induction sizes generalizing idx offset pads with
  | nil => simp [fragmentParts]
  | cons size sizes ih =>
    cases pads with
    | nil => simp at hlength
    | cons pad pads =>
      have hrest := @ih (idx + 1) (offset + size) pads (by simpa using hlength)
      rw [fragmentParts, flatMap_cons, hrest, sum_cons, take_add, drop_drop]
      rfl

end Fragments

section FragmentsOf

variable {spec : CodecSpec} {op : Operation} {pads : List (List UInt8)}

/-- The fragments of an operation, with the padding which was drawn for them, carry its
payload. -/
theorem fragmentsOf_spec (msg : CodecMessage) (stream : List UInt8)
    (hlength : pads.length = (spec.fragmentSizes op.payload.length).length) :
    (spec.fragmentsOf msg stream op pads).length =
        (spec.fragmentSizes op.payload.length).length ∧
      (spec.fragmentsOf msg stream op pads).map FrameParts.pad = pads ∧
      (spec.fragmentsOf msg stream op pads).flatMap FrameParts.payload = op.payload ∧
      ∀ f ∈ spec.fragmentsOf msg stream op pads, FragmentShape msg stream op
        (spec.fragmentSizes op.payload.length).length f := by
  have hsum : (spec.fragmentSizes op.payload.length).sum = op.payload.length :=
    sum_fragmentSizesFor _ _ _ _
  refine ⟨length_fragmentParts hlength, map_pad_fragmentParts hlength, ?_,
    fun f hf => fragmentShape_of_mem hf⟩
  rw [CodecSpec.fragmentsOf, flatMap_payload_fragmentParts hlength, hsum, drop_zero, take_length]

end FragmentsOf

/-! ## Parsing the frames -/

theorem exists_messageByTag {semantic : Choice Semantic}
    (h : spec.messageBySemantic semantic = some msg) :
    ∃ found, spec.messageByTag msg.typeTag = some found := by
  have hmem := mem_of_find?_eq_some h
  apply Option.isSome_iff_exists.mp
  rw [CodecSpec.messageByTag, find?_isSome]
  exact ⟨msg, hmem, by simp⟩

variable {found : CodecMessage} {f : FrameParts}

theorem parseFrameView_of_fits {streamID : UInt32}
    (hvalid : ValidSpec spec) (hstream : writeStreamID spec streamID = .ok f.stream)
    (hfound : spec.messageByTag f.msg.typeTag = some found) (hfits : FrameFits spec f) :
    parseFrameView spec (f.frame spec) = parseBlock spec f found streamID := by
  have hbody := hfits.body
  have hframe := hvalid.frameHigh
  exact parseFrameView_frame hvalid.header hstream hfound hfits (by omega)

/-- The view of a frame whose counters fit their fields. -/
def fragmentView (spec : CodecSpec) (found : CodecMessage) (op : Operation)
    (f : FrameParts) : FrameView :=
  ⟨found, op.streamID, f.fragIndex % 2 ^ 16, f.fragCount % 2 ^ 16, f.pad.length % 2 ^ 16,
    (f.body spec).length, metadataView op, f.payload⟩

section Block

variable (htexts : ∀ value ∈ (operationMetadataStrings op).toList, value.length ≤ 255)
  (hmetadata : f.metadata = metadataBytes op)

include htexts hmetadata

/-- A block whose padding length is representable is read back. -/
theorem parseBlock_eq (hcount : 0 < f.fragCount % 2 ^ 16)
    (hpad : f.pad.length < 2 ^ 16) (hpayload : (f.payload.length : Int) ≤ spec.maxPayloadBytes) :
    parseBlock spec f found op.streamID = .ok (fragmentView spec found op f) := by
  have hblock : f.pad.length % 2 ^ 16 ≤ (f.blockBytes spec).length := by
    rw [length_blockBytes]
    omega
  rw [parseBlock, ensure_of_pos hcount, ok_bind, ensure_of_pos hblock, ok_bind,
    stripPadding_blockBytes spec f hpad, hmetadata, parseMetadataView_metadataBytes htexts,
    ok_bind, ensure_of_pos hpayload, ok_bind, fragmentView]

/-- Whatever is read from a block is no shorter than its payload, and longer when the
padding length was not representable. -/
theorem parseBlock_payload {view : FrameView} (h : parseBlock spec f found op.streamID = .ok view) :
    f.payload.length ≤ view.payload.length ∧
      (view.payload.length = f.payload.length → f.pad.length < 2 ^ 16) := by
  simp only [parseBlock, bind_ok_iff] at h
  obtain ⟨_, -, _, -, parsed, hparsed, _, -, h⟩ := h
  obtain ⟨⟩ := h
  by_cases hpad : f.pad.length < 2 ^ 16
  · rw [stripPadding_blockBytes spec f hpad, hmetadata,
      parseMetadataView_metadataBytes htexts] at hparsed
    obtain ⟨⟩ := hparsed
    exact ⟨le_rfl, fun _ => hpad⟩
  · -- At least `2 ^ 16` padding bytes stay in the section, more than metadata can take.
    have hstrip : (stripPadding spec (f.pad.length % 2 ^ 16) (f.blockBytes spec)).length =
        (f.blockBytes spec).length - f.pad.length % 2 ^ 16 := by
      unfold stripPadding
      split
      · rw [length_drop]
      · rw [length_take]
        omega
    have htaken := (parseMetadataView_spec hparsed).2
    have hbytes := length_metadataBytes op
    rw [← hmetadata] at hbytes
    rw [hstrip, length_blockBytes] at htaken
    dsimp only
    omega

end Block

/-! ## Decoding what was encoded -/

/-- The operation as it arrives: integer fields narrowed to 32 bits and the semantic of
the message its tag leads to. -/
def received (found : CodecMessage) (op : Operation) : Operation :=
  { op with
    semantic := found.semantic
    creditBytes := narrowed op.creditBytes
    payloadByteCount := narrowed op.payloadByteCount
    responseByteCount := narrowed op.responseByteCount
    responseChunkIndex := narrowed op.responseChunkIndex }

/-- Fragments of one operation with representable counters decode to what arrives. -/
theorem decodeFramesWithSpec_framesOf {pads : List (List UInt8)} (hvalid : ValidSpec spec)
    (hstream : writeStreamID spec op.streamID = .ok stream) (hmetadata : EncodableMetadata op)
    (hfound : spec.messageByTag msg.typeTag = some found)
    (hpayload : (op.payload.length : Int) ≤ spec.maxPayloadBytes)
    (hpads : pads.length = (spec.fragmentSizes op.payload.length).length)
    (hfits : ∀ f ∈ spec.fragmentsOf msg stream op pads, FrameFits spec f)
    (hcount : (spec.fragmentSizes op.payload.length).length < 2 ^ 16)
    (hpad : ∀ pad ∈ pads, pad.length < 2 ^ 16) :
    ∃ parts, decodeFramesWithSpec spec (spec.framesOf msg stream op pads) =
      .ok (received found op, parts) := by
  obtain ⟨hlength, hdrawn, hjoined, hshape⟩ := fragmentsOf_spec msg stream hpads
  have hindex : ∀ entry ∈ (spec.fragmentsOf msg stream op pads).zipIdx,
      entry.1.fragIndex = entry.2 := fragIndex_fragmentParts
  have hpositive : 0 < (spec.fragmentSizes op.payload.length).length :=
    length_pos_of_ne_nil (fragmentSizesFor_ne_nil _ _ _ _)
  rw [CodecSpec.framesOf]
  generalize spec.fragmentsOf msg stream op pads = fragments at *
  have hparses : ParsesTo spec (fragments.map (·.frame spec))
      (fragments.map (fragmentView spec found op)) := by
    rw [ParsesTo, forall₂_map_left_iff, forall₂_map_right_iff, forall₂_same]
    intro f hf
    have hf' := hshape f hf
    have hmem : f.pad ∈ pads := hdrawn ▸ mem_map_of_mem hf
    have hlimit := hf'.payload
    rw [parseFrameView_of_fits hvalid (hf'.stream ▸ hstream) (hf'.msg ▸ hfound) (hfits f hf)]
    refine parseBlock_eq hmetadata.texts hf'.metadata ?_ (hpad _ hmem) (by omega)
    rw [hf'.fragCount, Nat.mod_eq_of_lt hcount]
    exact hpositive
  obtain ⟨first, rest, rfl⟩ : ∃ first rest, fragments = first :: rest :=
    exists_cons_of_ne_nil (ne_nil_of_length_pos (by omega))
  have hset : FragmentSet (fragmentView spec found op first)
      ((first :: rest).map (fragmentView spec found op)) := by
    intro entry hentry
    rw [zipIdx_map] at hentry
    obtain ⟨⟨f, i⟩, hmem, rfl⟩ := mem_map.mp hentry
    have hbound := snd_lt_of_mem_zipIdx hmem
    have hf' := hshape _ (fst_mem_of_mem_zipIdx hmem)
    have hf := hindex _ hmem
    dsimp only at hf hf' hbound
    refine ⟨?_, ?_, rfl, rfl, rfl, ?_⟩
    · simp only [Prod.map_fst, fragmentView, hf'.fragCount, Nat.mod_eq_of_lt hcount,
        length_map, hlength]
    · simp only [Prod.map_fst, fragmentView, hf]
      exact Nat.mod_eq_of_lt (by omega)
    · simp [MetadataView.equal, fragmentView]
  refine ⟨_, decodeFramesWithSpec_eq_ok.mpr ⟨_, _, hparses, hset, ?_, rfl⟩⟩
  have hall : joinedPayload ((first :: rest).map (fragmentView spec found op)) =
      op.payload := by
    rw [joinedPayload, flatMap_map]
    exact hjoined
  rw [map_cons] at hall
  simp only [rebuilt, hall]
  simp only [fragmentView, materialize_metadataView, received]

/-- The blocks carry at least their payloads, and exactly these only when every padding
length was representable. -/
theorem parseBlocks_payload {fragments : List FrameParts} {views : List FrameView}
    (htexts : ∀ value ∈ (operationMetadataStrings op).toList, value.length ≤ 255)
    (hmetadata : ∀ f ∈ fragments, f.metadata = metadataBytes op)
    (h : List.Forall₂ (fun f view => parseBlock spec f found op.streamID = .ok view)
      fragments views) :
    (fragments.flatMap FrameParts.payload).length ≤ (joinedPayload views).length ∧
      ((joinedPayload views).length = (fragments.flatMap FrameParts.payload).length →
        ∀ f ∈ fragments, f.pad.length < 2 ^ 16) := by
  induction h with
  | nil => simp
  | @cons f view fragments views hview _ ih =>
    rw [forall_mem_cons] at hmetadata
    obtain ⟨hrest, hpads⟩ := ih hmetadata.2
    obtain ⟨hfirst, hpad⟩ := parseBlock_payload htexts hmetadata.1 hview
    simp only [joinedPayload, flatMap_cons, length_append, forall_mem_cons] at hrest hpads ⊢
    exact ⟨by omega, fun heq => ⟨hpad (by omega), hpads (by omega)⟩⟩

/-- An operation which comes back from its frames was representable. -/
theorem representable_of_decode {pads : List (List UInt8)} {parts : List DecodedFrame}
    (hvalid : ValidSpec spec) (hstream : writeStreamID spec op.streamID = .ok stream)
    (hmetadata : EncodableMetadata op) (hfound : spec.messageByTag msg.typeTag = some found)
    (hpads : pads.length = (spec.fragmentSizes op.payload.length).length)
    (hfits : ∀ f ∈ spec.fragmentsOf msg stream op pads, FrameFits spec f)
    (h : decodeFramesWithSpec spec (spec.framesOf msg stream op pads) = .ok (op, parts)) :
    (spec.fragmentSizes op.payload.length).length < 2 ^ 16 ∧ ∀ pad ∈ pads, pad.length < 2 ^ 16 := by
  obtain ⟨hlength, hdrawn, hjoined, hshape⟩ := fragmentsOf_spec msg stream hpads
  rw [CodecSpec.framesOf] at h
  generalize spec.fragmentsOf msg stream op pads = fragments at *
  obtain ⟨expected, rest, hparses, hset, hop, -⟩ := decodeFramesWithSpec_eq_ok.mp h
  have hblocks : List.Forall₂ (fun f view => parseBlock spec f found op.streamID = .ok view)
      fragments (expected :: rest) := by
    rw [ParsesTo, forall₂_map_left_iff] at hparses
    have hmem := (forall₂_and_left _ _).mpr ⟨fun f hf => hf, hparses⟩
    refine hmem.imp ?_
    rintro f view ⟨hf, hview⟩
    have hf' := hshape f hf
    rwa [parseFrameView_of_fits hvalid (hf'.stream ▸ hstream) (hf'.msg ▸ hfound)
      (hfits f hf)] at hview
  have hpayload : joinedPayload (expected :: rest) = op.payload :=
    (congrArg Operation.payload hop).symm
  obtain ⟨-, hrepresentable⟩ := parseBlocks_payload hmetadata.texts
    (fun f hf => (hshape f hf).metadata) hblocks
  have hall := hrepresentable (by rw [hpayload, hjoined])
  have hcount := hblocks.length_eq
  cases hblocks with
  | @cons first _ fragments _ hfirst _ =>
    have hview := hshape first mem_cons_self
    have hexpected := (hset (expected, 0) (by simp)).fragCount
    obtain ⟨-, hfirst⟩ := check_ok_iff.mp hfirst
    obtain ⟨-, hfirst⟩ := check_ok_iff.mp hfirst
    obtain ⟨parsed, -, hfirst⟩ := bind_ok_iff.mp hfirst
    obtain ⟨-, hfirst⟩ := check_ok_iff.mp hfirst
    obtain ⟨⟩ := hfirst
    refine ⟨?_, ?_⟩
    · have hmod : (spec.fragmentSizes op.payload.length).length % 2 ^ 16 =
          (spec.fragmentSizes op.payload.length).length := by
        rw [hview.fragCount] at hexpected
        exact hexpected.trans (hcount.symm.trans hlength)
      rw [← hmod]
      exact Nat.mod_lt _ (by norm_num)
    · intro pad hpad
      rw [← hdrawn] at hpad
      obtain ⟨f, hf, rfl⟩ := mem_map.mp hpad
      exact hall f hf

/-! ## The round trip -/

/-- Nothing of the operation is narrowed on the wire: its integer fields, the number of
its fragments and the paddings drawn for its seed fit their fields, and its type tag
is the tag of no other semantic listed before. -/
structure Representable (source : RandSource) (spec : CodecSpec) (op : Operation)
    (seed : Int64) : Prop where
  creditBytes : op.creditBytes < 2 ^ 32
  payloadByteCount : op.payloadByteCount < 2 ^ 32
  responseByteCount : op.responseByteCount < 2 ^ 32
  responseChunkIndex : op.responseChunkIndex < 2 ^ 32
  fragments : (spec.fragmentSizes op.payload.length).length < 2 ^ 16
  paddings : ∀ pads, (newEngine source spec.padding seed).draws
      (spec.fragmentSizes op.payload.length).length = .ok pads →
    ∀ pad ∈ pads, pad.length < 2 ^ 16
  typeTag : ∀ msg found, spec.messageBySemantic op.semantic = some msg →
    spec.messageByTag msg.typeTag = some found → found.semantic = op.semantic

theorem received_eq_self (h : EncodableMetadata op) :
    received found op = op ↔ found.semantic = op.semantic ∧ op.creditBytes < 2 ^ 32 ∧
      op.payloadByteCount < 2 ^ 32 ∧ op.responseByteCount < 2 ^ 32 ∧
      op.responseChunkIndex < 2 ^ 32 := by
  rw [← narrowed_eq_self h.creditBytes, ← narrowed_eq_self h.payloadByteCount,
    ← narrowed_eq_self h.responseByteCount, ← narrowed_eq_self h.responseChunkIndex]
  constructor
  · intro heq
    exact ⟨congrArg Operation.semantic heq, congrArg Operation.creditBytes heq,
      congrArg Operation.payloadByteCount heq, congrArg Operation.responseByteCount heq,
      congrArg Operation.responseChunkIndex heq⟩
  · rintro ⟨hsemantic, hcredit, hpayload, hresponse, hchunk⟩
    simp only [received, hsemantic, hcredit, hpayload, hresponse, hchunk]

/-- Encoded frames decode to the operation exactly when it was representable. -/
theorem decode_encode_iff (hvalid : ValidSpec spec)
    (h : encodeOperationWithSpec source spec op seed = .ok frames) :
    (∃ parts, decodeFramesWithSpec spec frames = .ok (op, parts)) ↔
      Representable source spec op seed := by
  obtain ⟨hpayload, msg, stream, pads, hmsg, hstream, hmetadata, hdraws, hfits, rfl⟩ :=
    encodeOperationWithSpec_eq_ok.mp h
  obtain ⟨found, hfound⟩ := exists_messageByTag hmsg
  have hpads := (draws_within hdraws).1
  have hdecode := decodeFramesWithSpec_framesOf hvalid hstream hmetadata hfound hpayload hpads hfits
  constructor
  · rintro ⟨parts, hparts⟩
    obtain ⟨hcount, hpad⟩ :=
      representable_of_decode hvalid hstream hmetadata hfound hpads hfits hparts
    obtain ⟨parts', hparts'⟩ := hdecode hcount hpad
    rw [hparts'] at hparts
    have hreceived : received found op = op := (Prod.mk.inj (Except.ok.inj hparts)).1
    obtain ⟨hsemantic, hcredit, hbytes, hresponse, hchunk⟩ :=
      (received_eq_self hmetadata).mp hreceived
    refine ⟨hcredit, hbytes, hresponse, hchunk, hcount, ?_, ?_⟩
    · intro pads' hdraws'
      obtain ⟨⟩ := hdraws.symm.trans hdraws'
      exact hpad
    · intro msg' found' hmsg' hfound'
      obtain ⟨⟩ := hmsg.symm.trans hmsg'
      obtain ⟨⟩ := hfound.symm.trans hfound'
      exact hsemantic
  · intro hrep
    obtain ⟨parts, hparts⟩ := hdecode hrep.fragments (hrep.paddings pads hdraws)
    have hreceived := (received_eq_self hmetadata).mpr
      ⟨hrep.typeTag msg found hmsg hfound, hrep.creditBytes, hrep.payloadByteCount,
        hrep.responseByteCount, hrep.responseChunkIndex⟩
    rw [hreceived] at hparts
    exact ⟨parts, hparts⟩

variable {encoding : ProfileEncoding}

theorem codecSpecFromProfile_of_valid {p : Profile} (h : validate encoding p = .ok ()) :
    codecSpecFromProfile encoding p = .ok (profileSpec p) := by
  rw [codecSpecFromProfile, h]

/-- Encoding with a profile is encoding with its specification, after two checks. -/
theorem encodeOperation_eq_ok {p : Profile} :
    encodeOperation source encoding p op seed = .ok frames ↔
      validate encoding p = .ok () ∧ validateProxyOperation p op = .ok () ∧
        encodeOperationWithSpec source (profileSpec p) op seed = .ok frames := by
  unfold encodeOperation
  cases hvalidate : validate encoding p with
  | error err => simp
  | ok _ =>
    simp only [codecSpecFromProfile_of_valid hvalidate, ok_bind, check_ok_iff, true_and]

/-- When a profile or a live program encodes an operation, decoding the frames gives the
operation back exactly when it is representable. -/
theorem legacy_round_trip_iff (encoding : ProfileEncoding) (op : Operation) (seed : Int64)
    (frames : List (List UInt8)) :
    (∀ p, encodeOperation source encoding p op seed = .ok frames →
      ((∃ parts, decodeFrames encoding p frames = .ok (op, parts)) ↔
        Representable source (profileSpec p) op seed)) ∧
    (∀ program spec, codecSpecFromLiveProgram program = .ok spec →
      encodeLiveOperation source program op seed = .ok frames →
      ((∃ parts, decodeLiveFrames program frames = .ok (op, parts)) ↔
        Representable source spec op seed)) := by
  constructor
  · intro p h
    obtain ⟨hvalid, -, h⟩ := encodeOperation_eq_ok.mp h
    have hspec := codecSpecFromProfile_of_valid hvalid
    simp only [decodeFrames, hspec]
    exact decode_encode_iff (validSpec_of_profile hspec) h
  · intro program spec hspec h
    obtain ⟨data, padding, hlive⟩ := liveSpec_of_program hspec
    rw [encodeLiveOperation, hspec, ok_bind] at h
    simp only [decodeLiveFrames_eq hspec]
    exact decode_encode_iff hlive.toValidSpec h

/-! ## A round trip and a narrowed field -/

/-- A small operation of the sample profile and the sample program. -/
def sampleOperation : Operation :=
  { semantic := .known .data
    streamID := 300
    sequence := 7
    creditBytes := 9
    reason := asciiBytes "r"
    payload := [1, 2, 3] }

theorem representable_sample {pad : List UInt8}
    (hone : (spec.fragmentSizes 3).length = 1) (hpad : pad.length < 2 ^ 16)
    (hdraws : (newEngine zeroSource spec.padding 1).draws 1 = .ok [pad])
    (hmsg : spec.messageBySemantic (.known .data) = some msg)
    (htag : spec.messageByTag msg.typeTag = some msg) (hdata : msg.semantic = .known .data) :
    Representable zeroSource spec sampleOperation 1 := by
  have hsizes : (spec.fragmentSizes sampleOperation.payload.length).length = 1 := hone
  refine ⟨by decide, by decide, by decide, by decide, by rw [hsizes]; decide, ?_, ?_⟩
  · intro pads hpads
    rw [hsizes, hdraws] at hpads
    obtain ⟨⟩ := hpads
    simpa using hpad
  · intro other found hother hfound
    obtain ⟨⟩ := hmsg.symm.trans hother
    obtain ⟨⟩ := htag.symm.trans hfound
    exact hdata

theorem encodeOperation_sample : ∃ frames,
    encodeOperation zeroSource plainEncoding sampleProfile sampleOperation 1 = .ok frames ∧
      Representable zeroSource (profileSpec sampleProfile) sampleOperation 1 := by
  obtain ⟨frames, hencode⟩ := exists_ok_of_isSome
    (encodeOperationWithSpec zeroSource (profileSpec sampleProfile) sampleOperation 1)
    (by decide +kernel)
  exact ⟨frames, encodeOperation_eq_ok.mpr ⟨validate_sampleProfile, rfl, hencode⟩,
    @representable_sample _ ⟨.known .data, [98], [98]⟩ [] (by decide +kernel) (by decide)
      (by decide +kernel) (by decide +kernel) (by decide +kernel) rfl⟩

/-- The sample operation survives both codecs. -/
theorem legacy_round_trip_iff_sample :
    (∃ frames parts,
      encodeOperation zeroSource plainEncoding sampleProfile sampleOperation 1 = .ok frames ∧
      decodeFrames plainEncoding sampleProfile frames = .ok (sampleOperation, parts)) ∧
    ∃ frames parts,
      encodeLiveOperation zeroSource sampleProgram sampleOperation 1 = .ok frames ∧
      decodeLiveFrames sampleProgram frames = .ok (sampleOperation, parts) := by
  constructor
  · obtain ⟨frames, hframes, hsample⟩ := encodeOperation_sample
    obtain ⟨parts, hparts⟩ :=
      ((legacy_round_trip_iff plainEncoding sampleOperation 1 frames).1 _ hframes).mpr hsample
    exact ⟨frames, parts, hframes, hparts⟩
  · obtain ⟨frames, hframes⟩ : ∃ frames,
        encodeLiveOperation zeroSource sampleProgram sampleOperation 1 = .ok frames := by
      rw [encodeLiveOperation, codecSpecFromLiveProgram_sampleProgram, ok_bind]
      exact exists_ok_of_isSome _ (by decide +kernel)
    obtain ⟨parts, hparts⟩ :=
      ((legacy_round_trip_iff plainEncoding sampleOperation 1 frames).2 sampleProgram _
        codecSpecFromLiveProgram_sampleProgram hframes).mpr
        (@representable_sample _ ⟨.known .data, asciiBytes "d", [1]⟩ [0, 0] (by decide +kernel)
          (by decide) (by decide +kernel) (by decide +kernel) (by decide +kernel) rfl)
    exact ⟨frames, parts, hframes, hparts⟩

/-- A window update of `2 ^ 32` bytes. -/
def wideCredit : Operation :=
  { semantic := .known .windowUpdate, streamID := 300, creditBytes := 2 ^ 32 }

def wideCreditFrame : List UInt8 :=
  [63, 1, 101, 0, 0, 0, 0, 1, 0, 0, 2, 172, 2] ++ replicate 51 0

theorem encodeOperation_wideCredit :
    encodeOperation zeroSource plainEncoding sampleProfile wideCredit 1 = .ok [wideCreditFrame] :=
  encodeOperation_eq_ok.mpr ⟨validate_sampleProfile, rfl, by decide +kernel⟩

/-- It is encoded without an error and arrives as a window update of no bytes. -/
theorem legacy_round_trip_wideCredit :
    ∃ frames, encodeOperation zeroSource plainEncoding sampleProfile wideCredit 1 =
        .ok frames ∧
      (∃ parts, decodeFrames plainEncoding sampleProfile frames =
        .ok ({ wideCredit with creditBytes := 0 }, parts)) ∧
      ¬ ∃ parts, decodeFrames plainEncoding sampleProfile frames = .ok (wideCredit, parts) := by
  have hdecode : decodeFramesWithSpec (profileSpec sampleProfile) [wideCreditFrame] =
      .ok ({ wideCredit with creditBytes := 0 },
        [⟨{ wideCredit with creditBytes := 0 }, [101], 64, 0, 0, 0, 1⟩]) := by
    decide +kernel
  have hspec := codecSpecFromProfile_of_valid validate_sampleProfile
  refine ⟨_, encodeOperation_wideCredit, ?_⟩
  simp only [decodeFrames, hspec]
  refine ⟨⟨_, rfl⟩, ?_⟩
  rintro ⟨parts, hparts⟩
  have hcredit := congrArg Operation.creditBytes (Prod.mk.inj (Except.ok.inj hparts)).1
  exact absurd hcredit (by decide)

end Kurdistan.Framing
