import Kurdistan.Framing.RoundTrip

/-!
# Specifications with different message tables

The encoder asks the message table for the semantic of its operation only, and the
decoder for the type tags of its frames only. So a specification with another table
encodes an operation to the same frames when both tables have the same message for its
semantic, and decodes these frames to the same operation up to the semantic which its
table gives to the tag.
-/

namespace Kurdistan.Framing

open Support Protocol List

variable {source : RandSource}

/-- The specification with another message table. -/
def CodecSpec.withMessages (spec : CodecSpec) (messages : List CodecMessage) : CodecSpec :=
  { spec with messages := messages }

/-! ## Encoding -/

section Encoding

variable {spec : CodecSpec} {messages : List CodecMessage} {op : Operation}

theorem encodeFrameWithSpec_withMessages {pad : List UInt8} {fragIndex fragCount : ℕ}
    (h : (spec.withMessages messages).messageBySemantic op.semantic =
      spec.messageBySemantic op.semantic) :
    encodeFrameWithSpec (spec.withMessages messages) op pad fragIndex fragCount =
      encodeFrameWithSpec spec op pad fragIndex fragCount := by
  rw [encodeFrameWithSpec, encodeFrameWithSpec, h]
  rfl

theorem encodeFragments_withMessages {count idx offset : ℕ} {sizes : List ℕ}
    {engine : Engine source} (h : (spec.withMessages messages).messageBySemantic op.semantic =
      spec.messageBySemantic op.semantic) :
    encodeFragments (spec.withMessages messages) op count idx offset sizes engine =
      encodeFragments spec op count idx offset sizes engine := by
  induction sizes generalizing idx offset engine with
  | nil => rfl
  | cons size sizes ih =>
    simp only [encodeFragments, ih]
    congr 1
    funext drawn
    have hframe := @encodeFrameWithSpec_withMessages spec messages
      { op with payload := (op.payload.drop offset).take size } drawn.1 idx count h
    rw [hframe]

/-- Tables which agree on the semantic of an operation encode it alike. -/
theorem encodeOperationWithSpec_withMessages {seed : Int64}
    (h : (spec.withMessages messages).messageBySemantic op.semantic =
      spec.messageBySemantic op.semantic) :
    encodeOperationWithSpec source (spec.withMessages messages) op seed =
      encodeOperationWithSpec source spec op seed := by
  rw [encodeOperationWithSpec, encodeOperationWithSpec, h]
  simp only [encodeFragments_withMessages h]
  rfl

end Encoding

/-! ## Decoding -/

/-- The operation a decoder returns, if it returns one. -/
def decodedOperation (result : Except FramingError (Operation × List DecodedFrame)) :
    Option Operation :=
  result.toOption.map Prod.fst

theorem decodedOperation_eq_some {result : Except FramingError (Operation × List DecodedFrame)}
    {op : Operation} : decodedOperation result = some op ↔ ∃ parts, result = .ok (op, parts) := by
  cases result with
  | error err => simp [decodedOperation, Except.toOption]
  | ok value =>
    obtain ⟨found, parts⟩ := value
    simp [decodedOperation, Except.toOption]

/-- The view under another message. -/
def FrameView.retag (view : FrameView) (found : CodecMessage) : FrameView :=
  { view with msg := found }

variable {spec : CodecSpec}

/-- The message reaches the view of a block and nothing else. -/
theorem parseBlock_retag {f : FrameParts} {found other : CodecMessage}
    {streamID : UInt32} {view : FrameView} (h : parseBlock spec f found streamID = .ok view) :
    parseBlock spec f other streamID = .ok (view.retag other) := by
  simp only [parseBlock, bind_ok_iff] at h
  obtain ⟨_, hcount, _, hpad, parsed, hparsed, _, hpayload, h⟩ := h
  obtain ⟨⟩ := h
  rw [parseBlock, hcount, ok_bind, hpad, ok_bind, hparsed, ok_bind, hpayload, ok_bind]
  rfl

theorem FrameFits.withMessages {f : FrameParts} (h : FrameFits spec f)
    (messages : List CodecMessage) : FrameFits (spec.withMessages messages) f :=
  ⟨h.tag, h.body, h.wrapper⟩

theorem FragmentSet.retag {expected : FrameView} {views : List FrameView}
    (h : FragmentSet expected views) (found : CodecMessage) :
    FragmentSet (expected.retag found) (views.map (·.retag found)) := by
  intro entry hentry
  rw [zipIdx_map] at hentry
  obtain ⟨⟨view, i⟩, hmem, rfl⟩ := mem_map.mp hentry
  have hview := h _ hmem
  refine ⟨?_, hview.fragIndex, rfl, hview.stream, rfl, hview.metadata⟩
  rw [length_map]
  exact hview.fragCount

theorem rebuilt_retag (expected : FrameView) (views : List FrameView) (found : CodecMessage) :
    rebuilt (expected.retag found) (views.map (·.retag found)) =
      { rebuilt expected views with semantic := found.semantic } := by
  have hpayload : joinedPayload (views.map (·.retag found)) = joinedPayload views := by
    rw [joinedPayload, flatMap_map]
    rfl
  simp only [rebuilt, hpayload]
  rfl

variable {op : Operation} {msg found : CodecMessage} {stream : List UInt8}
  {pads : List (List UInt8)}

/-- The sections of the fragments of an operation read back as `result`, if its tag leads to
the message `found`. No table is asked. -/
def SectionsRead (spec : CodecSpec) (msg : CodecMessage) (stream : List UInt8) (op : Operation)
    (pads : List (List UInt8)) (found : CodecMessage) (result : Operation) : Prop :=
  ∃ expected rest, Forall₂ (fun f view => parseBlock spec f found op.streamID = .ok view)
      (spec.fragmentsOf msg stream op pads) (expected :: rest) ∧
    FragmentSet expected (expected :: rest) ∧ result = rebuilt expected (expected :: rest)

theorem SectionsRead.retag {result : Operation}
    (h : SectionsRead spec msg stream op pads found result) (other : CodecMessage) :
    SectionsRead spec msg stream op pads other { result with semantic := other.semantic } := by
  obtain ⟨expected, rest, hblocks, hset, rfl⟩ := h
  have hblocks' : Forall₂ (fun f view => parseBlock spec f other op.streamID = .ok view)
      (spec.fragmentsOf msg stream op pads) ((expected :: rest).map (·.retag other)) := by
    rw [forall₂_map_right_iff]
    exact hblocks.imp fun f view hview => parseBlock_retag hview
  exact ⟨_, _, hblocks', hset.retag other, (rebuilt_retag expected (expected :: rest) other).symm⟩

section Decoding

variable (hvalid : ValidSpec spec) (hstream : writeStreamID spec op.streamID = .ok stream)
  (hfound : spec.messageByTag msg.typeTag = some found)
  (hfits : ∀ f ∈ spec.fragmentsOf msg stream op pads, FrameFits spec f)

include hvalid hstream hfound hfits

/-- The decoder returns what the sections read back as. -/
theorem decodedOperation_framesOf {result : Operation} :
    decodedOperation (decodeFramesWithSpec spec (spec.framesOf msg stream op pads)) =
      some result ↔ SectionsRead spec msg stream op pads found result := by
  have hparses : ∀ views, ParsesTo spec (spec.framesOf msg stream op pads) views ↔
      Forall₂ (fun f view => parseBlock spec f found op.streamID = .ok view)
        (spec.fragmentsOf msg stream op pads) views := by
    intro views
    have hframe : ∀ f ∈ spec.fragmentsOf msg stream op pads,
        parseFrameView spec (f.frame spec) = parseBlock spec f found op.streamID := by
      intro f hf
      have hshape := fragmentShape_of_mem hf
      exact parseFrameView_of_fits hvalid (hshape.stream ▸ hstream) (hshape.msg ▸ hfound)
        (hfits f hf)
    rw [ParsesTo, CodecSpec.framesOf, forall₂_map_left_iff]
    constructor
    · intro h
      refine ((forall₂_and_left _ _).mpr ⟨fun f hf => hf, h⟩).imp ?_
      rintro f view ⟨hf, hview⟩
      rwa [hframe f hf] at hview
    · intro h
      refine ((forall₂_and_left _ _).mpr ⟨fun f hf => hf, h⟩).imp ?_
      rintro f view ⟨hf, hview⟩
      rwa [hframe f hf]
  rw [decodedOperation_eq_some]
  simp only [decodeFramesWithSpec_eq_ok, hparses, SectionsRead]
  constructor
  · rintro ⟨parts, expected, rest, hblocks, hset, hresult, -⟩
    exact ⟨expected, rest, hblocks, hset, hresult⟩
  · rintro ⟨expected, rest, hblocks, hset, hresult⟩
    exact ⟨_, expected, rest, hblocks, hset, hresult, rfl⟩

/-- Two specifications decode the frames of an operation to the same operation exactly when
their tables give its tag the same semantic, or its sections cannot be read. -/
theorem decodedOperation_eq_iff {messages : List CodecMessage} {other : CodecMessage}
    (hvalid' : ValidSpec (spec.withMessages messages))
    (hother : (spec.withMessages messages).messageByTag msg.typeTag = some other) :
    decodedOperation (decodeFramesWithSpec (spec.withMessages messages)
        (spec.framesOf msg stream op pads)) =
      decodedOperation (decodeFramesWithSpec spec (spec.framesOf msg stream op pads)) ↔
      found.semantic = other.semantic ∨
        ¬ ∃ result, SectionsRead spec msg stream op pads msg result := by
  have hdecode {result : Operation} :=
    @decodedOperation_framesOf spec op msg found stream pads hvalid hstream hfound hfits result
  have hdecode' {result : Operation} :=
    @decodedOperation_framesOf (spec.withMessages messages) op msg other stream pads hvalid' hstream
      hother (fun f hf => (hfits f hf).withMessages messages) result
  by_cases hreads : ∃ result, SectionsRead spec msg stream op pads msg result
  · obtain ⟨result, hresult⟩ := hreads
    have hleft : decodedOperation (decodeFramesWithSpec (spec.withMessages messages)
        (spec.framesOf msg stream op pads)) = some { result with semantic := other.semantic } :=
      hdecode'.mpr (hresult.retag other)
    rw [hdecode.mpr (hresult.retag found), hleft]
    constructor
    · intro hsame
      exact .inl (congrArg Operation.semantic (Option.some.inj hsame)).symm
    · rintro (hsemantic | hnone)
      · rw [hsemantic]
      · exact absurd ⟨result, hresult⟩ hnone
  · have hnone : ∀ decoded : Option Operation, (∀ result, decoded = some result →
        ∃ result, SectionsRead spec msg stream op pads msg result) → decoded = none := by
      intro decoded hdecoded
      rw [Option.eq_none_iff_forall_ne_some]
      exact fun result hresult => hreads (hdecoded result hresult)
    refine iff_of_true ?_ (.inr hreads)
    have hleft := hnone _ fun result hresult => ⟨_, (hdecode'.mp hresult).retag msg⟩
    have hright := hnone _ fun result hresult => ⟨_, (hdecode.mp hresult).retag msg⟩
    exact hleft.trans hright.symm

end Decoding

/-! ## Readable operations -/

/-- The sections of an operation, with the paddings drawn for its seed, can be read. -/
def Readable (source : RandSource) (spec : CodecSpec) (op : Operation) (seed : Int64) : Prop :=
  ∃ msg stream pads result, spec.messageBySemantic op.semantic = some msg ∧
    writeStreamID spec op.streamID = .ok stream ∧ (newEngine source spec.padding seed).draws
      (spec.fragmentSizes op.payload.length).length = .ok pads ∧
    SectionsRead spec msg stream op pads msg result

variable {seed : Int64}

theorem readable_iff (hmsg : spec.messageBySemantic op.semantic = some msg)
    (hstream : writeStreamID spec op.streamID = .ok stream)
    (hdraws : (newEngine source spec.padding seed).draws
      (spec.fragmentSizes op.payload.length).length = .ok pads) :
    Readable source spec op seed ↔ ∃ result, SectionsRead spec msg stream op pads msg result := by
  constructor
  · rintro ⟨msg', stream', pads', result, hmsg', hstream', hdraws', hreads⟩
    obtain ⟨⟩ := hmsg.symm.trans hmsg'
    obtain ⟨⟩ := hstream.symm.trans hstream'
    obtain ⟨⟩ := hdraws.symm.trans hdraws'
    exact ⟨result, hreads⟩
  · rintro ⟨result, hreads⟩
    exact ⟨msg, stream, pads, result, hmsg, hstream, hdraws, hreads⟩

/-- Counters which fit their fields are enough for reading. -/
theorem readable_of_small (hvalid : ValidSpec spec) {frames : List (List UInt8)}
    (h : encodeOperationWithSpec source spec op seed = .ok frames)
    (hcount : (spec.fragmentSizes op.payload.length).length < 2 ^ 16)
    (hsmall : ∀ pads, (newEngine source spec.padding seed).draws
        (spec.fragmentSizes op.payload.length).length = .ok pads →
      ∀ pad ∈ pads, pad.length < 2 ^ 16) : Readable source spec op seed := by
  obtain ⟨hpayload, msg, stream, pads, hmsg, hstream, hmetadata, hdraws, hfits, rfl⟩ :=
    encodeOperationWithSpec_eq_ok.mp h
  obtain ⟨found, hfound⟩ := exists_messageByTag hmsg
  have hdecode := decodeFramesWithSpec_framesOf hvalid hstream hmetadata hfound hpayload
    (draws_within hdraws).1 hfits hcount (hsmall pads hdraws)
  have hreads := (decodedOperation_framesOf hvalid hstream hfound hfits).mp
    (decodedOperation_eq_some.mpr hdecode)
  exact (readable_iff hmsg hstream hdraws).mpr ⟨_, hreads.retag msg⟩

/-- The number of fragments must fit its field. -/
theorem Readable.fragments (h : Readable source spec op seed) :
    (spec.fragmentSizes op.payload.length).length < 2 ^ 16 := by
  obtain ⟨msg, stream, pads, -, -, -, hdraws, expected, rest, hblocks, hset, -⟩ := h
  have hlength := (fragmentsOf_spec msg stream (draws_within hdraws).1).1
  have hcount := (hset (expected, 0) (by simp)).fragCount
  rw [← hlength, hblocks.length_eq, ← hcount]
  rcases forall₂_cons_right_iff.mp hblocks with ⟨f, fragments, hfirst, -, -⟩
  simp only [parseBlock, bind_ok_iff] at hfirst
  obtain ⟨_, -, _, -, parsed, -, _, -, hview⟩ := hfirst
  obtain ⟨⟩ := hview
  exact Nat.mod_lt _ (by norm_num)

end Kurdistan.Framing
