import Kurdistan.Compiler.Compile
import Kurdistan.Framing.MessageTable
import Kurdistan.Protocol.ProgramCanonical

/-!
# Compiled framing

A compiled program encodes data and padding operations as its profile does. The
decoders agree on the frames when the type tag of the operation leads to its message in
the table of the profile. The compiler only compares the tags for data and padding with
each other, so another message of the profile may come first.
-/

namespace Kurdistan.Compiler

open Support Security Protocol Framing List

variable {source : RandSource}

/-! ## The specification of a compiled program -/

/-- The entry of a message in the table of its profile. -/
def tableEntry (profile : Profile) (message : MessageSymbol) : CodecMessage :=
  ⟨message.semantic, message.wireSymbol, legacyTypeTagFromProfile profile message⟩

variable {message : MessageSymbol} {profile : Profile}

/-- The two derivations of a tag agree on the messages of a profile. -/
theorem legacyTypeTag_eq (hmem : message ∈ profile.messages) :
    legacyTypeTag profile message = legacyTypeTagFromProfile profile message := by
  have hindex : (profile.messages.findIdx? fun candidate =>
      candidate.wireSymbol = message.wireSymbol).isSome := by
    rw [findIdx?_isSome]
    exact any_eq_true.mpr ⟨message, hmem, by simp⟩
  obtain ⟨index, hindex⟩ := Option.isSome_iff_exists.mp hindex
  grind [legacyTypeTag, legacyTypeTagFromProfile]

variable {semantic : Semantic}

theorem messageBySemantic_profileSpec (h : messageBySemantic profile semantic = some message) :
    (profileSpec profile).messageBySemantic (.known semantic) =
      some (tableEntry profile message) := by
  rw [CodecSpec.messageBySemantic, profileSpec, find?_map]
  exact congrArg (Option.map (tableEntry profile)) h

section Compiled

variable {p : Primitives} {encoding : ProfileEncoding} {cbor : ProgramCBOR}
  {input : InputV1} {profile : Profile} {sourceHash : FixedBytes 32}
  {effective : SealedPolicy} {data padding : MessageSymbol}
  (h : Compilation p encoding cbor input profile sourceHash effective data padding)

include h

theorem Compilation.dataSemantic : data.semantic = .known .data := by
  simpa using find?_some h.dataFound

theorem Compilation.paddingSemantic : padding.semantic = .known .padding := by
  simpa using find?_some h.paddingFound

/-- The specification of the program is the one of the profile with two messages. -/
theorem Compilation.codecSpec :
    codecSpecFromLiveProgram (projectProgram profile sourceHash data padding effective) =
      .ok ((profileSpec profile).withMessages
        [tableEntry profile data, tableEntry profile padding]) := by
  have hdata := legacyTypeTag_eq (mem_of_find?_eq_some h.dataFound)
  have hpadding := legacyTypeTag_eq (mem_of_find?_eq_some h.paddingFound)
  rw [codecSpecFromLiveProgram, h.sealed.valid]
  simp only [projectProgram, hdata, hpadding]
  rfl

theorem Compilation.messageBySemantic (hsemantic : semantic = .data ∨ semantic = .padding) :
    ∃ message, Compiler.messageBySemantic profile semantic = some message ∧
      ((profileSpec profile).withMessages
        [tableEntry profile data, tableEntry profile padding]).messageBySemantic
          (.known semantic) = some (tableEntry profile message) := by
  have hdata : (tableEntry profile data).semantic = .known .data := h.dataSemantic
  have hpadding : (tableEntry profile padding).semantic = .known .padding := h.paddingSemantic
  rcases hsemantic with rfl | rfl
  · refine ⟨data, h.dataFound, ?_⟩
    simp [CodecSpec.withMessages, CodecSpec.messageBySemantic, hdata]
  · refine ⟨padding, h.paddingFound, ?_⟩
    simp [CodecSpec.withMessages, CodecSpec.messageBySemantic, hdata, hpadding]

/-- The compiled tags are distinct, so each leads to its own message. -/
theorem Compilation.messageByTag
    {semantic : Semantic} (hsemantic : semantic = .data ∨ semantic = .padding)
    {message : MessageSymbol}
    (hmessage : Compiler.messageBySemantic profile semantic = some message) :
    ((profileSpec profile).withMessages
        [tableEntry profile data, tableEntry profile padding]).messageByTag
          (legacyTypeTagFromProfile profile message) = some (tableEntry profile message) := by
  have hdistinct : (tableEntry profile data).typeTag ≠ (tableEntry profile padding).typeTag := by
    have htags := h.sealed.tags
    simp only [projectProgram] at htags
    rwa [legacyTypeTag_eq (mem_of_find?_eq_some h.dataFound),
      legacyTypeTag_eq (mem_of_find?_eq_some h.paddingFound)] at htags
  rcases hsemantic with rfl | rfl
  · obtain ⟨⟩ := h.dataFound.symm.trans hmessage
    simp [CodecSpec.withMessages, CodecSpec.messageByTag, tableEntry]
  · obtain ⟨⟩ := h.paddingFound.symm.trans hmessage
    have hskip : legacyTypeTagFromProfile profile data ≠
        legacyTypeTagFromProfile profile padding := hdistinct
    simp [CodecSpec.withMessages, CodecSpec.messageByTag, tableEntry, hskip]

end Compiled

/-! ## The owner of a tag -/

/-- The first message of the profile which has the tag of a message. -/
def tagOwner (profile : Profile) (message : MessageSymbol) : Option MessageSymbol :=
  profile.messages.find? fun candidate =>
    legacyTypeTagFromProfile profile candidate = legacyTypeTagFromProfile profile message

/-- The tag of a semantic leads back to it in the table of the profile: no message of
another semantic which is listed before has the same tag. -/
def LeadsBack (profile : Profile) (semantic : Semantic) : Prop :=
  ∀ message owner, messageBySemantic profile semantic = some message →
    tagOwner profile message = some owner → owner.semantic = .known semantic

theorem messageByTag_profileSpec {owner : MessageSymbol}
    (h : tagOwner profile message = some owner) :
    (profileSpec profile).messageByTag (legacyTypeTagFromProfile profile message) =
      some (tableEntry profile owner) := by
  rw [CodecSpec.messageByTag, profileSpec, find?_map]
  exact congrArg (Option.map (tableEntry profile)) h

theorem exists_tagOwner (hmem : message ∈ profile.messages)
    : ∃ owner, tagOwner profile message = some owner := by
  apply Option.isSome_iff_exists.mp
  rw [tagOwner, find?_isSome]
  exact ⟨message, hmem, by simp⟩

/-! ## Parity -/

/-- The proxy checks concern neither data nor padding. -/
theorem validateProxyOperation_eq {op : Operation}
    (hop : op.semantic = .known semantic) (hsemantic : semantic = .data ∨ semantic = .padding) :
    validateProxyOperation profile op = .ok () := by
  rcases hsemantic with rfl | rfl <;> rw [validateProxyOperation, hop]

/-- The program which a profile compiles to encodes every data and padding operation to the
frames, or the error, of the profile. On these frames the two decoders give the same result
exactly when the tag leads back to the semantic in the table of the profile, or the sections
of the frames cannot be read. They can be read if all counters fit their fields. -/
theorem compiled_framing_parity (p : Primitives) (encoding : ProfileEncoding)
    (cbor : ProgramCBOR) (input : InputV1) (profile : Profile) (program : ProgramV1)
    (hprofile : input.profile = some profile)
    (hcompile : compileV1 p encoding cbor input = .ok program)
    (op : Operation) (semantic : Semantic) (hop : op.semantic = .known semantic)
    (hsemantic : semantic = .data ∨ semantic = .padding) (seed : Int64) :
    encodeLiveOperation source program op seed =
        encodeOperation source encoding profile op seed ∧
      ∀ frames, encodeOperation source encoding profile op seed = .ok frames →
        let sizes := (profileSpec profile).fragmentSizes op.payload.length
        (decodedOperation (decodeLiveFrames program frames) =
            decodedOperation (decodeFrames encoding profile frames) ↔
          LeadsBack profile semantic ∨ ¬ Readable source (profileSpec profile) op seed) ∧
        (Readable source (profileSpec profile) op seed → sizes.length < 2 ^ 16) ∧
        (sizes.length < 2 ^ 16 → (∀ pads, (newEngine source profile.padding seed).draws
            sizes.length = .ok pads → ∀ pad ∈ pads, pad.length < 2 ^ 16) →
          Readable source (profileSpec profile) op seed) := by
  obtain ⟨profile', sourceHash, effective, data, padding, h, rfl⟩ := compileV1_eq_ok.mp hcompile
  obtain ⟨⟩ := hprofile.symm.trans h.given
  obtain ⟨message, hmessage, hlive⟩ := h.messageBySemantic hsemantic
  obtain ⟨owner, howner⟩ := exists_tagOwner (mem_of_find?_eq_some hmessage)
  have hlegacy := messageBySemantic_profileSpec hmessage
  rw [← hop] at hlive hlegacy
  have hprofileSpec := codecSpecFromProfile_of_valid h.valid
  have hspec := h.codecSpec
  have hencode : encodeLiveOperation source
      (projectProgram profile sourceHash data padding effective) op seed =
        encodeOperation source encoding profile op seed := by
    rw [encodeLiveOperation, hspec, ok_bind,
      encodeOperationWithSpec_withMessages (hlive.trans hlegacy.symm)]
    simp only [encodeOperation, h.valid, validateProxyOperation_eq hop hsemantic, ok_bind,
      hprofileSpec]
  refine ⟨hencode, ?_⟩
  intro frames hframes
  obtain ⟨-, -, hframes⟩ := encodeOperation_eq_ok.mp hframes
  have hvalid := validSpec_of_profile hprofileSpec
  refine ⟨?_, Readable.fragments, readable_of_small hvalid hframes⟩
  obtain ⟨-, msg, stream, pads, hmsg, hstream, -, hdraws, hfits, rfl⟩ :=
    encodeOperationWithSpec_eq_ok.mp hframes
  obtain ⟨⟩ := hlegacy.symm.trans hmsg
  obtain ⟨live, spare, hliveSpec⟩ := liveSpec_of_program hspec
  have hdecode := decodedOperation_eq_iff hvalid hstream (messageByTag_profileSpec howner) hfits
    hliveSpec.toValidSpec (h.messageByTag hsemantic hmessage)
  have hback : LeadsBack profile semantic ↔ owner.semantic = .known semantic := by
    constructor
    · intro hleads
      exact hleads message owner hmessage howner
    · intro heq message' owner' hmessage' howner'
      obtain ⟨⟩ := hmessage.symm.trans hmessage'
      obtain ⟨⟩ := howner.symm.trans howner'
      exact heq
  have htarget : (tableEntry profile message).semantic = .known semantic := by
    simpa [tableEntry] using find?_some hmessage
  rw [hback, readable_iff hmsg hstream hdraws, decodeLiveFrames_eq hspec, decodeFrames,
    hprofileSpec, ok_bind, ← htarget]
  exact hdecode

/-! ## A tag with two owners -/

/-- `crc32` does not tell the wire symbols `nidmovh` and `bubanxn` apart, whatever stands
before them. -/
def collidingSymbol : Semantic → List UInt8 → List UInt8
  | .openStream, _ => [110, 105, 100, 109, 111, 118, 104]
  | .data, _ => [98, 117, 98, 97, 110, 120, 110]
  | _, symbol => symbol

/-- The sample encoding, with a stand-in for the marshalled profile. -/
def hashedEncoding : ProfileEncoding :=
  { plainEncoding with marshalProfile := fun _ => .ok [1] }

def sourceDigest : FixedBytes 32 := sha256 [1]

/-- The sample profile under an identifier which its program does not tell, with tags derived
from its state, one of them used twice. -/
def collidingProfile : Profile :=
  { sampleProfile with
    id := asciiBytes "zzvalidate-id"
    generationHash := hexEncode sourceDigest.toList
    messages := relaySemantics.zipIdx.map fun entry =>
      ⟨.known entry.1, collidingSymbol entry.1 [UInt8.ofNat (97 + entry.2)],
        "bidirectional", 0, 4096⟩
    frameGrammar := { sampleProfile.frameGrammar with
      typeMode := .known .derivedFromState } }

theorem generationHash_ne_empty : collidingProfile.generationHash ≠ "" :=
  hexEncode_ne_empty (ne_nil_of_length_pos (by rw [List.Vector.toList_length]; omega))

theorem canonicalHash_collidingProfile :
    canonicalHash hashedEncoding collidingProfile = .ok collidingProfile.generationHash :=
  rfl

/-- Of its primitives the compiler uses the digest of a policy only, so any will do. -/
def stubPrimitives : Primitives where
  hash _ := fixedBytes 32 []
  publicKey _ := fixedBytes 32 []
  sign _ _ := fixedBytes 64 []
  verify _ _ _ := false
  x25519 _ point := point
  hkdfExtract _ _ := none
  hkdfExpand _ _ _ := none
  hmac _ _ := fixedBytes 32 []
  marshalPolicy _ := []
  marshalCapabilities _ := []
  marshalModeBinding _ := []

def collidingInput : InputV1 :=
  ⟨some collidingProfile, ["multi_stream"], ["multi_stream"], ["multi_stream"]⟩

def collidingPolicy : SealedPolicy :=
  { effectivePolicy collidingProfile collidingProfile.generationHash ["multi_stream"]
      ["multi_stream"] ["multi_stream"] with
    validationHash := fixedBytes 32 [] }

def collidingMessage (semantic : Semantic) (symbol : List UInt8) : MessageSymbol :=
  ⟨.known semantic, collidingSymbol semantic symbol, "bidirectional", 0, 4096⟩

def collidingProgram : ProgramV1 :=
  projectProgram collidingProfile sourceDigest (collidingMessage .data [])
    (collidingMessage .padding [104]) collidingPolicy

theorem compilation_colliding :
    Compilation stubPrimitives hashedEncoding (programCBOR (Cbor.reference strictMode))
      collidingInput collidingProfile sourceDigest collidingPolicy (collidingMessage .data [])
      (collidingMessage .padding [104]) := by
  have hhash : validateGenerationHash hashedEncoding collidingProfile = .ok () := by
    rw [validateGenerationHash, if_neg generationHash_ne_empty, canonicalHash_collidingProfile,
      ok_bind, ensure_of_pos rfl]
  have hvalid : validate hashedEncoding collidingProfile = .ok () := by
    simp only [validate, check_ok_iff]
    refine ⟨?_, ?_, ?_, ?_, ?_, hhash, ?_, ?_, ?_, ?_, ?_, ?_, ?_, ?_,
      validateWireShapePolicy_sample, ?_, ?_, ?_, ?_, ?_, ?_⟩
    all_goals decide +kernel
  have hcanonical : canonicalEffectiveCapabilities ["multi_stream"] = .ok ["multi_stream"] := by
    decide +kernel
  have haccepted : validateEffectiveSecurityPolicy stubPrimitives collidingPolicy = .ok () := by
    decide +kernel
  have hprogram : validateV1 collidingProgram = .ok () := by
    refine validateV1_eq_ok.mpr ⟨⟨rfl, rfl, ?_, ?_⟩, rfl, ?_, ?_, ?_, ?_, ?_, ?_, ?_, ?_⟩
    all_goals decide +kernel
  have hlib := Cbor.correct_reference strictMode
  have hgo : collidingProgram.IsGoValue :=
    ⟨by decide, by decide, 0, by decide, by decide +kernel⟩
  have hencode := (encodeV1_programCBOR hlib hgo).mpr ⟨hprogram, rfl, by decide +kernel⟩
  have htexts : collidingProgram.HasUTF8Texts := by
    intro text htext
    revert text htext
    decide +kernel
  obtain ⟨hcore, hfields, -⟩ := decodeV1_eq_ok.mp
    ((decodeV1_programCBOR hlib hgo).mpr ⟨hencode, htexts⟩)
  have hsealed : SealsTo (programCBOR (Cbor.reference strictMode)) collidingProfile.id
      collidingProgram := ⟨by decide +kernel, _, hencode, hcore, hfields, by decide +kernel⟩
  exact {
    given := rfl
    valid := hvalid
    hashed := generationHash_ne_empty
    canonical := canonicalHash_collidingProfile
    source := by decide +kernel
    built := buildEffectiveSecurityPolicy_of_valid hvalid hcanonical hcanonical hcanonical
      (by decide) (by decide) canonicalHash_collidingProfile rfl haccepted rfl
    accepted := haccepted
    dataFound := by decide +kernel
    paddingFound := by decide +kernel
    once := by decide +kernel
    safe := by decide +kernel
    sealed := hsealed }

theorem compileV1_colliding :
    compileV1 stubPrimitives hashedEncoding (programCBOR (Cbor.reference strictMode))
      collidingInput = .ok collidingProgram :=
  compileV1_eq_ok.mpr ⟨_, _, _, _, _, compilation_colliding, rfl⟩

/-- The frame of the sample operation under a type tag. -/
def taggedFrame (tag : List UInt8) : List UInt8 :=
  [70, 4] ++ tag ++ [0, 0, 0, 0, 1, 0, 0, 2, 172, 2, 0, 0, 0, 0, 0, 0, 0, 7] ++
    replicate 11 0 ++ [9] ++ replicate 21 0 ++ [1, 114] ++ replicate 9 0 ++ [1, 2, 3]

/-- The tag for padding has one owner, so program and profile agree on it. -/
theorem compiled_framing_parity_padding :
    ∃ frames, encodeLiveOperation zeroSource collidingProgram
        { sampleOperation with semantic := .known .padding } 1 = .ok frames ∧
      decodedOperation (decodeLiveFrames collidingProgram frames) =
        decodedOperation (decodeFrames hashedEncoding collidingProfile frames) := by
  obtain ⟨hencode, hdecode⟩ := @compiled_framing_parity zeroSource stubPrimitives
    hashedEncoding (programCBOR (Cbor.reference strictMode)) collidingInput collidingProfile
    collidingProgram rfl compileV1_colliding
    { sampleOperation with semantic := .known .padding } .padding rfl (.inr rfl) 1
  have hframes : encodeOperationWithSpec zeroSource (profileSpec collidingProfile)
      { sampleOperation with semantic := .known .padding } 1 =
        .ok [taggedFrame [156, 208, 199, 252]] := by
    decide +kernel
  have hlegacy := (@encodeOperation_eq_ok zeroSource _ _ 1 hashedEncoding collidingProfile).mpr
    ⟨compilation_colliding.valid, rfl, hframes⟩
  refine ⟨_, hencode.trans hlegacy, (hdecode _ hlegacy).1.mpr (.inl ?_)⟩
  intro message owner hmessage howner
  obtain rfl := Option.some.inj (compilation_colliding.paddingFound.symm.trans hmessage)
  have htag : tagOwner collidingProfile (collidingMessage .padding [104]) =
      some (collidingMessage .padding [104]) := by
    decide +kernel
  exact congrArg MessageSymbol.semantic (Option.some.inj (howner.symm.trans htag))

/-- A data operation, which the program decodes as it was encoded, is for the profile the
opening of a stream. -/
theorem compiled_framing_parity_colliding :
    compileV1 stubPrimitives hashedEncoding (programCBOR (Cbor.reference strictMode))
        collidingInput = .ok collidingProgram ∧
      ∃ frames,
        encodeLiveOperation zeroSource collidingProgram sampleOperation 1 = .ok frames ∧
        encodeOperation zeroSource hashedEncoding collidingProfile sampleOperation 1 =
          .ok frames ∧
        decodedOperation (decodeLiveFrames collidingProgram frames) = some sampleOperation ∧
        decodedOperation (decodeFrames hashedEncoding collidingProfile frames) =
          some { sampleOperation with semantic := .known .openStream } := by
  have hspec := codecSpecFromProfile_of_valid compilation_colliding.valid
  have hlive := compilation_colliding.codecSpec
  have hencode : encodeOperationWithSpec zeroSource (profileSpec collidingProfile)
      sampleOperation 1 = .ok [taggedFrame [202, 168, 154, 251]] := by
    decide +kernel
  refine ⟨compileV1_colliding, [taggedFrame [202, 168, 154, 251]], ?_,
    encodeOperation_eq_ok.mpr ⟨compilation_colliding.valid, rfl, hencode⟩, ?_, ?_⟩
  · rw [encodeLiveOperation, collidingProgram, hlive, ok_bind]
    decide +kernel
  · rw [collidingProgram, decodeLiveFrames_eq hlive]
    decide +kernel
  · rw [decodeFrames, hspec, ok_bind]
    decide +kernel

end Kurdistan.Compiler
