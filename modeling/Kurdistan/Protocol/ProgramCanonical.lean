import Kurdistan.Protocol.ProgramReadback

/-!
# Canonical live programs

The decoder of live programs accepts a byte string with a program exactly when the
program is valid and the byte string is its encoding, unless a text of the program
is not UTF-8: `encodeV1` writes such a program and no decoder takes it back. The
resource preflight accepts everything the decoder accepts.
-/

namespace Kurdistan.Protocol

open Support Support.Cbor Security List

variable {lib : Library} {p : ProgramV1}

/-! ## The two field decoders -/

theorem readsField_unmarshal (hlib : lib.Correct strictMode) (target : Target) :
    ReadsField lib.unmarshal target := fun _ _ hitem hvalue =>
  hlib.unmarshal_eq target hitem.encodable ⟨hitem.depth, hitem.admissible trivial⟩ hvalue

theorem reads_unmarshal (hlib : lib.Correct strictMode) : Reads lib lib.unmarshal where
  correct := hlib
  field target _ := readsField_unmarshal hlib target

/-- The texts of a list start with bytes of major type 3. -/
theorem all_majorType_of_mapM {items : List Item} {values : List String}
    (h : items.mapM Item.text? = some values) :
    (items.map Item.encode).all fun value => value.head?.any fun byte => majorType byte = 3 := by
  induction items generalizing values with
  | nil => rfl
  | cons item rest ih =>
    rw [mapM_cons] at h
    obtain ⟨value, hvalue, h⟩ := Option.bind_eq_some_iff.mp h
    obtain ⟨others, hothers, -⟩ := Option.bind_eq_some_iff.mp h
    obtain ⟨first, tail, hfirst, hmajor, -⟩ := item.encode_eq_cons
    cases item with
    | text bytes =>
      rw [map_cons, all_cons, hfirst, ih hothers]
      simp [hmajor, Item.major]
    | int _ | bytes _ | float _ | bool _ | null | array _ | map _ => cases hvalue

/-- A field of the expected kind passes the checks of the resource decoder. -/
theorem admitsResourceField_encode (hlib : lib.Correct strictMode) {item : Item}
    {target : Target} {value : target.Value} (htarget : target ∈ programTargets)
    (hitem : ReadableItem True 32 item) (h : item.as target = some value) {first : UInt8}
    (hmajor : majorType first = item.major)
    (hfloat : ∀ number, item = .float number → first = 0xf9 ∨ first = 0xfa ∨ first = 0xfb) :
    admitsResourceField lib target first item.encode = true := by
  cases target with
  | any | byteSlice | uint8 | uint16 | uint64 | bool | byteStrings | rawMap =>
    simp [programTargets] at htarget
  | byteString =>
    cases item with
    | bytes _ => simp [admitsResourceField, hmajor, Item.major]
    | int _ | text _ | float _ | bool _ | null | array _ | map _ => cases h
  | string =>
    cases item with
    | text _ => simp [admitsResourceField, hmajor, Item.major]
    | int _ | bytes _ | float _ | bool _ | null | array _ | map _ => cases h
  | uint32 =>
    cases item with
    | int number =>
      rw [Item.as] at h
      split_ifs at h with hrange
      simp [admitsResourceField, hmajor, Item.major, hrange.1]
    | text _ | bytes _ | float _ | bool _ | null | array _ | map _ => cases h
  | int =>
    cases item with
    | int number =>
      simp only [admitsResourceField, hmajor, Item.major, decide_eq_true_eq]
      split_ifs <;> omega
    | text _ | bytes _ | float _ | bool _ | null | array _ | map _ => cases h
  | float64 =>
    cases item with
    | float number => simpa [admitsResourceField] using hfloat number rfl
    | text _ | bytes _ | int _ | bool _ | null | array _ | map _ => cases h
  | rawMessages =>
    cases item with
    | array _ => simp [admitsResourceField, hmajor, Item.major]
    | text _ | bytes _ | int _ | float _ | bool _ | null | map _ => cases h
  | strings =>
    cases item with
    | array items =>
      have hraw := hlib.unmarshal_eq .rawMessages hitem.encodable
        ⟨hitem.depth, hitem.admissible trivial⟩ rfl
      simp only [admitsResourceField, hmajor, Item.major, hraw, Option.any_some,
        all_majorType_of_mapM h, and_self, decide_true]
    | text _ | bytes _ | int _ | float _ | bool _ | null | map _ => cases h

theorem reads_resource (hlib : lib.Correct strictMode) : Reads lib (decodeResourceFieldV1 lib) where
  correct := hlib
  field target htarget item value hitem hvalue := by
    obtain ⟨first, tail, hencode, hmajor, hfloat⟩ := item.encode_eq_cons
    have hadmits := admitsResourceField_encode hlib htarget hitem hvalue hmajor hfloat
    have hread := readsField_unmarshal hlib target item value hitem hvalue
    rw [hencode] at hadmits hread ⊢
    simp only [decodeResourceFieldV1, hadmits, if_true, hread]

/-! ## Decoded texts -/

variable {decode : FieldDecoder} {raw : List UInt8}

theorem isSome_of_decodeText {text : List UInt8} (h : decodeText decode raw = some text) :
    (textOfBytes text).isSome := by
  obtain ⟨value, -, rfl⟩ := Option.map_eq_some_iff.mp h
  simp

theorem isSome_of_decodeScheduler {scheduler : SchedulerV1}
    (h : decodeScheduler lib decode raw = some scheduler) :
    (textOfBytes scheduler.priorityMode).isSome := by
  iterate 5 obtain ⟨_, -, h⟩ := Option.bind_eq_some_iff.mp h
  obtain ⟨text, htext, h⟩ := Option.bind_eq_some_iff.mp h
  obtain ⟨⟩ := h
  exact isSome_of_decodeText htext

theorem isSome_of_decodeSecurityPolicy {policy : SecurityPolicyV1}
    (h : decodeSecurityPolicy lib decode raw = some policy) :
    (textOfBytes policy.securityVersion).isSome := by
  obtain ⟨fields, -, h⟩ := Option.bind_eq_some_iff.mp h
  obtain ⟨text, htext, h⟩ := Option.bind_eq_some_iff.mp h
  iterate 15 obtain ⟨_, -, h⟩ := Option.bind_eq_some_iff.mp h
  obtain ⟨⟩ := h
  exact isSome_of_decodeText htext

theorem hasUTF8Texts_of_decode
    (h : decodeProgramFieldsWithDecoderV1 lib decode raw = some p) : p.HasUTF8Texts := by
  obtain ⟨fields, -, h⟩ := Option.bind_eq_some_iff.mp h
  iterate 2 obtain ⟨_, -, h⟩ := Option.bind_eq_some_iff.mp h
  obtain ⟨version, hversion, h⟩ := Option.bind_eq_some_iff.mp h
  iterate 3 obtain ⟨_, -, h⟩ := Option.bind_eq_some_iff.mp h
  obtain ⟨scheduler, hscheduler, h⟩ := Option.bind_eq_some_iff.mp h
  iterate 2 obtain ⟨_, -, h⟩ := Option.bind_eq_some_iff.mp h
  obtain ⟨security, hsecurity, h⟩ := Option.bind_eq_some_iff.mp h
  obtain ⟨limits, -, h⟩ := Option.bind_eq_some_iff.mp h
  obtain ⟨⟩ := h
  obtain ⟨fields, -, hsecurity⟩ := Option.bind_eq_some_iff.mp hsecurity
  obtain ⟨compiler, hcompiler, hsecurity⟩ := Option.bind_eq_some_iff.mp hsecurity
  obtain ⟨runtime, hruntime, hsecurity⟩ := Option.bind_eq_some_iff.mp hsecurity
  iterate 3 obtain ⟨_, -, hsecurity⟩ := Option.bind_eq_some_iff.mp hsecurity
  obtain ⟨policy, hpolicy, hsecurity⟩ := Option.bind_eq_some_iff.mp hsecurity
  obtain ⟨⟩ := hsecurity
  simp only [ProgramV1.HasUTF8Texts, ProgramV1.freeTexts, forall_mem_cons,
    not_mem_nil, false_imp_iff, implies_true, and_true]
  exact ⟨isSome_of_decodeText hversion, isSome_of_decodeScheduler hscheduler,
    isSome_of_decodeText hcompiler, isSome_of_decodeText hruntime,
    isSome_of_decodeSecurityPolicy hpolicy⟩

/-! ## Encoder, decoder and preflight -/

/-- The bounds of the preflight are bounds of every valid program. -/
theorem preflight_bounds (hvalid : validateV1 p = .ok ()) :
    (p.frame.headerOrder.length = 4 ∧ p.frame.compiled.dataTypeTag ≠ [] ∧
      p.frame.compiled.dataTypeTag.length ≤ 255 ∧ p.frame.compiled.paddingTypeTag ≠ [] ∧
      p.frame.compiled.paddingTypeTag.length ≤ 255) ∧
    (∀ message ∈ p.messages, message.wireSymbol ≠ [] ∧ message.wireSymbol.length ≤ 96) ∧
    ∀ values ∈ [p.security.clientMandatoryCapabilities, p.security.relayMandatoryCapabilities,
      p.security.selectedCapabilities], values ≠ [] ∧ values.length ≤ 32 := by
  have hmessages := readableMessage_of_valid hvalid
  obtain ⟨-, -, -, hmodes, htags, -, -, -, hsecurity, -⟩ := Framing.validateV1_eq_ok.mp hvalid
  have horder := (headerOrder_of_valid hmodes).2
  simp only [validTypeTagsV1, decide_eq_true_eq] at htags
  simp only [validateSecurityV1, check_ok_iff, ensure_eq_ok] at hsecurity
  obtain ⟨-, ⟨hclient, hrelay, hselected⟩, -⟩ := hsecurity
  simp only [canonicalCapabilities, decide_eq_true_eq] at hclient hrelay hselected
  refine ⟨⟨horder, htags.1, htags.2.1, htags.2.2.1, htags.2.2.2.1⟩, fun message hmessage => ?_, ?_⟩
  · have hsafe := (hmessages message hmessage).wireSymbol
    simp only [isSafeWireSymbolV1, safeToken, decide_eq_true_eq] at hsafe
    exact ⟨hsafe.1, hsafe.2.1⟩
  · simp only [forall_mem_cons, not_mem_nil, false_imp_iff, implies_true, and_true]
    exact ⟨⟨hclient.1, hclient.2.1⟩, ⟨hrelay.1, hrelay.2.1⟩, hselected.1, hselected.2.1⟩

section Correct

variable {encoded : List UInt8} (hlib : lib.Correct strictMode) (hgo : p.IsGoValue)

include hlib hgo

theorem encodeV1_programCBOR :
    encodeV1 (programCBOR lib) p = .ok encoded ↔
      validateV1 p = .ok () ∧ encoded = (programMap p).encode ∧
        (programMap p).encode.length ≤ maxEncodedBytes := by
  rw [encodeV1_eq_ok]
  have hmarshal (hvalid : validateV1 p = .ok ()) := hlib.marshal_eq
    (program_back (reads_unmarshal hlib) hvalid hgo fun h : False => h.elim).readable.encodable
  constructor
  · rintro ⟨hvalid, hencode, -, hsize⟩
    obtain ⟨⟩ := (hmarshal hvalid).symm.trans hencode
    exact ⟨hvalid, rfl, hsize⟩
  · rintro ⟨hvalid, rfl, hsize⟩
    exact ⟨hvalid, hmarshal hvalid, encode_ne_nil _, hsize⟩

theorem decodeV1_programCBOR :
    decodeV1 (programCBOR lib) encoded = .ok p ↔
      encodeV1 (programCBOR lib) p = .ok encoded ∧ p.HasUTF8Texts := by
  rw [decodeV1_eq_ok]
  constructor
  · rintro ⟨-, hfields, hencode⟩
    refine ⟨hencode, ?_⟩
    simp only [programCBOR] at hfields
    split at hfields
    · cases hfields
    · rename_i hdecode
      obtain ⟨⟩ := hfields
      exact hasUTF8Texts_of_decode hdecode
  · rintro ⟨hencode, hutf8⟩
    obtain ⟨hvalid, rfl, -⟩ := (encodeV1_programCBOR hlib hgo).mp hencode
    have hback := program_back (reads_unmarshal hlib) hvalid hgo fun _ : True => hutf8
    have hreadable := hback.readable
    have hany := hlib.unmarshal_eq .any hreadable.encodable
      ⟨hreadable.depth.trans (by decide), hreadable.admissible trivial⟩ rfl
    have hfields := hback.back ⟨trivial, by decide⟩
    refine ⟨?_, ?_, hencode⟩
    · simp [programCBOR, validateCore, hany, hlib.marshal_eq hreadable.encodable]
    · simp only [programCBOR, hfields]

theorem preflightResourcesV1_of_decodeV1 (h : decodeV1 (programCBOR lib) encoded = .ok p) :
    preflightResourcesV1 lib encoded = .ok () := by
  obtain ⟨hencode, hutf8⟩ := (decodeV1_programCBOR hlib hgo).mp h
  obtain ⟨-, -, hnonempty, hsize⟩ := encodeV1_eq_ok.mp hencode
  obtain ⟨hvalid, rfl, -⟩ := (encodeV1_programCBOR hlib hgo).mp hencode
  have hfields := (program_back (reads_resource hlib) hvalid hgo fun _ : True => hutf8).back
    ⟨trivial, by decide⟩
  obtain ⟨hframe, hsymbols, hcapabilities⟩ := preflight_bounds hvalid
  refine check_ok_iff.mpr ⟨ensure_eq_ok.mpr ⟨hnonempty, hsize⟩, ?_⟩
  rw [hfields]
  exact check_ok_iff.mpr ⟨ensure_eq_ok.mpr hframe,
    check_ok_iff.mpr ⟨ensure_eq_ok.mpr hsymbols, ensure_eq_ok.mpr hcapabilities⟩⟩

end Correct

/-- For every correct library and every program of Go values: the decoder accepts
exactly the encodings of the program, if and only if the program is invalid, too
large, or has UTF-8 texts only; and the preflight accepts what the decoder accepts. -/
theorem live_program_canonical (lib : Library) (hlib : lib.Correct strictMode) (p : ProgramV1)
    (hgo : p.IsGoValue) :
    ((∀ encoded, decodeV1 (programCBOR lib) encoded = .ok p ↔
        validateV1 p = .ok () ∧ encodeV1 (programCBOR lib) p = .ok encoded) ↔
      (validateV1 p = .ok () → (programMap p).encode.length ≤ maxEncodedBytes →
        p.HasUTF8Texts)) ∧
    ∀ encoded, decodeV1 (programCBOR lib) encoded = .ok p →
      preflightResourcesV1 lib encoded = .ok () := by
  refine ⟨⟨fun h hvalid hsize => ?_, fun h encoded => ?_⟩,
    fun encoded => preflightResourcesV1_of_decodeV1 hlib hgo⟩
  · have hencode := (encodeV1_programCBOR hlib hgo).mpr ⟨hvalid, rfl, hsize⟩
    exact ((decodeV1_programCBOR hlib hgo).mp ((h _).mpr ⟨hvalid, hencode⟩)).2
  · rw [decodeV1_programCBOR hlib hgo]
    constructor
    · rintro ⟨hencode, -⟩
      exact ⟨((encodeV1_programCBOR hlib hgo).mp hencode).1, hencode⟩
    · rintro ⟨hvalid, hencode⟩
      obtain ⟨-, rfl, hsize⟩ := (encodeV1_programCBOR hlib hgo).mp hencode
      exact ⟨hencode, h hvalid hsize⟩

/-! ## Sample programs -/

theorem isGoValue_sampleProgram : sampleProgram.IsGoValue where
  texts := by decide
  maxSessionMillis := by decide
  probability := ⟨0x3ff0000000000000, by decide, by decide +kernel⟩

theorem hasUTF8Texts_sampleProgram : sampleProgram.HasUTF8Texts := by
  intro text htext
  revert text htext
  decide +kernel

/-- The sample program is read back from its encoding, which passes the preflight. -/
theorem live_program_canonical_sample :
    sampleProgram.IsGoValue ∧ (reference strictMode).Correct strictMode ∧
      ((∀ encoded, decodeV1 (programCBOR (reference strictMode)) encoded =
          .ok sampleProgram ↔ validateV1 sampleProgram = .ok () ∧
            encodeV1 (programCBOR (reference strictMode)) sampleProgram = .ok encoded) ∧
        ∀ encoded, decodeV1 (programCBOR (reference strictMode)) encoded =
          .ok sampleProgram → preflightResourcesV1 (reference strictMode) encoded = .ok ()) := by
  have hcanonical := live_program_canonical (reference strictMode)
    (correct_reference strictMode) sampleProgram isGoValue_sampleProgram
  exact ⟨isGoValue_sampleProgram, correct_reference strictMode,
    hcanonical.1.mpr fun _ _ => hasUTF8Texts_sampleProgram, hcanonical.2⟩

/-- The sample program with a source schema version which is not UTF-8. -/
def unreadableProgram : ProgramV1 := { sampleProgram with sourceSchemaVersion := [0xff] }

/-- The encoding of a valid program which the decoder refuses. -/
theorem live_program_canonical_unreadable :
    ¬ (decodeV1 (programCBOR (reference strictMode)) (programMap unreadableProgram).encode =
        .ok unreadableProgram ↔
      validateV1 unreadableProgram = .ok () ∧
        encodeV1 (programCBOR (reference strictMode)) unreadableProgram =
          .ok (programMap unreadableProgram).encode) := by
  have hgo : unreadableProgram.IsGoValue :=
    ⟨by decide, by decide, isGoValue_sampleProgram.probability⟩
  have hvalid : validateV1 unreadableProgram = .ok () := by decide +kernel
  have hencode := (encodeV1_programCBOR (correct_reference strictMode) hgo).mpr
    ⟨hvalid, rfl, by decide +kernel⟩
  intro h
  have hutf8 := ((decodeV1_programCBOR (correct_reference strictMode) hgo).mp
    (h.mpr ⟨hvalid, hencode⟩)).2
  have hversion : (textOfBytes [0xff]).isSome := hutf8 _ mem_cons_self
  cases hversion

end Kurdistan.Protocol
