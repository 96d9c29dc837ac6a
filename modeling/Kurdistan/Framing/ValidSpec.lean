import Kurdistan.Framing.FrameLayout

/-!
# What validation guarantees to framing

Validated profiles and validated live programs project to specifications with a
complete header, known modes and bounded limits. Live programs moreover have two
messages with distinct tags, a header without repetitions, and paddings within the
frame limit.
-/

namespace Kurdistan.Framing

open Support Protocol List

/-- The guarantees shared by profiles and live programs. -/
structure ValidSpec (spec : CodecSpec) : Prop where
  header : CompleteHeader spec
  lengthMode : spec.lengthMode.isKnown = true
  streamMode : spec.streamEncodingMode.isKnown = true
  frameLow : 1 ≤ spec.maxFrameBytes
  frameHigh : spec.maxFrameBytes ≤ 2 ^ 20
  payloadHigh : spec.maxPayloadBytes ≤ 2 ^ 23
  paddingLow : 0 ≤ spec.padding.minPaddingBytes
  paddingOrdered : spec.padding.minPaddingBytes ≤ spec.padding.maxPaddingBytes

/-- The guarantees of live programs. -/
structure LiveSpec (spec : CodecSpec) (data padding : CodecMessage) : Prop
    extends ValidSpec spec where
  messages : spec.messages = [data, padding]
  dataSemantic : data.semantic = .known .data
  paddingSemantic : padding.semantic = .known .padding
  dataTag : data.typeTag.length ≤ 255
  tagsDistinct : data.typeTag ≠ padding.typeTag
  headerPerm : spec.headerOrder.Perm (headerFields.map .known)
  paddingHigh : spec.padding.maxPaddingBytes ≤ spec.maxFrameBytes

/-! ## Profiles -/

theorem validSpec_of_profile {encoding : ProfileEncoding} {p : Profile} {spec : CodecSpec}
    (h : codecSpecFromProfile encoding p = .ok spec) : ValidSpec spec := by
  unfold codecSpecFromProfile at h
  split at h
  swap
  · cases h
  rename_i hvalid
  obtain ⟨⟩ := h
  simp only [validate, check_ok_iff] at hvalid
  obtain ⟨-, -, -, -, -, -, hlimits, -, -, hgrammar, -, hstream, -, -, -, -, -, -,
    hpadding, -, -⟩ := hvalid
  simp only [validateLimits, check_ok_iff, ensure_eq_ok] at hlimits
  simp only [validateFrameGrammar, check_ok_iff, ensureAll_eq_ok, ensure_eq_ok] at hgrammar
  simp only [validateStreamPolicy, check_ok_iff, ensure_eq_ok] at hstream
  simp only [validatePadding, check_ok_iff, ensure_eq_ok] at hpadding
  obtain ⟨hlength, -, -, -, -, -, hfields⟩ := hgrammar
  exact {
    header := ⟨hfields _ (by decide), hfields _ (by decide), hfields _ (by decide)⟩
    lengthMode := hlength
    streamMode := hstream.2.1
    frameLow := hlimits.1.1
    frameHigh := hlimits.1.2
    payloadHigh := hlimits.2.1.2
    paddingLow := hpadding.2.1.1
    paddingOrdered := hpadding.2.1.2 }

/-! ## Live programs -/

theorem exactSet_perm {values expected : List (Choice HeaderField)}
    (h : exactSet values expected = true) : values.Perm expected := by
  simp only [exactSet, decide_eq_true_eq] at h
  have hvalues := perm_insertionSort
    (fun a b : Choice HeaderField => a.text HeaderField.word ≤ b.text HeaderField.word) values
  have hexpected := perm_insertionSort
    (fun a b : Choice HeaderField => a.text HeaderField.word ≤ b.text HeaderField.word) expected
  exact hvalues.symm.trans ((List.Perm.of_eq h.2).trans hexpected)

/-- Validation of a live program, check by check. -/
theorem validateV1_eq_ok {p : ProgramV1} :
    validateV1 p = .ok () ↔
      (p.schema = schemaV1 ∧ p.programID = deriveProgramIDV1 p.sourceGenerationHash ∧
        p.sourceSchemaVersion ≠ [] ∧ ¬ allZero p.sourceGenerationHash.toList) ∧
      p.messages.map (·.semantic) = [.known .data, .known .padding] ∧
      validateMessagesV1 p.limits.maxPayloadBytes [] p.messages = .ok () ∧
      validFrameModesV1 p.frame = true ∧ validTypeTagsV1 p.frame.compiled = true ∧
      validSchedulerV1 p.scheduler = true ∧
      (p.stream.idEncodingMode.isKnown = true ∧
        p.stream.maxConcurrentStreams ∈ ([2, 4, 8, 16] : List Int)) ∧
      validPaddingV1 p.padding p.limits.maxFrameBytes = true ∧
      validateSecurityV1 p.security = .ok () ∧
      validLimitsV1 p.limits p.security.policy = true := by
  simp only [validateV1, check_ok_iff, ensure_eq_ok]

theorem liveSpec_of_program {program : ProgramV1} {spec : CodecSpec}
    (h : codecSpecFromLiveProgram program = .ok spec) :
    ∃ data padding, LiveSpec spec data padding := by
  unfold codecSpecFromLiveProgram at h
  split at h
  · cases h
  rename_i hvalid
  obtain ⟨-, hsemantics, -, hmodes, htags, -, hstream, hpadding, -, hlimits⟩ :=
    validateV1_eq_ok.mp hvalid
  obtain ⟨data, padding, hmessages⟩ : ∃ data padding, program.messages = [data, padding] := by
    have hlength := congrArg length hsemantics
    rw [length_map] at hlength
    exact length_eq_two.mp hlength
  rw [hmessages] at h hsemantics
  obtain ⟨⟩ := h
  simp only [map_cons, map_nil, cons.injEq, and_true] at hsemantics
  simp only [validFrameModesV1, validTypeTagsV1, validPaddingV1, validLimitsV1,
    decide_eq_true_eq] at hmodes htags hpadding hlimits
  obtain ⟨hlength, -, -, -, -, horder⟩ := hmodes
  have hperm := exactSet_perm horder
  have hmem (field : HeaderField) (hfield : field ∈ headerFields) :
      .known field ∈ program.frame.headerOrder :=
    hperm.mem_iff.mpr (mem_map_of_mem hfield)
  refine ⟨⟨data.semantic, data.wireSymbol, program.frame.compiled.dataTypeTag⟩,
    ⟨padding.semantic, padding.wireSymbol, program.frame.compiled.paddingTypeTag⟩, ?_⟩
  exact {
    header := ⟨hmem _ (by decide), hmem _ (by decide), hmem _ (by decide)⟩
    lengthMode := hlength
    streamMode := hstream.1
    frameLow := hlimits.1
    frameHigh := hlimits.2.1
    payloadHigh := hlimits.2.2.2.1
    paddingLow := hpadding.2.1
    paddingOrdered := hpadding.2.2.1
    messages := rfl
    dataSemantic := hsemantics.1
    paddingSemantic := hsemantics.2
    dataTag := htags.2.1
    tagsDistinct := htags.2.2.2.2
    headerPerm := hperm
    paddingHigh := hpadding.2.2.2.1 }

end Kurdistan.Framing
