import Kurdistan.Support.Outcome
import Kurdistan.Support.Digest
import Kurdistan.Security.Policy
import Kurdistan.Protocol.Vocabulary

/-!
# Live programs

The product-safe subset of a generated profile and its validator `validateV1`.
Live programs carry the precomputed framing outputs (type tags, stream masks,
checksum state) instead of the profile identifier they were derived from.

Texts which the validator only requires to be present are byte strings; the
others are compared with a fixed vocabulary.
-/

namespace Kurdistan.Protocol

open Support Security

def schemaV1 : String := "kurd-live-program-v1"

inductive ErrorCategory where
  | invalid
  | size
  | schema
  | nonCanonical
  | unsupported
  deriving DecidableEq

structure MessageV1 where
  semantic : Choice Semantic
  wireSymbol : List UInt8
  direction : String
  minPayloadBytes : Int
  maxPayloadBytes : Int
  deriving DecidableEq

/-- The framing outputs which legacy framing derives from a profile identifier. -/
structure CompiledFramingV1 where
  dataTypeTag : List UInt8
  paddingTypeTag : List UInt8
  profileXORStreamMask : UInt32
  tableStreamMask : UInt32
  crc32PrefixState : UInt32
  deriving DecidableEq

structure FrameV1 where
  lengthMode : Choice LengthMode
  typeMode : Choice TypeMode
  headerOrder : List (Choice HeaderField)
  fragmentationMode : Choice FragmentationMode
  checksumMode : Choice ChecksumMode
  paddingPlacement : Choice PaddingPlacement
  compiled : CompiledFramingV1
  deriving DecidableEq

structure SchedulerV1 where
  mode : Choice SchedulerMode
  priorityMode : List UInt8
  maxBatchBytes : Int
  flushIntervalMs : Int
  maxInFlightFrames : Int
  deriving DecidableEq

structure StreamV1 where
  idEncodingMode : Choice StreamEncodingMode
  maxConcurrentStreams : Int
  deriving DecidableEq

structure SecurityPolicyV1 where
  securityVersion : List UInt8
  transcriptMode : Choice TranscriptMode
  kdfSuite : Choice KDFSuite
  aeadSuite : Choice AEADSuite
  macSuite : Choice MACSuite
  nonceMode : Choice NonceMode
  replayPolicy : Choice ReplayPolicy
  replayWindowSize : Int
  downgradePolicy : Choice DowngradePolicy
  capabilityNegotiationPolicy : Choice CapabilityNegotiationPolicy
  profileCompatibilityPolicy : Choice ProfileCompatibilityPolicy
  keyRotationPolicy : Choice KeyRotationPolicy
  configValidationPolicy : Choice ConfigValidationPolicy
  secureEnvelopeMode : Choice SecureEnvelopeMode
  maxSessionMessages : Int
  maxKeyLifetimeMessages : Int
  deriving DecidableEq

structure SecurityV1 where
  compilerSecurityVersion : List UInt8
  minimumRuntimeVersion : List UInt8
  policy : SecurityPolicyV1
  clientMandatoryCapabilities : List String
  relayMandatoryCapabilities : List String
  selectedCapabilities : List String
  deriving DecidableEq

structure LimitsV1 where
  maxFrameBytes : Int
  maxPayloadBytes : Int
  maxSessionMillis : Int
  maxSessionMessages : Int
  maxKeyLifetimeMessages : Int
  deriving DecidableEq

/-- A live program. Its padding section has the fields of a padding policy. -/
structure ProgramV1 where
  schema : String
  programID : FixedBytes 16
  sourceSchemaVersion : List UInt8
  sourceGenerationHash : FixedBytes 32
  messages : List MessageV1
  frame : FrameV1
  scheduler : SchedulerV1
  stream : StreamV1
  padding : PaddingPolicy
  security : SecurityV1
  limits : LimitsV1
  deriving DecidableEq

/-! ## Validation -/

/-- The program identifier is the front of a digest of the source hash. -/
def deriveProgramIDV1 (source : FixedBytes 32) : FixedBytes 16 :=
  fixedBytes 16 ((sha256 (asciiBytes schemaV1 ++ 0 :: source.toList)).toList.take 16)

def allZero (value : List UInt8) : Bool := value.foldl (· ||| ·) 0 = 0

/-- `IsSafeWireSymbolV1`. -/
def isSafeWireSymbolV1 (value : List UInt8) : Bool := safeToken value

/-- Sort header fields by their text, as `sort.Strings` does. -/
def sortHeaderFields (values : List (Choice HeaderField)) : List (Choice HeaderField) :=
  values.insertionSort fun a b => a.text HeaderField.word ≤ b.text HeaderField.word

/-- The two lists hold the same fields with the same multiplicities. -/
def exactSet (values expected : List (Choice HeaderField)) : Bool :=
  values.length = expected.length ∧ sortHeaderFields values = sortHeaderFields expected

/-- The capability texts a program may name. -/
def knownCapabilities : List String :=
  ["multi_stream", "proxy_semantics", "carrier_abstraction", "adapter_interface",
    "carrier_loss_recovery", "carrier_backpressure", "generated_backend",
    "transcript_binding", "replay_window", "nonce_schedule"]

/-- Every text is known and larger than the one before it. -/
def ascendingCapabilities : Option String → List String → Bool
  | _, [] => true
  | previous, value :: rest =>
    value ∈ knownCapabilities ∧ (∀ before ∈ previous, before < value) ∧
      ascendingCapabilities (some value) rest

def canonicalCapabilities (values : List String) : Bool :=
  values ≠ [] ∧ values.length ≤ 32 ∧ ascendingCapabilities none values

/-- The loop of `ValidateV1` over the messages; `seenWire` holds the symbols of
the messages before. -/
def validateMessagesV1 (maxPayloadBytes : Int) :
    List (List UInt8) → List MessageV1 → Except ErrorCategory Unit
  | _, [] => .ok ()
  | seenWire, message :: rest => do
    ensure (isSafeWireSymbolV1 message.wireSymbol ∧ message.direction = "bidirectional" ∧
      0 ≤ message.minPayloadBytes ∧ message.minPayloadBytes ≤ message.maxPayloadBytes ∧
      message.maxPayloadBytes ≤ maxPayloadBytes) .invalid
    ensure (message.wireSymbol ∉ seenWire) .schema
    validateMessagesV1 maxPayloadBytes (message.wireSymbol :: seenWire) rest

def validateSecurityV1 (value : SecurityV1) : Except ErrorCategory Unit := do
  let p := value.policy
  ensure (value.compilerSecurityVersion ≠ [] ∧ value.minimumRuntimeVersion ≠ [] ∧
    p.securityVersion ≠ [] ∧ p.transcriptMode.isKnown ∧
    p.kdfSuite = .known .hkdfSHA256 ∧ p.aeadSuite = .known .aes256GCM ∧
    p.macSuite = .known .hmacSHA256 ∧ p.nonceMode.isKnown ∧ p.replayPolicy.isKnown ∧
    1 < p.replayWindowSize ∧ p.replayWindowSize ≤ 4096 ∧ p.downgradePolicy.isKnown ∧
    p.capabilityNegotiationPolicy.isKnown ∧ p.profileCompatibilityPolicy.isKnown ∧
    p.keyRotationPolicy.isKnown ∧ p.configValidationPolicy.isKnown ∧
    p.secureEnvelopeMode.isKnown ∧ 1 ≤ p.maxSessionMessages ∧
    p.maxSessionMessages ≤ 2 ^ 24 ∧ 1 ≤ p.maxKeyLifetimeMessages ∧
    p.maxKeyLifetimeMessages ≤ p.maxSessionMessages) .invalid
  ensure (canonicalCapabilities value.clientMandatoryCapabilities ∧
    canonicalCapabilities value.relayMandatoryCapabilities ∧
    canonicalCapabilities value.selectedCapabilities) .invalid
  ensure (∀ capability ∈ value.clientMandatoryCapabilities ++
    value.relayMandatoryCapabilities, capability ∈ value.selectedCapabilities) .invalid

/-- The frame grammar names known modes and every header field exactly once. -/
def validFrameModesV1 (frame : FrameV1) : Bool :=
  frame.lengthMode.isKnown ∧ frame.typeMode.isKnown ∧ frame.fragmentationMode.isKnown ∧
    frame.checksumMode.isKnown ∧ frame.paddingPlacement.isKnown ∧
    exactSet frame.headerOrder (headerFields.map .known)

/-- The two type tags are present, short enough for a length byte, and distinct. -/
def validTypeTagsV1 (compiled : CompiledFramingV1) : Bool :=
  compiled.dataTypeTag ≠ [] ∧ compiled.dataTypeTag.length ≤ 255 ∧
    compiled.paddingTypeTag ≠ [] ∧ compiled.paddingTypeTag.length ≤ 255 ∧
    compiled.dataTypeTag ≠ compiled.paddingTypeTag

def validSchedulerV1 (scheduler : SchedulerV1) : Bool :=
  scheduler.mode.isKnown ∧ 1 ≤ scheduler.maxBatchBytes ∧
    scheduler.maxBatchBytes ≤ 32768 ∧ 0 ≤ scheduler.flushIntervalMs ∧
    scheduler.flushIntervalMs ≤ 1000 ∧
    scheduler.maxInFlightFrames ∈ ([4, 8, 16, 32] : List Int) ∧
    scheduler.priorityMode ≠ []

def validPaddingV1 (padding : PaddingPolicy) (maxFrameBytes : Int) : Bool :=
  padding.mode.isKnown ∧ 0 ≤ padding.minPaddingBytes ∧
    padding.minPaddingBytes ≤ padding.maxPaddingBytes ∧
    padding.maxPaddingBytes ≤ maxFrameBytes ∧ ¬ padding.probability.isNaN ∧
    ¬ padding.probability.isInf ∧ ¬ padding.probability.lt (.finite 0) ∧
    ¬ Float64.lt (.finite 1) padding.probability ∧
    (padding.mode = .known .none → padding.minPaddingBytes = 0 ∧
      padding.maxPaddingBytes = 0 ∧ padding.probability.eq (.finite 0))

def validLimitsV1 (limits : LimitsV1) (policy : SecurityPolicyV1) : Bool :=
  1 ≤ limits.maxFrameBytes ∧ limits.maxFrameBytes ≤ 2 ^ 20 ∧
    1 ≤ limits.maxPayloadBytes ∧ limits.maxPayloadBytes ≤ 2 ^ 23 ∧
    1 ≤ limits.maxSessionMillis ∧ 1 ≤ limits.maxSessionMessages ∧
    1 ≤ limits.maxKeyLifetimeMessages ∧
    limits.maxKeyLifetimeMessages ≤ limits.maxSessionMessages ∧
    limits.maxSessionMessages = policy.maxSessionMessages ∧
    limits.maxKeyLifetimeMessages = policy.maxKeyLifetimeMessages

def validateV1 (p : ProgramV1) : Except ErrorCategory Unit := do
  ensure (p.schema = schemaV1 ∧ p.programID = deriveProgramIDV1 p.sourceGenerationHash ∧
    p.sourceSchemaVersion ≠ [] ∧ ¬ allZero p.sourceGenerationHash.toList) .invalid
  ensure (p.messages.map (·.semantic) = [.known .data, .known .padding]) .schema
  validateMessagesV1 p.limits.maxPayloadBytes [] p.messages
  ensure (validFrameModesV1 p.frame) .invalid
  ensure (validTypeTagsV1 p.frame.compiled) .invalid
  ensure (validSchedulerV1 p.scheduler) .invalid
  ensure (p.stream.idEncodingMode.isKnown ∧
    p.stream.maxConcurrentStreams ∈ ([2, 4, 8, 16] : List Int)) .invalid
  ensure (validPaddingV1 p.padding p.limits.maxFrameBytes) .invalid
  validateSecurityV1 p.security
  ensure (validLimitsV1 p.limits p.security.policy) .invalid

/-! ## A validated program -/

def sampleGenerationHash : FixedBytes 32 := fixedBytes 32 [1]

/-- A small program: padded frames behind a two-byte length. -/
def sampleProgram : ProgramV1 where
  schema := schemaV1
  programID := deriveProgramIDV1 sampleGenerationHash
  sourceSchemaVersion := asciiBytes "1"
  sourceGenerationHash := sampleGenerationHash
  messages := [⟨.known .data, asciiBytes "d", "bidirectional", 1, 1024⟩,
    ⟨.known .padding, asciiBytes "p", "bidirectional", 0, 1024⟩]
  frame := {
    lengthMode := .known .fixed2Prefix
    typeMode := .known .explicitGeneratedTag
    headerOrder := [.known .flags, .known .type, .known .length, .known .stream]
    fragmentationMode := .known .fixedSizeChunks
    checksumMode := .known .none
    paddingPlacement := .known .before
    compiled := ⟨[1], [2], 0, 0, 0⟩ }
  scheduler := ⟨.known .balanced, asciiBytes "fifo", 1024, 10, 8⟩
  stream := ⟨.known .varint, 4⟩
  padding := ⟨.known .bounded, 2, 4, .finite 1⟩
  security := {
    compilerSecurityVersion := asciiBytes "1"
    minimumRuntimeVersion := asciiBytes "1"
    policy := ⟨asciiBytes "1", .known .fullBindingV1, .known .hkdfSHA256, .known .aes256GCM,
      .known .hmacSHA256, .known .streamPartitionedCounter, .known .boundedReorder, 64,
      .known .strictCapabilities, .known .strictRequired, .known .strictSchema, .known .sessionOnly,
      .known .strictRequired, .known .fullContextBoundEnvelope, 1000, 1000⟩
    clientMandatoryCapabilities := ["multi_stream"]
    relayMandatoryCapabilities := ["multi_stream"]
    selectedCapabilities := ["multi_stream"] }
  limits := ⟨4096, 4096, 1000, 1000, 1000⟩

theorem validateV1_sampleProgram : validateV1 sampleProgram = .ok () := by
  decide +kernel

end Kurdistan.Protocol
