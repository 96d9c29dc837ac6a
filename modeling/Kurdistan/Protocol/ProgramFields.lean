import Kurdistan.Support.Cbor
import Kurdistan.Protocol.Lexicon
import Kurdistan.Protocol.ProgramCodec

/-!
# Fields of an encoded live program

The map a live program is written as, the decoder which reads it back field by
field, and `preflightResourcesV1`, which runs the same walk with a field decoder
of its own. Every failure of the walk is a schema error, so the walk is an `Option`.
-/

namespace Kurdistan.Protocol

open Support Support.Cbor Security

/-! ## The encoded map -/

/-- A map with the labels `1, 2, …`. -/
def labelled (items : List Item) : Item := .map ((items.zipIdx 1).map Prod.swap)

def textItem (text : String) : Item := .text (utf8Bytes text)

def choiceItem {α : Type} (lexicon : Lexicon α) (choice : Choice α) : Item :=
  textItem (choice.text lexicon.word)

def uint32Item (value : UInt32) : Item := .int value.toNat

def messageMap (value : MessageV1) : Item :=
  labelled [choiceItem Semantic.lexicon value.semantic, .text value.wireSymbol,
    textItem value.direction, .int value.minPayloadBytes, .int value.maxPayloadBytes]

def compiledMap (value : CompiledFramingV1) : Item :=
  labelled [.bytes value.dataTypeTag, .bytes value.paddingTypeTag,
    uint32Item value.profileXORStreamMask, uint32Item value.tableStreamMask,
    uint32Item value.crc32PrefixState]

def frameMap (value : FrameV1) : Item :=
  labelled [choiceItem LengthMode.lexicon value.lengthMode,
    choiceItem TypeMode.lexicon value.typeMode,
    .array (value.headerOrder.map (choiceItem HeaderField.lexicon)),
    choiceItem FragmentationMode.lexicon value.fragmentationMode,
    choiceItem ChecksumMode.lexicon value.checksumMode,
    choiceItem PaddingPlacement.lexicon value.paddingPlacement, compiledMap value.compiled]

def schedulerMap (value : SchedulerV1) : Item :=
  labelled [choiceItem SchedulerMode.lexicon value.mode, .int value.maxBatchBytes,
    .int value.flushIntervalMs, .int value.maxInFlightFrames, .text value.priorityMode]

def streamMap (value : StreamV1) : Item :=
  labelled [choiceItem StreamEncodingMode.lexicon value.idEncodingMode,
    .int value.maxConcurrentStreams]

def paddingMap (value : PaddingPolicy) : Item :=
  labelled [choiceItem PaddingMode.lexicon value.mode, .int value.minPaddingBytes,
    .int value.maxPaddingBytes, .float value.probability]

def securityPolicyMap (value : SecurityPolicyV1) : Item :=
  labelled [.text value.securityVersion, choiceItem TranscriptMode.lexicon value.transcriptMode,
    choiceItem KDFSuite.lexicon value.kdfSuite, choiceItem AEADSuite.lexicon value.aeadSuite,
    choiceItem MACSuite.lexicon value.macSuite, choiceItem NonceMode.lexicon value.nonceMode,
    choiceItem ReplayPolicy.lexicon value.replayPolicy, .int value.replayWindowSize,
    choiceItem DowngradePolicy.lexicon value.downgradePolicy,
    choiceItem CapabilityNegotiationPolicy.lexicon value.capabilityNegotiationPolicy,
    choiceItem ProfileCompatibilityPolicy.lexicon value.profileCompatibilityPolicy,
    choiceItem KeyRotationPolicy.lexicon value.keyRotationPolicy,
    choiceItem ConfigValidationPolicy.lexicon value.configValidationPolicy,
    choiceItem SecureEnvelopeMode.lexicon value.secureEnvelopeMode,
    .int value.maxSessionMessages, .int value.maxKeyLifetimeMessages]

def capabilityItems (values : List String) : Item := .array (values.map textItem)

def securityMap (value : SecurityV1) : Item :=
  labelled [.text value.compilerSecurityVersion, .text value.minimumRuntimeVersion,
    securityPolicyMap value.policy, capabilityItems value.clientMandatoryCapabilities,
    capabilityItems value.relayMandatoryCapabilities, capabilityItems value.selectedCapabilities]

def limitsMap (value : LimitsV1) : Item :=
  labelled [.int value.maxFrameBytes, .int value.maxPayloadBytes, .int value.maxSessionMillis,
    .int value.maxSessionMessages, .int value.maxKeyLifetimeMessages]

def programMap (p : ProgramV1) : Item :=
  labelled [textItem p.schema, .bytes p.programID.toList, .text p.sourceSchemaVersion,
    .bytes p.sourceGenerationHash.toList, .array (p.messages.map messageMap),
    frameMap p.frame, schedulerMap p.scheduler, streamMap p.stream, paddingMap p.padding,
    securityMap p.security, limitsMap p.limits]

/-! ## The walk over the fields -/

/-- The options of `strictMode`. -/
def strictMode : Limits := ⟨32, 64, 32⟩

/-- What the walk reads a field with. -/
abbrev FieldDecoder := (target : Target) → List UInt8 → Option target.Value

/-- The raw fields of a map which has the labels `1, …, count` and no others. -/
def rawMap (lib : Library) (raw : List UInt8) (count : ℕ) : Option (ℕ → List UInt8) := do
  let fields ← lib.unmarshal .rawMap raw
  if fields.length = count ∧ ∀ label ∈ List.range' 1 count, label ∈ fields.map Prod.fst then
    some fun label => (fields.lookup label).getD []
  else none

def decodeChoice {α : Type} (decode : FieldDecoder) (lexicon : Lexicon α) (raw : List UInt8) :
    Option (Choice α) :=
  (decode .string raw).map lexicon.ofText

/-- A Go string keeps the bytes of the decoded text. -/
def decodeText (decode : FieldDecoder) (raw : List UInt8) : Option (List UInt8) :=
  (decode .string raw).map utf8Bytes

def decodeFixedBytes (decode : FieldDecoder) (n : ℕ) (raw : List UInt8) :
    Option (FixedBytes n) := do
  let value ← decode .byteString raw
  if value.length = n then some (fixedBytes n value) else none

variable (lib : Library) (decode : FieldDecoder)

def decodeMessage (raw : List UInt8) : Option MessageV1 := do
  let fields ← rawMap lib raw 5
  return {
    semantic := ← decodeChoice decode Semantic.lexicon (fields 1)
    wireSymbol := ← decodeText decode (fields 2)
    direction := ← decode .string (fields 3)
    minPayloadBytes := ← decode .int (fields 4)
    maxPayloadBytes := ← decode .int (fields 5) }

def decodeMessages (raw : List UInt8) : Option (List MessageV1) := do
  let values ← decode .rawMessages raw
  if values.length = 2 then values.mapM (decodeMessage lib decode) else none

def decodeCompiled (raw : List UInt8) : Option CompiledFramingV1 := do
  let compiled ← rawMap lib raw 5
  return {
    dataTypeTag := ← decode .byteString (compiled 1)
    paddingTypeTag := ← decode .byteString (compiled 2)
    profileXORStreamMask := ← decode .uint32 (compiled 3)
    tableStreamMask := ← decode .uint32 (compiled 4)
    crc32PrefixState := ← decode .uint32 (compiled 5) }

def decodeFrame (raw : List UInt8) : Option FrameV1 := do
  let fields ← rawMap lib raw 7
  return {
    lengthMode := ← decodeChoice decode LengthMode.lexicon (fields 1)
    typeMode := ← decodeChoice decode TypeMode.lexicon (fields 2)
    headerOrder := (← decode .strings (fields 3)).map HeaderField.lexicon.ofText
    fragmentationMode := ← decodeChoice decode FragmentationMode.lexicon (fields 4)
    checksumMode := ← decodeChoice decode ChecksumMode.lexicon (fields 5)
    paddingPlacement := ← decodeChoice decode PaddingPlacement.lexicon (fields 6)
    compiled := ← decodeCompiled lib decode (fields 7) }

def decodeScheduler (raw : List UInt8) : Option SchedulerV1 := do
  let fields ← rawMap lib raw 5
  return {
    mode := ← decodeChoice decode SchedulerMode.lexicon (fields 1)
    maxBatchBytes := ← decode .int (fields 2)
    flushIntervalMs := ← decode .int (fields 3)
    maxInFlightFrames := ← decode .int (fields 4)
    priorityMode := ← decodeText decode (fields 5) }

def decodeStream (raw : List UInt8) : Option StreamV1 := do
  let fields ← rawMap lib raw 2
  return {
    idEncodingMode := ← decodeChoice decode StreamEncodingMode.lexicon (fields 1)
    maxConcurrentStreams := ← decode .int (fields 2) }

def decodePadding (raw : List UInt8) : Option PaddingPolicy := do
  let fields ← rawMap lib raw 4
  return {
    mode := ← decodeChoice decode PaddingMode.lexicon (fields 1)
    minPaddingBytes := ← decode .int (fields 2)
    maxPaddingBytes := ← decode .int (fields 3)
    probability := ← decode .float64 (fields 4) }

def decodeSecurityPolicy (raw : List UInt8) : Option SecurityPolicyV1 := do
  let policy ← rawMap lib raw 16
  return {
    securityVersion := ← decodeText decode (policy 1)
    transcriptMode := ← decodeChoice decode TranscriptMode.lexicon (policy 2)
    kdfSuite := ← decodeChoice decode KDFSuite.lexicon (policy 3)
    aeadSuite := ← decodeChoice decode AEADSuite.lexicon (policy 4)
    macSuite := ← decodeChoice decode MACSuite.lexicon (policy 5)
    nonceMode := ← decodeChoice decode NonceMode.lexicon (policy 6)
    replayPolicy := ← decodeChoice decode ReplayPolicy.lexicon (policy 7)
    replayWindowSize := ← decode .int (policy 8)
    downgradePolicy := ← decodeChoice decode DowngradePolicy.lexicon (policy 9)
    capabilityNegotiationPolicy :=
      ← decodeChoice decode CapabilityNegotiationPolicy.lexicon (policy 10)
    profileCompatibilityPolicy :=
      ← decodeChoice decode ProfileCompatibilityPolicy.lexicon (policy 11)
    keyRotationPolicy := ← decodeChoice decode KeyRotationPolicy.lexicon (policy 12)
    configValidationPolicy := ← decodeChoice decode ConfigValidationPolicy.lexicon (policy 13)
    secureEnvelopeMode := ← decodeChoice decode SecureEnvelopeMode.lexicon (policy 14)
    maxSessionMessages := ← decode .int (policy 15)
    maxKeyLifetimeMessages := ← decode .int (policy 16) }

def decodeSecurity (raw : List UInt8) : Option SecurityV1 := do
  let fields ← rawMap lib raw 6
  return {
    compilerSecurityVersion := ← decodeText decode (fields 1)
    minimumRuntimeVersion := ← decodeText decode (fields 2)
    clientMandatoryCapabilities := ← decode .strings (fields 4)
    relayMandatoryCapabilities := ← decode .strings (fields 5)
    selectedCapabilities := ← decode .strings (fields 6)
    policy := ← decodeSecurityPolicy lib decode (fields 3) }

def decodeLimits (raw : List UInt8) : Option LimitsV1 := do
  let fields ← rawMap lib raw 5
  return {
    maxFrameBytes := ← decode .int (fields 1)
    maxPayloadBytes := ← decode .int (fields 2)
    maxSessionMillis := ← decode .int (fields 3)
    maxSessionMessages := ← decode .int (fields 4)
    maxKeyLifetimeMessages := ← decode .int (fields 5) }

def decodeSchema (raw : List UInt8) : Option String := do
  let schema ← decode .string raw
  if schema = schemaV1 then some schema else none

def decodeProgramFieldsWithDecoderV1 (encoded : List UInt8) : Option ProgramV1 := do
  let fields ← rawMap lib encoded 11
  return {
    schema := ← decodeSchema decode (fields 1)
    programID := ← decodeFixedBytes decode 16 (fields 2)
    sourceSchemaVersion := ← decodeText decode (fields 3)
    sourceGenerationHash := ← decodeFixedBytes decode 32 (fields 4)
    messages := ← decodeMessages lib decode (fields 5)
    frame := ← decodeFrame lib decode (fields 6)
    scheduler := ← decodeScheduler lib decode (fields 7)
    stream := ← decodeStream lib decode (fields 8)
    padding := ← decodePadding lib decode (fields 9)
    security := ← decodeSecurity lib decode (fields 10)
    limits := ← decodeLimits lib decode (fields 11) }

/-! ## The program codec -/

/-- The bytes decode to a value whose deterministic encoding they are. -/
def validateCore (encoded : List UInt8) : Bool :=
  match lib.unmarshal .any encoded with
  | none => false
  | some value => lib.marshal value = some encoded

/-- The codec's use of a library. -/
def programCBOR : ProgramCBOR where
  marshal program := lib.marshal (programMap program)
  validateCore := validateCore lib
  decodeProgramFieldsV1 encoded :=
    match decodeProgramFieldsWithDecoderV1 lib lib.unmarshal encoded with
    | none => .error .schema
    | some program => .ok program

/-! ## The resource preflight -/

/-- The checks of `decodeResourceFieldV1` on the first byte of a field, and on the
first bytes of the texts of a list. -/
def admitsResourceField (target : Target) (first : UInt8) (raw : List UInt8) : Bool :=
  match target with
  | .byteString => majorType first = 2
  | .string => majorType first = 3
  | .uint32 => majorType first = 0
  | .int => majorType first ≤ 1
  | .float64 => first = 0xf9 ∨ first = 0xfa ∨ first = 0xfb
  | .rawMessages => majorType first = 4
  | .strings =>
    majorType first = 4 ∧ (lib.unmarshal .rawMessages raw).any fun values =>
      values.all fun value => value.head?.any fun byte => majorType byte = 3
  | _ => false

def decodeResourceFieldV1 : FieldDecoder := fun target raw =>
  match raw with
  | [] => none
  | first :: _ =>
    if admitsResourceField lib target first raw then lib.unmarshal target raw else none

def preflightResourcesV1 (encoded : List UInt8) : Except ErrorCategory Unit := do
  ensure (encoded ≠ [] ∧ encoded.length ≤ maxEncodedBytes) .size
  match decodeProgramFieldsWithDecoderV1 lib (decodeResourceFieldV1 lib) encoded with
  | none => .error .schema
  | some p => do
    ensure (p.frame.headerOrder.length = 4 ∧ p.frame.compiled.dataTypeTag ≠ [] ∧
      p.frame.compiled.dataTypeTag.length ≤ 255 ∧ p.frame.compiled.paddingTypeTag ≠ [] ∧
      p.frame.compiled.paddingTypeTag.length ≤ 255) .size
    ensure (∀ message ∈ p.messages, message.wireSymbol ≠ [] ∧ message.wireSymbol.length ≤ 96) .size
    ensure (∀ values ∈ [p.security.clientMandatoryCapabilities,
      p.security.relayMandatoryCapabilities, p.security.selectedCapabilities],
      values ≠ [] ∧ values.length ≤ 32) .size

end Kurdistan.Protocol
