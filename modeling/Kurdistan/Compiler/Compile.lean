import Kurdistan.Security.PolicyEncoding
import Kurdistan.Protocol.ProgramCodec
import Kurdistan.Framing.CodecSpec

/-!
# The live program compiler

`compileV1` projects a validated profile to the live program which the runtime is
given. The program keeps the messages for data and padding only, and carries the
type tags, stream masks and checksum state which the framing of the profile derives
from the profile identifier; the identifier itself must not occur in its encoding.
-/

namespace Kurdistan.Compiler

open Support Security Protocol Framing

/-! ## The effective security policy -/

/-- A byte string as a text, one character for each byte. -/
def identifierText (id : List UInt8) : String :=
  String.ofList (id.map fun byte => Char.ofNat byte.toNat)

variable (profile : Profile)

/-- The policy of a profile under canonical capability lists. -/
def effectivePolicy (profileHash : String)
    (client server selection : List String) : EffectiveSecurityPolicy where
  profileID := identifierText profile.id
  profileHash := profileHash
  schemaVersion := profile.compatibility.schemaVersion
  compilerSecurityVersion := profile.compatibility.compilerSecurityVersion
  minimumRuntimeVersion := profile.compatibility.minimumRuntimeVersion
  securityVersion := profile.security.securityVersion
  transcriptMode := profile.security.transcriptMode
  kdfSuite := profile.security.kdfSuite
  aeadSuite := profile.security.aeadSuite
  macSuite := profile.security.macSuite
  nonceMode := profile.security.nonceMode
  replayPolicy := profile.security.replayPolicy
  replayWindowSize := profile.security.replayWindowSize
  downgradePolicy := profile.security.downgradePolicy
  capabilityNegotiationPolicy := profile.security.capabilityNegotiationPolicy
  profileCompatibilityPolicy := profile.security.profileCompatibilityPolicy
  keyRotationPolicy := profile.security.keyRotationPolicy
  configValidationPolicy := profile.security.configValidationPolicy
  secureEnvelopeMode := profile.security.secureEnvelopeMode
  maxSessionMessages := profile.security.maxSessionMessages
  maxKeyLifetimeMessages := profile.security.maxKeyLifetimeMessages
  clientMandatoryCapabilities := client
  serverMandatoryCapabilities := server
  selectedCapabilities := selection

def buildEffectiveSecurityPolicy (p : Primitives) (encoding : ProfileEncoding)
    (profile : Profile) (clientFloor serverFloor selected : List String) :
    Except ValidationError SealedPolicy := do
  match validate encoding profile with
  | .ok () => .ok ()
  | .error err => .error (quoted "effective security policy: %w" err.format)
  let client ← canonicalEffectiveCapabilities clientFloor
  let server ← canonicalEffectiveCapabilities serverFloor
  let selection ← canonicalEffectiveCapabilities selected
  ensure (client ≠ [] ∧ server ≠ [] ∧ selection ≠ [])
    (failure "effective security policy: empty mandatory floor or selection")
  ensureAll (fun floor => ensureAll (fun capability =>
        ensure (capability ∈ selection)
          (failure "effective security policy: selection below mandatory floor")) floor)
    [client, server]
  let profileHash ← canonicalHash encoding profile
  let policy := effectivePolicy profile profileHash client server selection
  let sealedPolicy : SealedPolicy := { policy with
    validationHash := effectivePolicyHash p policy }
  validateEffectiveSecurityPolicy p sealedPolicy
  .ok sealedPolicy

/-- The policy of a valid profile under capability lists which fit together. -/
theorem buildEffectiveSecurityPolicy_of_valid {p : Primitives} {encoding : ProfileEncoding}
    {profile : Profile} {clientFloor serverFloor selected client server selection : List String}
    {profileHash : String} {policy : SealedPolicy} (hvalid : validate encoding profile = .ok ())
    (hclient : canonicalEffectiveCapabilities clientFloor = .ok client)
    (hserver : canonicalEffectiveCapabilities serverFloor = .ok server)
    (hselection : canonicalEffectiveCapabilities selected = .ok selection)
    (hnonempty : client ≠ [] ∧ server ≠ [] ∧ selection ≠ [])
    (hfloor : ∀ floor ∈ [client, server], ∀ capability ∈ floor, capability ∈ selection)
    (hhash : canonicalHash encoding profile = .ok profileHash)
    (hpolicy : policy.toEffectiveSecurityPolicy =
      effectivePolicy profile profileHash client server selection)
    (haccepted : validateEffectiveSecurityPolicy p policy = .ok ())
    (hdigest : policy.validationHash = effectivePolicyHash p policy.toEffectiveSecurityPolicy) :
    buildEffectiveSecurityPolicy p encoding profile clientFloor serverFloor selected =
      .ok policy := by
  obtain ⟨effective, digest⟩ := policy
  obtain rfl := hpolicy
  dsimp only at hdigest
  subst hdigest
  simp only [buildEffectiveSecurityPolicy, hvalid, hclient, hserver, hselection, hhash,
    ok_bind, ensure_of_pos hnonempty]
  refine check_ok_iff.mpr ⟨?_, check_ok_iff.mpr ⟨haccepted, rfl⟩⟩
  simpa only [ensureAll_eq_ok, ensure_eq_ok] using hfloor

/-! ## The projection -/

structure InputV1 where
  profile : Option Profile
  clientMandatoryFeatures : List String
  relayMandatoryFeatures : List String
  selectedFeatures : List String

/-- A projection collision may be retried with a fresh profile. -/
inductive CompileError where
  | rejected
  | projectionCollision
  deriving DecidableEq

def messageBySemantic (semantic : Semantic) : Option MessageSymbol :=
  profile.messages.find? fun msg => msg.semantic = .known semantic

def countSemantic (messages : List MessageSymbol) (semantic : Semantic) : ℕ :=
  messages.countP fun message => message.semantic = .known semantic

/-- The compiler's own copy of the tag derivation. A message outside the table has
its wire symbol for a tag, where the framing package has no tag for it. -/
def legacyTypeTag (message : MessageSymbol) : List UInt8 :=
  match profile.frameGrammar.typeMode with
  | .known .tableIndexedSymbol =>
    match profile.messages.findIdx? fun candidate =>
        candidate.wireSymbol = message.wireSymbol with
    | some index =>
      [UInt8.ofNat index,
        (crc32ChecksumIEEE (profile.id ++ asciiBytes ":" ++ message.wireSymbol)).toUInt8]
    | none => message.wireSymbol
  | .known .derivedFromState =>
    putUint32
      (crc32ChecksumIEEE (profile.id ++ asciiBytes ":state:" ++ message.wireSymbol))
  | .known .derivedFromHeaderOrder =>
    putUint32 (crc32ChecksumIEEE
      (sprintHeaderOrder profile.frameGrammar.headerOrder ++ asciiBytes ":" ++
        message.wireSymbol))
  | _ => message.wireSymbol

def legacyStreamMask (salt : String) : UInt32 :=
  crc32ChecksumIEEE (profile.id ++ asciiBytes ":" ++ asciiBytes salt ++ asciiBytes ":" ++
    sprintHeaderOrder profile.frameGrammar.headerOrder)

def projectSecurity (effective : SealedPolicy) : SecurityV1 where
  compilerSecurityVersion := utf8Bytes profile.compatibility.compilerSecurityVersion
  minimumRuntimeVersion := utf8Bytes profile.compatibility.minimumRuntimeVersion
  policy := {
    securityVersion := utf8Bytes effective.securityVersion
    transcriptMode := effective.transcriptMode
    kdfSuite := effective.kdfSuite
    aeadSuite := effective.aeadSuite
    macSuite := effective.macSuite
    nonceMode := effective.nonceMode
    replayPolicy := effective.replayPolicy
    replayWindowSize := effective.replayWindowSize
    downgradePolicy := effective.downgradePolicy
    capabilityNegotiationPolicy := effective.capabilityNegotiationPolicy
    profileCompatibilityPolicy := effective.profileCompatibilityPolicy
    keyRotationPolicy := effective.keyRotationPolicy
    configValidationPolicy := effective.configValidationPolicy
    secureEnvelopeMode := effective.secureEnvelopeMode
    maxSessionMessages := effective.maxSessionMessages
    maxKeyLifetimeMessages := effective.maxKeyLifetimeMessages }
  clientMandatoryCapabilities := effective.clientMandatoryCapabilities
  relayMandatoryCapabilities := effective.serverMandatoryCapabilities
  selectedCapabilities := effective.selectedCapabilities

def projectMessage (message : MessageSymbol) : MessageV1 :=
  ⟨message.semantic, message.wireSymbol, message.direction, message.minPayloadSize,
    message.maxPayloadSize⟩

/-- The program which `CompileV1` puts together before it checks it. -/
def projectProgram (sourceHash : FixedBytes 32)
    (data padding : MessageSymbol) (effective : SealedPolicy) : ProgramV1 where
  schema := schemaV1
  programID := deriveProgramIDV1 sourceHash
  sourceSchemaVersion := utf8Bytes profile.version
  sourceGenerationHash := sourceHash
  messages := [projectMessage data, projectMessage padding]
  frame := {
    lengthMode := profile.frameGrammar.lengthMode
    typeMode := profile.frameGrammar.typeMode
    headerOrder := profile.frameGrammar.headerOrder
    fragmentationMode := profile.frameGrammar.fragmentationMode
    checksumMode := profile.frameGrammar.checksumMode
    paddingPlacement := profile.frameGrammar.paddingPlacement
    compiled := {
      dataTypeTag := legacyTypeTag profile data
      paddingTypeTag := legacyTypeTag profile padding
      profileXORStreamMask := legacyStreamMask profile "profile"
      tableStreamMask := legacyStreamMask profile "table"
      crc32PrefixState := crc32Update 0 profile.id } }
  scheduler := ⟨profile.scheduler.mode, utf8Bytes profile.scheduler.priorityMode,
    profile.scheduler.maxBatchBytes, profile.scheduler.flushIntervalMs,
    profile.scheduler.maxInFlightFrames⟩
  stream := ⟨profile.stream.idEncodingMode, profile.stream.maxConcurrentStreams⟩
  padding := profile.padding
  security := projectSecurity profile effective
  limits := ⟨profile.limits.maxFrameBytes, profile.limits.maxPayloadBytes,
    profile.limits.maxSessionMillis, profile.security.maxSessionMessages,
    profile.security.maxKeyLifetimeMessages⟩

/-! ## The compiler -/

/-- Every failure of a step is the same rejection. -/
def rejecting {ε α : Type} : Except ε α → Except CompileError α
  | .ok value => .ok value
  | .error _ => .error .rejected

/-- The digest which a hexadecimal text stands for. -/
def decodeSourceHash (text : String) : Except CompileError (FixedBytes 32) :=
  match hexDecode text with
  | none => .error .rejected
  | some raw => do
    ensure (raw.length = 32) .rejected
    .ok (fixedBytes 32 raw)

/-- The last part of `CompileV1`: the program survives validation and a round trip
through its encoding, which does not tell the profile identifier. -/
def sealProgram (cbor : ProgramCBOR) (id : List UInt8) (program : ProgramV1) :
    Except CompileError ProgramV1 := do
  ensure (program.frame.compiled.dataTypeTag ≠ program.frame.compiled.paddingTypeTag)
    .projectionCollision
  rejecting (validateV1 program)
  let encoded ← rejecting (encodeV1 cbor program)
  let decoded ← rejecting (decodeV1 cbor encoded)
  ensure (program = decoded) .rejected
  ensure (containsText encoded id = false) .projectionCollision
  .ok decoded

def compileV1 (p : Primitives) (encoding : ProfileEncoding) (cbor : ProgramCBOR)
    (input : InputV1) : Except CompileError ProgramV1 :=
  match input.profile with
  | none => .error .rejected
  | some profile => do
    rejecting (validate encoding profile)
    ensure (profile.generationHash ≠ "") .rejected
    let canonical ← rejecting (canonicalHash encoding profile)
    ensure (canonical = profile.generationHash) .rejected
    let sourceHash ← decodeSourceHash canonical
    let effective ← rejecting (buildEffectiveSecurityPolicy p encoding profile
      input.clientMandatoryFeatures input.relayMandatoryFeatures input.selectedFeatures)
    rejecting (validateEffectiveSecurityPolicy p effective)
    match messageBySemantic profile .data, messageBySemantic profile .padding with
    | some data, some padding => do
      ensure (countSemantic profile.messages .data = 1 ∧
        countSemantic profile.messages .padding = 1) .rejected
      ensure (isSafeWireSymbolV1 data.wireSymbol ∧
        isSafeWireSymbolV1 padding.wireSymbol) .projectionCollision
      sealProgram cbor profile.id (projectProgram profile sourceHash data padding effective)
    | _, _ => .error .rejected

/-! ## What a compilation has checked -/

theorem rejecting_eq_ok {ε α : Type} {result : Except ε α} {value : α} :
    rejecting result = .ok value ↔ result = .ok value := by
  cases result <;> simp [rejecting]

theorem decodeSourceHash_eq_ok {text : String} {digest : FixedBytes 32} :
    decodeSourceHash text = .ok digest ↔ hexDecode text = some digest.toList := by
  unfold decodeSourceHash
  cases hdecode : hexDecode text with
  | none => simp
  | some raw =>
    simp only [check_ok_iff, ensure_eq_ok, Except.ok.injEq, Option.some.injEq]
    constructor
    · rintro ⟨hlength, rfl⟩
      exact (toList_fixedBytes hlength).symm
    · rintro rfl
      refine ⟨List.Vector.toList_length digest, ?_⟩
      exact fixedBytes_toList digest

/-- The program passes its last checks. -/
structure SealsTo (cbor : ProgramCBOR) (id : List UInt8) (program : ProgramV1) : Prop where
  tags : program.frame.compiled.dataTypeTag ≠ program.frame.compiled.paddingTypeTag
  codec : ∃ encoded, encodeV1 cbor program = .ok encoded ∧
    cbor.validateCore encoded = true ∧
    cbor.decodeProgramFieldsV1 encoded = .ok program ∧ containsText encoded id = false

variable {cbor : ProgramCBOR}

theorem SealsTo.valid {id : List UInt8} {program : ProgramV1}
    (h : SealsTo cbor id program) : validateV1 program = .ok () := by
  obtain ⟨encoded, hencode, -⟩ := h.codec
  exact (encodeV1_eq_ok.mp hencode).1

theorem sealProgram_eq_ok {id : List UInt8} {program result : ProgramV1} :
    sealProgram cbor id program = .ok result ↔ result = program ∧ SealsTo cbor id program := by
  simp only [sealProgram, bind_ok_iff, ensure_ok_iff, rejecting_eq_ok, decodeV1_eq_ok, exists_const]
  constructor
  · rintro ⟨htags, _, -, encoded, hencode, decoded, ⟨hcore, hfields, -⟩, rfl, hid, ⟨⟩⟩
    exact ⟨rfl, htags, encoded, hencode, hcore, hfields, hid⟩
  · rintro ⟨rfl, hseals⟩
    obtain ⟨encoded, hencode, hcore, hfields, hid⟩ := hseals.codec
    exact ⟨hseals.tags, (), hseals.valid, encoded, hencode, _, ⟨hcore, hfields, hencode⟩, rfl, hid,
      rfl⟩

/-- A profile compiles, with the values the compiler finds on the way. -/
structure Compilation (p : Primitives) (encoding : ProfileEncoding) (cbor : ProgramCBOR)
    (input : InputV1) (profile : Profile) (sourceHash : FixedBytes 32)
    (effective : SealedPolicy) (data padding : MessageSymbol) : Prop where
  given : input.profile = some profile
  valid : validate encoding profile = .ok ()
  hashed : profile.generationHash ≠ ""
  canonical : canonicalHash encoding profile = .ok profile.generationHash
  source : hexDecode profile.generationHash = some sourceHash.toList
  built : buildEffectiveSecurityPolicy p encoding profile input.clientMandatoryFeatures
    input.relayMandatoryFeatures input.selectedFeatures = .ok effective
  accepted : validateEffectiveSecurityPolicy p effective = .ok ()
  dataFound : messageBySemantic profile .data = some data
  paddingFound : messageBySemantic profile .padding = some padding
  once : countSemantic profile.messages .data = 1 ∧ countSemantic profile.messages .padding = 1
  safe : isSafeWireSymbolV1 data.wireSymbol ∧ isSafeWireSymbolV1 padding.wireSymbol
  sealed : SealsTo cbor profile.id (projectProgram profile sourceHash data padding effective)

/-- The compiler returns the projection of the profile, when all its checks pass. -/
theorem compileV1_eq_ok {p : Primitives} {encoding : ProfileEncoding}
    {input : InputV1} {program : ProgramV1} :
    compileV1 p encoding cbor input = .ok program ↔
      ∃ profile sourceHash effective data padding,
        Compilation p encoding cbor input profile sourceHash effective data padding ∧
          program = projectProgram profile sourceHash data padding effective := by
  unfold compileV1
  constructor
  · intro h
    cases hprofile : input.profile with
    | none =>
      rw [hprofile] at h
      cases h
    | some profile =>
      simp only [hprofile, bind_ok_iff, ensure_ok_iff, exists_const, rejecting_eq_ok,
        decodeSourceHash_eq_ok] at h
      obtain ⟨_, hvalid, hhashed, _, hcanonical, rfl, sourceHash, hsource, effective, hbuilt, _,
        haccepted, h⟩ := h
      split at h
      · rename_i data padding hdata hpadding
        rw [check_ok_iff, check_ok_iff, ensure_eq_ok, ensure_eq_ok, sealProgram_eq_ok] at h
        obtain ⟨honce, hsafe, rfl, hsealed⟩ := h
        exact ⟨profile, sourceHash, effective, data, padding,
          ⟨hprofile, hvalid, hhashed, hcanonical, hsource, hbuilt, haccepted, hdata, hpadding,
            honce, hsafe, hsealed⟩, rfl⟩
      · cases h
  · rintro ⟨profile, sourceHash, effective, data, padding, h, rfl⟩
    rw [h.given]
    simp only [h.valid, h.canonical, h.built, h.accepted, h.dataFound, h.paddingFound,
      rejecting, ok_bind, ensure_of_pos h.hashed, ensure_of_pos h.once, ensure_of_pos h.safe,
      decodeSourceHash_eq_ok.mpr h.source]
    exact sealProgram_eq_ok.mpr ⟨rfl, h.sealed⟩

end Kurdistan.Compiler
