import Kurdistan.Security.PolicyEncoding

/-!
# Canonical context encodings

The canonical bytes of the compatibility, limit and configuration blocks, of the
mode binding, and the context hash which binds them to a transcript. Each
encoder validates before it writes, with the checks in source order.
-/

namespace Kurdistan.Security

open Support Protocol

variable (p : Primitives)

def contextHash (label : String) (parts : List (List UInt8)) : FixedBytes 32 :=
  p.labelledHash label parts

/-! ## Blocks -/

variable (v : CompatibilityBlockV1)

/-- The texts of a compatibility block, in order. -/
def CompatibilityBlockV1.texts : List String :=
  [v.schemaVersion, v.compilerSecurityVersion, v.minimumRuntimeVersion]

/-- The lists which must not be empty. -/
def CompatibilityBlockV1.requiredLists : List (List String) :=
  [v.supportedSecuritySuites, v.requiredCapabilities, v.supportedCarrierFamilies]

def CompatibilityBlockV1.optionalLists : List (List String) :=
  [v.supportedProxyFeatures, v.supportedStreamFeatures]

/-- Succeed when the strict encoder accepts the list. -/
def checkStrictList (values : List String) : Except WrappedError Unit := do
  let _ ← encodeStrictStringListV1 values
  return ()

def validateCompatibilityBlockV1 : Except WrappedError Unit := do
  ensureAll validateASCII v.texts
  ensureAll (fun values => do
      ensure (values ≠ []) (invalidTranscript "missing required compatibility list")
      checkStrictList values) v.requiredLists
  ensureAll checkStrictList v.optionalLists
  ensure (v.maxEnvelopeBytes ≠ 0 ∧ v.maxStreamCount ≠ 0 ∧ v.maxReplayWindow ≠ 0)
    (invalidTranscript "invalid compatibility ceiling")

/-- The lists of a compatibility block as its encoder writes them. -/
def compatibilityListBytes : List (List UInt8) :=
  (v.requiredLists ++ v.optionalLists).map listBytes

def canonicalCompatibilityBlockV1 :
    Except WrappedError (List UInt8) := do
  validateCompatibilityBlockV1 v
  return framed (v.texts.map utf8Bytes) ++ framed (compatibilityListBytes v) ++
    writeU32 v.maxEnvelopeBytes ++ writeU32 v.maxStreamCount ++ writeU32 v.maxReplayWindow

def compatibilityBlockHashV1 (p : Primitives) (v : CompatibilityBlockV1) :
    Except WrappedError (FixedBytes 32) := do
  let raw ← canonicalCompatibilityBlockV1 v
  return contextHash p "kurdistan/context/v1/compatibility-block" [raw]

def validateLimitBlockV1 (v : LimitBlockV1) : Except WrappedError Unit :=
  ensure (v.maxFrameBytes ≠ 0 ∧ v.maxPayloadBytes ≠ 0 ∧ v.maxStates ≠ 0 ∧
      v.maxTransitions ≠ 0 ∧ v.maxSessionMillis ≠ 0 ∧ v.carrierMaxEnvelopeBytes ≠ 0 ∧
      v.carrierMaxQueueDepth ≠ 0 ∧ v.sessionMaxConcurrentStreams ≠ 0 ∧
      v.carrierMaxEnvelopeBytes ≤ v.maxFrameBytes)
    (invalidTranscript "invalid retained limit")

def canonicalLimitBlockV1 (v : LimitBlockV1) : Except WrappedError (List UInt8) := do
  validateLimitBlockV1 v
  return writeU32 v.maxFrameBytes ++ writeU32 v.maxPayloadBytes ++ writeU32 v.maxStates ++
    writeU32 v.maxTransitions ++ putUint64 v.maxSessionMillis ++
    writeU32 v.carrierMaxEnvelopeBytes ++ writeU32 v.carrierMaxQueueDepth ++
    writeU32 v.sessionMaxConcurrentStreams

def limitBlockHashV1 (p : Primitives) (v : LimitBlockV1) :
    Except WrappedError (FixedBytes 32) := do
  let raw ← canonicalLimitBlockV1 v
  return contextHash p "kurdistan/context/v1/limit-block" [raw]

def SelectedSuiteV1.texts (v : SelectedSuiteV1) : List String :=
  [v.kdfSuite.text KDFSuite.word, v.aeadSuite.text AEADSuite.word, v.macSuite.text MACSuite.word]

def validateSelectedSuiteV1 (v : SelectedSuiteV1) : Except WrappedError Unit :=
  ensureAll validateASCII v.texts

def selectedSuiteBytes (v : SelectedSuiteV1) : List UInt8 :=
  framed (v.texts.map utf8Bytes)

def canonicalSelectedSuiteV1 (v : SelectedSuiteV1) : Except WrappedError (List UInt8) := do
  validateSelectedSuiteV1 v
  return selectedSuiteBytes v

def ConfigSourceBlockV1.hashes (v : ConfigSourceBlockV1) : List (FixedBytes 32) :=
  [v.profileHash, v.effectivePolicyHash, v.selectedCapabilityHash, v.compatibilityBlockHash,
    v.limitBlockHash]

def validateConfigSourceBlockV1 (v : ConfigSourceBlockV1) : Except WrappedError Unit := do
  validateASCII v.profileID
  validateASCII v.securityVersion
  validateSelectedSuiteV1 v.selectedSuite
  validateASCII v.adapterClass
  ensureAll (fun value => ensure (allZero32 value = false)
    (invalidTranscript "zero config-source hash")) v.hashes

def canonicalConfigSourceBlockV1 (v : ConfigSourceBlockV1) :
    Except WrappedError (List UInt8) := do
  validateConfigSourceBlockV1 v
  return writeLP (utf8Bytes v.profileID) ++ v.profileHash.toList ++
    writeLP (utf8Bytes v.securityVersion) ++ writeLP (selectedSuiteBytes v.selectedSuite) ++
    v.effectivePolicyHash.toList ++ v.selectedCapabilityHash.toList ++
    writeLP (utf8Bytes v.adapterClass) ++ v.compatibilityBlockHash.toList ++
    v.limitBlockHash.toList

def configSourceBlockHashV1 (p : Primitives) (v : ConfigSourceBlockV1) :
    Except WrappedError (FixedBytes 32) := do
  let raw ← canonicalConfigSourceBlockV1 v
  return contextHash p "kurdistan/context/v1/config-source-block" [raw]

/-- The hash of the public policy bytes. -/
def effectivePolicyHashV1 (policy : SealedPolicy) :
    Except WrappedError (FixedBytes 32) := do
  let raw ← encodePolicyV1 p policy
  return contextHash p "kurdistan/policy/v1/effective" [raw]

/-! ## Capability sets -/

/-- The features of `DefaultCapabilities`. -/
def knownCapabilities : List String :=
  ["multi_stream", "proxy_semantics", "carrier_abstraction", "adapter_interface",
    "carrier_loss_recovery", "carrier_backpressure", "generated_backend",
    "transcript_binding", "replay_window", "nonce_schedule"]

/-- The loop of `canonicalCapabilities`: unknown values are refused and repeated
ones dropped. -/
def collectCapabilities : List String → List String → Except WrappedError (List String)
  | _, [] => .ok []
  | seen, feature :: rest => do
    ensure (feature ∈ knownCapabilities)
      ⟨.invalidConfig, "unknown capability %q", [feature]⟩
    if feature ∈ seen then collectCapabilities seen rest
    else do
      let tail ← collectCapabilities (feature :: seen) rest
      return feature :: tail

def canonicalCapabilities (features : List String) : Except WrappedError (List String) := do
  let out ← collectCapabilities [] features
  return sortTexts out

/-- The digest of a capability set, before it is written in hexadecimal. -/
def capabilitySetHash (features : List String) :
    Except WrappedError (FixedBytes 32) := do
  let caps ← canonicalCapabilities features
  return p.hash (p.marshalCapabilities caps)

def selectedCapabilityHashV1 (values : List String) :
    Except WrappedError (FixedBytes 32) := do
  ensure (values ≠ []) (invalidTranscript "empty selected capability set")
  checkStrictList values
  match capabilitySetHash p values with
  | .error _ => .error (invalidTranscript "invalid selected capability set")
  | .ok out => do
    ensure (allZero32 out = false) (invalidTranscript "zero selected capability hash")
    return out

/-! ## The mode binding -/

def knownCarrierFamilyV1 (value : String) : Bool :=
  value = "tls13-tcp" ∨ value ∈ carrierFamilies

/-- The adapter classes a mode binding may name. -/
def knownAdapterClasses : List String :=
  ["one_flow_one_stream", "priority_mapped_stream", "metadata_bound_stream",
    "state_derived_mapping"]

variable (binding : HandshakeModeBinding)

def HandshakeModeBinding.lists : List (List String) :=
  [binding.clientOptional, binding.serverOptional, binding.featureVectors]

/-- The hashes only the full binding writes. -/
def HandshakeModeBinding.policyHashes : List (FixedBytes 32) :=
  [binding.framingPolicyHash, binding.stateMachinePolicyHash, binding.schedulerPolicyHash,
    binding.paddingPolicyHash, binding.streamPolicyHash, binding.proxyPolicyHash,
    binding.carrierContextHash]

/-- Write the lists of a binding, each sorted and checked. -/
def writeSortedLists : List (List String) → Except WrappedError (List UInt8)
  | [] => .ok []
  | values :: rest => do
    let raw ← encodeStringListV1 values
    let tail ← writeSortedLists rest
    return writeLP raw ++ tail

def writeBindingCapabilities :
    Except WrappedError (List UInt8) := do
  ensure (binding.featureVectors ≠ [])
    (invalidTranscript "missing compatibility feature vectors")
  writeSortedLists binding.lists

def writeBindingCarrier :
    Except WrappedError (List UInt8) := do
  validateASCII binding.carrierFamily
  validateASCII binding.localAdapterClass
  ensure (knownCarrierFamilyV1 binding.carrierFamily = true ∧
      binding.localAdapterClass ∈ knownAdapterClasses ∧
      allZero32 binding.carrierPolicyHash = false ∧ binding.envelopeLimit ≠ 0 ∧
      binding.maxFrameBytes ≠ 0 ∧ binding.envelopeLimit ≤ binding.maxFrameBytes ∧
      binding.maxFrameBytes ≤ 2 ^ 20)
    (invalidTranscript "invalid carrier binding")
  return writeLP (utf8Bytes binding.carrierFamily) ++ binding.carrierPolicyHash.toList ++
    writeU32 binding.envelopeLimit ++ writeLP (utf8Bytes binding.localAdapterClass)

def writeBindingPolicies :
    Except WrappedError (List UInt8) := do
  ensureAll (fun value => ensure (allZero32 value = false)
    (invalidTranscript "invalid full binding")) binding.policyHashes
  return binding.policyHashes.flatMap List.Vector.toList

/-- The binding a transcript mode asks for. -/
def bindingBody (mode : TranscriptMode) (binding : HandshakeModeBinding) :
    Except WrappedError (List UInt8) :=
  match mode with
  | .canonicalV1 => .ok []
  | .capabilitiesV1 => writeBindingCapabilities binding
  | .carrierBindingV1 => writeBindingCarrier binding
  | .fullBindingV1 => do
    let capabilities ← writeBindingCapabilities binding
    let carrier ← writeBindingCarrier binding
    let policies ← writeBindingPolicies binding
    return capabilities ++ carrier ++ policies

def canonicalHandshakeModeBinding (mode : Choice TranscriptMode)
    (binding : HandshakeModeBinding) : Except WrappedError (List UInt8) :=
  match mode with
  | .other _ => .error (invalidTranscript "unknown transcript mode")
  | .known mode => do
    let body ← bindingBody mode binding
    return writeLP (asciiBytes "kurdistan/transcript/v1/" ++ asciiBytes mode.word) ++ body

/-- Every hash of an authenticated binding. -/
def HandshakeModeBinding.hashes : List (FixedBytes 32) :=
  binding.carrierPolicyHash :: binding.policyHashes ++
    [binding.compatibilityBlockHash, binding.limitBlockHash, binding.configSourceBlockHash]

/-- The bytes of an authenticated binding around its canonical blocks. -/
def authenticatedBindingBytes (mode : TranscriptMode) (binding : HandshakeModeBinding)
    (compatibility limits config : List UInt8) : List UInt8 :=
  writeLP (asciiBytes mode.word) ++ framed (binding.lists.map listBytes) ++
    writeLP (utf8Bytes binding.carrierFamily) ++ binding.carrierPolicyHash.toList ++
    writeU32 binding.envelopeLimit ++ writeU32 binding.maxFrameBytes ++
    writeLP (utf8Bytes binding.localAdapterClass) ++
    binding.policyHashes.flatMap List.Vector.toList ++
    writeLP compatibility ++ binding.compatibilityBlockHash.toList ++
    writeLP limits ++ binding.limitBlockHash.toList ++
    writeLP config ++ binding.configSourceBlockHash.toList

def canonicalAuthenticatedModeBindingV1 (p : Primitives) (mode : Choice TranscriptMode)
    (binding : HandshakeModeBinding) : Except WrappedError (List UInt8) :=
  match mode with
  | .other _ => .error (invalidTranscript "unknown transcript mode")
  | .known mode => do
    validateASCII binding.carrierFamily
    validateASCII binding.localAdapterClass
    ensure (binding.featureVectors ≠ [] ∧ binding.envelopeLimit ≠ 0 ∧
        binding.maxFrameBytes ≠ 0 ∧ binding.envelopeLimit ≤ binding.maxFrameBytes ∧
        binding.maxFrameBytes ≤ 2 ^ 20 ∧
        knownCarrierFamilyV1 binding.carrierFamily = true ∧
        binding.localAdapterClass ∈ knownAdapterClasses)
      (invalidTranscript "invalid authenticated mode binding")
    ensure (binding.envelopeLimit = binding.limitBlock.carrierMaxEnvelopeBytes ∧
        binding.maxFrameBytes = binding.limitBlock.maxFrameBytes)
      (invalidTranscript "contradictory retained limits")
    ensureAll checkStrictList binding.lists
    ensureAll (fun value => ensure (allZero32 value = false)
      (invalidTranscript "zero authenticated binding hash")) binding.hashes
    let compatibility ← canonicalCompatibilityBlockV1 binding.compatibilityBlock
    let wantCompatibility ← compatibilityBlockHashV1 p binding.compatibilityBlock
    ensure (wantCompatibility = binding.compatibilityBlockHash)
      (invalidTranscript "compatibility hash mismatch")
    let limits ← canonicalLimitBlockV1 binding.limitBlock
    let wantLimits ← limitBlockHashV1 p binding.limitBlock
    ensure (wantLimits = binding.limitBlockHash) (invalidTranscript "limit hash mismatch")
    let config ← canonicalConfigSourceBlockV1 binding.configSourceBlock
    let wantConfig ← configSourceBlockHashV1 p binding.configSourceBlock
    ensure (wantConfig = binding.configSourceBlockHash ∧
        binding.configSourceBlock.compatibilityBlockHash = binding.compatibilityBlockHash ∧
        binding.configSourceBlock.limitBlockHash = binding.limitBlockHash ∧
        binding.configSourceBlock.adapterClass = binding.localAdapterClass)
      (invalidTranscript "config-source binding mismatch")
    return authenticatedBindingBytes mode binding compatibility limits config

/-! ## The context hash -/

structure AuthenticatedContextHashInputV1 where
  effectivePolicy : SealedPolicy
  effectivePolicyHash : FixedBytes 32
  transcriptHash : FixedBytes 32
  selectedSuite : SelectedSuiteV1
  selectedCapabilityHash : FixedBytes 32
  clientProfileHash : FixedBytes 32
  serverProfileHash : FixedBytes 32
  clientModeBinding : HandshakeModeBinding
  serverModeBinding : HandshakeModeBinding

def validateContextBindingV1 (p : Primitives) (input : AuthenticatedContextHashInputV1)
    (binding : HandshakeModeBinding) (profileHash : FixedBytes 32) :
    Except WrappedError (List UInt8) := do
  let compatibility := binding.compatibilityBlock
  let config := binding.configSourceBlock
  let policy := input.effectivePolicy
  ensure (UInt32.ofInt policy.replayWindowSize ≤ compatibility.maxReplayWindow ∧
      binding.limitBlock.sessionMaxConcurrentStreams ≤ compatibility.maxStreamCount ∧
      binding.limitBlock.carrierMaxEnvelopeBytes ≤ compatibility.maxEnvelopeBytes)
    (invalidTranscript "effective value exceeds compatibility ceiling")
  ensure (config.profileID = policy.profileID ∧ config.profileHash = profileHash ∧
      config.securityVersion = policy.securityVersion ∧
      config.selectedSuite = input.selectedSuite ∧
      config.effectivePolicyHash = input.effectivePolicyHash ∧
      config.selectedCapabilityHash = input.selectedCapabilityHash ∧
      compatibility.schemaVersion = policy.schemaVersion ∧
      compatibility.compilerSecurityVersion = policy.compilerSecurityVersion ∧
      compatibility.minimumRuntimeVersion = policy.minimumRuntimeVersion)
    (invalidTranscript "context source mismatch")
  canonicalAuthenticatedModeBindingV1 p policy.transcriptMode binding

/-- The canonical blocks of a binding with their hashes, as the context hash
lists them. -/
def contextBlocks :
    Except WrappedError (List UInt8 × List UInt8 × List UInt8) := do
  let compatibility ← canonicalCompatibilityBlockV1 binding.compatibilityBlock
  let limits ← canonicalLimitBlockV1 binding.limitBlock
  let config ← canonicalConfigSourceBlockV1 binding.configSourceBlock
  return (compatibility, limits, config)

def contextHashV1 (input : AuthenticatedContextHashInputV1) :
    Except WrappedError (FixedBytes 32) := do
  let policy := input.effectivePolicy
  let policyRaw ← encodePolicyV1 p policy
  let wantPolicyHash ← effectivePolicyHashV1 p policy
  ensure (wantPolicyHash = input.effectivePolicyHash ∧
      allZero32 input.transcriptHash = false ∧
      allZero32 input.selectedCapabilityHash = false ∧
      allZero32 input.clientProfileHash = false ∧ allZero32 input.serverProfileHash = false)
    (invalidTranscript "invalid authenticated context identity")
  match (hexDecode policy.profileHash).filter (fun raw => raw.length = 32) with
  | none => .error (invalidTranscript "invalid effective profile hash")
  | some raw =>
    let policyProfileHash := fixedBytes 32 raw
    ensure (allZero32 policyProfileHash = false ∧
        input.clientProfileHash = policyProfileHash ∧
        input.serverProfileHash = policyProfileHash)
      (invalidTranscript "authenticated profile hash mismatch")
  let suiteRaw ← canonicalSelectedSuiteV1 input.selectedSuite
  match selectedCapabilityHashV1 p policy.selectedCapabilities with
  | .error _ => .error (invalidTranscript "selected capability hash mismatch")
  | .ok want =>
    ensure (want = input.selectedCapabilityHash)
      (invalidTranscript "selected capability hash mismatch")
  ensure (input.selectedSuite = policy.toEffectiveSecurityPolicy.selectedSuite)
    (invalidTranscript "selected suite mismatch")
  let clientMode ← validateContextBindingV1 p input input.clientModeBinding input.clientProfileHash
  let serverMode ← validateContextBindingV1 p input input.serverModeBinding input.serverProfileHash
  let (clientCompatibility, clientLimit, clientConfig) ← contextBlocks input.clientModeBinding
  let (serverCompatibility, serverLimit, serverConfig) ← contextBlocks input.serverModeBinding
  return contextHash p "kurdistan/context/v1/authenticated"
    [putUint16 1, policyRaw, input.effectivePolicyHash.toList, input.transcriptHash.toList,
      suiteRaw, input.selectedCapabilityHash.toList, input.clientProfileHash.toList,
      input.serverProfileHash.toList,
      clientCompatibility, input.clientModeBinding.compatibilityBlockHash.toList,
      serverCompatibility, input.serverModeBinding.compatibilityBlockHash.toList,
      clientLimit, input.clientModeBinding.limitBlockHash.toList,
      serverLimit, input.serverModeBinding.limitBlockHash.toList,
      clientConfig, input.clientModeBinding.configSourceBlockHash.toList,
      serverConfig, input.serverModeBinding.configSourceBlockHash.toList,
      clientMode, serverMode]

end Kurdistan.Security
