import Kurdistan.Security.Negotiation

/-!
# Handshake parameters

The public inputs of a handshake, the validation both roles run on them before
anything is sent, and the authenticated context a completed handshake returns.
-/

namespace Kurdistan.Handshake

open Support Security Protocol

inductive FailureCode where
  | invalidEncoding
  | unsupportedVersion
  | outOfOrder
  | unknownIdentity
  | untrustedIdentity
  | signatureInvalid
  | profileMismatch
  | policyFloorRejected
  | policyMismatch
  | ephemeralInvalid
  | entropy
  | keyAgreement
  | keyConfirmation
  | replay
  | internalLimit
  deriving DecidableEq

/-- Replace the error of a computation by a failure code. -/
def orFail {ε α : Type} (code : FailureCode) : Except ε α → Except FailureCode α
  | .ok value => .ok value
  | .error _ => .error code

@[simp] theorem orFail_eq_ok {ε α : Type} {code : FailureCode} {x : Except ε α} {value : α} :
    orFail code x = .ok value ↔ x = .ok value := by
  cases x <;> simp [orFail]

/-! ## Inputs -/

/-- Public inputs of one peer, derived from its profile. -/
structure PeerParameters where
  identityID : List UInt8
  profileID : String
  profileHash : FixedBytes 32
  offerPolicy : SealedPolicy
  floorPolicy : SealedPolicy
  offeredCapabilities : List String
  requiredCapabilities : List String
  modeBinding : HandshakeModeBinding
  sealHash : FixedBytes 32
  deriving Inhabited

structure FirstContactInput where
  client : PeerParameters
  server : PeerParameters
  selectedPolicy : SealedPolicy
  selectedCapabilities : List String
  inboundClientHello : List UInt8
  deriving Inhabited

variable (p : Primitives)

def protocolHash (label : String) (parts : List (List UInt8)) : FixedBytes 32 :=
  p.labelledHash label parts

def isZero32 (value : FixedBytes 32) : Bool := allZeroKeyBytes value.toList

def maxHandshakeBody : ℕ := 2 ^ 20

/-! ## Seals and bindings -/

def sealPeerParameters (peer : PeerParameters) :
    Except WrappedError (FixedBytes 32) := do
  let offer ← encodePolicyV1 p peer.offerPolicy
  let floor ← encodePolicyV1 p peer.floorPolicy
  let offered ← encodeStringListV1 peer.offeredCapabilities
  let required ← encodeStringListV1 peer.requiredCapabilities
  return protocolHash p "kurdistan/handshake/v1/peer-parameters"
    [peer.identityID, utf8Bytes peer.profileID, peer.profileHash.toList, offer, floor, offered,
      required, p.marshalModeBinding peer.modeBinding]

def validateOriginalPeerSeals (input : FirstContactInput) :
    Except FailureCode Unit :=
  ensureAll (fun peer => do
      let want ← orFail .profileMismatch (sealPeerParameters p peer)
      ensure (isZero32 peer.sealHash = false ∧ peer.sealHash = want) .profileMismatch)
    [input.client, input.server]

/-- The capabilities which are offered but not required. -/
def optionalCapabilities (offered required : List String) : List String :=
  offered.filter (· ∉ required)

/-- Check the optional capabilities a binding was stored with against the derived
ones. -/
def checkStoredBinding (mode : Choice TranscriptMode)
    (stored derived : HandshakeModeBinding) : Except FailureCode Unit := do
  let derivedRaw ← orFail .profileMismatch (canonicalAuthenticatedModeBindingV1 p mode derived)
  if stored.clientOptional = [] ∧ stored.serverOptional = [] then pure ()
  else do
    let storedRaw ← orFail .profileMismatch (canonicalAuthenticatedModeBindingV1 p mode stored)
    ensure (storedRaw = derivedRaw) .profileMismatch

def projectedModeBindings (input : FirstContactInput) :
    Except FailureCode (HandshakeModeBinding × HandshakeModeBinding) := do
  let clientOptional :=
    optionalCapabilities input.client.offeredCapabilities input.client.requiredCapabilities
  let serverOptional :=
    optionalCapabilities input.server.offeredCapabilities input.server.requiredCapabilities
  let client := { input.client.modeBinding with clientOptional, serverOptional }
  let server := { input.server.modeBinding with clientOptional, serverOptional }
  checkStoredBinding p input.client.offerPolicy.transcriptMode input.client.modeBinding client
  checkStoredBinding p input.server.offerPolicy.transcriptMode input.server.modeBinding server
  return (client, server)

/-! ## Validation of the public input -/

/-- A lower-case hexadecimal digit. -/
def lowerHexDigit (byte : UInt8) : Bool :=
  (48 ≤ byte ∧ byte ≤ 57) ∨ (97 ≤ byte ∧ byte ≤ 102)

/-- Thirty-two bytes in lower-case hexadecimal. -/
def decodeProfileHash (value : String) : Option (FixedBytes 32) :=
  let bytes := utf8Bytes value
  if bytes.length = 64 ∧ bytes.all lowerHexDigit then
    (hexDecodeBytes bytes).map (fixedBytes 32)
  else none

def canonicalListEqual (left right : List String) : Bool :=
  match encodeStringListV1 left, encodeStringListV1 right with
  | .ok leftRaw, .ok rightRaw => leftRaw = rightRaw
  | _, _ => false

def policySuite (policy : EffectiveSecurityPolicy) : Suite where
  kdfSuite := policy.kdfSuite
  aeadSuite := policy.aeadSuite
  macSuite := policy.macSuite
  transcriptHash := "transcript_sha256_v1"

/-- The checks on each peer alone. -/
def validatePeer (peer : PeerParameters) : Except FailureCode Unit := do
  ensure (peer.identityID ≠ [] ∧ peer.profileID ≠ "" ∧ isZero32 peer.profileHash = false)
    .profileMismatch
  orFail .policyMismatch (validateEffectiveSecurityPolicy p peer.offerPolicy)
  orFail .policyFloorRejected (validateEffectiveSecurityPolicy p peer.floorPolicy)
  ensure (decodeProfileHash peer.offerPolicy.profileHash = some peer.profileHash ∧
    peer.profileID = peer.offerPolicy.profileID) .profileMismatch

variable (input : FirstContactInput)

/-- The mode bindings of both peers are canonically equal and use one mode. -/
def validateModeBindings
    (clientBinding serverBinding : HandshakeModeBinding) : Except FailureCode Unit := do
  let clientMode := input.client.offerPolicy.transcriptMode
  let serverMode := input.server.offerPolicy.transcriptMode
  let client ← orFail .policyMismatch (canonicalHandshakeModeBinding clientMode clientBinding)
  let server ← orFail .profileMismatch (canonicalHandshakeModeBinding serverMode serverBinding)
  ensure (client = server) .profileMismatch
  ensure (clientMode = serverMode ∧ input.selectedPolicy.transcriptMode = clientMode)
    .policyMismatch

/-- The floors of the peers are the floors of the selected policy. -/
def validateFloors : Except FailureCode Unit := do
  let selected := input.selectedPolicy
  ensure (canonicalListEqual input.client.requiredCapabilities
        selected.clientMandatoryCapabilities = true ∧
      canonicalListEqual input.server.requiredCapabilities
        selected.serverMandatoryCapabilities = true)
    .policyFloorRejected
  ensure (selected.downgradePolicy = .known .strictSuiteAndCapabilities →
      canonicalListEqual input.client.requiredCapabilities input.server.requiredCapabilities = true)
    .policyFloorRejected
  ensureAll (fun carrier : SealedPolicy =>
      ensure (canonicalListEqual carrier.clientMandatoryCapabilities
            selected.clientMandatoryCapabilities = true ∧
          canonicalListEqual carrier.serverMandatoryCapabilities
            selected.serverMandatoryCapabilities = true ∧
          canonicalListEqual carrier.selectedCapabilities selected.selectedCapabilities = true)
        .policyFloorRejected)
    [input.client.offerPolicy, input.client.floorPolicy, input.server.offerPolicy,
      input.server.floorPolicy]
  ensure (decodeProfileHash selected.profileHash = some input.client.profileHash ∧
    selected.profileID = input.client.profileID) .profileMismatch
  ensureAll (fun peer : PeerParameters =>
      ensure (decodeProfileHash peer.floorPolicy.profileHash = some peer.profileHash ∧
        peer.floorPolicy.profileID = peer.profileID) .policyFloorRejected)
    [input.client, input.server]

def bilateralInput : BilateralCapabilityInput where
  localOffer := input.client.offeredCapabilities
  peerOffer := input.server.offeredCapabilities
  localFloor := input.client.requiredCapabilities
  peerFloor := input.server.requiredCapabilities
  capabilityNegotiationPolicy := input.selectedPolicy.capabilityNegotiationPolicy
  downgradePolicy := input.selectedPolicy.downgradePolicy
  localSuite := policySuite input.client.offerPolicy.toEffectiveSecurityPolicy
  peerSuite := policySuite input.server.offerPolicy.toEffectiveSecurityPolicy
  localTranscriptMode := input.client.offerPolicy.transcriptMode
  peerTranscriptMode := input.server.offerPolicy.transcriptMode

/-- The supplied selection is the one the bilateral rule computes. -/
def validateSelection (selected : List UInt8) :
    Except FailureCode Unit := do
  let selection ← orFail .policyFloorRejected (selectBilateralCapabilities (bilateralInput input))
  let computed ← orFail .policyFloorRejected (encodeStringListV1 selection)
  ensure (computed = selected) .policyFloorRejected

/-- All five policies have the same public bytes. -/
def validatePolicyBytes (input : FirstContactInput) :
    Except FailureCode Unit := do
  let selected ← orFail .policyMismatch (encodePolicyV1 p input.selectedPolicy)
  let client ← orFail .policyMismatch (encodePolicyV1 p input.client.offerPolicy)
  let server ← orFail .policyMismatch (encodePolicyV1 p input.server.offerPolicy)
  let clientFloor ← orFail .policyMismatch (encodePolicyV1 p input.client.floorPolicy)
  let serverFloor ← orFail .policyMismatch (encodePolicyV1 p input.server.floorPolicy)
  ensure (selected = client ∧ selected = server ∧ selected = clientFloor ∧
    selected = serverFloor) .policyMismatch

/-- What the context hash of an input and a transcript hash is computed from. -/
def contextHashInput (transcriptHash : FixedBytes 32)
    (policyHash capabilityHash : FixedBytes 32)
    (bindings : HandshakeModeBinding × HandshakeModeBinding) :
    AuthenticatedContextHashInputV1 where
  effectivePolicy := input.selectedPolicy
  effectivePolicyHash := policyHash
  transcriptHash := transcriptHash
  selectedSuite := input.selectedPolicy.toEffectiveSecurityPolicy.selectedSuite
  selectedCapabilityHash := capabilityHash
  clientProfileHash := input.client.profileHash
  serverProfileHash := input.server.profileHash
  clientModeBinding := bindings.1
  serverModeBinding := bindings.2

def validateContextSources (input : FirstContactInput)
    (bindings : HandshakeModeBinding × HandshakeModeBinding) : Except FailureCode Unit := do
  let policyHash ← orFail .policyMismatch (effectivePolicyHashV1 p input.selectedPolicy)
  let capabilityHash ← orFail .policyFloorRejected
    (selectedCapabilityHashV1 p input.selectedPolicy.selectedCapabilities)
  let _ ← orFail .profileMismatch (contextHashV1 p
    (contextHashInput input (fixedBytes 32 [1]) policyHash capabilityHash bindings))
  return ()

def validateFirstContactPublicInput (input : FirstContactInput) :
    Except FailureCode Unit := do
  validateOriginalPeerSeals p input
  ensure (input.inboundClientHello.length ≤ 4 + maxHandshakeBody) .invalidEncoding
  ensureAll (validatePeer p) [input.client, input.server]
  orFail .policyMismatch (validateEffectiveSecurityPolicy p input.selectedPolicy)
  ensure (input.client.profileID = input.server.profileID ∧
    input.client.profileHash = input.server.profileHash) .profileMismatch
  let bindings ← projectedModeBindings p input
  validateModeBindings input bindings.1 bindings.2
  let selected ← orFail .policyFloorRejected (encodeStringListV1 input.selectedCapabilities)
  let wantSelected ← orFail .policyFloorRejected
    (encodeStringListV1 input.selectedPolicy.selectedCapabilities)
  ensure (selected ≠ [] ∧ selected = wantSelected) .policyFloorRejected
  validateFloors input
  validateSelection input selected
  validatePolicyBytes p input
  validateContextSources p input bindings

/-! ## The authenticated context -/

/-- The context of a completed handshake. -/
structure AuthenticatedContextSnapshotV1 where
  hashInput : AuthenticatedContextHashInputV1
  clientCompatibilityBlock : CompatibilityBlockV1
  clientCompatibilityBlockHash : FixedBytes 32
  serverCompatibilityBlock : CompatibilityBlockV1
  serverCompatibilityBlockHash : FixedBytes 32
  clientLimitBlock : LimitBlockV1
  clientLimitBlockHash : FixedBytes 32
  serverLimitBlock : LimitBlockV1
  serverLimitBlockHash : FixedBytes 32
  clientConfigSourceBlock : ConfigSourceBlockV1
  clientConfigSourceBlockHash : FixedBytes 32
  serverConfigSourceBlock : ConfigSourceBlockV1
  serverConfigSourceBlockHash : FixedBytes 32
  contextHash : FixedBytes 32

/-- The snapshot around a hash input and its hash. -/
def contextSnapshot (hashInput : AuthenticatedContextHashInputV1)
    (contextHash : FixedBytes 32) : AuthenticatedContextSnapshotV1 where
  hashInput := hashInput
  clientCompatibilityBlock := hashInput.clientModeBinding.compatibilityBlock
  clientCompatibilityBlockHash := hashInput.clientModeBinding.compatibilityBlockHash
  serverCompatibilityBlock := hashInput.serverModeBinding.compatibilityBlock
  serverCompatibilityBlockHash := hashInput.serverModeBinding.compatibilityBlockHash
  clientLimitBlock := hashInput.clientModeBinding.limitBlock
  clientLimitBlockHash := hashInput.clientModeBinding.limitBlockHash
  serverLimitBlock := hashInput.serverModeBinding.limitBlock
  serverLimitBlockHash := hashInput.serverModeBinding.limitBlockHash
  clientConfigSourceBlock := hashInput.clientModeBinding.configSourceBlock
  clientConfigSourceBlockHash := hashInput.clientModeBinding.configSourceBlockHash
  serverConfigSourceBlock := hashInput.serverModeBinding.configSourceBlock
  serverConfigSourceBlockHash := hashInput.serverModeBinding.configSourceBlockHash
  contextHash := contextHash

structure AuthenticatedContextV1 where
  snapshot : AuthenticatedContextSnapshotV1
  sealHash : FixedBytes 32

def compatibilityBlockEqual (left right : CompatibilityBlockV1) : Bool :=
  match canonicalCompatibilityBlockV1 left, canonicalCompatibilityBlockV1 right with
  | .ok leftRaw, .ok rightRaw => leftRaw = rightRaw
  | _, _ => false

/-- The blocks of a snapshot are those of its mode bindings. -/
def contextSnapshotBindingsMatch (snapshot : AuthenticatedContextSnapshotV1) : Bool :=
  let client := snapshot.hashInput.clientModeBinding
  let server := snapshot.hashInput.serverModeBinding
  compatibilityBlockEqual snapshot.clientCompatibilityBlock client.compatibilityBlock ∧
    snapshot.clientCompatibilityBlockHash = client.compatibilityBlockHash ∧
    compatibilityBlockEqual snapshot.serverCompatibilityBlock server.compatibilityBlock ∧
    snapshot.serverCompatibilityBlockHash = server.compatibilityBlockHash ∧
    snapshot.clientLimitBlock = client.limitBlock ∧
    snapshot.clientLimitBlockHash = client.limitBlockHash ∧
    snapshot.serverLimitBlock = server.limitBlock ∧
    snapshot.serverLimitBlockHash = server.limitBlockHash ∧
    snapshot.clientConfigSourceBlock = client.configSourceBlock ∧
    snapshot.clientConfigSourceBlockHash = client.configSourceBlockHash ∧
    snapshot.serverConfigSourceBlock = server.configSourceBlock ∧
    snapshot.serverConfigSourceBlockHash = server.configSourceBlockHash

def contextSeal (contextHash : FixedBytes 32) : FixedBytes 32 :=
  protocolHash p "kurdistan/context/v1/provenance-seal" [contextHash.toList]

def AuthenticatedContextV1.valid (c : AuthenticatedContextV1) : Bool :=
  isZero32 c.sealHash = false ∧ isZero32 c.snapshot.contextHash = false ∧
    c.sealHash = contextSeal p c.snapshot.contextHash ∧
    contextSnapshotBindingsMatch c.snapshot ∧
    contextHashV1 p c.snapshot.hashInput = .ok c.snapshot.contextHash

def newAuthenticatedContextV1 (input : FirstContactInput)
    (transcriptHash : FixedBytes 32) : Except FailureCode AuthenticatedContextV1 := do
  let bindings ← projectedModeBindings p input
  let policyHash ← orFail .policyMismatch (effectivePolicyHashV1 p input.selectedPolicy)
  let capabilityHash ← orFail .policyFloorRejected
    (selectedCapabilityHashV1 p input.selectedPolicy.selectedCapabilities)
  let hashInput := contextHashInput input transcriptHash policyHash capabilityHash bindings
  let contextHash ← orFail .profileMismatch (contextHashV1 p hashInput)
  let context : AuthenticatedContextV1 :=
    { snapshot := contextSnapshot hashInput contextHash, sealHash := contextSeal p contextHash }
  ensure (context.valid p = true) .profileMismatch
  return context

/-- The context of a successful construction is the snapshot of its input. -/
theorem newAuthenticatedContextV1_hashInput {p : Primitives} {input : FirstContactInput}
    {transcriptHash : FixedBytes 32} {context : AuthenticatedContextV1}
    (h : newAuthenticatedContextV1 p input transcriptHash = .ok context) :
    context.snapshot.hashInput.effectivePolicy = input.selectedPolicy ∧
      context.snapshot.hashInput.transcriptHash = transcriptHash := by
  simp only [newAuthenticatedContextV1, bind_ok_iff] at h
  obtain ⟨bindings, -, policyHash, -, capabilityHash, -, contextHash, -, -, -, hcontext⟩ := h
  cases hcontext
  exact ⟨rfl, rfl⟩

/-! ## Credentials -/

structure Dependencies where
  /-- The private key of a local identity. -/
  identity : List UInt8 → Option (List UInt8)
  /-- The trusted public key of a peer identity. -/
  trust : List UInt8 → Option (List UInt8)

/-- `ed25519.NewKeyFromSeed`. -/
def newKeyFromSeed (seed : List UInt8) : List UInt8 :=
  seed ++ (p.publicKey seed).toList

/-- The public half of an Ed25519 private key. -/
def publicHalf (privateKey : List UInt8) : List UInt8 := privateKey.drop 32

def loadCredentials (own peer : PeerParameters) (deps : Dependencies) :
    Except FailureCode (List UInt8 × List UInt8) :=
  match deps.identity own.identityID with
  | none => .error .unknownIdentity
  | some privateKey => do
    ensure (privateKey.length = 64) .untrustedIdentity
    ensure (privateKey = newKeyFromSeed p (privateKey.take 32)) .untrustedIdentity
    match deps.trust peer.identityID with
    | none => .error .unknownIdentity
    | some publicKey => do
      ensure (publicKey.length = 32) .untrustedIdentity
      ensure (allZeroKeyBytes publicKey = false) .untrustedIdentity
      return (privateKey, publicKey)

/-! ## The replay cache -/

/-- The accepted hello keys of a runtime. No key is ever evicted. -/
structure HandshakeReplayCache where
  seen : List (FixedBytes 32)
  capacity : Int

def newHandshakeReplayCache (capacity : Int) : Except FailureCode HandshakeReplayCache := do
  ensure (0 < capacity ∧ capacity ≤ 65536) .internalLimit
  return { seen := [], capacity }

def HandshakeReplayCache.record (c : HandshakeReplayCache) (key : FixedBytes 32) :
    Except FailureCode HandshakeReplayCache := do
  ensure (key ∉ c.seen) .replay
  ensure ((c.seen.length : Int) < c.capacity) .internalLimit
  return { c with seen := key :: c.seen }

theorem HandshakeReplayCache.record_eq_ok {c c' : HandshakeReplayCache} {key : FixedBytes 32}
    (h : c.record key = .ok c') : key ∉ c.seen ∧ c'.seen = key :: c.seen := by
  simp only [HandshakeReplayCache.record, check_ok_iff, ensure_eq_ok] at h
  obtain ⟨hfresh, -, hcache⟩ := h
  cases hcache
  exact ⟨hfresh, rfl⟩

end Kurdistan.Handshake
