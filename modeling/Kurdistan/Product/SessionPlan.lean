import Kurdistan.Support.Subsequence
import Kurdistan.Product.ProfileCodec

/-!
# Session plans

A plan is what a client may do in one session: the part of a runtime policy which a
request leaves. `buildAuthorityV2` selects it, `validateV2At` checks a plan against the
policy inside it, and the digest commits to every field but the sizes of the buffers.
-/

namespace Kurdistan.Product

open Support Support.Cbor

/-! ## Requests and plans -/

/-- What a client asks for; a zero value leaves the choice to the policy. -/
structure NarrowingRequestV2 where
  strategyID : Text
  endpointIndexes : List UInt8
  ipMode : Choice IPModeV2
  routes : List PrefixV2
  dnsServers : List (List UInt8)
  mtu : UInt16
  payloadProtocols : List (Choice PayloadProtocolV2)
  maxQueuePackets : UInt16
  maxIncompleteOps : UInt16
  maxReconnectAttempts : UInt8
  allowLAN : Bool

structure RequestV2 where
  profile : CanonicalProfileV1
  activationReceipt : VerifiedReceipt
  runtimePolicy : PolicyV2
  requested : NarrowingRequestV2

/-- A plan. Timeouts are in nanoseconds; the last three fields are not exported. -/
structure PlanV2 where
  version : Text
  profileContentID : Text
  profileGeneration : UInt64
  activationReceiptDigest : FixedBytes 32
  runtimePolicyDigest : FixedBytes 32
  liveProgramDigest : FixedBytes 32
  strategyID : Text
  relayKeyID : Text
  carrierFamily : Text
  alpn : Text
  endpoints : List EndpointV2
  clientIPv4 : FixedBytes 4
  dnsIPv4 : FixedBytes 4
  clientIPv6 : FixedBytes 16
  dnsIPv6 : FixedBytes 16
  routes : List PrefixV2
  ipMode : Choice IPModeV2
  mtu : UInt16
  payloadProtocols : List (Choice PayloadProtocolV2)
  maxQueuePackets : UInt16
  maxIncompleteOps : UInt16
  maxReconnectAttempts : UInt8
  dialTimeout : Int
  idleTimeout : Int
  digest : FixedBytes 32
  runtimePolicyBytes : List UInt8
  admittedProfileBytes : ℕ
  signedProxyBufferBytes : UInt32

def versionV2 : Text := asciiBytes "session-plan-v2"
def supportedStrategyTLS13TCP : Text := asciiBytes "strategy.kurd-tls13-tcp"
def maximumIncompleteOpsV2 : UInt16 := 64
def planDigestDomainV2 : List UInt8 := asciiBytes "kurd-session-plan-v2\x00"
def receiptDigestDomainV2 : List UInt8 := asciiBytes "kurd-activation-receipt-v1\x00"
def liveALPNV2 : Text := asciiBytes "kurd/1"

inductive PlanErrorV2 where
  | invalid
  | receipt
  | widening
  | unsupported
  deriving DecidableEq

def zeroDigest : FixedBytes 32 := fixedBytes 32 (List.replicate 32 0)

def boundedV2 (value : Text) (max : ℕ) : Bool := value ≠ [] ∧ value.length ≤ max

/-! ## Digests -/

def writeUint64V2 (value : UInt64) : List UInt8 := putUint64 value

/-- A number which is converted to `uint64`. -/
def writeCountV2 (value : ℕ) : List UInt8 := writeUint64V2 (UInt64.ofNat value)

def writeBytesV2 (value : List UInt8) : List UInt8 := lengthPrefixed value

def writeEndpointV2 (endpoint : EndpointV2) : List UInt8 :=
  [endpoint.priority, endpoint.family] ++ writeCountV2 endpoint.port.toNat ++
    writeBytesV2 endpoint.address

def writePrefixV2 (p : PrefixV2) : List UInt8 := [p.prefixLen] ++ writeBytesV2 p.address

def writeProtocolV2 (protocol : Choice PayloadProtocolV2) : List UInt8 :=
  writeBytesV2 (utf8Bytes (protocol.text PayloadProtocolV2.lexicon.word))

/-- A list, with its length in front. -/
def writeListV2 {α : Type} (write : α → List UInt8) (values : List α) : List UInt8 :=
  writeCountV2 values.length ++ values.flatMap write

variable (plan : PlanV2)

/-- What `effectiveNarrowingV2` hashes. -/
def narrowingInput : List UInt8 :=
  writeUint64V2 plan.profileGeneration ++ plan.runtimePolicyDigest.toList ++
    plan.liveProgramDigest.toList ++ writeBytesV2 plan.carrierFamily ++ writeBytesV2 plan.alpn ++
    writeBytesV2 (utf8Bytes (plan.ipMode.text IPModeV2.lexicon.word)) ++
    writeCountV2 plan.mtu.toNat ++ writeCountV2 plan.maxQueuePackets.toNat ++
    writeCountV2 plan.maxIncompleteOps.toNat ++ writeCountV2 plan.maxReconnectAttempts.toNat ++
    writeUint64V2 (uint64OfInt plan.dialTimeout) ++ writeUint64V2 (uint64OfInt plan.idleTimeout) ++
    plan.clientIPv4.toList ++ plan.dnsIPv4.toList ++ plan.clientIPv6.toList ++
    plan.dnsIPv6.toList ++ writeListV2 writePrefixV2 plan.routes ++
    writeListV2 writeProtocolV2 plan.payloadProtocols

def effectiveNarrowingV2 : FixedBytes 32 := sha256 (narrowingInput plan)

/-- What `digestPlanV2` hashes. -/
def planInput : List UInt8 :=
  planDigestDomainV2 ++ writeBytesV2 plan.profileContentID ++
    plan.activationReceiptDigest.toList ++ writeBytesV2 plan.runtimePolicyBytes ++
    writeBytesV2 (effectiveNarrowingV2 plan).toList ++ writeBytesV2 plan.strategyID ++
    writeBytesV2 plan.relayKeyID ++ writeListV2 writeEndpointV2 plan.endpoints

def digestPlanV2 : FixedBytes 32 := sha256 (planInput plan)

def digestReceiptV2 (receipt : VerifiedReceipt) : FixedBytes 32 :=
  sha256 (receiptDigestDomainV2 ++ writeBytesV2 receipt.contentID ++
    writeBytesV2 receipt.providerID ++ writeBytesV2 receipt.lineageID ++
    writeBytesV2 receipt.authenticatedArtifactSHA256 ++ writeUint64V2 receipt.rootEpoch ++
    writeUint64V2 receipt.revocationEpoch ++ writeUint64V2 receipt.recipientEpoch)

/-! ## Selection -/

def selectStrategyV2 (signed : List Text) (requested : Text) : Except PlanErrorV2 Text :=
  if requested ≠ [] then do
    ensure (requested = supportedStrategyTLS13TCP ∧ requested ∈ signed) .widening
    return requested
  else do
    ensure (supportedStrategyTLS13TCP ∈ signed) .unsupported
    return supportedStrategyTLS13TCP

def orderedUint8SubsetV2 (signed requested : List UInt8) : Bool :=
  orderedSubset (fun a b => decide (a < b)) signed requested

def selectEndpointIndexesV2 (signed requested : List UInt8) : Except PlanErrorV2 (List UInt8) :=
  if requested = [] then return signed
  else do
    ensure (orderedUint8SubsetV2 signed requested = true) .widening
    return requested

def modePermittedV2 (signed : List (Choice IPModeV2)) (requested : Choice IPModeV2) : Bool :=
  requested ∈ signed

variable (mode : Choice IPModeV2)

/-- The text is empty. -/
def isUnset : Bool := mode.text IPModeV2.lexicon.word = ""

def selectIPModeV2 (signed : List (Choice IPModeV2)) (requested : Choice IPModeV2) :
    Except PlanErrorV2 (Choice IPModeV2) :=
  if isUnset requested then
    match signed with
    | [] => .error .unsupported
    | mode :: _ => return mode
  else do
    ensure (modePermittedV2 signed requested = true) .widening
    return requested

/-- The network of a mode. -/
structure NetworkV2 where
  routes : List PrefixV2
  dns : List (List UInt8)
  client4 : FixedBytes 4
  dns4 : FixedBytes 4
  client6 : FixedBytes 16
  dns6 : FixedBytes 16

def includesIPv4 : Bool :=
  mode = .known .ipv4Only ∨ mode = .known .dualStack

def includesIPv6 : Bool :=
  mode = .known .ipv6Only ∨ mode = .known .dualStack

/-- What belongs to the families of a mode. -/
def ofMode {α : Type} (value4 value6 : α) : List α :=
  (if includesIPv4 mode then [value4] else []) ++ if includesIPv6 mode then [value6] else []

variable (policy : PolicyV2)

def selectNetworkV2 (mode : Choice IPModeV2)
    (requestedRoutes : List PrefixV2) (requestedDNS : List (List UInt8)) :
    Except PlanErrorV2 NetworkV2 := do
  let client4 := sliceBytes policy.clientIPv4
  let dns4 := sliceBytes policy.dnsIPv4
  let client6 := sliceBytes policy.clientIPv6
  let dns6 := sliceBytes policy.dnsIPv6
  whenever (includesIPv4 mode) (ensure (client4.length = 4 ∧ dns4.length = 4) .unsupported)
  whenever (includesIPv6 mode) (ensure (client6.length = 16 ∧ dns6.length = 16) .unsupported)
  let wantRoutes := ofMode mode defaultRoute4 defaultRoute6
  let wantDNS := ofMode mode dns4 dns6
  ensure ((requestedRoutes = [] ∨ requestedRoutes = wantRoutes) ∧
    (requestedDNS = [] ∨ requestedDNS = wantDNS)) .widening
  return {
    routes := wantRoutes
    dns := wantDNS
    client4 := fixedBytes 4 (if includesIPv4 mode then client4 else [])
    dns4 := fixedBytes 4 (if includesIPv4 mode then dns4 else [])
    client6 := fixedBytes 16 (if includesIPv6 mode then client6 else [])
    dns6 := fixedBytes 16 (if includesIPv6 mode then dns6 else []) }

def protocolSubsetV2 (signed requested : List (Choice PayloadProtocolV2)) : Bool :=
  orderedSubset (wordBefore PayloadProtocolV2.lexicon) signed requested

def selectProtocolsV2 (signed requested : List (Choice PayloadProtocolV2)) :
    Except PlanErrorV2 (List (Choice PayloadProtocolV2)) :=
  if requested = [] then return signed
  else do
    ensure (protocolSubsetV2 signed requested = true) .widening
    return requested

structure SelectedLimits where
  queue : UInt16
  incomplete : UInt16
  reconnects : UInt8

def selectLimitsV2 (requested : NarrowingRequestV2) :
    Except PlanErrorV2 SelectedLimits := do
  let limits := policy.limits
  ensure (limits.maxQueuedPackets ≤ 2 ^ 16 - 1 ∧ limits.maxReconnectAttempts ≤ 2 ^ 8 - 1)
    .unsupported
  let queue := if requested.maxQueuePackets ≠ 0 then requested.maxQueuePackets
    else limits.maxQueuedPackets.toUInt16
  ensure (requested.maxIncompleteOps ≤ maximumIncompleteOpsV2) .unsupported
  let incomplete := if requested.maxIncompleteOps ≠ 0 then requested.maxIncompleteOps
    else min limits.maxQueuedPackets.toUInt16 maximumIncompleteOpsV2
  let reconnects := if requested.maxReconnectAttempts ≠ 0 then requested.maxReconnectAttempts
    else limits.maxReconnectAttempts.toUInt8
  ensure (queue ≠ 0 ∧ incomplete ≠ 0 ∧ reconnects ≠ 0 ∧
    queue.toUInt32 ≤ limits.maxQueuedPackets ∧ incomplete.toUInt32 ≤ limits.maxQueuedPackets ∧
    reconnects.toUInt32 ≤ limits.maxReconnectAttempts) .widening
  return ⟨queue, incomplete, reconnects⟩

/-- The endpoints at the indexes. The indexes of a valid policy are in range. -/
def selectEndpointsV2 (signed : List EndpointV2) (indexes : List UInt8) : List EndpointV2 :=
  indexes.filterMap fun index => signed[index.toNat]?

/-! ## Validation -/

/-- The endpoint stands at the index of the policy. -/
def standsAt (endpoint : EndpointV2) (index : UInt8) : Bool :=
  policy.endpoints[index.toNat]? = some endpoint

def endpointsSubsetV2 (endpoints : List EndpointV2) : Bool :=
  endpoints ≠ [] ∧ (matchInOrder (standsAt policy) endpoints policy.fallback.endpointIndexes).isSome

def networkMatchesModeV2 (plan : PlanV2) : Bool :=
  match selectNetworkV2 policy plan.ipMode plan.routes [] with
  | .error _ => false
  | .ok network =>
    network.routes = plan.routes ∧ network.client4 = plan.clientIPv4 ∧
      network.dns4 = plan.dnsIPv4 ∧ network.client6 = plan.clientIPv6 ∧
      network.dns6 = plan.dnsIPv6

/-- A number of seconds. -/
def secondsV2 (value : UInt32) : Int := value.toNat * 10 ^ 9

/-- The checks of a plan which do not look at its policy. -/
def wellFormedV2 : Bool :=
  plan.version = versionV2 ∧ boundedV2 plan.profileContentID 128 ∧ plan.profileGeneration ≠ 0 ∧
    plan.activationReceiptDigest ≠ zeroDigest ∧ plan.runtimePolicyDigest ≠ zeroDigest ∧
    plan.liveProgramDigest ≠ zeroDigest ∧ plan.strategyID = supportedStrategyTLS13TCP ∧
    boundedV2 plan.relayKeyID 64 ∧ plan.carrierFamily = carrierFamilyTLS13TCP ∧
    plan.alpn = liveALPNV2 ∧ plan.endpoints ≠ [] ∧ plan.endpoints.length ≤ 4 ∧
    plan.mtu = 1280 ∧ plan.maxQueuePackets ≠ 0 ∧ plan.maxIncompleteOps ≠ 0 ∧
    plan.maxIncompleteOps ≤ maximumIncompleteOpsV2 ∧ plan.maxReconnectAttempts ≠ 0 ∧
    0 < plan.dialTimeout ∧ plan.dialTimeout ≤ 10 * 10 ^ 9 ∧ 0 < plan.idleTimeout ∧
    plan.digest ≠ zeroDigest ∧ plan.runtimePolicyBytes ≠ [] ∧
    sha256 plan.runtimePolicyBytes = plan.runtimePolicyDigest

/-- The plan stays inside the policy. -/
def withinPolicyV2 (plan : PlanV2) : Bool :=
  policy.liveProgramSHA256 = plan.liveProgramDigest ∧ policy.relayAuthKeyID = plan.relayKeyID ∧
    plan.maxQueuePackets ≤ policy.limits.maxQueuedPackets.toUInt16 ∧
    plan.maxIncompleteOps ≤ policy.limits.maxQueuedPackets.toUInt16 ∧
    plan.maxReconnectAttempts.toUInt32 ≤ policy.limits.maxReconnectAttempts ∧
    plan.dialTimeout = secondsV2 policy.fallback.attemptTimeoutSeconds ∧
    plan.idleTimeout = secondsV2 policy.limits.maxIdleSeconds ∧
    endpointsSubsetV2 policy plan.endpoints = true ∧
    modePermittedV2 policy.allowedIPModes plan.ipMode = true ∧
    protocolSubsetV2 policy.allowedProtocols plan.payloadProtocols = true ∧
    networkMatchesModeV2 policy plan = true

section Build

variable (libraries : Libraries)

def validateV2At (plan : PlanV2) (now : Instant) : Except PlanErrorV2 Unit := do
  ensure (wellFormedV2 plan = true) .invalid
  match decodeRuntimeAt libraries plan.runtimePolicyBytes now with
  | .error _ => .error .invalid
  | .ok policy => do
    ensure (withinPolicyV2 policy plan = true) .invalid
    ensure (digestPlanV2 plan = plan.digest) .invalid

/-! ## Building a plan -/

/-- The carrier which a policy authorizes. -/
structure LiveAuthorityV2 where
  carrierFamily : Text
  alpn : Text
  endpointCount : ℕ
  networked : Bool

def resolveRuntimeAt (policy : PolicyV2) (now : Instant) : Option LiveAuthorityV2 := do
  guard (validateRuntimeAt libraries policy now = .ok ())
  guard (policy.wireProtocol = wireProtocolV1 ∧ policy.carrierFamily = carrierFamilyTLS13TCP)
  return ⟨policy.carrierFamily, liveALPNV2, policy.endpoints.length, true⟩

structure AuthorityV2 where
  admittedProfileBytes : ℕ
  profileContentID : Text
  profileGeneration : UInt64
  activationReceiptDigest : FixedBytes 32
  policy : PolicyV2
  strategyIDs : List Text
  relayIDs : List Text

/-- The value, or the error if there is none. -/
def orFail {α : Type} (error : PlanErrorV2) : Option α → Except PlanErrorV2 α
  | some value => .ok value
  | none => .error error

/-- The buffer of the proxy which the policy signs. -/
def proxyBufferBytes (policy : PolicyV2) : UInt32 :=
  ((policy.services.bind ServicesV1.proxy).map ProxyV1.maxBufferBytes).getD 0

/-- What a request leaves of an authority. -/
structure SelectionV2 where
  strategyID : Text
  endpointIndexes : List UInt8
  ipMode : Choice IPModeV2
  network : NetworkV2
  payloadProtocols : List (Choice PayloadProtocolV2)
  limits : SelectedLimits

def selectAuthorityV2 (authority : AuthorityV2) (requested : NarrowingRequestV2) :
    Except PlanErrorV2 SelectionV2 := do
  let policy := authority.policy
  let strategyID ← selectStrategyV2 authority.strategyIDs requested.strategyID
  ensure (policy.relayAuthKeyID ∈ authority.relayIDs) .widening
  let indexes ← selectEndpointIndexesV2 policy.fallback.endpointIndexes requested.endpointIndexes
  let mode ← selectIPModeV2 policy.allowedIPModes requested.ipMode
  let network ← selectNetworkV2 policy mode requested.routes requested.dnsServers
  let protocols ← selectProtocolsV2 policy.allowedProtocols requested.payloadProtocols
  let limits ← selectLimitsV2 policy requested
  ensure (requested.allowLAN = false ∧ (requested.mtu = 0 ∨ requested.mtu = policy.mtu) ∧
    policy.mtu = 1280) .widening
  return ⟨strategyID, indexes, mode, network, protocols, limits⟩

/-- The plan of a selection, before its digest is set. -/
def unsignedPlanV2 (authority : AuthorityV2) (policyBytes : List UInt8)
    (carrier : LiveAuthorityV2) (selection : SelectionV2) : PlanV2 where
  version := versionV2
  profileContentID := authority.profileContentID
  profileGeneration := authority.profileGeneration
  activationReceiptDigest := authority.activationReceiptDigest
  runtimePolicyDigest := sha256 policyBytes
  liveProgramDigest := authority.policy.liveProgramSHA256
  strategyID := selection.strategyID
  relayKeyID := authority.policy.relayAuthKeyID
  carrierFamily := carrier.carrierFamily
  alpn := carrier.alpn
  endpoints := selectEndpointsV2 authority.policy.endpoints selection.endpointIndexes
  clientIPv4 := selection.network.client4
  dnsIPv4 := selection.network.dns4
  clientIPv6 := selection.network.client6
  dnsIPv6 := selection.network.dns6
  routes := selection.network.routes
  ipMode := selection.ipMode
  mtu := authority.policy.mtu
  payloadProtocols := selection.payloadProtocols
  maxQueuePackets := selection.limits.queue
  maxIncompleteOps := selection.limits.incomplete
  maxReconnectAttempts := selection.limits.reconnects
  dialTimeout := secondsV2 authority.policy.fallback.attemptTimeoutSeconds
  idleTimeout := secondsV2 authority.policy.limits.maxIdleSeconds
  digest := zeroDigest
  runtimePolicyBytes := policyBytes
  admittedProfileBytes := authority.admittedProfileBytes
  signedProxyBufferBytes := proxyBufferBytes authority.policy

def planV2 (authority : AuthorityV2) (policyBytes : List UInt8) (carrier : LiveAuthorityV2)
    (selection : SelectionV2) : PlanV2 :=
  let plan := unsignedPlanV2 authority policyBytes carrier selection
  { plan with digest := digestPlanV2 plan }

def buildAuthorityV2 (authority : AuthorityV2) (requested : NarrowingRequestV2)
    (now : Instant) : Except PlanErrorV2 PlanV2 := do
  ensure (0 < authority.admittedProfileBytes ∧ authority.admittedProfileBytes ≤ maxPayloadBytes ∧
    ¬ isZeroTime now ∧ boundedV2 authority.profileContentID 128 ∧
    authority.profileGeneration ≠ 0 ∧ authority.activationReceiptDigest ≠ zeroDigest ∧
    authority.strategyIDs ≠ [] ∧ authority.relayIDs ≠ []) .invalid
  let policy := authority.policy
  ensure (validateRuntimeAt libraries policy now = .ok () ∧ policy.liveProgram ≠ []) .invalid
  let policyBytes ← orFail .invalid (encodeRuntimeAt libraries policy now).toOption
  let carrier ← orFail .unsupported (resolveRuntimeAt libraries policy now)
  ensure (carrier.networked ∧ carrier.endpointCount = policy.endpoints.length) .unsupported
  let selection ← selectAuthorityV2 authority requested
  let plan := planV2 authority policyBytes carrier selection
  validateV2At libraries plan now
  return plan

def isLowerHexDigit (byte : UInt8) : Bool := (48 ≤ byte ∧ byte ≤ 57) ∨ (97 ≤ byte ∧ byte ≤ 102)

/-- The receipt is one of the profile, and its digest is a canonical hexadecimal text. -/
def receiptMatchesProfileV2 (receipt : VerifiedReceipt) (profile : CanonicalProfileV1) : Bool :=
  receipt.contentID = profile.contentID ∧ receipt.providerID = profile.providerID ∧
    receipt.lineageID = profile.lineageID ∧ receipt.rootEpoch = profile.rootEpoch ∧
    receipt.revocationEpoch = profile.revocationEpoch ∧
    receipt.authenticatedArtifactSHA256.length = 64 ∧
    ∀ digit ∈ receipt.authenticatedArtifactSHA256, isLowerHexDigit digit = true

/-- The authority which a profile of the given size grants. -/
def RequestV2.authority (request : RequestV2) (profileBytes : ℕ) : AuthorityV2 where
  admittedProfileBytes := profileBytes
  profileContentID := request.profile.contentID
  profileGeneration := request.profile.generation
  activationReceiptDigest := digestReceiptV2 request.activationReceipt
  policy := request.runtimePolicy
  strategyIDs := request.profile.strategyIDs
  relayIDs := request.profile.relayIDs

/-- The plan of a client; `envelope` is the library of the envelope. -/
def buildV2At (envelope : Library) (request : RequestV2) (now : Instant) :
    Except PlanErrorV2 PlanV2 := do
  let profile := request.profile
  let profileBytes ← orFail .invalid (encodeCanonicalProfileV1 envelope profile)
  ensure (¬ isZeroTime now ∧ profile.generation ≠ 0 ∧ profile.validFrom ≤ unixSeconds now ∧
    unixSeconds now < profile.validUntil) .invalid
  ensure (receiptMatchesProfileV2 request.activationReceipt profile = true) .receipt
  ensure (validateRuntimeAgainstEnvelopeAt libraries request.runtimePolicy profile now = .ok ())
    .invalid
  buildAuthorityV2 libraries (request.authority profileBytes.length) request.requested now

end Build

end Kurdistan.Product
