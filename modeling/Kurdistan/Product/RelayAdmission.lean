import Kurdistan.Product.SessionPlan

/-!
# Relay admission

A client sends a preface, which names its plan by the indexes of the endpoints and by the
selected limits. The relay builds the plan again from its own authority and compares the
digests.
-/

namespace Kurdistan.Product

open Support Support.Cbor
open Protocol (choiceItem decodeText decodeFixedBytes)

/-- What a relay holds about a profile. -/
structure RelayAuthorityV2 where
  profileContentID : Text
  profileGeneration : UInt64
  validFrom : Int
  validUntil : Int
  runtimePolicy : PolicyV2
  strategyIDs : List Text
  relayIDs : List Text

/-- The claim of a client. -/
structure RelayAdmissionPrefaceV1 where
  version : Text
  profileContentID : Text
  profileGeneration : UInt64
  activationReceiptDigest : FixedBytes 32
  planDigest : FixedBytes 32
  requested : NarrowingRequestV2

def relayAdmissionPrefaceVersionV1 : Text := asciiBytes "kurd-relay-admission-preface-v1"
def maxRelayAdmissionPrefaceBytesV1 : ℕ := 8 * 2 ^ 10

def strictUint8V1 (values : List UInt8) : Bool := values.IsChain (· < ·)

def validateRelayAdmissionPrefaceV1 (preface : RelayAdmissionPrefaceV1) : Bool :=
  let request := preface.requested
  (preface.version = relayAdmissionPrefaceVersionV1 ∧ boundedV2 preface.profileContentID 128 ∧
    preface.profileGeneration ≠ 0 ∧ preface.activationReceiptDigest ≠ zeroDigest ∧
    preface.planDigest ≠ zeroDigest ∧ request.strategyID = supportedStrategyTLS13TCP ∧
    request.endpointIndexes ≠ [] ∧ request.endpointIndexes.length ≤ 4 ∧
    strictUint8V1 request.endpointIndexes ∧ request.ipMode.isKnown ∧ request.routes ≠ [] ∧
    request.routes.length ≤ 2 ∧ request.dnsServers ≠ [] ∧ request.dnsServers.length ≤ 2 ∧
    request.mtu = 1280 ∧ request.payloadProtocols ≠ [] ∧ request.payloadProtocols.length ≤ 4 ∧
    request.maxQueuePackets ≠ 0 ∧ request.maxIncompleteOps ≠ 0 ∧
    request.maxReconnectAttempts ≠ 0 ∧ request.allowLAN = false) ∧
  (∀ route ∈ request.routes, isAddress route.address = true) ∧
  (∀ server ∈ request.dnsServers, isAddress server = true) ∧
  (∀ protocol ∈ request.payloadProtocols, protocol.isKnown = true) ∧
  request.payloadProtocols.IsChain fun a b => wordBefore PayloadProtocolV2.lexicon a b = true

def effectiveEndpointIndexesV1 (policy : PolicyV2) (endpoints : List EndpointV2) :
    Option (List UInt8) :=
  matchInOrder (standsAt policy) endpoints policy.fallback.endpointIndexes

def effectiveDNSServersV1 (plan : PlanV2) : List (List UInt8) :=
  ofMode plan.ipMode plan.dnsIPv4.toList plan.dnsIPv6.toList

/-- The preface of a plan, given the indexes of its endpoints. -/
def prefaceOf (plan : PlanV2) (indexes : List UInt8) : RelayAdmissionPrefaceV1 where
  version := relayAdmissionPrefaceVersionV1
  profileContentID := plan.profileContentID
  profileGeneration := plan.profileGeneration
  activationReceiptDigest := plan.activationReceiptDigest
  planDigest := plan.digest
  requested := {
    strategyID := plan.strategyID
    endpointIndexes := indexes
    ipMode := plan.ipMode
    routes := plan.routes
    dnsServers := effectiveDNSServersV1 plan
    mtu := plan.mtu
    payloadProtocols := plan.payloadProtocols
    maxQueuePackets := plan.maxQueuePackets
    maxIncompleteOps := plan.maxIncompleteOps
    maxReconnectAttempts := plan.maxReconnectAttempts
    allowLAN := false }

def newRelayAdmissionPrefaceV1At (libraries : Libraries) (plan : PlanV2) (now : Instant) :
    Option RelayAdmissionPrefaceV1 := do
  guard (¬ isZeroTime now ∧ validateV2At libraries plan now = .ok ())
  let policy ← (decodeRuntimeAt libraries plan.runtimePolicyBytes now).toOption
  let indexes ← effectiveEndpointIndexesV1 policy plan.endpoints
  let preface := prefaceOf plan indexes
  guard (validateRelayAdmissionPrefaceV1 preface = true)
  return preface

/-- The authority of a relay, with the upper bound in place of the size of the profile. -/
def RelayAuthorityV2.forPreface (authority : RelayAuthorityV2)
    (preface : RelayAdmissionPrefaceV1) : AuthorityV2 where
  admittedProfileBytes := maxPayloadBytes
  profileContentID := authority.profileContentID
  profileGeneration := authority.profileGeneration
  activationReceiptDigest := preface.activationReceiptDigest
  policy := authority.runtimePolicy
  strategyIDs := authority.strategyIDs
  relayIDs := authority.relayIDs

def buildRelayV2At (libraries : Libraries) (authority : RelayAuthorityV2)
    (preface : RelayAdmissionPrefaceV1) (now : Instant) : Option PlanV2 := do
  guard (¬ isZeroTime now ∧ authority.validFrom ≤ unixSeconds now ∧
    unixSeconds now < authority.validUntil ∧ validateRelayAdmissionPrefaceV1 preface = true ∧
    authority.profileContentID = preface.profileContentID ∧
    authority.profileGeneration = preface.profileGeneration)
  let plan ← (buildAuthorityV2 libraries (authority.forPreface preface) preface.requested
    now).toOption
  guard (plan.digest = preface.planDigest)
  return plan

/-! ## The wire form -/

/-- The options of the decoder. -/
def admissionMode : Limits := ⟨8, 32, 16⟩

def relayAdmissionPrefixWireV1 (p : PrefixV2) : Item :=
  .array [.bytes p.address, natItem p.prefixLen.toNat]

def relayAdmissionPrefaceToWireV1 (preface : RelayAdmissionPrefaceV1) : Item :=
  let request := preface.requested
  .array [.text preface.version, .text preface.profileContentID,
    natItem preface.profileGeneration.toNat, .bytes preface.activationReceiptDigest.toList,
    .bytes preface.planDigest.toList, .text request.strategyID, .bytes request.endpointIndexes,
    choiceItem IPModeV2.lexicon request.ipMode,
    .array (request.routes.map relayAdmissionPrefixWireV1),
    .array (request.dnsServers.map Item.bytes), natItem request.mtu.toNat,
    .array (request.payloadProtocols.map (choiceItem PayloadProtocolV2.lexicon)),
    natItem request.maxQueuePackets.toNat, natItem request.maxIncompleteOps.toNat,
    natItem request.maxReconnectAttempts.toNat, .bool request.allowLAN]

section Wire

variable (lib : Library)

def encodeRelayAdmissionPrefaceV1 (preface : RelayAdmissionPrefaceV1) : Option (List UInt8) := do
  guard (validateRelayAdmissionPrefaceV1 preface = true)
  let encoded ← lib.marshal (relayAdmissionPrefaceToWireV1 preface)
  guard (encoded ≠ [] ∧ encoded.length ≤ maxRelayAdmissionPrefaceBytesV1)
  return encoded

/-- The elements of an array which has `count` of them. -/
def rawArray (raw : List UInt8) (count : ℕ) : Option (ℕ → List UInt8) := do
  let fields ← lib.unmarshal .rawMessages raw
  guard (fields.length = count)
  return fun index => fields.getD index []

def decodeAdmissionPrefix (raw : List UInt8) : Option PrefixV2 := do
  let fields ← rawArray lib raw 2
  return {
    address := ← lib.unmarshal .byteString (fields 0)
    prefixLen := ← lib.unmarshal .uint8 (fields 1) }

def relayAdmissionPrefaceFromWireV1 (raw : List UInt8) : Option RelayAdmissionPrefaceV1 := do
  let fields ← rawArray lib raw 16
  return {
    version := ← decodeText lib.unmarshal (fields 0)
    profileContentID := ← decodeText lib.unmarshal (fields 1)
    profileGeneration := ← lib.unmarshal .uint64 (fields 2)
    activationReceiptDigest := ← decodeFixedBytes lib.unmarshal 32 (fields 3)
    planDigest := ← decodeFixedBytes lib.unmarshal 32 (fields 4)
    requested := {
      strategyID := ← decodeText lib.unmarshal (fields 5)
      endpointIndexes := ← lib.unmarshal .byteString (fields 6)
      ipMode := IPModeV2.lexicon.ofText (← lib.unmarshal .string (fields 7))
      routes := ← (← lib.unmarshal .rawMessages (fields 8)).mapM (decodeAdmissionPrefix lib)
      dnsServers := ← lib.unmarshal .byteStrings (fields 9)
      mtu := ← lib.unmarshal .uint16 (fields 10)
      payloadProtocols :=
        (← lib.unmarshal .strings (fields 11)).map PayloadProtocolV2.lexicon.ofText
      maxQueuePackets := ← lib.unmarshal .uint16 (fields 12)
      maxIncompleteOps := ← lib.unmarshal .uint16 (fields 13)
      maxReconnectAttempts := ← lib.unmarshal .uint8 (fields 14)
      allowLAN := ← lib.unmarshal .bool (fields 15) } }

def decodeRelayAdmissionPrefaceV1 (encoded : List UInt8) : Option RelayAdmissionPrefaceV1 := do
  guard (encoded ≠ [] ∧ encoded.length ≤ maxRelayAdmissionPrefaceBytesV1)
  let preface ← relayAdmissionPrefaceFromWireV1 lib encoded
  guard (validateRelayAdmissionPrefaceV1 preface = true)
  guard (encodeRelayAdmissionPrefaceV1 lib preface = some encoded)
  return preface

/-- The preface in front of a stream. -/
def writeRelayAdmissionPrefaceV1 (preface : RelayAdmissionPrefaceV1) : Option (List UInt8) :=
  (encodeRelayAdmissionPrefaceV1 lib preface).map lengthPrefixed

/-- The preface in front of a stream, and the rest of the stream. -/
def readRelayAdmissionPrefaceV1 (stream : List UInt8) :
    Option (RelayAdmissionPrefaceV1 × List UInt8) := do
  let (encoded, rest) ← readPrefixed maxRelayAdmissionPrefaceBytesV1 stream
  let preface ← decodeRelayAdmissionPrefaceV1 lib encoded
  return (preface, rest)

end Wire

end Kurdistan.Product
