import Kurdistan.Product.RuntimePolicy

/-!
# Encoding of runtime policies

`policyMap` and `servicesMap` are the encoded maps, `decodePolicyFields` and
`decodeServices` read them back. Version 2 writes null for a nil address, version 3 an
empty byte string.
-/

namespace Kurdistan.Product

open Support Support.Cbor
open Protocol (ProgramV1 FieldDecoder labelled rawMap uint32Item choiceItem
  strictMode decodeText decodeFixedBytes validateCore)

/-! ## The encoded maps -/

def natItem (value : ℕ) : Item := .int value

/-- A byte slice; a nil slice is null. -/
def sliceItem : Option (List UInt8) → Item
  | none => .null
  | some value => .bytes value

def endpointMap (value : EndpointV2) : Item :=
  labelled [natItem value.priority.toNat, .bytes value.address, natItem value.family.toNat,
    natItem value.port.toNat]

def prefixMap (value : PrefixV2) : Item :=
  labelled [.bytes value.address, natItem value.prefixLen.toNat]

def wordItems {α : Type} (lexicon : Lexicon α) (values : List (Choice α)) : Item :=
  .array (values.map (choiceItem lexicon))

def limitsMap (l : LimitsV2) : Item :=
  labelled [uint32Item l.maxPackets, uint32Item l.maxQueuedPackets, uint32Item l.maxFrames,
    uint32Item l.maxMessages, uint32Item l.maxIdleSeconds, uint32Item l.maxReconnectAttempts]

def fallbackMap (f : FallbackV2) : Item :=
  labelled [.bytes f.endpointIndexes, uint32Item f.totalAttempts,
    uint32Item f.attemptTimeoutSeconds, uint32Item f.maxBackoffSeconds]

variable (p : PolicyV2)

/-- The fields 1 to 24 of both versions. -/
def policyFields : List Item :=
  [natItem p.schemaVersion.toNat, .text p.wireProtocol, .text p.carrierFamily,
    .bytes p.liveProgram, .bytes p.liveProgramSHA256.toList, .text p.clientAuthKeyID,
    .bytes p.clientAuthPublic.toList, .text p.relayAuthKeyID, .bytes p.relayAuthPublic.toList,
    .text p.tlsServerName, .bytes p.tlsLeafDER, .bytes p.tlsLeafSHA256.toList,
    .array (p.endpoints.map endpointMap), sliceItem p.clientIPv4, sliceItem p.dnsIPv4,
    sliceItem p.clientIPv6, sliceItem p.dnsIPv6, .array (p.routes.map prefixMap),
    .array (p.dnsServers.map Item.bytes), natItem p.mtu.toNat,
    wordItems IPModeV2.lexicon p.allowedIPModes,
    wordItems PayloadProtocolV2.lexicon p.allowedProtocols, limitsMap p.limits,
    fallbackMap p.fallback]

def policyMap (includeDigest : Bool) : Item :=
  labelled (policyFields p ++ if includeDigest then [.bytes p.relayAdmissionDigest.toList] else [])

/-- Small values are written as integers, not as a byte string. -/
def serviceValues (values : List UInt8) : Item :=
  .array (values.map fun value => natItem value.toNat)

def portRangeMap (range : PortRangeV1) : Item :=
  labelled [natItem range.first.toNat, natItem range.last.toNat]

def proxyMap (p : ProxyV1) : Item :=
  labelled [serviceValues p.addressKinds, .array (p.destinationCIDRs.map prefixMap),
    .array (p.destinationPorts.map portRangeMap), natItem p.maxConcurrentStreams.toNat,
    uint32Item p.maxBufferBytes, uint32Item p.connectTimeoutMillis,
    uint32Item p.idleTimeoutSeconds, uint32Item p.maxQueuedBytesPerDirection]

def targetMap (t : ProbeTargetV1) : Item :=
  labelled [natItem t.id.toNat, .bytes t.address, natItem t.port.toNat,
    serviceValues t.methods, serviceValues t.modes, uint32Item t.timeoutMillis]

def probesMap (p : ProbesV1) : Item :=
  labelled [.array (p.targets.map targetMap), natItem p.maxConcurrentOperations.toNat,
    natItem p.maxSamplesPerOperation.toNat, uint32Item p.minAttemptIntervalMillis,
    natItem p.maxAttemptsPerMinute.toNat, uint32Item p.maxOperationMillis]

def updateMap (u : UpdateV1) : Item :=
  labelled [.text u.url, .text u.profileID, uint32Item u.maxArtifactBytes,
    uint32Item u.timeoutMillis, uint32Item u.minCheckIntervalSeconds]

def servicesMap (s : ServicesV1) : Item :=
  labelled [natItem s.version.toNat, .array (s.proxy.toList.map proxyMap),
    .array (s.probes.toList.map probesMap), .array (s.update.toList.map updateMap)]

/-- A nil address becomes an empty one. -/
def PolicyV2.filled : PolicyV2 :=
  { p with
    clientIPv4 := some (sliceBytes p.clientIPv4)
    dnsIPv4 := some (sliceBytes p.dnsIPv4)
    clientIPv6 := some (sliceBytes p.clientIPv6)
    dnsIPv6 := some (sliceBytes p.dnsIPv6) }

/-- Version 3 has the services as field 26, also when the digest is left out. -/
def policyMapV3 (s : ServicesV1) (includeDigest : Bool) : Item :=
  if includeDigest then
    labelled (policyFields p.filled ++ [.bytes p.relayAdmissionDigest.toList, servicesMap s])
  else
    .map (((policyFields p.filled).zipIdx 1).map Prod.swap ++ [(26, servicesMap s)])

/-! ## Versions -/

section Versions

variable (libraries : Libraries)

def validateServices (s : ServicesV1) (ipv4 ipv6 : Bool) : Except PolicyErrorCategory Unit := do
  ensure (s.version = 1 ∧ (s.proxy.isSome ∨ s.probes.isSome ∨ s.update.isSome)) .invalid
  ensure (∀ p ∈ s.proxy, validateProxy p ipv4 ipv6 = true) .invalid
  ensure (∀ p ∈ s.probes, validateProbes p ipv4 ipv6 = true) .invalid
  ensure (∀ u ∈ s.update, validateUpdate libraries.parsers u = true) .invalid
  match libraries.cbor.marshal (servicesMap s) with
  | none => .error .size
  | some encoded => ensure (encoded.length ≤ maxServicesEncodedBytes) .size

/-- The policy is one of version 2, apart from its digest. -/
def validateContentV2At (p : PolicyV2) (now : Instant) : Except PolicyErrorCategory Unit := do
  ensure (p.schemaVersion = schemaVersionV2 ∧ p.services = none) .invalid
  let _ ← validateCommonPolicyAt libraries p now

def relayAdmissionDigestV2At (p : PolicyV2) (now : Instant) :
    Except PolicyErrorCategory (FixedBytes 32) := do
  validateContentV2At libraries p now
  match libraries.cbor.marshal (policyMap p false) with
  | none => .error .nonCanonical
  | some encoded => return sha256 encoded

def validatePolicyV2At (p : PolicyV2) (now : Instant) : Except PolicyErrorCategory Unit := do
  validateContentV2At libraries p now
  ensure (relayAdmissionDigestV2At libraries p now = .ok p.relayAdmissionDigest) .binding

def encodeV2At (p : PolicyV2) (now : Instant) : Except PolicyErrorCategory (List UInt8) := do
  validatePolicyV2At libraries p now
  match libraries.cbor.marshal (policyMap p true) with
  | none => .error .size
  | some encoded => do
    ensure (encoded ≠ [] ∧ encoded.length ≤ maxPolicyBytes) .size
    return encoded

def marshalPolicyV3 (p : PolicyV2) (s : ServicesV1) (includeDigest : Bool) :
    Except PolicyErrorCategory (List UInt8) :=
  match libraries.cbor.marshal (policyMapV3 p s includeDigest) with
  | none => .error .nonCanonical
  | some encoded => do
    ensure (encoded.length ≤ maxPolicyBytes) .size
    return encoded

/-- The data message of the program has room for a packet. -/
def carriesData (p : PolicyV2) (program : ProgramV1) : Bool :=
  (∀ message ∈ program.messages, message.semantic = .known .data →
    message.minPayloadBytes ≤ 8 ∧
      max 272 (p.mtu.toNat : Int) ≤ min program.limits.maxPayloadBytes message.maxPayloadBytes) ∧
    ∃ message ∈ program.messages, message.semantic = .known .data

def validateContentV3At (p : PolicyV2) (now : Instant) :
    Except PolicyErrorCategory ServicesV1 := do
  ensure (p.schemaVersion = schemaVersionV3) .invalid
  match p.services with
  | none => .error .invalid
  | some s => do
    let program ← validateCommonPolicyAt libraries p now
    validateServices libraries s (sliceBytes p.clientIPv4 ≠ []) (sliceBytes p.clientIPv6 ≠ [])
    ensure (carriesData p program) .invalid
    let _ ← marshalPolicyV3 libraries p s true
    return s

def validateV3At (p : PolicyV2) (now : Instant) : Except PolicyErrorCategory ServicesV1 := do
  let s ← validateContentV3At libraries p now
  let encoded ← marshalPolicyV3 libraries p s false
  ensure (sha256 encoded = p.relayAdmissionDigest) .binding
  return s

def encodeV3At (p : PolicyV2) (now : Instant) : Except PolicyErrorCategory (List UInt8) := do
  let s ← validateV3At libraries p now
  marshalPolicyV3 libraries p s true

def encodeRuntimeAt (p : PolicyV2) (now : Instant) : Except PolicyErrorCategory (List UInt8) :=
  if p.schemaVersion = schemaVersionV2 then encodeV2At libraries p now
  else if p.schemaVersion = schemaVersionV3 then encodeV3At libraries p now
  else .error .schema

def validateRuntimeAt (p : PolicyV2) (now : Instant) : Except PolicyErrorCategory Unit :=
  if p.schemaVersion = schemaVersionV2 then validatePolicyV2At libraries p now
  else if p.schemaVersion = schemaVersionV3 then do
    let _ ← validateV3At libraries p now
  else .error .schema

end Versions

/-! ## Reading the fields -/

section Walk

variable (lib : Library) (decode : FieldDecoder)

def decodeEndpoint (raw : List UInt8) : Option EndpointV2 := do
  let fields ← rawMap lib raw 4
  return {
    priority := ← decode .uint8 (fields 1)
    address := ← decode .byteString (fields 2)
    family := ← decode .uint8 (fields 3)
    port := ← decode .uint16 (fields 4) }

def decodeEndpoints (raw : List UInt8) : Option (List EndpointV2) := do
  let values ← decode .rawMessages raw
  if values ≠ [] ∧ values.length ≤ 4 then values.mapM (decodeEndpoint lib decode) else none

def decodePrefix (raw : List UInt8) : Option PrefixV2 := do
  let fields ← rawMap lib raw 2
  return {
    address := ← decode .byteString (fields 1)
    prefixLen := ← decode .uint8 (fields 2) }

def decodePrefixes (raw : List UInt8) : Option (List PrefixV2) := do
  let values ← decode .rawMessages raw
  if values ≠ [] ∧ values.length ≤ 2 then values.mapM (decodePrefix lib decode) else none

def decodeWords {α : Type} (lexicon : Lexicon α) (raw : List UInt8) : Option (List (Choice α)) :=
  (decode .strings raw).map fun values => values.map lexicon.ofText

def decodeLimits (raw : List UInt8) : Option LimitsV2 := do
  let fields ← rawMap lib raw 6
  return {
    maxPackets := ← decode .uint32 (fields 1)
    maxQueuedPackets := ← decode .uint32 (fields 2)
    maxFrames := ← decode .uint32 (fields 3)
    maxMessages := ← decode .uint32 (fields 4)
    maxIdleSeconds := ← decode .uint32 (fields 5)
    maxReconnectAttempts := ← decode .uint32 (fields 6) }

def decodeFallback (raw : List UInt8) : Option FallbackV2 := do
  let fields ← rawMap lib raw 4
  return {
    endpointIndexes := ← decode .byteString (fields 1)
    totalAttempts := ← decode .uint32 (fields 2)
    attemptTimeoutSeconds := ← decode .uint32 (fields 3)
    maxBackoffSeconds := ← decode .uint32 (fields 4) }

/-- The fields 1 to 25; the services are read apart from them. -/
def decodePolicyFields (fields : ℕ → List UInt8) : Option PolicyV2 := do
  return {
    schemaVersion := ← decode .uint64 (fields 1)
    wireProtocol := ← decodeText decode (fields 2)
    carrierFamily := ← decodeText decode (fields 3)
    liveProgram := ← decode .byteString (fields 4)
    clientAuthKeyID := ← decodeText decode (fields 6)
    relayAuthKeyID := ← decodeText decode (fields 8)
    tlsServerName := ← decodeText decode (fields 10)
    tlsLeafDER := ← decode .byteString (fields 11)
    clientIPv4 := ← decode .byteSlice (fields 14)
    dnsIPv4 := ← decode .byteSlice (fields 15)
    clientIPv6 := ← decode .byteSlice (fields 16)
    dnsIPv6 := ← decode .byteSlice (fields 17)
    dnsServers := ← decode .byteStrings (fields 19)
    mtu := ← decode .uint16 (fields 20)
    liveProgramSHA256 := ← decodeFixedBytes decode 32 (fields 5)
    clientAuthPublic := ← decodeFixedBytes decode 32 (fields 7)
    relayAuthPublic := ← decodeFixedBytes decode 32 (fields 9)
    tlsLeafSHA256 := ← decodeFixedBytes decode 32 (fields 12)
    relayAdmissionDigest := ← decodeFixedBytes decode 32 (fields 25)
    endpoints := ← decodeEndpoints lib decode (fields 13)
    routes := ← decodePrefixes lib decode (fields 18)
    allowedIPModes := ← decodeWords decode IPModeV2.lexicon (fields 21)
    allowedProtocols := ← decodeWords decode PayloadProtocolV2.lexicon (fields 22)
    limits := ← decodeLimits lib decode (fields 23)
    fallback := ← decodeFallback lib decode (fields 24)
    services := none }

end Walk

/-! ## Reading the services -/

section Services

variable (lib : Library)

/-- The major type of the destinations of `serviceField`. -/
def serviceMajor : Target → Option ℕ
  | .uint8 | .uint16 | .uint32 | .uint64 => some 0
  | .byteString => some 2
  | .string => some 3
  | _ => none

def serviceField : FieldDecoder := fun target raw =>
  if (raw.head?.map majorType) = serviceMajor target ∧ raw ≠ [] then lib.unmarshal target raw
  else none

def serviceArray (raw : List UInt8) (min max : ℕ) : Option (List (List UInt8)) :=
  if (raw.head?.map majorType) = some 4 then do
    let result ← lib.unmarshal .rawMessages raw
    if min ≤ result.length ∧ result.length ≤ max then some result else none
  else none

/-- A map without null values. -/
def serviceMap (raw : List UInt8) (count : ℕ) : Option (ℕ → List UInt8) :=
  if (raw.head?.map majorType) = some 5 then do
    let fields ← rawMap lib raw count
    if ∀ label ∈ List.range' 1 count, fields label ≠ [] ∧
        (fields label).head? ≠ some 0xf6 ∧ (fields label).head? ≠ some 0xf7 then some fields
    else none
  else none

def decodeServiceValues (raw : List UInt8) (max : ℕ) : Option (List UInt8) := do
  let values ← serviceArray lib raw 1 max
  values.mapM (serviceField lib .uint8)

def decodeServicePrefix (raw : List UInt8) : Option PrefixV2 := do
  let m ← serviceMap lib raw 2
  return {
    address := ← serviceField lib .byteString (m 1)
    prefixLen := ← serviceField lib .uint8 (m 2) }

def decodePortRange (raw : List UInt8) : Option PortRangeV1 := do
  let m ← serviceMap lib raw 2
  return {
    first := ← serviceField lib .uint16 (m 1)
    last := ← serviceField lib .uint16 (m 2) }

def decodeProxy (raw : List UInt8) : Option ProxyV1 := do
  let fields ← serviceMap lib raw 8
  return {
    addressKinds := ← decodeServiceValues lib (fields 1) 3
    destinationCIDRs := ← (← serviceArray lib (fields 2) 1 64).mapM (decodeServicePrefix lib)
    destinationPorts := ← (← serviceArray lib (fields 3) 1 16).mapM (decodePortRange lib)
    maxConcurrentStreams := ← serviceField lib .uint8 (fields 4)
    maxBufferBytes := ← serviceField lib .uint32 (fields 5)
    connectTimeoutMillis := ← serviceField lib .uint32 (fields 6)
    idleTimeoutSeconds := ← serviceField lib .uint32 (fields 7)
    maxQueuedBytesPerDirection := ← serviceField lib .uint32 (fields 8) }

def decodeTarget (raw : List UInt8) : Option ProbeTargetV1 := do
  let m ← serviceMap lib raw 6
  return {
    id := ← serviceField lib .uint16 (m 1)
    address := ← serviceField lib .byteString (m 2)
    port := ← serviceField lib .uint16 (m 3)
    timeoutMillis := ← serviceField lib .uint32 (m 6)
    methods := ← decodeServiceValues lib (m 4) 1
    modes := ← decodeServiceValues lib (m 5) 2 }

def decodeProbes (raw : List UInt8) : Option ProbesV1 := do
  let fields ← serviceMap lib raw 6
  return {
    targets := ← (← serviceArray lib (fields 1) 1 16).mapM (decodeTarget lib)
    maxConcurrentOperations := ← serviceField lib .uint8 (fields 2)
    maxSamplesPerOperation := ← serviceField lib .uint8 (fields 3)
    minAttemptIntervalMillis := ← serviceField lib .uint32 (fields 4)
    maxAttemptsPerMinute := ← serviceField lib .uint8 (fields 5)
    maxOperationMillis := ← serviceField lib .uint32 (fields 6) }

def decodeUpdate (raw : List UInt8) : Option UpdateV1 := do
  let fields ← serviceMap lib raw 5
  return {
    url := ← decodeText (serviceField lib) (fields 1)
    profileID := ← decodeText (serviceField lib) (fields 2)
    maxArtifactBytes := ← serviceField lib .uint32 (fields 3)
    timeoutMillis := ← serviceField lib .uint32 (fields 4)
    minCheckIntervalSeconds := ← serviceField lib .uint32 (fields 5) }

/-- An optional service is an array of at most one element. -/
def decodeOptional {α : Type} (decodeOne : List UInt8 → Option α) (raw : List UInt8) :
    Option (Option α) := do
  let values ← serviceArray lib raw 0 1
  match values with
  | [] => some none
  | value :: _ => (decodeOne value).map some

def decodeServicesFields (raw : List UInt8) : Option ServicesV1 := do
  let fields ← serviceMap lib raw 4
  return {
    version := ← serviceField lib .uint64 (fields 1)
    proxy := ← decodeOptional lib (decodeProxy lib) (fields 2)
    probes := ← decodeOptional lib (decodeProbes lib) (fields 3)
    update := ← decodeOptional lib (decodeUpdate lib) (fields 4) }

/-- The value of a walk over fields, whose failures are schema errors. -/
def orSchema {α : Type} : Option α → Except PolicyErrorCategory α
  | some value => .ok value
  | none => .error .schema

def decodeServices (raw : List UInt8) : Except PolicyErrorCategory ServicesV1 := do
  ensure (raw.length ≤ maxServicesEncodedBytes) .size
  orSchema (decodeServicesFields lib raw)

end Services

/-! ## Decoding -/

section Decoding

variable (libraries : Libraries)

/-- The size and the canonical form which every decoder checks first. -/
def checkEncoded (encoded : List UInt8) : Except PolicyErrorCategory Unit := do
  ensure (encoded ≠ [] ∧ encoded.length ≤ maxPolicyBytes) .size
  ensure (validateCore libraries.cbor encoded = true) .nonCanonical

def policyFieldCount : ℕ := 25

def decodeV2At (encoded : List UInt8) (now : Instant) : Except PolicyErrorCategory PolicyV2 := do
  checkEncoded libraries encoded
  let fields ← orSchema (rawMap libraries.cbor encoded policyFieldCount)
  let policy ← orSchema (decodePolicyFields libraries.cbor libraries.cbor.unmarshal fields)
  validatePolicyV2At libraries policy now
  ensure (encodeV2At libraries policy now = .ok encoded) .nonCanonical
  return policy

def decodeV3At (encoded : List UInt8) (now : Instant) : Except PolicyErrorCategory PolicyV2 := do
  checkEncoded libraries encoded
  let fields ← orSchema (rawMap libraries.cbor encoded 26)
  let transport ← orSchema (decodePolicyFields libraries.cbor libraries.cbor.unmarshal fields)
  let services ← decodeServices libraries.cbor (fields 26)
  let policy := { transport with services := some services }
  let reencoded ← encodeV3At libraries policy now
  ensure (encoded = reencoded) .nonCanonical
  return policy

/-- The version of an encoded policy. -/
def encodedVersion (encoded : List UInt8) : Option UInt64 := do
  let fields ← libraries.cbor.unmarshal .rawMap encoded
  if 1 ≤ fields.length ∧ fields.length ≤ 26 then
    serviceField libraries.cbor .uint64 ((fields.lookup 1).getD [])
  else none

def decodeRuntimeAt (encoded : List UInt8) (now : Instant) :
    Except PolicyErrorCategory PolicyV2 := do
  checkEncoded libraries encoded
  let version ← orSchema (encodedVersion libraries encoded)
  if version = schemaVersionV2 then decodeV2At libraries encoded now
  else if version = schemaVersionV3 then decodeV3At libraries encoded now
  else .error .schema

/-- The policy is the one which the profile carries. -/
def validateRuntimeAgainstEnvelopeAt (p : PolicyV2) (profile : CanonicalProfileV1)
    (now : Instant) : Except PolicyErrorCategory Unit := do
  ensure (encodeRuntimeAt libraries p now = .ok (sliceBytes profile.policy)) .binding
  ensure (∀ s ∈ p.services, ∀ u ∈ s.update, u.profileID = profile.profileID) .binding

end Decoding

end Kurdistan.Product
