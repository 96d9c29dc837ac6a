import Kurdistan.Product.ServicePolicy
import Kurdistan.Protocol.ProgramCanonical

/-!
# Runtime policies

The signed policy which authorizes the transport of a session, its validation at a
trusted time, and the two encodings, of version 2 and of version 3. The X.509 library is
a parameter; the diagnostic of a rejected certificate time is left out.
-/

namespace Kurdistan.Product

open Support Support.Cbor
open Protocol (ProgramV1 FieldDecoder labelled rawMap uint32Item choiceItem
  strictMode programCBOR decodeText decodeFixedBytes validateCore)

structure EndpointV2 where
  priority : UInt8
  address : List UInt8
  family : UInt8
  port : UInt16
  deriving DecidableEq

inductive IPModeV2 where
  | dualStack
  | ipv4Only
  | ipv6Only
  deriving DecidableEq

def IPModeV2.lexicon : Lexicon IPModeV2 where
  word
    | .dualStack => "dual-stack"
    | .ipv4Only => "ipv4-only"
    | .ipv6Only => "ipv6-only"
  values := [.dualStack, .ipv4Only, .ipv6Only]

inductive PayloadProtocolV2 where
  | icmp
  | icmpv6
  | tcp
  | udp
  deriving DecidableEq

def PayloadProtocolV2.lexicon : Lexicon PayloadProtocolV2 where
  word
    | .icmp => "icmp"
    | .icmpv6 => "icmpv6"
    | .tcp => "tcp"
    | .udp => "udp"
  values := [.icmp, .icmpv6, .tcp, .udp]

/-- Words are ordered by their bytes. -/
def wordBefore {α : Type} (lexicon : Lexicon α) (a b : Choice α) : Bool :=
  utf8Bytes (a.text lexicon.word) < utf8Bytes (b.text lexicon.word)

structure LimitsV2 where
  maxPackets : UInt32
  maxQueuedPackets : UInt32
  maxFrames : UInt32
  maxMessages : UInt32
  maxIdleSeconds : UInt32
  maxReconnectAttempts : UInt32

structure FallbackV2 where
  endpointIndexes : List UInt8
  totalAttempts : UInt32
  attemptTimeoutSeconds : UInt32
  maxBackoffSeconds : UInt32

/-- A runtime policy. The four addresses of the client are slices which may be nil. -/
structure PolicyV2 where
  schemaVersion : UInt64
  wireProtocol : Text
  carrierFamily : Text
  liveProgram : List UInt8
  liveProgramSHA256 : FixedBytes 32
  clientAuthKeyID : Text
  clientAuthPublic : FixedBytes 32
  relayAuthKeyID : Text
  relayAuthPublic : FixedBytes 32
  tlsServerName : Text
  tlsLeafDER : List UInt8
  tlsLeafSHA256 : FixedBytes 32
  endpoints : List EndpointV2
  clientIPv4 : Option (List UInt8)
  dnsIPv4 : Option (List UInt8)
  clientIPv6 : Option (List UInt8)
  dnsIPv6 : Option (List UInt8)
  routes : List PrefixV2
  dnsServers : List (List UInt8)
  mtu : UInt16
  allowedIPModes : List (Choice IPModeV2)
  allowedProtocols : List (Choice PayloadProtocolV2)
  limits : LimitsV2
  fallback : FallbackV2
  relayAdmissionDigest : FixedBytes 32
  services : Option ServicesV1

def schemaVersionV2 : UInt64 := 2
def schemaVersionV3 : UInt64 := 3
def wireProtocolV1 : Text := asciiBytes "kurd-wire-v1"
def carrierFamilyTLS13TCP : Text := asciiBytes "tls13-tcp"
def maxPolicyBytes : ℕ := 64 * 2 ^ 10
def maxLiveProgramBytes : ℕ := 48 * 2 ^ 10
def maxServicesEncodedBytes : ℕ := 8192

/-- The bytes of a slice. -/
def sliceBytes (value : Option (List UInt8)) : List UInt8 := value.getD []

/-! ## Parts of the validation -/

/-- A parsed certificate. -/
structure Leaf where
  notBefore : Instant
  notAfter : Instant
  /-- The issuer is the subject, and the signature is one by the certificate's own key. -/
  selfSigned : Bool
  verifiesHostname : Text → Bool
  ipAddresses : List Text
  dnsNames : List Text
  serverAuth : Bool

/-- What the validation takes from other libraries. -/
structure Libraries where
  cbor : Library
  parsers : Parsers
  /-- `x509.ParseCertificate`. -/
  parseCertificate : List UInt8 → Option Leaf

def allZero (value : List UInt8) : Bool := ∀ byte ∈ value, byte = 0

/-- The key identifier is derived from the key. That it has 32 digits, all of them
hexadecimal and in lower case, follows. -/
def keyIDMatches (id : Text) (key : FixedBytes 32) : Bool :=
  id = hexEncode ((sha256 key.toList).toList.take 16)

def relayKeyIDMatches (id : Text) (key : FixedBytes 32) : Bool :=
  id = asciiBytes "relay." ++ hexEncode ((sha256 key.toList).toList.take 8)

/-- A canonical address or a host name; either is in lower case. -/
def validServerName (parsers : Parsers) (value : Text) : Bool :=
  (value ≠ [] ∧ value.length ≤ 253) &&
    match parsers.ip value with
    | some canonical => canonical = value
    | none => value.getLast? ≠ some 46 ∧ ∀ label ∈ value.splitOn (46 : UInt8), isLabel label = true

def validateTLSAt (libraries : Libraries) (serverName : Text) (der : List UInt8)
    (expected : FixedBytes 32) (now : Instant) : Except PolicyErrorCategory Unit := do
  ensure (validServerName libraries.parsers serverName ∧ der ≠ [] ∧ der.length ≤ 4096 ∧
    sha256 der = expected) .invalid
  match libraries.parseCertificate der with
  | none => .error .binding
  | some leaf => do
    ensure (¬ isZeroTime now) .binding
    ensure (leaf.notBefore ≤ now ∧ now ≤ leaf.notAfter) .binding
    ensure (leaf.selfSigned ∧ leaf.verifiesHostname serverName) .binding
    let names :=
      if (libraries.parsers.ip serverName).isSome then leaf.ipAddresses else leaf.dnsNames
    ensure (serverName ∈ names ∧ leaf.serverAuth) .binding

/-- The bytes of a program which is its own encoding. -/
def validateLiveProgram (lib : Library) (encoded : List UInt8) (expected : FixedBytes 32) :
    Except PolicyErrorCategory ProgramV1 := do
  ensure (encoded ≠ [] ∧ encoded.length ≤ maxLiveProgramBytes ∧ sha256 encoded = expected) .binding
  match Protocol.decodeV1 (programCBOR lib) encoded with
  | .error _ => .error .binding
  | .ok program => do
    ensure (Protocol.encodeV1 (programCBOR lib) program = .ok encoded) .nonCanonical
    return program

def EndpointV2.target (endpoint : EndpointV2) : UInt8 × UInt16 × List UInt8 :=
  (endpoint.family, endpoint.port, endpoint.address)

def validOptionalAddress (value : List UInt8) (family : UInt8) : Bool :=
  value = [] ∨ validAddress value family

def defaultRoute4 : PrefixV2 := ⟨[0, 0, 0, 0], 0⟩
def defaultRoute6 : PrefixV2 := ⟨List.replicate 16 0, 0⟩

/-- What belongs to the families for which there is an address. -/
def forFamilies {α : Type} (ipv4 ipv6 : List UInt8) (value4 value6 : α) : List α :=
  (if ipv4 = [] then [] else [value4]) ++ if ipv6 = [] then [] else [value6]

/-- The routes are the default routes of the families. -/
def validateRoutes (routes : List PrefixV2) (ipv4 ipv6 : List UInt8) :
    Except PolicyErrorCategory Unit :=
  ensure (routes = forFamilies ipv4 ipv6 defaultRoute4 defaultRoute6) .invalid

def validateDNS (values : List (List UInt8)) (ipv4 ipv6 : List UInt8) :
    Except PolicyErrorCategory Unit := do
  let want := forFamilies ipv4 ipv6 ipv4 ipv6
  ensure (values.length = want.length) .invalid
  ensure (values = want) .binding

def validateAddresses (p : PolicyV2) : Except PolicyErrorCategory Unit := do
  ensure (p.endpoints ≠ [] ∧ p.endpoints.length ≤ 4 ∧ p.mtu = 1280) .invalid
  ensure ((∀ endpoint ∈ p.endpoints, endpoint.port ≠ 0 ∧
      validAddress endpoint.address endpoint.family) ∧
    (p.endpoints.map EndpointV2.priority).Pairwise (· < ·) ∧
    (p.endpoints.map EndpointV2.target).Nodup) .invalid
  let client4 := sliceBytes p.clientIPv4
  let dns4 := sliceBytes p.dnsIPv4
  let client6 := sliceBytes p.clientIPv6
  let dns6 := sliceBytes p.dnsIPv6
  ensure (validOptionalAddress client4 4 ∧ validOptionalAddress dns4 4 ∧
    validOptionalAddress client6 6 ∧ validOptionalAddress dns6 6 ∧
    (client4 = [] ↔ dns4 = []) ∧ (client6 = [] ↔ dns6 = [])) .invalid
  validateRoutes p.routes client4 client6
  validateDNS p.dnsServers dns4 dns6

/-- Known words, each larger than the one before it. -/
def sortedUnique {α : Type} (lexicon : Lexicon α) (values : List (Choice α)) : Bool :=
  (∀ value ∈ values, value.isKnown = true) ∧
    values.Pairwise fun a b => wordBefore lexicon a b = true

variable (modes : List (Choice IPModeV2))

def authorizesIPv4 : Bool :=
  .known .ipv4Only ∈ modes ∨ .known .dualStack ∈ modes

def authorizesIPv6 : Bool :=
  .known .ipv6Only ∈ modes ∨ .known .dualStack ∈ modes

def validateModesAndProtocols
    (protocols : List (Choice PayloadProtocolV2)) (ipv4 ipv6 : List UInt8) :
    Except PolicyErrorCategory Unit := do
  ensure (modes ≠ [] ∧ sortedUnique IPModeV2.lexicon modes ∧ 2 ≤ protocols.length ∧
    sortedUnique PayloadProtocolV2.lexicon protocols) .invalid
  ensure ((ipv4 ≠ [] ↔ authorizesIPv4 modes = true) ∧
    (ipv6 ≠ [] ↔ authorizesIPv6 modes = true)) .invalid
  ensure (.known .tcp ∈ protocols ∧ .known .udp ∈ protocols) .invalid

/-- A conversion to `uint32`. -/
def uint32OfInt (value : Int) : UInt32 := UInt32.ofNat (value % 2 ^ 32).toNat

def validateLimits (l : LimitsV2) (program : ProgramV1) : Except PolicyErrorCategory Unit :=
  let sessionMessages := uint32OfInt program.limits.maxSessionMessages
  ensure (l.maxPackets ≠ 0 ∧ l.maxQueuedPackets ≠ 0 ∧ l.maxFrames ≠ 0 ∧ l.maxMessages ≠ 0 ∧
    l.maxIdleSeconds ≠ 0 ∧ l.maxReconnectAttempts ≠ 0 ∧ l.maxPackets ≤ 16777216 ∧
    l.maxQueuedPackets ≤ 256 ∧ l.maxFrames ≤ 16777216 ∧ l.maxMessages ≤ sessionMessages ∧
    l.maxFrames ≤ sessionMessages ∧ l.maxPackets ≤ l.maxFrames ∧ l.maxFrames ≤ l.maxMessages ∧
    l.maxQueuedPackets ≤ l.maxPackets ∧
    l.maxIdleSeconds.toNat * 1000 ≤ (uint64OfInt program.limits.maxSessionMillis).toNat ∧
    l.maxReconnectAttempts ≤ 5) .invalid

def validateFallback (f : FallbackV2) (endpointCount : ℕ) (maxReconnectAttempts : UInt32) :
    Except PolicyErrorCategory Unit := do
  ensure (f.endpointIndexes ≠ [] ∧ f.endpointIndexes.length ≤ endpointCount ∧
    f.totalAttempts ≠ 0 ∧ f.totalAttempts ≤ maxReconnectAttempts ∧
    f.attemptTimeoutSeconds ≠ 0 ∧ f.attemptTimeoutSeconds ≤ 10 ∧
    f.attemptTimeoutSeconds ≤ f.maxBackoffSeconds ∧ f.maxBackoffSeconds ≤ 30) .invalid
  ensure ((∀ index ∈ f.endpointIndexes, index.toNat < endpointCount) ∧
    f.endpointIndexes.Pairwise (· < ·)) .invalid

/-- The transport authority, without version and digest. -/
def validateCommonPolicyAt (libraries : Libraries) (p : PolicyV2) (now : Instant) :
    Except PolicyErrorCategory ProgramV1 := do
  ensure (¬ isZeroTime now) .invalid
  ensure (p.wireProtocol = wireProtocolV1 ∧ p.carrierFamily = carrierFamilyTLS13TCP) .invalid
  let program ← validateLiveProgram libraries.cbor p.liveProgram p.liveProgramSHA256
  ensure (¬ allZero p.clientAuthPublic.toList ∧ ¬ allZero p.relayAuthPublic.toList ∧
    keyIDMatches p.clientAuthKeyID p.clientAuthPublic ∧
    relayKeyIDMatches p.relayAuthKeyID p.relayAuthPublic) .binding
  validateTLSAt libraries p.tlsServerName p.tlsLeafDER p.tlsLeafSHA256 now
  validateAddresses p
  ensure ((p.mtu.toNat : Int) ≤ program.limits.maxFrameBytes) .invalid
  validateModesAndProtocols p.allowedIPModes p.allowedProtocols (sliceBytes p.clientIPv4)
    (sliceBytes p.clientIPv6)
  validateLimits p.limits program
  validateFallback p.fallback p.endpoints.length p.limits.maxReconnectAttempts
  return program

end Kurdistan.Product
