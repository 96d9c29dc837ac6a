import Mathlib.Data.List.Infix
import Kurdistan.Product.Activation
import Kurdistan.Product.Address
import Kurdistan.Protocol.ProgramFields

/-!
# Service authority of a runtime policy

The optional services which a policy of version 3 signs: a proxy, probes and an update
source. `servicesMap` and `decodeServices` are the encoding. Parsing of addresses and
URLs is a parameter (`Parsers`).
-/

namespace Kurdistan.Product

open Support Support.Cbor
open Protocol (labelled rawMap uint32Item)

inductive PolicyErrorCategory where
  | invalid
  | size
  | schema
  | nonCanonical
  | binding
  deriving DecidableEq

structure PortRangeV1 where
  first : UInt16
  last : UInt16

/-- The address kinds are 1 for IPv4, 2 for a domain and 3 for IPv6. -/
structure ProxyV1 where
  addressKinds : List UInt8
  destinationCIDRs : List PrefixV2
  destinationPorts : List PortRangeV1
  maxConcurrentStreams : UInt8
  maxBufferBytes : UInt32
  connectTimeoutMillis : UInt32
  idleTimeoutSeconds : UInt32
  maxQueuedBytesPerDirection : UInt32

structure ProbeTargetV1 where
  id : UInt16
  address : List UInt8
  port : UInt16
  methods : List UInt8
  modes : List UInt8
  timeoutMillis : UInt32

structure ProbesV1 where
  targets : List ProbeTargetV1
  maxConcurrentOperations : UInt8
  maxSamplesPerOperation : UInt8
  minAttemptIntervalMillis : UInt32
  maxAttemptsPerMinute : UInt8
  maxOperationMillis : UInt32

structure UpdateV1 where
  url : Text
  profileID : Text
  maxArtifactBytes : UInt32
  timeoutMillis : UInt32
  minCheckIntervalSeconds : UInt32

structure ServicesV1 where
  version : UInt64
  proxy : Option ProxyV1
  probes : Option ProbesV1
  update : Option UpdateV1

/-! ## Validation -/

def deniedServicePrefixes : List PrefixV2 :=
  [prefix4 0 0 0 0 8, prefix4 10 0 0 0 8, prefix4 100 64 0 0 10, prefix4 127 0 0 0 8,
    prefix4 169 254 0 0 16, prefix4 172 16 0 0 12, prefix4 192 0 0 0 24, prefix4 192 0 2 0 24,
    prefix4 192 168 0 0 16, prefix4 198 18 0 0 15, prefix4 198 51 100 0 24,
    prefix4 203 0 113 0 24, prefix4 224 0 0 0 4, prefix4 240 0 0 0 4,
    prefix6 [0x20, 0x01] 23, prefix6 [0x20, 0x01, 0x0d, 0xb8] 32, prefix6 [0x20, 0x02] 16]

def publicServiceIPv6 : PrefixV2 := prefix6 [0x20] 3

def isPublicServiceAddress (address : List UInt8) : Bool :=
  isAddress address ∧ ¬ is4In6 address ∧ ¬ isUnspecified address ∧
    ¬ (localPrefixes.any fun p => p.contains address) ∧ ¬ isMulticast address ∧
    (is6 address → publicServiceIPv6.contains address) ∧
    ¬ (deniedServicePrefixes.any fun p => p.contains address)

/-- The parts of a URL which `validUpdateURL` looks at. -/
structure URLParts where
  scheme : Text
  isOpaque : Bool
  hasUser : Bool
  hasFragment : Bool
  hasQuery : Bool
  path : Text
  hasRawPath : Bool
  host : Text
  hostname : Text
  port : Text
  text : Text

/-- The parsers of the standard library. -/
structure Parsers where
  /-- `url.Parse`. -/
  url : Text → Option URLParts
  /-- `netip.ParseAddr` of an address without a zone, with its canonical text. -/
  addr : Text → Option (List UInt8 × Text)
  /-- `net.ParseIP`, with the canonical text. Texts of addresses are ASCII. -/
  ip : Text → Option Text
  ip_ascii : ∀ value, (ip value).isSome → ∀ byte ∈ value, byte < 128

def isLowerAlphanumeric (byte : UInt8) : Bool :=
  (97 ≤ byte ∧ byte ≤ 122) ∨ (48 ≤ byte ∧ byte ≤ 57)

/-- A label of a host name. -/
def isLabel (label : Text) : Bool :=
  1 ≤ label.length ∧ label.length ≤ 63 ∧ label.head? ≠ some 45 ∧ label.getLast? ≠ some 45 ∧
    ∀ byte ∈ label, byte = 45 ∨ isLowerAlphanumeric byte = true

def isCanonicalProxyDomain (value : Text) : Bool :=
  1 ≤ value.length ∧ value.length ≤ 253 ∧ ∀ label ∈ value.splitOn (46 : UInt8), isLabel label = true

/-- The number which a decimal text without leading zeros writes. -/
def decimalValue (text : Text) : Option ℕ :=
  if text ≠ [] ∧ (∀ byte ∈ text, 48 ≤ byte ∧ byte ≤ 57) ∧ (text.head? = some 48 → text = [48]) then
    some (text.foldl (fun value byte => value * 10 + (byte.toNat - 48)) 0)
  else none

/-- A port which is written canonically and is not the default one. -/
def isCanonicalPort (port : Text) : Bool :=
  (decimalValue port).any fun value => value < 2 ^ 16 ∧ value ≠ 0 ∧ value ≠ 443

def isPathByte (byte : UInt8) : Bool :=
  isLowerAlphanumeric byte = true ∨ (65 ≤ byte ∧ byte ≤ 90) ∨
    byte ∈ asciiBytes "-._~/"

variable (parsers : Parsers)

def canonicalHost (host : Text) : Option Text :=
  match parsers.addr host with
  | some (address, text) =>
    if ¬ isPublicServiceAddress address ∨ text ≠ host then none
    else if is6 address then some (91 :: host ++ [93])
    else some host
  | none => if isCanonicalProxyDomain host then some host else none

def validUpdateURL (value : Text) : Bool :=
  1 ≤ value.length ∧ value.length ≤ 2048 ∧ (∀ byte ∈ value, 32 < byte ∧ byte < 127) ∧
    (parsers.url value).any fun u =>
      u.scheme = asciiBytes "https" ∧ ¬ u.isOpaque ∧ ¬ u.hasUser ∧ ¬ u.hasFragment ∧
        (∀ byte ∈ asciiBytes "?#%\\", byte ∉ value) ∧ ¬ u.hasQuery ∧ u.path.head? = some 47 ∧
        ¬ u.hasRawPath ∧ (u.port = [] ∨ isCanonicalPort u.port) ∧
        (canonicalHost parsers u.hostname).any (fun host =>
          u.host = if u.port = [] then host else host ++ 58 :: u.port) ∧
        (∀ part ∈ u.path.splitOn (47 : UInt8), part ≠ [46] ∧ part ≠ [46, 46]) ∧
        ¬ [47, 47] <:+: u.path ∧ (∀ byte ∈ u.path, isPathByte byte = true) ∧ u.text = value

/-- Values between 1 and `max`, each larger than the one before it. -/
def sortedServiceValues (values : List UInt8) (max : UInt8) : Bool :=
  values ≠ [] ∧ values.length ≤ max.toNat ∧ (∀ value ∈ values, 1 ≤ value ∧ value ≤ max) ∧
    values.Pairwise (· < ·)

/-- The order of the destinations of a proxy. -/
def PrefixV2.before (p q : PrefixV2) : Bool :=
  p.address.length < q.address.length ∨ p.address.length = q.address.length ∧
    (p.address < q.address ∨ p.address = q.address ∧ p.prefixLen < q.prefixLen)

def validateProxy (p : ProxyV1) (ipv4 ipv6 : Bool) : Bool :=
  sortedServiceValues p.addressKinds 3 ∧ 1 ≤ p.destinationCIDRs.length ∧
    p.destinationCIDRs.length ≤ 64 ∧ 1 ≤ p.destinationPorts.length ∧
    p.destinationPorts.length ≤ 16 ∧ 1 ≤ p.maxConcurrentStreams ∧
    p.maxConcurrentStreams ≤ 64 ∧ 16777216 ≤ p.maxBufferBytes ∧
    p.maxBufferBytes ≤ 134217728 ∧ 1000 ≤ p.connectTimeoutMillis ∧
    p.connectTimeoutMillis ≤ 30000 ∧ 30 ≤ p.idleTimeoutSeconds ∧ p.idleTimeoutSeconds ≤ 3600 ∧
    1024 ≤ p.maxQueuedBytesPerDirection ∧ p.maxQueuedBytesPerDirection ≤ 65536 ∧
    (∀ kind ∈ p.addressKinds, (kind = 1 → ipv4) ∧ (kind = 3 → ipv6) ∧
      (kind = 2 → ipv4 ∨ ipv6)) ∧
    (∀ cidr ∈ p.destinationCIDRs, isAddress cidr.address ∧ ¬ is4In6 cidr.address ∧
      (is4 cidr.address → ipv4) ∧ (is6 cidr.address → ipv6) ∧
      cidr.prefixLen.toNat ≤ 8 * cidr.address.length ∧ cidr.isMasked) ∧
    p.destinationCIDRs.Pairwise (fun p q => p.before q ∧ ¬ p.overlaps q) ∧
    (∀ range ∈ p.destinationPorts, range.first ≠ 0 ∧ range.first ≤ range.last) ∧
    p.destinationPorts.Pairwise (fun a b => a.last.toNat + 1 < b.first.toNat)

def validateProbes (p : ProbesV1) (ipv4 ipv6 : Bool) : Bool :=
  1 ≤ p.targets.length ∧ p.targets.length ≤ 16 ∧ 1 ≤ p.maxConcurrentOperations ∧
    p.maxConcurrentOperations ≤ 4 ∧ 1 ≤ p.maxSamplesPerOperation ∧
    p.maxSamplesPerOperation ≤ 10 ∧ 1000 ≤ p.minAttemptIntervalMillis ∧
    p.minAttemptIntervalMillis ≤ 3600000 ∧ 1 ≤ p.maxAttemptsPerMinute ∧
    p.maxAttemptsPerMinute ≤ 60 ∧ 1000 ≤ p.maxOperationMillis ∧ p.maxOperationMillis ≤ 30000 ∧
    (∀ t ∈ p.targets, t.id ≠ 0 ∧ isPublicServiceAddress t.address ∧
      (is4 t.address → ipv4) ∧ (is6 t.address → ipv6) ∧ t.port ≠ 0 ∧ t.methods = [1] ∧
      sortedServiceValues t.modes 2 ∧ 1000 ≤ t.timeoutMillis ∧ t.timeoutMillis ≤ 30000 ∧
      t.timeoutMillis ≤ p.maxOperationMillis) ∧
    (p.targets.map ProbeTargetV1.id).Pairwise (· < ·)

def maxCanonicalIDBytes : ℕ := 128

/-- The bytes of a canonical identifier. -/
def isCanonicalIDByte (byte : UInt8) : Bool :=
  isLowerAlphanumeric byte = true ∨ (65 ≤ byte ∧ byte ≤ 90) ∨ byte ∈ asciiBytes "-_.:"

def validateUpdate (u : UpdateV1) : Bool :=
  validUpdateURL parsers u.url ∧ u.profileID ≠ [] ∧
    u.profileID.length ≤ maxCanonicalIDBytes ∧ 1 ≤ u.maxArtifactBytes ∧
    u.maxArtifactBytes.toNat ≤ maxTotalInputBytes ∧ 1000 ≤ u.timeoutMillis ∧
    u.timeoutMillis ≤ 30000 ∧ 60 ≤ u.minCheckIntervalSeconds ∧
    u.minCheckIntervalSeconds ≤ 604800 ∧
    ∀ byte ∈ u.profileID, isCanonicalIDByte byte = true

end Kurdistan.Product
