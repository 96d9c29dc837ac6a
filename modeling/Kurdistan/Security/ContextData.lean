import Kurdistan.Security.KeySchedule
import Kurdistan.Support.Framed

/-!
# Data of the authenticated context

The blocks a validated profile commits to, the mode binding built from them,
and the primitives the context and the handshake are computed with.

The primitives are those of the Go library: SHA-256, Ed25519, X25519, HKDF and
HMAC, and `json.Marshal` on the three types which are hashed in their JSON form.
They are parameters; results name what they assume of them.
-/

namespace Kurdistan.Security

open Support

/-- The compatibility source committed by a profile. -/
structure CompatibilityBlockV1 where
  schemaVersion : String
  compilerSecurityVersion : String
  minimumRuntimeVersion : String
  supportedSecuritySuites : List String
  requiredCapabilities : List String
  supportedCarrierFamilies : List String
  supportedProxyFeatures : List String
  supportedStreamFeatures : List String
  maxEnvelopeBytes : UInt32
  maxStreamCount : UInt32
  maxReplayWindow : UInt32
  deriving Inhabited

/-- Protocol, carrier and stream limits. -/
structure LimitBlockV1 where
  maxFrameBytes : UInt32
  maxPayloadBytes : UInt32
  maxStates : UInt32
  maxTransitions : UInt32
  maxSessionMillis : UInt64
  carrierMaxEnvelopeBytes : UInt32
  carrierMaxQueueDepth : UInt32
  sessionMaxConcurrentStreams : UInt32
  deriving DecidableEq, Inhabited

structure SelectedSuiteV1 where
  kdfSuite : Choice KDFSuite
  aeadSuite : Choice AEADSuite
  macSuite : Choice MACSuite
  deriving DecidableEq, Inhabited

/-- The suite a policy selects. -/
def EffectiveSecurityPolicy.selectedSuite (p : EffectiveSecurityPolicy) : SelectedSuiteV1 where
  kdfSuite := p.kdfSuite
  aeadSuite := p.aeadSuite
  macSuite := p.macSuite

/-- The identities of the profile and policy a peer is configured with. -/
structure ConfigSourceBlockV1 where
  profileID : String
  profileHash : FixedBytes 32
  securityVersion : String
  selectedSuite : SelectedSuiteV1
  effectivePolicyHash : FixedBytes 32
  selectedCapabilityHash : FixedBytes 32
  adapterClass : String
  compatibilityBlockHash : FixedBytes 32
  limitBlockHash : FixedBytes 32
  deriving DecidableEq, Inhabited

/-- Metadata derived from a profile and committed by its hash. -/
structure HandshakeModeBinding where
  clientOptional : List String
  serverOptional : List String
  featureVectors : List String
  carrierFamily : String
  carrierPolicyHash : FixedBytes 32
  envelopeLimit : UInt32
  maxFrameBytes : UInt32
  localAdapterClass : String
  framingPolicyHash : FixedBytes 32
  stateMachinePolicyHash : FixedBytes 32
  schedulerPolicyHash : FixedBytes 32
  paddingPolicyHash : FixedBytes 32
  streamPolicyHash : FixedBytes 32
  proxyPolicyHash : FixedBytes 32
  carrierContextHash : FixedBytes 32
  compatibilityBlock : CompatibilityBlockV1
  compatibilityBlockHash : FixedBytes 32
  limitBlock : LimitBlockV1
  limitBlockHash : FixedBytes 32
  configSourceBlock : ConfigSourceBlockV1
  configSourceBlockHash : FixedBytes 32
  deriving Inhabited

/-- A policy together with the digest which detects raw or mutated values. -/
structure SealedPolicy extends EffectiveSecurityPolicy where
  validationHash : FixedBytes 32
  deriving Inhabited

/-- The library functions the handshake is computed with. -/
structure Primitives where
  /-- `sha256.Sum256`. -/
  hash : List UInt8 → FixedBytes 32
  /-- The Ed25519 public key of a seed. -/
  publicKey : List UInt8 → FixedBytes 32
  /-- `ed25519.Sign`. -/
  sign : List UInt8 → List UInt8 → FixedBytes 64
  /-- `ed25519.Verify`, with the key first. -/
  verify : List UInt8 → List UInt8 → List UInt8 → Bool
  /-- The X25519 function of a scalar and a point. -/
  x25519 : FixedBytes 32 → FixedBytes 32 → FixedBytes 32
  /-- `hkdf.Extract` with SHA-256, of a secret and a salt. -/
  hkdfExtract : List UInt8 → List UInt8 → Option (List UInt8)
  /-- `hkdf.Expand` with SHA-256, of a key, an info text and a length. -/
  hkdfExpand : List UInt8 → List UInt8 → ℕ → Option (List UInt8)
  /-- HMAC-SHA256 of a message under a key. -/
  hmac : List UInt8 → List UInt8 → FixedBytes 32
  /-- `json.Marshal` of a policy. -/
  marshalPolicy : EffectiveSecurityPolicy → List UInt8
  /-- `json.Marshal` of the capability items under their domain. -/
  marshalCapabilities : List String → List UInt8
  /-- `json.Marshal` of a mode binding. -/
  marshalModeBinding : HandshakeModeBinding → List UInt8

/-- Hash a label and parts, each with its length in front. -/
def Primitives.labelledHash (p : Primitives) (label : String)
    (parts : List (List UInt8)) : FixedBytes 32 :=
  p.hash (framed (asciiBytes label :: parts))

/-- An error which wraps a sentinel and says more. -/
structure WrappedError where
  cause : SecurityError
  detail : String
  arguments : List String := []
  deriving DecidableEq

def invalidTranscript (detail : String) : WrappedError := ⟨.invalidTranscript, detail, []⟩

def downgradeRejected (detail : String) : WrappedError := ⟨.downgrade, detail, []⟩

def allZero32 (value : FixedBytes 32) : Bool := allZeroKeyBytes value.toList

end Kurdistan.Security
