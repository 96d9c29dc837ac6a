import Kurdistan.Support.Choice

/-!
# Security policy vocabulary

The strict error sentinels of the security package and the vocabulary of the
effective security policy. The policy record lists the fields of
`EffectiveSecurityPolicy` in source order; the private `validationHash`, which
detects values mutated after construction, is kept by the handshake model.
-/

namespace Kurdistan.Security

open Support

/-- The sentinels returned by the nonce, replay and envelope code. -/
inductive SecurityError where
  | invalidConfig
  | invalidSuite
  | invalidTranscript
  | policyInvalid
  | nonceExhausted
  | nonceMismatch
  | authenticationFailed
  | replayDuplicate
  | replayStale
  | replayOutOfOrder
  | replayTooFarFuture
  | replayExhausted
  | aeadInvalid
  | envelopeContextInvalid
  | downgrade
  deriving DecidableEq

inductive TranscriptMode where
  | canonicalV1
  | capabilitiesV1
  | carrierBindingV1
  | fullBindingV1
  deriving DecidableEq

def TranscriptMode.word : TranscriptMode → String
  | .canonicalV1 => "canonical_v1"
  | .capabilitiesV1 => "canonical_with_capabilities_v1"
  | .carrierBindingV1 => "canonical_with_carrier_binding_v1"
  | .fullBindingV1 => "canonical_full_binding_v1"

inductive KDFSuite where
  | hkdfSHA256
  deriving DecidableEq

def KDFSuite.word : KDFSuite → String
  | .hkdfSHA256 => "kdf_hkdf_sha256"

inductive AEADSuite where
  | aes256GCM
  deriving DecidableEq

def AEADSuite.word : AEADSuite → String
  | .aes256GCM => "aead_aes_256_gcm"

inductive MACSuite where
  | hmacSHA256
  deriving DecidableEq

def MACSuite.word : MACSuite → String
  | .hmacSHA256 => "mac_hmac_sha256"

inductive NonceMode where
  | counterXORBase
  | counterAppendBase
  | directionalCounter
  | streamPartitionedCounter
  deriving DecidableEq

def NonceMode.word : NonceMode → String
  | .counterXORBase => "counter_xor_base"
  | .counterAppendBase => "counter_append_base"
  | .directionalCounter => "directional_counter"
  | .streamPartitionedCounter => "stream_partitioned_counter"

inductive ReplayPolicy where
  | orderedOnly
  | boundedReorder
  | windowedReplay
  deriving DecidableEq

def ReplayPolicy.word : ReplayPolicy → String
  | .orderedOnly => "ordered_only"
  | .boundedReorder => "bounded_reorder"
  | .windowedReplay => "windowed_replay"

inductive DowngradePolicy where
  | strictSuiteAndCapabilities
  | strictCapabilities
  | suiteBoundTranscript
  deriving DecidableEq

def DowngradePolicy.word : DowngradePolicy → String
  | .strictSuiteAndCapabilities => "strict_suite_and_capabilities"
  | .strictCapabilities => "strict_capabilities"
  | .suiteBoundTranscript => "suite_bound_transcript"

inductive CapabilityNegotiationPolicy where
  | strictRequired
  | intersectionWithRequired
  | profileDeclaredRequired
  deriving DecidableEq

def CapabilityNegotiationPolicy.word : CapabilityNegotiationPolicy → String
  | .strictRequired => "strict_required"
  | .intersectionWithRequired => "intersection_with_required"
  | .profileDeclaredRequired => "profile_declared_required"

inductive ProfileCompatibilityPolicy where
  | strictSchema
  | schemaAndFeature
  | fullPolicyBinding
  deriving DecidableEq

def ProfileCompatibilityPolicy.word : ProfileCompatibilityPolicy → String
  | .strictSchema => "strict_schema"
  | .schemaAndFeature => "schema_and_feature"
  | .fullPolicyBinding => "full_policy_binding"

inductive KeyRotationPolicy where
  | sessionOnly
  | messageLifetimeBound
  | profileLifetimeBound
  deriving DecidableEq

def KeyRotationPolicy.word : KeyRotationPolicy → String
  | .sessionOnly => "session_only"
  | .messageLifetimeBound => "message_lifetime_bound"
  | .profileLifetimeBound => "profile_lifetime_bound"

inductive ConfigValidationPolicy where
  | strictRequired
  | strictWithRedaction
  | strictProfileBound
  deriving DecidableEq

def ConfigValidationPolicy.word : ConfigValidationPolicy → String
  | .strictRequired => "strict_required"
  | .strictWithRedaction => "strict_with_redaction"
  | .strictProfileBound => "strict_profile_bound"

inductive SecureEnvelopeMode where
  | metadataAuthenticated
  | syntheticAEADTest
  | fullContextBoundEnvelope
  deriving DecidableEq

def SecureEnvelopeMode.word : SecureEnvelopeMode → String
  | .metadataAuthenticated => "metadata_authenticated"
  | .syntheticAEADTest => "synthetic_aead_test"
  | .fullContextBoundEnvelope => "full_context_bound_envelope"

/-- The runtime-owned policy carrier derived from a validated profile. -/
structure EffectiveSecurityPolicy where
  profileID : String
  profileHash : String
  schemaVersion : String
  compilerSecurityVersion : String
  minimumRuntimeVersion : String
  securityVersion : String
  transcriptMode : Choice TranscriptMode
  kdfSuite : Choice KDFSuite
  aeadSuite : Choice AEADSuite
  macSuite : Choice MACSuite
  nonceMode : Choice NonceMode
  replayPolicy : Choice ReplayPolicy
  replayWindowSize : Int
  downgradePolicy : Choice DowngradePolicy
  capabilityNegotiationPolicy : Choice CapabilityNegotiationPolicy
  profileCompatibilityPolicy : Choice ProfileCompatibilityPolicy
  keyRotationPolicy : Choice KeyRotationPolicy
  configValidationPolicy : Choice ConfigValidationPolicy
  secureEnvelopeMode : Choice SecureEnvelopeMode
  maxSessionMessages : Int
  maxKeyLifetimeMessages : Int
  clientMandatoryCapabilities : List String
  serverMandatoryCapabilities : List String
  selectedCapabilities : List String
  deriving Inhabited

/-- The text fields of a policy, in source order. -/
def EffectiveSecurityPolicy.texts (p : EffectiveSecurityPolicy) : List String :=
  [p.profileID, p.profileHash, p.schemaVersion, p.compilerSecurityVersion,
    p.minimumRuntimeVersion, p.securityVersion,
    p.transcriptMode.text TranscriptMode.word, p.kdfSuite.text KDFSuite.word,
    p.aeadSuite.text AEADSuite.word, p.macSuite.text MACSuite.word,
    p.nonceMode.text NonceMode.word, p.replayPolicy.text ReplayPolicy.word,
    p.downgradePolicy.text DowngradePolicy.word,
    p.capabilityNegotiationPolicy.text CapabilityNegotiationPolicy.word,
    p.profileCompatibilityPolicy.text ProfileCompatibilityPolicy.word,
    p.keyRotationPolicy.text KeyRotationPolicy.word,
    p.configValidationPolicy.text ConfigValidationPolicy.word,
    p.secureEnvelopeMode.text SecureEnvelopeMode.word]

/-- A complete policy, for concrete runs of the models built on it. -/
def samplePolicyV1 : EffectiveSecurityPolicy :=
  ⟨"profile", "hash", "1", "1", "1", "1", .known .fullBindingV1, .known .hkdfSHA256,
    .known .aes256GCM, .known .hmacSHA256, .known .streamPartitionedCounter, .known .boundedReorder,
    65, .known .strictCapabilities, .known .strictRequired, .known .strictSchema,
    .known .sessionOnly, .known .strictRequired, .known .fullContextBoundEnvelope, 1000, 1000,
    ["streams"], [], ["streams"]⟩

end Kurdistan.Security
