import Kurdistan.Security.Policy
import Kurdistan.Protocol.Vocabulary

/-!
# Protocol profiles

The intermediate representation of a generated protocol, record by record in
source order. Fields which framing dispatches on use the shared vocabularies;
fields which only the validator compares with a list of texts stay texts.
-/

namespace Kurdistan.Protocol

open Support Security

def supportedVersion : String := "0.2.0-lab"

def supportedSecurityVersion : String := "0.13.0-lab"

def roleClient : String := "client"

def roleServer : String := "server"

def roleShared : String := "shared"

structure RolePolicy where
  clientRole : String
  serverRole : String

structure State where
  id : String
  role : String
  terminal : Bool

structure Transition where
  source : String
  target : String
  role : String
  onMessage : String
  emitsMessage : String
  requiresAuth : Bool
  description : String

structure FirstContactStep where
  role : String
  direction : String
  message : String
  wireSymbol : List UInt8
  fromState : String
  toState : String
  payloadSize : Int
  proof : Bool
  decoy : Bool

structure FirstContactSpec where
  patternID : String
  startState : String
  relayReadyState : String
  steps : List FirstContactStep

structure MessageSymbol where
  semantic : Choice Semantic
  wireSymbol : List UInt8
  direction : String
  minPayloadSize : Int
  maxPayloadSize : Int
  deriving DecidableEq

structure FrameGrammar where
  lengthMode : Choice LengthMode
  typeMode : Choice TypeMode
  headerOrder : List (Choice HeaderField)
  fragmentationMode : Choice FragmentationMode
  checksumMode : Choice ChecksumMode
  paddingPlacement : Choice PaddingPlacement

structure AuthSpec where
  mode : String
  keyID : String
  testKeyHex : String
  nonceBytes : Int
  proofMessage : String

structure SchedulerPolicy where
  mode : Choice SchedulerMode
  maxBatchBytes : Int
  flushIntervalMs : Int
  maxInFlightFrames : Int
  priorityMode : String

structure StreamPolicy where
  idStrategy : String
  idEncodingMode : Choice StreamEncodingMode
  maxConcurrentStreams : Int
  initialStreamWindowBytes : Int
  initialSessionWindowBytes : Int
  windowUpdatePolicy : String
  priorityPolicy : String
  closePolicy : String
  resetPolicy : String
  maxStreamID : UInt32

structure ProxySemanticsPolicy where
  relayIntentEncoding : String
  targetDescriptorEncoding : String
  requestClassEncoding : String
  responseModeEncoding : String
  targetErrorPolicy : String
  targetClosePolicy : String
  targetResetPolicy : String
  targetMetadataPolicy : String
  relayOpenOrderingPolicy : String
  relayIntentPaddingPolicy : String
  targetClassMapping : String
  targetClasses : List String
  maxRequestBytes : Int
  maxResponseBytes : Int

structure CarrierPolicy where
  carrierFamily : String
  envelopeEncoding : String
  flushPolicy : String
  batchPolicy : String
  chunkingPolicy : String
  reliabilityPolicy : String
  reorderPolicy : String
  backpressurePolicy : String
  priorityMappingPolicy : String
  envelopePaddingPolicy : String
  timingBucketPolicy : String
  maxEnvelopeBytes : Int
  maxMessagesPerEnvelope : Int
  maxCarrierQueueDepth : Int
  maxRetryCount : Int

structure WirePhasePlan where
  phaseSequence : List String
  handshakeRTTBucket : String
  directionPattern : String
  controlPhaseEnabled : Bool

/-- The two maps of the source are association lists. -/
structure WireFieldLayoutPlan where
  layoutClass : String
  fieldOrder : List String
  visibilityByField : List (String × String)
  sizeBucketByField : List (String × String)
  payloadPosition : String

structure WireFirstFlightPlan where
  packetCountBucket : String
  directionPattern : String
  sizeBuckets : List String
  controlIncluded : Bool

structure WireFirstNPlan where
  n : Int
  shapeClass : String
  directionClass : String
  sizeClass : String

structure WireFrameSizePlan where
  strategy : String
  sizeBuckets : List String
  paddingBudget : String
  payloadSplit : String

structure WireFragmentRhythmPlan where
  strategy : String
  fragmentBuckets : List String
  reorderPermitted : Bool
  reassemblyPattern : String

structure WireControlPlan where
  richness : String
  preDataControls : Int
  interleaveClass : String
  closeClass : String
  resetClass : String

structure WireMetadataExposurePlan where
  exposureClass : String
  cleartextFields : List String
  encryptedFields : List String
  derivedOnlyFields : List String

structure WireLengthAlonePlan where
  enabled : Bool
  triggerClass : String

structure WireShapePolicy where
  version : String
  corpusVersion : String
  policyID : String
  profileSeed : Int
  selectedFamily : String
  selectedCorpusEntry : String
  phasePlan : WirePhasePlan
  fieldLayoutPlan : WireFieldLayoutPlan
  firstFlightPlan : WireFirstFlightPlan
  firstNPlan : WireFirstNPlan
  frameSizePlan : WireFrameSizePlan
  fragmentRhythmPlan : WireFragmentRhythmPlan
  controlPlan : WireControlPlan
  metadataExposurePlan : WireMetadataExposurePlan
  lengthAlonePlan : WireLengthAlonePlan
  policyHash : String

structure AdapterPolicy where
  requiredCapabilities : List String
  flowLifecyclePolicy : String
  runtimeMappingPolicy : String
  tracePolicy : String
  errorMappingPolicy : String
  backpressurePolicy : String
  maxFlows : Int
  maxFlowBytes : Int
  maxBufferedBytes : Int
  maxEvents : Int

structure SecurityPolicy where
  securityVersion : String
  transcriptMode : Choice TranscriptMode
  kdfSuite : Choice KDFSuite
  aeadSuite : Choice AEADSuite
  macSuite : Choice MACSuite
  nonceMode : Choice NonceMode
  replayPolicy : Choice ReplayPolicy
  replayWindowSize : Int
  downgradePolicy : Choice DowngradePolicy
  capabilityNegotiationPolicy : Choice CapabilityNegotiationPolicy
  profileCompatibilityPolicy : Choice ProfileCompatibilityPolicy
  keyRotationPolicy : Choice KeyRotationPolicy
  configValidationPolicy : Choice ConfigValidationPolicy
  secureEnvelopeMode : Choice SecureEnvelopeMode
  maxSessionMessages : Int
  maxKeyLifetimeMessages : Int

structure CompatibilityMetadata where
  schemaVersion : String
  compilerSecurityVersion : String
  minimumRuntimeVersion : String
  supportedSecuritySuites : List String
  requiredCapabilities : List String
  supportedCarrierFamilies : List String
  supportedProxyFeatures : List String
  supportedStreamFeatures : List String
  maxEnvelopeBytes : Int
  maxStreamCount : Int
  maxReplayWindow : Int

structure InvalidInputPolicy where
  unknownFirstMessage : String
  malformedFrame : String
  failedAuth : String
  replay : String
  delayMsMin : Int
  delayMsMax : Int

structure SafetyLimits where
  maxFrameBytes : Int
  maxPayloadBytes : Int
  maxStates : Int
  maxTransitions : Int
  maxSessionMillis : Int

structure Profile where
  version : String
  id : List UInt8
  seed : Int64
  generationHash : String
  rolePolicy : RolePolicy
  carrierType : String
  states : List State
  transitions : List Transition
  firstContact : FirstContactSpec
  messages : List MessageSymbol
  frameGrammar : FrameGrammar
  auth : AuthSpec
  scheduler : SchedulerPolicy
  stream : StreamPolicy
  proxySemantics : ProxySemanticsPolicy
  carrierPolicy : CarrierPolicy
  wireShape : WireShapePolicy
  adapterPolicy : AdapterPolicy
  security : SecurityPolicy
  compatibility : CompatibilityMetadata
  padding : PaddingPolicy
  invalidInput : InvalidInputPolicy
  limits : SafetyLimits

/-- `json.Marshal` on the two records whose digests are checked. It is kept as
a parameter: it can fail (a probability which is no number) and is otherwise
some function of the record. -/
structure ProfileEncoding where
  marshalProfile : Profile → Except String (List UInt8)
  marshalWireShape : WireShapePolicy → Except String (List UInt8)

/-! ## Constant tables -/

def syntheticTargetClasses : List String :=
  ["echo", "discard", "fixed_response", "slow_response", "chunked_response",
    "large_object", "error_response", "reset_midstream", "drip_response",
    "jittery_response"]

def carrierFamilies : List String :=
  ["stream_carrier", "message_carrier", "datagram_like_carrier", "chunked_carrier",
    "batch_carrier", "interactive_carrier", "long_poll_style_carrier",
    "lossy_reordered_carrier"]

def securityCapabilities : List String :=
  ["multi_stream", "proxy_semantics", "carrier_abstraction", "adapter_interface",
    "carrier_loss_recovery", "carrier_backpressure", "generated_backend",
    "transcript_binding", "replay_window", "nonce_schedule"]

def adapterCapabilities : List String :=
  ["adapter_ingress", "adapter_egress", "flow_lifecycle", "flow_reset",
    "flow_half_close", "flow_backpressure", "flow_priority", "flow_metadata_only",
    "runtime_stream_mapping", "trace_safe_adapter_summary"]

def securitySuiteString : String :=
  "kdf_hkdf_sha256/aead_aes_256_gcm/mac_hmac_sha256/transcript_sha256_v1"

end Kurdistan.Protocol
