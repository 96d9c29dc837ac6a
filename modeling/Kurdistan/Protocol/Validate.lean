import Kurdistan.Support.Outcome
import Kurdistan.Support.Digest
import Kurdistan.Protocol.Profile

/-!
# Profile validation

`validate` is the validator of protocol profiles, check by check in source
order, with the message of every failed check. A message is kept as its format
text and the values formatted into it.
-/

namespace Kurdistan.Protocol

open Support Security

inductive FormatArgument where
  | text (value : String)
  | bytes (value : List UInt8)
  | number (value : ℕ)
  deriving DecidableEq

/-- The error built by `fmt.Errorf`. -/
structure ValidationError where
  format : String
  arguments : List FormatArgument
  deriving DecidableEq

/-- A message without arguments. -/
def failure (format : String) : ValidationError := ⟨format, []⟩

def quoted (format value : String) : ValidationError := ⟨format, [.text value]⟩

abbrev Validation := Except ValidationError Unit

def semanticText (semantic : Choice Semantic) : String := semantic.text Semantic.word

/-! ## Digests -/

def hexDigit (value : ℕ) : Char := "0123456789abcdef".toList.getD value '0'

/-- `hex.EncodeToString`. -/
def hexEncode (bytes : List UInt8) : String :=
  String.ofList (bytes.flatMap fun byte => [hexDigit (byte.toNat / 16), hexDigit (byte.toNat % 16)])

variable (encoding : ProfileEncoding)

/-- `CanonicalHash`: the digest of the profile without its own digest. -/
def canonicalHash (p : Profile) : Except ValidationError String :=
  match encoding.marshalProfile { p with generationHash := "" } with
  | .ok raw => .ok (hexEncode (sha256 raw).toList)
  | .error text => .error (failure text)

def wireShapePolicyHash (p : WireShapePolicy) :
    Except ValidationError String :=
  match encoding.marshalWireShape { p with policyHash := "" } with
  | .ok raw => .ok (hexEncode (sha256 raw).toList)
  | .error text => .error (failure text)

/-! ## Versions, limits and states -/

variable (p : Profile)

def validateSupportedVersionTupleV1 : Validation :=
  ensure (p.version = supportedVersion ∧
    p.security.securityVersion = supportedSecurityVersion ∧
    p.compatibility.schemaVersion = supportedVersion ∧
    p.compatibility.compilerSecurityVersion = supportedSecurityVersion ∧
    p.compatibility.minimumRuntimeVersion = supportedSecurityVersion)
    (failure "unsupported profile version tuple")

def validateLimits : Validation := do
  ensure (0 < p.limits.maxFrameBytes ∧ p.limits.maxFrameBytes ≤ 2 ^ 20)
    (failure "invalid max frame bytes")
  ensure (0 < p.limits.maxPayloadBytes ∧ p.limits.maxPayloadBytes ≤ 2 ^ 23)
    (failure "invalid max payload bytes")
  ensure (0 < p.limits.maxStates ∧ (p.states.length : Int) ≤ p.limits.maxStates)
    (failure "state count exceeds limits")
  ensure (0 < p.limits.maxTransitions ∧ (p.transitions.length : Int) ≤ p.limits.maxTransitions)
    (failure "transition count exceeds limits")
  ensure (0 < p.limits.maxSessionMillis) (failure "max session duration is required")

/-- The loop over the declared states; `seen` holds the identifiers before. -/
def validateStateList : List String → List State → Validation
  | _, [] => .ok ()
  | seen, st :: rest => do
    ensure (st.id ≠ "") (failure "empty state id")
    ensure (st.role = roleClient ∨ st.role = roleServer ∨ st.role = roleShared)
      (quoted "invalid state role %q" st.role)
    ensure (st.id ∉ seen) (quoted "duplicate state %q" st.id)
    validateStateList (st.id :: seen) rest

def validateTransition (ids : List String) (tr : Transition) : Validation := do
  ensure (tr.source ∈ ids) (quoted "transition from unknown state %q" tr.source)
  ensure (tr.target ∈ ids) (quoted "transition to unknown state %q" tr.target)
  ensure (tr.role = roleClient ∨ tr.role = roleServer) (quoted "invalid transition role %q" tr.role)
  ensure (tr.onMessage ≠ "") (failure "transition message is required")

/-- The breadth-first search of `reachable`. Every round removes one state from
the queue and no state enters it twice, so there are no more rounds than the
start state and the transitions. -/
def reachableFuel (transitions : List Transition) (want : String) :
    ℕ → List String → List String → Bool
  | 0, _, _ => false
  | _ + 1, _, [] => false
  | fuel + 1, seen, cur :: queue =>
    if cur = want then true
    else
      let edges := (transitions.filter (·.source = cur)).map (·.target)
      let next := edges.foldl (fun (found : List String × List String) target =>
          if target ∈ found.1 then found else (target :: found.1, found.2 ++ [target]))
        (seen, queue)
      reachableFuel transitions want fuel next.1 next.2

def reachable (transitions : List Transition) (start want : String) : Bool :=
  reachableFuel transitions want (transitions.length + 1) [start] [start]

def validateFirstContactStep (ids : List String) (step : FirstContactStep) :
    Validation := do
  ensure (step.fromState ∈ ids) (failure "first-contact step has unknown from state")
  ensure (step.toState ∈ ids) (failure "first-contact step has unknown to state")
  ensure (step.wireSymbol ≠ [] ∧ step.message ≠ "" ∧ 0 ≤ step.payloadSize)
    (failure "invalid first-contact step")

def validateStates : Validation := do
  let ids := p.states.map (·.id)
  validateStateList [] p.states
  ensure (p.firstContact.startState ∈ ids) (failure "start state is missing")
  ensure (p.firstContact.relayReadyState ∈ ids) (failure "relay-ready state is missing")
  ensure (∃ st ∈ p.states, st.terminal) (failure "terminal state is required")
  ensure (p.firstContact.steps ≠ []) (failure "first-contact steps are required")
  ensureAll (validateTransition ids) p.transitions
  ensure ((∃ tr ∈ p.transitions, tr.role = roleClient) ∧ ∃ tr ∈ p.transitions, tr.role = roleServer)
    (failure "client and server transition paths are required")
  ensure (reachable p.transitions p.firstContact.startState p.firstContact.relayReadyState)
    (failure "relay-ready state is unreachable")
  ensureAll (validateFirstContactStep ids) p.firstContact.steps
  ensure (∀ first ∈ p.firstContact.steps.head?, first.role = roleClient)
    (failure "first-contact must begin with client")
  ensure (∀ first ∈ p.firstContact.steps.head?, p.auth.nonceBytes ≤ first.payloadSize)
    (failure "first-contact nonce payload is too small")

/-! ## Messages and frame grammar -/

def forbiddenWireConstants : List String :=
  ["HELLO", "AUTH", "OPEN", "KURD", "VPN", "PROXY", "CONNECT"]

/-- The loop over the message symbols; `seenWire` holds the symbols before, with
their semantics. No character outside ASCII has an upper case among the letters
of the forbidden constants. -/
def validateMessageList (maxPayloadBytes : Int) :
    List (List UInt8 × Choice Semantic) → List MessageSymbol → Validation
  | _, [] => .ok ()
  | seenWire, msg :: rest => do
    ensure (msg.semantic ≠ .other "" ∧ msg.wireSymbol ≠ [])
      (failure "semantic and wire symbols are required")
    ensure (0 ≤ msg.minPayloadSize ∧ msg.minPayloadSize ≤ msg.maxPayloadSize ∧
      msg.maxPayloadSize ≤ maxPayloadBytes)
      (quoted "invalid payload bounds for %q" (semanticText msg.semantic))
    ensureAll (fun forbidden =>
      ensure (containsText (toUpper msg.wireSymbol) (asciiBytes forbidden) = false)
        (quoted "forbidden wire symbol constant %q" forbidden)) forbiddenWireConstants
    ensureAll (fun previous =>
      ensure (previous.1 ≠ msg.wireSymbol)
        ⟨"duplicate wire symbol %q for %q and %q",
          [.bytes msg.wireSymbol, .text (semanticText previous.2),
            .text (semanticText msg.semantic)]⟩) seenWire
    validateMessageList maxPayloadBytes ((msg.wireSymbol, msg.semantic) :: seenWire) rest

def validateMessages : Validation := do
  validateMessageList p.limits.maxPayloadBytes [] p.messages
  ensureAll (fun semantic =>
    ensure (∃ msg ∈ p.messages, msg.semantic = .known semantic)
      (quoted "missing semantic message %q" semantic.word)) relaySemantics
  ensureAll (fun step : FirstContactStep =>
    ensure (step.wireSymbol ∉ p.messages.map (·.wireSymbol))
      (failure "first-contact wire symbol collides with frame symbol"))
    p.firstContact.steps

def validateFrameGrammar : Validation := do
  ensure p.frameGrammar.lengthMode.isKnown (failure "invalid length mode")
  ensure p.frameGrammar.typeMode.isKnown (failure "invalid type mode")
  ensure p.frameGrammar.fragmentationMode.isKnown (failure "invalid fragmentation mode")
  ensure p.frameGrammar.checksumMode.isKnown (failure "invalid checksum mode")
  ensure p.frameGrammar.paddingPlacement.isKnown (failure "invalid padding placement")
  ensureAll (fun field : Choice HeaderField =>
    ensure field.isKnown (quoted "invalid header field %q" (field.text HeaderField.word)))
    p.frameGrammar.headerOrder
  ensureAll (fun field : HeaderField =>
    ensure (.known field ∈ p.frameGrammar.headerOrder)
      (quoted "header order missing %q" field.word)) headerFields

/-! ## Scheduler, streams and proxy semantics -/

def validateScheduler (p : SchedulerPolicy) : Validation := do
  ensure p.mode.isKnown (failure "invalid scheduler mode")
  ensure (0 < p.maxBatchBytes ∧ p.maxBatchBytes ≤ 32 * 1024)
    (failure "invalid scheduler batch size")
  ensure (0 ≤ p.flushIntervalMs ∧ p.flushIntervalMs ≤ 1000) (failure "invalid flush interval")
  ensure (p.maxInFlightFrames ∈ ([4, 8, 16, 32] : List Int))
    (failure "invalid max in-flight frame count")
  ensure (p.priorityMode ≠ "") (failure "priority mode is required")

def validateStreamPolicy (p : StreamPolicy) (limits : SafetyLimits) : Validation := do
  ensure (p.idStrategy ∈ ["sequential_odd_even", "randomized_bounded_ids",
    "table_mapped_ids", "varint_ids"]) (failure "invalid stream id strategy")
  ensure p.idEncodingMode.isKnown (failure "invalid stream id encoding mode")
  ensure (p.maxConcurrentStreams ∈ ([2, 4, 8, 16] : List Int))
    (failure "invalid max concurrent streams")
  ensure (p.initialStreamWindowBytes ∈ ([16 * 1024, 32 * 1024, 64 * 1024, 128 * 1024] : List Int))
    (failure "invalid stream window")
  ensure (p.initialStreamWindowBytes ≤ p.initialSessionWindowBytes)
    (failure "session window must be at least one stream window")
  ensure (p.initialSessionWindowBytes ≤ 2 * 1024 * 1024)
    (failure "session window exceeds lab safety limit")
  ensure (0 < limits.maxPayloadBytes → p.initialSessionWindowBytes ≤ limits.maxPayloadBytes)
    (failure "session window exceeds payload limit")
  ensure (p.windowUpdatePolicy ∈ ["threshold_update", "periodic_update",
    "per_frame_update", "hybrid_update"]) (failure "invalid window update policy")
  ensure (p.priorityPolicy ∈ ["fifo", "interactive_first", "weighted_round_robin",
    "smallest_pending_first"]) (failure "invalid stream priority policy")
  ensure (p.closePolicy ∈ ["explicit_close", "half_close", "close_after_ack"])
    (failure "invalid stream close policy")
  ensure (p.resetPolicy ∈ ["immediate_reset", "reset_with_error_code", "delayed_reset"])
    (failure "invalid stream reset policy")
  ensure (p.maxStreamID ≠ 0 ∧ p.maxStreamID.toNat ≤ 2 ^ 30) (failure "invalid max stream id")
  ensure (p.maxConcurrentStreams ≤ p.maxStreamID.toNat)
    (failure "max stream id cannot represent concurrent streams")

/-- The loop shared by every list whose entries have to be known and distinct. -/
def validateDistinctKnown (known : List String) (unknownFormat duplicateFormat : String) :
    List String → List String → Validation
  | _, [] => .ok ()
  | seen, value :: rest => do
    ensure (value ∈ known) (quoted unknownFormat value)
    ensure (value ∉ seen) (quoted duplicateFormat value)
    validateDistinctKnown known unknownFormat duplicateFormat (value :: seen) rest

def validateProxySemanticsPolicy (p : ProxySemanticsPolicy) (limits : SafetyLimits)
    (messages : List MessageSymbol) : Validation := do
  ensure (p.relayIntentEncoding ∈ ["descriptor_before_open", "descriptor_after_open",
    "split_descriptor", "table_mapped_descriptor", "state_derived_descriptor"])
    (failure "invalid relay intent encoding")
  ensure (p.targetDescriptorEncoding ∈ ["compact_enum", "generated_table_index",
    "split_fields", "state_derived_class", "padded_descriptor_block"])
    (failure "invalid target descriptor encoding")
  ensure (p.requestClassEncoding ∈ ["interactive", "bulk", "control", "error_test",
    "generated_bucket"]) (failure "invalid request class encoding")
  ensure (p.responseModeEncoding ∈ ["immediate", "chunked", "delayed", "resettable",
    "errorable", "large_object"]) (failure "invalid response mode encoding")
  ensure (p.targetErrorPolicy ∈ ["explicit_target_error", "close_with_error",
    "reset_with_error", "delayed_error", "metadata_error"]) (failure "invalid target error policy")
  ensure (p.targetClosePolicy ∈ ["explicit_close", "implicit_close_after_response",
    "close_after_ack", "half_close_compatible"]) (failure "invalid target close policy")
  ensure (p.targetResetPolicy ∈ ["immediate_reset", "reset_with_reason", "delayed_reset",
    "reset_after_partial_response"]) (failure "invalid target reset policy")
  ensure (p.targetMetadataPolicy ∈ ["none", "pre_response_metadata",
    "post_response_metadata", "metadata_as_control_frame"])
    (failure "invalid target metadata policy")
  ensure (p.relayOpenOrderingPolicy ∈ ["intent_before_stream", "stream_before_intent",
    "descriptor_split_around_open", "metadata_before_descriptor"])
    (failure "invalid relay open ordering policy")
  ensure (p.relayIntentPaddingPolicy ∈ ["none", "bounded", "descriptor_padding",
    "metadata_padding"]) (failure "invalid relay intent padding policy")
  ensure (p.targetClassMapping ∈ ["direct_generated", "table_mapped", "state_derived",
    "bucketed"]) (failure "invalid target class mapping")
  ensure (0 < p.maxRequestBytes ∧ 0 < p.maxResponseBytes)
    (failure "proxy semantics byte limits are required")
  ensure (0 < limits.maxPayloadBytes → p.maxRequestBytes ≤ limits.maxPayloadBytes ∧
    p.maxResponseBytes ≤ limits.maxPayloadBytes)
    (failure "proxy semantics limits exceed payload limit")
  ensure (p.maxRequestBytes ≤ 512 * 1024 ∧ p.maxResponseBytes ≤ 2 * 1024 * 1024)
    (failure "proxy semantics limits exceed lab safety bound")
  ensure (p.targetClasses ≠ []) (failure "proxy target classes are required")
  validateDistinctKnown syntheticTargetClasses "unknown synthetic target class %q"
    "duplicate synthetic target class %q" [] p.targetClasses
  ensureAll (fun semantic : Semantic =>
    let count := (messages.filter (·.semantic = .known semantic)).length
    ensure (count = 1)
      ⟨"proxy semantic %q has %d mappings", [.text semantic.word, .number count]⟩)
    proxySemantics

/-! ## Carrier, wire shape and adapter -/

def validateCarrierPolicy (p : CarrierPolicy) (limits : SafetyLimits) : Validation := do
  ensure (p.carrierFamily ∈ carrierFamilies) (failure "invalid carrier family")
  ensure (p.envelopeEncoding ∈ ["single_semantic", "coalesced_semantics",
    "split_semantic", "table_mapped_envelope", "state_derived_envelope"])
    (failure "invalid carrier envelope encoding")
  ensure (p.flushPolicy ∈ ["flush_each", "flush_on_threshold", "flush_on_priority",
    "flush_on_state_transition", "delayed_flush_bucket"]) (failure "invalid carrier flush policy")
  ensure (p.batchPolicy ∈ ["no_batch", "fixed_batch", "profile_bucket_batch",
    "priority_split_batch", "state_transition_batch"]) (failure "invalid carrier batch policy")
  ensure (p.chunkingPolicy ∈ ["no_chunk", "fixed_chunk", "profile_bucket_chunk",
    "priority_aware_chunk", "state_derived_chunk"]) (failure "invalid carrier chunking policy")
  ensure (p.reliabilityPolicy ∈ ["ordered_only", "ack_required", "retry_bounded",
    "drop_detect", "reorder_recover"]) (failure "invalid carrier reliability policy")
  ensure (p.reorderPolicy ∈ ["none", "stable", "deterministic_reorder", "lossy_reorder",
    "recoverable_reorder"]) (failure "invalid carrier reorder policy")
  ensure (p.backpressurePolicy ∈ ["carrier_queue_backpressure",
    "stream_window_backpressure", "session_window_backpressure", "priority_backpressure",
    "drop_or_delay_metadata"]) (failure "invalid carrier backpressure policy")
  ensure (p.priorityMappingPolicy ∈ ["direct_priority", "bucketed_priority",
    "state_derived_priority", "interactive_bias"])
    (failure "invalid carrier priority mapping policy")
  ensure (p.envelopePaddingPolicy ∈ ["none", "small_bucket", "state_bucket",
    "priority_bucket", "carrier_family_bucket"]) (failure "invalid carrier envelope padding policy")
  ensure (p.timingBucketPolicy ∈ ["none", "flush_bucket", "poll_cycle_bucket",
    "retry_bucket"]) (failure "invalid carrier timing bucket policy")
  ensure (0 < p.maxEnvelopeBytes ∧ p.maxEnvelopeBytes ≤ limits.maxFrameBytes)
    (failure "invalid carrier envelope byte limit")
  ensure (0 < p.maxMessagesPerEnvelope ∧ p.maxMessagesPerEnvelope ≤ 32)
    (failure "invalid carrier max messages per envelope")
  ensure (0 < p.maxCarrierQueueDepth ∧ p.maxCarrierQueueDepth ≤ 256)
    (failure "invalid carrier queue depth")
  ensure (0 ≤ p.maxRetryCount ∧ p.maxRetryCount ≤ 8) (failure "invalid carrier retry count")

/-- The texts `safeWireToken` refuses inside a token. -/
def unsafeWireMarkers : List String :=
  ["raw_payload", "raw_bytes", "encoded_bytes", "decoded_bytes", "ciphertext",
    "plaintext", "pcap", "packet_dump", "capture_bytes", "auth_tag", "nonce_base",
    "secret", "derived_key", "client_write_key", "server_write_key", "proof_material",
    "private_key", "session_secret", "destination_address", "proxy_ip", "server_ip",
    "domain", "sni", "host_header"]

/-- `unicode.ToLower`, as far as the result is ASCII: besides the ASCII letters,
only the Kelvin sign and the dotted capital I have an ASCII lower case. -/
def lowerRune (c : Char) : Char :=
  if c.toNat = 0x212A then 'k' else if c.toNat = 0x130 then 'i' else c.toLower

def isTokenRune (c : Char) : Bool :=
  ('a' ≤ c ∧ c ≤ 'z') ∨ ('0' ≤ c ∧ c ≤ '9') ∨ c = '_' ∨ c = '-'

def safeWireToken (value : String) : Bool :=
  let lower := value.toList.map lowerRune
  value ≠ "" ∧ (lower = "auth_tag_like".toList ∨
    (∀ marker ∈ unsafeWireMarkers, containsText lower marker.toList = false) ∧
      value.toList.all isTokenRune = true)

def validWireSizeBucket (bucket : String) : Bool :=
  bucket ∈ ["size_0", "size_1_3", "size_4_8", "size_9_16", "size_17_32", "size_33_64",
    "size_65_128", "size_129_512", "size_513_1500", "size_1501_4096", "size_4097_plus"]

def wireDirectionPatterns : List String :=
  ["client_first", "server_first", "alternating", "client_burst", "server_burst",
    "bidirectional_interleaved", "unknown"]

/-- Map access: a missing key reads as the empty text. -/
def textAt (entries : List (String × String)) (key : String) : String :=
  (entries.lookup key).getD ""

def validateWireField (plan : WireFieldLayoutPlan) (field : String) : Validation := do
  ensure (field ∈ ["type", "length", "version", "nonce_like", "key_like",
    "certificate_like", "reserved", "padding_length", "padding", "payload",
    "auth_tag_like", "unknown_encrypted"]) (failure "invalid wire-shape field kind")
  ensure (textAt plan.visibilityByField field ∈ ["cleartext", "encrypted", "derived", "absent"])
    (failure "invalid wire-shape field visibility")
  ensure (validWireSizeBucket (textAt plan.sizeBucketByField field))
    (failure "invalid wire-shape field size bucket")

/-- The checks of `validateWireShapePolicy` before the digest. -/
def validateWireShapePlans (p : WireShapePolicy) : Validation := do
  ensure (p.version = "wiregen-policy-v1") (failure "invalid wire-shape policy version")
  ensure (p.corpusVersion = "protocorpus-v1") (failure "invalid wire-shape corpus version")
  ensure (safeWireToken p.policyID ∧ safeWireToken p.selectedFamily ∧
    safeWireToken p.selectedCorpusEntry ∧ p.profileSeed ≠ 0)
    (failure "invalid wire-shape policy identity")
  ensure (p.selectedFamily ∈ ["structured_encrypted", "fully_encrypted",
    "greeting_based", "length_prefixed", "message_oriented", "stream_oriented",
    "control_rich", "minimal_handshake", "multi_round_handshake"])
    (failure "invalid wire-shape selected family")
  ensure (p.phasePlan.phaseSequence ≠ [] ∧ p.phasePlan.handshakeRTTBucket ∈
    ["0rtt", "1rtt", "1_5rtt", "2rtt", "multi_rtt", "unknown"] ∧
    p.phasePlan.directionPattern ∈ wireDirectionPatterns) (failure "invalid wire-shape phase plan")
  ensure (∀ phase ∈ p.phasePlan.phaseSequence,
    phase ∈ ["greeting", "handshake", "control", "data", "close", "reset"])
    (failure "invalid wire-shape phase")
  ensure (safeWireToken p.fieldLayoutPlan.layoutClass ∧ p.fieldLayoutPlan.fieldOrder ≠ [] ∧
    safeWireToken p.fieldLayoutPlan.payloadPosition) (failure "invalid wire-shape field layout")
  ensureAll (validateWireField p.fieldLayoutPlan) p.fieldLayoutPlan.fieldOrder
  ensure (safeWireToken p.firstFlightPlan.packetCountBucket ∧
    p.firstFlightPlan.directionPattern ∈ wireDirectionPatterns ∧
    p.firstFlightPlan.sizeBuckets ≠ []) (failure "invalid wire-shape first-flight plan")
  ensure (∀ bucket ∈ p.firstFlightPlan.sizeBuckets, validWireSizeBucket bucket)
    (failure "invalid wire-shape first-flight bucket")
  ensure (0 < p.firstNPlan.n ∧ p.firstNPlan.n ≤ 16 ∧ safeWireToken p.firstNPlan.shapeClass ∧
    safeWireToken p.firstNPlan.directionClass ∧ safeWireToken p.firstNPlan.sizeClass)
    (failure "invalid wire-shape first-n plan")
  ensure (safeWireToken p.frameSizePlan.strategy ∧
    safeWireToken p.frameSizePlan.paddingBudget ∧
    safeWireToken p.frameSizePlan.payloadSplit ∧ p.frameSizePlan.sizeBuckets ≠ [])
    (failure "invalid wire-shape frame-size plan")
  ensure (∀ bucket ∈ p.frameSizePlan.sizeBuckets, validWireSizeBucket bucket)
    (failure "invalid wire-shape frame-size bucket")
  ensure (safeWireToken p.fragmentRhythmPlan.strategy ∧
    safeWireToken p.fragmentRhythmPlan.reassemblyPattern ∧
    p.fragmentRhythmPlan.fragmentBuckets ≠ []) (failure "invalid wire-shape fragment rhythm")
  ensure (∀ bucket ∈ p.fragmentRhythmPlan.fragmentBuckets, validWireSizeBucket bucket)
    (failure "invalid wire-shape fragment bucket")
  ensure (safeWireToken p.controlPlan.richness ∧ 0 ≤ p.controlPlan.preDataControls ∧
    p.controlPlan.preDataControls ≤ 8 ∧ safeWireToken p.controlPlan.interleaveClass ∧
    safeWireToken p.controlPlan.closeClass ∧ safeWireToken p.controlPlan.resetClass)
    (failure "invalid wire-shape control plan")
  ensure (p.metadataExposurePlan.exposureClass ∈ ["none_visible", "minimal_visible",
    "mixed_visible_encrypted", "cleartext_header_encrypted_payload",
    "encrypted_header_encrypted_payload", "unknown"])
    (failure "invalid wire-shape metadata exposure")
  ensure (safeWireToken p.lengthAlonePlan.triggerClass)
    (failure "invalid wire-shape length-alone plan")

def validateWireShapePolicy (p : WireShapePolicy) :
    Validation := do
  validateWireShapePlans p
  ensure (p.policyHash ≠ "") (failure "wire-shape policy hash is required")
  let expected ← wireShapePolicyHash encoding p
  ensure (expected = p.policyHash) (failure "wire-shape policy hash mismatch")

def validateAdapterPolicy (p : AdapterPolicy) (limits : SafetyLimits) : Validation := do
  ensure (p.flowLifecyclePolicy ∈ ["strict", "half_close_aware", "drain_before_close",
    "reset_terminal"]) (failure "invalid adapter flow lifecycle policy")
  ensure (p.runtimeMappingPolicy ∈ ["one_flow_one_stream", "priority_mapped_stream",
    "metadata_bound_stream", "state_derived_mapping"])
    (failure "invalid adapter runtime mapping policy")
  ensure (p.tracePolicy ∈ ["safe_buckets", "metadata_only", "strict_hygiene"])
    (failure "invalid adapter trace policy")
  ensure (p.errorMappingPolicy ∈ ["flow_error", "flow_reset", "metadata_error",
    "close_with_error"]) (failure "invalid adapter error mapping policy")
  ensure (p.backpressurePolicy ∈ ["adapter_queue", "runtime_stream", "carrier_chain",
    "priority_backpressure"]) (failure "invalid adapter backpressure policy")
  ensure (0 < p.maxFlows ∧ p.maxFlows ≤ 256) (failure "invalid adapter max flows")
  ensure (0 < p.maxFlowBytes ∧ p.maxFlowBytes ≤ limits.maxPayloadBytes)
    (failure "invalid adapter max flow bytes")
  ensure (0 < p.maxBufferedBytes ∧ p.maxBufferedBytes ≤ 16 * 1024 * 1024)
    (failure "invalid adapter max buffered bytes")
  ensure (0 < p.maxEvents ∧ p.maxEvents ≤ 2 ^ 20) (failure "invalid adapter max events")
  ensure (p.requiredCapabilities ≠ []) (failure "adapter required capabilities are missing")
  validateDistinctKnown adapterCapabilities "unknown adapter capability %q"
    "duplicate adapter capability %q" [] p.requiredCapabilities

/-! ## Security, compatibility and padding -/

def validateSecurityPolicy (p : SecurityPolicy) : Validation := do
  ensure (p.securityVersion ≠ "") (failure "security version is required")
  ensure p.transcriptMode.isKnown (failure "invalid transcript mode")
  ensure (p.kdfSuite = .known .hkdfSHA256) (failure "invalid KDF suite")
  ensure (p.aeadSuite = .known .aes256GCM) (failure "invalid AEAD suite")
  ensure (p.macSuite = .known .hmacSHA256) (failure "invalid MAC suite")
  ensure p.nonceMode.isKnown (failure "invalid nonce mode")
  ensure p.replayPolicy.isKnown (failure "invalid replay policy")
  ensure (1 < p.replayWindowSize ∧ p.replayWindowSize ≤ 4096) (failure "invalid replay window size")
  ensure p.downgradePolicy.isKnown (failure "invalid downgrade policy")
  ensure p.capabilityNegotiationPolicy.isKnown (failure "invalid capability negotiation policy")
  ensure p.profileCompatibilityPolicy.isKnown (failure "invalid profile compatibility policy")
  ensure p.keyRotationPolicy.isKnown (failure "invalid key rotation policy")
  ensure p.configValidationPolicy.isKnown (failure "invalid config validation policy")
  ensure p.secureEnvelopeMode.isKnown (failure "invalid secure envelope mode")
  ensure (0 < p.maxSessionMessages ∧ p.maxSessionMessages ≤ 2 ^ 24)
    (failure "invalid max session messages")
  ensure (0 < p.maxKeyLifetimeMessages ∧ p.maxKeyLifetimeMessages ≤ p.maxSessionMessages)
    (failure "invalid max key lifetime messages")

def validateCompatibility (c : CompatibilityMetadata) (sec : SecurityPolicy)
    (stream : StreamPolicy) (carrier : CarrierPolicy) (limits : SafetyLimits) :
    Validation := do
  ensure (c.schemaVersion = supportedVersion)
    (failure "invalid compatibility schema version")
  ensure (c.compilerSecurityVersion ≠ "" ∧ c.minimumRuntimeVersion ≠ "")
    (failure "compatibility versions are required")
  ensure (securitySuiteString ∈ c.supportedSecuritySuites)
    (failure "required security suite is not supported")
  ensure (c.requiredCapabilities ≠ []) (failure "required capabilities are missing")
  validateDistinctKnown securityCapabilities "unknown required capability %q"
    "duplicate required capability %q" [] c.requiredCapabilities
  ensure (carrier.carrierFamily ∈ c.supportedCarrierFamilies)
    (failure "profile carrier family missing from compatibility metadata")
  ensureAll (fun family =>
    ensure (family ∈ carrierFamilies)
      (quoted "unknown compatibility carrier family %q" family)) c.supportedCarrierFamilies
  ensure (0 < c.maxEnvelopeBytes ∧ c.maxEnvelopeBytes ≤ limits.maxFrameBytes)
    (failure "invalid compatibility envelope limit")
  ensure (0 < c.maxStreamCount ∧ stream.maxConcurrentStreams ≤ c.maxStreamCount ∧
    c.maxStreamCount ≤ 16) (failure "invalid compatibility stream count")
  ensure (1 < c.maxReplayWindow ∧ sec.replayWindowSize ≤ c.maxReplayWindow ∧
    c.maxReplayWindow ≤ 4096) (failure "invalid compatibility replay window")

/-- Unlike a live program, a profile may carry any upper padding bound and any
probability which is neither below zero nor above one, NaN included. -/
def validatePadding (p : PaddingPolicy) : Validation := do
  ensure p.mode.isKnown (failure "invalid padding mode")
  ensure (0 ≤ p.minPaddingBytes ∧ p.minPaddingBytes ≤ p.maxPaddingBytes)
    (failure "invalid padding bounds")
  ensure (p.mode = .known .none → p.minPaddingBytes = 0 ∧ p.maxPaddingBytes = 0 ∧
    p.probability.eq (.finite 0))
    (failure "no-padding policy must have zero bounds and probability")
  ensure (¬ p.probability.lt (.finite 0) ∧ ¬ Float64.lt (.finite 1) p.probability)
    (failure "invalid padding probability")

def validateInvalidInput (p : InvalidInputPolicy) : Validation := do
  ensure (p.unknownFirstMessage ∈ ["silent_close", "delayed_close",
    "generated_decoy_response", "ordinary_error_shaped_response"])
    (failure "invalid unknown-first-message behavior")
  ensure (p.malformedFrame ∈ ["close", "ignore", "delayed_close",
    "generated_malformed_response"]) (failure "invalid malformed-frame behavior")
  ensure (p.failedAuth ∈ ["close", "delayed_close", "decoy_path",
    "fixed_local_only_rejection"]) (failure "invalid failed-auth behavior")
  ensure (p.replay ∈ ["close", "delayed_close", "reject_nonce",
    "ordinary_error_shaped_response"]) (failure "invalid replay behavior")
  ensure (0 ≤ p.delayMsMin ∧ p.delayMsMin ≤ p.delayMsMax)
    (failure "invalid invalid-input delay bounds")

def validateGenerationHash (p : Profile) : Validation :=
  if p.generationHash = "" then .ok ()
  else do
    let got ← canonicalHash encoding p
    ensure (got = p.generationHash) (failure "generation hash mismatch")

def validateAuth (p : AuthSpec) : Validation := do
  ensure (p.mode = "hmac-sha256-transcript-test-only") (quoted "unsupported auth mode %q" p.mode)
  ensure (p.testKeyHex ≠ "" ∧ 8 ≤ p.nonceBytes ∧ p.proofMessage ≠ "")
    (failure "auth key, nonce size, and proof message are required")

/-- `ir.Validate` on a profile which is present. -/
def validate (p : Profile) : Validation := do
  ensure (p.version ≠ "") (failure "version is required")
  ensure (p.version = supportedVersion) (quoted "unsupported version %q" p.version)
  validateSupportedVersionTupleV1 p
  ensure (p.id ≠ []) (failure "profile id is required")
  ensure (p.carrierType = "lab_tcp") (failure "carrier must be lab_tcp")
  validateGenerationHash encoding p
  validateLimits p
  validateStates p
  validateMessages p
  validateFrameGrammar p
  validateScheduler p.scheduler
  validateStreamPolicy p.stream p.limits
  validateProxySemanticsPolicy p.proxySemantics p.limits p.messages
  validateCarrierPolicy p.carrierPolicy p.limits
  validateWireShapePolicy encoding p.wireShape
  validateAdapterPolicy p.adapterPolicy p.limits
  validateSecurityPolicy p.security
  validateCompatibility p.compatibility p.security p.stream p.carrierPolicy p.limits
  validatePadding p.padding
  validateInvalidInput p.invalidInput
  validateAuth p.auth

/-! ## A validated profile -/

/-- A JSON text none of whose characters needs an escape. -/
def jsonText (text : String) : List UInt8 :=
  asciiBytes "\"" ++ asciiBytes text ++ asciiBytes "\""

def jsonTexts (items : List String) : List UInt8 :=
  asciiBytes "[" ++ (asciiBytes ",").intercalate (items.map jsonText) ++ asciiBytes "]"

def jsonObject (fields : List (String × List UInt8)) : List UInt8 :=
  asciiBytes "\x7b" ++
    (asciiBytes ",").intercalate
      (fields.map fun field => jsonText field.1 ++ asciiBytes ":" ++ field.2) ++
    asciiBytes "\x7d"

def jsonTextMap (entries : List (String × String)) : List UInt8 :=
  jsonObject (entries.map fun entry => (entry.1, jsonText entry.2))

def jsonBool (value : Bool) : List UInt8 :=
  asciiBytes (if value then "true" else "false")

/-- A number which is not negative. -/
def jsonNumber (value : Int) : List UInt8 :=
  (Nat.toDigits 10 value.toNat).map fun c => UInt8.ofNat c.toNat

/-- `json.Marshal` on a wire shape without texts to escape and with sorted maps. -/
def plainWireShape (p : WireShapePolicy) : List UInt8 :=
  jsonObject
    [("version", jsonText p.version), ("corpus_version", jsonText p.corpusVersion),
      ("policy_id", jsonText p.policyID), ("profile_seed", jsonNumber p.profileSeed),
      ("selected_family", jsonText p.selectedFamily),
      ("selected_corpus_entry", jsonText p.selectedCorpusEntry),
      ("phase_plan", jsonObject
        [("phase_sequence", jsonTexts p.phasePlan.phaseSequence),
          ("handshake_rtt_bucket", jsonText p.phasePlan.handshakeRTTBucket),
          ("direction_pattern", jsonText p.phasePlan.directionPattern),
          ("control_phase_enabled", jsonBool p.phasePlan.controlPhaseEnabled)]),
      ("field_layout_plan", jsonObject
        [("layout_class", jsonText p.fieldLayoutPlan.layoutClass),
          ("field_order", jsonTexts p.fieldLayoutPlan.fieldOrder),
          ("visibility_by_field", jsonTextMap p.fieldLayoutPlan.visibilityByField),
          ("size_bucket_by_field", jsonTextMap p.fieldLayoutPlan.sizeBucketByField),
          ("payload_position", jsonText p.fieldLayoutPlan.payloadPosition)]),
      ("first_flight_plan", jsonObject
        [("packet_count_bucket", jsonText p.firstFlightPlan.packetCountBucket),
          ("direction_pattern", jsonText p.firstFlightPlan.directionPattern),
          ("size_buckets", jsonTexts p.firstFlightPlan.sizeBuckets),
          ("control_included", jsonBool p.firstFlightPlan.controlIncluded)]),
      ("first_n_plan", jsonObject
        [("n", jsonNumber p.firstNPlan.n), ("shape_class", jsonText p.firstNPlan.shapeClass),
          ("direction_class", jsonText p.firstNPlan.directionClass),
          ("size_class", jsonText p.firstNPlan.sizeClass)]),
      ("frame_size_plan", jsonObject
        [("strategy", jsonText p.frameSizePlan.strategy),
          ("size_buckets", jsonTexts p.frameSizePlan.sizeBuckets),
          ("padding_budget", jsonText p.frameSizePlan.paddingBudget),
          ("payload_split", jsonText p.frameSizePlan.payloadSplit)]),
      ("fragment_rhythm_plan", jsonObject
        [("strategy", jsonText p.fragmentRhythmPlan.strategy),
          ("fragment_buckets", jsonTexts p.fragmentRhythmPlan.fragmentBuckets),
          ("reorder_permitted", jsonBool p.fragmentRhythmPlan.reorderPermitted),
          ("reassembly_pattern", jsonText p.fragmentRhythmPlan.reassemblyPattern)]),
      ("control_plan", jsonObject
        [("richness", jsonText p.controlPlan.richness),
          ("pre_data_controls", jsonNumber p.controlPlan.preDataControls),
          ("interleave_class", jsonText p.controlPlan.interleaveClass),
          ("close_class", jsonText p.controlPlan.closeClass),
          ("reset_class", jsonText p.controlPlan.resetClass)]),
      ("metadata_exposure_plan", jsonObject
        [("exposure_class", jsonText p.metadataExposurePlan.exposureClass),
          ("cleartext_fields", jsonTexts p.metadataExposurePlan.cleartextFields),
          ("encrypted_fields", jsonTexts p.metadataExposurePlan.encryptedFields),
          ("derived_only_fields", jsonTexts p.metadataExposurePlan.derivedOnlyFields)]),
      ("length_alone_plan", jsonObject
        [("enabled", jsonBool p.lengthAlonePlan.enabled),
          ("trigger_class", jsonText p.lengthAlonePlan.triggerClass)]),
      ("policy_hash", jsonText p.policyHash)]

/-- An encoding which agrees with `json.Marshal` on the sample below; a profile
without a generation hash is not marshalled. -/
def plainEncoding : ProfileEncoding where
  marshalProfile _ := .error "unsupported"
  marshalWireShape p := .ok (plainWireShape p)

def unhashedWireShape : WireShapePolicy where
  version := "wiregen-policy-v1"
  corpusVersion := "protocorpus-v1"
  policyID := "p"
  profileSeed := 1
  selectedFamily := "length_prefixed"
  selectedCorpusEntry := "e"
  phasePlan := ⟨["data"], "0rtt", "client_first", false⟩
  fieldLayoutPlan :=
    ⟨"c", ["payload"], [("payload", "encrypted")], [("payload", "size_0")], "last"⟩
  firstFlightPlan := ⟨"one", "client_first", ["size_0"], false⟩
  firstNPlan := ⟨1, "s", "d", "z"⟩
  frameSizePlan := ⟨"s", ["size_0"], "b", "p"⟩
  fragmentRhythmPlan := ⟨"s", ["size_0"], false, "r"⟩
  controlPlan := ⟨"r", 0, "i", "c", "r"⟩
  metadataExposurePlan := ⟨"none_visible", [], [], []⟩
  lengthAlonePlan := ⟨false, "t"⟩
  policyHash := ""

def sampleWireShape : WireShapePolicy :=
  { unhashedWireShape with
    policyHash := hexEncode (sha256 (plainWireShape unhashedWireShape)).toList }

/-- A small profile; every semantic has a wire symbol of one letter. -/
def sampleProfile : Profile where
  version := supportedVersion
  id := asciiBytes "p"
  seed := 1
  generationHash := ""
  rolePolicy := ⟨roleClient, roleServer⟩
  carrierType := "lab_tcp"
  states := [⟨"start", roleClient, false⟩, ⟨"ready", roleShared, true⟩]
  transitions := [⟨"start", "ready", roleClient, "m", "", false, ""⟩,
    ⟨"start", "ready", roleServer, "m", "", false, ""⟩]
  firstContact := ⟨"p", "start", "ready",
    [⟨roleClient, "", "m", asciiBytes "first", "start", "ready", 8, false, false⟩]⟩
  messages := relaySemantics.zipIdx.map fun entry =>
    ⟨.known entry.1, [UInt8.ofNat (97 + entry.2)], "bidirectional", 0, 4096⟩
  frameGrammar := {
    lengthMode := .known .varintPrefix
    typeMode := .known .explicitGeneratedTag
    headerOrder := [.known .type, .known .flags, .known .stream, .known .length]
    fragmentationMode := .known .fixedSizeChunks
    checksumMode := .known .none
    paddingPlacement := .known .after }
  auth := ⟨"hmac-sha256-transcript-test-only", "", "00", 8, "m"⟩
  scheduler := ⟨.known .balanced, 1024, 10, 8, "fifo"⟩
  stream := ⟨"varint_ids", .known .varint, 4, 16 * 1024, 64 * 1024, "threshold_update", "fifo",
    "explicit_close", "immediate_reset", 1024⟩
  proxySemantics := ⟨"descriptor_before_open", "compact_enum", "interactive", "immediate",
    "explicit_target_error", "explicit_close", "immediate_reset", "none", "intent_before_stream",
    "none", "direct_generated", ["echo"], 4096, 4096⟩
  carrierPolicy := ⟨"stream_carrier", "single_semantic", "flush_each", "no_batch", "no_chunk",
    "ordered_only", "none", "carrier_queue_backpressure", "direct_priority", "none", "none", 4096,
    1, 1, 0⟩
  wireShape := sampleWireShape
  adapterPolicy := ⟨["adapter_ingress"], "strict", "one_flow_one_stream", "safe_buckets",
    "flow_error", "adapter_queue", 1, 4096, 4096, 1⟩
  security := ⟨supportedSecurityVersion, .known .fullBindingV1, .known .hkdfSHA256,
    .known .aes256GCM, .known .hmacSHA256, .known .streamPartitionedCounter, .known .boundedReorder,
    64, .known .strictCapabilities, .known .strictRequired, .known .strictSchema,
    .known .sessionOnly, .known .strictRequired, .known .fullContextBoundEnvelope, 1000, 1000⟩
  compatibility := ⟨supportedVersion, supportedSecurityVersion, supportedSecurityVersion,
    [securitySuiteString], ["multi_stream"], ["stream_carrier"], [], [], 4096, 4, 64⟩
  padding := ⟨.known .none, 0, 0, .finite 0⟩
  invalidInput := ⟨"silent_close", "close", "close", "close", 0, 0⟩
  limits := ⟨4096, 65536, 2, 2, 1000⟩

theorem hexEncode_ne_empty {bytes : List UInt8} (h : bytes ≠ []) : hexEncode bytes ≠ "" := by
  obtain ⟨byte, bytes, rfl⟩ := List.exists_cons_of_ne_nil h
  intro hempty
  have hchars := congrArg String.toList hempty
  simp [hexEncode] at hchars

theorem validateWireShapePlans_unhashed : validateWireShapePlans unhashedWireShape = .ok () := by
  decide +kernel

/-- The sample shape passes with its digest, which need not be evaluated for that. -/
theorem validateWireShapePolicy_hashed {digest : String} (hdigest : digest ≠ "")
    (h : wireShapePolicyHash plainEncoding unhashedWireShape = .ok digest) :
    validateWireShapePolicy plainEncoding { unhashedWireShape with policyHash := digest } =
      .ok () := by
  refine check_ok_iff.mpr ⟨validateWireShapePlans_unhashed, ?_⟩
  refine check_ok_iff.mpr ⟨ensure_of_pos hdigest, ?_⟩
  exact bind_ok_iff.mpr ⟨digest, h, ensure_of_pos rfl⟩

theorem validateWireShapePolicy_sample :
    validateWireShapePolicy plainEncoding sampleWireShape = .ok () := by
  have hdigest : (sha256 (plainWireShape unhashedWireShape)).toList ≠ [] :=
    List.ne_nil_of_length_pos (by rw [List.Vector.toList_length]; omega)
  exact validateWireShapePolicy_hashed (hexEncode_ne_empty hdigest) rfl

theorem validate_sampleProfile : validate plainEncoding sampleProfile = .ok () := by
  simp only [validate, check_ok_iff]
  refine ⟨?_, ?_, ?_, ?_, ?_, rfl, ?_, ?_, ?_, ?_, ?_, ?_, ?_, ?_, validateWireShapePolicy_sample,
    ?_, ?_, ?_, ?_, ?_, ?_⟩
  all_goals decide +kernel

end Kurdistan.Protocol
