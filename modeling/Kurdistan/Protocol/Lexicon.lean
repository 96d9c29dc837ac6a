import Kurdistan.Security.Policy
import Kurdistan.Protocol.Vocabulary

/-!
# Words of the vocabularies

The texts under which the values of every vocabulary of a live program are written.
-/

namespace Kurdistan.Protocol

open Support

/-! ## Messages and frames -/

def Semantic.lexicon : Lexicon Semantic where
  word := word
  values := relaySemantics

def LengthMode.lexicon : Lexicon LengthMode where
  word := word
  values := [.varintPrefix, .fixed2Prefix, .fixed4Prefix, .lengthSuffixLab]

def TypeMode.lexicon : Lexicon TypeMode where
  word := word
  values := [.explicitGeneratedTag, .derivedFromState, .derivedFromHeaderOrder, .tableIndexedSymbol]

def HeaderField.lexicon : Lexicon HeaderField where
  word := word
  values := headerFields

def FragmentationMode.lexicon : Lexicon FragmentationMode where
  word := word
  values := [.noFragmentationForSmallPayloads, .fixedSizeChunks, .boundedVariableChunks,
    .schedulerControlledChunks]

def ChecksumMode.lexicon : Lexicon ChecksumMode where
  word := word
  values := [.none, .crc32]

def PaddingPlacement.lexicon : Lexicon PaddingPlacement where
  word := word
  values := [.none, .before, .after, .interFrame, .probabilistic]

def StreamEncodingMode.lexicon : Lexicon StreamEncodingMode where
  word := word
  values := [.fixed32BE, .profileXOR32, .tableMapped32LE, .varint]

def SchedulerMode.lexicon : Lexicon SchedulerMode where
  word := word
  values := [.maxSpeed, .balanced, .interactiveFirst, .bulkFirst]

def PaddingMode.lexicon : Lexicon PaddingMode where
  word := word
  values := [.none, .bounded, .probabilistic, .fixed, .interFrame]

end Kurdistan.Protocol

namespace Kurdistan.Security

open Support

/-! ## Security policies -/

def TranscriptMode.lexicon : Lexicon TranscriptMode where
  word := word
  values := [.canonicalV1, .capabilitiesV1, .carrierBindingV1, .fullBindingV1]

def KDFSuite.lexicon : Lexicon KDFSuite where
  word := word
  values := [.hkdfSHA256]

def AEADSuite.lexicon : Lexicon AEADSuite where
  word := word
  values := [.aes256GCM]

def MACSuite.lexicon : Lexicon MACSuite where
  word := word
  values := [.hmacSHA256]

def NonceMode.lexicon : Lexicon NonceMode where
  word := word
  values := [.counterXORBase, .counterAppendBase, .directionalCounter, .streamPartitionedCounter]

def ReplayPolicy.lexicon : Lexicon ReplayPolicy where
  word := word
  values := [.orderedOnly, .boundedReorder, .windowedReplay]

def DowngradePolicy.lexicon : Lexicon DowngradePolicy where
  word := word
  values := [.strictSuiteAndCapabilities, .strictCapabilities, .suiteBoundTranscript]

def CapabilityNegotiationPolicy.lexicon : Lexicon CapabilityNegotiationPolicy where
  word := word
  values := [.strictRequired, .intersectionWithRequired, .profileDeclaredRequired]

def ProfileCompatibilityPolicy.lexicon : Lexicon ProfileCompatibilityPolicy where
  word := word
  values := [.strictSchema, .schemaAndFeature, .fullPolicyBinding]

def KeyRotationPolicy.lexicon : Lexicon KeyRotationPolicy where
  word := word
  values := [.sessionOnly, .messageLifetimeBound, .profileLifetimeBound]

def ConfigValidationPolicy.lexicon : Lexicon ConfigValidationPolicy where
  word := word
  values := [.strictRequired, .strictWithRedaction, .strictProfileBound]

def SecureEnvelopeMode.lexicon : Lexicon SecureEnvelopeMode where
  word := word
  values := [.metadataAuthenticated, .syntheticAEADTest, .fullContextBoundEnvelope]

end Kurdistan.Security
