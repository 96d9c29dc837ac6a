import Kurdistan.Support.Choice
import Kurdistan.Support.Float

/-!
# Vocabulary of generated protocols

The closed vocabularies shared by protocol profiles and live programs, the
padding policy, and the text predicates their validators use.

Texts which reach the wire or a checksum (wire symbols, profile identifiers)
are byte strings, as Go strings are. Texts which are only compared are `Choice`
fields or `String`s.
-/

namespace Kurdistan.Protocol

open Support

/-! ## Message semantics -/

inductive Semantic where
  | openStream
  | data
  | close
  | resetStream
  | windowUpdate
  | sessionClose
  | ack
  | padding
  | error
  | openRelay
  | targetDescriptor
  | targetData
  | targetResponse
  | targetError
  | targetClose
  | targetReset
  | targetMetadata
  deriving DecidableEq

def Semantic.word : Semantic → String
  | .openStream => "open_stream"
  | .data => "data"
  | .close => "close_stream"
  | .resetStream => "reset_stream"
  | .windowUpdate => "window_update"
  | .sessionClose => "session_close"
  | .ack => "ack"
  | .padding => "padding"
  | .error => "error"
  | .openRelay => "open_relay"
  | .targetDescriptor => "target_descriptor"
  | .targetData => "target_data"
  | .targetResponse => "target_response"
  | .targetError => "target_error"
  | .targetClose => "target_close"
  | .targetReset => "target_reset"
  | .targetMetadata => "target_metadata"

/-- The semantics every profile has to map. -/
def relaySemantics : List Semantic :=
  [.openStream, .data, .close, .resetStream, .windowUpdate, .sessionClose, .ack,
    .padding, .error, .openRelay, .targetDescriptor, .targetData, .targetResponse,
    .targetError, .targetClose, .targetReset, .targetMetadata]

/-- The proxy semantics, each of which a profile has to map exactly once. -/
def proxySemantics : List Semantic :=
  [.openRelay, .targetDescriptor, .targetData, .targetResponse, .targetError,
    .targetClose, .targetReset, .targetMetadata]

/-! ## Frame grammar -/

inductive LengthMode where
  | varintPrefix
  | fixed2Prefix
  | fixed4Prefix
  | lengthSuffixLab
  deriving DecidableEq

def LengthMode.word : LengthMode → String
  | .varintPrefix => "varint_prefix"
  | .fixed2Prefix => "fixed_2_prefix"
  | .fixed4Prefix => "fixed_4_prefix"
  | .lengthSuffixLab => "length_suffix_lab"

inductive TypeMode where
  | explicitGeneratedTag
  | derivedFromState
  | derivedFromHeaderOrder
  | tableIndexedSymbol
  deriving DecidableEq

def TypeMode.word : TypeMode → String
  | .explicitGeneratedTag => "explicit_generated_tag"
  | .derivedFromState => "derived_from_state"
  | .derivedFromHeaderOrder => "derived_from_header_order"
  | .tableIndexedSymbol => "table_indexed_symbol"

inductive HeaderField where
  | length
  | type
  | stream
  | flags
  deriving DecidableEq

def HeaderField.word : HeaderField → String
  | .length => "length"
  | .type => "type"
  | .stream => "stream"
  | .flags => "flags"

/-- The fields a header has to name, in the order the validators list them. -/
def headerFields : List HeaderField := [.length, .type, .stream, .flags]

inductive FragmentationMode where
  | noFragmentationForSmallPayloads
  | fixedSizeChunks
  | boundedVariableChunks
  | schedulerControlledChunks
  deriving DecidableEq

def FragmentationMode.word : FragmentationMode → String
  | .noFragmentationForSmallPayloads => "no_fragmentation_for_small_payloads"
  | .fixedSizeChunks => "fixed_size_chunks"
  | .boundedVariableChunks => "bounded_variable_chunks"
  | .schedulerControlledChunks => "scheduler_controlled_chunks"

inductive ChecksumMode where
  | none
  | crc32
  deriving DecidableEq

def ChecksumMode.word : ChecksumMode → String
  | .none => "none"
  | .crc32 => "crc32"

inductive PaddingPlacement where
  | none
  | before
  | after
  | interFrame
  | probabilistic
  deriving DecidableEq

def PaddingPlacement.word : PaddingPlacement → String
  | .none => "none"
  | .before => "prefix"
  | .after => "suffix"
  | .interFrame => "inter_frame"
  | .probabilistic => "probabilistic"

inductive StreamEncodingMode where
  | fixed32BE
  | profileXOR32
  | tableMapped32LE
  | varint
  deriving DecidableEq

def StreamEncodingMode.word : StreamEncodingMode → String
  | .fixed32BE => "fixed32_be"
  | .profileXOR32 => "profile_xor32"
  | .tableMapped32LE => "table_mapped32_le"
  | .varint => "varint"

inductive SchedulerMode where
  | maxSpeed
  | balanced
  | interactiveFirst
  | bulkFirst
  deriving DecidableEq

def SchedulerMode.word : SchedulerMode → String
  | .maxSpeed => "max_speed"
  | .balanced => "balanced"
  | .interactiveFirst => "interactive_first"
  | .bulkFirst => "bulk_first"

/-! ## Padding policy -/

inductive PaddingMode where
  | none
  | bounded
  | probabilistic
  | fixed
  | interFrame
  deriving DecidableEq

def PaddingMode.word : PaddingMode → String
  | .none => "none"
  | .bounded => "bounded"
  | .probabilistic => "probabilistic"
  | .fixed => "fixed"
  | .interFrame => "inter_frame"

structure PaddingPolicy where
  mode : Choice PaddingMode
  minPaddingBytes : Int
  maxPaddingBytes : Int
  probability : Float64
  deriving DecidableEq

/-! ## Text predicates -/

/-- `strings.Contains`, on bytes or on characters. -/
def containsText {α : Type} [BEq α] (text word : List α) : Bool :=
  text.tails.any fun tail => word.isPrefixOf tail

/-- `strings.ToLower` on the ASCII letters. -/
def toLower (text : List UInt8) : List UInt8 :=
  text.map fun byte => if 65 ≤ byte ∧ byte ≤ 90 then byte + 32 else byte

/-- `strings.ToUpper` on the ASCII letters. -/
def toUpper (text : List UInt8) : List UInt8 :=
  text.map fun byte => if 97 ≤ byte ∧ byte ≤ 122 then byte - 32 else byte

/-- A lower-case letter, a digit, a hyphen or an underscore. -/
def isTokenByte (byte : UInt8) : Bool :=
  byte = 45 ∨ byte = 95 ∨ (97 ≤ byte ∧ byte ≤ 122) ∨ (48 ≤ byte ∧ byte ≤ 57)

/-- The texts `safeToken` refuses inside a wire symbol. -/
def unsafeTokenTexts : List String :=
  ["test", "lab", "key", "seed", "path", "endpoint", "secret", "auth"]

/-- `safeToken`. A byte outside ASCII fails the last check, so case mapping
beyond ASCII cannot change the result. -/
def safeToken (value : List UInt8) : Bool :=
  value ≠ [] ∧ value.length ≤ 96 ∧
    (∀ word ∈ unsafeTokenTexts, containsText (toLower value) (asciiBytes word) = false) ∧
    ∀ byte ∈ value, isTokenByte byte = true

end Kurdistan.Protocol
