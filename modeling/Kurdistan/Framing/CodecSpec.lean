import Kurdistan.Protocol.LiveProgram
import Kurdistan.Protocol.Validate

/-!
# Codec specifications

`CodecSpec` is the immutable protocol-shaping state of the frame codecs. Legacy
profiles and live programs both project into it. For a profile the type tags,
stream masks and checksum state are derived from the profile identifier; a live
program carries them precomputed.
-/

namespace Kurdistan.Framing

open Support Protocol

inductive FragmentErrorKind where
  | empty
  | missing
  | conflictingCount
  | semantic
  | stream
  | message
  | operation
  | outOfRange
  | duplicate
  | reordered
  deriving DecidableEq

/-- The errors of the framing package. `panic` stands for a run-time panic, of a
slice bound or of an argument of the random source. -/
inductive FramingError where
  | text (message : String)
  | validation (err : ValidationError)
  | unexpectedEOF
  | fragment (kind : FragmentErrorKind)
  | liveDataBufferV3
  | panic
  deriving DecidableEq

structure CodecMessage where
  semantic : Choice Semantic
  wireSymbol : List UInt8
  typeTag : List UInt8
  deriving DecidableEq

structure CodecSpec where
  messages : List CodecMessage
  lengthMode : Choice LengthMode
  checksumMode : Choice ChecksumMode
  headerOrder : List (Choice HeaderField)
  fragmentationMode : Choice FragmentationMode
  paddingPlacement : Choice PaddingPlacement
  padding : PaddingPolicy
  maxFrameBytes : Int
  maxPayloadBytes : Int
  maxBatchBytes : Int
  streamEncodingMode : Choice StreamEncodingMode
  profileXORStreamMask : UInt32
  tableStreamMask : UInt32
  crc32PrefixState : UInt32

def CodecSpec.messageBySemantic (spec : CodecSpec) (semantic : Choice Semantic) :
    Option CodecMessage :=
  spec.messages.find? fun message => message.semantic = semantic

def CodecSpec.messageByTag (spec : CodecSpec) (tag : List UInt8) : Option CodecMessage :=
  spec.messages.find? fun message => message.typeTag = tag

/-! ## Projection of a profile -/

/-- `fmt.Sprint` of a list of texts: separated by spaces, in brackets. -/
def sprintHeaderOrder (order : List (Choice HeaderField)) : List UInt8 :=
  asciiBytes "[" ++
    List.intercalate (asciiBytes " ")
      (order.map fun field => asciiBytes (field.text HeaderField.word)) ++
    asciiBytes "]"

variable (profile : Profile)

def legacyTypeTagFromProfile (message : MessageSymbol) : List UInt8 :=
  match profile.frameGrammar.typeMode with
  | .known .tableIndexedSymbol =>
    match profile.messages.findIdx? fun candidate =>
        candidate.wireSymbol = message.wireSymbol with
    | some index =>
      [UInt8.ofNat index,
        (crc32ChecksumIEEE (profile.id ++ asciiBytes ":" ++ message.wireSymbol)).toUInt8]
    | none => []
  | .known .derivedFromState =>
    putUint32
      (crc32ChecksumIEEE (profile.id ++ asciiBytes ":state:" ++ message.wireSymbol))
  | .known .derivedFromHeaderOrder =>
    putUint32 (crc32ChecksumIEEE
      (sprintHeaderOrder profile.frameGrammar.headerOrder ++ asciiBytes ":" ++
        message.wireSymbol))
  | _ => message.wireSymbol

def legacyStreamMaskFromProfile (salt : String) : UInt32 :=
  crc32ChecksumIEEE (profile.id ++ asciiBytes ":" ++ asciiBytes salt ++ asciiBytes ":" ++
    sprintHeaderOrder profile.frameGrammar.headerOrder)

/-- The projection of a profile, before its validation is asked. -/
def profileSpec : CodecSpec where
  messages := profile.messages.map fun message =>
    ⟨message.semantic, message.wireSymbol, legacyTypeTagFromProfile profile message⟩
  lengthMode := profile.frameGrammar.lengthMode
  checksumMode := profile.frameGrammar.checksumMode
  headerOrder := profile.frameGrammar.headerOrder
  fragmentationMode := profile.frameGrammar.fragmentationMode
  paddingPlacement := profile.frameGrammar.paddingPlacement
  padding := profile.padding
  maxFrameBytes := profile.limits.maxFrameBytes
  maxPayloadBytes := profile.limits.maxPayloadBytes
  maxBatchBytes := profile.scheduler.maxBatchBytes
  streamEncodingMode := profile.stream.idEncodingMode
  profileXORStreamMask := legacyStreamMaskFromProfile profile "profile"
  tableStreamMask := legacyStreamMaskFromProfile profile "table"
  crc32PrefixState := crc32Update 0 profile.id

def codecSpecFromProfile (encoding : ProfileEncoding) (profile : Profile) :
    Except FramingError CodecSpec :=
  match validate encoding profile with
  | .ok () => .ok (profileSpec profile)
  | .error err => .error (.validation err)

/-! ## Projection of a live program -/

/-- The projection of a program whose two messages are given. -/
def programSpec (program : ProgramV1) (data padding : MessageV1) : CodecSpec where
  messages :=
    [⟨data.semantic, data.wireSymbol, program.frame.compiled.dataTypeTag⟩,
      ⟨padding.semantic, padding.wireSymbol, program.frame.compiled.paddingTypeTag⟩]
  lengthMode := program.frame.lengthMode
  checksumMode := program.frame.checksumMode
  headerOrder := program.frame.headerOrder
  fragmentationMode := program.frame.fragmentationMode
  paddingPlacement := program.frame.paddingPlacement
  padding := program.padding
  maxFrameBytes := program.limits.maxFrameBytes
  maxPayloadBytes := program.limits.maxPayloadBytes
  maxBatchBytes := program.scheduler.maxBatchBytes
  streamEncodingMode := program.stream.idEncodingMode
  profileXORStreamMask := program.frame.compiled.profileXORStreamMask
  tableStreamMask := program.frame.compiled.tableStreamMask
  crc32PrefixState := program.frame.compiled.crc32PrefixState

/-- Validation leaves exactly two messages; with fewer, the source would panic on
`program.Messages[1]`. -/
def codecSpecFromLiveProgram (program : ProgramV1) : Except FramingError CodecSpec :=
  match validateV1 program with
  | .error _ => .error (.text "live program framing rejected")
  | .ok () =>
    match program.messages with
    | data :: padding :: _ => .ok (programSpec program data padding)
    | _ => .error .panic

end Kurdistan.Framing
