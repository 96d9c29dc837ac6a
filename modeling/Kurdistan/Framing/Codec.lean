import Kurdistan.Framing.Padding
import Kurdistan.Framing.FrameCodec

/-!
# The allocating codec

Encoding an operation into a list of frames and decoding a list of frames into an
operation, for profiles and for live programs. The decoder returns the frames it
decoded next to some errors; callers ignore them, and so does the model.
-/

namespace Kurdistan.Framing

open Support Protocol

variable {source : RandSource}

/-! ## Encoding -/

/-- The loop over the fragment sizes, from fragment `idx` at `offset` on. -/
def encodeFragments (spec : CodecSpec) (op : Operation) (count : ℕ) :
    ℕ → ℕ → List ℕ → Engine source → Except FramingError (List (List UInt8))
  | _, _, [], _ => .ok []
  | idx, offset, size :: sizes, engine => do
    let drawn ← engine.generate
    let frame ← encodeFrameWithSpec spec
      { op with payload := (op.payload.drop offset).take size } drawn.1 idx count
    let frames ← encodeFragments spec op count (idx + 1) (offset + size) sizes drawn.2
    .ok (frame :: frames)

/-- The fragment sizes of a payload. -/
def CodecSpec.fragmentSizes (spec : CodecSpec) (payloadLen : ℕ) : List ℕ :=
  fragmentSizesFor spec.fragmentationMode spec.maxBatchBytes spec.maxFrameBytes payloadLen

def encodeOperationWithSpec (source : RandSource) (spec : CodecSpec) (op : Operation)
    (seed : Int64) : Except FramingError (List (List UInt8)) := do
  ensure ((op.payload.length : Int) ≤ spec.maxPayloadBytes) (.text "payload exceeds program limit")
  ensure (spec.messageBySemantic op.semantic ≠ none) (.text "unknown semantic")
  let sizes := spec.fragmentSizes op.payload.length
  encodeFragments spec op sizes.length 0 0 sizes (newEngine source spec.padding seed)

/-- The checks on proxy operations. The default registry is asked with no target
parameters, so only the target class is looked up; it handles the synthetic
target classes. -/
def validateProxyOperation (p : Profile) (op : Operation) : Except FramingError Unit :=
  match op.semantic with
  | .known .openRelay | .known .targetDescriptor => do
    ensure (op.targetClass ≠ [])
      (.validation (quoted "target class is required for %s" (semanticText op.semantic)))
    ensure (op.targetClass ∈ syntheticTargetClasses.map asciiBytes)
      (.validation ⟨"unknown synthetic target: %s", [.bytes op.targetClass]⟩)
  | .known .targetData =>
    ensure (op.payloadByteCount ≤ p.proxySemantics.maxRequestBytes ∧
      (op.payload.length : Int) ≤ p.proxySemantics.maxRequestBytes)
      (.text "proxy request exceeds profile limit")
  | .known .targetResponse =>
    ensure (op.responseByteCount ≤ p.proxySemantics.maxResponseBytes ∧
      (op.payload.length : Int) ≤ p.proxySemantics.maxResponseBytes)
      (.text "proxy response exceeds profile limit")
  | .known .targetError =>
    ensure (op.targetErrorCode ≠ []) (.text "target error code is required")
  | .known .targetClose =>
    ensure (op.targetCloseReason ≠ [] ∨ op.reason ≠ [])
      (.text "target close reason is required")
  | .known .targetReset =>
    ensure (op.targetResetReason ≠ [] ∨ op.reason ≠ [])
      (.text "target reset reason is required")
  | _ => .ok ()

def encodeOperation (source : RandSource) (encoding : ProfileEncoding) (p : Profile)
    (op : Operation) (seed : Int64) : Except FramingError (List (List UInt8)) := do
  match validate encoding p with
  | .error err => .error (.validation err)
  | .ok () => do
    validateProxyOperation p op
    let spec ← codecSpecFromProfile encoding p
    encodeOperationWithSpec source spec op seed

def encodeLiveOperation (source : RandSource) (program : ProgramV1) (op : Operation)
    (seed : Int64) : Except FramingError (List (List UInt8)) := do
  let spec ← codecSpecFromLiveProgram program
  encodeOperationWithSpec source spec op seed

/-! ## Decoding -/

/-- The slots filled so far: which fragments were seen, and their payloads. -/
structure Reassembly where
  seen : List Bool
  payloads : List (List UInt8)

/-- One round of the loop over the decoded frames. -/
def collectFragment (expected : DecodedFrame) (expectedMetadata : List UInt8)
    (total position : ℕ) (state : Reassembly) (part : DecodedFrame) :
    Except FramingError Reassembly := do
  ensure (part.fragCount = expected.fragCount) (.fragment .conflictingCount)
  ensure (part.fragIndex < total) (.fragment .outOfRange)
  ensure (state.seen.getD part.fragIndex false = false) (.fragment .duplicate)
  ensure (part.fragIndex = position) (.fragment .reordered)
  ensure (part.operation.semantic = expected.operation.semantic) (.fragment .semantic)
  ensure (part.operation.streamID = expected.operation.streamID) (.fragment .stream)
  ensure (part.wireSymbol = expected.wireSymbol) (.fragment .message)
  match encodeOperationMetadata part.operation with
  | .error _ => .error (.fragment .operation)
  | .ok metadata => do
    ensure (metadata = expectedMetadata) (.fragment .operation)
    .ok ⟨state.seen.set part.fragIndex true,
      state.payloads.set part.fragIndex part.operation.payload⟩

def collectFragments (expected : DecodedFrame) (expectedMetadata : List UInt8)
    (total : ℕ) : ℕ → Reassembly → List DecodedFrame → Except FramingError Reassembly
  | _, state, [] => .ok state
  | position, state, part :: parts => do
    let next ← collectFragment expected expectedMetadata total position state part
    collectFragments expected expectedMetadata total (position + 1) next parts

/-- Decode every frame, in order. -/
def decodeAll (spec : CodecSpec) : List (List UInt8) → Except FramingError (List DecodedFrame)
  | [] => .ok []
  | frame :: frames => do
    let part ← decodeFrameWithSpec spec frame
    let parts ← decodeAll spec frames
    .ok (part :: parts)

def decodeFramesWithSpec (spec : CodecSpec) (frames : List (List UInt8)) :
    Except FramingError (Operation × List DecodedFrame) := do
  let decoded ← decodeAll spec frames
  match decoded with
  | [] => .error (.fragment .empty)
  | expected :: _ => do
    ensure (expected.fragCount = decoded.length) (.fragment .missing)
    match encodeOperationMetadata expected.operation with
    | .error _ => .error (.fragment .operation)
    | .ok expectedMetadata => do
      let state ← collectFragments expected expectedMetadata decoded.length 0
        ⟨List.replicate decoded.length false, List.replicate decoded.length []⟩ decoded
      ensure (∀ present ∈ state.seen, present = true) (.fragment .missing)
      .ok ({ expected.operation with payload := state.payloads.flatten }, decoded)

def decodeFrames (encoding : ProfileEncoding) (p : Profile) (frames : List (List UInt8)) :
    Except FramingError (Operation × List DecodedFrame) := do
  let spec ← codecSpecFromProfile encoding p
  decodeFramesWithSpec spec frames

def decodeLiveFrames (program : ProgramV1) (frames : List (List UInt8)) :
    Except FramingError (Operation × List DecodedFrame) := do
  let spec ← codecSpecFromLiveProgram program
  decodeFramesWithSpec spec frames

end Kurdistan.Framing
