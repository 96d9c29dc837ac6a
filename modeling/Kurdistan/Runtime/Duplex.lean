import Kurdistan.Runtime.DuplexBody
import Kurdistan.Support.CryptoLog

/-!
# Duplex endpoints

The state shared by the client and relay endpoints of the first and third version. All
methods hold the mutex of the state from start to end, so a run of an endpoint is a list
of calls. The third version keeps its buffers in a workspace and seals and opens in
place; otherwise both versions run the same code.

Inner frames which were handed out are kept in a list, in which a frame is a position.
The state also carries a ghost log of what its envelope codec encrypted and decrypted.
-/

namespace Kurdistan.Runtime

open Support Security Framing Protocol

variable {source : RandSource}

/-! ## The cipher log -/

/-- What one encryption or decryption binds together. -/
structure AEADMessage where
  nonce : FixedBytes 12
  aad : List UInt8
  plaintext : List UInt8
  deriving DecidableEq

/-- `released` is an encryption under a key and `accepted` a decryption, each with its
ciphertext. -/
abbrev AEADEvent := CryptoEvent Empty (List UInt8) AEADMessage (List UInt8)

/-- The encryption behind a record which the codec has sealed on a slot. -/
def sealedEvent (c : EnvelopeCodecV1) (slot : UInt16) (plaintext : List UInt8)
    (record : EnvelopeRecordV1) : List AEADEvent :=
  match (c.nonces.outbound.allocateV1 .nonceApplicationRecordV1 slot).2 with
  | .error _ => []
  | .ok allocation =>
    [.released c.outbound
      ⟨allocation.nonce, c.writeApplicationAADV1 { record with ciphertext := [] }, plaintext⟩
      record.ciphertext]

/-- The decryption behind a record which the codec has authenticated. -/
def openedEvent (c : EnvelopeCodecV1) (plaintext : List UInt8) (record : EnvelopeRecordV1) :
    List AEADEvent :=
  match c.nonces.inbound.expectedV1 .nonceApplicationRecordV1 record.slot record.sequence with
  | .error _ => []
  | .ok nonce =>
    [.accepted c.inbound ⟨nonce, c.writeApplicationAADV1 record, plaintext⟩ record.ciphertext]

/-! ## The state -/

/-- The buffers of the third version. Between two calls nothing in them is read. -/
structure DuplexWorkspaceV3 (source : RandSource) extends ReceiveBuffersV3 where
  maxPayloadBytes : ℕ
  framing : LiveDataCodecV3 source
  txFrames : Slice
  txBody : Slice
  txRecord : Slice
  rxRecord : Slice
  padding : Slice
  txSpans : SpanTable
  payloadRoom : rxPayload.bytes.length = maxPayloadBytes

/-- An inner frame which was handed out. Its capability is dropped when the frame is
finished. -/
structure AuthenticatedInnerFrameV1 where
  operation : Operation
  streamID : UInt32
  sequence : UInt64
  replay : Option ℕ
  terminal : Bool

structure ProcessDuplexStateV1 (source : RandSource) where
  client : Bool
  digest : FixedBytes 32
  codec : EnvelopeWorldV1
  program : ProgramV1
  maxMessages : ℕ
  sendCount : ℕ
  recvCount : ℕ
  bindStarted : Bool
  bound : Bool
  closed : Bool
  pending : Option ℕ
  frames : List AuthenticatedInnerFrameV1
  bounded : Option (DuplexWorkspaceV3 source)
  log : List AEADEvent

/-- A fresh endpoint around a codec nobody has used yet. -/
def newProcessDuplexStateV1 (client : Bool) (digest : FixedBytes 32)
    (codec : EnvelopeCodecV1) (program : ProgramV1) (maxMessages : ℕ)
    (bounded : Option (DuplexWorkspaceV3 source)) : ProcessDuplexStateV1 source where
  client := client
  digest := digest
  codec := .init codec
  program := program
  maxMessages := maxMessages
  sendCount := 0
  recvCount := 0
  bindStarted := false
  bound := false
  closed := false
  pending := none
  frames := []
  bounded := bounded
  log := []

/-- What a call returns. -/
inductive DuplexReply where
  | record (encoded : List UInt8)
  | frame (address : ℕ)
  | done
  | failed (err : RuntimeError)
  deriving DecidableEq

namespace ProcessDuplexStateV1

/-! ## Closing -/

/-- The frame as it is left when it is finished. -/
def finishedFrame (frame : AuthenticatedInnerFrameV1) : AuthenticatedInnerFrameV1 :=
  { frame with operation := {}, replay := none, terminal := true }

/-- Discard a capability; a frame without one has none to discard. -/
def discardReplay (codec : EnvelopeWorldV1) (replay : Option ℕ) : EnvelopeWorldV1 :=
  (codec.discard replay).1

variable (s : ProcessDuplexStateV1 source)

/-- `closeLockedV1`. The references which the source drops here are not read again,
because every method asks `validLockedV1` first. -/
def closeLockedV1 : ProcessDuplexStateV1 source :=
  if s.closed then s
  else
    let closed := { s with closed := true, bound := false, bindStarted := false }
    match s.pending with
    | none => closed
    | some address =>
      { closed with
        pending := none
        codec :=
          if s.bounded.isSome then
            discardReplay s.codec ((s.frames[address]?).bind (·.replay))
          else s.codec
        frames := s.frames.modify address finishedFrame }

def failLockedV1 (err : RuntimeError) :
    ProcessDuplexStateV1 source × DuplexReply :=
  (s.closeLockedV1,
    if s.bounded.isSome ∧ err = .serviceResourceLimit then .failed .serviceResourceLimit
    else .failed (normalizeProcessRecordErrorV1 err))

/-- `validLockedV1`: the codec is there until the state is closed. -/
def validLockedV1 : Bool := !s.closed

/-! ## Sealing -/

/-- Seal a body with the codec and log it. -/
def sealEnvelope (aead : AEAD) (s : ProcessDuplexStateV1 source)
    (dst : Option BorrowedDestinationV1) (slot : UInt16) (body : List UInt8) :
    ProcessDuplexStateV1 source × Except RuntimeError EnvelopeRecordV1 :=
  let result := s.codec.codec.sealDestinationV1 aead dst .nonceApplicationRecordV1 1 slot body []
  let next := { s with codec := { s.codec with codec := result.1 } }
  match result.2 with
  | .error err => (next, .error (.security err))
  | .ok envelope =>
    ({ next with log := sealedEvent s.codec.codec slot body envelope ++ next.log }, .ok envelope)

/-- Count a record which was sealed and encoded. -/
def countSealed (sealed : ProcessDuplexStateV1 source × Except RuntimeError EnvelopeRecordV1)
    (encode : EnvelopeRecordV1 → Except RuntimeError (List UInt8)) :
    ProcessDuplexStateV1 source × Except RuntimeError (List UInt8) :=
  match sealed.2 with
  | .error err => (sealed.1, .error err)
  | .ok envelope =>
    match encode envelope with
    | .error err => (sealed.1, .error err)
    | .ok encoded => ({ sealed.1 with sendCount := sealed.1.sendCount + 1 }, .ok encoded)

def sealBodyIntoV3Locked (aead : AEAD) (s : ProcessDuplexStateV1 source)
    (w : DuplexWorkspaceV3 source) (frameType : UInt8) (outerStream : UInt32)
    (slot : UInt16) (body : List UInt8) :
    ProcessDuplexStateV1 source × Except RuntimeError (List UInt8) :=
  let total := body.length + 92
  if w.txRecord.bytes.length < total ∨ w.txBody.bytes.length < body.length then
    (s, .error .serviceResourceLimit)
  else
    countSealed
      (s.sealEnvelope aead (some ⟨w.txRecord.address + 76, total - 76, w.txBody.address⟩) slot body)
      fun envelope =>
        match Wire.encodeInto total ⟨frameType, Wire.flagCritical, outerStream, s.digest,
            encodeApplicationHeaderV1 (recordHeaderV1 envelope) ++ envelope.ciphertext⟩ with
        | .error _ => .error .recordInvalid
        | .ok encoded => .ok encoded

def sealBodyLockedV1 (aead : AEAD) (s : ProcessDuplexStateV1 source) (frameType : UInt8)
    (outerStream : UInt32) (slot : UInt16) (body : List UInt8) :
    ProcessDuplexStateV1 source × Except RuntimeError (List UInt8) :=
  if s.maxMessages ≤ s.sendCount then (s, .error .sessionMessageLimit)
  else
    match s.bounded with
    | some w => s.sealBodyIntoV3Locked aead w frameType outerStream slot body
    | none =>
      countSealed (s.sealEnvelope aead none slot body)
        (encodeRecordFrameV1 frameType outerStream s.digest)

/-- A sealing method after its own checks: a failure closes the endpoint. -/
def sealOrFail (aead : AEAD) (s : ProcessDuplexStateV1 source) (frameType : UInt8)
    (outerStream : UInt32) (slot : UInt16) (body : List UInt8) :
    ProcessDuplexStateV1 source × DuplexReply :=
  match s.sealBodyLockedV1 aead frameType outerStream slot body with
  | (next, .error err) => next.failLockedV1 err
  | (next, .ok encoded) => (next, .record encoded)

def profileBindV1 (aead : AEAD) (s : ProcessDuplexStateV1 source)
    (exporter : FixedBytes 32) : ProcessDuplexStateV1 source × DuplexReply :=
  if !s.validLockedV1 || !s.client || s.bound || s.bindStarted || exporter = fixedBytes 32 [] then
    s.failLockedV1 .secureChannel
  else
    match s.sealBodyLockedV1 aead Wire.typeProfileBind 0 processControlSlotV1
        (profileBindBody exporter s.digest) with
    | (next, .error err) => next.failLockedV1 err
    | (next, .ok encoded) => ({ next with bindStarted := true }, .record encoded)

/-- `sealOperationV1`. -/
def sealOperationV1 (aead : AEAD) (s : ProcessDuplexStateV1 source) (operation : Operation)
    (seed : Int64) : ProcessDuplexStateV1 source × DuplexReply :=
  if !s.validLockedV1 || !s.bound || operation.streamID = 0 ||
      processControlSlotV1.toUInt32 ≤ operation.streamID || operation.payload.isEmpty then
    s.failLockedV1 .secureChannel
  else
    match encodeLiveOperation source s.program operation seed with
    | .error _ => s.failLockedV1 .recordInvalid
    | .ok frames =>
      if frames.isEmpty || duplexMaximumFramesV1 < frames.length then
        s.failLockedV1 .recordInvalid
      else
        match encodeDuplexOperationBodyV1 frames with
        | .error err => s.failLockedV1 err
        | .ok body =>
          s.sealOrFail aead Wire.typeReliableData operation.streamID
            operation.streamID.toUInt16 body

/-- The two kinds of packet pumps, which write different metadata. -/
inductive PacketPumpKindV1 where
  | mixed
  | raw
  deriving DecidableEq

/-- The framing call of a packet pump. -/
def encodePacket (codec : LiveDataCodecV3 source) (kind : PacketPumpKindV1)
    (framesDst paddingScratch payload : Slice) (streamID : UInt32) (seed : Int64)
    (spans : SpanTable) : Except FramingError (EncodeStateV3 source × ℕ) :=
  match kind with
  | .mixed => codec.encodeInto framesDst paddingScratch payload streamID seed (some spans)
  | .raw =>
    codec.encodePacketV2Into framesDst paddingScratch payload streamID seed (some spans)

/-- The body which `sealPacketDataV3` puts together from the encoded frames. -/
def packetBodyV3 (done : EncodeStateV3 source) (count : ℕ) : List UInt8 :=
  duplexHeader duplexKindOperationV1 (UInt16.ofNat count) (4 * count + done.pos) ++
    (done.spans.take count).flatMap fun span =>
      putUint32 span.length ++ spanFrame done.frames span

def sealPacketDataV3 (aead : AEAD) (s : ProcessDuplexStateV1 source) (payload : Slice)
    (stream : UInt32) (seed : Int64) (kind : PacketPumpKindV1) :
    ProcessDuplexStateV1 source × DuplexReply :=
  match s.bounded with
  | none => s.failLockedV1 .secureChannel
  | some w =>
    if !s.validLockedV1 || !s.bound || stream.toNat < 2 || 65534 < stream.toNat then
      s.failLockedV1 .secureChannel
    else if payload.bytes.isEmpty || w.maxPayloadBytes < payload.bytes.length then
      (s, .failed .serviceResourceLimit)
    else if s.maxMessages ≤ s.sendCount then s.failLockedV1 .sessionMessageLimit
    else
      match encodePacket w.framing kind w.txFrames w.padding payload stream seed w.txSpans with
      | .error _ => (s, .failed .serviceResourceLimit)
      | .ok (done, count) =>
        if w.txBody.bytes.length < 16 + 4 * count + done.pos then
          s.failLockedV1 .recordInvalid
        else
          s.sealOrFail aead Wire.typeReliableData stream stream.toUInt16 (packetBodyV3 done count)

def sealKeepaliveV1 (aead : AEAD) (s : ProcessDuplexStateV1 source) :
    ProcessDuplexStateV1 source × DuplexReply :=
  if !s.validLockedV1 || !s.bound then s.failLockedV1 .secureChannel
  else
    s.sealOrFail aead Wire.typeReliableData processControlSlotV1.toUInt32
      processControlSlotV1 (encodeDuplexControlBodyV1 duplexKindKeepaliveV1 0)

/-- `sealCloseV1`, which closes the endpoint whether sealing succeeds or not. -/
def sealCloseV1 (aead : AEAD) (s : ProcessDuplexStateV1 source) (code : UInt16) :
    ProcessDuplexStateV1 source × DuplexReply :=
  if !s.validLockedV1 || !s.bound || code ≠ closeCodeTerminalV1 then
    s.failLockedV1 .secureChannel
  else
    match s.sealBodyLockedV1 aead Wire.typeClose 0 processControlSlotV1
        (encodeDuplexControlBodyV1 duplexKindCloseV1 code) with
    | (next, .error err) => (next.closeLockedV1, .failed err)
    | (next, .ok encoded) => (next.closeLockedV1, .record encoded)

/-! ## Opening -/

/-- The direction of the records an endpoint receives. -/
def inboundDirection : UInt16 :=
  if s.client then applicationDirectionRelayV1 else applicationDirectionClientV1

/-- A body which was authenticated, with the capability to commit its record. -/
structure AuthenticatedBody where
  body : List UInt8
  replay : ℕ
  sequence : UInt64

/-- Authenticate an envelope with the codec and log it. -/
def authenticateEnvelope (aead : AEAD) (s : ProcessDuplexStateV1 source)
    (dst : Option BorrowedDestinationV1) (envelope : EnvelopeRecordV1) :
    ProcessDuplexStateV1 source × Except RuntimeError AuthenticatedBody :=
  match s.codec.authenticate aead dst .nonceApplicationRecordV1 envelope [] with
  | (codec, .error err) => ({ s with codec := codec }, .error (.security err))
  | (codec, .ok (body, replay)) =>
    ({ s with
        codec := codec
        log := openedEvent s.codec.codec body envelope ++ s.log },
      .ok ⟨body, replay, envelope.sequence⟩)

/-- Where an authenticated body goes: to a fresh buffer, or to `rxBody`. -/
def bodyDestination (encoded : Slice) :
    Option BorrowedDestinationV1 :=
  s.bounded.map fun w =>
    ⟨w.rxBody.address, w.rxBody.bytes.length,
      encoded.address + Wire.headerBytes + processEnvelopeHeaderBytes⟩

/-- The records an endpoint of the third version has room for. -/
def recordFits (encoded : Slice) : Prop :=
  ∀ w ∈ s.bounded, encoded.bytes.length ≤ w.rxRecord.bytes.length

instance (s : ProcessDuplexStateV1 source) (encoded : Slice) :
    Decidable (s.recordFits encoded) := by
  unfold recordFits
  infer_instance

/-- The checks on a record which is expected to be of one type, on one stream. -/
def expectRecord (encoded : Slice) (frameType : UInt8)
    (outerStream : UInt32) (slot : UInt16) : Except RuntimeError EnvelopeRecordV1 := do
  ensure (s.recordFits encoded) .serviceResourceLimit
  let record ← decodeProcessRecordFrameV1 encoded.bytes frameType s.digest
    s.inboundDirection s.codec.codec.context.maxEnvelopeBytes
  ensure (record.1.streamID = outerStream ∧ record.2.slot = slot) .recordInvalid
  .ok record.2

/-- `authenticateBodyLockedV1`, with `authenticateBodyIntoV3Locked` inside. -/
def authenticateBodyLockedV1 (aead : AEAD) (s : ProcessDuplexStateV1 source)
    (encoded : Slice) (frameType : UInt8) (outerStream : UInt32) (slot : UInt16) :
    ProcessDuplexStateV1 source × Except RuntimeError AuthenticatedBody :=
  if s.maxMessages ≤ s.recvCount then (s, .error .sessionMessageLimit)
  else
    match s.expectRecord encoded frameType outerStream slot with
    | .error err => (s, .error err)
    | .ok envelope => s.authenticateEnvelope aead (s.bodyDestination encoded) envelope

/-- Commit a capability and count the record. -/
def commitReplay (replay : ℕ) :
    ProcessDuplexStateV1 source × Except RuntimeError Unit :=
  match s.codec.commit replay with
  | (codec, .error err) => ({ s with codec := codec }, .error (.security err))
  | (codec, .ok ()) => ({ s with codec := codec, recvCount := s.recvCount + 1 }, .ok ())

/-- Give up a record which was authenticated but does not fit. -/
def reject (replay : ℕ) (err : RuntimeError) :
    ProcessDuplexStateV1 source × DuplexReply :=
  { s with codec := discardReplay s.codec (some replay) }.failLockedV1 err

def acceptEngineReadyV1 (aead : AEAD) (s : ProcessDuplexStateV1 source) (encoded : Slice) :
    ProcessDuplexStateV1 source × DuplexReply :=
  if !s.validLockedV1 || !s.client || !s.bindStarted || s.bound then
    s.failLockedV1 .secureChannel
  else
    match s.authenticateBodyLockedV1 aead encoded Wire.typeEngineReady 0 processControlSlotV1 with
    | (next, .error err) => next.failLockedV1 err
    | (next, .ok authenticated) =>
      if authenticated.body ≠ processReadyMagicV1 then
        next.reject authenticated.replay .recordInvalid
      else
        match next.commitReplay authenticated.replay with
        | (next, .error err) => next.failLockedV1 err
        | (next, .ok ()) => ({ next with bound := true }, .done)

def acceptProfileBindV1 (aead : AEAD) (s : ProcessDuplexStateV1 source) (encoded : Slice)
    (exporter : FixedBytes 32) : ProcessDuplexStateV1 source × DuplexReply :=
  if !s.validLockedV1 || s.client || s.bound || exporter = fixedBytes 32 [] then
    s.failLockedV1 .secureChannel
  else
    match s.authenticateBodyLockedV1 aead encoded Wire.typeProfileBind 0 processControlSlotV1 with
    | (next, .error err) => next.failLockedV1 err
    | (next, .ok authenticated) =>
      if authenticated.body ≠ profileBindBody exporter s.digest then
        next.reject authenticated.replay .recordInvalid
      else
        match next.commitReplay authenticated.replay with
        | (next, .error err) => next.failLockedV1 err
        | (next, .ok ()) =>
          match next.sealBodyLockedV1 aead Wire.typeEngineReady 0 processControlSlotV1
              processReadyMagicV1 with
          | (next, .error err) => next.failLockedV1 err
          | (next, .ok ready) => ({ next with bound := true }, .record ready)

/-- A record which was authenticated and read: control messages are committed at once,
an operation is handed out and waits for its commit. -/
def deliver (outerStream : UInt32)
    (authenticated : AuthenticatedBody) :
    Except RuntimeError DuplexMessage → ProcessDuplexStateV1 source × DuplexReply
  | .error err => s.reject authenticated.replay err
  | .ok .keepalive =>
    match s.commitReplay authenticated.replay with
    | (next, .error err) => next.failLockedV1 err
    | (next, .ok ()) => (next, .done)
  | .ok .close =>
    match s.commitReplay authenticated.replay with
    | (next, .error err) => next.failLockedV1 err
    | (next, .ok ()) => (next.closeLockedV1, .failed .linkClosed)
  | .ok (.operation operation) =>
    let address := s.frames.length
    ({ s with
        frames := s.frames ++
          [⟨operation, outerStream, authenticated.sequence, some authenticated.replay, false⟩]
        pending := some address },
      .frame address)

/-- The outer frame of a record that may carry data, and the slot it has to use. -/
def openOuter (encoded : List UInt8)
    (streamLow : ℕ) : Except RuntimeError (Wire.Frame × UInt16) :=
  match Wire.decode encoded with
  | .error _ => .error .recordInvalid
  | .ok frame => do
    ensure (frame.flags = Wire.flagCritical ∧ frame.planDigest = s.digest ∧
      (frame.type = Wire.typeReliableData ∨ frame.type = Wire.typeClose)) .recordInvalid
    if frame.type = Wire.typeReliableData ∧ frame.streamID ≠ processControlSlotV1.toUInt32 then do
      ensure (streamLow ≤ frame.streamID.toNat ∧ frame.streamID.toNat < 65535) .recordInvalid
      .ok (frame, frame.streamID.toUInt16)
    else .ok (frame, processControlSlotV1)

/-- `openFrameV1`. Unlike every other receiving method it does not compare `recvCount`
with the limit. -/
def openFrameV1 (aead : AEAD) (s : ProcessDuplexStateV1 source) (encoded : Slice) :
    ProcessDuplexStateV1 source × DuplexReply :=
  if !s.validLockedV1 || !s.bound || s.pending.isSome then s.failLockedV1 .secureChannel
  else
    match s.openOuter encoded.bytes 1 with
    | .error err => s.failLockedV1 err
    | .ok (frame, slot) =>
      match decodeProcessEnvelopeV1 frame.payload s.inboundDirection
          s.codec.codec.context.maxEnvelopeBytes with
      | .error _ => s.failLockedV1 .recordInvalid
      | .ok envelope =>
        if envelope.slot ≠ slot then s.failLockedV1 .recordInvalid
        else
          match s.authenticateEnvelope aead none envelope with
          | (next, .error err) => next.failLockedV1 err
          | (next, .ok authenticated) =>
            next.deliver frame.streamID authenticated
              (readDuplexBodyV1 s.program frame.type frame.streamID authenticated.body)

/-- `openFrameV3`. -/
def openFrameV3 (aead : AEAD) (s : ProcessDuplexStateV1 source)
    (w : DuplexWorkspaceV3 source) (encoded : Slice) :
    ProcessDuplexStateV1 source × DuplexReply :=
  if !s.validLockedV1 || !s.bound || s.pending.isSome then s.failLockedV1 .secureChannel
  else if s.maxMessages ≤ s.recvCount then s.failLockedV1 .sessionMessageLimit
  else if w.rxRecord.bytes.length < encoded.bytes.length then
    s.failLockedV1 .serviceResourceLimit
  else
    match s.openOuter encoded.bytes 2 with
    | .error err => s.failLockedV1 err
    | .ok (frame, slot) =>
      match s.authenticateBodyLockedV1 aead encoded frame.type frame.streamID slot with
      | (next, .error err) => next.failLockedV1 err
      | (next, .ok authenticated) =>
        next.deliver frame.streamID authenticated
          (readDuplexBodyV3 w.framing w.toReceiveBuffersV3 frame.type frame.streamID
            authenticated.body)

/-! ## Finishing a frame -/

/-- `finishV1` on the frame at an address, with `commit` or without. -/
def finishV1 (address : ℕ) (commit : Bool) :
    ProcessDuplexStateV1 source × DuplexReply :=
  match s.frames[address]? with
  | none => (s, .failed .authenticatedFrameState)
  | some frame =>
    if frame.terminal || s.pending ≠ some address || !s.validLockedV1 then
      (s, .failed .authenticatedFrameState)
    else
      let taken := { s with
        pending := none
        frames := s.frames.modify address finishedFrame }
      if commit then
        -- A pending frame has its capability; a zero capability fails to commit.
        match frame.replay with
        | none => (taken.closeLockedV1, .failed (.security .replayDuplicate))
        | some replay =>
          match taken.commitReplay replay with
          | (next, .error err) =>
            (next.closeLockedV1, .failed (normalizeProcessRecordErrorV1 err))
          | (next, .ok ()) => (next, .done)
      else
        match s.codec.discard frame.replay with
        | (codec, .failed err) =>
          ({ taken with codec := codec }.closeLockedV1,
            .failed (normalizeProcessRecordErrorV1 (.security err)))
        | (codec, _) => ({ taken with codec := codec }.closeLockedV1, .done)

end ProcessDuplexStateV1

/-! ## Calls -/

/-- The methods of an endpoint and of the frames it hands out. `openFrame` is
`OpenFrame` or `OpenFrameV3`, whichever the endpoint has. -/
inductive DuplexCall where
  | profileBind (exporter : FixedBytes 32)
  | acceptEngineReady (encoded : Slice)
  | acceptProfileBind (encoded : Slice) (exporter : FixedBytes 32)
  | sealOperation (operation : Operation) (seed : Int64)
  | sealData (payload : Slice) (stream : UInt32) (seed : Int64)
      (kind : ProcessDuplexStateV1.PacketPumpKindV1)
  | sealKeepalive
  | sealClose (code : UInt16)
  | openFrame (encoded : Slice)
  | commit (frame : ℕ)
  | discard (frame : ℕ)
  | abort

namespace ProcessDuplexStateV1

/-- One call. An endpoint of the third version has no `SealOperation`. -/
def step (aead : AEAD) (s : ProcessDuplexStateV1 source) :
    DuplexCall → ProcessDuplexStateV1 source × DuplexReply
  | .profileBind exporter => s.profileBindV1 aead exporter
  | .acceptEngineReady encoded => s.acceptEngineReadyV1 aead encoded
  | .acceptProfileBind encoded exporter => s.acceptProfileBindV1 aead encoded exporter
  | .sealOperation operation seed =>
    match s.bounded with
    | none => s.sealOperationV1 aead operation seed
    | some _ => (s, .failed .secureChannel)
  | .sealData payload stream seed kind => s.sealPacketDataV3 aead payload stream seed kind
  | .sealKeepalive => s.sealKeepaliveV1 aead
  | .sealClose code => s.sealCloseV1 aead code
  | .openFrame encoded =>
    match s.bounded with
    | none => s.openFrameV1 aead encoded
    | some w => s.openFrameV3 aead w encoded
  | .commit frame => s.finishV1 frame true
  | .discard frame => s.finishV1 frame false
  | .abort => (s.closeLockedV1, .done)

end ProcessDuplexStateV1

end Kurdistan.Runtime
