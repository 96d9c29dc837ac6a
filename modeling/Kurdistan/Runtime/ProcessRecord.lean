import Kurdistan.Runtime.Record
import Kurdistan.Support.Digest
import Mathlib.Data.List.AList

/-!
# Process record endpoints

The client and relay endpoints of the first record protocol. The client seals data
records and waits for their acknowledgements; the relay opens data records one at a time
and acknowledges each after its delivery.

Both roles hold one mutex per method, so a run of an endpoint is a list of calls. What
the two roles do alike is the `RecordSession` inside them. The counters of a session are
`uint64` in the source and would wrap only after 2 ^ 64 records.
-/

namespace Kurdistan.Runtime

open Support Security

/-- `KRDDATA1`. -/
def processDataMagicV1 : List UInt8 := [75, 82, 68, 68, 65, 84, 65, 49]

/-- `KRDACK01`. -/
def processAckMagicV1 : List UInt8 := [75, 82, 68, 65, 67, 75, 48, 49]

/-- `KRDCLOS1`. -/
def processCloseMagicV1 : List UInt8 := [75, 82, 68, 67, 76, 79, 83, 49]

/-! ## Bodies -/

def processDataFixedBytesV1 : ℕ := 44

def controlDirectionClientV1 : UInt16 := 1

/-- `writeLifecycleLPV1`. -/
def lifecycleField (value : List UInt8) : List UInt8 :=
  putUint32 (UInt32.ofNat value.length) ++ value

/-- `kurdistan/operation/v1/id`. -/
def operationIDLabel : List UInt8 :=
  [107, 117, 114, 100, 105, 115, 116, 97, 110, 47, 111, 112, 101, 114, 97, 116, 105, 111,
    110, 47, 118, 49, 47, 105, 100]

def operationIDV1 (th4 : FixedBytes 32) (direction : UInt16) (epoch : UInt64)
    (streamSlot : UInt16) (operationSequence : UInt64) : FixedBytes 32 :=
  sha256 (lifecycleField operationIDLabel ++ lifecycleField th4.toList ++
    lifecycleField (putUint16 direction) ++ lifecycleField (putUint64 epoch) ++
    lifecycleField (putUint16 streamSlot) ++ lifecycleField (putUint64 operationSequence))

def processDataBody (id : FixedBytes 32) (plaintext : List UInt8) : List UInt8 :=
  processDataMagicV1 ++ id.toList ++ putUint32 (UInt32.ofNat plaintext.length) ++ plaintext

def processAckBody (id : FixedBytes 32) (completed : UInt64) : List UInt8 :=
  processAckMagicV1 ++ id.toList ++ putUint64 completed

def processCloseBody : List UInt8 := processCloseMagicV1 ++ putUint16 closeCodeTerminalV1

def parseProcessDataV1 (body : List UInt8) :
    Except RuntimeError (FixedBytes 32 × List UInt8) := do
  ensure (processDataFixedBytesV1 ≤ body.length ∧ body.take 8 = processDataMagicV1) .recordInvalid
  let id := fixedBytes 32 ((body.drop 8).take 32)
  let length := (getUint32 (body.drop 40)).toNat
  ensure (id ≠ fixedBytes 32 [] ∧ processDataFixedBytesV1 + length = body.length ∧
    length ≠ 0) .recordInvalid
  .ok (id, body.drop 44)

def parseProcessAckV1 (body : List UInt8) :
    Except RuntimeError (FixedBytes 32 × UInt64) := do
  ensure (body.length = 48 ∧ body.take 8 = processAckMagicV1) .operationAckInvalid
  let id := fixedBytes 32 ((body.drop 8).take 32)
  let count := getUint64 (body.drop 40)
  ensure (id ≠ fixedBytes 32 [] ∧ count ≠ 0) .operationAckInvalid
  .ok (id, count)

/-! ## Sessions -/

/-- What both roles keep: their codec, the digest of the plan and the two counters. -/
structure RecordSession where
  digest : FixedBytes 32
  codec : EnvelopeWorldV1
  maxMessages : ℕ
  sendCount : ℕ
  recvCount : ℕ

namespace RecordSession

/-- A session which has neither sent nor received. -/
def init (digest : FixedBytes 32) (codec : EnvelopeCodecV1) (maxMessages : ℕ) : RecordSession where
  digest := digest
  codec := .init codec
  maxMessages := maxMessages
  sendCount := 0
  recvCount := 0

/-- `sealLockedV1` of either role. -/
def sealLockedV1 (aead : AEAD) (s : RecordSession) (frameType : UInt8)
    (outerStream : UInt32) (innerSlot : UInt16) (body : List UInt8) :
    RecordSession × Except RuntimeError (List UInt8) :=
  if s.maxMessages ≤ s.sendCount then (s, .error .sessionMessageLimit)
  else
    let result := s.codec.codec.sealApplicationV1 aead innerSlot body
    let next := { s with codec := { s.codec with codec := result.1 } }
    match result.2 with
    | .error err => (next, .error (.security err))
    | .ok envelope =>
      match encodeRecordFrameV1 frameType outerStream s.digest envelope with
      | .error err => (next, .error err)
      | .ok encoded => ({ next with sendCount := s.sendCount + 1 }, .ok encoded)

/-- Authenticate an envelope; the result is its body and its capability. -/
def authenticate (aead : AEAD) (s : RecordSession) (envelope : EnvelopeRecordV1) :
    RecordSession × Except RuntimeError (List UInt8 × ℕ) :=
  match s.codec.authenticate aead none .nonceApplicationRecordV1 envelope [] with
  | (codec, .error err) => ({ s with codec := codec }, .error (.security err))
  | (codec, .ok opened) => ({ s with codec := codec }, .ok opened)

/-- `openLockedV1` of the role which receives records of the given direction. -/
def openLockedV1 (aead : AEAD) (s : RecordSession) (direction : UInt16)
    (encoded : List UInt8) (frameType : UInt8) (outerStream : UInt32)
    (innerSlot : UInt16) : RecordSession × Except RuntimeError (List UInt8 × ℕ) :=
  if s.maxMessages ≤ s.recvCount then (s, .error .sessionMessageLimit)
  else
    match decodeProcessRecordFrameV1 encoded frameType s.digest direction
        s.codec.codec.context.maxEnvelopeBytes with
    | .error err => (s, .error err)
    | .ok (frame, envelope) =>
      if frame.streamID ≠ outerStream ∨ envelope.slot ≠ innerSlot then
        (s, .error .recordInvalid)
      else s.authenticate aead envelope

/-- Discard a capability. -/
def discard (s : RecordSession) (capability : ℕ) : RecordSession :=
  { s with codec := (s.codec.discard (some capability)).1 }

/-- Commit a capability, without counting its record. -/
def commit (s : RecordSession) (capability : ℕ) : RecordSession × Except RuntimeError Unit :=
  match s.codec.commit capability with
  | (codec, .error err) => ({ s with codec := codec }, .error (.security err))
  | (codec, .ok ()) => ({ s with codec := codec }, .ok ())

/-- Count a record which was received. -/
def countReceived (s : RecordSession) : RecordSession :=
  { s with recvCount := s.recvCount + 1 }

end RecordSession

/-- What a call returns. -/
inductive RecordReply where
  | record (encoded : List UInt8)
  | delivery (payload : List UInt8) (address : ℕ)
  | done
  | failed (err : RuntimeError)
  deriving DecidableEq

/-! ## The client -/

structure ProcessClientRecordEndpointV1 where
  session : RecordSession
  maxFrame : UInt32
  maxStreams : UInt32
  bindStarted : Bool
  bound : Bool
  closed : Bool
  nextOp : UInt64
  outstanding : AList fun _ : FixedBytes 32 => UInt16

/-- `NewProcessClientRecordEndpointV1` around the codec of the role. -/
def newProcessClientRecordEndpointV1 (digest : FixedBytes 32) (codec : EnvelopeCodecV1)
    (maxFrame maxStreams : UInt32) (maxMessages : ℕ) : ProcessClientRecordEndpointV1 where
  session := .init digest codec maxMessages
  maxFrame := maxFrame
  maxStreams := maxStreams
  bindStarted := false
  bound := false
  closed := false
  nextOp := 0
  outstanding := ∅

namespace ProcessClientRecordEndpointV1

variable (client : ProcessClientRecordEndpointV1)

/-- `closeLockedV1`. Codec, context and digest are not read after it. -/
def closeLockedV1 : ProcessClientRecordEndpointV1 :=
  { client with closed := true, bound := false, bindStarted := false, outstanding := ∅ }

def failLockedV1 (err : RuntimeError) :
    ProcessClientRecordEndpointV1 × RecordReply :=
  (client.closeLockedV1, .failed (normalizeProcessRecordErrorV1 err))

/-- Continue with another session. -/
def withSession (session : RecordSession) :
    ProcessClientRecordEndpointV1 :=
  { client with session := session }

def profileBind (aead : AEAD) (client : ProcessClientRecordEndpointV1)
    (tlsExporter : FixedBytes 32) : ProcessClientRecordEndpointV1 × RecordReply :=
  if client.closed || client.bound || client.bindStarted || tlsExporter = fixedBytes 32 [] then
    client.failLockedV1 .secureChannel
  else
    match client.session.sealLockedV1 aead Wire.typeProfileBind 0 processControlSlotV1
        (profileBindBody tlsExporter client.session.digest) with
    | (session, .error err) => (client.withSession session).failLockedV1 err
    | (session, .ok encoded) =>
      ({ client.withSession session with bindStarted := true }, .record encoded)

def acceptEngineReady (aead : AEAD) (client : ProcessClientRecordEndpointV1)
    (encoded : List UInt8) : ProcessClientRecordEndpointV1 × RecordReply :=
  if client.closed || !client.bindStarted || client.bound then
    client.failLockedV1 .secureChannel
  else
    match client.session.openLockedV1 aead applicationDirectionRelayV1 encoded
        Wire.typeEngineReady 0 processControlSlotV1 with
    | (session, .error err) => (client.withSession session).failLockedV1 err
    | (session, .ok (body, capability)) =>
      if body ≠ processReadyMagicV1 then
        (client.withSession (session.discard capability)).failLockedV1 .recordInvalid
      else
        match session.commit capability with
        | (session, .error err) => (client.withSession session).failLockedV1 err
        | (session, .ok ()) =>
          ({ client.withSession session.countReceived with bound := true }, .done)

/-- `Seal`. -/
def sealData (aead : AEAD) (client : ProcessClientRecordEndpointV1) (slot : UInt16)
    (plaintext : List UInt8) : ProcessClientRecordEndpointV1 × RecordReply :=
  if client.closed || !client.bound || slot = 0 || slot = processControlSlotV1 ||
      plaintext.isEmpty || client.maxFrame.toNat < plaintext.length ||
      client.maxStreams ≤ UInt32.ofNat client.outstanding.entries.length then
    client.failLockedV1 .secureChannel
  else if client.nextOp.toNat = 2 ^ 64 - 1 then client.failLockedV1 .sessionMessageLimit
  else
    let nextOp := client.nextOp + 1
    let next := { client with nextOp := nextOp }
    let id := operationIDV1 client.session.codec.codec.context.transcriptHash
      controlDirectionClientV1 0 slot nextOp
    match client.session.sealLockedV1 aead Wire.typeReliableData slot.toUInt32 slot
        (processDataBody id plaintext) with
    | (session, .error err) => (next.withSession session).failLockedV1 err
    | (session, .ok encoded) =>
      ({ next.withSession session with
          outstanding := client.outstanding.insert id slot }, .record encoded)

/-- Mathlib's instances for finite types would look at all slots. -/
instance (priority := 1100) decidableForallSlot (p : UInt16 → Prop) [DecidablePred p]
    (found : Option UInt16) : Decidable (∀ slot ∈ found, p slot) :=
  found.decidableForallMem

/-- `AcceptAck`, which does not compare `recvCount` with the limit. -/
def acceptAck (aead : AEAD) (client : ProcessClientRecordEndpointV1)
    (encoded : List UInt8) : ProcessClientRecordEndpointV1 × RecordReply :=
  if client.closed || !client.bound then client.failLockedV1 .secureChannel
  else
    match decodeProcessRecordFrameV1 encoded Wire.typeReliableData client.session.digest
        applicationDirectionRelayV1 client.session.codec.codec.context.maxEnvelopeBytes with
    | .error err => client.failLockedV1 err
    | .ok (frame, envelope) =>
      match client.session.authenticate aead envelope with
      | (session, .error err) => (client.withSession session).failLockedV1 err
      | (session, .ok (body, capability)) =>
        match parseProcessAckV1 body with
        | .error err =>
          (client.withSession (session.discard capability)).failLockedV1 err
        | .ok (id, count) =>
          if (∀ slot ∈ client.outstanding.lookup id,
              frame.streamID ≠ slot.toUInt32 ∨ envelope.slot ≠ slot) ∨ count = 0 then
            (client.withSession (session.discard capability)).failLockedV1 .operationAckInvalid
          else
            match session.commit capability with
            | (session, .error err) => (client.withSession session).failLockedV1 err
            | (session, .ok ()) =>
              ({ client.withSession session.countReceived with
                  outstanding := client.outstanding.erase id }, .done)

/-- `CloseRecord`, which closes the endpoint whether sealing succeeds or not. -/
def closeRecord (aead : AEAD) (client : ProcessClientRecordEndpointV1) :
    ProcessClientRecordEndpointV1 × RecordReply :=
  if client.closed || !client.bound then client.failLockedV1 .secureChannel
  else
    match client.session.sealLockedV1 aead Wire.typeClose 0 processControlSlotV1
        processCloseBody with
    | (session, .error err) => ((client.withSession session).closeLockedV1, .failed err)
    | (session, .ok encoded) =>
      ((client.withSession session).closeLockedV1, .record encoded)

end ProcessClientRecordEndpointV1

inductive ClientRecordCall where
  | profileBind (tlsExporter : FixedBytes 32)
  | acceptEngineReady (encoded : List UInt8)
  | sealData (slot : UInt16) (plaintext : List UInt8)
  | acceptAck (encoded : List UInt8)
  | closeRecord
  | abort

/-- One call of a client endpoint. -/
def ProcessClientRecordEndpointV1.step (aead : AEAD) (client : ProcessClientRecordEndpointV1) :
    ClientRecordCall → ProcessClientRecordEndpointV1 × RecordReply
  | .profileBind tlsExporter => client.profileBind aead tlsExporter
  | .acceptEngineReady encoded => client.acceptEngineReady aead encoded
  | .sealData slot plaintext => client.sealData aead slot plaintext
  | .acceptAck encoded => client.acceptAck aead encoded
  | .closeRecord => client.closeRecord aead
  | .abort => (client.closeLockedV1, .done)

/-! ## The relay -/

structure ProcessRelayDeliveryV1 where
  id : FixedBytes 32
  slot : UInt16
  done : Bool

/-- The relay. Deliveries which were handed out are kept in a list, in which a delivery
is a position. -/
structure ProcessRelayRecordEndpointV1 where
  session : RecordSession
  bound : Bool
  closed : Bool
  completed : UInt64
  seen : Finset (FixedBytes 32)
  deliveries : List ProcessRelayDeliveryV1
  pending : Option ℕ

/-- `NewProcessRelayRecordEndpointV1` around the codec of the role. -/
def newProcessRelayRecordEndpointV1 (digest : FixedBytes 32) (codec : EnvelopeCodecV1)
    (maxMessages : ℕ) : ProcessRelayRecordEndpointV1 where
  session := .init digest codec maxMessages
  bound := false
  closed := false
  completed := 0
  seen := ∅
  deliveries := []
  pending := none

namespace ProcessRelayRecordEndpointV1

variable (relay : ProcessRelayRecordEndpointV1)

/-- Mark a delivery as done. -/
def finishDelivery (address : ℕ) :
    ProcessRelayRecordEndpointV1 :=
  { relay with
    pending := none
    deliveries := relay.deliveries.modify address fun delivery =>
      { delivery with done := true } }

/-- `closeLockedV1`. Codec, context and digest are not read after it. -/
def closeLockedV1 : ProcessRelayRecordEndpointV1 :=
  let closed := { relay with closed := true, bound := false, seen := ∅ }
  match relay.pending with
  | none => closed
  | some address => closed.finishDelivery address

def failLockedV1 (err : RuntimeError) :
    ProcessRelayRecordEndpointV1 × RecordReply :=
  (relay.closeLockedV1, .failed (normalizeProcessRecordErrorV1 err))

/-- Continue with another session. -/
def withSession (session : RecordSession) :
    ProcessRelayRecordEndpointV1 :=
  { relay with session := session }

def acceptProfileBind (aead : AEAD) (relay : ProcessRelayRecordEndpointV1)
    (encoded : List UInt8) (tlsExporter : FixedBytes 32) :
    ProcessRelayRecordEndpointV1 × RecordReply :=
  if relay.closed || relay.bound || tlsExporter = fixedBytes 32 [] then
    relay.failLockedV1 .secureChannel
  else
    match relay.session.openLockedV1 aead applicationDirectionClientV1 encoded
        Wire.typeProfileBind 0 processControlSlotV1 with
    | (session, .error err) => (relay.withSession session).failLockedV1 err
    | (session, .ok (body, capability)) =>
      if body ≠ profileBindBody tlsExporter relay.session.digest then
        (relay.withSession (session.discard capability)).failLockedV1 .recordInvalid
      else
        match session.commit capability with
        | (session, .error err) => (relay.withSession session).failLockedV1 err
        | (session, .ok ()) =>
          match session.countReceived.sealLockedV1 aead Wire.typeEngineReady 0
              processControlSlotV1 processReadyMagicV1 with
          | (session, .error err) => (relay.withSession session).failLockedV1 err
          | (session, .ok response) =>
            ({ relay.withSession session with bound := true }, .record response)

/-- `Open`, which does not compare `recvCount` with the limit. -/
def openRecord (aead : AEAD) (relay : ProcessRelayRecordEndpointV1)
    (encoded : List UInt8) : ProcessRelayRecordEndpointV1 × RecordReply :=
  if relay.closed || !relay.bound || relay.pending.isSome then
    relay.failLockedV1 .secureChannel
  else
    match decodeProcessRecordFrameV1 encoded Wire.typeReliableData relay.session.digest
        applicationDirectionClientV1 relay.session.codec.codec.context.maxEnvelopeBytes with
    | .error err => relay.failLockedV1 err
    | .ok (frame, envelope) =>
      match relay.session.authenticate aead envelope with
      | (session, .error err) => (relay.withSession session).failLockedV1 err
      | (session, .ok (body, capability)) =>
        let rejected := relay.withSession (session.discard capability)
        match parseProcessDataV1 body with
        | .error _ => rejected.failLockedV1 .recordInvalid
        | .ok (id, payload) =>
          if frame.streamID ≠ envelope.slot.toUInt32 ∨ envelope.slot = 0 ∨
              envelope.slot = processControlSlotV1 then
            rejected.failLockedV1 .recordInvalid
          else if id ∈ relay.seen then
            rejected.failLockedV1 (.security .replayDuplicate)
          else
            match session.commit capability with
            | (session, .error err) => (relay.withSession session).failLockedV1 err
            | (session, .ok ()) =>
              let address := relay.deliveries.length
              ({ relay.withSession session.countReceived with
                  seen := insert id relay.seen
                  deliveries := relay.deliveries ++ [⟨id, envelope.slot, false⟩]
                  pending := some address },
                .delivery payload address)

/-- `Commit` of the delivery at an address. -/
def commitDelivery (aead : AEAD) (relay : ProcessRelayRecordEndpointV1) (address : ℕ) :
    ProcessRelayRecordEndpointV1 × RecordReply :=
  match relay.deliveries[address]? with
  | none => (relay, .failed .secureChannel)
  | some delivery =>
    if relay.closed || delivery.done || relay.pending ≠ some address then
      (relay, .failed .secureChannel)
    else
      let completed := relay.completed + 1
      let next := { relay.finishDelivery address with completed := completed }
      match relay.session.sealLockedV1 aead Wire.typeReliableData delivery.slot.toUInt32
          delivery.slot (processAckBody delivery.id completed) with
      | (session, .error err) => (next.withSession session).failLockedV1 err
      | (session, .ok encoded) => (next.withSession session, .record encoded)

/-- `Reject` of the delivery at an address. -/
def rejectDelivery (address : ℕ) :
    ProcessRelayRecordEndpointV1 × RecordReply :=
  match relay.deliveries[address]? with
  | none => (relay, .done)
  | some delivery =>
    if delivery.done || relay.pending ≠ some address then (relay, .done)
    else ((relay.finishDelivery address).closeLockedV1, .done)

/-- `AcceptClose`, which closes the endpoint and does not count the record. -/
def acceptClose (aead : AEAD) (relay : ProcessRelayRecordEndpointV1)
    (encoded : List UInt8) : ProcessRelayRecordEndpointV1 × RecordReply :=
  if relay.closed || !relay.bound then relay.failLockedV1 .secureChannel
  else
    match relay.session.openLockedV1 aead applicationDirectionClientV1 encoded
        Wire.typeClose 0 processControlSlotV1 with
    | (session, .error err) => (relay.withSession session).failLockedV1 err
    | (session, .ok (body, capability)) =>
      if body ≠ processCloseBody then
        (relay.withSession (session.discard capability)).failLockedV1 .recordInvalid
      else
        match session.commit capability with
        | (session, .error err) => (relay.withSession session).failLockedV1 err
        | (session, .ok ()) => ((relay.withSession session).closeLockedV1, .done)

end ProcessRelayRecordEndpointV1

inductive RelayRecordCall where
  | acceptProfileBind (encoded : List UInt8) (tlsExporter : FixedBytes 32)
  | openRecord (encoded : List UInt8)
  | commitDelivery (delivery : ℕ)
  | rejectDelivery (delivery : ℕ)
  | acceptClose (encoded : List UInt8)
  | abort

/-- One call of a relay endpoint or of a delivery it handed out. -/
def ProcessRelayRecordEndpointV1.step (aead : AEAD) (relay : ProcessRelayRecordEndpointV1) :
    RelayRecordCall → ProcessRelayRecordEndpointV1 × RecordReply
  | .acceptProfileBind encoded tlsExporter =>
    relay.acceptProfileBind aead encoded tlsExporter
  | .openRecord encoded => relay.openRecord aead encoded
  | .commitDelivery delivery => relay.commitDelivery aead delivery
  | .rejectDelivery delivery => relay.rejectDelivery delivery
  | .acceptClose encoded => relay.acceptClose aead encoded
  | .abort => (relay.closeLockedV1, .done)

end Kurdistan.Runtime
