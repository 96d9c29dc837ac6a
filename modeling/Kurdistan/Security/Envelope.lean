import Kurdistan.Security.Replay

/-!
# Secure envelopes

The strict envelope codec of one role and one key epoch. Sealing draws a nonce
from the role's outbound owner and binds the record to the authenticated
context through the additional data. Opening is split in two: authentication
recomputes nonce and additional data, consults the replay window and decrypts;
the commit advances the window.

The block cipher is a parameter. A borrowed destination, as used by the
`Into` variants, enters only through its length and through the check that it
does not overlap the input.
-/

namespace Kurdistan.Security

open Support

/-- An authenticated cipher with twelve-byte nonces, keyed per call. The
arguments are key, nonce, text and additional data. -/
structure AEAD where
  encrypt : List UInt8 → FixedBytes 12 → List UInt8 → List UInt8 → List UInt8
  decrypt : List UInt8 → FixedBytes 12 → List UInt8 → List UInt8 → Option (List UInt8)

/-- The tag length of AES-GCM. -/
def aeadOverhead : ℕ := 16

/-- What a correct cipher guarantees: decryption inverts encryption under the
same key, nonce and additional data, and a sealed text is longer by the tag. -/
structure AEAD.Correct (aead : AEAD) : Prop where
  decrypt_encrypt : ∀ key nonce plaintext aad,
    aead.decrypt key nonce (aead.encrypt key nonce plaintext aad) aad = some plaintext
  length_encrypt : ∀ key nonce plaintext aad,
    (aead.encrypt key nonce plaintext aad).length = plaintext.length + aeadOverhead

def recordClassApplicationV1 : UInt16 := 1

def recordClassSyntheticV1 : UInt16 := 2

structure EnvelopeContextV1 where
  effectivePolicy : EffectiveSecurityPolicy
  maxEnvelopeBytes : UInt32
  effectivePolicyHash : FixedBytes 32
  transcriptHash : FixedBytes 32
  capabilityHash : FixedBytes 32
  profileHash : FixedBytes 32
  framingHash : FixedBytes 32
  carrierContextHash : FixedBytes 32

structure EnvelopeRecordV1 where
  recordType : UInt16
  epoch : UInt64
  direction : UInt16
  slot : UInt16
  sequence : UInt64
  sealedLength : UInt32
  ciphertext : List UInt8

/-- A caller's destination slice, with the address of the input it must not
overlap. -/
structure BorrowedDestinationV1 where
  address : ℕ
  length : ℕ
  inputAddress : ℕ

/-- The replay windows of a codec: the map of the unbounded codec, or the
arena of the bounded one. -/
inductive ReplayStoreV1 (domains : ℕ) where
  | replay (windows : UInt16 → Option ReplayWindowStateV1)
  | windows (arena : Fin domains → ReplayWindowStateV1)

/-- A role codec. `outbound` and `inbound` are the keys of its two ciphers. -/
structure EnvelopeCodecV1 where
  context : EnvelopeContextV1
  epoch : UInt64
  outbound : List UInt8
  inbound : List UInt8
  nonces : NonceOwnerV1
  replay : ReplayStoreV1 (nonceDomainsV3 context.effectivePolicy.nonceMode)

/-! ## Construction -/

def validateEnvelopePolicyV1 (p : EffectiveSecurityPolicy) :
    Except SecurityError Unit := do
  ensure (p.aeadSuite = .known .aes256GCM ∧
    validateNonceModeV1 p.nonceMode = .ok () ∧
    validateReplayPolicyV1 p.replayPolicy p.replayWindowSize = .ok ())
    .policyInvalid
  ensure (p.secureEnvelopeMode.isKnown = true) .policyInvalid

def zeroHashV1 (value : FixedBytes 32) : Bool :=
  value.toList == List.replicate 32 0

def validateEnvelopeContextV1 (context : EnvelopeContextV1) :
    Except SecurityError Unit := do
  validateEnvelopePolicyV1 context.effectivePolicy
  ensure
    (context.effectivePolicy.secureEnvelopeMode =
        .known .fullContextBoundEnvelope →
      ¬ (zeroHashV1 context.capabilityHash ∨ zeroHashV1 context.profileHash ∨
        zeroHashV1 context.framingHash ∨ zeroHashV1 context.carrierContextHash))
    .envelopeContextInvalid
  ensure
    (¬ (context.maxEnvelopeBytes < 16 ∨ zeroHashV1 context.effectivePolicyHash ∨
      zeroHashV1 context.transcriptHash))
    .envelopeContextInvalid

/-- The admission checks of the bounded codec on the policy texts. The size
in bytes, which the source also returns here, is not used by the codec. -/
def envelopeOwnedBytesV3 (context : EnvelopeContextV1) :
    Except SecurityError Unit := do
  validateEnvelopeContextV1 context
  ensure (∀ text ∈ context.effectivePolicy.texts, text.utf8ByteSize ≤ 256) .invalidConfig
  ensureAll (fun values : List String =>
      ensure (values.length ≤ 32 ∧ ∀ value ∈ values, value.utf8ByteSize ≤ 96) .invalidConfig)
    [context.effectivePolicy.clientMandatoryCapabilities,
      context.effectivePolicy.serverMandatoryCapabilities,
      context.effectivePolicy.selectedCapabilities]

def newAEADV1 (key : List UInt8) : Except SecurityError (List UInt8) := do
  ensure (key.length = 32) .aeadInvalid
  .ok key

variable (schedule : KeySchedule)

def newEnvelopeCodecBackendV1
    (context : EnvelopeContextV1) (owner : NonceOwnerV1)
    (outboundKey inboundKey : List UInt8) (bounded : Bool) :
    Except SecurityError EnvelopeCodecV1 := do
  validateEnvelopeContextV1 context
  ensure (schedule.epoch = schedule.boundEpoch ∧ schedule.exactV1 = true) .nonceMismatch
  let outbound ← newAEADV1 outboundKey
  let inbound ← newAEADV1 inboundKey
  .ok {
    context
    epoch := schedule.epoch
    outbound
    inbound
    nonces := owner
    replay :=
      if bounded then .windows (newReplayArenaV3 context.effectivePolicy)
      else .replay fun _ => none }

def newRelayEnvelopeBackendV1
    (context : EnvelopeContextV1) (bounded : Bool) :
    Except SecurityError EnvelopeCodecV1 := do
  validateEnvelopeContextV1 context
  let owner ← newRelayNonceOwnerV1 schedule context.effectivePolicy.nonceMode bounded
  newEnvelopeCodecBackendV1 schedule context owner schedule.serverWriteKey
    schedule.clientWriteKey bounded

def newRoleEnvelopeV1 (context : EnvelopeContextV1)
    (client bounded : Bool) : Except SecurityError EnvelopeCodecV1 := do
  validateEnvelopeContextV1 context
  whenever bounded (envelopeOwnedBytesV3 context)
  if client then do
    let owner ← newClientNonceOwnerV1 schedule context.effectivePolicy.nonceMode bounded
    newEnvelopeCodecBackendV1 schedule context owner schedule.clientWriteKey
      schedule.serverWriteKey bounded
  else
    newRelayEnvelopeBackendV1 schedule context bounded

/-! ## Additional data -/

namespace EnvelopeCodecV1

variable (c : EnvelopeCodecV1)

def expectedClassV1 : Except SecurityError UInt16 :=
  match c.context.effectivePolicy.secureEnvelopeMode with
  | .known .metadataAuthenticated => .ok recordClassApplicationV1
  | .known .fullContextBoundEnvelope => .ok recordClassApplicationV1
  | .known .syntheticAEADTest => .ok recordClassSyntheticV1
  | .other _ => .error .policyInvalid

/-- The class operand of the additional data; the error is ignored there. -/
def boundClassV1 : UInt16 :=
  c.expectedClassV1.toOption.getD 0

/-- The four context hashes which only the full context mode binds. -/
def boundContextV1 : List UInt8 :=
  if c.context.effectivePolicy.secureEnvelopeMode = .known .fullContextBoundEnvelope then
    c.context.capabilityHash.toList ++ c.context.profileHash.toList ++
      c.context.framingHash.toList ++ c.context.carrierContextHash.toList
  else []

/-- The one writer of application additional data, used by the allocating and
by the borrowing calls. -/
def writeApplicationAADV1 (record : EnvelopeRecordV1) : List UInt8 :=
  putUint16 1 ++ putUint16 1 ++ c.context.effectivePolicyHash.toList ++
    c.context.transcriptHash.toList ++ putUint16 c.boundClassV1 ++
    putUint64 record.epoch ++ putUint16 record.direction ++
    putUint16 record.slot ++ putUint64 record.sequence ++
    putUint32 record.sealedLength ++ c.boundContextV1

def aadV1 (record : EnvelopeRecordV1) (recordAAD : List UInt8) : List UInt8 :=
  if record.recordType = 1 then c.writeApplicationAADV1 record
  else
    asciiBytes "kurdistan/envelope/v1" ++ putUint16 record.recordType ++
      putUint64 record.epoch ++ putUint16 record.direction ++
      putUint16 record.slot ++ putUint64 record.sequence ++
      putUint16 c.boundClassV1 ++ c.context.effectivePolicyHash.toList ++
      c.context.transcriptHash.toList ++ c.boundContextV1 ++ recordAAD

end EnvelopeCodecV1

/-! ## Sealing -/

def envelopeSlicesOverlapV3 (addressA lengthA addressB lengthB : ℕ) : Bool :=
  if lengthA = 0 ∨ lengthB = 0 then false
  else if addressA ≤ addressB then decide (addressB - addressA < lengthA)
  else decide (addressA - addressB < lengthB)

/-- Record type one belongs to application records and to no control record. -/
def recordTypeAllowedV1 (recordClass : NonceRecordClassV1) (recordType : UInt16) : Bool :=
  match recordClass with
  | .nonceApplicationRecordV1 => recordType == 1
  | .nonceControlRecordV1 => recordType != 1

/-- The slot handed to the nonce owner: control calls always use slot zero. -/
def nonceSlotV1 (recordClass : NonceRecordClassV1) (slot : UInt16) : UInt16 :=
  match recordClass with
  | .nonceControlRecordV1 => 0
  | .nonceApplicationRecordV1 => slot

/-- The extra checks of a borrowing call: the destination holds the output and
does not overlap the input. -/
def checkDestinationV1 (dst : Option BorrowedDestinationV1)
    (outputLength inputLength : ℕ) : Except SecurityError Unit :=
  match dst with
  | none => .ok ()
  | some d =>
    ensure (outputLength ≤ d.length ∧
      envelopeSlicesOverlapV3 d.address d.length d.inputAddress inputLength = false) .aeadInvalid

namespace EnvelopeCodecV1

variable (c : EnvelopeCodecV1)

def sealChecksV1 (dst : Option BorrowedDestinationV1)
    (recordClass : NonceRecordClassV1) (recordType slot : UInt16)
    (plaintext : List UInt8) : Except SecurityError Unit := do
  ensure (recordType ≠ 0) .nonceMismatch
  ensure (recordTypeAllowedV1 recordClass recordType = true) .nonceMismatch
  ensure (plaintext.length + aeadOverhead ≤ c.context.maxEnvelopeBytes.toNat) .aeadInvalid
  whenever dst.isSome (validateNonceSlotV1 recordClass slot)
  checkDestinationV1 dst (plaintext.length + aeadOverhead) plaintext.length

/-- The record around an allocation, before its ciphertext is known. -/
def sealedRecordV1 (recordType : UInt16) (allocation : NonceAllocationV1)
    (plaintext : List UInt8) : EnvelopeRecordV1 where
  recordType := recordType
  epoch := allocation.epoch
  direction := allocation.direction
  slot := allocation.slot
  sequence := allocation.sequence
  sealedLength := UInt32.ofNat (plaintext.length + aeadOverhead)
  ciphertext := []

def sealDestinationV1 (aead : AEAD) (c : EnvelopeCodecV1)
    (dst : Option BorrowedDestinationV1) (recordClass : NonceRecordClassV1)
    (recordType slot : UInt16) (plaintext recordAAD : List UInt8) :
    EnvelopeCodecV1 × Except SecurityError EnvelopeRecordV1 :=
  match c.sealChecksV1 dst recordClass recordType slot plaintext with
  | .error err => (c, .error err)
  | .ok () =>
    let allocated := c.nonces.outbound.allocateV1 recordClass (nonceSlotV1 recordClass slot)
    -- From here on the allocation is committed, whatever follows.
    let next := { c with nonces := { c.nonces with outbound := allocated.1 } }
    match allocated.2 with
    | .error err => (next, .error err)
    | .ok allocation =>
      let record := sealedRecordV1 recordType allocation plaintext
      let aad :=
        if dst.isSome then c.writeApplicationAADV1 record
        else c.aadV1 record recordAAD
      (next, .ok { record with
        ciphertext := aead.encrypt c.outbound allocation.nonce plaintext aad })

def sealControlV1 (aead : AEAD) (c : EnvelopeCodecV1) (recordType : UInt16)
    (plaintext recordAAD : List UInt8) :
    EnvelopeCodecV1 × Except SecurityError EnvelopeRecordV1 :=
  c.sealDestinationV1 aead none .nonceControlRecordV1 recordType 0 plaintext recordAAD

def sealApplicationV1 (aead : AEAD) (c : EnvelopeCodecV1) (slot : UInt16) (plaintext : List UInt8) :
    EnvelopeCodecV1 × Except SecurityError EnvelopeRecordV1 :=
  c.sealDestinationV1 aead none .nonceApplicationRecordV1 1 slot plaintext []

def sealApplicationIntoV1 (aead : AEAD) (c : EnvelopeCodecV1)
    (dst : BorrowedDestinationV1) (slot : UInt16) (plaintext : List UInt8) :
    EnvelopeCodecV1 × Except SecurityError EnvelopeRecordV1 :=
  c.sealDestinationV1 aead (some dst) .nonceApplicationRecordV1 1 slot plaintext []

/-! ## Authentication -/

/-- The checks before the replay window is consulted; the result is the nonce
which the receiver expects. -/
def authenticateChecksV1
    (dst : Option BorrowedDestinationV1) (recordClass : NonceRecordClassV1)
    (record : EnvelopeRecordV1) : Except SecurityError (FixedBytes 12) := do
  ensure (record.recordType ≠ 0 ∧
    record.direction = c.nonces.inbound.direction ∧ record.epoch = c.epoch)
    .nonceMismatch
  ensure (recordTypeAllowedV1 recordClass record.recordType = true) .nonceMismatch
  validateNonceSlotV1 recordClass record.slot
  ensure (aeadOverhead ≤ record.ciphertext.length ∧
    record.ciphertext.length ≤ c.context.maxEnvelopeBytes.toNat ∧
    record.sealedLength.toNat = record.ciphertext.length) .aeadInvalid
  checkDestinationV1 dst (record.ciphertext.length - aeadOverhead) record.ciphertext.length
  c.nonces.inbound.expectedV1 recordClass (nonceSlotV1 recordClass record.slot) record.sequence

def replayKeyV1 (slot : UInt16) : UInt16 :=
  if c.context.effectivePolicy.nonceMode = .known .streamPartitionedCounter then
    slot
  else 0

theorem replayKeyV1_lt (slot : UInt16) :
    (c.replayKeyV1 slot).toNat < nonceDomainsV3 c.context.effectivePolicy.nonceMode := by
  have hslot := slot.toNat_lt
  by_cases hmode : c.context.effectivePolicy.nonceMode = .known .streamPartitionedCounter
  · simpa [replayKeyV1, nonceDomainsV3, hmode] using hslot
  · simp [replayKeyV1, nonceDomainsV3, hmode]

/-- The arena index of a slot; the bound says that the access never fails. -/
def replayDomain (slot : UInt16) :
    Fin (nonceDomainsV3 c.context.effectivePolicy.nonceMode) :=
  ⟨(c.replayKeyV1 slot).toNat, c.replayKeyV1_lt slot⟩

/-- The stored window of a slot, absent until the first commit of an unbounded
codec. -/
def loadReplay (slot : UInt16) : Option ReplayWindowStateV1 :=
  match c.replay with
  | .replay windows => windows (c.replayKeyV1 slot)
  | .windows arena => some (arena (c.replayDomain slot))

def storeReplay (slot : UInt16)
    (window : ReplayWindowStateV1) : EnvelopeCodecV1 :=
  { c with
    replay :=
      match c.replay with
      | .replay windows =>
        .replay (Function.update windows (c.replayKeyV1 slot) (some window))
      | .windows arena =>
        .windows (Function.update arena (c.replayDomain slot) window) }

/-- A window no record of the slot has been committed to. -/
def newSlotWindowV1 : Except SecurityError ReplayWindowStateV1 :=
  newReplayWindowV1 c.context.effectivePolicy.replayPolicy
    c.context.effectivePolicy.replayWindowSize

end EnvelopeCodecV1

/-- What the replay precheck returns: the stored window of a slot, by
reference, or a fresh window of the caller's own. -/
inductive ReplayHandleV1 where
  | stored (slot : UInt16)
  | fresh (window : ReplayWindowStateV1)

namespace EnvelopeCodecV1

variable (c : EnvelopeCodecV1)

def replayPrecheckV1 (slot : UInt16) : Except SecurityError ReplayHandleV1 :=
  match c.loadReplay slot with
  | some _ => .ok (.stored slot)
  | none => do
    let window ← c.newSlotWindowV1
    .ok (.fresh window)

/-- `Plausible` through a handle; a missing window has no policy. -/
def handlePlausibleV1 (handle : ReplayHandleV1)
    (sequence : UInt64) : Except SecurityError Unit :=
  match handle with
  | .fresh window => window.plausibleV1 sequence
  | .stored slot =>
    match c.loadReplay slot with
    | some window => window.plausibleV1 sequence
    | none => .error .policyInvalid

/-- Decrypt with the recomputed nonce and additional data. -/
def openRecordV1 (aead : AEAD) (c : EnvelopeCodecV1)
    (dst : Option BorrowedDestinationV1) (record : EnvelopeRecordV1)
    (recordAAD : List UInt8) (expected : FixedBytes 12) :
    Except SecurityError (List UInt8) :=
  let aad :=
    if dst.isSome then c.writeApplicationAADV1 record
    else c.aadV1 record recordAAD
  match aead.decrypt c.inbound expected record.ciphertext aad with
  | none => .error .authenticationFailed
  | some plaintext => .ok plaintext

/-- Authentication without the capability it hands out. It reads the codec
and changes nothing. -/
def authenticateDestinationV1 (aead : AEAD) (c : EnvelopeCodecV1)
    (dst : Option BorrowedDestinationV1) (recordClass : NonceRecordClassV1)
    (record : EnvelopeRecordV1) (recordAAD : List UInt8) :
    Except SecurityError (List UInt8) := do
  let expected ← c.authenticateChecksV1 dst recordClass record
  let handle ← c.replayPrecheckV1 record.slot
  c.handlePlausibleV1 handle record.sequence
  c.openRecordV1 aead dst record recordAAD expected

/-! ## Commits -/

def commitReplayV1 (slot : UInt16) (sequence : UInt64) :
    EnvelopeCodecV1 × Except SecurityError Unit :=
  match c.replay with
  | .windows arena =>
    let committed := (arena (c.replayDomain slot)).commitAuthenticated sequence
    (c.storeReplay slot committed.1, committed.2)
  | .replay windows =>
    let loaded : Except SecurityError ReplayWindowStateV1 :=
      match windows (c.replayKeyV1 slot) with
      | some window => .ok window
      | none => c.newSlotWindowV1
    match loaded with
    | .error err => (c, .error err)
    | .ok window =>
      -- A window created here is stored only when the commit succeeds.
      match window.commitAuthenticated sequence with
      | (_, .error err) => (c, .error err)
      | (committed, .ok ()) => (c.storeReplay slot committed, .ok ())

end EnvelopeCodecV1

end Kurdistan.Security
