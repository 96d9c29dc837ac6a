import Mathlib.Logic.Function.Basic
import Kurdistan.Security.KeySchedule
import Kurdistan.Support.Runs

/-!
# Direction owners of AEAD nonces

One `NonceDirectionStateV1` owns the nonces of one key epoch and direction.
It keeps a 64-bit counter for every sequence domain: a single domain, or one
domain per stream slot in the partitioned mode. An allocation reads the
counter, marks the domain exhausted when it hands out the last sequence, and
mixes slot and sequence into the twelve bytes of the direction's base.

The unbounded owner keeps its counters in a map, the bounded owner in a slice
with one entry per domain.
-/

namespace Kurdistan.Security

open Support

/-- Largest 64-bit sequence, `math.MaxUint64`. -/
def maxUint64 : UInt64 := 0xffffffffffffffff

def nonceBytesV1 : ℕ := 12

def directionClientToRelayV1 : UInt16 := 1

def directionRelayToClientV1 : UInt16 := 2

inductive NonceRecordClassV1 where
  | nonceControlRecordV1
  | nonceApplicationRecordV1
  deriving DecidableEq

structure NonceAllocationV1 where
  nonce : FixedBytes 12
  sequence : UInt64
  epoch : UInt64
  direction : UInt16
  slot : UInt16

structure NonceDirectionConfigV1 where
  base : FixedBytes 12
  mode : Choice NonceMode
  epoch : UInt64
  direction : UInt16

structure NonceSequenceStateV1 where
  next : UInt64
  exhausted : Bool

/-- The zero value, which a Go map returns for a missing key. -/
def NonceSequenceStateV1.zero : NonceSequenceStateV1 :=
  { next := 0, exhausted := false }

/-- Number of sequence domains of a mode. -/
def nonceDomainsV3 (mode : Choice NonceMode) : ℕ :=
  if mode = .known .streamPartitionedCounter then 65536 else 1

/-- The counters of an owner: the map of the unbounded owner, or the slice of
the bounded owner with its length in the type. -/
inductive NonceSequencesV1 (domains : ℕ) where
  | sequences (entries : UInt16 → NonceSequenceStateV1)
  | fixed (entries : Fin domains → NonceSequenceStateV1)

structure NonceDirectionStateV1 where
  config : NonceDirectionConfigV1
  counters : NonceSequencesV1 (nonceDomainsV3 config.mode)

/-! ## Validation -/

def validateDirectionV1 (direction : UInt16) : Except SecurityError Unit :=
  ensure (direction = directionClientToRelayV1 ∨
    direction = directionRelayToClientV1) .nonceMismatch

def validateNonceModeV1 : Choice NonceMode → Except SecurityError Unit
  | .known _ => .ok ()
  | .other _ => .error .policyInvalid

/-- Control records use slot zero and application records any other slot. -/
def validateNonceSlotV1 (recordClass : NonceRecordClassV1) (slot : UInt16) :
    Except SecurityError Unit :=
  match recordClass with
  | .nonceControlRecordV1 => ensure (slot = 0) .nonceMismatch
  | .nonceApplicationRecordV1 => ensure (slot ≠ 0) .nonceMismatch

variable (c : NonceDirectionConfigV1)

def NonceDirectionConfigV1.validateV1 :
    Except SecurityError Unit := do
  validateDirectionV1 c.direction
  validateNonceModeV1 c.mode

/-! ## Derivation -/

/-- The twelve bytes of a nonce in each of the supported modes. -/
def nonceLayoutV1 (mode : NonceMode) (base : FixedBytes 12) (slot : UInt16)
    (sequence : UInt64) : List UInt8 :=
  let encoded := putUint64 sequence
  match mode with
  | .counterXORBase =>
    base.toList.take 4 ++ xorBytes (base.toList.drop 4) encoded
  | .counterAppendBase =>
    encoded ++ base.toList.take 4
  | .directionalCounter =>
    base.toList.take 4 ++ encoded
  | .streamPartitionedCounter =>
    base.toList.take 2 ++ putUint16 slot ++ xorBytes (base.toList.drop 4) encoded

theorem length_nonceLayoutV1 (mode : NonceMode) (base : FixedBytes 12)
    (slot : UInt16) (sequence : UInt64) : (nonceLayoutV1 mode base slot sequence).length = 12 := by
  cases mode <;> simp [nonceLayoutV1]

def deriveNonceV1 (config : NonceDirectionConfigV1) (slot : UInt16)
    (sequence : UInt64) : Except SecurityError (FixedBytes 12) := do
  config.validateV1
  match config.mode with
  | .known mode =>
    .ok ⟨nonceLayoutV1 mode config.base slot sequence,
      length_nonceLayoutV1 mode config.base slot sequence⟩
  | .other _ => .error .policyInvalid

/-- The nonce the receiving side expects for a record. -/
def NonceDirectionConfigV1.expectedV1
    (recordClass : NonceRecordClassV1) (slot : UInt16) (sequence : UInt64) :
    Except SecurityError (FixedBytes 12) := do
  c.validateV1
  validateNonceSlotV1 recordClass slot
  deriveNonceV1 c slot sequence

/-! ## Construction -/

def newNonceDirectionConfigV1 (epoch : UInt64) (direction : UInt16)
    (base : List UInt8) (mode : Choice NonceMode) :
    Except SecurityError NonceDirectionConfigV1 := do
  validateDirectionV1 direction
  ensure (base.length = nonceBytesV1) .nonceMismatch
  validateNonceModeV1 mode
  .ok { base := fixedBytes 12 base, mode, epoch, direction }

def newNonceDirectionBackendV1 (epoch : UInt64) (direction : UInt16)
    (base : List UInt8) (mode : Choice NonceMode) (bounded : Bool) :
    Except SecurityError NonceDirectionStateV1 := do
  let config ← newNonceDirectionConfigV1 epoch direction base mode
  .ok {
    config
    counters :=
      if bounded then .fixed fun _ => .zero else .sequences fun _ => .zero }

/-! ## Sequence domains -/

/-- The domain whose counter a slot uses. -/
def NonceDirectionConfigV1.stateSlot (slot : UInt16) : UInt16 :=
  if c.mode = .known .streamPartitionedCounter then slot else 0

theorem NonceDirectionConfigV1.stateSlot_lt
    (slot : UInt16) : (c.stateSlot slot).toNat < nonceDomainsV3 c.mode := by
  have hslot := slot.toNat_lt
  by_cases hmode : c.mode = .known .streamPartitionedCounter
  · simpa [stateSlot, nonceDomainsV3, hmode] using hslot
  · simp [stateSlot, nonceDomainsV3, hmode]

namespace NonceDirectionStateV1

/-- The index of a slot's domain in the bounded slice; the bound says that the
slice access never fails. -/
def domain (s : NonceDirectionStateV1) (slot : UInt16) : Fin (nonceDomainsV3 s.config.mode) :=
  ⟨(s.config.stateSlot slot).toNat, s.config.stateSlot_lt slot⟩

/-- The counter of a slot's domain. -/
def load (s : NonceDirectionStateV1) (slot : UInt16) : NonceSequenceStateV1 :=
  match s.counters with
  | .sequences entries => entries (s.config.stateSlot slot)
  | .fixed entries => entries (s.domain slot)

/-- Replace the counter of a slot's domain. -/
def store (s : NonceDirectionStateV1) (slot : UInt16)
    (state : NonceSequenceStateV1) : NonceDirectionStateV1 :=
  { config := s.config
    counters :=
      match s.counters with
      | .sequences entries =>
        .sequences (Function.update entries (s.config.stateSlot slot) state)
      | .fixed entries => .fixed (Function.update entries (s.domain slot) state) }

variable (s : NonceDirectionStateV1)

include s

@[simp] theorem store_config (slot : UInt16)
    (state : NonceSequenceStateV1) : (s.store slot state).config = s.config :=
  rfl

theorem load_store_same {slot slot' : UInt16} (state : NonceSequenceStateV1)
    (h : s.config.stateSlot slot' = s.config.stateSlot slot) :
    (s.store slot state).load slot' = state := by
  rcases s with ⟨config, entries | entries⟩
  · simp_all [store, load]
  · simp_all [store, load, domain]

theorem load_store_of_ne {slot slot' : UInt16} (state : NonceSequenceStateV1)
    (h : s.config.stateSlot slot' ≠ s.config.stateSlot slot) :
    (s.store slot state).load slot' = s.load slot' := by
  rcases s with ⟨config, entries | entries⟩
  · simp_all [store, load]
  · have hdomain : (config.stateSlot slot').toNat ≠ (config.stateSlot slot).toNat :=
      fun hnat => h (UInt16.toNat_inj.mp hnat)
    simp_all [store, load, domain]

end NonceDirectionStateV1

/-! ## Allocation -/

/-- The counter after its current sequence has been handed out. -/
def NonceSequenceStateV1.advance (state : NonceSequenceStateV1) :
    NonceSequenceStateV1 :=
  if state.next = maxUint64 then { state with exhausted := true }
  else { state with next := state.next + 1 }

def NonceDirectionStateV1.allocateV1 (s : NonceDirectionStateV1)
    (recordClass : NonceRecordClassV1) (slot : UInt16) :
    NonceDirectionStateV1 × Except SecurityError NonceAllocationV1 :=
  match s.config.validateV1 with
  | .error err => (s, .error err)
  | .ok () =>
    match validateNonceSlotV1 recordClass slot with
    | .error err => (s, .error err)
    | .ok () =>
      let state := s.load slot
      if state.exhausted then
        (s, .error .nonceExhausted)
      else
        -- The counter moves before the nonce is derived, so a failing
        -- derivation would still consume its sequence.
        let next := s.store slot state.advance
        match deriveNonceV1 s.config slot state.next with
        | .error err => (next, .error err)
        | .ok nonce =>
          (next, .ok {
            nonce, sequence := state.next, epoch := s.config.epoch,
            direction := s.config.direction, slot })

/-! ## Role owners -/

/-- A role's nonce owner: the state of its outbound direction and the fixed
configuration of its inbound direction. -/
structure NonceOwnerV1 where
  outbound : NonceDirectionStateV1
  inbound : NonceDirectionConfigV1

structure NonceOwnerMaterialV1 where
  epoch : UInt64
  clientToRelay : FixedBytes 12
  relayToClient : FixedBytes 12

variable (schedule : KeySchedule)

/-- The mode is checked first, so that policy errors take precedence over the
provenance of the schedule. -/
def nonceOwnerMaterialFromScheduleV1
    (mode : Choice NonceMode) : Except SecurityError NonceOwnerMaterialV1 := do
  validateNonceModeV1 mode
  (validateRatchetSourceV1 schedule).mapError fun _ => .nonceMismatch
  .ok {
    epoch := schedule.epoch
    clientToRelay := fixedBytes 12 schedule.clientNonceBase
    relayToClient := fixedBytes 12 schedule.serverNonceBase }

/-- The owner of one role, given its two directions with their bases. -/
def newRoleNonceOwnerV1 (epoch : UInt64) (mode : Choice NonceMode)
    (bounded : Bool) (outbound inbound : UInt16 × FixedBytes 12) :
    Except SecurityError NonceOwnerV1 := do
  let outbound ←
    (newNonceDirectionBackendV1 epoch outbound.1 outbound.2.toList mode
      bounded).mapError fun _ => .nonceMismatch
  let inbound ←
    (newNonceDirectionConfigV1 epoch inbound.1 inbound.2.toList mode).mapError
      fun _ => .nonceMismatch
  .ok { outbound, inbound }

/-- The client owner: outbound client to relay, inbound relay to client. -/
def newClientNonceOwnerV1 (mode : Choice NonceMode)
    (bounded : Bool) : Except SecurityError NonceOwnerV1 := do
  let material ← nonceOwnerMaterialFromScheduleV1 schedule mode
  newRoleNonceOwnerV1 material.epoch mode bounded (directionClientToRelayV1, material.clientToRelay)
    (directionRelayToClientV1, material.relayToClient)

/-- The relay owner: outbound relay to client, inbound client to relay. -/
def newRelayNonceOwnerV1 (mode : Choice NonceMode)
    (bounded : Bool) : Except SecurityError NonceOwnerV1 := do
  let material ← nonceOwnerMaterialFromScheduleV1 schedule mode
  newRoleNonceOwnerV1 material.epoch mode bounded (directionRelayToClientV1, material.relayToClient)
    (directionClientToRelayV1, material.clientToRelay)

end Kurdistan.Security
