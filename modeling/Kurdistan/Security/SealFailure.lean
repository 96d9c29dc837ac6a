import Kurdistan.Security.EnvelopeSpec

/-!
# Sealing which fails

The exits of `sealDestinationV1` in front of the allocation change nothing.
Behind it the sequence is spent, whether the record is sealed or not.
-/

namespace Kurdistan.Security

open Support NonceDirectionStateV1

/-- A destination slice with its bytes. -/
structure SealDestinationV1 where
  address : ℕ
  inputAddress : ℕ
  bytes : List UInt8

def SealDestinationV1.borrowed (d : SealDestinationV1) : BorrowedDestinationV1 :=
  ⟨d.address, d.bytes.length, d.inputAddress⟩

/-- A call of `sealDestinationV1`. `sealFail` says whether the codec's fault hook fails in it. -/
structure SealCallV1 where
  dst : Option SealDestinationV1
  recordClass : NonceRecordClassV1
  recordType : UInt16
  slot : UInt16
  plaintext : List UInt8
  recordAAD : List UInt8
  sealFail : Bool

/-- A codec, which may have been destroyed. -/
structure SealerV1 where
  codec : EnvelopeCodecV1
  destroyed : Bool

/-- The bytes of the destination after a call, the nonce it was allocated, and its result. -/
structure SealReplyV1 where
  dst : Option (List UInt8)
  nonce : Option (FixedBytes 12)
  result : Except SecurityError EnvelopeRecordV1

namespace SealCallV1

variable (call : SealCallV1)

def memory : Option (List UInt8) := call.dst.map (·.bytes)

def nonceSlot : UInt16 := nonceSlotV1 call.recordClass call.slot

/-- The checks in front of the allocation. -/
def checks (s : SealerV1) : Except SecurityError Unit := do
  ensure (s.destroyed = false) .nonceMismatch
  s.codec.sealChecksV1 (call.dst.map (·.borrowed)) call.recordClass call.recordType call.slot
    call.plaintext

end SealCallV1

namespace SealerV1

variable (s : SealerV1) (call : SealCallV1)

def withOutbound (outbound : NonceDirectionStateV1) : SealerV1 :=
  { s with codec := { s.codec with nonces := { s.codec.nonces with outbound } } }

def allocate : NonceDirectionStateV1 × Except SecurityError NonceAllocationV1 :=
  s.codec.nonces.outbound.allocateV1 call.recordClass call.nonceSlot

/-- What follows the allocation. -/
def sealAllocated (aead : AEAD) (allocation : NonceAllocationV1) : SealReplyV1 :=
  if call.sealFail then ⟨call.memory, some allocation.nonce, .error .aeadInvalid⟩
  else
    let record := EnvelopeCodecV1.sealedRecordV1 call.recordType allocation call.plaintext
    let aad :=
      if call.dst.isSome then s.codec.writeApplicationAADV1 record
      else s.codec.aadV1 record call.recordAAD
    let ciphertext := aead.encrypt s.codec.outbound allocation.nonce call.plaintext aad
    ⟨call.memory.map fun bytes => ciphertext ++ bytes.drop ciphertext.length,
      some allocation.nonce, .ok { record with ciphertext }⟩

/-- `sealDestinationV1` with its fault hook and the bytes of its destination. -/
def sealV1 (aead : AEAD) (s : SealerV1) (call : SealCallV1) : SealerV1 × SealReplyV1 :=
  match call.checks s with
  | .error err => (s, ⟨call.memory, none, .error err⟩)
  | .ok () =>
    match s.allocate call with
    | (outbound, .error err) => (s.withOutbound outbound, ⟨call.memory, none, .error err⟩)
    | (outbound, .ok allocation) =>
      (s.withOutbound outbound, s.sealAllocated call aead allocation)

variable {s call} {aead : AEAD}

/-- Without a fault a codec which is alive seals as `sealDestinationV1` does. -/
theorem sealV1_eq_sealDestinationV1 (hlive : s.destroyed = false) (hhook : call.sealFail = false) :
    ((s.sealV1 aead call).1.codec, (s.sealV1 aead call).2.result) =
      s.codec.sealDestinationV1 aead (call.dst.map (·.borrowed)) call.recordClass call.recordType
        call.slot call.plaintext call.recordAAD := by
  rw [sealV1, SealCallV1.checks, ensure_of_pos hlive, EnvelopeCodecV1.sealDestinationV1]
  rcases s.codec.sealChecksV1 .. with err | ⟨⟩
  · rfl
  rw [allocate, SealCallV1.nonceSlot]
  rcases s.codec.nonces.outbound.allocateV1 .. with ⟨outbound, err | allocation⟩
  · rfl
  · simp [sealAllocated, hhook, withOutbound]

variable (s call aead)

theorem nonce_sealAllocated (allocation : NonceAllocationV1) :
    (s.sealAllocated call aead allocation).nonce = some allocation.nonce := by
  rw [sealAllocated]
  split_ifs <;> rfl

theorem dst_sealAllocated {allocation : NonceAllocationV1} {err : SecurityError}
    (h : (s.sealAllocated call aead allocation).result = .error err) :
    (s.sealAllocated call aead allocation).dst = call.memory := by
  by_cases hhook : call.sealFail
  · rw [sealAllocated, if_pos hhook]
  · rw [sealAllocated, if_neg hhook] at h
    cases h

/-- The next sequence of the slot is spent on `nonce`, and nothing else has changed. -/
def Spends (nonce : FixedBytes 12) (next : SealerV1) : Prop :=
  let outbound := s.codec.nonces.outbound
  deriveNonceV1 outbound.config call.nonceSlot (outbound.load call.nonceSlot).next = .ok nonce ∧
    next = s.withOutbound
      (outbound.store call.nonceSlot (outbound.load call.nonceSlot).advance)

variable {s call}

/-- A call with an allocation spends it, whatever follows. -/
theorem sealV1_of_allocate {allocation : NonceAllocationV1} (hchecks : call.checks s = .ok ())
    (hallocated : (s.allocate call).2 = .ok allocation) :
    s.Spends call allocation.nonce (s.withOutbound (s.allocate call).1) ∧ s.sealV1 aead call =
      (s.withOutbound (s.allocate call).1, s.sealAllocated call aead allocation) := by
  refine ⟨?_, ?_⟩
  · rw [allocate] at hallocated ⊢
    rcases s.codec.nonces.outbound.allocateV1_cases call.recordClass call.nonceSlot with
      ⟨err, hfail⟩ | ⟨nonce, -, -, hderive, hok⟩
    · rw [hfail] at hallocated
      cases hallocated
    · rw [hok] at hallocated ⊢
      cases hallocated
      exact ⟨hderive, rfl⟩
  · rw [sealV1, hchecks]
    rcases hcall : s.allocate call with ⟨outbound, result⟩
    rw [hcall] at hallocated
    cases hallocated
    rfl

variable (s call)

/-- A call stops in front of the allocation and changes nothing, or has its allocation. -/
theorem sealV1_cases :
    (∃ err, s.sealV1 aead call = (s, ⟨call.memory, none, .error err⟩)) ∨
    ∃ allocation, call.checks s = .ok () ∧
      validateNonceSlotV1 call.recordClass call.nonceSlot = .ok () ∧
      (s.allocate call).2 = .ok allocation ∧ s.sealV1 aead call =
        (s.withOutbound (s.allocate call).1, s.sealAllocated call aead allocation) := by
  rcases hchecks : call.checks s with err | ⟨⟩
  · exact .inl ⟨err, by rw [sealV1, hchecks]⟩
  rcases s.codec.nonces.outbound.allocateV1_cases call.recordClass call.nonceSlot with
    ⟨err, hfail⟩ | ⟨nonce, hslot, -, -, hok⟩
  · refine .inl ⟨err, ?_⟩
    rw [sealV1, hchecks, allocate, hfail]
    rfl
  · have hallocated : ∃ allocation, (s.allocate call).2 = .ok allocation :=
      ⟨_, by rw [allocate, hok]⟩
    obtain ⟨allocation, hallocated⟩ := hallocated
    exact .inr ⟨allocation, rfl, hslot, hallocated,
      (s.sealV1_of_allocate aead hchecks hallocated).2⟩

end SealerV1

/-- A call which has no allocation changes neither codec nor destination. A call which has one
spends the next sequence of its slot, also if it fails, and then it leaves the destination. No
nonce is allocated twice, whatever fails in between. -/
theorem seal_failures (aead : AEAD) :
    (∀ (s : SealerV1) (call : SealCallV1), call.checks s ≠ .ok () ∨
        validateNonceSlotV1 call.recordClass call.nonceSlot ≠ .ok () ∨
        (∀ allocation, (s.allocate call).2 ≠ .ok allocation) →
      ∃ err, s.sealV1 aead call = (s, ⟨call.memory, none, .error err⟩)) ∧
    (∀ (s : SealerV1) (call : SealCallV1) allocation, call.checks s = .ok () →
      (s.allocate call).2 = .ok allocation →
      (s.sealV1 aead call).2.nonce = some allocation.nonce ∧
      s.Spends call allocation.nonce (s.sealV1 aead call).1 ∧
      ∀ err, (s.sealV1 aead call).2.result = .error err →
        (s.sealV1 aead call).2.dst = call.memory) ∧
    ∀ (s : SealerV1) (calls : List SealCallV1),
      (emissions (SealerV1.sealV1 aead) (fun _ reply => reply.nonce) s calls).Nodup := by
  refine ⟨?_, ?_, fun s calls => ?_⟩
  · intro s call h
    rcases s.sealV1_cases call aead with hstop | ⟨allocation, hchecks, hslot, hallocated, -⟩
    · exact hstop
    · simp [hchecks, hslot, hallocated] at h
  · intro s call allocation hchecks hallocated
    obtain ⟨hspends, hcall⟩ := s.sealV1_of_allocate aead hchecks hallocated
    rw [hcall]
    exact ⟨s.nonce_sealAllocated call aead allocation, hspends,
      fun err herr => s.dst_sealAllocated call aead herr⟩
  · refine emissions_nodup (fun s nonce => s.codec.nonces.outbound.Spent nonce) ?_ ?_ s calls
    · intro s call nonce hspent
      rcases s.sealV1_cases call aead with ⟨_, hstop⟩ | ⟨allocation, -, -, -, hcall⟩
      · rwa [hstop]
      · rw [hcall]
        exact spent_allocateV1 _ _ hspent
    · intro s call nonce hemit
      rcases s.sealV1_cases call aead with ⟨_, hstop⟩ | ⟨allocation, -, -, hallocated, hcall⟩
      · rw [hstop] at hemit
        cases hemit
      · rw [hcall, SealerV1.nonce_sealAllocated] at hemit
        cases hemit
        rw [hcall]
        exact allocateV1_spends hallocated

/-- A client which has sealed nothing. -/
def sampleSealerV1 : SealerV1 where
  codec := freshEnvelopeCodecV1 sampleScheduleV1 sampleContextV1 true true
  destroyed := false

/-- A record for a destination of the right length, in which the hook fails. -/
def sampleCallV1 : SealCallV1 where
  dst := some ⟨0, 100, List.replicate 17 9⟩
  recordClass := .nonceApplicationRecordV1
  recordType := 1
  slot := 7
  plaintext := [42]
  recordAAD := []
  sealFail := true

/-- The hook fails behind the allocation: the destination is as before, and the sequence is
spent. -/
theorem seal_failures_burned :
    ∃ allocation, (sampleSealerV1.allocate sampleCallV1).2 = .ok allocation ∧
      (sampleSealerV1.sealV1 plainAEAD sampleCallV1).2.result = .error .aeadInvalid ∧
      (sampleSealerV1.sealV1 plainAEAD sampleCallV1).2.dst = some (List.replicate 17 9) ∧
      sampleSealerV1.Spends sampleCallV1 allocation.nonce
        (sampleSealerV1.sealV1 plainAEAD sampleCallV1).1 := by
  have hfails := (seal_failures plainAEAD).2.1 sampleSealerV1 sampleCallV1 _ (by rfl) (by rfl)
  exact ⟨_, by rfl, by rfl, hfails.2.2 .aeadInvalid (by rfl), hfails.2.1⟩

end Kurdistan.Security
