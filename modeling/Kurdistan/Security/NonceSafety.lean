import Kurdistan.Security.Nonce

/-!
# Nonces are never reused

A nonce determines the sequence domain and the sequence it was derived from:
every mode either overlays the 64-bit counter or masks it with fixed bytes of
the base, and the partitioned mode writes the slot in clear. Together with
counters which only move forward, and stop for good at the last sequence, this
shows that no run of allocations returns a nonce twice.
-/

namespace Kurdistan.Security

open Support NonceDirectionStateV1 List

/-! ## A nonce determines its domain and sequence -/

variable {slot slot' : UInt16} {q : UInt64}

theorem nonceLayoutV1_sequence_injective {mode : NonceMode} {base : FixedBytes 12} {q' : UInt64}
    (h : nonceLayoutV1 mode base slot q = nonceLayoutV1 mode base slot' q') : q = q' := by
  have hmask : ∀ n : UInt64, (putUint64 n).length ≤ (base.toList.drop 4).length := by
    simp
  apply putUint64_injective
  cases mode with
  | counterXORBase =>
    have hcounter := append_cancel_left h
    exact xorBytes_injective (hmask q) (hmask q') hcounter
  | counterAppendBase =>
    exact append_cancel_right h
  | directionalCounter =>
    exact append_cancel_left h
  | streamPartitionedCounter =>
    have hcounter := (append_inj h (by simp)).2
    exact xorBytes_injective (hmask q) (hmask q') hcounter

theorem nonceLayoutV1_slot_injective {base : FixedBytes 12} {q' : UInt64}
    (h : nonceLayoutV1 .streamPartitionedCounter base slot q =
      nonceLayoutV1 .streamPartitionedCounter base slot' q') : slot = slot' := by
  have hhead := (append_inj h (by simp)).1
  exact putUint16_injective (append_cancel_left hhead)

variable {nonce : FixedBytes 12} {config : NonceDirectionConfigV1}

theorem deriveNonceV1_eq_ok :
    deriveNonceV1 config slot q = .ok nonce ↔
      config.validateV1 = .ok () ∧ ∃ mode, config.mode = .known mode ∧
        nonce.toList = nonceLayoutV1 mode config.base slot q := by
  rcases hmode : config.mode with mode | text
  · simp only [deriveNonceV1, check_ok_iff, hmode, Choice.known.injEq, exists_eq_left']
    refine and_congr_right fun _ => ⟨?_, ?_⟩
    · rintro ⟨⟩
      rfl
    · intro h
      exact congrArg Except.ok (Subtype.ext h.symm)
  · simp [deriveNonceV1, check_ok_iff, hmode]

/-- Two derivations which give one nonce use one domain and one sequence. -/
theorem deriveNonceV1_injective {q' : UInt64} (h : deriveNonceV1 config slot q = .ok nonce)
    (h' : deriveNonceV1 config slot' q' = .ok nonce) :
    config.stateSlot slot = config.stateSlot slot' ∧ q = q' := by
  obtain ⟨-, mode, hmode, hnonce⟩ := deriveNonceV1_eq_ok.mp h
  obtain ⟨-, mode', hmode', hnonce'⟩ := deriveNonceV1_eq_ok.mp h'
  obtain rfl : mode = mode' := by
    simpa [hmode] using hmode'
  have hlayout := hnonce.symm.trans hnonce'
  refine ⟨?_, nonceLayoutV1_sequence_injective hlayout⟩
  by_cases hpartitioned : mode = .streamPartitionedCounter
  · subst hpartitioned
    rw [nonceLayoutV1_slot_injective hlayout]
  · simp [NonceDirectionConfigV1.stateSlot, hmode, hpartitioned]

/-! ## Counters only move forward -/

namespace NonceSequenceStateV1

/-- The sequence has been handed out, or can no longer be. -/
def Handed (state : NonceSequenceStateV1) (q : UInt64) : Prop :=
  state.exhausted = true ∨ q < state.next

theorem lt_succ_of_ne_max (h : q ≠ maxUint64) : q < q + 1 := by
  have hq := q.toNat_lt
  have hne : q.toNat ≠ 2 ^ 64 - 1 := by
    intro hnat
    exact h (UInt64.toNat_inj.mp hnat)
  rw [UInt64.lt_iff_toNat_lt, UInt64.toNat_add]
  simp only [UInt64.toNat_one]
  omega

variable {state : NonceSequenceStateV1}

theorem handed_advance (h : state.Handed q) : state.advance.Handed q := by
  by_cases hlast : state.next = maxUint64
  · simp [Handed, advance, hlast]
  · rcases h with h | h
    · simp [Handed, advance, hlast, h]
    · right
      simpa [advance, hlast] using UInt64.lt_trans h (lt_succ_of_ne_max hlast)

theorem handed_next_advance (state : NonceSequenceStateV1) : state.advance.Handed state.next := by
  by_cases hlast : state.next = maxUint64
  · simp [Handed, advance, hlast]
  · right
    simpa [advance, hlast] using lt_succ_of_ne_max hlast

theorem exhausted_advance (h : state.exhausted = true) : state.advance.exhausted = true := by
  by_cases hlast : state.next = maxUint64 <;> simp [advance, hlast, h]

end NonceSequenceStateV1

/-! ## One allocation -/

namespace NonceDirectionStateV1

section

variable (s : NonceDirectionStateV1)

include s

theorem load_congr
    (h : s.config.stateSlot slot' = s.config.stateSlot slot) : s.load slot' = s.load slot := by
  simp [load, domain, h]

variable (recordClass : NonceRecordClassV1)

include recordClass

/-- An allocation either fails and changes nothing, or hands out the next
sequence of the slot's domain, which was not exhausted. -/
theorem allocateV1_cases (slot : UInt16) :
    (∃ err, s.allocateV1 recordClass slot = (s, .error err)) ∨
    (∃ nonce, validateNonceSlotV1 recordClass slot = .ok () ∧
      (s.load slot).exhausted = false ∧
      deriveNonceV1 s.config slot (s.load slot).next = .ok nonce ∧
      s.allocateV1 recordClass slot = (s.store slot (s.load slot).advance, .ok {
          nonce, sequence := (s.load slot).next, epoch := s.config.epoch,
          direction := s.config.direction, slot })) := by
  rcases hvalid : s.config.validateV1 with err | ⟨⟩
  · left
    exact ⟨err, by simp [allocateV1, hvalid]⟩
  rcases hslot : validateNonceSlotV1 recordClass slot with err | ⟨⟩
  · left
    exact ⟨err, by simp [allocateV1, hvalid, hslot]⟩
  by_cases hexhausted : (s.load slot).exhausted = true
  · left
    exact ⟨.nonceExhausted, by simp [allocateV1, hvalid, hslot, hexhausted]⟩
  · right
    -- A validated configuration has a known mode, so the derivation succeeds.
    obtain ⟨-, hmodeValid⟩ := check_ok_iff.mp hvalid
    rcases hmode : s.config.mode with mode | text
    · have hderive : deriveNonceV1 s.config slot (s.load slot).next =
          .ok ⟨_, length_nonceLayoutV1 mode s.config.base slot _⟩ :=
        deriveNonceV1_eq_ok.mpr ⟨hvalid, mode, hmode, rfl⟩
      refine ⟨_, rfl, by simpa using hexhausted, hderive, ?_⟩
      simp [allocateV1, hvalid, hslot, hexhausted, hderive]
    · simp [hmode, validateNonceModeV1] at hmodeValid

@[simp] theorem allocateV1_config (slot : UInt16) :
    (s.allocateV1 recordClass slot).1.config = s.config := by
  rcases s.allocateV1_cases recordClass slot with ⟨err, h⟩ | ⟨nonce, -, -, -, h⟩
  · rw [h]
  · rw [h, store_config]

/-- What an allocation does to the counter seen from any slot. -/
theorem load_allocateV1 (slot slot' : UInt16) :
    (s.allocateV1 recordClass slot).1.load slot' = s.load slot' ∨
      (s.allocateV1 recordClass slot).1.load slot' = (s.load slot').advance := by
  rcases s.allocateV1_cases recordClass slot with ⟨err, h⟩ | ⟨nonce, -, -, -, h⟩
  · left
    rw [h]
  · rw [h]
    by_cases hsame : s.config.stateSlot slot' = s.config.stateSlot slot
    · right
      rw [load_store_same s _ hsame, load_congr s hsame]
    · left
      exact load_store_of_ne s _ hsame

end

/-! ## Runs of allocations -/

/-- A nonce of this owner whose sequence has been handed out. -/
def Spent (s : NonceDirectionStateV1) (nonce : FixedBytes 12) : Prop :=
  ∃ slot q, deriveNonceV1 s.config slot q = .ok nonce ∧ (s.load slot).Handed q

theorem spent_allocateV1 {s : NonceDirectionStateV1} (recordClass : NonceRecordClassV1)
    (slot : UInt16) (h : s.Spent nonce) : (s.allocateV1 recordClass slot).1.Spent nonce := by
  obtain ⟨slot', q, hderive, hhanded⟩ := h
  refine ⟨slot', q, by simpa using hderive, ?_⟩
  rcases s.load_allocateV1 recordClass slot slot' with hload | hload
  · rw [hload]
    exact hhanded
  · rw [hload]
    exact NonceSequenceStateV1.handed_advance hhanded

/-- A successful allocation spends a nonce which was not spent before. -/
theorem allocateV1_spends {s : NonceDirectionStateV1} {recordClass : NonceRecordClassV1}
    {allocation : NonceAllocationV1} (h : (s.allocateV1 recordClass slot).2 = .ok allocation) :
    ¬ s.Spent allocation.nonce ∧ (s.allocateV1 recordClass slot).1.Spent allocation.nonce := by
  rcases s.allocateV1_cases recordClass slot with
    ⟨err, heq⟩ | ⟨nonce, -, hfresh, hderive, heq⟩
  · rw [heq] at h
    cases h
  rw [heq] at h ⊢
  cases h
  constructor
  · rintro ⟨slot', q, hderive', hhanded⟩
    obtain ⟨hdomain, rfl⟩ := deriveNonceV1_injective hderive hderive'
    rw [← load_congr s hdomain] at hhanded
    rcases hhanded with hexhausted | hlt
    · simp [hfresh] at hexhausted
    · exact UInt64.lt_irrefl _ hlt
  · refine ⟨slot, (s.load slot).next, hderive, ?_⟩
    rw [load_store_same s _ rfl]
    exact NonceSequenceStateV1.handed_next_advance _

end NonceDirectionStateV1

/-- A request to a direction owner: the record class and the stream slot. -/
structure NonceRequestV1 where
  recordClass : NonceRecordClassV1
  slot : UInt16

/-- One allocation as a step of the owner. -/
def allocateStepV1 (s : NonceDirectionStateV1) (request : NonceRequestV1) :
    NonceDirectionStateV1 × Except SecurityError NonceAllocationV1 :=
  s.allocateV1 request.recordClass request.slot

/-- The nonce handed out by a request, when the allocation succeeded. -/
def allocatedNonceV1 (_request : NonceRequestV1)
    (reply : Except SecurityError NonceAllocationV1) : Option (FixedBytes 12) :=
  reply.toOption.map NonceAllocationV1.nonce

theorem allocateStepV1_config (s : NonceDirectionStateV1) (run : List NonceRequestV1) :
    (stateAfter allocateStepV1 s run).config = s.config := by
  refine stateAfter_invariant (fun t : NonceDirectionStateV1 => t.config = s.config) ?_ rfl run
  intro t request ht
  rw [← ht]
  exact t.allocateV1_config request.recordClass request.slot

theorem allocatedNonces_nodup (s : NonceDirectionStateV1) (run : List NonceRequestV1) :
    (emissions allocateStepV1 allocatedNonceV1 s run).Nodup := by
  refine emissions_nodup NonceDirectionStateV1.Spent ?_ ?_ s run
  · intro t request nonce hspent
    exact spent_allocateV1 _ _ hspent
  · intro t request nonce hemit
    rcases hreply : (allocateStepV1 t request).2 with err | allocation
    · simp [hreply, allocatedNonceV1, Except.toOption] at hemit
    · obtain rfl : allocation.nonce = nonce := by
        simpa [hreply, allocatedNonceV1, Except.toOption] using hemit
      exact allocateV1_spends hreply

variable {s : NonceDirectionStateV1}

theorem exhausted_stateAfter (h : (s.load slot).exhausted = true) (run : List NonceRequestV1) :
    ((stateAfter allocateStepV1 s run).load slot).exhausted = true := by
  refine stateAfter_invariant
    (fun t : NonceDirectionStateV1 => (t.load slot).exhausted = true) ?_ h run
  intro t request ht
  rcases t.load_allocateV1 request.recordClass request.slot slot with hload | hload
  · rw [allocateStepV1, hload]
    exact ht
  · rw [allocateStepV1, hload]
    exact NonceSequenceStateV1.exhausted_advance ht

/-- An exhausted domain answers every request with an error. -/
theorem allocateV1_of_exhausted {request : NonceRequestV1} (hvalid : s.config.validateV1 = .ok ())
    (h : (s.load request.slot).exhausted = true) :
    ∃ err, (allocateStepV1 s request).2 = .error err ∧
      (validateNonceSlotV1 request.recordClass request.slot = .ok () → err = .nonceExhausted) := by
  rcases hslot : validateNonceSlotV1 request.recordClass request.slot with
    err | ⟨⟩
  · simp [allocateStepV1, allocateV1, hvalid, hslot]
  · simp [allocateStepV1, allocateV1, hvalid, hslot, h]

/-- Handing out the last sequence exhausts the domain. -/
theorem exhausted_of_last_sequence {request : NonceRequestV1} {allocation : NonceAllocationV1}
    (h : (allocateStepV1 s request).2 = .ok allocation) (hlast : allocation.sequence = maxUint64) :
    s.config.validateV1 = .ok () ∧
      ((allocateStepV1 s request).1.load request.slot).exhausted = true := by
  rw [allocateStepV1] at h ⊢
  rcases s.allocateV1_cases request.recordClass request.slot with
    ⟨err, heq⟩ | ⟨nonce, -, -, hderive, heq⟩
  · rw [heq] at h
    cases h
  rw [heq] at h ⊢
  cases h
  refine ⟨(deriveNonceV1_eq_ok.mp hderive).1, ?_⟩
  rw [load_store_same s _ rfl]
  simp [NonceSequenceStateV1.advance, show (s.load request.slot).next = _ from hlast]

/-- Nonce uniqueness. Whatever the mode, the base and the storage of the
owner, a run of allocations returns no nonce twice, and a domain which has
handed out its last sequence answers every later request with an error. -/
theorem allocateV1_nonces_unique (s : NonceDirectionStateV1) :
    (∀ run : List NonceRequestV1,
      (emissions allocateStepV1 allocatedNonceV1 s run).Nodup) ∧
    (∀ (before between : List NonceRequestV1) (last later : NonceRequestV1)
        (allocation : NonceAllocationV1),
      replyAfter allocateStepV1 s before last = .ok allocation →
      allocation.sequence = maxUint64 →
      s.config.stateSlot later.slot = s.config.stateSlot last.slot →
      ∃ err,
        replyAfter allocateStepV1 s (before ++ last :: between) later =
          .error err ∧
        (validateNonceSlotV1 later.recordClass later.slot = .ok () → err = .nonceExhausted)) := by
  refine ⟨allocatedNonces_nodup s, ?_⟩
  intro before between last later allocation hreply hlast hdomain
  obtain ⟨hvalid, hexhausted⟩ := exhausted_of_last_sequence hreply hlast
  have hconfig := allocateStepV1_config s (before ++ last :: between)
  have hlater : ((stateAfter allocateStepV1 s
      (before ++ last :: between)).load last.slot).exhausted = true := by
    rw [stateAfter_append, stateAfter_cons]
    exact exhausted_stateAfter hexhausted between
  apply allocateV1_of_exhausted
  · rw [hconfig, ← allocateStepV1_config s before]
    exact hvalid
  · rw [← hconfig] at hdomain
    rw [load_congr _ hdomain]
    exact hlater

/-- A client-to-relay owner in append mode whose only domain has one sequence
left. -/
def lastSequenceOwnerV1 : NonceDirectionStateV1 where
  config := {
    base := fixedBytes 12 [1, 2, 3, 4, 5, 6, 7, 8, 9, 10, 11, 12]
    mode := .known .counterAppendBase
    epoch := 0
    direction := directionClientToRelayV1 }
  counters := .sequences fun _ => { next := maxUint64, exhausted := false }

theorem lastSequenceOwnerV1_exhausted :
    ∃ allocation err,
      replyAfter allocateStepV1 lastSequenceOwnerV1 []
        ⟨.nonceControlRecordV1, 0⟩ = .ok allocation ∧
      allocation.sequence = maxUint64 ∧
      replyAfter allocateStepV1 lastSequenceOwnerV1
        ([] ++ ⟨.nonceControlRecordV1, 0⟩ :: [⟨.nonceApplicationRecordV1, 0⟩])
        ⟨.nonceApplicationRecordV1, 7⟩ = .error err ∧
      err = .nonceExhausted := by
  obtain ⟨err, hreply, herr⟩ := (allocateV1_nonces_unique lastSequenceOwnerV1).2
    [] [⟨.nonceApplicationRecordV1, 0⟩] ⟨.nonceControlRecordV1, 0⟩
    ⟨.nonceApplicationRecordV1, 7⟩ _ rfl rfl rfl
  exact ⟨_, err, rfl, rfl, hreply, herr (by decide)⟩

end Kurdistan.Security
