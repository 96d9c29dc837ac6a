import Kurdistan.Security.CapabilitySafety

/-!
# Records delivered in order are accepted

A sender counts sequences per nonce domain; a receiver keeps a replay window
per replay key. The two partitions agree, and while records arrive in the
order they were produced, the history of every window is an initial segment of
the naturals whose length is what the sender's counter has handed out. Under
that coupling the receiver recomputes the sender's nonce and additional data,
and every replay policy accepts the next sequence.
-/

namespace Kurdistan.Security

open Support ReplayWindowStateV1 EnvelopeCodecV1 List

/-! ## Sealing and receiving -/

/-- A call of one of the sealing functions. -/
inductive SealRequestV1 where
  | control (recordType : UInt16) (plaintext recordAAD : List UInt8)
  | application (slot : UInt16) (plaintext : List UInt8)
  | applicationInto (dst : BorrowedDestinationV1) (slot : UInt16) (plaintext : List UInt8)

namespace SealRequestV1

def recordClass : SealRequestV1 → NonceRecordClassV1
  | control _ _ _ => .nonceControlRecordV1
  | application _ _ => .nonceApplicationRecordV1
  | applicationInto _ _ _ => .nonceApplicationRecordV1

def plaintext : SealRequestV1 → List UInt8
  | control _ plaintext _ => plaintext
  | application _ plaintext => plaintext
  | applicationInto _ _ plaintext => plaintext

/-- The additional data the caller supplies; application calls have none. -/
def recordAAD : SealRequestV1 → List UInt8
  | control _ _ recordAAD => recordAAD
  | application _ _ => []
  | applicationInto _ _ _ => []

end SealRequestV1

def sealStepV1 (aead : AEAD) (c : EnvelopeCodecV1) :
    SealRequestV1 → EnvelopeCodecV1 × Except SecurityError EnvelopeRecordV1
  | .control recordType plaintext recordAAD =>
    c.sealControlV1 aead recordType plaintext recordAAD
  | .application slot plaintext => c.sealApplicationV1 aead slot plaintext
  | .applicationInto dst slot plaintext =>
    c.sealApplicationIntoV1 aead dst slot plaintext

/-- A produced record with the request it came from. -/
structure ProducedRecordV1 where
  request : SealRequestV1
  record : EnvelopeRecordV1

/-- The record a sealing call has produced, if it has. -/
def producedRecord (request : SealRequestV1)
    (reply : Except SecurityError EnvelopeRecordV1) : Option ProducedRecordV1 :=
  reply.toOption.map fun record => { request, record }

/-- Authenticate a record and commit the capability. The receiver calls the
function for the record's class; `dst` is the destination of the borrowing
variant, which only application records have. -/
def receiveStepV1 (aead : AEAD) (dst : ProducedRecordV1 → Option BorrowedDestinationV1)
    (w : EnvelopeWorldV1) (produced : ProducedRecordV1) :
    EnvelopeWorldV1 × Except SecurityError (List UInt8) :=
  match w.authenticate aead (dst produced) produced.request.recordClass
      produced.record produced.request.recordAAD with
  | (w, .error err) => (w, .error err)
  | (w, .ok (plaintext, capability)) =>
    match w.commit capability with
    | (w, .error err) => (w, .error err)
    | (w, .ok ()) => (w, .ok plaintext)

/-- A receiver's destination is usable for a record: it is one of an
application call, holds the plaintext and does not overlap the ciphertext. -/
def DestinationFits (dst : Option BorrowedDestinationV1) (produced : ProducedRecordV1) : Prop :=
  ∀ d, dst = some d →
    produced.request.recordClass = .nonceApplicationRecordV1 ∧
      produced.record.ciphertext.length - aeadOverhead ≤ d.length ∧
      envelopeSlicesOverlapV3 d.address d.length d.inputAddress
        produced.record.ciphertext.length = false

/-! ## The next sequence is accepted -/

/-- Every policy accepts the sequence after an initial segment. -/
theorem checkV1Locked_in_order {r : ReplayWindowStateV1}
    {history : List UInt64} {sequence : UInt64} (h : r.Represents history)
    (hpolicy : r.policy.isKnown = true) (hrange : history.map UInt64.toNat = range history.length)
    (hsequence : sequence.toNat = history.length) : r.checkV1Locked sequence = .ok () := by
  have hpos := h.window_pos
  have hlt := sequence.toNat_lt
  have hhighest : r.highest.toNat = history.length - 1 :=
    h.highest_eq.trans (highestCommitted_of_range hrange)
  have hfresh : sequence ∉ history := by
    intro hmem
    have hsmall : sequence.toNat ∈ history.map UInt64.toNat := mem_map_of_mem hmem
    rw [hrange, mem_range] at hsmall
    omega
  have hcontains : r.containsV3Locked sequence = false := by
    rw [Bool.eq_false_iff]
    intro hcontains
    exact hfresh ((h.containsV3Locked_iff sequence).mp hcontains).1
  rcases hinit : r.initialized with _ | _
  · have hzero : sequence = 0 := by
      rw [h.eq_nil_of_not_initialized hinit] at hsequence
      exact UInt64.toNat_inj.mp hsequence
    subst hzero
    have hle : (0 : UInt64) ≤ r.window := by
      exact Nat.zero_le _
    rcases hkind : r.policy with kind | text
    · cases kind <;>
        simp [checkV1Locked, hcontains, hkind, checkOrderedV1Locked, checkBoundedV1Locked,
          checkWindowedV1Locked, hinit]
    · simp [hkind, Choice.isKnown] at hpolicy
  · have hne : history.length ≠ 0 := by
      simpa using h.initialized_iff.mp hinit
    have hhigher : r.highest < sequence := by
      rw [UInt64.lt_iff_toNat_lt]
      omega
    have hnotLast : r.highest ≠ maxUint64 := by
      intro hlast
      rw [hlast, maxUint64_toNat] at hhighest
      omega
    have hnext : sequence = r.highest + 1 := by
      refine UInt64.toNat_inj.mp ?_
      rw [UInt64.toNat_add, UInt64.toNat_one]
      omega
    have hnotStale : ¬ sequence < replayLowerBoundV1 r.highest r.window := by
      rw [UInt64.lt_iff_toNat_lt, toNat_replayLowerBoundV1 hpos]
      omega
    have hnotAhead : ¬ r.window < sequence - r.highest := by
      have hle : r.highest ≤ sequence := by
        rw [UInt64.le_iff_toNat_le]
        omega
      rw [UInt64.lt_iff_toNat_lt, UInt64.toNat_sub_of_le _ _ hle]
      omega
    rcases hkind : r.policy with kind | text
    · cases kind with
      | orderedOnly =>
        simp [checkV1Locked, hcontains, hkind, checkOrderedV1Locked, hinit, hnotLast, ← hnext]
      | boundedReorder =>
        simp [checkV1Locked, hcontains, hkind, checkBoundedV1Locked, hinit, hnotStale, hnotAhead]
      | windowedReplay =>
        simp [checkV1Locked, hcontains, hkind, checkWindowedV1Locked, hhigher]
    · simp [hkind, Choice.isKnown] at hpolicy

/-! ## Counters -/

/-- How many sequences a counter has handed out. -/
def NonceSequenceStateV1.handedCount (state : NonceSequenceStateV1) : ℕ :=
  if state.exhausted then 2 ^ 64 else state.next.toNat

theorem NonceSequenceStateV1.handedCount_advance {state : NonceSequenceStateV1}
    (h : state.exhausted = false) : state.advance.handedCount = state.next.toNat + 1 := by
  have hlt := state.next.toNat_lt
  by_cases hlast : state.next = maxUint64
  · have hnat : state.next.toNat = 2 ^ 64 - 1 := by
      rw [hlast, maxUint64_toNat]
    simp only [handedCount, advance, if_pos hlast, if_true]
    omega
  · have hne : state.next.toNat ≠ 2 ^ 64 - 1 := fun hnat =>
      hlast (UInt64.toNat_inj.mp hnat)
    simp only [handedCount, advance, if_neg hlast, h, Bool.false_eq_true,
      if_false, UInt64.toNat_add, UInt64.toNat_one]
    omega

/-! ## What sealing does -/

namespace EnvelopeCodecV1

@[simp] theorem aadV1_with_ciphertext (c : EnvelopeCodecV1)
    (record : EnvelopeRecordV1) (recordAAD ciphertext : List UInt8) :
    c.aadV1 { record with ciphertext } recordAAD = c.aadV1 record recordAAD :=
  rfl

theorem aadV1_congr {c c' : EnvelopeCodecV1} (h : c'.context = c.context)
    (record : EnvelopeRecordV1) (recordAAD : List UInt8) :
    c'.aadV1 record recordAAD = c.aadV1 record recordAAD := by
  simp only [aadV1, writeApplicationAADV1, boundClassV1, boundContextV1, expectedClassV1, h]

/-- The borrowing calls bind the same additional data as the allocating ones. -/
theorem aadV1_of_destination (c : EnvelopeCodecV1) {record : EnvelopeRecordV1}
    {dst : Option BorrowedDestinationV1}
    (h : dst.isSome = true → record.recordType = 1) (recordAAD : List UInt8) :
    (if dst.isSome then c.writeApplicationAADV1 record
      else c.aadV1 record recordAAD) = c.aadV1 record recordAAD := by
  split_ifs with hdst
  · simp [aadV1, h hdst]
  · rfl

/-- The record produced from the next sequence of a slot's domain. -/
def nextRecordV1 (aead : AEAD) (c : EnvelopeCodecV1) (recordType slot : UInt16)
    (nonce : FixedBytes 12) (plaintext recordAAD : List UInt8) :
    EnvelopeRecordV1 :=
  let record := sealedRecordV1 recordType
    { nonce, sequence := (c.nonces.outbound.load slot).next
      epoch := c.nonces.outbound.config.epoch
      direction := c.nonces.outbound.config.direction, slot } plaintext
  { record with
    ciphertext := aead.encrypt c.outbound nonce plaintext (c.aadV1 record recordAAD) }

theorem length_nextRecordV1 {aead : AEAD} (haead : aead.Correct)
    (c : EnvelopeCodecV1) (recordType slot : UInt16) (nonce : FixedBytes 12)
    (plaintext recordAAD : List UInt8) :
    (c.nextRecordV1 aead recordType slot nonce plaintext
      recordAAD).ciphertext.length = plaintext.length + aeadOverhead :=
  haead.length_encrypt _ _ _ _

/-- Sealing either fails and changes nothing, or uses the next sequence of the
slot's domain. -/
theorem sealDestinationV1_cases (aead : AEAD) (c : EnvelopeCodecV1)
    {dst : Option BorrowedDestinationV1} (recordClass : NonceRecordClassV1)
    {recordType : UInt16} (slot : UInt16) (plaintext recordAAD : List UInt8)
    (hdst : dst.isSome = true → recordType = 1) :
    (∃ err, c.sealDestinationV1 aead dst recordClass recordType slot plaintext
      recordAAD = (c, .error err)) ∨
    (∃ nonce,
      c.sealChecksV1 dst recordClass recordType slot plaintext = .ok () ∧
      validateNonceSlotV1 recordClass (nonceSlotV1 recordClass slot) = .ok () ∧
      (c.nonces.outbound.load (nonceSlotV1 recordClass slot)).exhausted =
        false ∧
      deriveNonceV1 c.nonces.outbound.config (nonceSlotV1 recordClass slot)
        (c.nonces.outbound.load (nonceSlotV1 recordClass slot)).next =
          .ok nonce ∧
      c.sealDestinationV1 aead dst recordClass recordType slot plaintext
          recordAAD =
        ({ c with nonces := { c.nonces with
            outbound := c.nonces.outbound.store (nonceSlotV1 recordClass slot)
              (c.nonces.outbound.load (nonceSlotV1 recordClass slot)).advance } },
          .ok (c.nextRecordV1 aead recordType (nonceSlotV1 recordClass slot)
            nonce plaintext recordAAD))) := by
  rcases hchecks : c.sealChecksV1 dst recordClass recordType slot plaintext with
    err | ⟨⟩
  · left
    exact ⟨err, by simp [sealDestinationV1, hchecks]⟩
  rcases c.nonces.outbound.allocateV1_cases recordClass (nonceSlotV1 recordClass slot) with
    ⟨err, hfail⟩ | ⟨nonce, hslot, hfresh, hderive, hok⟩
  · left
    exact ⟨err, by simp [sealDestinationV1, hchecks, hfail]⟩
  · right
    refine ⟨nonce, rfl, hslot, hfresh, hderive, ?_⟩
    simp only [sealDestinationV1, hchecks, hok, nextRecordV1]
    rw [aadV1_of_destination c hdst]

/-! ## What receiving does -/

theorem authenticateDestinationV1_ok {aead : AEAD} {c : EnvelopeCodecV1}
    {dst : Option BorrowedDestinationV1} {recordClass : NonceRecordClassV1}
    {record : EnvelopeRecordV1} {recordAAD plaintext : List UInt8}
    {expected : FixedBytes 12} {window : ReplayWindowStateV1}
    (hchecks : c.authenticateChecksV1 dst recordClass record = .ok expected)
    (hwindow : c.CommitWindow record.slot window)
    (hcheck : window.checkV1Locked record.sequence = .ok ())
    (hopen : c.openRecordV1 aead dst record recordAAD expected =
      .ok plaintext) :
    c.authenticateDestinationV1 aead dst recordClass record recordAAD = .ok plaintext := by
  rcases hwindow with hload | ⟨hload, hnew⟩
  · simp [authenticateDestinationV1, hchecks, replayPrecheckV1, hload,
      handlePlausibleV1, plausibleV1, hcheck, hopen]
  · simp [authenticateDestinationV1, hchecks, replayPrecheckV1, hload, hnew,
      handlePlausibleV1, plausibleV1, hcheck, hopen]

end EnvelopeCodecV1

variable {w : EnvelopeWorldV1}

/-- Authentication followed by a commit of the new capability. -/
theorem receiveStepV1_ok {aead : AEAD} {dst : ProducedRecordV1 → Option BorrowedDestinationV1}
    {produced : ProducedRecordV1} {plaintext : List UInt8} {window : ReplayWindowStateV1}
    (hauthentic : w.codec.authenticateDestinationV1 aead (dst produced)
      produced.request.recordClass produced.record
      produced.request.recordAAD = .ok plaintext)
    (hwindow : w.codec.CommitWindow produced.record.slot window)
    (hcheck : window.checkV1Locked produced.record.sequence = .ok ()) :
    (receiveStepV1 aead dst w produced).1.codec =
        w.codec.storeReplay produced.record.slot
          (window.recordV1 produced.record.sequence) ∧
      (receiveStepV1 aead dst w produced).2 = .ok plaintext := by
  have hcommit := commitReplayV1_of_check hwindow hcheck
  simp [receiveStepV1, EnvelopeWorldV1.authenticate, hauthentic,
    EnvelopeWorldV1.commit, EnvelopeWorldV1.newAuthenticatedReplayV1,
    EnvelopeWorldV1.validLockedV1, hcommit]

/-! ## The coupling -/

/-- The receiver's inbound side matches the sender's outbound side. -/
structure Peers (s r : EnvelopeCodecV1) : Prop where
  context : r.context = s.context
  key : r.inbound = s.outbound
  config : r.nonces.inbound = s.nonces.outbound.config
  epoch : s.nonces.outbound.config.epoch = r.epoch
  mode : s.nonces.outbound.config.mode = s.context.effectivePolicy.nonceMode

/-- The window of every replay key has seen exactly what the counter of the
corresponding domain has handed out, in order. -/
structure Coupled (s r : EnvelopeCodecV1) (history : List CommittedRecordV1) : Prop where
  peers : Peers s r
  represents : r.Represents history
  counts : ∀ slot, (keyHistory (r.replayKeyV1 slot) history).map UInt64.toNat =
    range (s.nonces.outbound.load slot).handedCount

/-- Sequence domains and replay keys are one partition of the slots. -/
theorem Peers.replayKey_eq {s r : EnvelopeCodecV1} (h : Peers s r) (slot : UInt16) :
    r.replayKeyV1 slot = s.nonces.outbound.config.stateSlot slot := by
  rw [replayKeyV1, NonceDirectionConfigV1.stateSlot, h.context, h.mode]

theorem nonceSlotV1_idem (recordClass : NonceRecordClassV1) (slot : UInt16) :
    nonceSlotV1 recordClass (nonceSlotV1 recordClass slot) = nonceSlotV1 recordClass slot := by
  cases recordClass <;> rfl

section Receiving

variable {aead : AEAD} {s r : EnvelopeCodecV1}
  {recordClass : NonceRecordClassV1} {recordType slot : UInt16}
  {nonce : FixedBytes 12} {plaintext recordAAD : List UInt8}

/-- The receiver's checks pass on a sealed record, and the nonce it expects is
the one the sender used. -/
theorem authenticateChecksV1_of_sealed (haead : aead.Correct) (hpeers : Peers s r)
    {senderDst dst : Option BorrowedDestinationV1}
    (hchecks : s.sealChecksV1 senderDst recordClass recordType slot plaintext = .ok ())
    (hslot : validateNonceSlotV1 recordClass (nonceSlotV1 recordClass slot) = .ok ())
    (hderive : deriveNonceV1 s.nonces.outbound.config (nonceSlotV1 recordClass slot)
      (s.nonces.outbound.load (nonceSlotV1 recordClass slot)).next = .ok nonce)
    (hdst : checkDestinationV1 dst plaintext.length
      (plaintext.length + aeadOverhead) = .ok ()) (recordAAD : List UInt8) :
    r.authenticateChecksV1 dst recordClass
      (s.nextRecordV1 aead recordType (nonceSlotV1 recordClass slot) nonce
        plaintext recordAAD) = .ok nonce := by
  simp only [sealChecksV1, check_ok_iff, ensure_eq_ok] at hchecks
  obtain ⟨htype, hallowed, hlength, -⟩ := hchecks
  have hmax := s.context.maxEnvelopeBytes.toNat_lt
  have hsealed : (UInt32.ofNat (plaintext.length + aeadOverhead)).toNat =
      plaintext.length + aeadOverhead :=
    UInt32.toNat_ofNat_of_lt' (by rw [UInt32.size]; omega)
  have hvalid := (deriveNonceV1_eq_ok.mp hderive).1
  simp only [authenticateChecksV1, check_ok_iff, ensure_eq_ok]
  simp only [nextRecordV1, sealedRecordV1,
    haead.length_encrypt, hsealed, nonceSlotV1_idem, hpeers.config,
    hpeers.context, hpeers.epoch, NonceDirectionConfigV1.expectedV1, check_ok_iff]
  refine ⟨⟨htype, trivial, trivial⟩, hallowed, hslot,
    ⟨Nat.le_add_left _ _, hlength, trivial⟩, ?_, hvalid, hslot, hderive⟩
  exact hdst

/-- The receiver decrypts a sealed record to the plaintext. -/
theorem openRecordV1_of_sealed (haead : aead.Correct) (hpeers : Peers s r)
    {dst : Option BorrowedDestinationV1} (hdst : dst.isSome = true → recordType = 1) :
    r.openRecordV1 aead dst (s.nextRecordV1 aead recordType slot nonce plaintext recordAAD)
      recordAAD nonce = .ok plaintext := by
  have haad : (if dst.isSome then
        r.writeApplicationAADV1 (s.nextRecordV1 aead recordType slot nonce plaintext recordAAD)
      else
        r.aadV1 (s.nextRecordV1 aead recordType slot nonce plaintext recordAAD)
          recordAAD) =
      s.aadV1 (s.nextRecordV1 aead recordType slot nonce plaintext recordAAD)
        recordAAD := by
    rw [aadV1_of_destination r hdst, aadV1_congr hpeers.context]
  simp only [openRecordV1]
  rw [haad, hpeers.key]
  simp only [nextRecordV1, aadV1_with_ciphertext, haead.decrypt_encrypt]

variable {history : List CommittedRecordV1}

theorem Coupled.advance (h : Coupled s r history) {window : ReplayWindowStateV1}
    (hfresh : (s.nonces.outbound.load slot).exhausted = false)
    (hwindow : r.CommitWindow slot window)
    (hcheck : window.checkV1Locked (s.nonces.outbound.load slot).next = .ok ()) :
    Coupled
      { s with nonces := { s.nonces with
        outbound := s.nonces.outbound.store slot (s.nonces.outbound.load slot).advance } }
      (r.storeReplay slot (window.recordV1 (s.nonces.outbound.load slot).next))
      (history ++ [⟨r.replayKeyV1 slot, r.epoch, (s.nonces.outbound.load slot).next⟩]) where
  peers := ⟨h.peers.context, h.peers.key, h.peers.config, h.peers.epoch, h.peers.mode⟩
  represents := h.represents.storeReplay hwindow hcheck
  counts := by
    intro slot'
    have hcount := h.counts slot
    rw [replayKeyV1_storeReplay]
    by_cases hkey : r.replayKeyV1 slot' = r.replayKeyV1 slot
    · have hdomain : s.nonces.outbound.config.stateSlot slot' =
          s.nonces.outbound.config.stateSlot slot := by
        rw [← h.peers.replayKey_eq, ← h.peers.replayKey_eq, hkey]
      rw [hkey, keyHistory_concat_same history
        ⟨r.replayKeyV1 slot, r.epoch, (s.nonces.outbound.load slot).next⟩,
        map_append, hcount, NonceDirectionStateV1.load_store_same _ _ hdomain,
        NonceSequenceStateV1.handedCount_advance hfresh, range_succ]
      simp [NonceSequenceStateV1.handedCount, hfresh]
    · have hdomain : s.nonces.outbound.config.stateSlot slot' ≠
          s.nonces.outbound.config.stateSlot slot := by
        rw [← h.peers.replayKey_eq, ← h.peers.replayKey_eq]
        exact hkey
      rw [keyHistory_concat_of_ne hkey, NonceDirectionStateV1.load_store_of_ne _ _ hdomain]
      exact h.counts slot'

/-- The window of the slot accepts the sender's next sequence. -/
theorem Coupled.check_next (h : Coupled s r history) {window : ReplayWindowStateV1}
    (hfresh : (s.nonces.outbound.load slot).exhausted = false)
    (hwindow : r.CommitWindow slot window) :
    window.checkV1Locked (s.nonces.outbound.load slot).next = .ok () := by
  obtain ⟨hpolicy, hrep⟩ := h.represents.commitWindow hwindow
  have hcount := h.counts slot
  have hlength : (keyHistory (r.replayKeyV1 slot) history).length =
      (s.nonces.outbound.load slot).next.toNat := by
    have := congrArg length hcount
    simpa [NonceSequenceStateV1.handedCount, hfresh] using this
  refine checkV1Locked_in_order hrep ?_ ?_ hlength.symm
  · have hvalid := h.represents.policy_valid
    simp only [validateReplayPolicyV1, check_ok_iff, ensure_eq_ok] at hvalid
    rw [hpolicy]
    exact hvalid.2
  · rw [hlength, hcount]
    simp [NonceSequenceStateV1.handedCount, hfresh]

end Receiving

/-! ## Runs -/

namespace SealRequestV1

def dst : SealRequestV1 → Option BorrowedDestinationV1
  | control _ _ _ => none
  | application _ _ => none
  | applicationInto dst _ _ => some dst

def recordType : SealRequestV1 → UInt16
  | control recordType _ _ => recordType
  | application _ _ => 1
  | applicationInto _ _ _ => 1

def slot : SealRequestV1 → UInt16
  | control _ _ _ => 0
  | application slot _ => slot
  | applicationInto _ slot _ => slot

end SealRequestV1

/-- The sealing functions are one function at different arguments. -/
theorem sealStepV1_eq (aead : AEAD) (c : EnvelopeCodecV1) (request : SealRequestV1) :
    sealStepV1 aead c request =
      c.sealDestinationV1 aead request.dst request.recordClass
        request.recordType request.slot request.plaintext request.recordAAD := by
  cases request <;> rfl

theorem checkDestinationV1_of_fits {dst : Option BorrowedDestinationV1}
    {produced : ProducedRecordV1} (h : DestinationFits dst produced) :
    checkDestinationV1 dst (produced.record.ciphertext.length - aeadOverhead)
      produced.record.ciphertext.length = .ok () := by
  rcases dst with _ | d
  · rfl
  · exact ensure_of_pos (h d rfl).2

theorem dst_recordType (request : SealRequestV1)
    (_ : request.dst.isSome = true) : request.recordType = 1 := by
  cases request <;> simp_all [SealRequestV1.dst, SealRequestV1.recordType]

theorem recordType_of_application {request : SealRequestV1}
    (h : request.recordClass = .nonceApplicationRecordV1) : request.recordType = 1 := by
  cases request with
  | control => simp [SealRequestV1.recordClass] at h
  | application => rfl
  | applicationInto => rfl

variable {dst : ProducedRecordV1 → Option BorrowedDestinationV1}
  {history : List CommittedRecordV1}

/-- One produced record is accepted, and the coupling is kept. -/
theorem Coupled.deliver {aead : AEAD} (haead : aead.Correct) {s : EnvelopeCodecV1}
    (h : Coupled s w.codec history) {request : SealRequestV1} {record : EnvelopeRecordV1}
    (hsealed : (sealStepV1 aead s request).2 = .ok record)
    (hfits : DestinationFits (dst ⟨request, record⟩) ⟨request, record⟩) :
    (receiveStepV1 aead dst w ⟨request, record⟩).2 = .ok request.plaintext ∧
      ∃ history', Coupled (sealStepV1 aead s request).1
        (receiveStepV1 aead dst w ⟨request, record⟩).1.codec history' := by
  have hdstType : (dst ⟨request, record⟩).isSome = true → request.recordType = 1 := by
    intro hsome
    obtain ⟨d, hd⟩ := Option.isSome_iff_exists.mp hsome
    exact recordType_of_application (hfits d hd).1
  rw [sealStepV1_eq] at hsealed ⊢
  rcases s.sealDestinationV1_cases aead request.recordClass request.slot
      request.plaintext request.recordAAD (dst_recordType request) with
    ⟨err, hfail⟩ | ⟨nonce, hchecks, hslot, hfresh, hderive, hok⟩
  · rw [hfail] at hsealed
    cases hsealed
  rw [hok] at hsealed ⊢
  cases hsealed
  obtain ⟨window, hwindow⟩ := h.represents.exists_commitWindow
    (nonceSlotV1 request.recordClass request.slot)
  have hcheck := h.check_next hfresh hwindow
  have hdstCheck := checkDestinationV1_of_fits hfits
  rw [length_nextRecordV1 haead, Nat.add_sub_cancel] at hdstCheck
  have hexpected := authenticateChecksV1_of_sealed haead h.peers hchecks hslot
    hderive hdstCheck request.recordAAD
  have hauthentic := authenticateDestinationV1_ok hexpected
    hwindow hcheck (openRecordV1_of_sealed haead h.peers hdstType)
  obtain ⟨hcodec, hreply⟩ := receiveStepV1_ok hauthentic hwindow hcheck
  refine ⟨hreply, ?_⟩
  rw [hcodec]
  exact ⟨_, h.advance hfresh hwindow hcheck⟩

/-- Whatever the sender produces from a coupled state is accepted. -/
theorem Coupled.replies_eq {aead : AEAD} (haead : aead.Correct)
    (requests : List SealRequestV1) {s : EnvelopeCodecV1} (h : Coupled s w.codec history)
    (hfits : ∀ produced ∈ emissions (sealStepV1 aead) producedRecord s requests,
      DestinationFits (dst produced) produced) :
    replies (receiveStepV1 aead dst) w
        (emissions (sealStepV1 aead) producedRecord s requests) =
      (emissions (sealStepV1 aead) producedRecord s requests).map
        fun produced => .ok produced.request.plaintext := by
  induction requests generalizing s w history with
  | nil => rfl
  | cons request requests ih =>
    rcases hsealed : (sealStepV1 aead s request).2 with err | record
    · have hsame : (sealStepV1 aead s request).1 = s := by
        rw [sealStepV1_eq] at hsealed ⊢
        rcases s.sealDestinationV1_cases aead request.recordClass request.slot
            request.plaintext request.recordAAD (dst_recordType request) with
          ⟨_, hfail⟩ | ⟨_, -, -, -, -, hok⟩
        · rw [hfail]
        · rw [hok] at hsealed
          cases hsealed
      have hnone : producedRecord request (sealStepV1 aead s request).2 =
          none := by
        rw [hsealed]
        rfl
      rw [emissions, hnone, hsame] at hfits ⊢
      exact ih h hfits
    · have hsome : producedRecord request (sealStepV1 aead s request).2 =
          some ⟨request, record⟩ := by
        rw [hsealed]
        rfl
      rw [emissions, hsome] at hfits ⊢
      simp only [Option.toList_some, singleton_append, forall_mem_cons] at hfits ⊢
      obtain ⟨hreply, history', hnext⟩ := h.deliver haead hsealed hfits.1
      rw [replies, map_cons, hreply, ih hnext hfits.2]

theorem coupled_of_new {schedule : KeySchedule} {context : EnvelopeContextV1}
    {client senderBounded receiverBounded : Bool} {sender receiver : EnvelopeCodecV1}
    (hsender : newRoleEnvelopeV1 schedule context client senderBounded = .ok sender)
    (hreceiver : newRoleEnvelopeV1 schedule context (!client) receiverBounded =
      .ok receiver) : Coupled sender receiver [] := by
  obtain ⟨-, rfl⟩ := newRoleEnvelopeV1_eq_ok hsender
  have hrep := newRoleEnvelopeV1_represents hreceiver
  obtain ⟨-, rfl⟩ := newRoleEnvelopeV1_eq_ok hreceiver
  refine ⟨⟨rfl, ?_, ?_, rfl, rfl⟩, hrep, ?_⟩
  · simp [freshEnvelopeCodecV1]
  · simp [freshEnvelopeCodecV1]
  · intro slot
    cases senderBounded <;> rfl

/-- In-order acceptance. With a correct cipher, a peer of the same context
and key schedule which authenticates and commits the produced records in
production order accepts every one of them and recovers its plaintext. -/
theorem in_order_acceptance {aead : AEAD} (haead : aead.Correct)
    {schedule : KeySchedule} {context : EnvelopeContextV1}
    {client senderBounded receiverBounded : Bool} {sender receiver : EnvelopeCodecV1}
    (hsender : newRoleEnvelopeV1 schedule context client senderBounded = .ok sender)
    (hreceiver : newRoleEnvelopeV1 schedule context (!client) receiverBounded = .ok receiver)
    (requests : List SealRequestV1) (dst : ProducedRecordV1 → Option BorrowedDestinationV1)
    (hdst : ∀ produced ∈ emissions (sealStepV1 aead) producedRecord sender requests,
      DestinationFits (dst produced) produced) :
    replies (receiveStepV1 aead dst) (EnvelopeWorldV1.init receiver)
        (emissions (sealStepV1 aead) producedRecord sender requests) =
      (emissions (sealStepV1 aead) producedRecord sender requests).map
        fun produced => .ok produced.request.plaintext :=
  (coupled_of_new hsender hreceiver).replies_eq haead requests hdst

/-- Control and application seals on two slots; the third is refused. -/
def sampleRequestsV1 : List SealRequestV1 :=
  [.application 7 [1, 2], .control 2 [3] [9], .application 0 [4],
    .application 9 [], .application 7 [5]]

theorem in_order_acceptance_sample :
    ∃ sender receiver,
      newRoleEnvelopeV1 sampleScheduleV1 sampleContextV1 true false =
        .ok sender ∧
      newRoleEnvelopeV1 sampleScheduleV1 sampleContextV1 (!true) true =
        .ok receiver ∧
      (emissions (sealStepV1 plainAEAD) producedRecord sender
        sampleRequestsV1).length = 4 ∧
      replies (receiveStepV1 plainAEAD fun _ => none) (EnvelopeWorldV1.init receiver)
          (emissions (sealStepV1 plainAEAD) producedRecord sender
            sampleRequestsV1) =
        (emissions (sealStepV1 plainAEAD) producedRecord sender
          sampleRequestsV1).map fun produced => .ok produced.request.plaintext := by
  refine ⟨_, _, sampleCodec_ok true false, sampleCodec_ok (!true) true, rfl, ?_⟩
  exact in_order_acceptance plainAEAD_correct (sampleCodec_ok true false)
    (sampleCodec_ok (!true) true) sampleRequestsV1 (fun _ => none) (fun _ _ d hd => by cases hd)

end Kurdistan.Security
