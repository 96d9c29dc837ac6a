import Kurdistan.Security.Capability
import Kurdistan.Security.NonceSafety
import Kurdistan.Security.ReplaySafety

/-!
# What the envelope operations do

One lemma for each operation of the codec: what a constructed codec looks
like, what a commit does to the replay windows, and how a codec's windows
represent the history of its commits, one history per replay key.
-/

namespace Kurdistan.Security

open Support ReplayWindowStateV1 List

namespace EnvelopeCodecV1

/-! ## Stored windows -/

section

variable (c : EnvelopeCodecV1) (slot slot' : UInt16) (window : ReplayWindowStateV1)

include c

@[simp] theorem storeReplay_context : (c.storeReplay slot window).context = c.context := rfl

@[simp] theorem replayKeyV1_storeReplay :
    (c.storeReplay slot window).replayKeyV1 slot' = c.replayKeyV1 slot' := rfl

theorem loadReplay_storeReplay :
    (c.storeReplay slot window).loadReplay slot' =
      if c.replayKeyV1 slot' = c.replayKeyV1 slot then some window
      else c.loadReplay slot' := by
  have hdomain : c.replayDomain slot' = c.replayDomain slot ↔
      c.replayKeyV1 slot' = c.replayKeyV1 slot := by
    simp [replayDomain, UInt16.toNat_inj]
  rcases hreplay : c.replay with windows | arena
  · simp only [loadReplay, storeReplay, hreplay, Function.update_apply]
    rfl
  · simp only [loadReplay, storeReplay, hreplay]
    by_cases hkey : c.replayKeyV1 slot' = c.replayKeyV1 slot
    · rw [if_pos hkey]
      congr 1
      have hsame := hdomain.mpr hkey
      exact hsame ▸ Function.update_self _ _ _
    · rw [if_neg hkey]
      congr 1
      exact Function.update_of_ne (fun h => hkey (hdomain.mp h)) _ _

end

theorem storeReplay_loaded {c : EnvelopeCodecV1} {slot : UInt16}
    {arena : Fin (nonceDomainsV3 c.context.effectivePolicy.nonceMode) →
      ReplayWindowStateV1} (h : c.replay = .windows arena) :
    c.storeReplay slot (arena (c.replayDomain slot)) = c := by
  have hsame : c.storeReplay slot (arena (c.replayDomain slot)) =
      { c with replay := .windows arena } := by
    simp [storeReplay, h]
  rw [hsame, ← h]

/-! ## Commits -/

/-- The window a commit works on: the stored one, or a fresh one. -/
def CommitWindow (c : EnvelopeCodecV1) (slot : UInt16) (window : ReplayWindowStateV1) : Prop :=
  c.loadReplay slot = some window ∨ (c.loadReplay slot = none ∧ c.newSlotWindowV1 = .ok window)

/-- A commit either fails and changes nothing, or records the sequence in the
window of the slot, which accepts it. -/
theorem commitReplayV1_cases (c : EnvelopeCodecV1) (slot : UInt16) (sequence : UInt64) :
    (∃ err, c.commitReplayV1 slot sequence = (c, .error err)) ∨
    (∃ window, c.CommitWindow slot window ∧
      window.checkV1Locked sequence = .ok () ∧
      c.commitReplayV1 slot sequence =
        (c.storeReplay slot (window.recordV1 sequence), .ok ())) := by
  rcases hreplay : c.replay with windows | arena
  · simp only [commitReplayV1, hreplay, CommitWindow, loadReplay]
    rcases hloaded : windows (c.replayKeyV1 slot) with _ | window
    · rcases hnew : c.newSlotWindowV1 with err | window
      · exact Or.inl ⟨err, rfl⟩
      · rcases hcheck : window.checkV1Locked sequence with err | ⟨⟩
        · left
          exact ⟨err, by simp [commitAuthenticated, hcheck]⟩
        · simp [commitAuthenticated, hcheck]
    · rcases hcheck : window.checkV1Locked sequence with err | ⟨⟩
      · left
        exact ⟨err, by simp [commitAuthenticated, hcheck]⟩
      · simp [commitAuthenticated, hcheck]
  · simp only [commitReplayV1, hreplay, CommitWindow, loadReplay]
    rcases hcheck : (arena (c.replayDomain slot)).checkV1Locked sequence with
      err | ⟨⟩
    · left
      simp [commitAuthenticated, hcheck, storeReplay_loaded hreplay]
    · right
      simp [commitAuthenticated, hcheck]

/-- A commit succeeds exactly when the window of the slot accepts the
sequence. -/
theorem commitReplayV1_of_check {c : EnvelopeCodecV1} {slot : UInt16}
    {sequence : UInt64} {window : ReplayWindowStateV1} (hwindow : c.CommitWindow slot window)
    (hcheck : window.checkV1Locked sequence = .ok ()) :
    c.commitReplayV1 slot sequence = (c.storeReplay slot (window.recordV1 sequence), .ok ()) := by
  rcases hreplay : c.replay with windows | arena
  · rw [CommitWindow, loadReplay, hreplay] at hwindow
    rcases hwindow with hload | ⟨hload, hnew⟩
    · simp [commitReplayV1, hreplay, hload, commitAuthenticated, hcheck]
    · simp [commitReplayV1, hreplay, hload, hnew, commitAuthenticated, hcheck]
  · rw [CommitWindow, loadReplay, hreplay] at hwindow
    obtain rfl : arena (c.replayDomain slot) = window := by
      simpa using hwindow
    simp [commitReplayV1, hreplay, commitAuthenticated, hcheck]

end EnvelopeCodecV1

/-! ## Histories of commits -/

/-- The sequences of a history which belong to one replay key. -/
def keyHistory (key : UInt16) (history : List CommittedRecordV1) : List UInt64 :=
  (history.filter fun record => record.replayKey == key).map CommittedRecordV1.sequence

theorem keyHistory_concat_same (history : List CommittedRecordV1) (record : CommittedRecordV1) :
    keyHistory record.replayKey (history ++ [record]) =
      keyHistory record.replayKey history ++ [record.sequence] := by
  simp [keyHistory]

theorem keyHistory_concat_of_ne {key : UInt16} {record : CommittedRecordV1}
    (h : key ≠ record.replayKey) (history : List CommittedRecordV1) :
    keyHistory key (history ++ [record]) = keyHistory key history := by
  simp [keyHistory, Ne.symm h]

theorem mem_keyHistory {record : CommittedRecordV1}
    {history : List CommittedRecordV1} (h : record ∈ history) :
    record.sequence ∈ keyHistory record.replayKey history :=
  mem_map.mpr ⟨record, mem_filter.mpr ⟨h, by simp⟩, rfl⟩

namespace EnvelopeCodecV1

/-- The codec's windows represent the history of its commits, key by key. -/
structure Represents (c : EnvelopeCodecV1) (history : List CommittedRecordV1) : Prop where
  policy_valid : validateReplayPolicyV1 c.context.effectivePolicy.replayPolicy
    c.context.effectivePolicy.replayWindowSize = .ok ()
  nodup : history.Nodup
  stored : ∀ slot window, c.loadReplay slot = some window →
    window.policy = c.context.effectivePolicy.replayPolicy ∧
      window.Represents (keyHistory (c.replayKeyV1 slot) history)
  absent : ∀ slot, c.loadReplay slot = none → keyHistory (c.replayKeyV1 slot) history = []

namespace Represents

variable {c : EnvelopeCodecV1} {history : List CommittedRecordV1} (h : c.Represents history)

include h

/-- The window a commit works on represents the history of its key. -/
theorem commitWindow {slot : UInt16}
    {window : ReplayWindowStateV1} (hwindow : c.CommitWindow slot window) :
    window.policy = c.context.effectivePolicy.replayPolicy ∧
      window.Represents (keyHistory (c.replayKeyV1 slot) history) := by
  rcases hwindow with hload | ⟨hload, hnew⟩
  · exact h.stored slot window hload
  · have hfresh : FreshReplayWindowV1 c.context.effectivePolicy.replayPolicy
        c.context.effectivePolicy.replayWindowSize window := Or.inl hnew
    rw [h.absent slot hload]
    exact ⟨hfresh.policy_eq, hfresh.represents⟩

theorem exists_commitWindow (slot : UInt16) : ∃ window, c.CommitWindow slot window := by
  rcases hload : c.loadReplay slot with _ | window
  · exact ⟨_, Or.inr ⟨hload, newReplayWindowV1_eq_ok.mpr ⟨h.policy_valid, rfl⟩⟩⟩
  · exact ⟨window, Or.inl hload⟩

/-- Recording an accepted sequence extends the history of the codec. -/
theorem storeReplay {slot : UInt16}
    {sequence : UInt64} {window : ReplayWindowStateV1} (hwindow : c.CommitWindow slot window)
    (hcheck : window.checkV1Locked sequence = .ok ()) :
    (c.storeReplay slot (window.recordV1 sequence)).Represents
      (history ++ [⟨c.replayKeyV1 slot, c.epoch, sequence⟩]) := by
  obtain ⟨hpolicy, hrep⟩ := h.commitWindow hwindow
  refine ⟨h.policy_valid, ?_, ?_, ?_⟩
  · rw [← concat_eq_append]
    refine h.nodup.concat fun hmem => ?_
    exact hrep.not_mem_of_check hcheck (mem_keyHistory hmem)
  · intro slot' window' hload
    rw [loadReplay_storeReplay] at hload
    rw [replayKeyV1_storeReplay]
    split_ifs at hload with hkey
    · obtain rfl : window.recordV1 sequence = window' := by simpa using hload
      rw [hkey]
      refine ⟨by simpa using hpolicy, ?_⟩
      rw [keyHistory_concat_same history ⟨c.replayKeyV1 slot, c.epoch, sequence⟩]
      exact hrep.recordV1 hcheck
    · rw [keyHistory_concat_of_ne hkey]
      exact h.stored slot' window' hload
  · intro slot' hload
    rw [loadReplay_storeReplay] at hload
    split_ifs at hload with hkey
    rw [keyHistory_concat_of_ne hkey]
    exact h.absent slot' hload

end Represents

end EnvelopeCodecV1

/-! ## Construction -/

/-- The configuration of the direction which the client, or else the relay,
writes to. -/
def roleConfigV1 (schedule : KeySchedule) (mode : Choice NonceMode)
    (client : Bool) : NonceDirectionConfigV1 where
  base := fixedBytes 12 (if client then schedule.clientNonceBase else schedule.serverNonceBase)
  mode := mode
  epoch := schedule.epoch
  direction :=
    if client then directionClientToRelayV1 else directionRelayToClientV1

/-- The traffic key of that direction. -/
def roleKeyV1 (schedule : KeySchedule) (client : Bool) : List UInt8 :=
  if client then schedule.clientWriteKey else schedule.serverWriteKey

/-- Counters which have handed out nothing. -/
def freshCountersV1 (domains : ℕ) (bounded : Bool) : NonceSequencesV1 domains :=
  if bounded then .fixed fun _ => .zero else .sequences fun _ => .zero

variable {mode : Choice NonceMode}

theorem newNonceDirectionConfigV1_eq_ok {epoch : UInt64} {direction : UInt16} {base : List UInt8}
    {config : NonceDirectionConfigV1} :
    newNonceDirectionConfigV1 epoch direction base mode = .ok config ↔
      validateDirectionV1 direction = .ok () ∧ base.length = nonceBytesV1 ∧
        validateNonceModeV1 mode = .ok () ∧
        { base := fixedBytes 12 base, mode, epoch, direction } = config := by
  simp [newNonceDirectionConfigV1, check_ok_iff]

theorem mapError_eq_ok {ε δ α : Type} {f : ε → δ} {x : Except ε α} {a : α} :
    x.mapError f = .ok a ↔ x = .ok a := by
  cases x <;> simp [Except.mapError]

variable {bounded : Bool}

theorem newRoleNonceOwnerV1_eq_ok {epoch : UInt64} {outbound inbound : UInt16 × FixedBytes 12}
    {owner : NonceOwnerV1} (h : newRoleNonceOwnerV1 epoch mode bounded outbound inbound = .ok
      owner) :
    owner = {
      outbound := {
        config := { base := outbound.2, mode, epoch, direction := outbound.1 }
        counters := freshCountersV1 _ bounded }
      inbound := { base := inbound.2, mode, epoch, direction := inbound.1 } } := by
  simp only [newRoleNonceOwnerV1, newNonceDirectionBackendV1, bind_ok_iff,
    mapError_eq_ok, newNonceDirectionConfigV1_eq_ok] at h
  obtain ⟨_, ⟨_, ⟨-, -, -, rfl⟩, hbackend⟩, _, ⟨-, -, -, rfl⟩, howner⟩ := h
  cases hbackend
  cases howner
  simp [freshCountersV1]

/-- The codec of a role, before any use. -/
def freshEnvelopeCodecV1 (schedule : KeySchedule) (context : EnvelopeContextV1)
    (client bounded : Bool) : EnvelopeCodecV1 where
  context := context
  epoch := schedule.epoch
  outbound := roleKeyV1 schedule client
  inbound := roleKeyV1 schedule !client
  nonces := {
    outbound := {
      config := roleConfigV1 schedule context.effectivePolicy.nonceMode client
      counters := freshCountersV1 _ bounded }
    inbound := roleConfigV1 schedule context.effectivePolicy.nonceMode !client }
  replay :=
    if bounded then .windows (newReplayArenaV3 context.effectivePolicy)
    else .replay fun _ => none

variable {schedule : KeySchedule}

theorem nonceOwnerMaterialFromScheduleV1_eq_ok {material : NonceOwnerMaterialV1}
    (h : nonceOwnerMaterialFromScheduleV1 schedule mode = .ok material) :
    material = {
      epoch := schedule.epoch
      clientToRelay := fixedBytes 12 schedule.clientNonceBase
      relayToClient := fixedBytes 12 schedule.serverNonceBase } := by
  simp only [nonceOwnerMaterialFromScheduleV1, check_ok_iff] at h
  obtain ⟨-, -, hmaterial⟩ := h
  cases hmaterial
  rfl

theorem newAEADV1_eq_ok {key result : List UInt8} :
    newAEADV1 key = .ok result ↔ key.length = 32 ∧ key = result := by
  simp [newAEADV1, check_ok_iff]

variable {context : EnvelopeContextV1} {c : EnvelopeCodecV1}

theorem newEnvelopeCodecBackendV1_eq_ok {owner : NonceOwnerV1} {outboundKey inboundKey : List UInt8}
    (h : newEnvelopeCodecBackendV1 schedule context owner outboundKey inboundKey
      bounded = .ok c) :
    c = {
      context
      epoch := schedule.epoch
      outbound := outboundKey
      inbound := inboundKey
      nonces := owner
      replay :=
        if bounded then .windows (newReplayArenaV3 context.effectivePolicy)
        else .replay fun _ => none } := by
  simp only [newEnvelopeCodecBackendV1, check_ok_iff] at h
  obtain ⟨-, -, hciphers⟩ := h
  simp only [bind_ok_iff, newAEADV1_eq_ok] at hciphers
  obtain ⟨_, ⟨-, rfl⟩, _, ⟨-, rfl⟩, hc⟩ := hciphers
  cases hc
  rfl

theorem newRoleEnvelopeV1_eq_ok {client : Bool}
    (h : newRoleEnvelopeV1 schedule context client bounded = .ok c) :
    validateEnvelopeContextV1 context = .ok () ∧
      c = freshEnvelopeCodecV1 schedule context client bounded := by
  simp only [newRoleEnvelopeV1, check_ok_iff] at h
  obtain ⟨hcontext, -, hrole⟩ := h
  refine ⟨hcontext, ?_⟩
  cases client with
  | true =>
    simp only [if_true, newClientNonceOwnerV1, bind_ok_iff] at hrole
    obtain ⟨owner, ⟨material, hmaterial, howner⟩, hbackend⟩ := hrole
    rw [nonceOwnerMaterialFromScheduleV1_eq_ok hmaterial] at howner
    rw [newEnvelopeCodecBackendV1_eq_ok hbackend, newRoleNonceOwnerV1_eq_ok howner]
    rfl
  | false =>
    simp only [Bool.false_eq_true, if_false, newRelayEnvelopeBackendV1, check_ok_iff] at hrole
    simp only [newRelayNonceOwnerV1, bind_ok_iff] at hrole
    obtain ⟨-, owner, ⟨material, hmaterial, howner⟩, hbackend⟩ := hrole
    rw [nonceOwnerMaterialFromScheduleV1_eq_ok hmaterial] at howner
    rw [newEnvelopeCodecBackendV1_eq_ok hbackend, newRoleNonceOwnerV1_eq_ok howner]
    rfl

theorem validReplayPolicy_of_context (h : validateEnvelopeContextV1 context = .ok ()) :
    validateReplayPolicyV1 context.effectivePolicy.replayPolicy
      context.effectivePolicy.replayWindowSize = .ok () := by
  simp only [validateEnvelopeContextV1, validateEnvelopePolicyV1, check_ok_iff, ensure_eq_ok] at h
  exact h.1.1.2.2

theorem freshEnvelopeCodecV1_represents (client bounded : Bool)
    (h : validateEnvelopeContextV1 context = .ok ()) :
    (freshEnvelopeCodecV1 schedule context client bounded).Represents [] := by
  have hvalid := validReplayPolicy_of_context h
  refine ⟨hvalid, nodup_nil, ?_, fun _ _ => rfl⟩
  intro slot window hload
  cases bounded with
  | true =>
    obtain rfl : newReplayArenaWindowV3 context.effectivePolicy.replayPolicy
        context.effectivePolicy.replayWindowSize = window := by
      simpa [EnvelopeCodecV1.loadReplay, freshEnvelopeCodecV1, newReplayArenaV3] using hload
    have hfresh : FreshReplayWindowV1 context.effectivePolicy.replayPolicy
        context.effectivePolicy.replayWindowSize _ := Or.inr ⟨hvalid, rfl⟩
    exact ⟨rfl, hfresh.represents⟩
  | false => simp [EnvelopeCodecV1.loadReplay, freshEnvelopeCodecV1] at hload

theorem newRoleEnvelopeV1_represents {client : Bool}
    (h : newRoleEnvelopeV1 schedule context client bounded = .ok c) : c.Represents [] := by
  obtain ⟨hcontext, rfl⟩ := newRoleEnvelopeV1_eq_ok h
  exact freshEnvelopeCodecV1_represents client bounded hcontext

/-! ## A concrete codec -/

/-- A cipher which appends a tag of zeros: correct, though it hides nothing. -/
def plainAEAD : AEAD where
  encrypt _ _ plaintext _ := plaintext ++ replicate 16 0
  decrypt _ _ ciphertext _ :=
    let plaintext := ciphertext.take (ciphertext.length - 16)
    if ciphertext = plaintext ++ replicate 16 0 then some plaintext else none

theorem plainAEAD_correct : plainAEAD.Correct where
  decrypt_encrypt key nonce plaintext aad := by simp [plainAEAD]
  length_encrypt key nonce plaintext aad := by simp [plainAEAD, aeadOverhead]

def sampleScheduleV1 : KeySchedule where
  suite := defaultSuite
  epoch := 5
  clientWriteKey := replicate 32 1
  serverWriteKey := replicate 32 2
  clientNonceBase := replicate 12 3
  serverNonceBase := replicate 12 4
  exporterSecret := replicate 32 5
  rekeySecret := replicate 32 6
  transcriptHash := fixedBytes 32 (replicate 32 7)
  boundEpoch := 5
  exactV1 := true

def sampleContextV1 : EnvelopeContextV1 where
  effectivePolicy := samplePolicyV1
  maxEnvelopeBytes := 1024
  effectivePolicyHash := fixedBytes 32 [1]
  transcriptHash := fixedBytes 32 [2]
  capabilityHash := fixedBytes 32 [3]
  profileHash := fixedBytes 32 [4]
  framingHash := fixedBytes 32 [5]
  carrierContextHash := fixedBytes 32 [6]

theorem sampleCodec_ok (client bounded : Bool) :
    newRoleEnvelopeV1 sampleScheduleV1 sampleContextV1 client bounded =
      .ok (freshEnvelopeCodecV1 sampleScheduleV1 sampleContextV1 client bounded) := by
  cases client <;> cases bounded <;> rfl

end Kurdistan.Security
