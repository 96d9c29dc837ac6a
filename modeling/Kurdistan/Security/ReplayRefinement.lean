import Mathlib.Data.Finset.Dedup
import Kurdistan.Security.ReplaySafety

/-!
# The bitmap window refines the map window

Both storages of a replay window represent the same history. Every check is a
function of the maximum and of the remembered sequences, so two windows which
represent one history answer alike, and their metadata agree: inside the
window a sequence is determined by its ring position, so the population count
of the bitmap is the size of the map.
-/

namespace Kurdistan.Security

open Support

/-- The remembered part of a history as a finite set. -/
def rememberedSequences (window : UInt64) (history : List UInt64) : Finset UInt64 :=
  history.toFinset.filter fun sequence =>
    lowestRemembered window history ≤ sequence.toNat

theorem mem_rememberedSequences {window : UInt64} {history : List UInt64} {sequence : UInt64} :
    sequence ∈ rememberedSequences window history ↔ Remembered window history sequence := by
  simp [rememberedSequences, Remembered]

namespace ReplayWindowStateV1.Represents

variable {r t : ReplayWindowStateV1} {history : List UInt64}

/-! ## Counting -/

variable (h : r.Represents history)

include h

/-- Ring positions are a faithful picture of the remembered sequences. -/
theorem card_holds {words : List UInt64} (hstorage : r.storage = .bitmap words) :
    ((Finset.range (64 * words.length)).filter fun n =>
        Bitmap.holds words n = true).card =
      (rememberedSequences r.window history).card := by
  have hholds := h.holds
  rw [hstorage] at hholds
  obtain ⟨hlength, hbits⟩ := hholds
  have himage : (Finset.range (64 * words.length)).filter
      (fun n => Bitmap.holds words n = true) =
        (rememberedSequences r.window history).image
          fun sequence => sequence.toNat % r.window.toNat := by
    ext n
    rw [Finset.mem_filter, Finset.mem_range, Finset.mem_image, hbits]
    simp only [mem_rememberedSequences]
    refine and_iff_right_of_imp ?_
    rintro ⟨sequence, -, rfl⟩
    have hmod := Nat.mod_lt sequence.toNat h.window_pos
    omega
  rw [himage]
  refine Finset.card_image_of_injOn ?_
  intro a ha b hb hmod
  rw [Finset.mem_coe, mem_rememberedSequences] at ha hb
  exact UInt64.toNat_inj.mp (Bitmap.eq_of_mod_eq_in_window ha.2
    (h.remembered_lt ha) hb.2 (h.remembered_lt hb) hmod)

theorem seenCountV3Locked_eq :
    r.seenCountV3Locked = (rememberedSequences r.window history).card := by
  rcases hstorage : r.storage with sequences | words
  · have hholds := h.holds
    rw [hstorage] at hholds
    simp only [seenCountV3Locked, hstorage]
    congr 1
    ext sequence
    rw [mem_rememberedSequences]
    exact hholds sequence
  · simp only [seenCountV3Locked, hstorage]
    rw [Bitmap.onesCount_eq_countP, ← h.card_holds hstorage, List.countP_eq_length_filter]
    simp [Finset.card_def, Multiset.range]

/-! ## Windows with one history -/

variable (h' : t.Represents history)

include h'

theorem initialized_congr : r.initialized = t.initialized :=
  Bool.eq_iff_iff.mpr (h.initialized_iff.trans h'.initialized_iff.symm)

theorem highest_congr : r.highest = t.highest :=
  UInt64.toNat_inj.mp (h.highest_eq.trans h'.highest_eq.symm)

theorem checkV1Locked_congr (hpolicy : r.policy = t.policy)
    (hwindow : r.window = t.window) (sequence : UInt64) :
    r.checkV1Locked sequence = t.checkV1Locked sequence := by
  have hcontains : r.containsV3Locked sequence = t.containsV3Locked sequence := by
    rw [Bool.eq_iff_iff, h.containsV3Locked_iff, h'.containsV3Locked_iff, hwindow]
  simp only [checkV1Locked, checkOrderedV1Locked, checkBoundedV1Locked,
    checkWindowedV1Locked, hcontains, hpolicy, hwindow, h.initialized_congr h', h.highest_congr h']

theorem metadataV1_congr (hpolicy : r.policy = t.policy)
    (hwindow : r.window = t.window) : r.metadataV1 = t.metadataV1 := by
  simp only [metadataV1, h.seenCountV3Locked_eq, h'.seenCountV3Locked_eq,
    hpolicy, hwindow, h.initialized_congr h', h.highest_congr h']

end ReplayWindowStateV1.Represents

/-! ## Lockstep -/

/-- Two windows with one policy, one size and one history. -/
def SameHistory (r t : ReplayWindowStateV1) : Prop :=
  r.policy = t.policy ∧ r.window = t.window ∧ ∃ history, r.Represents history ∧ t.Represents history

theorem SameHistory.replayStepV1 {r t : ReplayWindowStateV1}
    (h : SameHistory r t) (call : ReplayCallV1) :
    SameHistory (replayStepV1 r call).1 (replayStepV1 t call).1 ∧
      (replayStepV1 r call).2 = (replayStepV1 t call).2 := by
  obtain ⟨hpolicy, hwindow, history, hr, ht⟩ := h
  have hcheck := hr.checkV1Locked_congr ht hpolicy hwindow
  cases call with
  | plausibleV1 sequence =>
    exact ⟨⟨hpolicy, hwindow, history, hr, ht⟩, hcheck sequence⟩
  | commitAuthenticated sequence =>
    rcases hresult : t.checkV1Locked sequence with err | ⟨⟩
    · have hleft := (hcheck sequence).trans hresult
      simp only [Security.replayStepV1, ReplayWindowStateV1.commitAuthenticated,
        hleft, hresult, and_true]
      exact ⟨hpolicy, hwindow, history, hr, ht⟩
    · have hleft := (hcheck sequence).trans hresult
      simp only [Security.replayStepV1, ReplayWindowStateV1.commitAuthenticated,
        hleft, hresult, and_true]
      exact ⟨by simpa using hpolicy, by simpa using hwindow,
        history ++ [sequence], hr.recordV1 hleft, ht.recordV1 hresult⟩

/-- Bitmap refinement. Every window of the bounded arena answers every run of
checks and commits as the map-backed window of the same policy and size does,
and reports the same metadata afterwards. -/
theorem replayArena_refines_map {policy : EffectiveSecurityPolicy} {seen : ReplayWindowStateV1}
    (hseen : newReplayWindowV1 policy.replayPolicy policy.replayWindowSize = .ok seen)
    (domain : Fin (nonceDomainsV3 policy.nonceMode)) (calls : List ReplayCallV1) :
    replies replayStepV1 (newReplayArenaV3 policy domain) calls =
        replies replayStepV1 seen calls ∧
      (stateAfter replayStepV1 (newReplayArenaV3 policy domain)
          calls).metadataV1 =
        (stateAfter replayStepV1 seen calls).metadataV1 := by
  have hfreshSeen : FreshReplayWindowV1 policy.replayPolicy
      policy.replayWindowSize seen := Or.inl hseen
  have hfreshBitmap : FreshReplayWindowV1 policy.replayPolicy
      policy.replayWindowSize (newReplayArenaV3 policy domain) :=
    Or.inr ⟨(newReplayWindowV1_eq_ok.mp hseen).1, rfl⟩
  have hstart : SameHistory (newReplayArenaV3 policy domain) seen := by
    refine ⟨hfreshBitmap.policy_eq.trans hfreshSeen.policy_eq.symm, ?_, [],
      hfreshBitmap.represents, hfreshSeen.represents⟩
    obtain ⟨-, rfl⟩ := newReplayWindowV1_eq_ok.mp hseen
    rfl
  obtain ⟨⟨hpolicy, hwindow, history, hr, ht⟩, hreplies⟩ :=
    replies_eq_of_lockstep SameHistory (fun _ _ call h => h.replayStepV1 call) hstart calls
  exact ⟨hreplies, hr.metadataV1_congr ht hpolicy hwindow⟩

theorem replayArena_refines_map_at_limit :
    ∃ seen,
      newReplayWindowV1 samplePolicyV1.replayPolicy
        samplePolicyV1.replayWindowSize = .ok seen ∧
      replies replayStepV1 (newReplayArenaV3 samplePolicyV1 ⟨7, by decide⟩)
          callsAtLimit = replies replayStepV1 seen callsAtLimit :=
  ⟨_, rfl, (replayArena_refines_map rfl ⟨7, by decide⟩ callsAtLimit).1⟩

end Kurdistan.Security
