import Mathlib.Data.Finset.Card
import Kurdistan.Security.KeySchedule
import Kurdistan.Support.Runs

/-!
# The legacy replay window

The older replay window rejects sequence zero and computes its bounds with
wrapping 64-bit sums. A sequence is forgotten only once the bound which
pruned it also rejects it, and the highest sequence never falls, so that no
sequence is accepted twice whatever the sums wrap to.
-/

namespace Kurdistan.Security

open Support

inductive LegacyReplayPolicy where
  | orderedOnly
  | strictNoReorder
  | boundedReorder
  | windowedReplay
  deriving DecidableEq

/-- `ErrReplay` or `ErrInvalidConfig`, each with the text which is wrapped around it. -/
inductive LegacyReplayError where
  | replay (detail : String)
  | invalidConfig (policy : String)

structure ReplayWindow where
  windowSize : Int
  policy : Choice LegacyReplayPolicy
  highest : UInt64
  seen : Finset UInt64

def newReplayWindow (policy : Choice LegacyReplayPolicy) (windowSize : Int) : ReplayWindow where
  windowSize := if windowSize ≤ 0 then 64 else windowSize
  policy := if policy = .other "" then .known .orderedOnly else policy
  highest := 0
  seen := ∅

namespace ReplayWindow

variable (r : ReplayWindow) (seq : UInt64)

/-- The window size as the sums use it. -/
def window : UInt64 := UInt64.ofInt r.windowSize

def checkLocked : Except LegacyReplayError Unit := do
  ensure (seq ≠ 0) (.replay "sequence zero")
  ensure (seq ∉ r.seen) (.replay "duplicate sequence")
  match r.policy with
  | .known .orderedOnly | .known .strictNoReorder =>
    ensure (seq = r.highest + 1) (.replay "out-of-order sequence")
  | .known .boundedReorder | .known .windowedReplay =>
    if r.highest = 0 then
      ensure (seq ≤ r.window) (.replay "future sequence outside window")
    else do
      ensure (seq ≤ r.highest + r.window) (.replay "future sequence outside window")
      ensure (r.highest < seq + r.window) (.replay "old sequence outside window")
  | .other text => .error (.invalidConfig text)

/-- The window after an accepted sequence. -/
def remember : ReplayWindow :=
  let highest := if r.highest < seq then seq else r.highest
  { r with
    highest
    seen := (insert seq r.seen).filter fun old => highest < old + r.window }

def commit : ReplayWindow × Except LegacyReplayError Unit :=
  match r.checkLocked seq with
  | .error err => (r, .error err)
  | .ok () => (r.remember seq, .ok ())

def accept : ReplayWindow × Except LegacyReplayError Unit := r.commit seq

/-- The sequence was accepted: it is remembered, or the old bound rejects it. -/
def Accepted (q : UInt64) : Prop :=
  q ≤ r.highest ∧ (q ∈ r.seen ∨ q + r.window ≤ r.highest)

variable {r seq}

theorem highest_le_remember : r.highest ≤ (r.remember seq).highest := by
  by_cases h : r.highest < seq
  · simpa [remember, h] using UInt64.le_of_lt h
  · simp [remember, h]

theorem le_highest_remember : seq ≤ (r.remember seq).highest := by
  by_cases h : r.highest < seq
  · simp [remember, h]
  · simpa [remember, h] using UInt64.not_lt.mp h

/-- What is kept or inserted stays accepted, also if it is pruned at once. -/
theorem accepted_remember {q : UInt64} (hle : q ≤ (r.remember seq).highest)
    (h : q = seq ∨ q ∈ r.seen) : (r.remember seq).Accepted q := by
  refine ⟨hle, ?_⟩
  by_cases hold : (r.remember seq).highest < q + r.window
  · left
    exact Finset.mem_filter.mpr ⟨Finset.mem_insert.mpr h, hold⟩
  · right
    exact UInt64.not_lt.mp hold

theorem Accepted.remember {q : UInt64} (h : r.Accepted q) : (r.remember seq).Accepted q := by
  obtain ⟨hle, hseen | hpruned⟩ := h
  · exact accepted_remember (UInt64.le_trans hle highest_le_remember) (.inr hseen)
  · exact ⟨UInt64.le_trans hle highest_le_remember,
      .inr (UInt64.le_trans hpruned highest_le_remember)⟩

/-- Under every policy the check rejects what was accepted before. -/
theorem not_accepted_of_checkLocked (h : r.checkLocked seq = .ok ()) : ¬ r.Accepted seq := by
  obtain ⟨hzero, h⟩ := check_ok_iff.mp h
  obtain ⟨hfresh, h⟩ := check_ok_iff.mp h
  rw [ensure_eq_ok] at hzero hfresh
  rintro ⟨hle, hseen | hpruned⟩
  · exact hfresh hseen
  have hbounds : seq.toNat ≤ r.highest.toNat := hle
  have hlt := r.highest.toNat_lt
  have hpositive : seq.toNat ≠ 0 := fun hnat => hzero (UInt64.toNat_inj.mp hnat)
  split at h
  -- In order, the highest sequence would have wrapped to zero.
  iterate 2
    rw [ensure_eq_ok] at h
    have hsum : seq.toNat = (r.highest.toNat + 1) % 2 ^ 64 := by rw [h, UInt64.toNat_add]; rfl
    omega
  iterate 2
    split_ifs at h with hfirst
    · rw [hfirst] at hbounds
      exact hpositive (Nat.le_zero.mp hbounds)
    · obtain ⟨-, hold⟩ := check_ok_iff.mp h
      rw [ensure_eq_ok] at hold
      exact UInt64.not_lt.mpr hpruned hold
  · cases h

end ReplayWindow

/-- The sequence which a call has accepted. -/
def acceptedSequence (seq : UInt64) (reply : Except LegacyReplayError Unit) : Option UInt64 :=
  reply.toOption.map fun _ => seq

/-- No run of `Accept` calls accepts a sequence twice. -/
theorem accept_sequences_nodup (policy : Choice LegacyReplayPolicy) (windowSize : Int)
    (run : List UInt64) : (emissions ReplayWindow.accept acceptedSequence
      (newReplayWindow policy windowSize) run).Nodup := by
  refine emissions_nodup ReplayWindow.Accepted ?_ ?_ _ run
  · intro r seq q hq
    rw [ReplayWindow.accept, ReplayWindow.commit]
    rcases r.checkLocked seq with err | ⟨⟩
    · exact hq
    · exact hq.remember
  · intro r seq q hemit
    rw [ReplayWindow.accept, ReplayWindow.commit] at hemit ⊢
    rcases hcheck : r.checkLocked seq with err | ⟨⟩
    · simp [hcheck, acceptedSequence, Except.toOption] at hemit
    · obtain rfl : seq = q := by simpa [hcheck, acceptedSequence, Except.toOption] using hemit
      exact ⟨ReplayWindow.not_accepted_of_checkLocked hcheck,
        ReplayWindow.accepted_remember ReplayWindow.le_highest_remember (.inl rfl)⟩

end Kurdistan.Security
