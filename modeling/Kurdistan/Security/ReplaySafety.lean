import Kurdistan.Security.Replay

/-!
# Replay windows commit every sequence at most once

The abstract state of a replay window is its history: the list of sequences it
has committed, oldest first. `ReplayWindowStateV1.Represents` says how a
window summarises a history by its maximum and by the members above the lower
bound. Forgetting older members is safe because the lower bound itself rules
them out; the argument is about natural numbers, so it covers sequences next
to zero and next to the largest 64-bit value.
-/

namespace Kurdistan.Security

open Support Bitmap ReplayWindowStateV1 UInt64 List

/-! ## Bounds of a window -/

theorem maxUint64_toNat : maxUint64.toNat = 2 ^ 64 - 1 := rfl

theorem toNat_replayLowerBoundV1 {window : UInt64} (hwindow : 0 < window.toNat) (highest : UInt64) :
    (replayLowerBoundV1 highest window).toNat = highest.toNat + 1 - window.toNat := by
  have hhighest := highest.toNat_lt
  by_cases hlt : highest < window
  · have hnat := lt_iff_toNat_lt.mp hlt
    simp only [replayLowerBoundV1, if_pos hlt, UInt64.toNat_zero]
    omega
  · have hle : window.toNat ≤ highest.toNat := by
      simpa [lt_iff_toNat_lt] using hlt
    have hsub : (highest - window).toNat = highest.toNat - window.toNat :=
      UInt64.toNat_sub_of_le _ _ (UInt64.le_iff_toNat_le.mpr hle)
    simp only [replayLowerBoundV1, if_neg hlt, UInt64.toNat_add, UInt64.toNat_one]
    omega

/-- The largest member of a history, zero for the empty one. -/
def highestCommitted (history : List UInt64) : ℕ :=
  history.foldl (fun highest sequence => max highest sequence.toNat) 0

theorem highestCommitted_concat (history : List UInt64) (sequence : UInt64) :
    highestCommitted (history ++ [sequence]) = max (highestCommitted history) sequence.toNat := by
  simp [highestCommitted]

variable {history : List UInt64}

theorem le_highestCommitted {sequence : UInt64}
    (h : sequence ∈ history) : sequence.toNat ≤ highestCommitted history := by
  induction history using reverseRecOn with
  | nil => simp at h
  | append_singleton history last ih =>
    rw [highestCommitted_concat]
    rcases mem_append.mp h with h | h
    · exact le_max_of_le_left (ih h)
    · rw [mem_singleton.mp h]
      exact le_max_right _ _

variable (window : UInt64)

/-- The smallest sequence that is still remembered. -/
def lowestRemembered (history : List UInt64) : ℕ :=
  highestCommitted history + 1 - window.toNat

/-- Membership among the remembered part of a history. -/
def Remembered (history : List UInt64) (sequence : UInt64) :
    Prop :=
  sequence ∈ history ∧ lowestRemembered window history ≤ sequence.toNat

theorem lowestRemembered_le_concat (history : List UInt64) (sequence : UInt64) :
    lowestRemembered window history ≤ lowestRemembered window (history ++ [sequence]) := by
  have hmax := le_max_left (highestCommitted history) sequence.toNat
  rw [lowestRemembered, lowestRemembered, highestCommitted_concat]
  omega

/-! ## Windows represent histories -/

/-- The storage holds exactly the remembered part of the history. -/
def ReplayStorageV1.Holds (history : List UInt64) : ReplayStorageV1 → Prop
  | .seen sequences =>
    ∀ sequence, sequence ∈ sequences ↔ Remembered window history sequence
  | .bitmap words =>
    words.length = (window.toNat + 63) / 64 ∧
    ∀ n, Bitmap.holds words n = true ↔
      ∃ sequence, Remembered window history sequence ∧ sequence.toNat % window.toNat = n

/-- The window summarises the history. -/
structure ReplayWindowStateV1.Represents (r : ReplayWindowStateV1)
    (history : List UInt64) : Prop where
  window_pos : 0 < r.window.toNat
  nodup : history.Nodup
  initialized_iff : r.initialized = true ↔ history ≠ []
  highest_eq : r.highest.toNat = highestCommitted history
  holds : r.storage.Holds r.window history

/-- Ordered windows accept only the successor of the maximum. -/
theorem toNat_of_checkOrdered {r : ReplayWindowStateV1} {sequence : UInt64}
    (hinit : r.initialized = true) (h : r.checkOrderedV1Locked sequence = .ok ()) :
    sequence.toNat = r.highest.toNat + 1 := by
  simp only [checkOrderedV1Locked, hinit, Bool.not_true, Bool.false_eq_true, if_false] at h
  split_ifs at h with hlast hnext
  have hhighest := r.highest.toNat_lt
  have hne : r.highest.toNat ≠ 2 ^ 64 - 1 := fun hnat => hlast (UInt64.toNat_inj.mp hnat)
  rw [hnext, UInt64.toNat_add, UInt64.toNat_one]
  omega

namespace ReplayWindowStateV1.Represents

variable {r : ReplayWindowStateV1} {history : List UInt64} (h : r.Represents history)

include h

theorem lower_eq :
    (replayLowerBoundV1 r.highest r.window).toNat = lowestRemembered r.window history := by
  rw [toNat_replayLowerBoundV1 h.window_pos, h.highest_eq, lowestRemembered]

variable {sequence : UInt64}

theorem le_highest (hmem : sequence ∈ history) : sequence.toNat ≤ r.highest.toNat := by
  rw [h.highest_eq]
  exact le_highestCommitted hmem

theorem initialized_of_mem (hmem : sequence ∈ history) : r.initialized = true :=
  h.initialized_iff.mpr (ne_nil_of_mem hmem)

theorem remembered_lt (hrem : Remembered r.window history sequence) :
    sequence.toNat < lowestRemembered r.window history + r.window.toNat := by
  have hle := le_highestCommitted hrem.1
  have hpos := h.window_pos
  rw [lowestRemembered]
  omega

/-- A lookup answers whether the sequence is remembered, whichever storage the
window has. -/
theorem containsV3Locked_iff (sequence : UInt64) :
    r.containsV3Locked sequence = true ↔ Remembered r.window history sequence := by
  have hholds := h.holds
  rcases hstorage : r.storage with sequences | words
  · rw [hstorage] at hholds
    simp only [containsV3Locked, hstorage, decide_eq_true_eq]
    exact hholds sequence
  · rw [hstorage] at hholds
    obtain ⟨-, hbits⟩ := hholds
    simp only [containsV3Locked, hstorage]
    split_ifs with hout
    · -- Outside the live range the bitmap is not consulted.
      simp only [false_iff]
      rintro hrem
      simp only [Bool.or_eq_true, decide_eq_true_eq, lt_iff_toNat_lt, h.lower_eq] at hout
      rcases hout with (hinit | hhigh) | hlow
      · rw [h.initialized_of_mem hrem.1] at hinit
        cases hinit
      · exact absurd (h.le_highest hrem.1) (Nat.not_le.mpr hhigh)
      · exact absurd hrem.2 (Nat.not_le.mpr hlow)
    · simp only [Bool.or_eq_true, decide_eq_true_eq, lt_iff_toNat_lt, h.lower_eq, not_or,
        Nat.not_lt] at hout
      obtain ⟨⟨-, hhigh⟩, hlow⟩ := hout
      rw [test_eq_holds, UInt64.toNat_mod, hbits]
      constructor
      · rintro ⟨other, hrem, hmod⟩
        have hother := h.remembered_lt hrem
        have hsequence : sequence.toNat < lowestRemembered r.window history + r.window.toNat := by
          rw [h.highest_eq] at hhigh
          have hpos := h.window_pos
          rw [lowestRemembered]
          omega
        have heq := eq_of_mod_eq_in_window hrem.2 hother hlow hsequence hmod
        rwa [← UInt64.toNat_inj.mp heq]
      · intro hrem
        exact ⟨sequence, hrem, rfl⟩

/-! ## What a check accepts -/

theorem lowestRemembered_le_of_check (hcheck : r.checkV1Locked sequence = .ok ()) :
    lowestRemembered r.window history ≤ sequence.toNat := by
  have hpos := h.window_pos
  have hlower := h.lower_eq
  by_cases hinit : r.initialized = true
  · have hbound : lowestRemembered r.window history ≤ r.highest.toNat + 1 := by
      rw [lowestRemembered, h.highest_eq]
      omega
    by_contra hlt
    rw [Nat.not_le] at hlt
    have hstale : sequence < replayLowerBoundV1 r.highest r.window := by
      rw [lt_iff_toNat_lt, hlower]
      exact hlt
    have hle : sequence.toNat ≤ r.highest.toNat := by omega
    have hnotHigher : ¬ r.highest < sequence := by
      rw [lt_iff_toNat_lt]
      omega
    simp only [checkV1Locked] at hcheck
    split_ifs at hcheck
    split at hcheck
    · have hnext := toNat_of_checkOrdered hinit hcheck
      omega
    · simp [checkBoundedV1Locked, hinit, hstale] at hcheck
    · simp [checkWindowedV1Locked, hinit, hstale, hnotHigher] at hcheck
    · cases hcheck
  · have hnil : history = [] := by
      by_contra hne
      exact hinit (h.initialized_iff.mpr hne)
    rw [hnil, lowestRemembered, highestCommitted, foldl_nil]
    omega

theorem not_mem_of_check (hcheck : r.checkV1Locked sequence = .ok ()) : sequence ∉ history := by
  intro hmem
  have hcontains := (h.containsV3Locked_iff sequence).mpr
    ⟨hmem, h.lowestRemembered_le_of_check hcheck⟩
  simp [checkV1Locked, hcontains] at hcheck

end ReplayWindowStateV1.Represents

/-! ## Ring positions -/

section Ring

variable {window : UInt64}

theorem wordOf_mod_lt (hwindow : 0 < window.toNat) {words : List UInt64}
    (hlength : words.length = (window.toNat + 63) / 64) (sequence : UInt64) :
    wordOf (sequence % window) < words.length := by
  have hmod := Nat.mod_lt sequence.toNat hwindow
  rw [hlength, wordOf, UInt64.toNat_div, UInt64.toNat_mod]
  simp only [reduceToNat]
  omega

/-- Clearing a range of ring positions keeps the length of the bitmap and
removes exactly the residues of the range. -/
theorem clearResidues_spec (hwindow : 0 < window.toNat) {words : List UInt64}
    (hlength : words.length = (window.toNat + 63) / 64) (low : UInt64)
    {count : ℕ} (hcount : low.toNat + count ≤ 2 ^ 64) :
    (clearResidues window low words count).length =
        words.length ∧
      ∀ n, Bitmap.holds
          (clearResidues window low words count) n = true ↔
        Bitmap.holds words n = true ∧
          ∀ offset < count, (low.toNat + offset) % window.toNat ≠ n := by
  induction count with
  | zero => simp [clearResidues]
  | succ count ih =>
    obtain ⟨ihlength, ihholds⟩ := ih (by omega)
    have hposition : (low + ofNat count).toNat = low.toNat + count := by
      have hsmall : count < 2 ^ 64 := by omega
      rw [UInt64.toNat_add, UInt64.toNat_ofNat_of_lt' hsmall]
      exact Nat.mod_eq_of_lt (by omega)
    have hstep : clearResidues window low words (count + 1) =
        unset (clearResidues window low words count) ((low + ofNat count) % window) := by
      simp [clearResidues, range_succ]
    have hword := wordOf_mod_lt hwindow (ihlength.trans hlength) (low + ofNat count)
    refine ⟨by rw [hstep, length_unset, ihlength], ?_⟩
    intro n
    rw [hstep, holds_unset hword, Bool.and_eq_true, ihholds, UInt64.toNat_mod, hposition]
    simp only [Bool.not_eq_true', decide_eq_false_iff_not, Nat.lt_succ_iff_lt_or_eq,
      or_imp, forall_and, forall_eq]
    constructor
    · rintro ⟨hne, hholds, hrest⟩
      exact ⟨hholds, hrest, Ne.symm hne⟩
    · rintro ⟨hholds, hrest, hne⟩
      exact ⟨Ne.symm hne, hholds, hrest⟩

theorem holds_map_zero (words : List UInt64) (n : ℕ) :
    Bitmap.holds (words.map fun _ => 0) n = false := by
  rw [map_const']
  exact holds_replicate_zero _ _

end Ring

/-! ## Commits extend the history -/

namespace ReplayWindowStateV1

section Record

variable (r : ReplayWindowStateV1) (sequence : UInt64)

@[simp] theorem recordV1_policy : (r.recordV1 sequence).policy = r.policy := by
  cases hstorage : r.storage <;> simp [recordV1, pruneV1Locked, hstorage]

@[simp] theorem recordV1_window : (r.recordV1 sequence).window = r.window := by
  cases hstorage : r.storage <;> simp [recordV1, pruneV1Locked, hstorage]

@[simp] theorem recordV1_initialized : (r.recordV1 sequence).initialized = true := by
  cases hstorage : r.storage <;> simp [recordV1, pruneV1Locked, hstorage]

theorem recordV1_highest :
    (r.recordV1 sequence).highest =
      if !r.initialized || decide (r.highest < sequence) then sequence
      else r.highest := by
  cases hstorage : r.storage <;> simp [recordV1, pruneV1Locked, hstorage]

end Record

namespace Represents

variable {r : ReplayWindowStateV1} {history : List UInt64} {sequence : UInt64}
  (h : r.Represents history)

include h

theorem eq_nil_of_not_initialized (hinit : r.initialized = false) : history = [] := by
  by_contra hne
  simp [h.initialized_iff.mpr hne] at hinit

theorem toNat_highest_recordV1 (sequence : UInt64) :
    (r.recordV1 sequence).highest.toNat = highestCommitted (history ++ [sequence]) := by
  rw [recordV1_highest, highestCommitted_concat, ← h.highest_eq]
  rcases hinit : r.initialized with _ | _
  · have hzero : r.highest.toNat = 0 := by
      rw [h.highest_eq, h.eq_nil_of_not_initialized hinit, highestCommitted, foldl_nil]
    simp [hzero]
  · by_cases hlt : r.highest < sequence
    · have hnat := lt_iff_toNat_lt.mp hlt
      simp only [hlt, decide_true, Bool.or_true, if_true]
      omega
    · have hnat : sequence.toNat ≤ r.highest.toNat := by
        simpa [lt_iff_toNat_lt] using hlt
      simp only [hlt, Bool.not_true, decide_false, Bool.or_false, Bool.false_eq_true, if_false]
      omega

/-- The bound after a commit is the lower bound of the new maximum. -/
theorem lower_recordV1 (sequence : UInt64) :
    (replayLowerBoundV1 (r.recordV1 sequence).highest r.window).toNat =
      lowestRemembered r.window (history ++ [sequence]) := by
  rw [toNat_replayLowerBoundV1 h.window_pos, h.toNat_highest_recordV1, lowestRemembered]

/-- The map of an unbounded window after a commit. -/
theorem seen_holds_concat {sequences : Finset UInt64} (hstorage : r.storage = .seen sequences)
    (sequence : UInt64) :
    (ReplayStorageV1.seen ((insert sequence sequences).filter fun s =>
      ¬ s < replayLowerBoundV1 (r.recordV1 sequence).highest r.window)).Holds
        r.window (history ++ [sequence]) := by
  have hholds := h.holds
  rw [hstorage] at hholds
  have hlower := lowestRemembered_le_concat r.window history sequence
  intro s
  rw [Finset.mem_filter, Finset.mem_insert, hholds s, lt_iff_toNat_lt,
    h.lower_recordV1, Nat.not_lt]
  simp only [Remembered, mem_append, mem_singleton]
  constructor
  · rintro ⟨rfl | ⟨hmem, -⟩, hle⟩
    · exact ⟨Or.inr rfl, hle⟩
    · exact ⟨Or.inl hmem, hle⟩
  · rintro ⟨hmem | rfl, hle⟩
    · exact ⟨Or.inr ⟨hmem, hlower.trans hle⟩, hle⟩
    · exact ⟨Or.inl rfl, hle⟩

/-- A forward jump moves the lower bound from the old maximum's to the new
sequence's; nothing wraps around. -/
theorem lower_jump (hlt : r.highest < sequence) :
    (replayLowerBoundV1 sequence r.window).toNat =
        lowestRemembered r.window (history ++ [sequence]) ∧
      (replayLowerBoundV1 sequence r.window -
          replayLowerBoundV1 r.highest r.window).toNat =
        lowestRemembered r.window (history ++ [sequence]) - lowestRemembered r.window history := by
  have hnat := lt_iff_toNat_lt.mp hlt
  have hnew : (replayLowerBoundV1 sequence r.window).toNat =
      lowestRemembered r.window (history ++ [sequence]) := by
    rw [toNat_replayLowerBoundV1 h.window_pos, lowestRemembered,
      highestCommitted_concat, ← h.highest_eq, max_eq_right hnat.le]
  refine ⟨hnew, ?_⟩
  rw [UInt64.toNat_sub_of_le, hnew, h.lower_eq]
  rw [UInt64.le_iff_toNat_le, hnew, h.lower_eq]
  exact lowestRemembered_le_concat r.window history sequence

/-- Without a forward jump the lower bound stays, or the history is empty. -/
theorem no_jump (hjump : (r.initialized && decide (r.highest < sequence)) = false) :
    history = [] ∨
      lowestRemembered r.window (history ++ [sequence]) = lowestRemembered r.window history := by
  rcases hinit : r.initialized with _ | _
  · exact Or.inl (h.eq_nil_of_not_initialized hinit)
  · right
    have hle : sequence.toNat ≤ highestCommitted history := by
      rw [← h.highest_eq]
      simpa [hinit, lt_iff_toNat_lt] using hjump
    rw [lowestRemembered, lowestRemembered, highestCommitted_concat, max_eq_left hle]

/-- After the clearing half of an insertion, the bitmap holds exactly the
residues of old members which are still remembered. -/
theorem clearBitmapV3Locked_spec {words : List UInt64} (hstorage : r.storage = .bitmap words)
    (sequence : UInt64) :
    (r.clearBitmapV3Locked words sequence).length =
        (r.window.toNat + 63) / 64 ∧
      ∀ n, Bitmap.holds (r.clearBitmapV3Locked words sequence) n = true ↔
        ∃ s ∈ history,
          lowestRemembered r.window (history ++ [sequence]) ≤ s.toNat ∧
            s.toNat % r.window.toNat = n := by
  have hholds := h.holds
  rw [hstorage] at hholds
  obtain ⟨hlength, hbits⟩ := hholds
  have hmono := lowestRemembered_le_concat r.window history sequence
  rcases hjump : (r.initialized && decide (r.highest < sequence)) with _ | _
  · -- Nothing is cleared.
    simp only [clearBitmapV3Locked, hjump, Bool.false_eq_true, if_false]
    refine ⟨hlength, fun n => ?_⟩
    rw [hbits]
    rcases h.no_jump hjump with hnil | hsame
    · simp [hnil, Remembered]
    · simp [hsame, Remembered, and_assoc]
  · have hlt : r.highest < sequence := by
      simp only [Bool.and_eq_true, decide_eq_true_eq] at hjump
      exact hjump.2
    obtain ⟨hnew, hdifference⟩ := h.lower_jump hlt
    simp only [clearBitmapV3Locked]
    split_ifs with hfar
    · -- The jump leaves every remembered sequence behind.
      refine ⟨by simpa using hlength, fun n => ?_⟩
      rw [holds_map_zero]
      simp only [Bool.false_eq_true, false_iff, not_exists, not_and]
      intro s hmem hle
      rw [UInt64.le_iff_toNat_le, hdifference] at hfar
      have hlast := h.remembered_lt ⟨hmem, hmono.trans hle⟩
      omega
    · rw [UInt64.le_iff_toNat_le, hdifference, Nat.not_le] at hfar
      have hcount : (replayLowerBoundV1 r.highest r.window).toNat +
          (replayLowerBoundV1 sequence r.window -
            replayLowerBoundV1 r.highest r.window).toNat ≤ 2 ^ 64 := by
        have hbound := (replayLowerBoundV1 sequence r.window).toNat_lt
        rw [hnew] at hbound
        rw [hdifference, h.lower_eq]
        omega
      obtain ⟨hclearLength, hclear⟩ := clearResidues_spec h.window_pos hlength _ hcount
      refine ⟨hclearLength.trans hlength, fun n => ?_⟩
      rw [hclear, hbits, hdifference, h.lower_eq]
      constructor
      · rintro ⟨⟨s, hrem, hmod⟩, hkept⟩
        refine ⟨s, hrem.1, ?_, hmod⟩
        by_contra hbelow
        refine hkept (s.toNat - lowestRemembered r.window history) ?_ ?_
        · have := hrem.2
          omega
        · rw [Nat.add_sub_cancel' hrem.2]
          exact hmod
      · rintro ⟨s, hmem, hle, hmod⟩
        have hrem : Remembered r.window history s := ⟨hmem, hmono.trans hle⟩
        refine ⟨⟨s, hrem, hmod⟩, ?_⟩
        intro offset hoffset hsame
        have heq := eq_of_mod_eq_in_window
          (Nat.le_add_right (lowestRemembered r.window history) offset)
          (by omega) hrem.2 (h.remembered_lt hrem) (hsame.trans hmod.symm)
        omega

/-- The bitmap of a bounded window after a commit. -/
theorem bitmap_holds_concat {words : List UInt64} (hstorage : r.storage = .bitmap words)
    (hadmitted : lowestRemembered r.window history ≤ sequence.toNat) :
    (ReplayStorageV1.bitmap (r.insertBitmapV3Locked words sequence)).Holds
      r.window (history ++ [sequence]) := by
  obtain ⟨hlength, hclear⟩ := h.clearBitmapV3Locked_spec hstorage sequence
  have hword := wordOf_mod_lt h.window_pos hlength sequence
  have hself : lowestRemembered r.window (history ++ [sequence]) ≤
      sequence.toNat := by
    have hpos := h.window_pos
    rw [lowestRemembered] at hadmitted ⊢
    rw [highestCommitted_concat]
    omega
  refine ⟨by rw [insertBitmapV3Locked, Bitmap.length_set, hlength], ?_⟩
  intro n
  rw [insertBitmapV3Locked, holds_set hword, Bool.or_eq_true,
    decide_eq_true_eq, hclear, UInt64.toNat_mod]
  simp only [Remembered, mem_append, mem_singleton]
  constructor
  · rintro (rfl | ⟨s, hmem, hle, hmod⟩)
    · exact ⟨sequence, ⟨Or.inr rfl, hself⟩, rfl⟩
    · exact ⟨s, ⟨Or.inl hmem, hle⟩, hmod⟩
  · rintro ⟨s, ⟨hmem | rfl, hle⟩, hmod⟩
    · exact Or.inr ⟨s, hmem, hle, hmod⟩
    · exact Or.inl hmod.symm

theorem recordV1 (hcheck : r.checkV1Locked sequence = .ok ()) :
    (r.recordV1 sequence).Represents (history ++ [sequence]) where
  window_pos := by simpa using h.window_pos
  nodup := by
    rw [← concat_eq_append]
    exact h.nodup.concat (h.not_mem_of_check hcheck)
  initialized_iff := by simp
  highest_eq := h.toNat_highest_recordV1 sequence
  holds := by
    have hadmitted := h.lowestRemembered_le_of_check hcheck
    rw [recordV1_window]
    rcases hstorage : r.storage with sequences | words
    · have hseen := h.seen_holds_concat hstorage sequence
      simpa [ReplayWindowStateV1.recordV1, pruneV1Locked, hstorage] using hseen
    · have hbitmap := h.bitmap_holds_concat hstorage hadmitted
      simpa [ReplayWindowStateV1.recordV1, pruneV1Locked, hstorage] using hbitmap

/-- One call extends the history by the sequence it commits, if any. -/
theorem replayStepV1 (call : ReplayCallV1) :
    (replayStepV1 r call).1.Represents
      (history ++ (committedSequence call (replayStepV1 r call).2).toList) := by
  cases call with
  | plausibleV1 sequence => simpa [Security.replayStepV1, committedSequence] using h
  | commitAuthenticated sequence =>
    rcases hcheck : r.checkV1Locked sequence with err | ⟨⟩
    · simpa [Security.replayStepV1, commitAuthenticated, committedSequence, hcheck] using h
    · simpa [Security.replayStepV1, commitAuthenticated, committedSequence, hcheck]
        using h.recordV1 hcheck

end Represents

end ReplayWindowStateV1

/-! ## Fresh windows -/

/-- An unused window with a validated policy, of either storage. -/
def FreshReplayWindowV1 (policy : Choice ReplayPolicy) (windowSize : Int)
    (r : ReplayWindowStateV1) : Prop :=
  newReplayWindowV1 policy windowSize = .ok r ∨
    (validateReplayPolicyV1 policy windowSize = .ok () ∧
      r = newReplayArenaWindowV3 policy windowSize)

variable {policy : Choice ReplayPolicy} {windowSize : Int}

theorem toNat_window_of_valid (h : validateReplayPolicyV1 policy windowSize = .ok ()) :
    (ofInt windowSize).toNat = windowSize.toNat ∧
      2 ≤ windowSize.toNat ∧ windowSize.toNat ≤ 4096 := by
  simp only [validateReplayPolicyV1, check_ok_iff, ensure_eq_ok] at h
  obtain ⟨⟨hmin, hmax⟩, -⟩ := h
  rw [replayWindowMinimumV1] at hmin
  rw [replayWindowMaximumV1] at hmax
  refine ⟨?_, by omega, by omega⟩
  have hmod : windowSize % 2 ^ 64 = windowSize := Int.emod_eq_of_lt (by omega) (by omega)
  rw [ofInt, hmod]
  exact UInt64.toNat_ofNat_of_lt' (by simp; omega)

variable {r : ReplayWindowStateV1}

theorem newReplayWindowV1_eq_ok :
    newReplayWindowV1 policy windowSize = .ok r ↔
      validateReplayPolicyV1 policy windowSize = .ok () ∧
        { policy, window := ofInt windowSize, initialized := false,
          highest := 0, storage := .seen ∅ } = r := by
  simp [newReplayWindowV1, check_ok_iff]

theorem FreshReplayWindowV1.policy_eq
    (h : FreshReplayWindowV1 policy windowSize r) : r.policy = policy := by
  rcases h with h | ⟨-, rfl⟩
  · obtain ⟨-, rfl⟩ := newReplayWindowV1_eq_ok.mp h
    rfl
  · rfl

theorem FreshReplayWindowV1.represents
    (h : FreshReplayWindowV1 policy windowSize r) : r.Represents [] := by
  rcases h with h | ⟨hvalid, rfl⟩
  · obtain ⟨hvalid, rfl⟩ := newReplayWindowV1_eq_ok.mp h
    obtain ⟨hwindow, hmin, -⟩ := toNat_window_of_valid hvalid
    refine ⟨by simp only; omega, nodup_nil, by simp, rfl, ?_⟩
    intro sequence
    simp [Remembered]
  · obtain ⟨hwindow, hmin, -⟩ := toNat_window_of_valid hvalid
    refine ⟨by simp only [newReplayArenaWindowV3]; omega, nodup_nil,
      by simp [newReplayArenaWindowV3], rfl, ?_, ?_⟩
    · simp only [newReplayArenaWindowV3, length_replicate]
      omega
    · intro n
      simp [Remembered]

/-! ## Runs of calls -/

theorem represents_stateAfter (h : r.Represents []) (calls : List ReplayCallV1) :
    (stateAfter replayStepV1 r calls).Represents
      (emissions replayStepV1 committedSequence r calls) := by
  have hrun := history_stateAfter ReplayWindowStateV1.Represents
    (fun _ _ call hrep => hrep.replayStepV1 call) h calls
  simpa using hrun

theorem highestCommitted_of_range (h : history.map toNat = range history.length) :
    highestCommitted history = history.length - 1 := by
  have hfold : ∀ n, (range n).foldl max 0 = n - 1 := by
    intro n
    induction n with
    | zero => rfl
    | succ n ih => rw [range_succ, foldl_append, ih]; simp
  rw [← hfold history.length, ← h, foldl_map, highestCommitted]

/-- An ordered window accepts only the number of sequences committed so far. -/
theorem toNat_eq_length_of_ordered {sequence : UInt64} (h : r.Represents history)
    (hpolicy : r.policy = .known .orderedOnly) (hrange : history.map toNat = range history.length)
    (hcheck : r.checkV1Locked sequence = .ok ()) : sequence.toNat = history.length := by
  simp only [checkV1Locked, hpolicy] at hcheck
  split_ifs at hcheck
  rcases hinit : r.initialized with _ | _
  · simp only [checkOrderedV1Locked, hinit, Bool.not_false, if_true] at hcheck
    split_ifs at hcheck with hzero
    rw [h.eq_nil_of_not_initialized hinit, hzero]
    rfl
  · have hnext := toNat_of_checkOrdered hinit hcheck
    have hne : history.length ≠ 0 := by
      simpa using h.initialized_iff.mp hinit
    have hhighest := h.highest_eq
    rw [highestCommitted_of_range hrange] at hhighest
    omega

/-- The history of an ordered window counts up from zero. -/
theorem ordered_history (h : r.Represents [])
    (hpolicy : r.policy = .known .orderedOnly) (calls : List ReplayCallV1) :
    (emissions replayStepV1 committedSequence r calls).map toNat =
      range (emissions replayStepV1 committedSequence r calls).length := by
  let Counts : ReplayWindowStateV1 → List UInt64 → Prop := fun r history =>
    r.Represents history ∧ r.policy = .known .orderedOnly ∧
      history.map toNat = range history.length
  have hrun : Counts (stateAfter replayStepV1 r calls)
      ([] ++ emissions replayStepV1 committedSequence r calls) := by
    refine history_stateAfter Counts ?_ ⟨h, hpolicy, rfl⟩ calls
    rintro r history call ⟨hrep, hpolicy, hrange⟩
    refine ⟨hrep.replayStepV1 call, ?_, ?_⟩
    · cases call with
      | plausibleV1 sequence => exact hpolicy
      | commitAuthenticated sequence =>
        rcases hcheck : r.checkV1Locked sequence with err | ⟨⟩ <;>
          simp [replayStepV1, commitAuthenticated, hcheck, hpolicy]
    · cases call with
      | plausibleV1 sequence => simpa [committedSequence] using hrange
      | commitAuthenticated sequence =>
        rcases hcheck : r.checkV1Locked sequence with err | ⟨⟩
        · simpa [replayStepV1, commitAuthenticated, hcheck, committedSequence] using hrange
        · have hnext := toNat_eq_length_of_ordered hrep hpolicy hrange hcheck
          simp [replayStepV1, commitAuthenticated, hcheck,
            committedSequence, hrange, hnext, range_succ]
  simpa using hrun.2.2

/-- Replay at most once. A fresh window of any policy, size and storage never
commits a sequence twice, and an ordered window commits `0, 1, 2, …` without
gaps. -/
theorem commitAuthenticated_at_most_once {policy : Choice ReplayPolicy}
    {windowSize : Int} {r : ReplayWindowStateV1} (hfresh : FreshReplayWindowV1 policy windowSize r)
    (calls : List ReplayCallV1) :
    (emissions replayStepV1 committedSequence r calls).Nodup ∧
      (policy = .known .orderedOnly →
        (emissions replayStepV1 committedSequence r calls).map toNat =
          range (emissions replayStepV1 committedSequence r calls).length) := by
  refine ⟨(represents_stateAfter hfresh.represents calls).nodup, ?_⟩
  intro hordered
  exact ordered_history hfresh.represents (hfresh.policy_eq.trans hordered) calls

/-- A run at the end of the 64-bit range on a window whose size is not a
multiple of the word size. -/
def callsAtLimit : List ReplayCallV1 :=
  [.commitAuthenticated maxUint64, .commitAuthenticated maxUint64,
    .commitAuthenticated (maxUint64 - 64), .commitAuthenticated 0, .plausibleV1 (maxUint64 - 63)]

theorem commitAuthenticated_at_most_once_at_limit :
    emissions replayStepV1 committedSequence
        (newReplayArenaWindowV3 (.known .windowedReplay) 65) callsAtLimit =
      [maxUint64, maxUint64 - 64] ∧
    (emissions replayStepV1 committedSequence
      (newReplayArenaWindowV3 (.known .windowedReplay) 65) callsAtLimit).Nodup :=
  ⟨by decide, (commitAuthenticated_at_most_once (Or.inr ⟨by decide, rfl⟩) callsAtLimit).1⟩

end Kurdistan.Security
