import Mathlib.Data.Finset.Card
import Kurdistan.Security.Nonce
import Kurdistan.Support.Bitmap

/-!
# Replay windows

The strict replay primitive which is consulted before authentication and
advanced after it. A window remembers the highest committed sequence and the
committed sequences above its lower bound. The unbounded window keeps them in
a map, the bounded window of the replay arena in a bitmap indexed by the
sequence modulo the window size.
-/

namespace Kurdistan.Security

open Support

def replayWindowMinimumV1 : Int := 2

def replayWindowMaximumV1 : Int := 4096

/-- The remembered sequences: the map `seen`, or the words of `bitmap`. -/
inductive ReplayStorageV1 where
  | seen (sequences : Finset UInt64)
  | bitmap (words : List UInt64)

structure ReplayWindowStateV1 where
  policy : Choice ReplayPolicy
  window : UInt64
  initialized : Bool
  highest : UInt64
  storage : ReplayStorageV1

structure ReplayMetadataV1 where
  policy : Choice ReplayPolicy
  windowSize : UInt32
  initialized : Bool
  highest : UInt64
  seenCount : ℕ

/-! ## Construction -/

variable (policy : Choice ReplayPolicy)

def validateReplayPolicyV1 (windowSize : Int) :
    Except SecurityError Unit := do
  ensure (replayWindowMinimumV1 ≤ windowSize ∧ windowSize ≤ replayWindowMaximumV1) .policyInvalid
  ensure (policy.isKnown = true) .policyInvalid

def newReplayWindowV1 (windowSize : Int) :
    Except SecurityError ReplayWindowStateV1 := do
  validateReplayPolicyV1 policy windowSize
  .ok {
    policy
    window := UInt64.ofInt windowSize
    initialized := false
    highest := 0
    storage := .seen ∅ }

/-- The initial state of one window of the arena. -/
def newReplayArenaWindowV3 (windowSize : Int) :
    ReplayWindowStateV1 where
  policy := policy
  window := UInt64.ofInt windowSize
  initialized := false
  highest := 0
  storage := .bitmap (List.replicate ((windowSize + 63) / 64).toNat 0)

/-- One bitmap window per sequence domain. The source cuts the bitmaps out of
one allocation at disjoint ranges. -/
def newReplayArenaV3 (policy : EffectiveSecurityPolicy) :
    Fin (nonceDomainsV3 policy.nonceMode) → ReplayWindowStateV1 :=
  fun _ => newReplayArenaWindowV3 policy.replayPolicy policy.replayWindowSize

/-! ## Checks -/

/-- The smallest sequence a window with this maximum still remembers. -/
def replayLowerBoundV1 (highest window : UInt64) : UInt64 :=
  if highest < window then 0 else highest - window + 1

namespace ReplayWindowStateV1

variable (r : ReplayWindowStateV1)

def containsV3Locked (sequence : UInt64) : Bool :=
  match r.storage with
  | .seen sequences => decide (sequence ∈ sequences)
  | .bitmap words =>
    if !r.initialized || decide (r.highest < sequence) ||
        decide (sequence < replayLowerBoundV1 r.highest r.window) then
      false
    else
      Bitmap.test words (sequence % r.window)

def checkOrderedV1Locked (sequence : UInt64) :
    Except SecurityError Unit :=
  if !r.initialized then
    if sequence = 0 then .ok ()
    else if sequence ≤ r.window then .error .replayOutOfOrder
    else .error .replayTooFarFuture
  else if r.highest = maxUint64 then .error .replayExhausted
  else
    let next := r.highest + 1
    if sequence = next then .ok ()
    else if sequence < next then .error .replayStale
    else if maxUint64 - r.window < next ∨ sequence ≤ next + r.window then
      .error .replayOutOfOrder
    else .error .replayTooFarFuture

def checkBoundedV1Locked (sequence : UInt64) :
    Except SecurityError Unit :=
  if !r.initialized then
    if sequence ≤ r.window then .ok () else .error .replayTooFarFuture
  else if sequence < replayLowerBoundV1 r.highest r.window then
    .error .replayStale
  else if sequence ≤ r.highest then .ok ()
  else if r.window < sequence - r.highest then .error .replayTooFarFuture
  else .ok ()

def checkWindowedV1Locked (sequence : UInt64) :
    Except SecurityError Unit :=
  if !r.initialized || decide (r.highest < sequence) then .ok ()
  else if sequence < replayLowerBoundV1 r.highest r.window then
    .error .replayStale
  else .ok ()

def checkV1Locked (sequence : UInt64) : Except SecurityError Unit :=
  if r.containsV3Locked sequence then .error .replayDuplicate
  else
    match r.policy with
    | .known .orderedOnly => r.checkOrderedV1Locked sequence
    | .known .boundedReorder => r.checkBoundedV1Locked sequence
    | .known .windowedReplay => r.checkWindowedV1Locked sequence
    | .other _ => .error .policyInvalid

/-! ## Commits -/

/-- Forget the ring positions of the sequences `low, …, low + count - 1`. -/
def clearResidues (window low : UInt64) (words : List UInt64) (count : ℕ) : List UInt64 :=
  (List.range count).foldl (fun words offset =>
      Bitmap.unset words ((low + UInt64.ofNat offset) % window))
    words

/-- The first half of an insertion: a forward jump clears the ring positions
which leave the window. -/
def clearBitmapV3Locked (words : List UInt64)
    (sequence : UInt64) : List UInt64 :=
  if r.initialized && decide (r.highest < sequence) then
    let oldLower := replayLowerBoundV1 r.highest r.window
    let newLower := replayLowerBoundV1 sequence r.window
    let difference := newLower - oldLower
    if r.window ≤ difference then words.map fun _ => 0
    else clearResidues r.window oldLower words difference.toNat
  else words

def insertBitmapV3Locked (words : List UInt64)
    (sequence : UInt64) : List UInt64 :=
  Bitmap.set (r.clearBitmapV3Locked words sequence) (sequence % r.window)

/-- Drop the map entries below the lower bound; a bitmap window has no map. -/
def pruneV1Locked : ReplayWindowStateV1 :=
  match r.storage with
  | .seen sequences =>
    { r with
      storage := .seen (sequences.filter fun sequence =>
        ¬ sequence < replayLowerBoundV1 r.highest r.window) }
  | .bitmap _ => r

def plausibleV1 (sequence : UInt64) : Except SecurityError Unit :=
  r.checkV1Locked sequence

/-- The state after an accepted sequence. -/
def recordV1 (sequence : UInt64) :
    ReplayWindowStateV1 :=
  pruneV1Locked {
    policy := r.policy
    window := r.window
    initialized := true
    highest :=
      if !r.initialized || decide (r.highest < sequence) then sequence
      else r.highest
    storage :=
      match r.storage with
      | .seen sequences => .seen (insert sequence sequences)
      | .bitmap words => .bitmap (r.insertBitmapV3Locked words sequence) }

def commitAuthenticated (sequence : UInt64) :
    ReplayWindowStateV1 × Except SecurityError Unit :=
  match r.checkV1Locked sequence with
  | .error err => (r, .error err)
  | .ok () => (r.recordV1 sequence, .ok ())

def seenCountV3Locked : ℕ :=
  match r.storage with
  | .seen sequences => sequences.card
  | .bitmap words => Bitmap.onesCount words

def metadataV1 : ReplayMetadataV1 where
  policy := r.policy
  windowSize := r.window.toUInt32
  initialized := r.initialized
  highest := r.highest
  seenCount := r.seenCountV3Locked

end ReplayWindowStateV1

/-! ## Calls -/

/-- The two calls on a replay window. -/
inductive ReplayCallV1 where
  | plausibleV1 (sequence : UInt64)
  | commitAuthenticated (sequence : UInt64)
  deriving DecidableEq

/-- One call as a step of the window. -/
def replayStepV1 (r : ReplayWindowStateV1) :
    ReplayCallV1 → ReplayWindowStateV1 × Except SecurityError Unit
  | .plausibleV1 sequence => (r, r.plausibleV1 sequence)
  | .commitAuthenticated sequence => r.commitAuthenticated sequence

/-- The sequence a call has committed, if it has. -/
def committedSequence :
    ReplayCallV1 → Except SecurityError Unit → Option UInt64
  | .commitAuthenticated sequence, .ok () => some sequence
  | _, _ => none

end Kurdistan.Security
