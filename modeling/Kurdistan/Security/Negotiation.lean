import Kurdistan.Security.ContextHash

/-!
# Bilateral capability selection

The deterministic rule by which a pair of offers and mandatory floors selects
the capabilities of a session, and the downgrade checks in front of it.
-/

namespace Kurdistan.Security

open Support Protocol

structure BilateralCapabilityInput where
  localOffer : List String
  peerOffer : List String
  localFloor : List String
  peerFloor : List String
  capabilityNegotiationPolicy : Choice CapabilityNegotiationPolicy
  downgradePolicy : Choice DowngradePolicy
  localSuite : Suite
  peerSuite : Suite
  localTranscriptMode : Choice TranscriptMode
  peerTranscriptMode : Choice TranscriptMode

def validateBilateralDowngrade (input : BilateralCapabilityInput) :
    Except WrappedError Unit := do
  ensure (suiteSupported input.localSuite = true ∧ suiteSupported input.peerSuite = true)
    (downgradeRejected "unsupported suite")
  match input.downgradePolicy with
  | .known .strictSuiteAndCapabilities =>
    ensure (input.localSuite = input.peerSuite) (downgradeRejected "suite mismatch")
  | .known .strictCapabilities => .ok ()
  | .known .suiteBoundTranscript =>
    ensure (input.localSuite = input.peerSuite ∧ input.localTranscriptMode ≠ .other "" ∧
        input.localTranscriptMode = input.peerTranscriptMode)
      (downgradeRejected "suite or transcript mismatch")
  | .other _ => .error (downgradeRejected "unknown downgrade policy")

/-- The loop of `canonicalUniqueCapabilities`. -/
def checkUniqueCapabilities : List String → List String → Except WrappedError Unit
  | _, [] => .ok ()
  | seen, feature :: rest => do
    ensure (feature ∈ knownCapabilities) ⟨.invalidConfig, "unknown capability", []⟩
    ensure (feature ∉ seen) ⟨.invalidConfig, "duplicate capability", []⟩
    checkUniqueCapabilities (feature :: seen) rest

def canonicalUniqueCapabilities (features : List String) :
    Except WrappedError (List String) := do
  checkUniqueCapabilities [] features
  return sortTexts features

def selectBilateralCapabilities (input : BilateralCapabilityInput) :
    Except WrappedError (List String) := do
  validateBilateralDowngrade input
  let localOffer ← canonicalUniqueCapabilities input.localOffer
  let peerOffer ← canonicalUniqueCapabilities input.peerOffer
  let localFloor ← canonicalUniqueCapabilities input.localFloor
  let peerFloor ← canonicalUniqueCapabilities input.peerFloor
  ensure (localOffer ≠ [] ∧ peerOffer ≠ [] ∧ localFloor ≠ [] ∧ peerFloor ≠ [])
    (downgradeRejected "empty offer or mandatory floor")
  -- the union of the two floors, without repetitions
  let floorSet := localFloor ++ peerFloor.filter (· ∉ localFloor)
  ensureAll (fun offer => ensure (∀ capability ∈ floorSet, capability ∈ offer)
    (downgradeRejected "offer below bilateral floor")) [localOffer, peerOffer]
  match input.capabilityNegotiationPolicy with
  | .known .strictRequired => return sortTexts floorSet
  | .known .intersectionWithRequired => return sortTexts (localOffer.filter (· ∈ peerOffer))
  | .known .profileDeclaredRequired => return sortTexts (localOffer.filter (· ∈ peerOffer))
  | .other _ => throw (downgradeRejected "unknown capability negotiation policy")

end Kurdistan.Security
