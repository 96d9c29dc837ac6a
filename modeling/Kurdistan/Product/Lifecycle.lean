import Kurdistan.Support.Choice
import Kurdistan.Support.Outcome

/-!
# Profile lifecycle

The monotonic lifecycle of an activated profile: `apply` changes the plain state,
`applyVerified` binds the state to the receipt of the authenticated artifact.
-/

namespace Kurdistan.Product

open Support

inductive Status where
  | absent
  | admitted
  | superseded
  | revoked
  | disabled
  deriving DecidableEq

inductive Action where
  | admission
  | supersession
  | revocation
  | disablement
  deriving DecidableEq

/-- A lifecycle state. The status of a zero state is the empty text. -/
structure State where
  status : Choice Status
  profileID : Text
  scope : Text
  evidenceReference : Text
  generation : UInt64
  deriving DecidableEq

structure Decision where
  action : Choice Action
  profileID : Text
  scope : Text
  evidenceReference : Text
  generation : UInt64

inductive LifecycleError where
  | unknownStatus
  | unknownAction
  | malformedAbsent
  | partialDecision
  | mismatchedDecision
  | staleDecision
  | conflictingEqualGeneration
  | notSuperseded
  | notAdmitted
  | invalidReceipt
  | invalidCurrentReceipt
  | conflictingContent
  | replacementMismatch
  deriving DecidableEq

/-- The empty text is the status `absent`. -/
def Choice.isAbsent (status : Choice Status) : Bool :=
  status = .other "" ∨ status = .known .absent

def knownStatus (status : Choice Status) : Bool :=
  status = .other "" ∨ status.isKnown

def statusFor : Action → Status
  | .admission => .admitted
  | .supersession => .superseded
  | .revocation => .revoked
  | .disablement => .disabled

/-- The status which an action with a larger generation leads to. -/
def nextStatus (current : Choice Status) : Action → Except LifecycleError Status
  | .admission => do
    ensure (current ≠ .known .admitted) .notSuperseded
    return .admitted
  | .supersession => do
    ensure (current = .known .admitted) .notAdmitted
    return .superseded
  | .revocation => return .revoked
  | .disablement => return .disabled

def apply (current : State) (d : Decision) : Except LifecycleError State := do
  ensure (knownStatus current.status) .unknownStatus
  match d.action with
  | .other _ => .error .unknownAction
  | .known action => do
    -- an empty status becomes `absent` before anything else looks at it
    let current :=
      if current.status = .other "" then { current with status := .known .absent } else current
    ensure (current.status = .known .absent → current.profileID = [] ∧ current.scope = [] ∧
      current.evidenceReference = [] ∧ current.generation = 0) .malformedAbsent
    ensure (d.generation ≠ 0 ∧ d.profileID ≠ [] ∧ d.scope ≠ [] ∧ d.evidenceReference ≠ [])
      .partialDecision
    ensure (current.status ≠ .known .absent → d.profileID = current.profileID ∧
      d.scope = current.scope) .mismatchedDecision
    ensure (current.generation ≤ d.generation) .staleDecision
    if d.generation = current.generation then
      ensure (d.profileID = current.profileID ∧ d.scope = current.scope ∧
        d.evidenceReference = current.evidenceReference ∧
        .known (statusFor action) = current.status) .conflictingEqualGeneration
      return current
    else
      let status ← nextStatus current.status action
      return ⟨.known status, d.profileID, d.scope, d.evidenceReference, d.generation⟩

/-! ## Verified states -/

structure VerifiedReceipt where
  contentID : Text
  providerID : Text
  lineageID : Text
  authenticatedArtifactSHA256 : Text
  rootEpoch : UInt64
  revocationEpoch : UInt64
  recipientEpoch : UInt64
  deriving DecidableEq

structure VerifiedState extends State where
  receipt : VerifiedReceipt
  deriving DecidableEq

structure VerifiedDecision extends Decision where
  receipt : VerifiedReceipt

def isHexDigit (byte : UInt8) : Bool :=
  (48 ≤ byte ∧ byte ≤ 57) ∨ (97 ≤ byte ∧ byte ≤ 102)

def validVerifiedReceipt (receipt : VerifiedReceipt) : Bool :=
  receipt.contentID ≠ [] ∧ receipt.providerID ≠ [] ∧ receipt.lineageID ≠ [] ∧
    receipt.contentID.length ≤ 128 ∧ receipt.providerID.length ≤ 128 ∧
    receipt.lineageID.length ≤ 128 ∧ receipt.rootEpoch ≠ 0 ∧ receipt.revocationEpoch ≠ 0 ∧
    receipt.authenticatedArtifactSHA256.length = 64 ∧
    (∀ byte ∈ receipt.authenticatedArtifactSHA256, isHexDigit byte = true) ∧
    isTrimmed receipt.contentID = true

def applyVerified (current : VerifiedState) (decision : VerifiedDecision) :
    Except LifecycleError VerifiedState := do
  ensure (validVerifiedReceipt decision.receipt) .invalidReceipt
  ensure (Choice.isAbsent current.status ∨ validVerifiedReceipt current.receipt)
    .invalidCurrentReceipt
  ensure (decision.generation = current.generation → ¬ Choice.isAbsent current.status →
    decision.receipt = current.receipt) .conflictingContent
  if decision.action = .known .admission ∧ current.status = .known .admitted ∧
      current.generation < decision.generation then
    ensure (decision.profileID = current.profileID ∧ decision.scope = current.scope ∧
      decision.receipt.lineageID = current.receipt.lineageID ∧
      decision.evidenceReference ≠ []) .replacementMismatch
    return ⟨⟨.known .admitted, decision.profileID, decision.scope, decision.evidenceReference,
      decision.generation⟩, decision.receipt⟩
  else
    let next ← apply current.toState decision.toDecision
    if next = current.toState then return current
    else return ⟨next, decision.receipt⟩

end Kurdistan.Product
