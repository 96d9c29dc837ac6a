import Kurdistan.Support.Choice
import Kurdistan.Support.Outcome

/-!
# Trust artifacts

Root sets, issuer delegations, recipient bindings, artifact metadata and the checks
which `verifyActivationCandidate` makes on them. A failed check reports the stage
and the reason which the rejection sink receives.
-/

namespace Kurdistan.Product

open Support

/-! ## Rejections -/

inductive VerificationStage where
  | outer
  | recipient
  | root
  | delegation
  | revocations
  | profileSignature
  | profilePolicy
  | lifecycle
  deriving DecidableEq

inductive VerificationReason where
  | unknown
  | malformed
  | rootMismatch
  | signatureInvalid
  | recipientRejected
  | bindingMismatch
  | scopeMismatch
  | floorRejected
  | timeInvalid
  | explicitRevocation
  | lifecycleMismatch
  | incompatible
  deriving DecidableEq

structure VerificationRejection where
  stage : VerificationStage
  reason : VerificationReason

/-! ## Identifiers -/

def isIDByte (byte : UInt8) : Bool :=
  byte = 45 ∨ byte = 95 ∨ byte = 46 ∨ byte = 58 ∨ (97 ≤ byte ∧ byte ≤ 122) ∨
    (65 ≤ byte ∧ byte ≤ 90) ∨ (48 ≤ byte ∧ byte ≤ 57)

def boundedID (value : Text) : Bool :=
  isTrimmed value = true ∧ 1 ≤ value.length ∧ value.length ≤ 128 ∧
    ∀ byte ∈ value, isIDByte byte = true

/-- A namespace ends with the delimiter, `.` or `/`, which separates its parts. -/
def validProfileNamespace (namespaceText : Text) : Bool :=
  match namespaceText.getLast? with
  | some delimiter =>
    (delimiter = 46 ∨ delimiter = 47) ∧ isTrimmed namespaceText = true ∧
      ∀ part ∈ namespaceText.dropLast.splitOn delimiter, boundedID part = true
  | none => false

structure AuthorityScope where
  providerID : Text
  lineageID : Text
  profileNamespace : Text

def AuthorityScope.validate (scope : AuthorityScope) : Bool :=
  boundedID scope.providerID ∧ boundedID scope.lineageID ∧
    validProfileNamespace scope.profileNamespace

def AuthorityScope.contains (scope : AuthorityScope) (providerID lineageID profileID : Text) :
    Bool :=
  providerID = scope.providerID ∧ lineageID = scope.lineageID ∧
    scope.profileNamespace.isPrefixOf profileID ∧
    scope.profileNamespace.length < profileID.length

/-! ## Keys and roots -/

def suiteClassicalV1 : UInt16 := 1

structure KeyReference where
  keyID : Text
  suiteID : UInt16
  deriving DecidableEq

def KeyReference.validate (key : KeyReference) : Bool :=
  boundedID key.keyID ∧ key.suiteID = suiteClassicalV1

structure RootSetArtifact where
  epoch : UInt64
  viewID : Text
  validFrom : Int
  validUntil : Int
  keys : List KeyReference

variable (root : RootSetArtifact)

def validateRootSet : Bool :=
  root.epoch ≠ 0 ∧ boundedID root.viewID ∧ 0 < root.validFrom ∧
    root.validFrom < root.validUntil ∧ root.keys ≠ [] ∧ root.keys.length ≤ 16 ∧
    (∀ key ∈ root.keys, key.validate = true) ∧ (root.keys.map KeyReference.keyID).Nodup

def validateActiveRootSet (now : Int) :
    Except VerificationRejection Unit := do
  ensure (validateRootSet root) ⟨.root, .malformed⟩
  ensure (root.validFrom ≤ now ∧ now < root.validUntil) ⟨.root, .timeInvalid⟩

def rootContains (keyID : Text) : Bool :=
  root.keys.any fun key => key.keyID = keyID

def rootContainsReference (reference : KeyReference) : Bool :=
  root.keys.any fun key => key = reference

/-! ## Issuer delegations -/

structure IssuerDelegationArtifact where
  rootEpoch : UInt64
  rootKeyID : Text
  issuerKey : KeyReference
  scope : AuthorityScope
  validFrom : Int
  validUntil : Int
  delegationEpoch : UInt64
  maxProfileValiditySecs : UInt64
  revoked : Bool

def validateIssuerDelegation (delegation : IssuerDelegationArtifact)
    (now : Int) (providerID lineageID profileID : Text) :
    Except VerificationRejection Unit := do
  validateActiveRootSet root now
  ensure (delegation.rootEpoch = root.epoch ∧ rootContains root delegation.rootKeyID)
    ⟨.delegation, .rootMismatch⟩
  ensure delegation.issuerKey.validate ⟨.delegation, .malformed⟩
  ensure (¬ rootContains root delegation.issuerKey.keyID ∧
    delegation.issuerKey.keyID ≠ delegation.rootKeyID) ⟨.delegation, .bindingMismatch⟩
  ensure delegation.scope.validate ⟨.delegation, .malformed⟩
  ensure (delegation.delegationEpoch ≠ 0 ∧ delegation.maxProfileValiditySecs ≠ 0)
    ⟨.delegation, .malformed⟩
  ensure (¬ delegation.revoked) ⟨.delegation, .explicitRevocation⟩
  ensure (delegation.validFrom ≤ now ∧ now < delegation.validUntil) ⟨.delegation, .timeInvalid⟩
  ensure (delegation.validFrom < delegation.validUntil) ⟨.delegation, .malformed⟩
  ensure (delegation.scope.contains providerID lineageID profileID) ⟨.delegation, .scopeMismatch⟩

/-! ## Artifact metadata and recipients -/

inductive ArtifactClass where
  | signedPublic
  | providerGroup
  | deviceRecipient
  | encryptedBackup
  deriving DecidableEq

inductive Audience where
  | publicAudience
  | provisionedGroup
  | provisionedDevice
  | provisionedBackupKey
  deriving DecidableEq

structure ArtifactMetadata where
  artifactClass : Choice ArtifactClass
  audienceClass : Choice Audience
  recipientHint : Text
  recipientEpoch : UInt64
  deriving DecidableEq

def ArtifactClass.wantAudience : ArtifactClass → Audience
  | .signedPublic => .publicAudience
  | .providerGroup => .provisionedGroup
  | .deviceRecipient => .provisionedDevice
  | .encryptedBackup => .provisionedBackupKey

def isHintByte (byte : UInt8) : Bool :=
  byte = 45 ∨ byte = 95 ∨ (97 ≤ byte ∧ byte ≤ 122) ∨ (65 ≤ byte ∧ byte ≤ 90) ∨
    (48 ≤ byte ∧ byte ≤ 57)

def boundedRoutingHint (value : Text) : Bool :=
  isTrimmed value = true ∧ 8 ≤ value.length ∧ value.length ≤ 64 ∧
    ∀ byte ∈ value, isHintByte byte = true

def validateArtifactMetadata (m : ArtifactMetadata) : Bool :=
  match m.artifactClass with
  | .other _ => false
  | .known artifactClass =>
    m.audienceClass = .known artifactClass.wantAudience ∧
      if artifactClass = .signedPublic then m.recipientHint = [] ∧ m.recipientEpoch = 0
      else boundedRoutingHint m.recipientHint = true ∧ m.recipientEpoch ≠ 0

structure RecipientBinding where
  artifactClass : Choice ArtifactClass
  providerID : Text
  lineageID : Text
  profileNamespace : Text
  hint : Text
  keyID : Text
  epoch : UInt64
  revoked : Bool

def RecipientBinding.validate (binding : RecipientBinding) : Bool :=
  match binding.artifactClass with
  | .known .providerGroup => check .provisionedGroup
  | .known .deviceRecipient => check .provisionedDevice
  | .known .encryptedBackup => check .provisionedBackupKey
  | _ => false
where
  check (audience : Audience) : Bool :=
    validateArtifactMetadata
      ⟨binding.artifactClass, .known audience, binding.hint, binding.epoch⟩ = true ∧
    boundedID binding.providerID ∧ boundedID binding.lineageID ∧ boundedID binding.keyID ∧
    validProfileNamespace binding.profileNamespace

/-- `ResolveRecipientForMetadata`: the binding which a resolver returned for the class
and the hint of the metadata. -/
def resolveRecipientForMetadata (resolver : Choice ArtifactClass → Text → Option RecipientBinding)
    (metadata : ArtifactMetadata) : Option RecipientBinding := do
  let binding ← resolver metadata.artifactClass metadata.recipientHint
  if binding.validate ∧ ¬ binding.revoked ∧ binding.artifactClass = metadata.artifactClass ∧
      binding.hint = metadata.recipientHint ∧ binding.epoch = metadata.recipientEpoch then
    some binding
  else none

end Kurdistan.Product
