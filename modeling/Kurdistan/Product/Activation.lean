import Kurdistan.Support.Digest
import Kurdistan.Product.Lifecycle
import Kurdistan.Product.Trust

/-!
# Activation candidates

`verifyActivationCandidate` opens an artifact, verifies the delegation, the
revocation set and the profile signature, checks the activation policy and applies
the lifecycle transition. Parsing and encoding of envelopes are parameters
(`EnvelopeCodec`), and so are the callbacks of a request (`Callbacks`): a callback
may answer differently in every call. The observer of the passed checkpoints is
left out.
-/

namespace Kurdistan.Product

open Support

/-! ## Profiles and requests -/

inductive SnapshotMode where
  | fullSnapshot
  deriving DecidableEq

inductive UpdateKind where
  | initial
  | replacement
  | providerMigration
  deriving DecidableEq

/-- A profile snapshot. The policy is `none` for a nil slice, which a comparison of
records tells from an empty one. -/
structure CanonicalProfileV1 where
  contentID : Text
  profileID : Text
  lineageID : Text
  providerID : Text
  contractVersion : Text
  revocationScope : Text
  snapshotMode : Choice SnapshotMode
  updateKind : Choice UpdateKind
  generation : UInt64
  requiredSafetyFloor : UInt64
  validFrom : Int
  validUntil : Int
  rootEpoch : UInt64
  revocationEpoch : UInt64
  previousContentID : Text
  previousProviderID : Text
  relayIDs : List Text
  strategyIDs : List Text
  policy : Option (List UInt8)
  deriving DecidableEq

structure ActivationRecord where
  artifact : List UInt8
  signedObject : List UInt8
  profile : CanonicalProfileV1
  state : VerifiedState
  deriving DecidableEq

structure SignedIssuerDelegationV1 where
  artifact : IssuerDelegationArtifact
  rootKey : KeyReference
  payload : List UInt8
  signature : List UInt8

structure RevocationSetV1 where
  version : UInt64
  scope : Text
  rootEpoch : UInt64
  epoch : UInt64
  issuedAt : Int
  expiresAt : Int
  maxOfflineStalenessSecs : UInt64
  revokedIssuerKeyIDs : List Text
  revokedContentIDs : List Text
  emergencyDenied : Bool

structure SignedRevocationSetV1 where
  revocations : RevocationSetV1
  rootKey : KeyReference
  payload : List UInt8
  signature : List UInt8

/-- The data of a request. -/
structure ActivationRequest where
  artifact : List UInt8
  dispatch : ArtifactMetadata
  now : Int
  root : RootSetArtifact
  delegation : SignedIssuerDelegationV1
  revocations : SignedRevocationSetV1
  current : VerifiedState
  contractVersion : Text
  minSafetyFloor : UInt64
  minRootEpoch : UInt64
  minRevocationEpoch : UInt64

/-- The callbacks of a request, as they behave during one call. -/
structure Callbacks where
  unwrapArtifact : Option (List UInt8 → Option (List UInt8))
  unwrapSignedObject : Option (List UInt8 → Option (List UInt8))
  verifier : Option (KeyReference → List UInt8 → List UInt8 → Bool)
  resolver : Option (Choice ArtifactClass → Text → Option RecipientBinding)
  opener : Option (RecipientBinding → List UInt8 → List UInt8 → Option (List UInt8))
  offlineOpener :
    Option (RecipientBinding → List UInt8 → List UInt8 → List UInt8 → Option (List UInt8))

/-! ## Envelopes -/

structure ParsedSealedProfile where
  protectedBytes : List UInt8
  encapsulation : List UInt8
  ciphertext : List UInt8

structure SealProtectedContextV1 where
  suiteID : UInt64
  contentType : Text
  metadata : ArtifactMetadata

/-- The parts of a signed object; its exact bytes are those which were parsed. -/
structure ParsedSignedProfile where
  protectedBytes : List UInt8
  payload : List UInt8
  signature : List UInt8

structure SignedProtectedContextV1 where
  keyID : List UInt8
  suiteID : UInt64
  contentType : Text
  metadata : ArtifactMetadata

structure EnvelopeCodec where
  parseSealedProfileOpaque : List UInt8 → Option ParsedSealedProfile
  decodeSealProtectedContextV1 : List UInt8 → Option SealProtectedContextV1
  parseSignedProfileOpaque : List UInt8 → Option ParsedSignedProfile
  decodeSignedProtectedContextV1 : List UInt8 → Option SignedProtectedContextV1
  buildCOSESigStructure : List UInt8 → List UInt8 → Option (List UInt8)
  decodeCanonicalProfileV1 : List UInt8 → Option CanonicalProfileV1
  /-- `canonicalCBOR` of the map of a delegation. -/
  marshalDelegation : IssuerDelegationArtifact → Option (List UInt8)
  /-- `canonicalCBOR` of the map of a revocation set. -/
  marshalRevocations : RevocationSetV1 → Option (List UInt8)

def maxSignedObjectBytes : ℕ := 2 ^ 20
def maxTotalInputBytes : ℕ := 4096 + 65 + (maxSignedObjectBytes + 16) + 10

def signedPayloadContentType : Text := asciiBytes "application/vnd.kurdistan.profile+cbor"
def signedObjectContentType : Text := asciiBytes "application/vnd.kurdistan.profile+cose"

/-! ## Signed artifacts -/

inductive ActivationReasonCode where
  | invalidArtifact
  | trustRejected
  | policyRejected
  | storageFailure
  | recoveryFailure
  | quarantineFailure
  deriving DecidableEq

/-- The error of a failed verification and the rejection which was reported. -/
structure VerificationFailure where
  code : ActivationReasonCode
  rejection : VerificationRejection

/-- Report every rejection under one code. -/
def withCode {α : Type} (code : ActivationReasonCode) :
    Except VerificationRejection α → Except VerificationFailure α
  | .ok value => .ok value
  | .error rejection => .error ⟨code, rejection⟩

/-- The value of an optional result, or a rejection. -/
def orReject {α : Type} (rejection : VerificationRejection) :
    Option α → Except VerificationRejection α
  | some value => .ok value
  | none => .error rejection

def encodeIssuerDelegationV1 (codec : EnvelopeCodec) (d : IssuerDelegationArtifact) :
    Option (List UInt8) :=
  if d.rootEpoch = 0 ∨ d.delegationEpoch = 0 ∨ d.maxProfileValiditySecs = 0 ∨
      d.validFrom ≤ 0 ∨ d.validUntil ≤ d.validFrom ∨ d.rootKeyID = [] ∨
      d.issuerKey.validate = false ∨ d.scope.validate = false then none
  else codec.marshalDelegation d

variable (values : List Text)

/-- Every identifier is bounded and larger than the one before it. -/
def strictSorted : Bool :=
  (∀ value ∈ values, boundedID value = true) ∧ values.Pairwise (· < ·)

def maxCanonicalMembers : ℕ := 256

def encodeRevocationSetV1 (codec : EnvelopeCodec) (r : RevocationSetV1) : Option (List UInt8) :=
  if r.version ≠ 1 ∨ boundedID r.scope = false ∨ r.rootEpoch = 0 ∨ r.epoch = 0 ∨
      r.issuedAt ≤ 0 ∨ r.expiresAt ≤ r.issuedAt ∨ r.maxOfflineStalenessSecs = 0 ∨
      maxCanonicalMembers < r.revokedIssuerKeyIDs.length ∨
      maxCanonicalMembers < r.revokedContentIDs.length ∨
      strictSorted r.revokedIssuerKeyIDs = false ∨ strictSorted r.revokedContentIDs = false then
    none
  else codec.marshalRevocations r

/-- A conversion to `uint64`. -/
def uint64OfInt (value : Int) : UInt64 := UInt64.ofNat (value % 2 ^ 64).toNat

variable (codec : EnvelopeCodec) (verify : KeyReference → List UInt8 → List UInt8 → Bool)

def verifyDelegation (request : ActivationRequest) : Except VerificationRejection Unit := do
  let d := request.delegation
  validateActiveRootSet request.root request.now
  ensure d.rootKey.validate ⟨.delegation, .malformed⟩
  ensure (rootContainsReference request.root d.rootKey) ⟨.delegation, .rootMismatch⟩
  ensure (d.rootKey.keyID = d.artifact.rootKeyID) ⟨.delegation, .bindingMismatch⟩
  ensure (d.artifact.rootEpoch = request.root.epoch) ⟨.delegation, .rootMismatch⟩
  let canonical ← orReject ⟨.delegation, .malformed⟩ (encodeIssuerDelegationV1 codec d.artifact)
  ensure (canonical = d.payload) ⟨.delegation, .bindingMismatch⟩
  ensure (verify d.rootKey d.payload d.signature) ⟨.delegation, .signatureInvalid⟩

def verifySignedRevocationSetCore (signed : SignedRevocationSetV1) (now : Int) :
    Except VerificationRejection Unit := do
  let canonical ← orReject ⟨.revocations, .malformed⟩
    (encodeRevocationSetV1 codec signed.revocations)
  ensure (canonical = signed.payload) ⟨.revocations, .bindingMismatch⟩
  ensure (verify signed.rootKey signed.payload signed.signature) ⟨.revocations, .signatureInvalid⟩
  ensure (signed.revocations.issuedAt ≤ now ∧ now < signed.revocations.expiresAt ∧
    uint64OfInt (now - signed.revocations.issuedAt) ≤
      signed.revocations.maxOfflineStalenessSecs) ⟨.revocations, .timeInvalid⟩

def verifyRevocations (request : ActivationRequest) : Except VerificationRejection Unit := do
  let r := request.revocations
  ensure r.rootKey.validate ⟨.revocations, .malformed⟩
  ensure (rootContainsReference request.root r.rootKey) ⟨.revocations, .rootMismatch⟩
  ensure (r.rootKey.keyID = request.delegation.artifact.rootKeyID) ⟨.revocations, .bindingMismatch⟩
  ensure (r.revocations.rootEpoch = request.root.epoch) ⟨.revocations, .rootMismatch⟩
  verifySignedRevocationSetCore codec verify r request.now

/-! ## Policy -/

/-- `sort.SearchStrings`: the first position whose text is not below the target. -/
def searchStrings (target : Text) : ℕ :=
  values.findIdx fun value => ¬ value < target

def containsSorted (target : Text) : Bool :=
  values[searchStrings values target]? = some target

/-- The profile is the one which the current state admits. -/
def sameActivation (current : VerifiedState) (p : CanonicalProfileV1)
    (authenticatedDigest : Text) : Bool :=
  p.contentID = current.receipt.contentID ∧ p.providerID = current.receipt.providerID ∧
    p.lineageID = current.receipt.lineageID ∧ p.rootEpoch = current.receipt.rootEpoch ∧
    p.revocationEpoch = current.receipt.revocationEpoch ∧
    authenticatedDigest = current.receipt.authenticatedArtifactSHA256

/-- The rules of the three kinds of updates. -/
def validateUpdateKind (current : VerifiedState) (p : CanonicalProfileV1) :
    Except VerificationRejection Unit :=
  match p.updateKind with
  | .known .initial =>
    ensure (Choice.isAbsent current.status ∧ p.previousContentID = [] ∧
      p.previousProviderID = []) ⟨.lifecycle, .lifecycleMismatch⟩
  | .known .replacement =>
    ensure (current.status = .known .admitted ∧
      p.previousContentID = current.receipt.contentID ∧
      p.providerID = current.receipt.providerID ∧
      p.lineageID = current.receipt.lineageID ∧ p.previousProviderID = [])
      ⟨.lifecycle, .lifecycleMismatch⟩
  | .known .providerMigration =>
    ensure (current.status = .known .admitted ∧
      p.previousContentID = current.receipt.contentID ∧
      p.previousProviderID = current.receipt.providerID ∧
      p.providerID ≠ current.receipt.providerID ∧
      p.lineageID = current.receipt.lineageID) ⟨.lifecycle, .lifecycleMismatch⟩
  | .other _ => .error ⟨.profilePolicy, .incompatible⟩

def validateActivationPolicy (request : ActivationRequest) (p : CanonicalProfileV1)
    (authenticatedDigest : Text) : Except VerificationRejection Unit := do
  let revocations := request.revocations.revocations
  let delegation := request.delegation.artifact
  ensure (p.contractVersion = request.contractVersion ∧ p.snapshotMode = .known .fullSnapshot)
    ⟨.profilePolicy, .incompatible⟩
  ensure (request.minSafetyFloor ≤ p.requiredSafetyFloor ∧ request.minRootEpoch ≤ p.rootEpoch)
    ⟨.profilePolicy, .floorRejected⟩
  ensure (p.rootEpoch = request.root.epoch) ⟨.profilePolicy, .bindingMismatch⟩
  ensure (request.minRevocationEpoch ≤ p.revocationEpoch) ⟨.profilePolicy, .floorRejected⟩
  ensure (p.revocationEpoch = revocations.epoch ∧ p.revocationScope = revocations.scope)
    ⟨.profilePolicy, .bindingMismatch⟩
  ensure (p.validFrom ≤ request.now ∧ request.now < p.validUntil ∧
    uint64OfInt (p.validUntil - p.validFrom) ≤ delegation.maxProfileValiditySecs)
    ⟨.profilePolicy, .timeInvalid⟩
  validateIssuerDelegation request.root delegation request.now p.providerID p.lineageID p.profileID
  ensure (¬ revocations.emergencyDenied ∧
    ¬ containsSorted revocations.revokedIssuerKeyIDs delegation.issuerKey.keyID ∧
    ¬ containsSorted revocations.revokedContentIDs p.contentID)
    ⟨.profilePolicy, .explicitRevocation⟩
  let current := request.current
  if current.status = .known .admitted ∧ p.generation = current.generation then
    ensure (sameActivation current p authenticatedDigest) ⟨.lifecycle, .lifecycleMismatch⟩
  else do
    ensure (current.status = .known .admitted → current.generation < p.generation →
      current.receipt.rootEpoch ≤ p.rootEpoch ∧
      current.receipt.revocationEpoch ≤ p.revocationEpoch) ⟨.lifecycle, .lifecycleMismatch⟩
    validateUpdateKind current p

/-! ## Candidates -/

/-- The signed object of an artifact, with the metadata of the seal and the
recipient it was opened for. -/
structure OpenedArtifact where
  signedObject : List UInt8
  outer : Option ArtifactMetadata
  recipient : Option RecipientBinding

/-- Public artifacts are opened without any recipient callback. -/
def Callbacks.withoutRecipient (callbacks : Callbacks) : Bool :=
  callbacks.resolver.isNone ∧ callbacks.opener.isNone ∧ callbacks.offlineOpener.isNone

/-- The native artifact inside an application's envelope. -/
def unwrapNative (callbacks : Callbacks) (artifact : List UInt8) :
    Except VerificationFailure (List UInt8) :=
  match callbacks.unwrapArtifact with
  | none => .ok artifact
  | some unwrap => do
    ensure callbacks.unwrapSignedObject.isNone ⟨.invalidArtifact, ⟨.outer, .incompatible⟩⟩
    let nativeArtifact ← withCode .trustRejected (orReject ⟨.outer, .unknown⟩ (unwrap artifact))
    ensure (nativeArtifact ≠ [] ∧ nativeArtifact.length ≤ maxTotalInputBytes)
      ⟨.trustRejected, ⟨.outer, .malformed⟩⟩
    return nativeArtifact

/-- Resolve the recipient which the metadata of a sealed artifact names and open the
artifact for it. -/
def openForRecipient (dispatch : ArtifactMetadata) (parsed : ParsedSealedProfile)
    (resolver : Choice ArtifactClass → Text → Option RecipientBinding)
    (openWith : RecipientBinding → Option (List UInt8)) :
    Except VerificationFailure OpenedArtifact := do
  let context ← withCode .trustRejected
    (orReject ⟨.outer, .malformed⟩ (codec.decodeSealProtectedContextV1 parsed.protectedBytes))
  ensure (context.metadata = dispatch ∧ context.suiteID = 1 ∧
    context.contentType = signedObjectContentType)
    ⟨.trustRejected, ⟨.outer, .bindingMismatch⟩⟩
  let resolved ← withCode .trustRejected
    (orReject ⟨.recipient, .recipientRejected⟩
      (resolveRecipientForMetadata resolver context.metadata))
  let signedObject ← withCode .trustRejected
    (orReject ⟨.recipient, .recipientRejected⟩ (openWith resolved))
  ensure (signedObject ≠ [] ∧ signedObject.length ≤ maxSignedObjectBytes)
    ⟨.trustRejected, ⟨.recipient, .malformed⟩⟩
  return ⟨signedObject, some context.metadata, some resolved⟩

/-- A sealed artifact needs a resolver and exactly one of the two openers. -/
def openSealed (callbacks : Callbacks) (dispatch : ArtifactMetadata)
    (nativeArtifact : List UInt8) : Except VerificationFailure OpenedArtifact := do
  let parsed ← withCode .invalidArtifact
    (orReject ⟨.outer, .malformed⟩ (codec.parseSealedProfileOpaque nativeArtifact))
  match callbacks.resolver, callbacks.opener, callbacks.offlineOpener with
  | some resolver, some opener, none =>
    openForRecipient codec dispatch parsed resolver (fun binding =>
      opener binding parsed.encapsulation parsed.ciphertext)
  | some resolver, none, some opener =>
    openForRecipient codec dispatch parsed resolver (fun binding =>
      opener binding parsed.protectedBytes parsed.encapsulation parsed.ciphertext)
  | _, _, _ => .error ⟨.invalidArtifact, ⟨.recipient, .incompatible⟩⟩

def openArtifact (callbacks : Callbacks) (dispatch : ArtifactMetadata)
    (artifact : List UInt8) : Except VerificationFailure OpenedArtifact := do
  let nativeArtifact ← unwrapNative callbacks artifact
  match callbacks.unwrapSignedObject with
  | some unwrap => do
    ensure (dispatch.artifactClass = .known .signedPublic)
      ⟨.invalidArtifact, ⟨.outer, .incompatible⟩⟩
    ensure callbacks.withoutRecipient ⟨.invalidArtifact, ⟨.recipient, .incompatible⟩⟩
    let signedObject ← withCode .trustRejected (orReject ⟨.outer, .unknown⟩ (unwrap artifact))
    ensure (signedObject ≠ [] ∧ signedObject.length ≤ maxTotalInputBytes)
      ⟨.trustRejected, ⟨.outer, .malformed⟩⟩
    return ⟨signedObject, none, none⟩
  | none =>
    if dispatch.artifactClass = .known .signedPublic then do
      ensure callbacks.withoutRecipient ⟨.invalidArtifact, ⟨.recipient, .incompatible⟩⟩
      return ⟨nativeArtifact, none, none⟩
    else openSealed codec callbacks dispatch nativeArtifact

/-- `RecipientBindingContainsProfile`. -/
def recipientBindingContainsProfile (binding : RecipientBinding) (p : CanonicalProfileV1) :
    Bool :=
  binding.validate ∧ ¬ binding.revoked ∧
    AuthorityScope.contains ⟨binding.providerID, binding.lineageID, binding.profileNamespace⟩
      p.providerID p.lineageID p.profileID

/-- The text under which the state remembers an authenticated object. -/
def authenticatedDigest (exactObject : List UInt8) : Text :=
  hexEncode (sha256 exactObject).toList

/-- The lifecycle decision for a profile in a signed object. -/
def admitDecision (p : CanonicalProfileV1) (digest : Text) (recipientEpoch : UInt64) :
    VerifiedDecision where
  action := .known .admission
  profileID := p.profileID
  scope := p.revocationScope
  evidenceReference := digest
  generation := p.generation
  receipt := {
    contentID := p.contentID
    providerID := p.providerID
    lineageID := p.lineageID
    authenticatedArtifactSHA256 := digest
    rootEpoch := p.rootEpoch
    revocationEpoch := p.revocationEpoch
    recipientEpoch := recipientEpoch }

/-- The signed object carries a profile which the issuer signed for the dispatched
metadata. -/
def verifySignedObject (request : ActivationRequest) (opened : OpenedArtifact) :
    Except VerificationFailure (CanonicalProfileV1 × SignedProtectedContextV1) := do
  let parsed ← withCode .invalidArtifact
    (orReject ⟨.outer, .malformed⟩ (codec.parseSignedProfileOpaque opened.signedObject))
  let signedContext ← withCode .trustRejected
    (orReject ⟨.outer, .malformed⟩ (codec.decodeSignedProtectedContextV1 parsed.protectedBytes))
  ensure (signedContext.suiteID = 1 ∧ signedContext.contentType = signedPayloadContentType)
    ⟨.trustRejected, ⟨.outer, .bindingMismatch⟩⟩
  withCode .trustRejected (verifyDelegation codec verify request)
  withCode .trustRejected (verifyRevocations codec verify request)
  ensure (signedContext.keyID = request.delegation.artifact.issuerKey.keyID)
    ⟨.trustRejected, ⟨.profileSignature, .bindingMismatch⟩⟩
  let sigStructure ← withCode .trustRejected
    (orReject ⟨.profileSignature, .malformed⟩
      (codec.buildCOSESigStructure parsed.protectedBytes parsed.payload))
  ensure (verify request.delegation.artifact.issuerKey sigStructure parsed.signature)
    ⟨.trustRejected, ⟨.profileSignature, .signatureInvalid⟩⟩
  ensure (∀ metadata ∈ opened.outer, signedContext.metadata = metadata)
    ⟨.trustRejected, ⟨.outer, .bindingMismatch⟩⟩
  ensure (signedContext.metadata = request.dispatch) ⟨.trustRejected, ⟨.outer, .bindingMismatch⟩⟩
  let profileValue ← withCode .invalidArtifact
    (orReject ⟨.profilePolicy, .malformed⟩ (codec.decodeCanonicalProfileV1 parsed.payload))
  ensure (∀ binding ∈ opened.recipient, recipientBindingContainsProfile binding profileValue)
    ⟨.trustRejected, ⟨.recipient, .scopeMismatch⟩⟩
  return (profileValue, signedContext)

def verifyActivationCandidate (callbacks : Callbacks) (request : ActivationRequest)
    (artifact : List UInt8) : Except VerificationFailure ActivationRecord := do
  ensure (artifact ≠ [] ∧ artifact.length ≤ maxTotalInputBytes)
    ⟨.invalidArtifact, ⟨.outer, .malformed⟩⟩
  match callbacks.verifier with
  | none => .error ⟨.invalidArtifact, ⟨.profileSignature, .incompatible⟩⟩
  | some verify => do
    ensure (validateArtifactMetadata request.dispatch) ⟨.invalidArtifact, ⟨.outer, .malformed⟩⟩
    let opened ← openArtifact codec callbacks request.dispatch artifact
    let (profileValue, signedContext) ← verifySignedObject codec verify request opened
    let digest := authenticatedDigest opened.signedObject
    withCode .policyRejected (validateActivationPolicy request profileValue digest)
    let decision := admitDecision profileValue digest signedContext.metadata.recipientEpoch
    match applyVerified request.current decision with
    | .error _ => .error ⟨.policyRejected, ⟨.lifecycle, .lifecycleMismatch⟩⟩
    | .ok next => return ⟨artifact, opened.signedObject, profileValue, next⟩

end Kurdistan.Product
