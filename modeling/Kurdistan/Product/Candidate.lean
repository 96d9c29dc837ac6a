import Kurdistan.Product.Activation

/-!
# Verified candidates

What a successful `verifyActivationCandidate` establishes about its record. The
callbacks decide which signed object an artifact opens to and whether the signatures
verify; the profile and the resulting state are functions of the signed object and the
request.
-/

namespace Kurdistan.Product

open Support

variable {codec : EnvelopeCodec} {callbacks : Callbacks}

theorem withCode_eq_ok {α : Type} {code : ActivationReasonCode}
    {outcome : Except VerificationRejection α} {value : α} :
    withCode code outcome = .ok value ↔ outcome = .ok value := by
  cases outcome <;> simp [withCode]

theorem orReject_eq_ok {α : Type} {rejection : VerificationRejection} {result : Option α}
    {value : α} : orReject rejection result = .ok value ↔ result = some value := by
  cases result <;> simp [orReject]

/-- The signed object decodes to the profile. -/
def SignedProfile (codec : EnvelopeCodec) (signedObject : List UInt8)
    (p : CanonicalProfileV1) : Prop :=
  ∃ parsed, codec.parseSignedProfileOpaque signedObject = some parsed ∧
    codec.decodeCanonicalProfileV1 parsed.payload = some p

theorem SignedProfile.unique {signedObject : List UInt8} {p q : CanonicalProfileV1}
    (hp : SignedProfile codec signedObject p) (hq : SignedProfile codec signedObject q) :
    p = q := by
  obtain ⟨parsed, hparsed, hp⟩ := hp
  obtain ⟨parsed', hparsed', hq⟩ := hq
  rw [hparsed, Option.some_inj] at hparsed'
  subst hparsed'
  rw [hp, Option.some_inj] at hq
  exact hq

/-- The checks which a record has passed. -/
structure VerifiedCandidate (codec : EnvelopeCodec)
    (verify : KeyReference → List UInt8 → List UInt8 → Bool) (request : ActivationRequest)
    (record : ActivationRecord) : Prop where
  delegation : verifyDelegation codec verify request = .ok ()
  revocations : verifyRevocations codec verify request = .ok ()
  profile : SignedProfile codec record.signedObject record.profile
  policy : validateActivationPolicy request record.profile
    (authenticatedDigest record.signedObject) = .ok ()
  state : applyVerified request.current
    (admitDecision record.profile (authenticatedDigest record.signedObject)
      request.dispatch.recipientEpoch) = .ok record.state

variable {request : ActivationRequest}

theorem verifySignedObject_spec {verify : KeyReference → List UInt8 → List UInt8 → Bool}
    {opened : OpenedArtifact} {p : CanonicalProfileV1} {context : SignedProtectedContextV1}
    (h : verifySignedObject codec verify request opened = .ok (p, context)) :
    verifyDelegation codec verify request = .ok () ∧
      verifyRevocations codec verify request = .ok () ∧
      SignedProfile codec opened.signedObject p ∧ context.metadata = request.dispatch := by
  simp only [verifySignedObject, bind_ok_iff, withCode_eq_ok, orReject_eq_ok, ensure_ok_iff] at h
  obtain ⟨parsed, hparsed, signed, -, _, -, _, hdelegation, _, hrevocations, _, -,
    sigStructure, -, _, -, _, -, _, hdispatch, q, hq, _, -, hresult⟩ := h
  cases hresult
  exact ⟨hdelegation, hrevocations, ⟨parsed, hparsed, hq⟩, hdispatch⟩

/-- A verified record carries the artifact it was verified from and has passed every
check. -/
theorem verifyActivationCandidate_spec {artifact : List UInt8} {record : ActivationRecord}
    (h : verifyActivationCandidate codec callbacks request artifact = .ok record) :
    record.artifact = artifact ∧
      ∃ verify, callbacks.verifier = some verify ∧
        VerifiedCandidate codec verify request record := by
  rw [verifyActivationCandidate, check_ok_iff] at h
  obtain ⟨-, h⟩ := h
  cases hverifier : callbacks.verifier with
  | none => simp [hverifier] at h
  | some verify =>
    simp only [hverifier, bind_ok_iff] at h
    obtain ⟨_, -, opened, -, ⟨p, context⟩, hsigned, _, hpolicy, h⟩ := h
    obtain ⟨hdelegation, hrevocations, hprofile, hmetadata⟩ := verifySignedObject_spec hsigned
    rw [withCode_eq_ok] at hpolicy
    rw [hmetadata] at h
    split at h
    · cases h
    · rename_i state hstate
      cases h
      exact ⟨rfl, verify, rfl, hdelegation, hrevocations, hprofile, hpolicy, hstate⟩

/-- Two verifications for one request which opened the same signed object from the same
artifact give the same record, whatever the callbacks answered. -/
theorem verified_record_unique {callbacks' : Callbacks} {artifact artifact' : List UInt8}
    {record record' : ActivationRecord}
    (h : verifyActivationCandidate codec callbacks request artifact = .ok record)
    (h' : verifyActivationCandidate codec callbacks' request artifact' = .ok record')
    (hartifact : record'.artifact = record.artifact)
    (hsigned : record'.signedObject = record.signedObject) : record' = record := by
  obtain ⟨-, verify, -, hverified⟩ := verifyActivationCandidate_spec h
  obtain ⟨-, verify', -, hverified'⟩ := verifyActivationCandidate_spec h'
  have hprofile : record'.profile = record.profile :=
    SignedProfile.unique (hsigned ▸ hverified'.profile) hverified.profile
  have hstate : record'.state = record.state := by
    have h := hverified.state
    rw [← hsigned, ← hprofile, hverified'.state] at h
    exact Except.ok.inj h
  cases record'
  simp_all

end Kurdistan.Product
