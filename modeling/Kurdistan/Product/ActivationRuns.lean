import Kurdistan.Product.ActivationSafety

/-!
# Runs of activations

Each activation starts from the state which the one before it produced. A verified
candidate puts its own decision into the state (`VerifiedDecision.admitted`), so the state
before an activation says what the activation before it was.
-/

namespace Kurdistan.Product

open Support Choice List

/-! ## One activation -/

/-- The state which admits a decision. -/
def VerifiedDecision.admitted (d : VerifiedDecision) : VerifiedState :=
  ⟨⟨.known .admitted, d.profileID, d.scope, d.evidenceReference, d.generation⟩, d.receipt⟩

/-- A decision to admit either extends the state it is applied to or repeats it. -/
inductive AdmitStep (current : VerifiedState) (d : VerifiedDecision) : Prop where
  | initial (absent : isAbsent current.status = true)
  | extend (status : current.status = .known .admitted)
      (generation : current.generation < d.generation) (profileID : d.profileID = current.profileID)
      (scope : d.scope = current.scope)
      (lineageID : d.receipt.lineageID = current.receipt.lineageID)
  | again (same : current = d.admitted)

/-- The state of a decision without its receipt. -/
def Decision.admitted (d : Decision) : State :=
  ⟨.known .admitted, d.profileID, d.scope, d.evidenceReference, d.generation⟩

theorem apply_admit_absent {current next : State} {d : Decision}
    (haction : d.action = .known .admission) (habsent : isAbsent current.status = true)
    (h : apply current d = .ok next) : next = d.admitted := by
  rw [apply, check_ok_iff, haction] at h
  obtain ⟨-, h⟩ := h
  simp only [check_ok_iff, ensure_eq_ok] at h
  obtain ⟨hzero, hdecision, -, -, h⟩ := h
  -- both spellings of the absent status are `absent` from here on
  have hstatus : (if current.status = .other "" then { current with status := .known .absent }
      else current).status = .known .absent := by
    simp only [isAbsent, decide_eq_true_eq] at habsent
    rcases habsent with hempty | hknown
    · simp [hempty]
    · simp [hknown]
  rw [(hzero hstatus).2.2.2, if_neg hdecision.1, hstatus] at h
  exact (Except.ok.inj h).symm

theorem apply_admit_admitted {current next : State} {d : Decision}
    (haction : d.action = .known .admission) (hadmitted : current.status = .known .admitted)
    (h : apply current d = .ok next) : next = d.admitted ∧ current = d.admitted := by
  rw [apply, check_ok_iff, haction] at h
  obtain ⟨-, h⟩ := h
  have hstart : (if current.status = .other "" then { current with status := .known .absent }
      else current) = current := by simp [hadmitted]
  simp only [hstart, check_ok_iff] at h
  obtain ⟨-, -, -, -, h⟩ := h
  split at h
  · rw [check_ok_iff, ensure_eq_ok] at h
    obtain ⟨⟨hprofile, hscope, hevidence, -⟩, h⟩ := h
    have hcurrent : current = d.admitted := by
      cases current
      simp_all [Decision.admitted]
    exact ⟨(Except.ok.inj h).symm.trans hcurrent, hcurrent⟩
  · simp [nextStatus, hadmitted, ensure] at h

variable {current : VerifiedState}

/-- What `applyVerified` does with a decision to admit, in an absent or admitted state. -/
theorem applyVerified_admission {next : VerifiedState} {d : VerifiedDecision}
    (haction : d.action = .known .admission)
    (hstatus : isAbsent current.status = true ∨ current.status = .known .admitted)
    (h : applyVerified current d = .ok next) : next = d.admitted ∧ AdmitStep current d := by
  simp only [applyVerified, check_ok_iff] at h
  obtain ⟨-, -, hreceipt, h⟩ := h
  split at h
  · rename_i hextend
    rw [check_ok_iff, ensure_eq_ok] at h
    obtain ⟨⟨hprofile, hscope, hlineage, -⟩, h⟩ := h
    exact ⟨(Except.ok.inj h).symm, .extend hextend.2.1 hextend.2.2 hprofile hscope hlineage⟩
  · obtain ⟨state, hstate, h⟩ := bind_ok_iff.mp h
    rcases hstatus with habsent | hadmitted
    · obtain rfl := apply_admit_absent haction habsent hstate
      have hchanged : d.toDecision.admitted ≠ current.toState := by
        intro hsame
        rw [← hsame] at habsent
        simp [isAbsent, Decision.admitted] at habsent
      rw [if_neg hchanged] at h
      exact ⟨(Except.ok.inj h).symm, .initial habsent⟩
    · obtain ⟨rfl, hcurrent⟩ := apply_admit_admitted haction hadmitted hstate
      have hsame : current = d.admitted := by
        have hnotAbsent : ¬ isAbsent current.status = true := by
          simp [isAbsent, hadmitted]
        cases current
        simp_all [VerifiedDecision.admitted, Decision.admitted]
      rw [if_pos hcurrent.symm] at h
      exact ⟨(Except.ok.inj h).symm.trans hsame, .again hsame⟩

/-! ## The policy -/

theorem containsSorted_of_mem {values : List Text} {target : Text}
    (hsorted : values.Pairwise (· < ·)) (hmem : target ∈ values) :
    containsSorted values target = true := by
  obtain ⟨position, hposition, rfl⟩ := getElem_of_mem hmem
  have hsearch : searchStrings values values[position] = position := by
    rw [searchStrings, findIdx_eq hposition]
    refine ⟨by simp, fun earlier hearlier => ?_⟩
    have hlt := pairwise_iff_getElem.mp hsorted earlier position (by omega) hposition hearlier
    simpa using hlt
  simp [containsSorted, hsearch]

variable {request : ActivationRequest}

theorem verifyRevocations_sorted {codec : EnvelopeCodec}
    {verify : KeyReference → List UInt8 → List UInt8 → Bool}
    (h : verifyRevocations codec verify request = .ok ()) :
    request.revocations.revocations.revokedIssuerKeyIDs.Pairwise (· < ·) ∧
      request.revocations.revocations.revokedContentIDs.Pairwise (· < ·) := by
  simp only [verifyRevocations, verifySignedRevocationSetCore, bind_ok_iff] at h
  obtain ⟨_, -, _, -, _, -, _, -, payload, hpayload, -⟩ := h
  unfold encodeRevocationSetV1 at hpayload
  split at hpayload
  · cases hpayload
  · rename_i hvalid
    simp only [not_or, Bool.not_eq_false] at hvalid
    obtain ⟨-, -, -, -, -, -, -, -, -, hissuers, hcontents⟩ := hvalid
    simp only [strictSorted, decide_eq_true_eq] at hissuers hcontents
    exact ⟨hissuers.2, hcontents.2⟩

variable {p : CanonicalProfileV1}

/-- The parts of the policy which an activation relies on later. -/
theorem validateActivationPolicy_spec {digest : Text}
    (h : validateActivationPolicy request p digest = .ok ()) :
    (containsSorted request.revocations.revocations.revokedIssuerKeyIDs
        request.delegation.artifact.issuerKey.keyID = false ∧
      containsSorted request.revocations.revocations.revokedContentIDs p.contentID = false) ∧
    (¬ (request.current.status = .known .admitted ∧
        p.generation = request.current.generation) →
      (request.current.status = .known .admitted → request.current.generation < p.generation →
        request.current.receipt.rootEpoch ≤ p.rootEpoch ∧
        request.current.receipt.revocationEpoch ≤ p.revocationEpoch) ∧
      validateUpdateKind request.current p = .ok ()) := by
  simp only [validateActivationPolicy, check_ok_iff, ensure_eq_ok] at h
  obtain ⟨-, -, -, -, -, -, -, hrevoked, h⟩ := h
  refine ⟨by simpa using hrevoked.2, fun hchange => ?_⟩
  rw [if_neg hchange] at h
  simpa only [check_ok_iff, ensure_eq_ok] using h

theorem validateUpdateKind_absent (habsent : isAbsent current.status = true)
    (h : validateUpdateKind current p = .ok ()) :
    p.updateKind = .known .initial ∧ p.previousContentID = [] := by
  have hadmitted : current.status ≠ .known .admitted := by
    intro hadmitted
    simp [isAbsent, hadmitted] at habsent
  unfold validateUpdateKind at h
  split at h
  · rename_i hkind
    exact ⟨hkind, (ensure_eq_ok.mp h).2.1⟩
  · exact absurd (ensure_eq_ok.mp h).1 hadmitted
  · exact absurd (ensure_eq_ok.mp h).1 hadmitted
  · cases h

theorem validateUpdateKind_admitted (hadmitted : current.status = .known .admitted)
    (h : validateUpdateKind current p = .ok ()) :
    p.updateKind ≠ .known .initial ∧ p.previousContentID = current.receipt.contentID ∧
      (p.providerID ≠ current.receipt.providerID →
        p.updateKind = .known .providerMigration ∧
          p.previousProviderID = current.receipt.providerID) := by
  unfold validateUpdateKind at h
  split at h
  · have habsent := (ensure_eq_ok.mp h).1
    simp [isAbsent, hadmitted] at habsent
  · rename_i hkind
    obtain ⟨-, hprevious, hprovider, -⟩ := ensure_eq_ok.mp h
    exact ⟨by simp [hkind], hprevious, fun hne => absurd hprovider hne⟩
  · rename_i hkind
    obtain ⟨-, hprevious, hprovider, -⟩ := ensure_eq_ok.mp h
    exact ⟨by simp [hkind], hprevious, fun _ => ⟨hkind, hprovider⟩⟩
  · cases h

/-! ## Runs -/

/-- Some run of a session ends with the record. -/
def Activates (codec : EnvelopeCodec) (request : ActivationRequest)
    (record : ActivationRecord) : Prop :=
  ∃ calls, (stateAfter (sessionStep codec) (newActivationSession request) calls).result = .ok record

structure ActivationStep where
  request : ActivationRequest
  record : ActivationRecord

/-- Successful activations, each for the state which the one before it produced. -/
def ActivationRun (codec : EnvelopeCodec) : VerifiedState → List ActivationStep → Prop
  | _, [] => True
  | state, a :: rest =>
    a.request.current = state ∧ Activates codec a.request a.record ∧
      ActivationRun codec a.record.state rest

/-- What no later activation changes or takes back. -/
structure Persists (a b : ActivationStep) : Prop where
  profileID : b.record.profile.profileID = a.record.profile.profileID
  scope : b.record.profile.revocationScope = a.record.profile.revocationScope
  lineageID : b.record.profile.lineageID = a.record.profile.lineageID
  generation : a.record.profile.generation < b.record.profile.generation ∨
    (b.record.signedObject = a.record.signedObject ∧ b.record.profile = a.record.profile)
  rootEpoch : a.record.profile.rootEpoch ≤ b.record.profile.rootEpoch
  revocationEpoch : a.record.profile.revocationEpoch ≤ b.record.profile.revocationEpoch

/-- An activation directly after another one. -/
structure Follows (a b : ActivationStep) : Prop extends Persists a b where
  replaces : a.record.profile.generation < b.record.profile.generation →
    b.record.profile.updateKind ≠ .known .initial ∧
      b.record.profile.previousContentID = a.record.profile.contentID
  provider : b.record.profile.providerID ≠ a.record.profile.providerID →
    b.record.profile.updateKind = .known .providerMigration ∧
      b.record.profile.previousProviderID = a.record.profile.providerID

/-- Neither the content nor the issuer's key is revoked. -/
def Unrevoked (a : ActivationStep) : Prop :=
  a.record.profile.contentID ∉ a.request.revocations.revocations.revokedContentIDs ∧
    a.request.delegation.artifact.issuerKey.keyID ∉
      a.request.revocations.revocations.revokedIssuerKeyIDs

variable {codec : EnvelopeCodec} {a b : ActivationStep}

/-- The decision which the activation applied. -/
def ActivationStep.decision (a : ActivationStep) : VerifiedDecision :=
  admitDecision a.record.profile (authenticatedDigest a.record.signedObject)
    a.request.dispatch.recipientEpoch

theorem Activates.verified {record : ActivationRecord} (h : Activates codec request record) :
    ∃ verify, VerifiedCandidate codec verify request record := by
  obtain ⟨calls, hresult⟩ := h
  obtain ⟨hkinds, hcarried⟩ := (session_sound codec request calls).result_ok hresult
  generalize emissions (sessionStep codec) acceptedTurn (newActivationSession request) calls
    = log at hkinds hcarried
  cases log with
  | nil => cases hkinds
  | cons initial rest =>
    have hsnapshot : initial.command.kind = .known .snapshot := (cons_eq_cons.mp hkinds).1
    have hverified := (hcarried initial mem_cons_self).verified hsnapshot
    obtain ⟨-, verify, -, hcandidate⟩ := verifyActivationCandidate_spec hverified
    exact ⟨verify, hcandidate⟩

theorem Activates.unrevoked (h : Activates codec a.request a.record) : Unrevoked a := by
  obtain ⟨verify, hverified⟩ := h.verified
  obtain ⟨hissuers, hcontents⟩ := verifyRevocations_sorted hverified.revocations
  obtain ⟨⟨hissuer, hcontent⟩, -⟩ := validateActivationPolicy_spec hverified.policy
  constructor
  · intro hmem
    rw [containsSorted_of_mem hcontents hmem] at hcontent
    cases hcontent
  · intro hmem
    rw [containsSorted_of_mem hissuers hmem] at hissuer
    cases hissuer

theorem Activates.initial (h : Activates codec a.request a.record)
    (habsent : isAbsent a.request.current.status = true) :
    a.record.state = a.decision.admitted ∧ a.record.profile.updateKind = .known .initial ∧
      a.record.profile.previousContentID = [] := by
  obtain ⟨verify, hverified⟩ := h.verified
  obtain ⟨hstate, -⟩ := applyVerified_admission rfl (.inl habsent) hverified.state
  obtain ⟨-, hchange⟩ := validateActivationPolicy_spec hverified.policy
  have hadmitted : ¬ (a.request.current.status = .known .admitted ∧
      a.record.profile.generation = a.request.current.generation) := by
    rintro ⟨hadmitted, -⟩
    simp [isAbsent, hadmitted] at habsent
  exact ⟨hstate, validateUpdateKind_absent habsent (hchange hadmitted).2⟩

/-- A repeated activation has the digest, and so the signed object, of the one before. -/
theorem signedObject_eq_of_digest_eq
    (hhash : sha256 b.record.signedObject = sha256 a.record.signedObject →
      b.record.signedObject = a.record.signedObject)
    (hdigest : authenticatedDigest b.record.signedObject =
      authenticatedDigest a.record.signedObject) :
    b.record.signedObject = a.record.signedObject :=
  hhash (List.Vector.toList_injective (hexEncode_injective hdigest))

theorem Activates.follows (ha : Activates codec a.request a.record)
    (hstate : a.record.state = a.decision.admitted)
    (hcurrent : b.request.current = a.record.state) (hb : Activates codec b.request b.record)
    (hhash : sha256 b.record.signedObject = sha256 a.record.signedObject →
      b.record.signedObject = a.record.signedObject) :
    b.record.state = b.decision.admitted ∧ Follows a b := by
  obtain ⟨_, hverifiedA⟩ := ha.verified
  obtain ⟨_, hverified⟩ := hb.verified
  rw [hstate] at hcurrent
  have hadmitted : b.request.current.status = .known .admitted := by rw [hcurrent]; rfl
  obtain ⟨hnext, hstep⟩ := applyVerified_admission rfl (.inr hadmitted) hverified.state
  refine ⟨hnext, ?_⟩
  obtain ⟨-, hchange⟩ := validateActivationPolicy_spec hverified.policy
  rw [hcurrent] at hstep hchange
  cases hstep with
  | initial habsent => simp [isAbsent, VerifiedDecision.admitted] at habsent
  | extend _ hgeneration hprofile hscope hlineage =>
    obtain ⟨hepochs, hkind⟩ := hchange fun h => absurd h.2.symm (UInt64.ne_of_lt hgeneration)
    obtain ⟨hroot, hrevocation⟩ := hepochs rfl hgeneration
    obtain ⟨hinitial, hprevious, hprovider⟩ := validateUpdateKind_admitted rfl hkind
    exact ⟨⟨hprofile, hscope, hlineage, .inl hgeneration, hroot, hrevocation⟩,
      fun _ => ⟨hinitial, hprevious⟩, hprovider⟩
  | again hsame =>
    have hdigest : authenticatedDigest b.record.signedObject =
        authenticatedDigest a.record.signedObject :=
      (congrArg (fun s : VerifiedState => s.evidenceReference) hsame).symm
    have hobject := signedObject_eq_of_digest_eq hhash hdigest
    have hprofile : b.record.profile = a.record.profile :=
      SignedProfile.unique (hobject ▸ hverified.profile) hverifiedA.profile
    refine ⟨⟨by rw [hprofile], by rw [hprofile], by rw [hprofile], .inr ⟨hobject, hprofile⟩,
      hprofile ▸ UInt64.le_refl _, hprofile ▸ UInt64.le_refl _⟩, ?_, ?_⟩
    · rw [hprofile]
      exact fun h => absurd h (UInt64.lt_irrefl _)
    · rw [hprofile]
      exact fun h => absurd rfl h

theorem Persists.trans {c : ActivationStep} (hab : Persists a b) (hbc : Persists b c) :
    Persists a c where
  profileID := hbc.profileID.trans hab.profileID
  scope := hbc.scope.trans hab.scope
  lineageID := hbc.lineageID.trans hab.lineageID
  generation := by
    rcases hab.generation with hlt | ⟨hobject, hprofile⟩
    · rcases hbc.generation with hlt' | ⟨-, hprofile'⟩
      · exact .inl (UInt64.lt_trans hlt hlt')
      · exact .inl (hprofile' ▸ hlt)
    · rcases hbc.generation with hlt' | ⟨hobject', hprofile'⟩
      · exact .inl (hprofile ▸ hlt')
      · exact .inr ⟨hobject'.trans hobject, hprofile'.trans hprofile⟩
  rootEpoch := UInt64.le_trans hab.rootEpoch hbc.rootEpoch
  revocationEpoch := UInt64.le_trans hab.revocationEpoch hbc.revocationEpoch

/-- No two different signed objects of the run have the same digest. -/
def CollisionFree (run : List ActivationStep) : Prop :=
  ∀ a ∈ run, ∀ b ∈ run, sha256 a.record.signedObject = sha256 b.record.signedObject →
    a.record.signedObject = b.record.signedObject

theorem ActivationRun.isChain {run : List ActivationStep}
    (ha : Activates codec a.request a.record) (hstate : a.record.state = a.decision.admitted)
    (hrun : ActivationRun codec a.record.state run) (hhash : CollisionFree (a :: run)) :
    (a :: run).IsChain Follows := by
  induction run generalizing a with
  | nil => exact .singleton a
  | cons b rest ih =>
    obtain ⟨hcurrent, hb, hrest⟩ := hrun
    obtain ⟨hstate', hfollows⟩ := ha.follows hstate hcurrent hb (hhash b (by simp) a (by simp))
    refine .cons_cons hfollows (ih hb hstate' hrest ?_)
    intro x hx y hy
    exact hhash x (mem_cons_of_mem a hx) y (mem_cons_of_mem a hy)

theorem ActivationRun.activates {state : VerifiedState} {run : List ActivationStep}
    (hrun : ActivationRun codec state run) (hmem : a ∈ run) :
    Activates codec a.request a.record := by
  induction run generalizing state with
  | nil => cases hmem
  | cons b rest ih =>
    obtain ⟨-, hb, hrest⟩ := hrun
    rcases mem_cons.mp hmem with rfl | hmem
    · exact hb
    · exact ih hrest hmem

/-- Over every run of activations from the absent state: the profile, the revocation scope
and the lineage stay, the generation grows unless the same signed object is activated
again, and the epochs never go back; the first activation is an initial one, and every
later change names the content which it replaces; the provider changes only through a
migration which names the previous provider; nothing revoked is activated. -/
theorem activation_monotonicity
    (codec : EnvelopeCodec) (start : VerifiedState) (run : List ActivationStep)
    (habsent : isAbsent start.status = true) (hrun : ActivationRun codec start run)
    (hhash : CollisionFree run) :
    run.Pairwise Persists ∧ run.IsChain Follows ∧
      (∀ a ∈ run.head?, a.record.profile.updateKind = .known .initial ∧
        a.record.profile.previousContentID = []) ∧
      ∀ a ∈ run, Unrevoked a := by
  have hchain : run.IsChain Follows := by
    cases run with
    | nil => exact .nil
    | cons a rest =>
      obtain ⟨rfl, ha, hrest⟩ := hrun
      exact hrest.isChain ha (ha.initial habsent).1 hhash
  refine ⟨?_, hchain, ?_, fun a hmem => (hrun.activates hmem).unrevoked⟩
  · have : IsTrans ActivationStep Persists := ⟨fun _ _ _ => Persists.trans⟩
    exact isChain_iff_pairwise.mp (hchain.imp fun _ _ h => h.toPersists)
  · cases run with
    | nil => simp
    | cons a rest =>
      obtain ⟨rfl, ha, -⟩ := hrun
      rintro _ ⟨⟩
      exact (ha.initial habsent).2

/-! ## A run of two activations -/

section Sample

variable (object : List UInt8)

def sampleStep (current : VerifiedState) : ActivationStep where
  request := sampleRequest object current
  record := (verifyActivationCandidate sampleCodec sampleCallbacks
    (sampleRequest object current) object).toOption.getD zeroRecord

theorem current_sampleStep (current : VerifiedState) :
    (sampleStep object current).request.current = current := rfl

def sampleFirst : ActivationStep := sampleStep [1] zeroRecord.state
def sampleSecond : ActivationStep := sampleStep [2] sampleFirst.record.state

theorem collisionFree_samples : CollisionFree [sampleFirst, sampleSecond] := by
  unfold CollisionFree
  decide +kernel

theorem activation_monotonicity_two_steps :
    ActivationRun sampleCodec zeroRecord.state [sampleFirst, sampleSecond] ∧
      [sampleFirst, sampleSecond].IsChain Follows := by
  have hrun : ActivationRun sampleCodec zeroRecord.state [sampleFirst, sampleSecond] :=
    ⟨rfl, ⟨sampleCalls zeroRecord sampleFirst.record, by decide +kernel⟩, current_sampleStep [2] _,
      ⟨sampleCalls sampleFirst.record sampleSecond.record, by decide +kernel⟩, trivial⟩
  exact ⟨hrun, (activation_monotonicity sampleCodec zeroRecord.state _ (by decide) hrun
    collisionFree_samples).2.1⟩

end Sample

end Kurdistan.Product
