import Kurdistan.Security.ContextData
import Kurdistan.Protocol.Validate
import Kurdistan.Protocol.Lexicon

/-!
# The encoded policy

`validateEffectiveSecurityPolicy` accepts a policy whose texts are in their
vocabularies, whose capability lists are canonical and whose digest matches.
`encodePolicyV1` writes the fields which both peers of a handshake see, in their
frozen order, and `encodeStringListV1` writes a list of capabilities.

The two encoders are injective on what they accept: equal bytes come from equal
policies and from the same capabilities.
-/

namespace Kurdistan.Security

open Support Protocol List

/-! ## Validation -/

variable (p : EffectiveSecurityPolicy)

/-- The part of an effective policy which a profile states. -/
def EffectiveSecurityPolicy.profilePolicy : SecurityPolicy where
  securityVersion := p.securityVersion
  transcriptMode := p.transcriptMode
  kdfSuite := p.kdfSuite
  aeadSuite := p.aeadSuite
  macSuite := p.macSuite
  nonceMode := p.nonceMode
  replayPolicy := p.replayPolicy
  replayWindowSize := p.replayWindowSize
  downgradePolicy := p.downgradePolicy
  capabilityNegotiationPolicy := p.capabilityNegotiationPolicy
  profileCompatibilityPolicy := p.profileCompatibilityPolicy
  keyRotationPolicy := p.keyRotationPolicy
  configValidationPolicy := p.configValidationPolicy
  secureEnvelopeMode := p.secureEnvelopeMode
  maxSessionMessages := p.maxSessionMessages
  maxKeyLifetimeMessages := p.maxKeyLifetimeMessages

/-- The loop of `canonicalEffectiveCapabilities` over the sorted values. -/
def checkEffectiveCapabilities : Option String → List String → Validation
  | _, [] => .ok ()
  | previous, capability :: rest => do
    ensure (capability ≠ "" ∧ capability ∈ securityCapabilities)
      (failure "effective security policy: unknown capability")
    ensure (previous ≠ some capability)
      (failure "effective security policy: duplicate capability")
    checkEffectiveCapabilities (some capability) rest

variable (values : List String)

def canonicalEffectiveCapabilities :
    Except ValidationError (List String) := do
  let out := sortTexts values
  checkEffectiveCapabilities none out
  return out

/-- A list which canonicalisation leaves as it is, and which is not empty. -/
def isCanonicalSelection : Bool :=
  match canonicalEffectiveCapabilities values with
  | .error _ => false
  | .ok canonical => canonical ≠ [] ∧ values = canonical

def effectivePolicyHash (p : Primitives) (policy : EffectiveSecurityPolicy) : FixedBytes 32 :=
  p.hash (p.marshalPolicy policy)

/-- The profile hash of a policy: thirty-two bytes in hexadecimal, not all zero. -/
def validPolicyProfileHash (text : String) : Bool :=
  match hexDecode text with
  | none => false
  | some raw => raw.length = 32 ∧ allZeroKeyBytes raw = false

def validateEffectiveSecurityPolicy (p : Primitives) (policy : SealedPolicy) :
    Validation := do
  ensure (policy.profileID ≠ "" ∧ policy.schemaVersion = supportedVersion ∧
      policy.compilerSecurityVersion ≠ "" ∧ policy.minimumRuntimeVersion ≠ "")
    (failure "invalid effective security policy identity")
  ensure (validPolicyProfileHash policy.profileHash = true)
    (failure "invalid effective security policy profile hash")
  match validateSecurityPolicy policy.profilePolicy with
  | .ok () => .ok ()
  | .error err => .error (quoted "invalid effective security policy: %w" err.format)
  ensureAll (fun values => ensure (isCanonicalSelection values = true)
      (failure "invalid effective security policy capabilities"))
    [policy.clientMandatoryCapabilities, policy.serverMandatoryCapabilities,
      policy.selectedCapabilities]
  ensureAll (fun floor => ensureAll (fun capability =>
        ensure (capability ∈ policy.selectedCapabilities)
          (failure "invalid effective security policy floor")) floor)
    [policy.clientMandatoryCapabilities, policy.serverMandatoryCapabilities]
  ensure (policy.validationHash = effectivePolicyHash p policy.toEffectiveSecurityPolicy)
    (failure "invalid or mutated effective security policy")

/-! ## Encoders -/

def writeLP (value : List UInt8) : List UInt8 := lengthPrefixed value

def writeU32 (value : UInt32) : List UInt8 := putUint32 value

/-- The text fields of `PolicyV1` before the replay window size. -/
def EffectiveSecurityPolicy.leadingTexts : List String :=
  [p.securityVersion, p.transcriptMode.text TranscriptMode.word,
    p.kdfSuite.text KDFSuite.word, p.aeadSuite.text AEADSuite.word,
    p.macSuite.text MACSuite.word, p.nonceMode.text NonceMode.word,
    p.replayPolicy.text ReplayPolicy.word]

/-- The text fields of `PolicyV1` after the replay window size. -/
def EffectiveSecurityPolicy.trailingTexts : List String :=
  [p.downgradePolicy.text DowngradePolicy.word,
    p.capabilityNegotiationPolicy.text CapabilityNegotiationPolicy.word,
    p.profileCompatibilityPolicy.text ProfileCompatibilityPolicy.word,
    p.keyRotationPolicy.text KeyRotationPolicy.word,
    p.configValidationPolicy.text ConfigValidationPolicy.word,
    p.secureEnvelopeMode.text SecureEnvelopeMode.word]

/-- The bytes of `PolicyV1`. -/
def policyBytesV1 (policy : EffectiveSecurityPolicy) : List UInt8 :=
  framed (policy.leadingTexts.map utf8Bytes) ++
    writeU32 (UInt32.ofInt policy.replayWindowSize) ++
    framed (policy.trailingTexts.map utf8Bytes) ++
    putUint64 (UInt64.ofInt policy.maxSessionMessages) ++
    putUint64 (UInt64.ofInt policy.maxKeyLifetimeMessages)

def encodePolicyV1 (p : Primitives) (policy : SealedPolicy) : Except WrappedError (List UInt8) :=
  match validateEffectiveSecurityPolicy p policy with
  | .error _ => .error (invalidTranscript "invalid effective policy")
  | .ok () => .ok (policyBytesV1 policy.toEffectiveSecurityPolicy)

def validateASCII (value : String) : Except WrappedError Unit := do
  ensure (value ≠ "") (invalidTranscript "empty canonical value")
  ensureAll (fun byte => ensure (0x20 ≤ byte ∧ byte ≤ 0x7e)
    (invalidTranscript "non-ascii canonical value")) (utf8Bytes value)

/-- The loop of the list encoders: every value is ASCII and does not clash with
the value before it. -/
def checkListItems (clash : String → String → Bool) (detail : String) :
    Option String → List String → Except WrappedError Unit
  | _, [] => .ok ()
  | previous, value :: rest => do
    validateASCII value
    ensure (previous.all (fun before => !clash before value)) (invalidTranscript detail)
    checkListItems clash detail (some value) rest

/-- The number of values followed by the values. -/
def listBytes : List UInt8 :=
  writeU32 (UInt32.ofNat values.length) ++ framed (values.map utf8Bytes)

def encodeStringListV1 : Except WrappedError (List UInt8) := do
  let canonical := sortTexts values
  checkListItems (fun before value => value == before) "duplicate list item" none canonical
  return listBytes canonical

def encodeStrictStringListV1 : Except WrappedError (List UInt8) := do
  checkListItems (fun before value => decide (TextLE value before)) "noncanonical list" none
    values
  return listBytes values

/-! ## Injectivity -/

/-- A policy whose choices are in their vocabularies and whose numbers are in
range. -/
structure InVocabulary (policy : SecurityPolicy) : Prop where
  transcriptMode : policy.transcriptMode.isKnown
  kdfSuite : policy.kdfSuite = .known .hkdfSHA256
  aeadSuite : policy.aeadSuite = .known .aes256GCM
  macSuite : policy.macSuite = .known .hmacSHA256
  nonceMode : policy.nonceMode.isKnown
  replayPolicy : policy.replayPolicy.isKnown
  replayWindowSize : 0 ≤ policy.replayWindowSize ∧ policy.replayWindowSize < 2 ^ 32
  downgradePolicy : policy.downgradePolicy.isKnown
  capabilityNegotiationPolicy : policy.capabilityNegotiationPolicy.isKnown
  profileCompatibilityPolicy : policy.profileCompatibilityPolicy.isKnown
  keyRotationPolicy : policy.keyRotationPolicy.isKnown
  configValidationPolicy : policy.configValidationPolicy.isKnown
  secureEnvelopeMode : policy.secureEnvelopeMode.isKnown
  maxSessionMessages : 0 ≤ policy.maxSessionMessages ∧ policy.maxSessionMessages < 2 ^ 64
  maxKeyLifetimeMessages :
    0 ≤ policy.maxKeyLifetimeMessages ∧ policy.maxKeyLifetimeMessages < 2 ^ 64

theorem inVocabulary_of_validateSecurityPolicy {policy : SecurityPolicy}
    (h : validateSecurityPolicy policy = .ok ()) : InVocabulary policy := by
  simp only [validateSecurityPolicy, check_ok_iff, ensure_eq_ok] at h
  obtain ⟨-, htranscript, hkdf, haead, hmac, hnonce, hreplay, hwindow, hdowngrade,
    hnegotiation, hcompatibility, hrotation, hconfig, henvelope, hsession, hlifetime⟩ := h
  exact
    { transcriptMode := htranscript
      kdfSuite := hkdf
      aeadSuite := haead
      macSuite := hmac
      nonceMode := hnonce
      replayPolicy := hreplay
      replayWindowSize := by omega
      downgradePolicy := hdowngrade
      capabilityNegotiationPolicy := hnegotiation
      profileCompatibilityPolicy := hcompatibility
      keyRotationPolicy := hrotation
      configValidationPolicy := hconfig
      secureEnvelopeMode := henvelope
      maxSessionMessages := by omega
      maxKeyLifetimeMessages := by omega }

theorem inVocabulary_of_encodePolicyV1 {p : Primitives} {policy : SealedPolicy}
    {raw : List UInt8} (h : encodePolicyV1 p policy = .ok raw) :
    raw = policyBytesV1 policy.toEffectiveSecurityPolicy ∧
      InVocabulary policy.toEffectiveSecurityPolicy.profilePolicy := by
  rw [encodePolicyV1] at h
  cases hvalid : validateEffectiveSecurityPolicy p policy with
  | error err => rw [hvalid] at h; cases h
  | ok value =>
    rw [hvalid] at h
    cases h
    refine ⟨rfl, inVocabulary_of_validateSecurityPolicy ?_⟩
    cases hinner : validateSecurityPolicy policy.toEffectiveSecurityPolicy.profilePolicy with
    | ok value => rfl
    | error err =>
      simp only [validateEffectiveSecurityPolicy, hinner, check_ok_iff] at hvalid
      obtain ⟨-, -, herror, -⟩ := hvalid
      cases herror

theorem framed_map_utf8Bytes_append_inj {left right : List String} {leftRest rightRest : List UInt8}
    (hleft : (framed (left.map utf8Bytes)).length < 2 ^ 32)
    (hright : (framed (right.map utf8Bytes)).length < 2 ^ 32) (hcount : left.length = right.length)
    (h : framed (left.map utf8Bytes) ++ leftRest = framed (right.map utf8Bytes) ++ rightRest) :
    left = right ∧ leftRest = rightRest := by
  obtain ⟨htexts, hrest⟩ := framed_append_inj
    (fun part hpart => Nat.lt_of_le_of_lt (length_le_framed hpart) hleft)
    (fun part hpart => Nat.lt_of_le_of_lt (length_le_framed hpart) hright)
    (by rw [length_map, length_map, hcount]) h
  exact ⟨map_injective_iff.mpr utf8Bytes_injective htexts, hrest⟩

theorem ofInt_uint32_inj {m n : Int} (hm : 0 ≤ m ∧ m < 2 ^ 32) (hn : 0 ≤ n ∧ n < 2 ^ 32)
    (h : UInt32.ofInt m = UInt32.ofInt n) : m = n := by
  have hnat := congrArg UInt32.toNat h
  rw [UInt32.ofInt, UInt32.ofInt, Int.emod_eq_of_lt hm.1 hm.2, Int.emod_eq_of_lt hn.1 hn.2,
    UInt32.toNat_ofNat_of_lt' (show m.toNat < 2 ^ 32 by omega),
    UInt32.toNat_ofNat_of_lt' (show n.toNat < 2 ^ 32 by omega)] at hnat
  omega

theorem ofInt_uint64_inj {m n : Int} (hm : 0 ≤ m ∧ m < 2 ^ 64) (hn : 0 ≤ n ∧ n < 2 ^ 64)
    (h : UInt64.ofInt m = UInt64.ofInt n) : m = n := by
  have hnat := congrArg UInt64.toNat h
  rw [UInt64.ofInt, UInt64.ofInt, Int.emod_eq_of_lt hm.1 hm.2, Int.emod_eq_of_lt hn.1 hn.2,
    UInt64.toNat_ofNat_of_lt' (show m.toNat < 2 ^ 64 by omega),
    UInt64.toNat_ofNat_of_lt' (show n.toNat < 2 ^ 64 by omega)] at hnat
  omega

theorem profilePolicy_eq_of_policyBytesV1 {a b : EffectiveSecurityPolicy}
    (ha : InVocabulary a.profilePolicy) (hb : InVocabulary b.profilePolicy)
    (hfits : (policyBytesV1 a).length < 2 ^ 32) (h : policyBytesV1 a = policyBytesV1 b) :
    a.profilePolicy = b.profilePolicy := by
  have hfits' := h ▸ hfits
  simp only [policyBytesV1, length_append] at hfits hfits'
  simp only [policyBytesV1, append_assoc] at h
  obtain ⟨hleading, h1⟩ := framed_map_utf8Bytes_append_inj (by omega) (by omega)
    (by simp [EffectiveSecurityPolicy.leadingTexts]) h
  obtain ⟨hwindow, h2⟩ := append_inj h1 (by simp [writeU32])
  obtain ⟨htrailing, h3⟩ := framed_map_utf8Bytes_append_inj (by omega) (by omega)
    (by simp [EffectiveSecurityPolicy.trailingTexts]) h2
  obtain ⟨hsession, hlifetime⟩ := append_inj h3 (by simp)
  simp only [EffectiveSecurityPolicy.leadingTexts, cons.injEq, and_true] at hleading
  simp only [EffectiveSecurityPolicy.trailingTexts, cons.injEq, and_true] at htrailing
  obtain ⟨hversion, htranscript, -, -, -, hnonce, hreplay⟩ := hleading
  obtain ⟨hdowngrade, hnegotiation, hcompatibility, hrotation, hconfig, henvelope⟩ := htrailing
  rw [SecurityPolicy.mk.injEq]
  refine ⟨hversion, ?_, ?_, ?_, ?_, ?_, ?_, ?_, ?_, ?_, ?_, ?_, ?_, ?_, ?_, ?_⟩
  · exact TranscriptMode.lexicon.eq_of_text_eq ha.transcriptMode hb.transcriptMode htranscript
  · exact ha.kdfSuite.trans hb.kdfSuite.symm
  · exact ha.aeadSuite.trans hb.aeadSuite.symm
  · exact ha.macSuite.trans hb.macSuite.symm
  · exact NonceMode.lexicon.eq_of_text_eq ha.nonceMode hb.nonceMode hnonce
  · exact ReplayPolicy.lexicon.eq_of_text_eq ha.replayPolicy hb.replayPolicy hreplay
  · exact ofInt_uint32_inj ha.replayWindowSize hb.replayWindowSize (putUint32_injective hwindow)
  · exact DowngradePolicy.lexicon.eq_of_text_eq ha.downgradePolicy hb.downgradePolicy hdowngrade
  · exact CapabilityNegotiationPolicy.lexicon.eq_of_text_eq
      ha.capabilityNegotiationPolicy hb.capabilityNegotiationPolicy hnegotiation
  · exact ProfileCompatibilityPolicy.lexicon.eq_of_text_eq
      ha.profileCompatibilityPolicy hb.profileCompatibilityPolicy hcompatibility
  · exact KeyRotationPolicy.lexicon.eq_of_text_eq ha.keyRotationPolicy
      hb.keyRotationPolicy hrotation
  · exact ConfigValidationPolicy.lexicon.eq_of_text_eq ha.configValidationPolicy
      hb.configValidationPolicy hconfig
  · exact SecureEnvelopeMode.lexicon.eq_of_text_eq ha.secureEnvelopeMode
      hb.secureEnvelopeMode henvelope
  · exact ofInt_uint64_inj ha.maxSessionMessages hb.maxSessionMessages
      (putUint64_injective hsession)
  · exact ofInt_uint64_inj ha.maxKeyLifetimeMessages hb.maxKeyLifetimeMessages
      (putUint64_injective hlifetime)

theorem encodeStringListV1_eq_ok {values : List String} {raw : List UInt8}
    (h : encodeStringListV1 values = .ok raw) : raw = listBytes (sortTexts values) := by
  simp only [encodeStringListV1, bind_ok_iff] at h
  obtain ⟨-, -, hvalue⟩ := h
  cases hvalue
  rfl

theorem eq_of_listBytes {left right : List String} (hfits : (listBytes left).length < 2 ^ 32)
    (h : listBytes left = listBytes right) : left = right := by
  have hfits' := h ▸ hfits
  simp only [listBytes, length_append] at hfits hfits'
  obtain ⟨-, htexts⟩ := append_inj h (by simp [writeU32])
  have hparts := framed_inj
    (fun part hpart => Nat.lt_of_le_of_lt (length_le_framed hpart) (by omega))
    (fun part hpart => Nat.lt_of_le_of_lt (length_le_framed hpart) (by omega)) htexts
  exact map_injective_iff.mpr utf8Bytes_injective hparts

end Kurdistan.Security
