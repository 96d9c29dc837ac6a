import Kurdistan.Product.PolicyCodec

/-!
# Canonical profiles

The validation and the encoding of a canonical profile. Items have no tags, so that a
policy with a tag has no value here; the decoder of the source yields one and rejects it.
-/

namespace Kurdistan.Product

open Support Support.Cbor
open Protocol (labelled choiceItem validateCore)

def SnapshotMode.lexicon : Lexicon SnapshotMode where
  word
    | .fullSnapshot => "full-snapshot"
  values := [.fullSnapshot]

def UpdateKind.lexicon : Lexicon UpdateKind where
  word
    | .initial => "initial"
    | .replacement => "replacement"
    | .providerMigration => "provider-migration"
  values := [.initial, .replacement, .providerMigration]

def canonicalProfileVersion : ℕ := 1
def maxCanonicalPolicyBytes : ℕ := 64 * 2 ^ 10
def maxCanonicalGeneration : UInt64 := 2 ^ 32 - 1
def maxCanonicalSafetyFloor : UInt64 := 2 ^ 16 - 1
def maxCanonicalRootEpoch : UInt64 := 2 ^ 32 - 1
def maxCanonicalRevocationEpoch : UInt64 := 2 ^ 32 - 1
def maxPayloadBytes : ℕ := maxSignedObjectBytes - 4096

/-- An identifier of admitted bytes, none of which is a space. -/
def canonicalID (value : Text) (optional : Bool) : Bool :=
  if value = [] then optional
  else value.length ≤ maxCanonicalIDBytes ∧ ∀ byte ∈ value, isCanonicalIDByte byte = true

mutual

/-- No floating point number occurs in the value. -/
def validateCBORValue : Item → Bool
  | .float _ => false
  | .array items => validateCBORItems items
  | .map entries => validateCBOREntries entries
  | .int _ | .bytes _ | .text _ | .bool _ | .null => true

def validateCBORItems : List Item → Bool
  | [] => true
  | item :: rest => validateCBORValue item && validateCBORItems rest

def validateCBOREntries : List (ℕ × Item) → Bool
  | [] => true
  | (_, item) :: rest => validateCBORValue item && validateCBOREntries rest

end

variable (lib : Library)

/-- `ValidateCoreDeterministicCBOR`. -/
def validateCoreDeterministicCBOR (data : List UInt8) : Bool :=
  (data ≠ [] ∧ data.length ≤ maxTotalInputBytes ∧ validateCore lib data = true) &&
    (lib.unmarshal .any data).all validateCBORValue

/-- The policy is a map in canonical form which is not empty. -/
def validateCanonicalPolicy (policy : List UInt8) : Bool :=
  validateCoreDeterministicCBOR lib policy && (lib.unmarshal .rawMap policy).any (· ≠ [])

/-- Identifiers, each larger than the one before it. -/
def validateCanonicalMembers (members : List Text) : Bool :=
  members ≠ [] ∧ members.length ≤ maxCanonicalMembers ∧
    (∀ member ∈ members, canonicalID member false = true) ∧ members.Pairwise (· < ·)

def validateCanonicalProfileV1 (profile : CanonicalProfileV1) : Bool :=
  (∀ value ∈ [profile.contentID, profile.profileID, profile.lineageID, profile.providerID,
      profile.contractVersion, profile.revocationScope,
      utf8Bytes (profile.snapshotMode.text SnapshotMode.lexicon.word),
      utf8Bytes (profile.updateKind.text UpdateKind.lexicon.word)],
    canonicalID value false = true) ∧
  (∀ value ∈ [profile.previousContentID, profile.previousProviderID],
    canonicalID value true = true) ∧
  (profile.generation ≠ 0 ∧ profile.generation ≤ maxCanonicalGeneration ∧
    profile.requiredSafetyFloor ≠ 0 ∧ profile.requiredSafetyFloor ≤ maxCanonicalSafetyFloor ∧
    profile.rootEpoch ≠ 0 ∧ profile.rootEpoch ≤ maxCanonicalRootEpoch ∧
    profile.revocationEpoch ≠ 0 ∧ profile.revocationEpoch ≤ maxCanonicalRevocationEpoch ∧
    0 < profile.validFrom ∧ profile.validFrom < profile.validUntil) ∧
  sliceBytes profile.policy ≠ [] ∧ (sliceBytes profile.policy).length ≤ maxCanonicalPolicyBytes ∧
  validateCanonicalPolicy lib (sliceBytes profile.policy) = true ∧
  validateCanonicalMembers profile.relayIDs = true ∧
  validateCanonicalMembers profile.strategyIDs = true

def profileMap (profile : CanonicalProfileV1) : Item :=
  labelled [natItem canonicalProfileVersion, .text profile.contentID, .text profile.profileID,
    .text profile.lineageID, .text profile.providerID, .text profile.contractVersion,
    .text profile.revocationScope, choiceItem SnapshotMode.lexicon profile.snapshotMode,
    choiceItem UpdateKind.lexicon profile.updateKind, natItem profile.generation.toNat,
    natItem profile.requiredSafetyFloor.toNat, .int profile.validFrom, .int profile.validUntil,
    natItem profile.rootEpoch.toNat, natItem profile.revocationEpoch.toNat,
    .text profile.previousContentID, .text profile.previousProviderID,
    .array (profile.relayIDs.map Item.text), .array (profile.strategyIDs.map Item.text),
    .bytes (sliceBytes profile.policy)]

/-- The encoded profile, with the library of the envelope. -/
def encodeCanonicalProfileV1 (profile : CanonicalProfileV1) :
    Option (List UInt8) := do
  guard (validateCanonicalProfileV1 lib profile = true)
  let encoded ← lib.marshal (profileMap profile)
  guard (0 < encoded.length ∧ encoded.length ≤ maxPayloadBytes)
  return encoded

end Kurdistan.Product
