import Kurdistan.Handshake.Messages

/-!
# What the message parsers accept

Every parser accepts exactly the encodings of its message: a parsed hello is the
body of its fields followed by the signature, and an accepted finish is the body
of its transcript. The encodings are injective as long as the lengths fit their
prefixes, so two parties which hold the same body hold the same fields.
-/

namespace Kurdistan.Handshake

open Support Security List

theorem maxHandshakeBody_lt : maxHandshakeBody < 2 ^ 32 := by decide

/-! ## Readers -/

@[simp] theorem readOrFail_eq_ok {α : Type} {x : Option α} {value : α} :
    readOrFail x = .ok value ↔ x = some value := by
  cases x <;> simp [readOrFail]

variable {message body : List UInt8}

theorem decodeOuter_eq_ok :
    decodeOuter message = .ok body ↔
      message = encodeOuter body ∧ body.length ≤ maxHandshakeBody := by
  simp only [decodeOuter, check_ok_iff, ensure_eq_ok]
  constructor
  · rintro ⟨hheader, ⟨hlimit, hlength⟩, hbody⟩
    cases hbody
    have hsize : (message.drop 4).length = message.length - 4 := length_drop
    have hprefix : putUint32 (UInt32.ofNat (message.drop 4).length) = message.take 4 := by
      rw [hsize, ← hlength, UInt32.ofNat_toNat, putUint32_getUint32_take hheader]
    constructor
    · rw [encodeOuter, lengthPrefixed, hprefix, take_append_drop]
    · rw [hsize, ← hlength]
      exact hlimit
  · rintro ⟨rfl, hlimit⟩
    have hfits := Nat.lt_of_le_of_lt hlimit maxHandshakeBody_lt
    have hread := getUint32_lengthPrefixed hfits []
    rw [append_nil] at hread
    refine ⟨?_, ⟨?_, ?_⟩, ?_⟩
    · simp [encodeOuter]
    · rw [encodeOuter, hread]
      exact hlimit
    · rw [encodeOuter, hread, length_lengthPrefixed]
      omega
    · rfl

variable {r rest : List UInt8}

theorem readHeader_eq_ok {version kind : UInt16} :
    readHeader r = .ok ((version, kind), rest) ↔
      r = putUint16 version ++ (putUint16 kind ++ rest) := by
  simp only [readHeader, bind_ok_iff, Prod.exists, readOrFail_eq_ok, readExactly_eq_some]
  constructor
  · rintro ⟨raw, tail, ⟨rfl, hlength⟩, hvalue⟩
    cases hvalue
    have hfirst : putUint16 (getUint16 raw) = raw.take 2 := by
      have hread : getUint16 raw = getUint16 (raw.take 2) := by
        rw [getUint16, getUint16, take_take, Nat.min_self]
      rw [hread, putUint16_getUint16]
      exact length_take_of_le (by omega)
    have hsecond : putUint16 (getUint16 (raw.drop 2)) = raw.drop 2 := by
      apply putUint16_getUint16
      rw [length_drop, hlength]
    rw [hfirst, hsecond, ← append_assoc, take_append_drop]
  · rintro rfl
    refine ⟨putUint16 version ++ putUint16 kind, rest, ⟨by simp, by simp⟩, ?_⟩
    rw [getUint16_putUint16, drop_left' (length_putUint16 version), getUint16_putUint16_nil]
    rfl

theorem readLP_eq_ok {value : List UInt8} :
    readLP r = .ok (value, rest) ↔ r = writeLP value ++ rest ∧ value.length ≤ maxHandshakeBody := by
  rw [readLP, readOrFail_eq_ok, readPrefixed_eq_some maxHandshakeBody_lt, writeLP]

/-- A text a peer can read back: not empty and printable. -/
def Readable (text : List UInt8) : Prop := text ≠ [] ∧ text.all printable = true

theorem readLPString_eq_ok {value : List UInt8} :
    readLPString r = .ok (value, rest) ↔
      r = writeLP value ++ rest ∧ value.length ≤ maxHandshakeBody ∧ Readable value := by
  simp only [readLPString, bind_ok_iff, Prod.exists, ensure_ok_iff, readLP_eq_ok]
  constructor
  · rintro ⟨raw, tail, ⟨hr, hlimit⟩, -, hempty, -, hprintable, hvalue⟩
    cases hvalue
    exact ⟨hr, hlimit, hempty, hprintable⟩
  · rintro ⟨hr, hlimit, hempty, hprintable⟩
    exact ⟨value, rest, ⟨hr, hlimit⟩, (), hempty, (), hprintable, rfl⟩

theorem readFixed_eq_ok {n : ℕ} {value : FixedBytes n} :
    readFixed n r = .ok (value, rest) ↔ r = value.toList ++ rest := by
  simp only [readFixed, bind_ok_iff, Prod.exists, readOrFail_eq_ok, readExactly_eq_some]
  constructor
  · rintro ⟨raw, tail, ⟨rfl, hlength⟩, hvalue⟩
    cases hvalue
    rw [toList_fixedBytes hlength]
  · rintro rfl
    refine ⟨value.toList, rest, ⟨rfl, value.toList_length⟩, ?_⟩
    rw [fixedBytes_toList]
    rfl

/-! ## Client hello -/

theorem take_sub_signature {unsigned signature : List UInt8} (hbody : body = unsigned ++ signature)
    (h : signature.length = signatureSize) :
    body.take (body.length - signatureSize) = unsigned := by
  rw [hbody, length_append, h, Nat.add_sub_cancel, take_left]

/-- A client hello as its parser returns it. -/
structure ParsedClientHello (h : ClientHello) (body : List UInt8) : Prop where
  fits : body.length ≤ maxHandshakeBody
  encoded : body = h.toClientHelloFields.unsigned ++ h.signature
  signature : h.signature.length = signatureSize
  unsigned : h.unsigned = h.toClientHelloFields.unsigned
  signed : h.signed = body
  identity : Readable h.identityID
  profile : Readable h.profileID
  version : Readable h.securityVersion

theorem parseClientHello_eq_ok {h : ClientHello} :
    parseClientHello message = .ok (h, body) ↔
      message = encodeOuter body ∧ ParsedClientHello h body := by
  simp only [parseClientHello, bind_ok_iff, Prod.exists, decodeOuter_eq_ok, readHeader_eq_ok,
    readLPString_eq_ok, readFixed_eq_ok, readLP_eq_ok, ensure_ok_iff]
  constructor
  · rintro ⟨raw, ⟨hmessage, hlimit⟩, version, kind, r, hheader, -, rfl, -, rfl, identityID, r1,
      ⟨rfl, -, hidentity⟩, profileID, r2, ⟨rfl, -, hprofile⟩, profileHash, r3, rfl,
      securityVersion, r4, ⟨rfl, -, hversion⟩, ephemeral, r5, rfl, nonce, r6, rfl, offer, r7,
      ⟨rfl, -⟩, floor, r8, ⟨rfl, -⟩, -, hsignature, hvalue⟩
    cases hvalue
    have hbody : body =
        ClientHelloFields.unsigned
          ⟨identityID, profileID, profileHash, securityVersion, ephemeral, nonce, offer, floor⟩ ++
        r8 := by
      simp only [ClientHelloFields.unsigned, append_assoc]
      exact hheader
    exact ⟨hmessage, hlimit, hbody, hsignature, take_sub_signature hbody hsignature, rfl, hidentity,
      hprofile, hversion⟩
  · rintro ⟨hmessage, hparsed⟩
    obtain ⟨⟨identityID, profileID, profileHash, securityVersion, ephemeral, nonce, offer,
      floor⟩, unsigned, signed, signature⟩ := h
    obtain ⟨hlimit, hbody, hsignature, hunsigned, hsigned, hidentity, hprofile, hversion⟩ := hparsed
    have hsizes := hlimit
    simp only [hbody, ClientHelloFields.unsigned, length_append, writeLP,
      length_lengthPrefixed] at hsizes
    refine ⟨body, ⟨hmessage, hlimit⟩, handshakeVersion, clientHelloType, _, ?_, (), rfl, (), rfl,
      identityID, _, ⟨rfl, by omega, hidentity⟩, profileID, _, ⟨rfl, by omega, hprofile⟩,
      profileHash, _, rfl, securityVersion, _, ⟨rfl, by omega, hversion⟩, ephemeral, _, rfl,
      nonce, _, rfl, offer, _, ⟨rfl, by omega⟩, floor, signature, ⟨rfl, by omega⟩, (),
      hsignature, ?_⟩
    · rw [hbody]
      simp only [ClientHelloFields.unsigned, append_assoc]
    · rw [take_sub_signature hbody hsignature, ← hunsigned, ← hsigned]
      rfl

/-- The signed part of a client hello determines its fields and what follows. -/
theorem ClientHelloFields.unsigned_append_inj {a b : ClientHelloFields} {s t : List UInt8}
    (ha : a.unsigned.length < 2 ^ 32) (hb : b.unsigned.length < 2 ^ 32)
    (h : a.unsigned ++ s = b.unsigned ++ t) : a = b ∧ s = t := by
  obtain ⟨identityB, profileB, hashB, versionB, ephemeralB, nonceB, offerB, floorB⟩ := b
  simp only [ClientHelloFields.unsigned, length_append, writeLP, length_lengthPrefixed] at ha hb
  simp only [ClientHelloFields.unsigned, append_assoc, append_cancel_left_eq] at h
  obtain ⟨rfl, h1⟩ := lengthPrefixed_append_inj (by omega) (by omega) h
  obtain ⟨rfl, h2⟩ := lengthPrefixed_append_inj (by omega) (by omega) h1
  obtain ⟨rfl, h3⟩ := fixedBytes_append_inj h2
  obtain ⟨rfl, h4⟩ := lengthPrefixed_append_inj (by omega) (by omega) h3
  obtain ⟨rfl, h5⟩ := fixedBytes_append_inj h4
  obtain ⟨rfl, h6⟩ := fixedBytes_append_inj h5
  obtain ⟨rfl, h7⟩ := lengthPrefixed_append_inj (by omega) (by omega) h6
  obtain ⟨rfl, h8⟩ := lengthPrefixed_append_inj (by omega) (by omega) h7
  exact ⟨rfl, h8⟩

/-! ## Server hello -/

/-- A server hello as its parser returns it. -/
structure ParsedServerHello (h : ServerHello) (body : List UInt8) : Prop where
  fits : body.length ≤ maxHandshakeBody
  encoded : body = h.toServerHelloFields.unsigned ++ h.signature
  signature : h.signature.length = signatureSize
  unsigned : h.unsigned = h.toServerHelloFields.unsigned
  signed : h.signed = body
  identity : Readable h.identityID

theorem parseServerHello_eq_ok {h : ServerHello} :
    parseServerHello message = .ok (h, body) ↔
      message = encodeOuter body ∧ ParsedServerHello h body := by
  simp only [parseServerHello, bind_ok_iff, Prod.exists, decodeOuter_eq_ok, readHeader_eq_ok,
    readLPString_eq_ok, readFixed_eq_ok, readLP_eq_ok, ensure_ok_iff]
  constructor
  · rintro ⟨raw, ⟨hmessage, hlimit⟩, version, kind, r, hheader, -, rfl, -, rfl, clientHelloHash,
      r1, rfl, identityID, r2, ⟨rfl, -, hidentity⟩, ephemeral, r3, rfl, nonce, r4, rfl, offer,
      r5, ⟨rfl, -⟩, floor, r6, ⟨rfl, -⟩, selected, r7, ⟨rfl, -⟩, -, hsignature, hvalue⟩
    cases hvalue
    have hbody : body =
        ServerHelloFields.unsigned
          ⟨clientHelloHash, identityID, ephemeral, nonce, offer, floor, selected⟩ ++ r7 := by
      simp only [ServerHelloFields.unsigned, append_assoc]
      exact hheader
    exact ⟨hmessage, hlimit, hbody, hsignature, take_sub_signature hbody hsignature, rfl, hidentity⟩
  · rintro ⟨hmessage, hparsed⟩
    obtain ⟨⟨clientHelloHash, identityID, ephemeral, nonce, offer, floor, selected⟩, unsigned,
      signed, signature⟩ := h
    obtain ⟨hlimit, hbody, hsignature, hunsigned, hsigned, hidentity⟩ := hparsed
    have hsizes := hlimit
    simp only [hbody, ServerHelloFields.unsigned, length_append, writeLP,
      length_lengthPrefixed] at hsizes
    refine ⟨body, ⟨hmessage, hlimit⟩, handshakeVersion, serverHelloType, _, ?_, (), rfl, (), rfl,
      clientHelloHash, _, rfl, identityID, _, ⟨rfl, by omega, hidentity⟩, ephemeral, _, rfl,
      nonce, _, rfl, offer, _, ⟨rfl, by omega⟩, floor, _, ⟨rfl, by omega⟩, selected, signature,
      ⟨rfl, by omega⟩, (), hsignature, ?_⟩
    · rw [hbody]
      simp only [ServerHelloFields.unsigned, append_assoc]
    · rw [take_sub_signature hbody hsignature, ← hunsigned, ← hsigned]
      rfl

/-- The signed part of a server hello determines its fields and what follows. -/
theorem ServerHelloFields.unsigned_append_inj {a b : ServerHelloFields} {s t : List UInt8}
    (ha : a.unsigned.length < 2 ^ 32) (hb : b.unsigned.length < 2 ^ 32)
    (h : a.unsigned ++ s = b.unsigned ++ t) : a = b ∧ s = t := by
  obtain ⟨clientHashB, identityB, ephemeralB, nonceB, offerB, floorB, selectedB⟩ := b
  simp only [ServerHelloFields.unsigned, length_append, writeLP, length_lengthPrefixed] at ha hb
  simp only [ServerHelloFields.unsigned, append_assoc, append_cancel_left_eq] at h
  obtain ⟨rfl, h1⟩ := fixedBytes_append_inj h
  obtain ⟨rfl, h2⟩ := lengthPrefixed_append_inj (by omega) (by omega) h1
  obtain ⟨rfl, h3⟩ := fixedBytes_append_inj h2
  obtain ⟨rfl, h4⟩ := fixedBytes_append_inj h3
  obtain ⟨rfl, h5⟩ := lengthPrefixed_append_inj (by omega) (by omega) h4
  obtain ⟨rfl, h6⟩ := lengthPrefixed_append_inj (by omega) (by omega) h5
  obtain ⟨rfl, h7⟩ := lengthPrefixed_append_inj (by omega) (by omega) h6
  exact ⟨rfl, h7⟩

/-! ## Finish messages -/

@[simp] theorem FinishDomain.length_unsigned (d : FinishDomain) (transcript : FixedBytes 32) :
    (d.unsigned transcript).length = 36 := by
  simp [FinishDomain.unsigned]

theorem take_append_drop_take {low high : ℕ} (h : low ≤ high) (bytes : List UInt8) :
    bytes.take low ++ (bytes.take high).drop low = bytes.take high := by
  have hlow : (bytes.take high).take low = bytes.take low := by
    rw [take_take, Nat.min_eq_left h]
  rw [← hlow, take_append_drop]

/-- An accepted finish is the body of its transcript, with a signature which
verifies. -/
theorem validateFinish_eq_ok {p : Primitives} {d : FinishDomain} {trusted confirmKey : List UInt8}
    {transcript : FixedBytes 32} :
    validateFinish p d message trusted confirmKey transcript = .ok body ↔
      message = encodeOuter body ∧
        ∃ signature : FixedBytes 64,
          body = finishBody p d confirmKey transcript signature.toList ∧
            p.verify trusted (d.digest p (d.unsigned transcript)).toList signature.toList =
              true := by
  simp only [validateFinish, bind_ok_iff, decodeOuter_eq_ok, ensure_ok_iff]
  constructor
  · rintro ⟨raw, ⟨hmessage, -⟩, -, hlength, -, hversion, -, hkind, -, htranscript, -, hverify, -,
      hconfirm, hvalue⟩
    cases hvalue
    have hsize : body.length = 132 := hlength
    have hunsigned : body.take 36 = d.unsigned transcript := by
      rw [FinishDomain.unsigned, ← hversion, ← hkind, putUint16_getUint16, putUint16_getUint16,
        ← htranscript, take_append_drop_take (by omega), take_append_drop_take (by omega)]
      · rw [length_drop, length_take]
        omega
      · rw [length_take]
        omega
    have hsignature : ((body.take 100).drop 36).length = 64 := by
      rw [length_drop, length_take]
      omega
    refine ⟨hmessage, fixedBytes 64 ((body.take 100).drop 36), ?_, ?_⟩
    · rw [finishBody, ← hunsigned, toList_fixedBytes hsignature, ← hconfirm,
        take_append_drop_take (by omega), take_append_drop]
    · rw [toList_fixedBytes hsignature, ← hunsigned]
      exact hverify
  · rintro ⟨hmessage, signature, rfl, hverify⟩
    have hsize : (finishBody p d confirmKey transcript signature.toList).length = 132 := by
      simp [finishBody]
    have hunsigned : (finishBody p d confirmKey transcript signature.toList).take 36 =
        d.unsigned transcript := by
      rw [finishBody, append_assoc, take_left' (d.length_unsigned transcript)]
    have hshort : (finishBody p d confirmKey transcript signature.toList).take 4 =
        putUint16 handshakeVersion ++ putUint16 d.kind := by
      rw [← Nat.min_eq_left (show 4 ≤ 36 by omega), ← take_take, hunsigned,
        FinishDomain.unsigned, take_left' (by simp)]
    have hhead : (finishBody p d confirmKey transcript signature.toList).take 100 =
        d.unsigned transcript ++ signature.toList := by
      rw [finishBody, take_left' (by simp)]
    refine ⟨_, ⟨hmessage, ?_⟩, (), hsize, (), ?_, (), ?_, (), ?_, (), ?_, (), ?_, rfl⟩
    · rw [hsize]
      decide
    · exact getUint16_putUint16_nil handshakeVersion
    · rw [hshort, drop_left' (length_putUint16 _), getUint16_putUint16_nil]
    · rw [hunsigned, FinishDomain.unsigned, drop_left' (by simp)]
    · rw [hunsigned, hhead, drop_left' (d.length_unsigned transcript)]
      exact hverify
    · rw [finishBody, drop_left' (by simp)]

end Kurdistan.Handshake
