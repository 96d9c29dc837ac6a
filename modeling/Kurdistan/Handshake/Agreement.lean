import Kurdistan.Handshake.Admission
import Kurdistan.Handshake.Closing

/-!
# Handshake agreement

A completed client agrees with exactly one completed relay, and a completed relay
with a client which sent the hello it received and accepted the hello it sent.

The argument follows the signatures backwards. A finish signature which was
accepted had been released by a party which signs under the trusted key, for the
same transcript hash; the hash has no collisions among the inputs of the run, so
both parties hold the same message bodies; equal bodies have equal fields; and
from equal fields both parties derive the same keys.
-/

namespace Kurdistan.Handshake

open Support Security Network
open List hiding after

/-! ## Hash inputs -/

theorem lengthPrefixed_injective : Function.Injective lengthPrefixed := by
  intro left right h
  have hdrop := congrArg (drop 4) h
  rwa [lengthPrefixed, lengthPrefixed, drop_left' (length_putUint32 _),
    drop_left' (length_putUint32 _)] at hdrop

/-- Hash inputs with one label have the same other parts. -/
theorem framed_cons_inj {label label' : List UInt8} {parts parts' : List (List UInt8)}
    (hlabel : label.length < 2 ^ 32) (hlabel' : label'.length < 2 ^ 32)
    (h : framed (label :: parts) = framed (label' :: parts')) :
    label = label' ∧ framed parts = framed parts' :=
  lengthPrefixed_append_inj hlabel hlabel' h

variable {u : List UInt8}

theorem finish_signed_inj {d : FinishDomain} {u' : List UInt8}
    (hlabel : (asciiBytes d.signatureDomain).length < 2 ^ 32)
    (h : framed (d.signed u) = framed (d.signed u')) : u = u' := by
  obtain ⟨-, hrest⟩ := framed_cons_inj hlabel hlabel h
  rw [framed_cons, framed_cons, framed_nil, append_nil, append_nil] at hrest
  exact lengthPrefixed_injective hrest

theorem FinishDomain.unsigned_injective (d : FinishDomain) : Function.Injective d.unsigned := by
  intro t t' h
  exact Vector.toList_injective (append_cancel_left h)

/-- Two hellos in one transcript: only the first needs a length which fits. -/
theorem helloTranscript_inj {c c' s s' : List UInt8} (hc : c.length < 2 ^ 32)
    (hc' : c'.length < 2 ^ 32) (h : framed (helloTranscript c s) = framed (helloTranscript c' s')) :
    c = c' ∧ s = s' := by
  obtain ⟨-, hparts⟩ := framed_cons_inj (by decide) (by decide) h
  obtain ⟨hclient, hserver⟩ := framed_cons_inj hc hc' hparts
  rw [framed_cons, framed_cons, framed_nil, append_nil, append_nil] at hserver
  exact ⟨hclient, lengthPrefixed_injective hserver⟩

theorem finishTranscript_inj {c c' s s' f f' : List UInt8} (hc : c.length < 2 ^ 32)
    (hc' : c'.length < 2 ^ 32) (hf : f.length = f'.length)
    (h : framed (finishTranscript c s f) = framed (finishTranscript c' s' f')) :
    c = c' ∧ s = s' ∧ f = f' := by
  obtain ⟨-, hparts⟩ := framed_cons_inj (by decide) (by decide) h
  obtain ⟨hclient, hrest⟩ := framed_cons_inj hc hc' hparts
  simp only [framed_cons, framed_nil, append_nil] at hrest
  obtain ⟨hserver, hfinish⟩ := append_inj' hrest (by simp [hf])
  exact ⟨hclient, lengthPrefixed_injective hserver, lengthPrefixed_injective hfinish⟩

/-! ## Finish bodies -/

theorem length_finishBody (p : Primitives) (d : FinishDomain) (key : List UInt8)
    (transcript : FixedBytes 32) (signature : FixedBytes 64) :
    (finishBody p d key transcript signature.toList).length = 132 := by
  simp [finishBody]

theorem take_finishBody (p : Primitives) (d : FinishDomain) (key : List UInt8)
    (transcript : FixedBytes 32) (signature : List UInt8) :
    (finishBody p d key transcript signature).take 36 = d.unsigned transcript := by
  rw [finishBody, append_assoc, take_left' (d.length_unsigned transcript)]

theorem finishSignature_finishBody (p : Primitives) (d : FinishDomain) (key : List UInt8)
    (transcript : FixedBytes 32) (signature : FixedBytes 64) :
    finishSignature (finishBody p d key transcript signature.toList) = signature.toList := by
  rw [finishSignature, finishBody, take_left' (by simp),
    drop_left' (d.length_unsigned transcript)]

variable {p : Primitives} {s : ClientProcessHandshakeV1.Session}

theorem clientFinishSentBody_eq {a : Authority} {c : ClientProcessHandshakeV1}
    (h : c.Accepted p a s) : ∃ signature : FixedBytes 64,
      c.clientFinishSentBody = finishBody p clientFinish s.keys.client (c.th2 p) signature.toList :=
  ⟨_, congrArg Prod.snd h.finish⟩

/-! ## Sessions with the same bodies -/

/-- Both sides of a Diffie-Hellman exchange compute the same point. -/
def DiffieHellman (p : Primitives) : Prop :=
  ∀ a b, p.x25519 a (ephemeralPublic p b) = p.x25519 b (ephemeralPublic p a)

section SameBodies

variable {p : Primitives} {a b : Authority} {cs : ClientProcessHandshakeV1.Session}
  {rs : RelayProcessHandshakeV1.Session} {c : ClientProcessHandshakeV1}
  {r : RelayProcessHandshakeV1}

theorem clientHello_fields_eq (hc : c.Accepted p a cs) (hr : r.Answered p b rs)
    (hbody : c.clientSentBody = r.receivedClientBody) :
    cs.hello = rs.hello.toClientHelloFields := by
  have hfits : r.receivedClientBody.length < 2 ^ 32 :=
    Nat.lt_of_le_of_lt hr.parsed.fits maxHandshakeBody_lt
  have hleft := hbody ▸ hfits
  have hright := hfits
  rw [hc.made.body, length_append] at hleft
  rw [hr.parsed.encoded, length_append] at hright
  rw [hc.made.body, hr.parsed.encoded] at hbody
  exact (ClientHelloFields.unsigned_append_inj (by omega) (by omega) hbody).1

theorem serverHello_fields_eq (hc : c.Accepted p a cs) (hr : r.Answered p b rs)
    (hbody : c.receivedServerBody = r.serverSentBody) :
    cs.answer.toServerHelloFields = rs.answer := by
  have hfits : c.receivedServerBody.length < 2 ^ 32 :=
    Nat.lt_of_le_of_lt hc.parsed.fits maxHandshakeBody_lt
  have hright := hbody ▸ hfits
  have hleft := hfits
  rw [hc.parsed.encoded, length_append] at hleft
  rw [hr.made.body, length_append] at hright
  rw [hc.parsed.encoded, hr.made.body] at hbody
  exact (ServerHelloFields.unsigned_append_inj (by omega) (by omega) hbody).1

/-- What two sessions with the same hello bodies share. -/
structure SameSession (p : Primitives) (a b : Authority)
    (cs : ClientProcessHandshakeV1.Session) (rs : RelayProcessHandshakeV1.Session)
    (c : ClientProcessHandshakeV1) (r : RelayProcessHandshakeV1) : Prop where
  clientNonce : c.clientNonce = r.clientNonce
  serverNonce : c.serverNonce = r.serverNonce
  clientPublic : c.clientPublic = r.clientPublic
  serverPublic : c.serverPublic = r.serverPublic
  profileHash : a.config.client.profileHash = b.config.client.profileHash
  selected : wantSelected p a.config = wantSelected p b.config
  keys : cs.keys = rs.keys

theorem sameSession (hdh : DiffieHellman p) (hc : c.Accepted p a cs)
    (hr : r.Answered p b rs) (hclient : c.clientSentBody = r.receivedClientBody)
    (hserver : c.receivedServerBody = r.serverSentBody) : SameSession p a b cs rs c r := by
  have hhello := clientHello_fields_eq hc hr hclient
  have hanswer := serverHello_fields_eq hc hr hserver
  have hclientNonce : c.clientNonce = r.clientNonce := by
    rw [← hc.fieldsNonce, hhello, hr.clientNonce]
  have hclientPublic : c.clientPublic = r.clientPublic := by
    rw [← hc.fieldsPublic, hhello, hr.clientPublic]
  have hserverNonce : c.serverNonce = r.serverNonce := by
    rw [hc.serverNonce, ← hr.fieldsNonce, ← hanswer]
  have hserverPublic : c.serverPublic = r.serverPublic := by
    rw [hc.serverPublic, ← hr.fieldsPublic, ← hanswer]
  have hprofile : a.config.client.profileHash = b.config.client.profileHash := by
    rw [← hc.made.profileHash, hhello, hr.profileHash]
  have hsecret : cs.dh = rs.dh := by
    have hleft := hc.secret
    have hright := hr.secret
    rw [hserverPublic, hr.serverPublic, sharedSecret, hdh] at hleft
    rw [← hclientPublic, hc.clientPublic, sharedSecret] at hright
    exact Except.ok.inj (hleft.symm.trans hright)
  have hth2 : c.th2 p = r.th2 p := by
    rw [ClientProcessHandshakeV1.th2, RelayProcessHandshakeV1.th2, hclient, hserver]
  have hkeys : cs.keys = rs.keys := by
    have hleft := hc.keys
    rw [hsecret, hprofile, hclientNonce, hserverNonce, hclientPublic, hserverPublic, hth2,
      hr.keys] at hleft
    exact (Except.ok.inj hleft).symm
  refine ⟨hclientNonce, hserverNonce, hclientPublic, hserverPublic, hprofile, ?_, hkeys⟩
  rw [← hc.selected, ← hr.made.selected, ← hanswer]

end SameBodies

/-! ## The selected policy -/

theorem wantSelected_eq {input : FirstContactInput} (h : wantSelected p input ≠ []) :
    ∃ policy capabilities rest, encodePolicyV1 p input.selectedPolicy = .ok policy ∧
      encodeStringListV1 input.selectedCapabilities = .ok capabilities ∧
      wantSelected p input = writeLP policy ++ (writeLP capabilities ++ rest) := by
  rw [wantSelected] at h ⊢
  generalize hencoded : encodeSelectedPolicy p input.selectedPolicy input.selectedCapabilities
    (orNil (encodeMandatoryFloor p input.client.floorPolicy input.client.requiredCapabilities))
    (orNil (encodeMandatoryFloor p input.server.floorPolicy input.server.requiredCapabilities))
    = encoded at h
  cases encoded with
  | error err => exact absurd rfl h
  | ok bytes =>
    simp only [encodeSelectedPolicy, bind_ok_iff] at hencoded
    obtain ⟨policy, hpolicy, capabilities, hcapabilities, hvalue⟩ := hencoded
    cases hvalue
    exact ⟨policy, capabilities, _, hpolicy, hcapabilities,
      (append_assoc _ _ _).trans (append_assoc _ _ _)⟩

theorem selected_fits {a : Authority} {c : ClientProcessHandshakeV1}
    (h : c.Accepted p a s) : s.answer.selected.length < 2 ^ 32 := by
  have hfits := h.parsed.fits
  rw [h.parsed.encoded] at hfits
  simp only [ServerHelloFields.unsigned, length_append, writeLP,
    length_lengthPrefixed] at hfits
  have hlimit := maxHandshakeBody_lt
  omega

theorem selected_eq {a b : FirstContactInput}
    (hfits : (wantSelected p a).length < 2 ^ 32) (hnonempty : wantSelected p a ≠ [])
    (h : wantSelected p a = wantSelected p b) :
    a.selectedPolicy.profilePolicy = b.selectedPolicy.profilePolicy ∧
      sortTexts a.selectedCapabilities = sortTexts b.selectedCapabilities := by
  obtain ⟨policy, capabilities, rest, hpolicy, hcapabilities, hblock⟩ := wantSelected_eq hnonempty
  obtain ⟨policy', capabilities', rest', hpolicy', hcapabilities', hblock'⟩ :=
    wantSelected_eq (h ▸ hnonempty)
  have hfits' := h ▸ hfits
  rw [hblock, writeLP, writeLP, length_append, length_append, length_lengthPrefixed,
    length_lengthPrefixed] at hfits
  rw [hblock', writeLP, writeLP, length_append, length_append, length_lengthPrefixed,
    length_lengthPrefixed] at hfits'
  rw [hblock, hblock', writeLP, writeLP, writeLP, writeLP] at h
  obtain ⟨rfl, hrest⟩ := lengthPrefixed_append_inj (by omega) (by omega) h
  obtain ⟨rfl, -⟩ := lengthPrefixed_append_inj (by omega) (by omega) hrest
  obtain ⟨hbytes, hvocabulary⟩ := inVocabulary_of_encodePolicyV1 hpolicy
  obtain ⟨hbytes', hvocabulary'⟩ := inVocabulary_of_encodePolicyV1 hpolicy'
  have hlist := encodeStringListV1_eq_ok hcapabilities
  have hlist' := encodeStringListV1_eq_ok hcapabilities'
  constructor
  · apply profilePolicy_eq_of_policyBytesV1 hvocabulary hvocabulary'
    · rw [← hbytes]
      omega
    · rw [← hbytes, ← hbytes']
  · apply eq_of_listBytes
    · rw [← hlist]
      omega
    · rw [← hlist, ← hlist']

/-! ## Where finish signatures come from -/

namespace Network

/-- The hellos of the clients fit the length prefixes of their messages. -/
def HellosFit (net : Network) : Prop :=
  ∀ i c s, net.clients i = some c → c.accepted = some s → s.clientSentBody.length < 2 ^ 32

/-- The idealisations of one run: no forged signature was accepted, no two hash
inputs collided, both sides of an exchange compute one secret, and no relay drew
a nonce again. -/
structure Ideal (p : Primitives) (net : Network) : Prop where
  unforgeable : CryptoEvent.Unforgeable net.log
  collisionFree : CryptoEvent.CollisionFree p.hash net.log
  diffieHellman : DiffieHellman p
  freshNonces : net.serverNonces.Nodup
  hellosFit : net.HellosFit

variable {p : Primitives} {net : Network} {log : List Event}

theorem digest_ne (h : CryptoEvent.CollisionFree p.hash log) {label label' : List UInt8}
    {parts parts' : List (List UInt8)} (hleft : .hashed (framed (label :: parts)) ∈ log)
    (hright : .hashed (framed (label' :: parts')) ∈ log)
    (hlabels : label.length < 2 ^ 32 ∧ label'.length < 2 ^ 32 ∧ label ≠ label') :
    p.hash (framed (label :: parts)) ≠ p.hash (framed (label' :: parts')) := by
  intro hdigest
  obtain ⟨hlabel, -⟩ := framed_cons_inj hlabels.1 hlabels.2.1 (h.eq hleft hright hdigest)
  exact hlabels.2.2 hlabel

variable {s : ClientProcessHandshakeV1} {c : ClientParty}

theorem hashed_clientFinish (h : acceptServerHelloEvents p c.authority s ⊆ log) :
    .hashed (framed (clientFinish.signed (s.clientFinishSentBody.take 36))) ∈ log :=
  h (by simp [acceptServerHelloEvents, signEvents])

section Origin

variable (hsound : net.Sound p) (hideal : net.Ideal p)

include hsound hideal

/-- A client finish signature which was accepted belongs to a client which holds
the key and has accepted a hello. -/
theorem client_of_accepted {key signature : List UInt8}
    (hhashed : .hashed (framed (clientFinish.signed u)) ∈ net.log)
    (haccepted : .accepted key (p.hash (framed (clientFinish.signed u))) signature ∈ net.log) :
    ∃ i c s, net.clients i = some c ∧ c.accepted = some s ∧
      key = publicHalf c.authority.privateKey ∧ s.clientFinishSentBody.take 36 = u := by
  have hcollision := hideal.collisionFree
  have hreleased := hideal.unforgeable.released_of_accepted haccepted
  rcases hsound.released _ _ _ hreleased with ⟨i, c, hc, horigin⟩ | ⟨j, r, hr, horigin⟩
  · cases horigin with
    | hello unsigned hother digest_eq =>
      exact absurd digest_eq (digest_ne hcollision hhashed hother (by decide))
    | finish s accepted key_eq digest_eq =>
      obtain ⟨session, hsession⟩ := (hsound.clients i c hc).accepted s accepted
      have hinput := hcollision.eq hhashed (hashed_clientFinish hsession.logged) digest_eq
      exact ⟨i, c, s, hc, accepted, key_eq, (finish_signed_inj (by decide) hinput).symm⟩
  · cases horigin with
    | hello clientSigned unsigned hother digest_eq =>
      exact absurd digest_eq (digest_ne hcollision hhashed hother (by decide))
    | finish s session received sent result completed key_eq digest_eq signature_eq =>
      have hother : .hashed (framed (serverFinish.signed (sent.take 36))) ∈ net.log :=
        completed.finishLogged (by simp [acceptClientFinishEvents, signEvents])
      exact absurd digest_eq (digest_ne hcollision hhashed hother (by decide))

/-- A server finish signature which was accepted belongs to a relay which holds
the key and has completed. -/
theorem relay_of_accepted {key signature : List UInt8}
    (hhashed : .hashed (framed (serverFinish.signed u)) ∈ net.log)
    (haccepted : .accepted key (p.hash (framed (serverFinish.signed u))) signature ∈ net.log) :
    ∃ j r s session received sent result, net.relays j = some r ∧
      r.HasCompleted p net.log s session received sent result ∧
      key = publicHalf r.authority.privateKey ∧ sent.take 36 = u ∧
      signature = finishSignature sent := by
  have hcollision := hideal.collisionFree
  have hreleased := hideal.unforgeable.released_of_accepted haccepted
  rcases hsound.released _ _ _ hreleased with ⟨i, c, hc, horigin⟩ | ⟨j, r, hr, horigin⟩
  · cases horigin with
    | hello unsigned hother digest_eq =>
      exact absurd digest_eq (digest_ne hcollision hhashed hother (by decide))
    | finish s accepted key_eq digest_eq =>
      obtain ⟨session, hsession⟩ := (hsound.clients i c hc).accepted s accepted
      exact absurd digest_eq
        (digest_ne hcollision hhashed (hashed_clientFinish hsession.logged) (by decide))
  · cases horigin with
    | hello clientSigned unsigned hother digest_eq =>
      exact absurd digest_eq (digest_ne hcollision hhashed hother (by decide))
    | finish s session received sent result completed key_eq digest_eq signature_eq =>
      have hother : .hashed (framed (serverFinish.signed (sent.take 36))) ∈ net.log :=
        completed.finishLogged (by simp [acceptClientFinishEvents, signEvents])
      have hinput := hcollision.eq hhashed hother digest_eq
      exact ⟨j, r, s, session, received, sent, result, hr, completed, key_eq,
        (finish_signed_inj (by decide) hinput).symm, signature_eq⟩

end Origin

/-! ## Agreement -/

/-- What the results of a client and a relay which agree have in common. -/
structure Agree (client relay : ProcessHandshakeResultV1) : Prop where
  clientNonce : client.evidence.clientNonce = relay.evidence.clientNonce
  serverNonce : client.evidence.serverNonce = relay.evidence.serverNonce
  clientPublic : client.evidence.clientPublic = relay.evidence.clientPublic
  serverPublic : client.evidence.serverPublic = relay.evidence.serverPublic
  selectedPolicy : client.context.hashInput.effectivePolicy.profilePolicy =
    relay.context.hashInput.effectivePolicy.profilePolicy
  transcriptHash : client.evidence.transcriptHash = relay.evidence.transcriptHash
  secret : client.secret = relay.secret

/-- Relay `j` holds a key, has completed and agrees with a client and its
configuration. -/
def AgreesWith (net : Network) (c : ClientParty) (result : ProcessHandshakeResultV1) (j : ℕ) :
    Prop :=
  ∃ r relayResult, net.relays j = some r ∧ r.result = some relayResult ∧
    publicHalf r.authority.privateKey = c.authority.peerPublic ∧ Agree result relayResult ∧
    sortTexts c.authority.config.selectedCapabilities =
      sortTexts r.authority.config.selectedCapabilities

variable {received : List UInt8} {result : ProcessHandshakeResultV1}
  {cs : ClientProcessHandshakeV1.Session} {r : RelayParty} {rs : RelayProcessHandshakeV1.Session}

section Bodies

variable (hsound : net.Sound p) (hideal : net.Ideal p)

include hsound hideal

/-- A completed client has the same bodies as a completed relay which holds the
trusted key. -/
theorem relay_of_completed_client {i : ℕ}
    (hi : net.clients i = some c) (hc : c.HasCompleted p net.log s cs received result) :
    ∃ j r t rs finish sent relayResult, net.relays j = some r ∧
      r.HasCompleted p net.log t rs finish sent relayResult ∧
      c.authority.peerPublic = publicHalf r.authority.privateKey ∧
      s.clientSentBody = t.receivedClientBody ∧ s.receivedServerBody = t.serverSentBody ∧
      s.clientFinishSentBody = finish ∧ finishSignature received = finishSignature sent := by
  obtain ⟨signature, hreceived, -⟩ := hc.completed.verified
  have hhashed : .hashed (framed (serverFinish.signed (received.take 36))) ∈ net.log :=
    hc.finishLogged (by simp [acceptServerFinishEvents, acceptEvents])
  have haccepted : .accepted c.authority.peerPublic
      (p.hash (framed (serverFinish.signed (received.take 36)))) (finishSignature received) ∈
      net.log := hc.finishLogged (by simp [acceptServerFinishEvents, acceptEvents])
  obtain ⟨j, r, t, rs, finish, sent, relayResult, hj, hr, hkey, hunsigned, hsignature⟩ :=
    relay_of_accepted hsound hideal hhashed haccepted
  obtain ⟨relaySignature, hfinish, -⟩ := hr.completed.verified
  have hth3 : s.th3 p = t.th3 p finish := by
    rw [hreceived, take_finishBody, hr.completed.made, makeServerFinish, makeFinish,
      take_finishBody] at hunsigned
    exact (serverFinish.unsigned_injective hunsigned).symm
  have hclientHashed : .hashed (framed (finishTranscript s.clientSentBody s.receivedServerBody
      s.clientFinishSentBody)) ∈ net.log :=
    hc.finishLogged (by simp [acceptServerFinishEvents])
  have hrelayHashed : .hashed (framed (finishTranscript t.receivedClientBody t.serverSentBody
      finish)) ∈ net.log :=
    hr.finishLogged (by simp [acceptClientFinishEvents])
  have hlength : s.clientFinishSentBody.length = finish.length := by
    obtain ⟨clientSignature, hsent⟩ := clientFinishSentBody_eq hc.state
    rw [hsent, hfinish, length_finishBody, length_finishBody]
  obtain ⟨hclient, hserver, hbody⟩ := finishTranscript_inj (hideal.hellosFit i c s hi hc.accepted)
    (Nat.lt_of_le_of_lt hr.state.parsed.fits maxHandshakeBody_lt) hlength
    (hideal.collisionFree.eq hclientHashed hrelayHashed hth3)
  exact ⟨j, r, t, rs, finish, sent, relayResult, hj, hr, hkey, hclient, hserver, hbody, hsignature⟩

/-- A completed relay has the same hello bodies as a client which holds the trusted
key and has accepted a hello. -/
theorem client_of_completed_relay {t : RelayProcessHandshakeV1} {sent : List UInt8}
    (hr : r.HasCompleted p net.log t rs received sent result) :
    ∃ i c s cs, net.clients i = some c ∧ c.HasAccepted p net.log s cs ∧
      r.authority.peerPublic = publicHalf c.authority.privateKey ∧
      s.clientSentBody = t.receivedClientBody ∧ s.receivedServerBody = t.serverSentBody := by
  obtain ⟨signature, hreceived, -⟩ := hr.completed.verified
  have hhashed : .hashed (framed (clientFinish.signed (received.take 36))) ∈ net.log :=
    hr.finishLogged (by simp [acceptClientFinishEvents, acceptEvents])
  have haccepted : .accepted r.authority.peerPublic
      (p.hash (framed (clientFinish.signed (received.take 36)))) (finishSignature received) ∈
      net.log := hr.finishLogged (by simp [acceptClientFinishEvents, acceptEvents])
  obtain ⟨i, c, s, hi, hs, hkey, hunsigned⟩ :=
    client_of_accepted hsound hideal hhashed haccepted
  obtain ⟨cs, hc⟩ := (hsound.clients i c hi).accepted s hs
  have hth2 : s.th2 p = t.th2 p := by
    obtain ⟨clientSignature, hsent⟩ := clientFinishSentBody_eq hc.state
    rw [hsent, hreceived, take_finishBody, take_finishBody] at hunsigned
    exact clientFinish.unsigned_injective hunsigned
  have hclientHashed : .hashed (framed (helloTranscript s.clientSentBody
      s.receivedServerBody)) ∈ net.log :=
    hc.logged (by simp [acceptServerHelloEvents])
  have hrelayHashed : .hashed (framed (helloTranscript t.receivedClientBody
      t.serverSentBody)) ∈ net.log :=
    hr.logged (by simp [acceptClientHelloEvents])
  obtain ⟨hclient, hserver⟩ := helloTranscript_inj (hideal.hellosFit i c s hi hs)
    (Nat.lt_of_le_of_lt hr.state.parsed.fits maxHandshakeBody_lt)
    (hideal.collisionFree.eq hclientHashed hrelayHashed hth2)
  exact ⟨i, c, s, cs, hi, hc, hkey, hclient, hserver⟩

end Bodies

variable {relayResult : ProcessHandshakeResultV1}

/-- A completed client agrees with the relay whose bodies it shares. -/
theorem agree_of_sameBodies (hdh : DiffieHellman p) {t : RelayProcessHandshakeV1}
    {finish sent : List UInt8} (hc : c.HasCompleted p log s cs received result)
    (hr : r.HasCompleted p log t rs finish sent relayResult)
    (hclient : s.clientSentBody = t.receivedClientBody)
    (hserver : s.receivedServerBody = t.serverSentBody) (hfinish : s.clientFinishSentBody = finish)
    (hsignature : finishSignature received = finishSignature sent) :
    Agree result relayResult ∧ sortTexts c.authority.config.selectedCapabilities =
      sortTexts r.authority.config.selectedCapabilities := by
  have hsame := sameSession hdh hc.state hr.state hclient hserver
  have hth3 : s.th3 p = t.th3 p finish := by
    rw [ClientProcessHandshakeV1.th3, RelayProcessHandshakeV1.th3, hclient, hserver, hfinish]
  have hbody : received = sent := by
    obtain ⟨signature, hreceived, -⟩ := hc.completed.verified
    have hsent := hr.completed.made
    rw [makeServerFinish, makeFinish, ← hth3, ← hsame.keys] at hsent
    rw [hreceived, hsent, finishSignature_finishBody, finishSignature_finishBody] at hsignature
    rw [hreceived, hsent, hsignature]
  have htranscript : result.evidence.transcriptHash = relayResult.evidence.transcriptHash := by
    rw [hc.completed.transcript, hr.completed.transcript, hclient, hserver, hfinish, hbody]
  have hsecret : result.secret = relayResult.secret := by
    have hleft := hc.completed.secret
    rw [hsame.keys, htranscript, hsame.profileHash, hr.completed.secret] at hleft
    exact (Except.ok.inj hleft).symm
  obtain ⟨hpolicy, hcapabilities⟩ : c.authority.config.selectedPolicy.profilePolicy =
      r.authority.config.selectedPolicy.profilePolicy ∧
      sortTexts c.authority.config.selectedCapabilities =
        sortTexts r.authority.config.selectedCapabilities := by
    apply selected_eq _ _ hsame.selected
    · rw [← hc.state.selected]
      exact selected_fits hc.state
    · rw [hsame.selected, ← hr.state.made.selected]
      exact hr.state.made.nonempty
  refine ⟨?_, hcapabilities⟩
  exact
    { clientNonce := by
        rw [hc.completed.clientNonce, hr.completed.clientNonce, hsame.clientNonce]
      serverNonce := by
        rw [hc.completed.serverNonce, hr.completed.serverNonce, hsame.serverNonce]
      clientPublic := by
        rw [hc.completed.clientPublic, hr.completed.clientPublic, hsame.clientPublic]
      serverPublic := by
        rw [hc.completed.serverPublic, hr.completed.serverPublic, hsame.serverPublic]
      selectedPolicy := by rw [hc.completed.policy, hr.completed.policy, hpolicy]
      transcriptHash := htranscript
      secret := hsecret }

theorem Agree.serverNonce_eq {j : ℕ} (hsound : net.Sound p)
    (hc : c.HasCompleted p net.log s cs received result) (hj : net.relays j = some r)
    (hr : r.result = some relayResult) (h : Agree result relayResult) :
    ∃ k t, net.AnsweredBy j k t ∧ t.serverNonce = s.serverNonce := by
  obtain ⟨t, rs, finish, sent, hcompleted⟩ := (hsound.relays j r hj).completed relayResult hr
  refine ⟨r.cache, t, ⟨r, hj, rfl, hcompleted.answered⟩, ?_⟩
  rw [← hcompleted.completed.serverNonce, ← h.serverNonce, hc.completed.serverNonce]

/-- A completed client agrees with exactly one relay. -/
theorem existsUnique_agreesWith (hsound : net.Sound p) (hadmitted : net.Admitted p)
    (hideal : net.Ideal p) {i : ℕ} (hi : net.clients i = some c)
    (hresult : c.result = some result) : ∃! j, net.AgreesWith c result j := by
  obtain ⟨s, cs, received, hc⟩ := (hsound.clients i c hi).completed result hresult
  obtain ⟨j, r, t, rs, finish, sent, relayResult, hj, hr, hkey, hclient, hserver, hfinish,
    hsignature⟩ := relay_of_completed_client hsound hideal hi hc
  obtain ⟨hagree, hcapabilities⟩ := agree_of_sameBodies hideal.diffieHellman hc hr hclient hserver
    hfinish hsignature
  refine ⟨j, ⟨r, relayResult, hj, hr.returned, hkey.symm, hagree, hcapabilities⟩, ?_⟩
  rintro j' ⟨r', relayResult', hj', hr', -, hagree', -⟩
  -- both relays answered with the server nonce of the client
  obtain ⟨k, u, hu, hnonce⟩ := hagree.serverNonce_eq hsound hc hj hr.returned
  obtain ⟨k', u', hu', hnonce'⟩ := hagree'.serverNonce_eq hsound hc hj' hr'
  exact hadmitted.fresh hideal.freshNonces j' j k' k u' u hu' hu (hnonce'.trans hnonce.symm)

/-- The client behind a completed relay: it holds the trusted key, sent the hello
the relay received and accepted the hello the relay sent. -/
def GreetedBy (net : Network) (r : RelayParty) : Prop :=
  ∃ t i c s, r.answered = some t ∧ net.clients i = some c ∧
    publicHalf c.authority.privateKey = r.authority.peerPublic ∧
    c.sent = some t.clientHello ∧ c.accepted = some s ∧ s.serverHello = t.serverHello

theorem greetedBy_of_completed (hsound : net.Sound p) (hideal : net.Ideal p) {j : ℕ}
    (hj : net.relays j = some r) (hresult : r.result = some result) : net.GreetedBy r := by
  obtain ⟨t, rs, received, sent, hr⟩ := (hsound.relays j r hj).completed result hresult
  obtain ⟨i, c, s, cs, hi, hc, hkey, hclient, hserver⟩ :=
    client_of_completed_relay hsound hideal hr
  refine ⟨t, i, c, s, hr.answered, hi, hkey.symm, ?_, hc.accepted, ?_⟩
  · rw [hc.sent, hc.state.clientHello, hr.state.clientHello, hclient]
  · rw [hc.state.serverHello, hr.state.serverHello, hserver]

/-- Agreement, whatever messages are delivered and in whatever order. In an ideal
run a completed client agrees with exactly one completed relay which holds the
trusted key, and behind every completed relay is a client which holds the trusted
key, sent the hello and accepted the answer. In every run, two relays which share
a cache never complete on one hello, and an instance which had a call fail, was
called out of order or has completed never completes afterwards. -/
theorem handshake_agreement (p : Primitives) (actions : List Action) :
    ((after p actions).Ideal p →
      (∀ i c result, (after p actions).clients i = some c → c.result = some result →
        ∃! j, (after p actions).AgreesWith c result j) ∧
      (∀ j r result, (after p actions).relays j = some r → r.result = some result →
        (after p actions).GreetedBy r)) ∧
    (∀ i j r r' result result' s t, (after p actions).relays i = some r →
      (after p actions).relays j = some r' → r.cache = r'.cache →
      r.result = some result → r'.result = some result' →
      r.answered = some s → r'.answered = some t → s.clientHello = t.clientHello → i = j) ∧
    (∀ before action rest next x, action.target = some x → next.target = some x →
      ((∃ code, replyAfter (step p) empty before action = .failed code) ∨
        (after p before).OutOfOrder action ∨
        ∃ result, replyAfter (step p) empty before action = .completed result) →
      ∀ result, replyAfter (step p) empty (before ++ action :: rest) next ≠ .completed result) := by
  have hsound := sound_after p actions
  have hadmitted := admitted_after p actions
  refine ⟨fun hideal => ⟨?_, ?_⟩, ?_, ?_⟩
  · intro i c result hi hresult
    exact existsUnique_agreesWith hsound hadmitted hideal hi hresult
  · intro j r result hj hresult
    exact greetedBy_of_completed hsound hideal hj hresult
  · intro i j r r' result result' s t hi hj hcache _ _ hs ht hhello
    apply hadmitted.distinct i j r.cache s t ⟨r, hi, rfl, hs⟩ ⟨r', hj, hcache.symm, ht⟩
    rw [RelayProcessHandshakeV1.recordedKey, hhello, RelayProcessHandshakeV1.recordedKey]
  · intro before action rest next x hx hnext h result
    exact never_completes hx before rest h hnext result

end Network

/-! ## An honest exchange -/

namespace Honest

/-- Primitives small enough to compute with. -/
def primitives : Primitives where
  hash := fun input =>
    fixedBytes 32 [1, input.getD 27 0, input.getD 34 0, input.getD 38 0]
  publicKey := fun seed => fixedBytes 32 seed
  sign := fun key digest => fixedBytes 64 (key.drop 63 ++ digest.take 4)
  verify := fun key digest signature =>
    signature = (fixedBytes 64 (key.drop 31 ++ digest.take 4)).toList
  x25519 := fun a b => fixedBytes 32 [a.toList.headD 0 + b.toList.headD 0]
  hkdfExtract := fun secret _ => some (secret.take 1)
  hkdfExpand := fun key _ _ => some key
  hmac := fun key _ => fixedBytes 32 key
  marshalPolicy := fun _ => []
  marshalCapabilities := fun _ => []
  marshalModeBinding := fun _ => []

theorem diffieHellman : DiffieHellman primitives := by
  intro a b
  change fixedBytes 32 [a.toList.headD 0 + (b.toList.headD 0 + 9)] =
    fixedBytes 32 [b.toList.headD 0 + (a.toList.headD 0 + 9)]
  rw [← UInt8.add_assoc, UInt8.add_comm (a.toList.headD 0), UInt8.add_assoc]

def digest : FixedBytes 32 := fixedBytes 32 (replicate 32 1)

def policy : SealedPolicy :=
  { samplePolicyV1 with
    profileID := "p"
    profileHash := "0101010101010101010101010101010101010101010101010101010101010101"
    schemaVersion := Kurdistan.Protocol.supportedVersion
    transcriptMode := .known .canonicalV1
    nonceMode := .known .counterXORBase
    replayPolicy := .known .orderedOnly
    replayWindowSize := 64
    maxSessionMessages := 8
    maxKeyLifetimeMessages := 8
    clientMandatoryCapabilities := ["multi_stream"]
    serverMandatoryCapabilities := ["multi_stream"]
    selectedCapabilities := ["multi_stream"]
    validationHash := primitives.hash [] }

/-- The value of a hash which is known to exist. -/
def orZero (x : Except WrappedError (FixedBytes 32)) : FixedBytes 32 :=
  match x with
  | .ok value => value
  | .error _ => default

def compatibility : CompatibilityBlockV1 where
  schemaVersion := Kurdistan.Protocol.supportedVersion
  compilerSecurityVersion := "1"
  minimumRuntimeVersion := "1"
  supportedSecuritySuites := ["s"]
  requiredCapabilities := ["c"]
  supportedCarrierFamilies := ["f"]
  supportedProxyFeatures := []
  supportedStreamFeatures := []
  maxEnvelopeBytes := 1
  maxStreamCount := 1
  maxReplayWindow := 64

def limits : LimitBlockV1 where
  maxFrameBytes := 1
  maxPayloadBytes := 1
  maxStates := 1
  maxTransitions := 1
  maxSessionMillis := 1
  carrierMaxEnvelopeBytes := 1
  carrierMaxQueueDepth := 1
  sessionMaxConcurrentStreams := 1

def configSource : ConfigSourceBlockV1 where
  profileID := "p"
  profileHash := digest
  securityVersion := "1"
  selectedSuite := policy.toEffectiveSecurityPolicy.selectedSuite
  effectivePolicyHash := orZero (effectivePolicyHashV1 primitives policy)
  selectedCapabilityHash := orZero (selectedCapabilityHashV1 primitives ["multi_stream"])
  adapterClass := "one_flow_one_stream"
  compatibilityBlockHash := orZero (compatibilityBlockHashV1 primitives compatibility)
  limitBlockHash := orZero (limitBlockHashV1 primitives limits)

def binding : HandshakeModeBinding where
  clientOptional := []
  serverOptional := []
  featureVectors := ["v"]
  carrierFamily := "stream_carrier"
  carrierPolicyHash := digest
  envelopeLimit := 1
  maxFrameBytes := 1
  localAdapterClass := "one_flow_one_stream"
  framingPolicyHash := digest
  stateMachinePolicyHash := digest
  schedulerPolicyHash := digest
  paddingPolicyHash := digest
  streamPolicyHash := digest
  proxyPolicyHash := digest
  carrierContextHash := digest
  compatibilityBlock := compatibility
  compatibilityBlockHash := configSource.compatibilityBlockHash
  limitBlock := limits
  limitBlockHash := configSource.limitBlockHash
  configSourceBlock := configSource
  configSourceBlockHash := orZero (configSourceBlockHashV1 primitives configSource)

/-- A peer with a one-letter identity. -/
def peer (identity : UInt8) : PeerParameters :=
  let unsealed : PeerParameters :=
    { identityID := [identity]
      profileID := "p"
      profileHash := digest
      offerPolicy := policy
      floorPolicy := policy
      offeredCapabilities := ["multi_stream"]
      requiredCapabilities := ["multi_stream"]
      modeBinding := binding
      sealHash := default }
  { unsealed with sealHash := orZero (sealPeerParameters primitives unsealed) }

def config : FirstContactInput where
  client := peer 99
  server := peer 115
  selectedPolicy := policy
  selectedCapabilities := ["multi_stream"]
  inboundClientHello := []

/-- The private key of the peer with the given identity. -/
def privateKey (identity : List UInt8) : List UInt8 :=
  newKeyFromSeed primitives (replicate 31 7 ++ identity)

def deps : Dependencies where
  identity := fun identity => some (privateKey identity)
  trust := fun identity => some (publicHalf (privateKey identity))

def contribution (byte : UInt8) : Contribution :=
  ⟨fixedBytes 32 [byte], fixedBytes 32 [byte]⟩

/-- The client as it is created. -/
def client : ClientProcessHandshakeV1 where
  config := config
  stage := .new
  privateKey := privateKey [99]
  peerPublic := publicHalf (privateKey [115])

def relay : RelayProcessHandshakeV1 where
  config := config
  stage := .awaitClientHello
  privateKey := privateKey [115]
  peerPublic := publicHalf (privateKey [99])
  replay := some 0

def bytesOf (reply : Except FailureCode (List UInt8)) : List UInt8 :=
  match reply with
  | .ok bytes => bytes
  | .error _ => []

def greeting := client.start primitives (contribution 3)

def answer :=
  (relay.acceptClientHello primitives (some ⟨[], 16⟩) (bytesOf greeting.2) (contribution 5)).1

def acceptance := greeting.1.acceptServerHello primitives (bytesOf answer.2)

def finish : List UInt8 :=
  (makeServerFinish primitives (privateKey [115]) answer.1.serverConfirmKey
    (answer.1.th3 primitives acceptance.1.clientFinishSentBody)).1

/-- An exchange in which every message is delivered unchanged. -/
def exchange : List Action :=
  [.newCache 0 16, .newClient 0 config deps, .newRelay 0 config deps (some 0),
    .start 0 (contribution 3), .acceptClientHello 0 (bytesOf greeting.2) (contribution 5),
    .acceptServerHello 0 (bytesOf answer.2), .acceptClientFinish 0 (bytesOf acceptance.2),
    .acceptServerFinish 0 finish]

/-- What makes a run with one client, number `0`, ideal. -/
theorem ideal_of_single {p : Primitives} {net : Network} (hdh : DiffieHellman p)
    (hothers : ∀ i, i ≠ 0 → net.clients i = none)
    (h : ((net.clients 0).bind (·.result)).isSome = true ∧
      ((net.clients 0).bind (·.accepted)).all
        (fun s => s.clientSentBody.length < 2 ^ 32) = true ∧
      CryptoEvent.Unforgeable net.log ∧ CryptoEvent.CollisionFree p.hash net.log ∧
      net.serverNonces.Nodup) : net.Ideal p := by
  obtain ⟨-, hfits, hunforgeable, hcollision, hfresh⟩ := h
  refine ⟨hunforgeable, hcollision, hdh, hfresh, ?_⟩
  intro i c s hi hs
  by_cases hzero : i = 0
  · subst hzero
    rw [hi, Option.bind_some, hs] at hfits
    exact of_decide_eq_true hfits
  · rw [hothers i hzero] at hi
    cases hi

/-- What the exchange computes. -/
theorem exchange_facts :
    (((after primitives exchange).clients 0).bind (·.result)).isSome = true ∧
      (((after primitives exchange).clients 0).bind (·.accepted)).all
        (fun s => s.clientSentBody.length < 2 ^ 32) = true ∧
      CryptoEvent.Unforgeable (after primitives exchange).log ∧
      CryptoEvent.CollisionFree primitives.hash (after primitives exchange).log ∧
      (after primitives exchange).serverNonces.Nodup := by
  decide +kernel

theorem clients_exchange {i : ℕ} (hi : i ≠ 0) : (after primitives exchange).clients i = none := by
  have hother : ∀ action ∈ exchange, action.target ≠ some (.client i) ∧
      ∀ config deps, action ≠ .newClient i config deps := by
    intro action haction
    simp only [exchange, List.mem_cons, List.not_mem_nil, or_false] at haction
    rcases haction with rfl | rfl | rfl | rfl | rfl | rfl | rfl | rfl <;>
      simp [Action.target, Ne.symm hi]
  have hrun : (stateAfter (step primitives) empty exchange).clients i =
      empty.clients i := clients_stateAfter_of_ne hother
  rw [after, hrun]
  rfl

theorem ideal : (after primitives exchange).Ideal primitives :=
  ideal_of_single diffieHellman (fun _ hi => clients_exchange hi) exchange_facts

end Honest

/-- The honest exchange completes, and its client agrees with exactly one relay. -/
theorem handshake_agreement_exchange :
    ∃ c result, (after Honest.primitives Honest.exchange).clients 0 = some c ∧
      c.result = some result ∧
      ∃! j, (after Honest.primitives Honest.exchange).AgreesWith c result j := by
  obtain ⟨result, hresult⟩ := Option.isSome_iff_exists.mp Honest.exchange_facts.1
  obtain ⟨c, hc, hresult⟩ := Option.bind_eq_some_iff.mp hresult
  exact ⟨c, result, hc, hresult,
    ((handshake_agreement Honest.primitives Honest.exchange).1 Honest.ideal).1 0 c result
      hc hresult⟩

end Kurdistan.Handshake
