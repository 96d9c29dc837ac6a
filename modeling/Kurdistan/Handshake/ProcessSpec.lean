import Kurdistan.Handshake.Process

/-!
# What a successful call establishes

One lemma for each call of a handshake instance. An instance which was set up
with an authority (configuration, own key and trusted key) moves through states
described by the data of its session: its random scalar, the two hellos, the
shared secret and the derived keys.
-/

namespace Kurdistan.Handshake

open Support Security

/-- What an instance is created with. -/
structure Authority where
  config : FirstContactInput
  privateKey : List UInt8
  peerPublic : List UInt8

/-- A settled call failed and closed the instance, or succeeded. -/
theorem settle_cases {σ α : Type} (close : σ → σ) (s : σ) (call : Except FailureCode (σ × α)) :
    (∃ code, call = .error code ∧ settle close s call = (close s, .error code)) ∨
      ∃ s' value, call = .ok (s', value) ∧ settle close s call = (s', .ok value) := by
  rcases call with code | ⟨s', value⟩
  · exact Or.inl ⟨code, rfl, rfl⟩
  · exact Or.inr ⟨s', value, rfl, rfl⟩

/-! ## Messages an instance makes -/

/-- The client hello of a peer with the given contribution. -/
structure MadeClientHello (p : Primitives) (peer : PeerParameters) (privateKey : List UInt8)
    (fields : ClientHelloFields) (body : List UInt8) : Prop where
  profileHash : fields.profileHash = peer.profileHash
  body : body = fields.unsigned ++
    (p.sign privateKey (p.hash (framed (clientHelloSigned fields.unsigned))).toList).toList

variable {p : Primitives} {message body : List UInt8} {ephemeral nonce : FixedBytes 32}

theorem makeClientHello_eq_ok {peer : PeerParameters} {privateKey : List UInt8}
    (h : makeClientHello p peer privateKey ephemeral nonce = .ok (message, body)) :
    message = encodeOuter body ∧ ∃ fields : ClientHelloFields,
      fields.ephemeral = ephemeral ∧ fields.nonce = nonce ∧
        MadeClientHello p peer privateKey fields body := by
  simp only [makeClientHello, bind_ok_iff] at h
  obtain ⟨offer, -, floor, -, hvalue⟩ := h
  cases hvalue
  exact ⟨rfl, _, rfl, rfl, rfl, rfl⟩

/-- The server hello of a configuration with the given contribution. -/
structure MadeServerHello (p : Primitives) (input : FirstContactInput)
    (privateKey clientSigned : List UInt8) (fields : ServerHelloFields) (body : List UInt8) :
    Prop where
  selected : fields.selected = wantSelected p input
  nonempty : fields.selected ≠ []
  body : body = fields.unsigned ++ (p.sign privateKey
    (p.hash (framed (serverHelloSigned clientSigned fields.unsigned))).toList).toList

theorem makeServerHello_eq_ok {input : FirstContactInput} {privateKey clientSigned : List UInt8}
    (h : makeServerHello p input privateKey clientSigned ephemeral nonce =
      .ok (message, body)) :
    message = encodeOuter body ∧ ∃ fields : ServerHelloFields,
      fields.ephemeral = ephemeral ∧ fields.nonce = nonce ∧
        MadeServerHello p input privateKey clientSigned fields body := by
  simp only [makeServerHello, bind_ok_iff, orFail_eq_ok] at h
  obtain ⟨offer, -, floor, hfloor, selected, hselected, hvalue⟩ := h
  cases hvalue
  refine ⟨rfl, _, rfl, rfl, ?_, ?_, rfl⟩
  · rw [wantSelected, hfloor]
    exact (congrArg orNil hselected).symm
  · simp only [encodeSelectedPolicy, bind_ok_iff] at hselected
    obtain ⟨policyRaw, -, capabilitiesRaw, -, hvalue⟩ := hselected
    cases hvalue
    simp [writeLP, lengthPrefixed, putUint32, bigEndian]

/-! ## Client calls -/

namespace ClientProcessHandshakeV1

/-- The transcript hash of the two hellos. -/
def th2 (p : Primitives) (c : ClientProcessHandshakeV1) : FixedBytes 32 :=
  transcriptHash p (helloTranscript c.clientSentBody c.receivedServerBody)

/-- A client which has only been set up. -/
structure Created (a : Authority) (c : ClientProcessHandshakeV1) : Prop where
  config : c.config = a.config
  privateKey : c.privateKey = a.privateKey
  peerPublic : c.peerPublic = a.peerPublic

/-- A client which has sent its hello. -/
structure Greeted (p : Primitives) (a : Authority) (scalar : FixedBytes 32)
    (hello : ClientHelloFields) (c : ClientProcessHandshakeV1) : Prop extends Created a c where
  ephemeral : c.ephemeral = some scalar
  clientPublic : c.clientPublic = ephemeralPublic p scalar
  fieldsPublic : hello.ephemeral = c.clientPublic
  fieldsNonce : hello.nonce = c.clientNonce
  made : MadeClientHello p a.config.client a.privateKey hello c.clientSentBody
  message : c.clientHello = encodeOuter c.clientSentBody

variable {c c' : ClientProcessHandshakeV1}

theorem startCall_eq_ok {a : Authority} {draw : Option Contribution} (hc : c.Created a)
    (h : startCall p c draw = .ok (c', message)) :
    c'.stage = .awaitServerHello ∧ message = c'.clientHello ∧
      ∃ scalar hello, Greeted p a scalar hello c' := by
  simp only [startCall, bind_ok_iff, Prod.exists] at h
  obtain ⟨-, -, scalar, ephemeral, nonce, hdraw, sent, body, hmake, hvalue⟩ := h
  cases hvalue
  obtain ⟨hmessage, hello, hephemeral, hnonce, hmade⟩ := makeClientHello_eq_ok hmake
  have hpublic : ephemeral = ephemeralPublic p scalar := by
    cases draw with
    | none => cases hdraw
    | some contribution => cases hdraw; rfl
  rw [hc.config, hc.privateKey] at hmade
  refine ⟨rfl, rfl, scalar, hello, ⟨hc.config, hc.privateKey, hc.peerPublic⟩, rfl, hpublic,
    hephemeral, hnonce, hmade, hmessage⟩

theorem startCall_stage {draw : Option Contribution} (h : startCall p c draw = .ok (c', message)) :
    c.stage = .new := by
  simp only [startCall, bind_ok_iff, ensure_ok_iff] at h
  obtain ⟨-, hstage, -⟩ := h
  exact hstage

/-- What a client session is made of. -/
structure Session where
  scalar : FixedBytes 32
  hello : ClientHelloFields
  answer : ServerHello
  dh : List UInt8
  keys : ConfirmationKeys

/-- A client which has accepted the hello of a relay. -/
structure Accepted (p : Primitives) (a : Authority) (s : Session)
    (c : ClientProcessHandshakeV1) : Prop where
  config : c.config = a.config
  peerPublic : c.peerPublic = a.peerPublic
  clientPublic : c.clientPublic = ephemeralPublic p s.scalar
  fieldsPublic : s.hello.ephemeral = c.clientPublic
  fieldsNonce : s.hello.nonce = c.clientNonce
  made : MadeClientHello p a.config.client a.privateKey s.hello c.clientSentBody
  clientHello : c.clientHello = encodeOuter c.clientSentBody
  serverHello : c.serverHello = encodeOuter c.receivedServerBody
  parsed : ParsedServerHello s.answer c.receivedServerBody
  serverPublic : c.serverPublic = s.answer.ephemeral
  serverNonce : c.serverNonce = s.answer.nonce
  selected : s.answer.selected = wantSelected p a.config
  verified : p.verify a.peerPublic
    (p.hash (framed (serverHelloSigned c.clientSentBody s.answer.unsigned))).toList
    s.answer.signature = true
  secret : sharedSecret p s.scalar c.serverPublic = .ok s.dh
  keys : confirmationKeys p s.dh a.config.client.profileHash c.clientNonce c.serverNonce
    c.clientPublic c.serverPublic (c.th2 p) = .ok s.keys
  finish : (c.clientFinish, c.clientFinishSentBody) =
    makeClientFinish p a.privateKey s.keys.client (c.th2 p)
  serverConfirmKey : c.serverConfirmKey = s.keys.server
  handshakePRK : c.handshakePRK = s.keys.prk

theorem validateServerHello_eq_ok {message : ServerHello} {input : FirstContactInput}
    {trusted clientSigned : List UInt8}
    (h : validateServerHello p message input trusted clientSigned = .ok ()) :
    message.selected = wantSelected p input ∧
      p.verify trusted (p.hash (framed (serverHelloSigned clientSigned message.unsigned))).toList
        message.signature = true := by
  simp only [validateServerHello, check_ok_iff, ensure_eq_ok] at h
  obtain ⟨-, ⟨-, hselected⟩, -, -, hverify⟩ := h
  exact ⟨hselected, hverify⟩

theorem acceptServerHelloCall_eq_ok {a : Authority} {scalar : FixedBytes 32}
    {hello : ClientHelloFields} {reply : List UInt8} (hc : Greeted p a scalar hello c)
    (h : acceptServerHelloCall p c message = .ok (c', reply)) :
    c'.stage = .awaitServerFinish ∧ c'.clientHello = c.clientHello ∧
      ∃ s : Session, Accepted p a s c' := by
  cases hstage : c.stage with
  | awaitServerHello =>
    simp only [acceptServerHelloCall, hstage, hc.ephemeral, bind_ok_iff, Prod.exists] at h
    obtain ⟨answer, body, hparse, _, hvalidate, dh, hdh, keys, hkeys, hvalue⟩ := h
    cases hvalue
    obtain ⟨hmessage, hparsed⟩ := parseServerHello_eq_ok.mp hparse
    obtain ⟨hselected, hverify⟩ := validateServerHello_eq_ok hvalidate
    rw [hc.config] at hselected hkeys
    rw [hc.peerPublic] at hverify
    refine ⟨rfl, rfl, ⟨scalar, hello, answer, dh, keys⟩, ?_⟩
    exact
      { config := hc.config
        peerPublic := hc.peerPublic
        clientPublic := hc.clientPublic
        fieldsPublic := hc.fieldsPublic
        fieldsNonce := hc.fieldsNonce
        made := hc.made
        clientHello := hc.message
        serverHello := hmessage
        parsed := hparsed
        serverPublic := rfl
        serverNonce := rfl
        selected := hselected
        verified := hverify
        secret := hdh
        keys := hkeys
        finish := by rw [← hc.privateKey]; rfl
        serverConfirmKey := rfl
        handshakePRK := rfl }
  | new => simp [acceptServerHelloCall, hstage] at h
  | awaitServerFinish => simp [acceptServerHelloCall, hstage] at h
  | closed => simp [acceptServerHelloCall, hstage] at h

theorem acceptServerHelloCall_stage {reply : List UInt8}
    (h : acceptServerHelloCall p c message = .ok (c', reply)) : c.stage = .awaitServerHello := by
  cases hstage : c.stage with
  | awaitServerHello => rfl
  | new => simp [acceptServerHelloCall, hstage] at h
  | awaitServerFinish => simp [acceptServerHelloCall, hstage] at h
  | closed => simp [acceptServerHelloCall, hstage] at h

/-- What a client hands out when it completes. -/
structure Completed (p : Primitives) (a : Authority) (s : Session)
    (c : ClientProcessHandshakeV1) (received : List UInt8)
    (result : ProcessHandshakeResultV1) : Prop where
  verified : ∃ signature : FixedBytes 64,
    received = finishBody p serverFinish s.keys.server (c.th3 p) signature.toList ∧
      p.verify a.peerPublic
        (serverFinish.digest p (serverFinish.unsigned (c.th3 p))).toList signature.toList = true
  transcript : result.evidence.transcriptHash = transcriptHash p
    (finalTranscript c.clientSentBody c.receivedServerBody c.clientFinishSentBody received)
  secret : channelSecret p s.keys.prk result.evidence.transcriptHash
    a.config.client.profileHash = .ok result.secret
  policy : result.context.hashInput.effectivePolicy = a.config.selectedPolicy
  clientNonce : result.evidence.clientNonce = c.clientNonce
  serverNonce : result.evidence.serverNonce = c.serverNonce
  clientPublic : result.evidence.clientPublic = c.clientPublic
  serverPublic : result.evidence.serverPublic = c.serverPublic
  messages : result.evidence.messages.toList =
    [c.clientHello, c.serverHello, c.clientFinish, encodeOuter received]

variable {result : ProcessHandshakeResultV1}

theorem acceptServerFinishCall_eq_ok {a : Authority} {s : Session} (hc : Accepted p a s c)
    (h : acceptServerFinishCall p c message = .ok (c', result)) :
    c' = c.close ∧ ∃ received, message = encodeOuter received ∧
      Completed p a s c received result := by
  simp only [acceptServerFinishCall, bind_ok_iff] at h
  obtain ⟨-, -, received, hreceived, secret, hsecret, context, hcontext, hvalue⟩ := h
  cases hvalue
  obtain ⟨hmessage, signature, hbody, hverify⟩ := validateFinish_eq_ok.mp hreceived
  rw [hc.serverConfirmKey] at hbody
  rw [hc.peerPublic] at hverify
  rw [hc.config] at hcontext hsecret
  rw [hc.handshakePRK] at hsecret
  obtain ⟨hpolicy, -⟩ := newAuthenticatedContextV1_hashInput hcontext
  refine ⟨rfl, received, hmessage, ?_⟩
  exact
    { verified := ⟨signature, hbody, hverify⟩
      transcript := rfl
      secret := hsecret
      policy := hpolicy
      clientNonce := rfl
      serverNonce := rfl
      clientPublic := rfl
      serverPublic := rfl
      messages := by rw [← hmessage]; rfl }

theorem acceptServerFinishCall_stage
    (h : acceptServerFinishCall p c message = .ok (c', result)) : c.stage = .awaitServerFinish := by
  simp only [acceptServerFinishCall, bind_ok_iff, ensure_ok_iff] at h
  obtain ⟨-, hstage, -⟩ := h
  exact hstage

end ClientProcessHandshakeV1

/-! ## Relay calls -/

namespace RelayProcessHandshakeV1

/-- A relay which has only been set up. -/
structure Created (a : Authority) (r : RelayProcessHandshakeV1) : Prop where
  config : r.config = a.config
  privateKey : r.privateKey = a.privateKey
  peerPublic : r.peerPublic = a.peerPublic

/-- What a relay session is made of. -/
structure Session where
  scalar : FixedBytes 32
  hello : ClientHello
  answer : ServerHelloFields
  dh : List UInt8
  keys : ConfirmationKeys

/-- A relay which has answered the hello of a client. -/
structure Answered (p : Primitives) (a : Authority) (s : Session)
    (r : RelayProcessHandshakeV1) : Prop extends Created a r where
  serverPublic : r.serverPublic = ephemeralPublic p s.scalar
  clientHello : r.clientHello = encodeOuter r.receivedClientBody
  parsed : ParsedClientHello s.hello r.receivedClientBody
  clientPublic : r.clientPublic = s.hello.ephemeral
  clientNonce : r.clientNonce = s.hello.nonce
  verified : p.verify a.peerPublic
    (p.hash (framed (clientHelloSigned s.hello.unsigned))).toList s.hello.signature = true
  profileHash : s.hello.profileHash = a.config.client.profileHash
  fieldsPublic : s.answer.ephemeral = r.serverPublic
  fieldsNonce : s.answer.nonce = r.serverNonce
  made : MadeServerHello p a.config a.privateKey r.receivedClientBody s.answer r.serverSentBody
  serverHello : r.serverHello = encodeOuter r.serverSentBody
  secret : sharedSecret p s.scalar r.clientPublic = .ok s.dh
  keys : confirmationKeys p s.dh a.config.client.profileHash r.clientNonce r.serverNonce
    r.clientPublic r.serverPublic (r.th2 p) = .ok s.keys
  clientConfirmKey : r.clientConfirmKey = s.keys.client
  serverConfirmKey : r.serverConfirmKey = s.keys.server
  handshakePRK : r.handshakePRK = s.keys.prk

variable {r : RelayProcessHandshakeV1}

theorem admitClientHello_eq_ok {cache : Option HandshakeReplayCache} {cache' : HandshakeReplayCache}
    {hello : ClientHello} (h : admitClientHello p r cache message = .ok (hello, body, cache')) :
    r.stage = .awaitClientHello ∧ message = encodeOuter body ∧ ParsedClientHello hello body ∧
      p.verify r.peerPublic
        (p.hash (framed (clientHelloSigned hello.unsigned))).toList hello.signature = true ∧
      ∃ before, cache = some before ∧ replayKey p hello ∉ before.seen ∧
        cache'.seen = replayKey p hello :: before.seen := by
  simp only [admitClientHello, authenticateClientHello, bind_ok_iff, Prod.exists,
    ensure_ok_iff, parseClientHello_eq_ok] at h
  obtain ⟨-, hstage, parsed, raw, ⟨hmessage, hparsed⟩, -, ⟨-, -, -, -, hverify⟩, after, hrecord,
    hvalue⟩ := h
  cases hvalue
  cases cache with
  | none => cases hrecord
  | some cache =>
    obtain ⟨hfresh, hseen⟩ := HandshakeReplayCache.record_eq_ok hrecord
    exact ⟨hstage, hmessage, hparsed, hverify, cache, rfl, hfresh, hseen⟩

variable {r' : RelayProcessHandshakeV1}

theorem answerClientHello_eq_ok {a : Authority} {reply : List UInt8} {hello : ClientHello}
    {draw : Option Contribution} (hr : r.Created a) (hmessage : message = encodeOuter body)
    (hparsed : ParsedClientHello hello body) (hverify : p.verify r.peerPublic
      (p.hash (framed (clientHelloSigned hello.unsigned))).toList hello.signature = true)
    (h : answerClientHello p r message hello body draw = .ok (r', reply)) :
    r'.stage = .awaitClientFinish ∧ r'.clientHello = message ∧ reply = r'.serverHello ∧
      ∃ s : Session, s.hello = hello ∧ Answered p a s r' := by
  simp only [answerClientHello, validateClientHelloSemantics, bind_ok_iff, Prod.exists,
    ensure_ok_iff] at h
  obtain ⟨-, ⟨-, ⟨-, hprofile, -⟩, -⟩, scalar, serverPublic, nonce, hdraw, sent, sentBody, hmake,
    dh, hdh, keys, hkeys, hvalue⟩ := h
  cases hvalue
  obtain ⟨hsent, answer, hephemeral, hnonce, hmade⟩ := makeServerHello_eq_ok hmake
  have hpublic : serverPublic = ephemeralPublic p scalar := by
    cases draw with
    | none => cases hdraw
    | some contribution => cases hdraw; rfl
  rw [hr.config, hr.privateKey] at hmade
  rw [hr.config] at hprofile
  rw [hr.peerPublic] at hverify
  rw [hprofile] at hkeys
  refine ⟨rfl, rfl, rfl, ⟨scalar, hello, answer, dh, keys⟩, rfl, ?_⟩
  exact
    { config := hr.config
      privateKey := hr.privateKey
      peerPublic := hr.peerPublic
      serverPublic := hpublic
      clientHello := hmessage
      parsed := hparsed
      clientPublic := rfl
      clientNonce := rfl
      verified := hverify
      profileHash := hprofile
      fieldsPublic := hephemeral
      fieldsNonce := hnonce
      made := hmade
      serverHello := hsent
      secret := hdh
      keys := hkeys
      clientConfirmKey := rfl
      serverConfirmKey := rfl
      handshakePRK := rfl }

/-- What a relay hands out when it completes. -/
structure Completed (p : Primitives) (a : Authority) (s : Session)
    (r : RelayProcessHandshakeV1) (received sent : List UInt8)
    (result : ProcessHandshakeResultV1) : Prop where
  verified : ∃ signature : FixedBytes 64,
    received = finishBody p clientFinish s.keys.client (r.th2 p) signature.toList ∧
      p.verify a.peerPublic
        (clientFinish.digest p (clientFinish.unsigned (r.th2 p))).toList signature.toList = true
  made : sent = (makeServerFinish p a.privateKey s.keys.server (r.th3 p received)).2
  transcript : result.evidence.transcriptHash = transcriptHash p
    (finalTranscript r.receivedClientBody r.serverSentBody received sent)
  secret : channelSecret p s.keys.prk result.evidence.transcriptHash
    a.config.client.profileHash = .ok result.secret
  policy : result.context.hashInput.effectivePolicy = a.config.selectedPolicy
  clientNonce : result.evidence.clientNonce = r.clientNonce
  serverNonce : result.evidence.serverNonce = r.serverNonce
  clientPublic : result.evidence.clientPublic = r.clientPublic
  serverPublic : result.evidence.serverPublic = r.serverPublic
  messages : result.evidence.messages.toList =
    [r.clientHello, r.serverHello, encodeOuter received, encodeOuter sent]

theorem acceptClientFinishCall_eq_ok {a : Authority} {s : Session} {reply : List UInt8}
    {result : ProcessHandshakeResultV1} (hr : Answered p a s r)
    (h : acceptClientFinishCall p r message = .ok (r', reply, result)) :
    r' = r.close ∧ ∃ received sent, message = encodeOuter received ∧ reply = encodeOuter sent ∧
      Completed p a s r received sent result := by
  simp only [acceptClientFinishCall, bind_ok_iff] at h
  obtain ⟨-, -, received, hreceived, secret, hsecret, context, hcontext, hvalue⟩ := h
  cases hvalue
  obtain ⟨hmessage, signature, hbody, hverify⟩ := validateFinish_eq_ok.mp hreceived
  rw [hr.clientConfirmKey] at hbody
  rw [hr.peerPublic] at hverify
  rw [hr.config] at hcontext hsecret
  rw [hr.handshakePRK] at hsecret
  obtain ⟨hpolicy, -⟩ := newAuthenticatedContextV1_hashInput hcontext
  refine ⟨rfl, received,
    (makeServerFinish p r.privateKey r.serverConfirmKey (r.th3 p received)).2, hmessage, rfl, ?_⟩
  exact
    { verified := ⟨signature, hbody, hverify⟩
      made := by rw [← hr.privateKey, ← hr.serverConfirmKey]
      transcript := rfl
      secret := hsecret
      policy := hpolicy
      clientNonce := rfl
      serverNonce := rfl
      clientPublic := rfl
      serverPublic := rfl
      messages := by rw [← hmessage]; rfl }

theorem acceptClientFinishCall_stage {value : List UInt8 × ProcessHandshakeResultV1}
    (h : acceptClientFinishCall p r message = .ok (r', value)) : r.stage = .awaitClientFinish := by
  simp only [acceptClientFinishCall, bind_ok_iff, ensure_ok_iff] at h
  obtain ⟨-, hstage, -⟩ := h
  exact hstage

end RelayProcessHandshakeV1

end Kurdistan.Handshake
