import Kurdistan.Handshake.MessageSpec

/-!
# Handshake instances

The client and the relay side of a process-separated handshake as state machines.
Each call either succeeds and moves to the next stage, or fails and closes the
instance; completing closes it as well. Closing forgets the keys and the
configuration and keeps what was sent and received.

Random contributions are arguments of the calls which draw them.
-/

namespace Kurdistan.Handshake

open Support Security

inductive ProcessHandshakeRoleV1 where
  | client
  | relay
  deriving DecidableEq

structure ProcessHandshakeEvidenceV1 where
  role : ProcessHandshakeRoleV1
  clientNonce : FixedBytes 32
  serverNonce : FixedBytes 32
  clientPublic : FixedBytes 32
  serverPublic : FixedBytes 32
  transcriptHash : FixedBytes 32
  messages : List.Vector (List UInt8) 4

/-- What a completed handshake hands to the local runtime. -/
structure ProcessHandshakeResultV1 where
  role : ProcessHandshakeRoleV1
  secret : List UInt8
  context : AuthenticatedContextSnapshotV1
  evidence : ProcessHandshakeEvidenceV1

variable (p : Primitives)

/-- The bytes one instance reads from its entropy source. -/
structure Contribution where
  scalar : FixedBytes 32
  nonce : FixedBytes 32

/-- A contribution with its public key. Reading the entropy source may fail. -/
def freshContribution (draw : Option Contribution) :
    Except FailureCode (FixedBytes 32 × FixedBytes 32 × FixedBytes 32) :=
  match draw with
  | none => .error .entropy
  | some c => .ok (c.scalar, ephemeralPublic p c.scalar, c.nonce)

/-- Run a call: keep the new state of a success, close the instance on failure. -/
def settle {σ α : Type} (close : σ → σ) (s : σ) :
    Except FailureCode (σ × α) → σ × Except FailureCode α
  | .ok (s', value) => (s', .ok value)
  | .error code => (close s, .error code)

/-! ## Client -/

inductive ClientStage where
  | new
  | awaitServerHello
  | awaitServerFinish
  | closed
  deriving DecidableEq

structure ClientProcessHandshakeV1 where
  config : FirstContactInput
  stage : ClientStage
  privateKey : List UInt8
  peerPublic : List UInt8
  ephemeral : Option (FixedBytes 32) := none
  clientNonce : FixedBytes 32 := default
  serverNonce : FixedBytes 32 := default
  clientPublic : FixedBytes 32 := default
  serverPublic : FixedBytes 32 := default
  clientHello : List UInt8 := []
  clientSentBody : List UInt8 := []
  serverHello : List UInt8 := []
  receivedServerBody : List UInt8 := []
  clientFinish : List UInt8 := []
  clientFinishSentBody : List UInt8 := []
  serverConfirmKey : List UInt8 := []
  handshakePRK : List UInt8 := []

def newClientProcessHandshakeV1 (config : FirstContactInput)
    (deps : Dependencies) : Except FailureCode ClientProcessHandshakeV1 := do
  validateFirstContactPublicInput p config
  let (privateKey, peerPublic) ← loadCredentials p config.client config.server deps
  return { config, stage := .new, privateKey, peerPublic }

namespace ClientProcessHandshakeV1

def close (c : ClientProcessHandshakeV1) : ClientProcessHandshakeV1 :=
  { c with
    privateKey := [], peerPublic := [], serverConfirmKey := [], handshakePRK := [],
    ephemeral := none, config := default, stage := .closed }

variable (p : Primitives)

/-- The body of `Start`. -/
def startCall (c : ClientProcessHandshakeV1) (draw : Option Contribution) :
    Except FailureCode (ClientProcessHandshakeV1 × List UInt8) := do
  ensure (c.stage = .new) .outOfOrder
  let (scalar, clientPublic, nonce) ← freshContribution p draw
  let (message, sentBody) ← makeClientHello p c.config.client c.privateKey clientPublic nonce
  return ({ c with
    ephemeral := some scalar, clientPublic, clientNonce := nonce, clientHello := message,
    clientSentBody := sentBody, stage := .awaitServerHello }, message)

def start (c : ClientProcessHandshakeV1) (draw : Option Contribution) :
    ClientProcessHandshakeV1 × Except FailureCode (List UInt8) :=
  settle close c (startCall p c draw)

/-- The body of `AcceptServerHello`. -/
def acceptServerHelloCall (c : ClientProcessHandshakeV1)
    (message : List UInt8) : Except FailureCode (ClientProcessHandshakeV1 × List UInt8) :=
  match c.stage, c.ephemeral with
  | .awaitServerHello, some ephemeral => do
    let (parsed, receivedBody) ← parseServerHello message
    validateServerHello p parsed c.config c.peerPublic c.clientSentBody
    let dh ← sharedSecret p ephemeral parsed.ephemeral
    let th2 := transcriptHash p (helloTranscript c.clientSentBody receivedBody)
    let keys ← confirmationKeys p dh c.config.client.profileHash c.clientNonce parsed.nonce
      c.clientPublic parsed.ephemeral th2
    let finish := makeClientFinish p c.privateKey keys.client th2
    return ({ c with
      privateKey := [], ephemeral := none, serverNonce := parsed.nonce,
      serverPublic := parsed.ephemeral, serverHello := message,
      receivedServerBody := receivedBody, clientFinish := finish.1,
      clientFinishSentBody := finish.2, serverConfirmKey := keys.server,
      handshakePRK := keys.prk, stage := .awaitServerFinish }, finish.1)
  | _, _ => .error .outOfOrder

def acceptServerHello (c : ClientProcessHandshakeV1) (message : List UInt8) :
    ClientProcessHandshakeV1 × Except FailureCode (List UInt8) :=
  settle close c (acceptServerHelloCall p c message)

/-- The transcript hash the relay's finish is checked against. -/
def th3 (c : ClientProcessHandshakeV1) : FixedBytes 32 :=
  transcriptHash p (finishTranscript c.clientSentBody c.receivedServerBody c.clientFinishSentBody)

/-- The body of `AcceptServerFinish`. -/
def acceptServerFinishCall (c : ClientProcessHandshakeV1) (message : List UInt8) :
    Except FailureCode (ClientProcessHandshakeV1 × ProcessHandshakeResultV1) := do
  ensure (c.stage = .awaitServerFinish) .outOfOrder
  let received ← validateServerFinish p message c.peerPublic c.serverConfirmKey (c.th3 p)
  let th4 := transcriptHash p
    (finalTranscript c.clientSentBody c.receivedServerBody c.clientFinishSentBody received)
  let secret ← channelSecret p c.handshakePRK th4 c.config.client.profileHash
  let context ← newAuthenticatedContextV1 p c.config th4
  return (c.close,
    { role := .client, secret, context := context.snapshot,
      evidence :=
        { role := .client, clientNonce := c.clientNonce, serverNonce := c.serverNonce,
          clientPublic := c.clientPublic, serverPublic := c.serverPublic, transcriptHash := th4,
          messages := ⟨[c.clientHello, c.serverHello, c.clientFinish, message], rfl⟩ } })

def acceptServerFinish (c : ClientProcessHandshakeV1) (message : List UInt8) :
    ClientProcessHandshakeV1 × Except FailureCode ProcessHandshakeResultV1 :=
  settle close c (acceptServerFinishCall p c message)

end ClientProcessHandshakeV1

/-! ## Relay -/

inductive RelayStage where
  | awaitClientHello
  | awaitClientFinish
  | closed
  deriving DecidableEq

structure RelayProcessHandshakeV1 where
  config : FirstContactInput
  stage : RelayStage
  privateKey : List UInt8
  peerPublic : List UInt8
  /-- The address of the replay cache, which several relays may share. -/
  replay : Option ℕ
  ephemeral : Option (FixedBytes 32) := none
  clientNonce : FixedBytes 32 := default
  serverNonce : FixedBytes 32 := default
  clientPublic : FixedBytes 32 := default
  serverPublic : FixedBytes 32 := default
  clientHello : List UInt8 := []
  receivedClientBody : List UInt8 := []
  serverHello : List UInt8 := []
  serverSentBody : List UInt8 := []
  clientConfirmKey : List UInt8 := []
  serverConfirmKey : List UInt8 := []
  handshakePRK : List UInt8 := []

def newRelayProcessHandshakeV1 (config : FirstContactInput)
    (deps : Dependencies) (replay : Option ℕ) :
    Except FailureCode RelayProcessHandshakeV1 := do
  validateFirstContactPublicInput p config
  ensure (replay ≠ none) .internalLimit
  let (privateKey, peerPublic) ← loadCredentials p config.server config.client deps
  return { config, stage := .awaitClientHello, privateKey, peerPublic, replay }

/-- `record` through a pointer which may be nil. -/
def recordIn (cache : Option HandshakeReplayCache) (key : FixedBytes 32) :
    Except FailureCode HandshakeReplayCache :=
  match cache with
  | none => .error .internalLimit
  | some cache => cache.record key

namespace RelayProcessHandshakeV1

def close (r : RelayProcessHandshakeV1) : RelayProcessHandshakeV1 :=
  { r with
    privateKey := [], peerPublic := [], clientConfirmKey := [], serverConfirmKey := [],
    handshakePRK := [], ephemeral := none, replay := none, config := default,
    stage := .closed }

variable (p : Primitives)

/-- The first half of `AcceptClientHello`: parse, authenticate and record. -/
def admitClientHello (r : RelayProcessHandshakeV1)
    (cache : Option HandshakeReplayCache) (message : List UInt8) :
    Except FailureCode (ClientHello × List UInt8 × HandshakeReplayCache) := do
  ensure (r.stage = .awaitClientHello) .outOfOrder
  let (parsed, receivedBody) ← parseClientHello message
  authenticateClientHello p parsed r.config.client.identityID r.peerPublic
  let cache ← recordIn cache (replayKey p parsed)
  return (parsed, receivedBody, cache)

/-- The second half of `AcceptClientHello`: answer an admitted hello. -/
def answerClientHello (r : RelayProcessHandshakeV1)
    (message : List UInt8) (parsed : ClientHello) (receivedBody : List UInt8)
    (draw : Option Contribution) :
    Except FailureCode (RelayProcessHandshakeV1 × List UInt8) := do
  validateClientHelloSemantics p parsed r.config.client
  let (scalar, serverPublic, nonce) ← freshContribution p draw
  let (serverHello, serverSentBody) ←
    makeServerHello p r.config r.privateKey receivedBody serverPublic nonce
  let dh ← sharedSecret p scalar parsed.ephemeral
  let th2 := transcriptHash p (helloTranscript receivedBody serverSentBody)
  let keys ← confirmationKeys p dh parsed.profileHash parsed.nonce nonce parsed.ephemeral
    serverPublic th2
  return ({ r with
    ephemeral := some scalar, clientNonce := parsed.nonce, serverNonce := nonce,
    clientPublic := parsed.ephemeral, serverPublic, clientHello := message,
    receivedClientBody := receivedBody, serverHello, serverSentBody,
    clientConfirmKey := keys.client, serverConfirmKey := keys.server,
    handshakePRK := keys.prk, stage := .awaitClientFinish }, serverHello)

/-- The hello is recorded as soon as it is authenticated, also when the rest of
the call fails. -/
def acceptClientHello (r : RelayProcessHandshakeV1)
    (cache : Option HandshakeReplayCache) (message : List UInt8) (draw : Option Contribution) :
    (RelayProcessHandshakeV1 × Except FailureCode (List UInt8)) × Option HandshakeReplayCache :=
  match admitClientHello p r cache message with
  | .error code => ((r.close, .error code), cache)
  | .ok (parsed, receivedBody, recorded) =>
    (settle close r (answerClientHello p r message parsed receivedBody draw), some recorded)

/-- The transcript hash the client's finish is checked against. -/
def th2 (r : RelayProcessHandshakeV1) : FixedBytes 32 :=
  transcriptHash p (helloTranscript r.receivedClientBody r.serverSentBody)

/-- The transcript hash of both hellos and the client's finish. -/
def th3 (r : RelayProcessHandshakeV1) (received : List UInt8) : FixedBytes 32 :=
  transcriptHash p (finishTranscript r.receivedClientBody r.serverSentBody received)

/-- The body of `AcceptClientFinish`. -/
def acceptClientFinishCall (r : RelayProcessHandshakeV1) (message : List UInt8) :
    Except FailureCode (RelayProcessHandshakeV1 × List UInt8 × ProcessHandshakeResultV1) := do
  ensure (r.stage = .awaitClientFinish) .outOfOrder
  let received ← validateClientFinish p message r.peerPublic r.clientConfirmKey (r.th2 p)
  let finish := makeServerFinish p r.privateKey r.serverConfirmKey (r.th3 p received)
  let th4 := transcriptHash p
    (finalTranscript r.receivedClientBody r.serverSentBody received finish.2)
  let secret ← channelSecret p r.handshakePRK th4 r.config.client.profileHash
  let context ← newAuthenticatedContextV1 p r.config th4
  return (r.close, finish.1,
    { role := .relay, secret, context := context.snapshot,
      evidence :=
        { role := .relay, clientNonce := r.clientNonce, serverNonce := r.serverNonce,
          clientPublic := r.clientPublic, serverPublic := r.serverPublic, transcriptHash := th4,
          messages := ⟨[r.clientHello, r.serverHello, message, finish.1], rfl⟩ } })

def acceptClientFinish (r : RelayProcessHandshakeV1) (message : List UInt8) :
    RelayProcessHandshakeV1 × Except FailureCode (List UInt8 × ProcessHandshakeResultV1) :=
  settle close r (acceptClientFinishCall p r message)

end RelayProcessHandshakeV1

end Kurdistan.Handshake
