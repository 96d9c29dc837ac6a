import Kurdistan.Handshake.ProcessSpec
import Kurdistan.Support.CryptoLog
import Kurdistan.Support.Runs

/-!
# Handshakes under an adversary

Any number of client and relay instances, and the replay caches relays share.
An action is one call of one instance. Whoever chooses the actions chooses the
order of all calls and every message they receive: the network delivers nothing
by itself.

A party is an instance together with what it was created with and what its calls
returned. The log records the hash inputs and the signatures of every call which
returned a value; a signature which a failed call computed never left the
instance and is not recorded.
-/

namespace Kurdistan.Handshake

open Support Security Function

abbrev Event := CryptoEvent (List UInt8) (List UInt8) (FixedBytes 32) (List UInt8)

/-! ## Parties -/

structure ClientParty where
  authority : Authority
  state : ClientProcessHandshakeV1
  /-- The hello returned by `Start`. -/
  sent : Option (List UInt8) := none
  /-- The instance as `AcceptServerHello` left it. -/
  accepted : Option ClientProcessHandshakeV1 := none
  result : Option ProcessHandshakeResultV1 := none

structure RelayParty where
  authority : Authority
  cache : Option ℕ
  state : RelayProcessHandshakeV1
  /-- The instance as `AcceptClientHello` left it. -/
  answered : Option RelayProcessHandshakeV1 := none
  result : Option ProcessHandshakeResultV1 := none

structure Network where
  clients : ℕ → Option ClientParty
  relays : ℕ → Option RelayParty
  caches : ℕ → Option HandshakeReplayCache
  /-- What was hashed, signed and verified, newest first. -/
  log : List Event
  /-- The nonces relays answered with. -/
  serverNonces : List (FixedBytes 32)

def Network.empty : Network where
  clients := fun _ => none
  relays := fun _ => none
  caches := fun _ => none
  log := []
  serverNonces := []

inductive Action where
  | newCache (k : ℕ) (capacity : Int)
  | newClient (i : ℕ) (config : FirstContactInput) (deps : Dependencies)
  | newRelay (j : ℕ) (config : FirstContactInput) (deps : Dependencies) (cache : Option ℕ)
  | start (i : ℕ) (draw : Option Contribution)
  | acceptServerHello (i : ℕ) (message : List UInt8)
  | acceptServerFinish (i : ℕ) (message : List UInt8)
  | closeClient (i : ℕ)
  | acceptClientHello (j : ℕ) (message : List UInt8) (draw : Option Contribution)
  | acceptClientFinish (j : ℕ) (message : List UInt8)
  | closeRelay (j : ℕ)

inductive Reply where
  | none
  | failed (code : FailureCode)
  | message (bytes : List UInt8)
  | completed (result : ProcessHandshakeResultV1)

/-! ## What a call hashes, releases and accepts -/

variable (p : Primitives)

/-- Hashing some parts and releasing a signature of the digest. -/
def signEvents (key : List UInt8) (parts : List (List UInt8))
    (signature : List UInt8) : List Event :=
  [.released key (p.hash (framed parts)) signature, .hashed (framed parts)]

/-- Hashing some parts and accepting a signature of the digest. -/
def acceptEvents (key : List UInt8) (parts : List (List UInt8))
    (signature : List UInt8) : List Event :=
  [.accepted key (p.hash (framed parts)) signature, .hashed (framed parts)]

variable (body : List UInt8)

/-- The signed part of a hello body. -/
def helloUnsigned : List UInt8 := body.take (body.length - signatureSize)

/-- The signature of a hello body. -/
def helloSignature : List UInt8 := body.drop (body.length - signatureSize)

/-- The signature of a finish body. -/
def finishSignature : List UInt8 := (body.take 100).drop 36

def startEvents (a : Authority) (c : ClientProcessHandshakeV1) : List Event :=
  signEvents p (publicHalf a.privateKey) (clientHelloSigned (helloUnsigned c.clientSentBody))
    (helloSignature c.clientSentBody)

def acceptServerHelloEvents (a : Authority) (c : ClientProcessHandshakeV1) :
    List Event :=
  signEvents p (publicHalf a.privateKey) (clientFinish.signed (c.clientFinishSentBody.take 36))
      (finishSignature c.clientFinishSentBody) ++
    .hashed (framed (helloTranscript c.clientSentBody c.receivedServerBody)) ::
    acceptEvents p a.peerPublic
      (serverHelloSigned c.clientSentBody (helloUnsigned c.receivedServerBody))
      (helloSignature c.receivedServerBody)

def acceptServerFinishEvents (a : Authority) (c : ClientProcessHandshakeV1)
    (received : List UInt8) : List Event :=
  .hashed (framed (finalTranscript c.clientSentBody c.receivedServerBody
      c.clientFinishSentBody received)) ::
    acceptEvents p a.peerPublic (serverFinish.signed (received.take 36))
      (finishSignature received) ++
    [.hashed (framed (finishTranscript c.clientSentBody c.receivedServerBody
      c.clientFinishSentBody))]

def acceptClientHelloEvents (a : Authority) (r : RelayProcessHandshakeV1) :
    List Event :=
  .hashed (framed (helloTranscript r.receivedClientBody r.serverSentBody)) ::
    signEvents p (publicHalf a.privateKey)
      (serverHelloSigned r.receivedClientBody (helloUnsigned r.serverSentBody))
      (helloSignature r.serverSentBody) ++
    acceptEvents p a.peerPublic (clientHelloSigned (helloUnsigned r.receivedClientBody))
      (helloSignature r.receivedClientBody)

def acceptClientFinishEvents (a : Authority) (r : RelayProcessHandshakeV1)
    (received sent : List UInt8) : List Event :=
  .hashed (framed (finalTranscript r.receivedClientBody r.serverSentBody received sent)) ::
    signEvents p (publicHalf a.privateKey) (serverFinish.signed (sent.take 36))
      (finishSignature sent) ++
    .hashed (framed (finishTranscript r.receivedClientBody r.serverSentBody received)) ::
    acceptEvents p a.peerPublic (clientFinish.signed (received.take 36)) (finishSignature received)

/-! ## Calls -/

namespace ClientParty

def start (p : Primitives) (c : ClientParty) (draw : Option Contribution) :
    ClientParty × List Event × Reply :=
  match c.state.start p draw with
  | (state, .error code) => ({ c with state }, [], .failed code)
  | (state, .ok message) =>
    ({ c with state, sent := some message }, startEvents p c.authority state, .message message)

def acceptServerHello (p : Primitives) (c : ClientParty) (message : List UInt8) :
    ClientParty × List Event × Reply :=
  match c.state.acceptServerHello p message with
  | (state, .error code) => ({ c with state }, [], .failed code)
  | (state, .ok reply) =>
    ({ c with state, accepted := some state }, acceptServerHelloEvents p c.authority state,
      .message reply)

def acceptServerFinish (p : Primitives) (c : ClientParty) (message : List UInt8) :
    ClientParty × List Event × Reply :=
  match c.state.acceptServerFinish p message with
  | (state, .error code) => ({ c with state }, [], .failed code)
  | (state, .ok result) =>
    ({ c with state, result := some result },
      acceptServerFinishEvents p c.authority c.state (message.drop 4), .completed result)

def close (c : ClientParty) : ClientParty × List Event × Reply :=
  ({ c with state := c.state.close }, [], .none)

end ClientParty

namespace RelayParty

def acceptClientHello (p : Primitives) (r : RelayParty) (cache : Option HandshakeReplayCache)
    (message : List UInt8) (draw : Option Contribution) :
    (RelayParty × List Event × Reply) × Option HandshakeReplayCache :=
  match r.state.acceptClientHello p cache message draw with
  | ((state, .error code), cache') => (({ r with state }, [], .failed code), cache')
  | ((state, .ok reply), cache') =>
    (({ r with state, answered := some state }, acceptClientHelloEvents p r.authority state,
      .message reply), cache')

/-- The finish message is returned in the evidence of the result. -/
def acceptClientFinish (p : Primitives) (r : RelayParty) (message : List UInt8) :
    RelayParty × List Event × Reply :=
  match r.state.acceptClientFinish p message with
  | (state, .error code) => ({ r with state }, [], .failed code)
  | (state, .ok (finish, result)) =>
    ({ r with state, result := some result },
      acceptClientFinishEvents p r.authority r.state (message.drop 4) (finish.drop 4),
      .completed result)

def close (r : RelayParty) : RelayParty × List Event × Reply :=
  ({ r with state := r.state.close }, [], .none)

end RelayParty

/-! ## Steps -/

namespace Network

variable (net : Network)

def callClient (i : ℕ) (call : ClientParty → ClientParty × List Event × Reply) :
    Network × Reply :=
  match net.clients i with
  | none => (net, .none)
  | some c =>
    let turn := call c
    ({ net with
        clients := update net.clients i (some turn.1)
        log := turn.2.1 ++ net.log }, turn.2.2)

def callRelay (j : ℕ) (call : RelayParty → RelayParty × List Event × Reply) :
    Network × Reply :=
  match net.relays j with
  | none => (net, .none)
  | some r =>
    let turn := call r
    ({ net with
        relays := update net.relays j (some turn.1)
        log := turn.2.1 ++ net.log }, turn.2.2)

/-- The cache a relay instance refers to. -/
def cacheOf (r : RelayProcessHandshakeV1) : Option HandshakeReplayCache :=
  r.replay.bind net.caches

/-- Store what `AcceptClientHello` left in the cache of an instance. -/
def storeCache (r : RelayProcessHandshakeV1)
    (cache : Option HandshakeReplayCache) : ℕ → Option HandshakeReplayCache :=
  match r.replay with
  | none => net.caches
  | some k => update net.caches k cache

/-- The nonce of a relay which answered. -/
def answeredNonce (turn : RelayParty × List Event × Reply) : List (FixedBytes 32) :=
  match turn.2.2 with
  | .message _ => [turn.1.state.serverNonce]
  | _ => []

/-- `AcceptClientHello` of relay `j`, on the cache the relay refers to. -/
def greetRelay (p : Primitives) (net : Network) (j : ℕ) (message : List UInt8)
    (draw : Option Contribution) : Network × Reply :=
  match net.relays j with
  | none => (net, .none)
  | some r =>
    let (turn, cache) := r.acceptClientHello p (net.cacheOf r.state) message draw
    ({ net with
        relays := update net.relays j (some turn.1)
        caches := net.storeCache r.state cache
        log := turn.2.1 ++ net.log
        serverNonces := answeredNonce turn ++ net.serverNonces }, turn.2.2)

def addCache (k : ℕ) (capacity : Int) : Network × Reply :=
  match net.caches k, newHandshakeReplayCache capacity with
  | some _, _ => (net, .none)
  | none, .error code => (net, .failed code)
  | none, .ok cache =>
    ({ net with caches := update net.caches k (some cache) }, .none)

def addClient (p : Primitives) (net : Network) (i : ℕ) (config : FirstContactInput)
    (deps : Dependencies) : Network × Reply :=
  match net.clients i, newClientProcessHandshakeV1 p config deps with
  | some _, _ => (net, .none)
  | none, .error code => (net, .failed code)
  | none, .ok state =>
    let authority := ⟨state.config, state.privateKey, state.peerPublic⟩
    ({ net with clients := update net.clients i (some { authority, state }) }, .none)

def addRelay (p : Primitives) (net : Network) (j : ℕ) (config : FirstContactInput)
    (deps : Dependencies) (cache : Option ℕ) : Network × Reply :=
  match net.relays j, newRelayProcessHandshakeV1 p config deps cache with
  | some _, _ => (net, .none)
  | none, .error code => (net, .failed code)
  | none, .ok state =>
    let authority := ⟨state.config, state.privateKey, state.peerPublic⟩
    ({ net with
        relays := update net.relays j (some { authority, cache := state.replay, state }) }, .none)

def step (p : Primitives) (net : Network) : Action → Network × Reply
  | .newCache k capacity => net.addCache k capacity
  | .newClient i config deps => net.addClient p i config deps
  | .newRelay j config deps cache => net.addRelay p j config deps cache
  | .start i draw => net.callClient i (·.start p draw)
  | .acceptServerHello i message => net.callClient i (·.acceptServerHello p message)
  | .acceptServerFinish i message => net.callClient i (·.acceptServerFinish p message)
  | .closeClient i => net.callClient i ClientParty.close
  | .acceptClientHello j message draw => net.greetRelay p j message draw
  | .acceptClientFinish j message => net.callRelay j (·.acceptClientFinish p message)
  | .closeRelay j => net.callRelay j RelayParty.close

/-- The network after a run. -/
def after (p : Primitives) (actions : List Action) : Network :=
  stateAfter (step p) empty actions

end Network

end Kurdistan.Handshake
