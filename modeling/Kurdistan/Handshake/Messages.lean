import Kurdistan.Handshake.Parameters

/-!
# Handshake messages

The four messages of the handshake: how each is made, parsed and checked. A
message is a body with its length in front. The two hello bodies are a list of
fields followed by a signature; the two finish bodies differ only in their kind
and domains and share one definition.
-/

namespace Kurdistan.Handshake

open Support Security

def handshakeVersion : UInt16 := 1

def clientHelloType : UInt16 := 1

def serverHelloType : UInt16 := 2

def clientFinishType : UInt16 := 3

def serverFinishType : UInt16 := 4

/-- `ed25519.SignatureSize`. -/
def signatureSize : ℕ := 64

/-! ## Outer encoding and field readers -/

def encodeOuter (body : List UInt8) : List UInt8 := lengthPrefixed body

variable (message : List UInt8)

def decodeOuter : Except FailureCode (List UInt8) := do
  ensure (4 ≤ message.length) .invalidEncoding
  let length := (getUint32 message).toNat
  ensure (length ≤ maxHandshakeBody ∧ length = message.length - 4) .invalidEncoding
  return message.drop 4

/-- Turn a missing value into an encoding failure. -/
def readOrFail {α : Type} : Option α → Except FailureCode α
  | some value => .ok value
  | none => .error .invalidEncoding

def readHeader (r : List UInt8) : Except FailureCode ((UInt16 × UInt16) × List UInt8) := do
  let (raw, rest) ← readOrFail (readExactly 4 r)
  return ((getUint16 raw, getUint16 (raw.drop 2)), rest)

def readLP (r : List UInt8) : Except FailureCode (List UInt8 × List UInt8) :=
  readOrFail (readPrefixed maxHandshakeBody r)

/-- A byte an identity text may contain. -/
def printable (byte : UInt8) : Bool := 0x20 ≤ byte ∧ byte ≤ 0x7e

def readLPString (r : List UInt8) : Except FailureCode (List UInt8 × List UInt8) := do
  let (raw, rest) ← readLP r
  ensure (raw ≠ []) .invalidEncoding
  ensure (raw.all printable = true) .invalidEncoding
  return (raw, rest)

def readFixed (n : ℕ) (r : List UInt8) : Except FailureCode (FixedBytes n × List UInt8) := do
  let (raw, rest) ← readOrFail (readExactly n r)
  return (fixedBytes n raw, rest)

/-! ## Policy blocks -/

variable (p : Primitives)

def encodePolicyOffer (policy : SealedPolicy) (capabilities : List String) :
    Except WrappedError (List UInt8) := do
  let policyRaw ← encodePolicyV1 p policy
  let capabilitiesRaw ← encodeStringListV1 capabilities
  return writeLP policyRaw ++ writeLP capabilitiesRaw

def encodeMandatoryFloor (policy : SealedPolicy)
    (capabilities : List String) : Except WrappedError (List UInt8) :=
  encodePolicyOffer p policy capabilities

def floorHash (floor : List UInt8) : FixedBytes 32 :=
  protocolHash p "kurdistan/policy/v1/floor" [floor]

def encodeSelectedPolicy (policy : SealedPolicy) (capabilities : List String)
    (clientFloor serverFloor : List UInt8) : Except WrappedError (List UInt8) := do
  let policyRaw ← encodePolicyV1 p policy
  let capabilitiesRaw ← encodeStringListV1 capabilities
  return writeLP policyRaw ++ writeLP capabilitiesRaw ++
    (floorHash p clientFloor).toList ++ (floorHash p serverFloor).toList

/-- The bytes of an encoding whose error is dropped. -/
def orNil {ε : Type} : Except ε (List UInt8) → List UInt8
  | .ok bytes => bytes
  | .error _ => []

/-! ## Client hello -/

structure ClientHelloFields where
  identityID : List UInt8
  profileID : List UInt8
  profileHash : FixedBytes 32
  securityVersion : List UInt8
  ephemeral : FixedBytes 32
  nonce : FixedBytes 32
  offer : List UInt8
  floor : List UInt8

/-- The part of a client hello which is signed. -/
def ClientHelloFields.unsigned (f : ClientHelloFields) : List UInt8 :=
  putUint16 handshakeVersion ++ putUint16 clientHelloType ++ writeLP f.identityID ++
    writeLP f.profileID ++ f.profileHash.toList ++ writeLP f.securityVersion ++
    f.ephemeral.toList ++ f.nonce.toList ++ writeLP f.offer ++ writeLP f.floor

structure ClientHello extends ClientHelloFields where
  unsigned : List UInt8
  signed : List UInt8
  signature : List UInt8

/-- What a client hello signature signs. -/
def clientHelloSigned (unsigned : List UInt8) : List (List UInt8) :=
  [asciiBytes "kurdistan/handshake/v1/client-hello-signature", unsigned]

def makeClientHello (peer : PeerParameters) (privateKey : List UInt8)
    (ephemeral nonce : FixedBytes 32) : Except FailureCode (List UInt8 × List UInt8) := do
  let offer ← orFail .policyMismatch (encodePolicyOffer p peer.offerPolicy peer.offeredCapabilities)
  let floor ← orFail .policyFloorRejected
    (encodeMandatoryFloor p peer.floorPolicy peer.requiredCapabilities)
  let fields : ClientHelloFields :=
    { identityID := peer.identityID, profileID := utf8Bytes peer.profileID,
      profileHash := peer.profileHash,
      securityVersion := utf8Bytes peer.offerPolicy.securityVersion,
      ephemeral, nonce, offer, floor }
  let digest := p.hash (framed (clientHelloSigned fields.unsigned))
  let signed := fields.unsigned ++ (p.sign privateKey digest.toList).toList
  return (encodeOuter signed, signed)

def parseClientHello :
    Except FailureCode (ClientHello × List UInt8) := do
  let body ← decodeOuter message
  let ((version, kind), r) ← readHeader body
  ensure (version = handshakeVersion) .unsupportedVersion
  ensure (kind = clientHelloType) .outOfOrder
  let (identityID, r) ← readLPString r
  let (profileID, r) ← readLPString r
  let (profileHash, r) ← readFixed 32 r
  let (securityVersion, r) ← readLPString r
  let (ephemeral, r) ← readFixed 32 r
  let (nonce, r) ← readFixed 32 r
  let (offer, r) ← readLP r
  let (floor, r) ← readLP r
  ensure (r.length = signatureSize) .invalidEncoding
  return ({ identityID, profileID, profileHash, securityVersion, ephemeral, nonce, offer,
            floor, unsigned := body.take (body.length - signatureSize), signed := body,
            signature := r }, body)

def authenticateClientHello (message : ClientHello)
    (expectedIdentity trusted : List UInt8) : Except FailureCode Unit := do
  ensure (message.identityID = expectedIdentity) .unknownIdentity
  ensure (isZero32 message.ephemeral = false) .ephemeralInvalid
  let digest := p.hash (framed (clientHelloSigned message.unsigned))
  ensure (p.verify trusted digest.toList message.signature = true) .signatureInvalid

def validateClientHelloSemantics (message : ClientHello)
    (expected : PeerParameters) : Except FailureCode Unit := do
  ensure (message.profileID = utf8Bytes expected.profileID ∧
    message.profileHash = expected.profileHash ∧
    message.securityVersion = utf8Bytes expected.offerPolicy.securityVersion) .profileMismatch
  let wantOffer := orNil (encodePolicyOffer p expected.offerPolicy expected.offeredCapabilities)
  let wantFloor := orNil (encodeMandatoryFloor p expected.floorPolicy expected.requiredCapabilities)
  ensure (message.offer = wantOffer) .policyMismatch
  ensure (message.floor = wantFloor) .policyFloorRejected

/-- The key under which a client hello is recorded. -/
def replayKey (message : ClientHello) : FixedBytes 32 :=
  protocolHash p "kurdistan/handshake/v1/replay-key"
    [message.identityID, message.nonce.toList, message.ephemeral.toList, message.profileHash.toList]

/-! ## Server hello -/

structure ServerHelloFields where
  clientHelloHash : FixedBytes 32
  identityID : List UInt8
  ephemeral : FixedBytes 32
  nonce : FixedBytes 32
  offer : List UInt8
  floor : List UInt8
  selected : List UInt8

def ServerHelloFields.unsigned (f : ServerHelloFields) : List UInt8 :=
  putUint16 handshakeVersion ++ putUint16 serverHelloType ++ f.clientHelloHash.toList ++
    writeLP f.identityID ++ f.ephemeral.toList ++ f.nonce.toList ++ writeLP f.offer ++
    writeLP f.floor ++ writeLP f.selected

structure ServerHello extends ServerHelloFields where
  unsigned : List UInt8
  signed : List UInt8
  signature : List UInt8

/-- What a server hello signature signs. -/
def serverHelloSigned (clientSigned unsigned : List UInt8) : List (List UInt8) :=
  [asciiBytes "kurdistan/handshake/v1/server-hello-signature", clientSigned, unsigned]

def hashClientHello (clientSigned : List UInt8) : FixedBytes 32 :=
  protocolHash p "kurdistan/handshake/v1/client-hello-hash" [clientSigned]

def makeServerHello (input : FirstContactInput) (privateKey : List UInt8)
    (clientSigned : List UInt8) (ephemeral nonce : FixedBytes 32) :
    Except FailureCode (List UInt8 × List UInt8) := do
  let offer ← orFail .policyMismatch
    (encodePolicyOffer p input.server.offerPolicy input.server.offeredCapabilities)
  let floor ← orFail .policyFloorRejected
    (encodeMandatoryFloor p input.server.floorPolicy input.server.requiredCapabilities)
  let clientFloor :=
    orNil (encodeMandatoryFloor p input.client.floorPolicy input.client.requiredCapabilities)
  let selected ← orFail .policyMismatch
    (encodeSelectedPolicy p input.selectedPolicy input.selectedCapabilities clientFloor floor)
  let fields : ServerHelloFields :=
    { clientHelloHash := hashClientHello p clientSigned,
      identityID := input.server.identityID, ephemeral, nonce, offer, floor, selected }
  let digest := p.hash (framed (serverHelloSigned clientSigned fields.unsigned))
  let signed := fields.unsigned ++ (p.sign privateKey digest.toList).toList
  return (encodeOuter signed, signed)

def parseServerHello :
    Except FailureCode (ServerHello × List UInt8) := do
  let body ← decodeOuter message
  let ((version, kind), r) ← readHeader body
  ensure (version = handshakeVersion) .unsupportedVersion
  ensure (kind = serverHelloType) .outOfOrder
  let (clientHelloHash, r) ← readFixed 32 r
  let (identityID, r) ← readLPString r
  let (ephemeral, r) ← readFixed 32 r
  let (nonce, r) ← readFixed 32 r
  let (offer, r) ← readLP r
  let (floor, r) ← readLP r
  let (selected, r) ← readLP r
  ensure (r.length = signatureSize) .invalidEncoding
  return ({ clientHelloHash, identityID, ephemeral, nonce, offer, floor, selected,
            unsigned := body.take (body.length - signatureSize), signed := body,
            signature := r }, body)

/-- The selected block a client expects of its configuration. -/
def wantSelected (input : FirstContactInput) : List UInt8 :=
  orNil (encodeSelectedPolicy p input.selectedPolicy input.selectedCapabilities
    (orNil (encodeMandatoryFloor p input.client.floorPolicy input.client.requiredCapabilities))
    (orNil (encodeMandatoryFloor p input.server.floorPolicy input.server.requiredCapabilities)))

def validateServerHello (message : ServerHello) (input : FirstContactInput)
    (trusted clientSigned : List UInt8) : Except FailureCode Unit := do
  ensure (message.clientHelloHash = hashClientHello p clientSigned ∧
    message.identityID = input.server.identityID) .profileMismatch
  let wantOffer :=
    orNil (encodePolicyOffer p input.server.offerPolicy input.server.offeredCapabilities)
  let wantFloor :=
    orNil (encodeMandatoryFloor p input.server.floorPolicy input.server.requiredCapabilities)
  ensure (message.offer = wantOffer ∧ message.selected = wantSelected p input) .policyMismatch
  ensure (message.floor = wantFloor) .policyFloorRejected
  ensure (isZero32 message.ephemeral = false) .ephemeralInvalid
  let digest := p.hash (framed (serverHelloSigned clientSigned message.unsigned))
  ensure (p.verify trusted digest.toList message.signature = true) .signatureInvalid

/-! ## Finish messages -/

/-- What sets the two finish messages apart. -/
structure FinishDomain where
  kind : UInt16
  signatureDomain : String
  confirmationDomain : String

def clientFinish : FinishDomain where
  kind := clientFinishType
  signatureDomain := "kurdistan/handshake/v1/client-finish-signature"
  confirmationDomain := "kurdistan/handshake/v1/client-key-confirm"

def serverFinish : FinishDomain where
  kind := serverFinishType
  signatureDomain := "kurdistan/handshake/v1/server-finish-signature"
  confirmationDomain := "kurdistan/handshake/v1/server-key-confirm"

def confirm (key : List UInt8) (domain : String)
    (transcript : FixedBytes 32) : FixedBytes 32 :=
  p.hmac key (writeLP (asciiBytes domain) ++ transcript.toList)

/-- The part of a finish body which is signed. -/
def FinishDomain.unsigned (d : FinishDomain) (transcript : FixedBytes 32) : List UInt8 :=
  putUint16 handshakeVersion ++ putUint16 d.kind ++ transcript.toList

/-- What a finish signature signs. -/
def FinishDomain.signed (d : FinishDomain) (unsigned : List UInt8) : List (List UInt8) :=
  [asciiBytes d.signatureDomain, unsigned]

def FinishDomain.digest (d : FinishDomain) (unsigned : List UInt8) :
    FixedBytes 32 :=
  p.hash (framed (d.signed unsigned))

/-- A finish body: transcript, signature, key confirmation. -/
def finishBody (d : FinishDomain) (confirmKey : List UInt8)
    (transcript : FixedBytes 32) (signature : List UInt8) : List UInt8 :=
  d.unsigned transcript ++ signature ++
    (confirm p confirmKey d.confirmationDomain transcript).toList

def makeFinish (d : FinishDomain) (privateKey confirmKey : List UInt8)
    (transcript : FixedBytes 32) : List UInt8 × List UInt8 :=
  let signature := p.sign privateKey (d.digest p (d.unsigned transcript)).toList
  let full := finishBody p d confirmKey transcript signature.toList
  (encodeOuter full, full)

def makeClientFinish (privateKey confirmKey : List UInt8)
    (th2 : FixedBytes 32) : List UInt8 × List UInt8 :=
  makeFinish p clientFinish privateKey confirmKey th2

def makeServerFinish (privateKey confirmKey : List UInt8)
    (th3 : FixedBytes 32) : List UInt8 × List UInt8 :=
  makeFinish p serverFinish privateKey confirmKey th3

def validateFinish (d : FinishDomain) (message trusted confirmKey : List UInt8)
    (transcript : FixedBytes 32) : Except FailureCode (List UInt8) := do
  let body ← decodeOuter message
  ensure (body.length = 2 + 2 + 32 + signatureSize + 32) .invalidEncoding
  ensure (getUint16 (body.take 2) = handshakeVersion) .unsupportedVersion
  ensure (getUint16 ((body.take 4).drop 2) = d.kind) .outOfOrder
  ensure ((body.take 36).drop 4 = transcript.toList) .keyConfirmation
  let digest := d.digest p (body.take 36)
  ensure (p.verify trusted digest.toList ((body.take 100).drop 36) = true) .signatureInvalid
  let want := confirm p confirmKey d.confirmationDomain transcript
  ensure (body.drop 100 = want.toList) .keyConfirmation
  return body

def validateClientFinish (message trusted confirmKey : List UInt8)
    (th2 : FixedBytes 32) : Except FailureCode (List UInt8) :=
  validateFinish p clientFinish message trusted confirmKey th2

def validateServerFinish (message trusted confirmKey : List UInt8)
    (th3 : FixedBytes 32) : Except FailureCode (List UInt8) :=
  validateFinish p serverFinish message trusted confirmKey th3

/-! ## Key agreement -/

structure ConfirmationKeys where
  client : List UInt8
  server : List UInt8
  prk : List UInt8

def keyInfo (label : String) (transcript : FixedBytes 32) (epoch : UInt64) : List UInt8 :=
  writeLP (asciiBytes label) ++ transcript.toList ++ putUint64 epoch

/-- Turn a missing key into a key agreement failure. -/
def keyOrFail {α : Type} : Option α → Except FailureCode α
  | some value => .ok value
  | none => .error .keyAgreement

def confirmationKeys (dh : List UInt8)
    (profileHash clientNonce serverNonce clientPublic serverPublic th2 : FixedBytes 32) :
    Except FailureCode ConfirmationKeys := do
  let salt := protocolHash p "kurdistan/hkdf/v1/handshake-salt"
    [profileHash.toList, clientNonce.toList, serverNonce.toList, clientPublic.toList,
      serverPublic.toList]
  let prk ← keyOrFail (p.hkdfExtract dh salt.toList)
  let client ← keyOrFail (p.hkdfExpand prk (keyInfo "kurdistan/hkdf/v1/client-confirm" th2 0) 32)
  let server ← keyOrFail (p.hkdfExpand prk (keyInfo "kurdistan/hkdf/v1/server-confirm" th2 0) 32)
  return { client, server, prk }

def sharedSecret (scalar peer : FixedBytes 32) :
    Except FailureCode (List UInt8) := do
  let secret := p.x25519 scalar peer
  ensure (isZero32 secret = false) .keyAgreement
  return secret.toList

/-- The X25519 base point. -/
def basePoint : FixedBytes 32 := fixedBytes 32 [9]

def ephemeralPublic (scalar : FixedBytes 32) : FixedBytes 32 :=
  p.x25519 scalar basePoint

/-! ## Transcripts -/

def helloTranscript (clientBody serverBody : List UInt8) : List (List UInt8) :=
  [asciiBytes "kurdistan/handshake/v1/transcript-hello", clientBody, serverBody]

def finishTranscript (clientBody serverBody clientFinish : List UInt8) : List (List UInt8) :=
  [asciiBytes "kurdistan/handshake/v1/transcript-client-finish", clientBody, serverBody,
    clientFinish]

def finalTranscript (clientBody serverBody clientFinish serverFinish : List UInt8) :
    List (List UInt8) :=
  [asciiBytes "kurdistan/handshake/v1/transcript-final", clientBody, serverBody, clientFinish,
    serverFinish]

def transcriptHash (parts : List (List UInt8)) : FixedBytes 32 :=
  p.hash (framed parts)

/-- The channel secret of a completed handshake. -/
def channelSecret (prk : List UInt8) (th4 profileHash : FixedBytes 32) :
    Except FailureCode (List UInt8) :=
  keyOrFail (p.hkdfExtract prk (protocolHash p "kurdistan/hkdf/v1/application-salt"
    [th4.toList, profileHash.toList]).toList)

end Kurdistan.Handshake
