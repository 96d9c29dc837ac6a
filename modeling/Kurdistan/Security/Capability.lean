import Kurdistan.Security.Envelope

/-!
# Authenticated replay capabilities

Authentication hands out a one-shot capability to commit the authenticated
sequence. Capabilities are references: copies share one decision state behind
one mutex. This module models the calls on a codec and its capabilities at
the grain of their critical sections.

* Authentication takes the codec lock for the replay precheck, then the lock of
  the window for the plausibility check, and decrypts without a lock.
* `Commit` holds the capability lock throughout; it decides the capability and
  then takes the codec lock to advance the replay window.
* `Discard` is one critical section.

An interleaving of any number of concurrent calls is a list of these actions.
-/

namespace Kurdistan.Security

open Support

/-- The grant inside a capability; references are addresses. -/
structure AuthenticatedReplayGrantV1 where
  authority : ℕ
  state : ℕ
  codec : ℕ
  owner : ℕ
  slot : UInt16
  sequence : UInt64

/-- The shared decision state of a capability and of all its copies. -/
structure AuthenticatedReplayStateV1 where
  self : ℕ
  codec : ℕ
  owner : ℕ
  slot : UInt16
  sequence : UInt64
  grant : AuthenticatedReplayGrantV1
  decided : Bool

/-- Where an authentication stands between its critical sections. -/
inductive AuthenticateStageV1 where
  | prechecked (handle : ReplayHandleV1)
  | admitted
  | returned

structure AuthenticateCallV1 where
  dst : Option BorrowedDestinationV1
  record : EnvelopeRecordV1
  recordAAD : List UInt8
  expected : FixedBytes 12
  stage : AuthenticateStageV1

/-- A codec with everything that refers to it: the addresses of the codec, of
its shared state and of its replay authority, the capabilities it has handed
out (a capability is a position in this list), the authentications in flight,
and the capabilities whose lock is held by a `Commit`. -/
structure EnvelopeWorldV1 where
  codec : EnvelopeCodecV1
  codecAddress : ℕ
  ownerAddress : ℕ
  authorityAddress : ℕ
  capabilities : List AuthenticatedReplayStateV1
  authenticating : List AuthenticateCallV1
  committing : Finset ℕ

/-- A codec nobody has used yet. -/
def EnvelopeWorldV1.init (codec : EnvelopeCodecV1) : EnvelopeWorldV1 where
  codec := codec
  codecAddress := 1
  ownerAddress := 2
  authorityAddress := 3
  capabilities := []
  authenticating := []
  committing := ∅

namespace EnvelopeWorldV1

/-! ## Capabilities -/

variable (w : EnvelopeWorldV1)

/-- The state a new capability at `address` refers to. -/
def newAuthenticatedReplayV1 (address : ℕ)
    (slot : UInt16) (sequence : UInt64) : AuthenticatedReplayStateV1 where
  self := address
  codec := w.codecAddress
  owner := w.ownerAddress
  slot := slot
  sequence := sequence
  grant := {
    authority := w.authorityAddress
    state := address
    codec := w.codecAddress
    owner := w.ownerAddress
    slot := slot
    sequence := sequence }
  decided := false

/-- The consistency checks on a capability state found at `address`. -/
def validLockedV1 (address : ℕ) (state : AuthenticatedReplayStateV1) : Bool :=
  state.self == address && state.codec == w.codecAddress && state.owner == w.ownerAddress &&
    state.grant.authority == w.authorityAddress &&
    state.grant.state == address && state.grant.codec == state.codec &&
    state.grant.owner == state.owner && state.grant.slot == state.slot &&
    state.grant.sequence == state.sequence

/-- Set the decision flag of a capability. -/
def markDecided (address : ℕ)
    (state : AuthenticatedReplayStateV1) : EnvelopeWorldV1 :=
  { w with
    capabilities := w.capabilities.set address { state with decided := true } }

end EnvelopeWorldV1

/-! ## Actions -/

/-- The critical sections of the concurrent calls. -/
inductive EnvelopeActionV1 where
  | beginAuthenticate (dst : Option BorrowedDestinationV1)
      (recordClass : NonceRecordClassV1) (record : EnvelopeRecordV1) (recordAAD : List UInt8)
  | checkSequence (call : ℕ)
  | finishAuthenticate (call : ℕ)
  | beginCommit (capability : Option ℕ)
  | finishCommit (capability : ℕ)
  | discard (capability : Option ℕ)

/-- A successful commit, as the replay state sees it. -/
structure CommittedRecordV1 where
  replayKey : UInt16
  epoch : UInt64
  sequence : UInt64

/-- What an action returns to its caller. `pending` is an action after which
the call goes on, or one whose lock is taken. -/
inductive EnvelopeReplyV1 where
  | pending
  | failed (err : SecurityError)
  | authenticated (plaintext : List UInt8) (capability : ℕ)
  | committed (record : CommittedRecordV1)
  | discarded

namespace EnvelopeWorldV1

variable (w : EnvelopeWorldV1)

/-- The operand checks and the replay precheck under the codec lock. -/
def beginAuthenticate
    (dst : Option BorrowedDestinationV1) (recordClass : NonceRecordClassV1)
    (record : EnvelopeRecordV1) (recordAAD : List UInt8) :
    EnvelopeWorldV1 × EnvelopeReplyV1 :=
  match w.codec.authenticateChecksV1 dst recordClass record with
  | .error err => (w, .failed err)
  | .ok expected =>
    match w.codec.replayPrecheckV1 record.slot with
    | .error err => (w, .failed err)
    | .ok handle =>
      let call : AuthenticateCallV1 :=
        { dst, record, recordAAD, expected, stage := .prechecked handle }
      ({ w with authenticating := w.authenticating ++ [call] }, .pending)

/-- Move an authentication to its next stage. -/
def setStage (index : ℕ) (call : AuthenticateCallV1)
    (stage : AuthenticateStageV1) : EnvelopeWorldV1 :=
  { w with authenticating := w.authenticating.set index { call with stage } }

/-- The plausibility check under the lock of the window. -/
def checkSequence (index : ℕ) : EnvelopeWorldV1 × EnvelopeReplyV1 :=
  match w.authenticating[index]? with
  | none => (w, .pending)
  | some call =>
    match call.stage with
    | .prechecked handle =>
      match w.codec.handlePlausibleV1 handle call.record.sequence with
      | .error err => (w.setStage index call .returned, .failed err)
      | .ok () => (w.setStage index call .admitted, .pending)
    | _ => (w, .pending)

/-- Decryption, and on success a new capability. -/
def finishAuthenticate (aead : AEAD) (w : EnvelopeWorldV1) (index : ℕ) :
    EnvelopeWorldV1 × EnvelopeReplyV1 :=
  match w.authenticating[index]? with
  | none => (w, .pending)
  | some call =>
    match call.stage with
    | .admitted =>
      let returned := w.setStage index call .returned
      match w.codec.openRecordV1 aead call.dst call.record call.recordAAD call.expected with
      | .error err => (returned, .failed err)
      | .ok plaintext =>
        let address := w.capabilities.length
        let state := w.newAuthenticatedReplayV1 address call.record.slot call.record.sequence
        ({ returned with capabilities := w.capabilities ++ [state] },
          .authenticated plaintext address)
    | _ => (w, .pending)

/-- The first half of `Commit`: take the capability lock and decide. -/
def beginCommit (capability : Option ℕ) : EnvelopeWorldV1 × EnvelopeReplyV1 :=
  match capability with
  | none => (w, .failed .replayDuplicate)
  | some address =>
    if address ∈ w.committing then (w, .pending)
    else
      match w.capabilities[address]? with
      | none => (w, .pending)
      | some state =>
        if !w.validLockedV1 address state || state.decided then
          (w, .failed .replayDuplicate)
        else
          ({ w.markDecided address state with
            committing := insert address w.committing }, .pending)

/-- The second half of `Commit`: advance the replay window under the codec
lock and release the capability lock. -/
def finishCommit (address : ℕ) : EnvelopeWorldV1 × EnvelopeReplyV1 :=
  if address ∈ w.committing then
    match w.capabilities[address]? with
    | none => (w, .pending)
    | some state =>
      let committed := w.codec.commitReplayV1 state.slot state.sequence
      let released := { w with
        codec := committed.1, committing := w.committing.erase address }
      match committed.2 with
      | .error err => (released, .failed err)
      | .ok () =>
        (released, .committed {
          replayKey := w.codec.replayKeyV1 state.slot
          epoch := w.codec.epoch
          sequence := state.sequence })
  else (w, .pending)

def discard (capability : Option ℕ) : EnvelopeWorldV1 × EnvelopeReplyV1 :=
  match capability with
  | none => (w, .failed .replayDuplicate)
  | some address =>
    if address ∈ w.committing then (w, .pending)
    else
      match w.capabilities[address]? with
      | none => (w, .pending)
      | some state =>
        if !w.validLockedV1 address state || state.decided then
          (w, .failed .replayDuplicate)
        else (w.markDecided address state, .discarded)

/-- One action of an interleaving. -/
def step (aead : AEAD) (w : EnvelopeWorldV1) :
    EnvelopeActionV1 → EnvelopeWorldV1 × EnvelopeReplyV1
  | .beginAuthenticate dst recordClass record recordAAD =>
    w.beginAuthenticate dst recordClass record recordAAD
  | .checkSequence call => w.checkSequence call
  | .finishAuthenticate call => w.finishAuthenticate aead call
  | .beginCommit capability => w.beginCommit capability
  | .finishCommit capability => w.finishCommit capability
  | .discard capability => w.discard capability

/-! ## Calls that are not interrupted -/

/-- Authentication from start to end. -/
def authenticate (aead : AEAD) (w : EnvelopeWorldV1)
    (dst : Option BorrowedDestinationV1) (recordClass : NonceRecordClassV1)
    (record : EnvelopeRecordV1) (recordAAD : List UInt8) :
    EnvelopeWorldV1 × Except SecurityError (List UInt8 × ℕ) :=
  match w.codec.authenticateDestinationV1 aead dst recordClass record recordAAD with
  | .error err => (w, .error err)
  | .ok plaintext =>
    let address := w.capabilities.length
    let state := w.newAuthenticatedReplayV1 address record.slot record.sequence
    ({ w with capabilities := w.capabilities ++ [state] }, .ok (plaintext, address))

/-- `Commit` from start to end. -/
def commit (address : ℕ) : EnvelopeWorldV1 × Except SecurityError Unit :=
  match w.capabilities[address]? with
  | none => (w, .error .replayDuplicate)
  | some state =>
    if !w.validLockedV1 address state || state.decided then
      (w, .error .replayDuplicate)
    else
      let committed := w.codec.commitReplayV1 state.slot state.sequence
      ({ w.markDecided address state with codec := committed.1 }, committed.2)

end EnvelopeWorldV1

end Kurdistan.Security
