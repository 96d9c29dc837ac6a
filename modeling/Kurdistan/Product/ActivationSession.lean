import Kurdistan.Support.Runs
import Kurdistan.Product.Activation

/-!
# Activation sessions

The stepwise activation transaction. The caller owns persistence: it asks for the
next command, performs it and submits the result. The session owns verification,
ordering, recovery decisions and the outcome.
-/

namespace Kurdistan.Product

open Support

inductive ActivationCommandKind where
  | snapshot
  | stageCandidate
  | reopenCandidate
  | markActivation
  | commitMarked
  | finalizeActivation
  | recover
  | quarantine
  deriving DecidableEq

/-- The zero record, in place of one that was never written. -/
def zeroRecord : ActivationRecord where
  artifact := []
  signedObject := []
  profile := {
    contentID := []
    profileID := []
    lineageID := []
    providerID := []
    contractVersion := []
    revocationScope := []
    snapshotMode := .other ""
    updateKind := .other ""
    generation := 0
    requiredSafetyFloor := 0
    validFrom := 0
    validUntil := 0
    rootEpoch := 0
    revocationEpoch := 0
    previousContentID := []
    previousProviderID := []
    relayIDs := []
    strategyIDs := []
    policy := none }
  state := ⟨⟨.other "", [], [], [], 0⟩, ⟨[], [], [], [], 0, 0, 0⟩⟩

/-- A command. Only the command which stages the candidate carries a record. -/
structure ActivationCommand where
  sequence : UInt64
  kind : Choice ActivationCommandKind
  record : ActivationRecord

structure ActivationCommandResult where
  active : ActivationRecord
  lastKnownGood : ActivationRecord
  record : ActivationRecord
  failed : Bool

inductive ActivationSessionPhase where
  | needInitialSnapshot
  | needStage
  | needReopen
  | needMark
  | needCommit
  | needFinalize
  | needRecover
  | needRecoverySnapshot
  | needQuarantine
  | terminal
  deriving DecidableEq

structure ActivationSession where
  request : ActivationRequest
  phase : ActivationSessionPhase
  sequence : UInt64
  outstanding : Bool
  priorActive : ActivationRecord
  priorLastKnownGood : ActivationRecord
  candidate : ActivationRecord
  committedCandidateAllowed : Bool
  record : ActivationRecord
  err : Option ActivationReasonCode

def newActivationSession (request : ActivationRequest) : ActivationSession where
  request := request
  phase := .needInitialSnapshot
  sequence := 1
  outstanding := false
  priorActive := zeroRecord
  priorLastKnownGood := zeroRecord
  candidate := zeroRecord
  committedCandidateAllowed := false
  record := zeroRecord
  err := none

/-- The kind of command which a phase waits for; the terminal phase has none. -/
def ActivationSessionPhase.commandKind : ActivationSessionPhase → Choice ActivationCommandKind
  | .needInitialSnapshot | .needRecoverySnapshot => .known .snapshot
  | .needStage => .known .stageCandidate
  | .needReopen => .known .reopenCandidate
  | .needMark => .known .markActivation
  | .needCommit => .known .commitMarked
  | .needFinalize => .known .finalizeActivation
  | .needRecover => .known .recover
  | .needQuarantine => .known .quarantine
  | .terminal => .other ""

namespace ActivationSession

variable (s : ActivationSession)

/-- The command which `next` hands out in this state. -/
def command : ActivationCommand where
  sequence := s.sequence
  kind := s.phase.commandKind
  record := if s.phase = .needStage then s.candidate else zeroRecord

def next : Option ActivationCommand × ActivationSession :=
  if s.phase = .terminal ∨ s.outstanding then (none, s)
  else (some s.command, { s with outstanding := true })

def finish (record : ActivationRecord)
    (err : Option ActivationReasonCode) : ActivationSession :=
  { s with record := record, err := err, phase := .terminal, outstanding := false }

def beginRecovery (committedCandidateAllowed : Bool) :
    ActivationSession :=
  { s with committedCandidateAllowed := committedCandidateAllowed, phase := .needRecover }

/-- The active record of the provider is the one the request was made for. -/
def currentMatches (active : ActivationRecord) : Bool :=
  if active.state.status = .other "" then Choice.isAbsent s.request.current.status
  else active.state = s.request.current

variable (codec : EnvelopeCodec) (callbacks : Callbacks)

def submitInitialSnapshot (s : ActivationSession) (result : ActivationCommandResult) :
    ActivationSession :=
  if result.failed then s.finish zeroRecord (some .storageFailure)
  else if ¬ s.currentMatches result.active then s.finish zeroRecord (some .policyRejected)
  else
    match verifyActivationCandidate codec callbacks s.request s.request.artifact with
    | .error failure => s.finish zeroRecord (some failure.code)
    | .ok candidate =>
      { s with
        priorActive := result.active
        priorLastKnownGood := result.lastKnownGood
        candidate := candidate
        phase := .needStage }

def submitStage (result : ActivationCommandResult) :
    ActivationSession :=
  if result.failed then s.beginRecovery false else { s with phase := .needReopen }

def submitReopen (s : ActivationSession) (result : ActivationCommandResult) :
    ActivationSession :=
  let reopened := result.record
  if result.failed ∨ reopened.artifact ≠ s.candidate.artifact ∨
      reopened.signedObject ≠ s.candidate.signedObject then s.beginRecovery false
  else
    match verifyActivationCandidate codec callbacks s.request reopened.artifact with
    | .error _ => s.beginRecovery false
    | .ok reverified =>
      if reverified ≠ reopened then s.beginRecovery false
      else { s with candidate := reverified, phase := .needMark }

def submitMark (result : ActivationCommandResult) :
    ActivationSession :=
  if result.failed then s.beginRecovery false else { s with phase := .needCommit }

def submitCommit (result : ActivationCommandResult) :
    ActivationSession :=
  if result.failed then s.beginRecovery true else { s with phase := .needFinalize }

def submitFinalize (result : ActivationCommandResult) :
    ActivationSession :=
  if result.failed then s.beginRecovery true else s.finish s.candidate none

def submitRecover (result : ActivationCommandResult) :
    ActivationSession :=
  if result.failed then { s with phase := .needQuarantine }
  else { s with phase := .needRecoverySnapshot }

def submitRecoverySnapshot (result : ActivationCommandResult) :
    ActivationSession :=
  let restoredPrior := result.active = s.priorActive ∧ result.lastKnownGood = s.priorLastKnownGood
  let committedCandidate := s.committedCandidateAllowed ∧ result.active = s.candidate ∧
    result.lastKnownGood = s.priorActive
  if result.failed ∨ ¬ restoredPrior ∧ ¬ committedCandidate then
    { s with phase := .needQuarantine }
  else s.finish zeroRecord (some .storageFailure)

def submitQuarantine (result : ActivationCommandResult) :
    ActivationSession :=
  s.finish zeroRecord (some (if result.failed then .quarantineFailure else .recoveryFailure))

/-- The answer to the outstanding command moves the session on. -/
def advance (s : ActivationSession) (result : ActivationCommandResult) : ActivationSession :=
  match s.phase with
  | .needInitialSnapshot => s.submitInitialSnapshot codec callbacks result
  | .needStage => s.submitStage result
  | .needReopen => s.submitReopen codec callbacks result
  | .needMark => s.submitMark result
  | .needCommit => s.submitCommit result
  | .needFinalize => s.submitFinalize result
  | .needRecover => s.submitRecover result
  | .needRecoverySnapshot => s.submitRecoverySnapshot result
  | .needQuarantine => s.submitQuarantine result
  | .terminal => s.finish zeroRecord (some .policyRejected)

/-- The submitted command is the outstanding one. -/
def accepts (command : ActivationCommand) : Bool :=
  s.outstanding ∧ s.phase ≠ .terminal ∧ command.sequence = s.sequence ∧
    command.kind = s.phase.commandKind

def submit (s : ActivationSession) (command : ActivationCommand)
    (result : ActivationCommandResult) : Except ActivationReasonCode ActivationSession := do
  ensure (s.accepts command) .policyRejected
  return advance codec callbacks { s with outstanding := false, sequence := s.sequence + 1 } result

def result : Except ActivationReasonCode ActivationRecord := do
  ensure (s.phase = .terminal ∧ ¬ s.outstanding) .policyRejected
  match s.err with
  | some code => .error code
  | none => return s.record

end ActivationSession

/-! ## Runs of a session -/

inductive SessionCall where
  | next
  | submit (command : ActivationCommand) (result : ActivationCommandResult) (callbacks : Callbacks)

/-- An answered command: the command as it was handed out, the provider's answer, and
what the callbacks of the request did while it was processed. -/
structure Turn where
  command : ActivationCommand
  result : ActivationCommandResult
  callbacks : Callbacks

inductive SessionReply where
  | command (value : Option ActivationCommand)
  | accepted (turn : Turn)
  | refused (code : ActivationReasonCode)

def sessionStep (codec : EnvelopeCodec) (s : ActivationSession) :
    SessionCall → ActivationSession × SessionReply
  | .next => (s.next.2, .command s.next.1)
  | .submit command result callbacks =>
    match s.submit codec callbacks command result with
    | .error code => (s, .refused code)
    | .ok after => (after, .accepted ⟨s.command, result, callbacks⟩)

/-- The answered commands of a run. -/
def acceptedTurn : SessionCall → SessionReply → Option Turn
  | _, .accepted turn => some turn
  | _, _ => none

end Kurdistan.Product
