import Kurdistan.Product.ActivationSession
import Kurdistan.Product.Candidate

/-!
# Safety of activation transactions

A session is compared with the log of its answered commands. `SessionSound` says which
logs lead to each phase: an activation goes forward through six commands, and an answer
which breaks it off after staging starts a recovery. The provider and the callbacks of
the request may answer differently in every call.
-/

namespace Kurdistan.Product

open Support ActivationSession List

/-! ## Logs -/

/-- The commands of an activation which nothing breaks off. -/
def forwardCommands : List ActivationCommandKind :=
  [.snapshot, .stageCandidate, .reopenCandidate, .markActivation, .commitMarked,
    .finalizeActivation]

/-- The commands of a log. -/
def kinds (log : List Turn) : List (Choice ActivationCommandKind) :=
  log.map fun turn => turn.command.kind

@[simp] theorem kinds_concat (log : List Turn) (turn : Turn) :
    kinds (log ++ [turn]) = kinds log ++ [turn.command.kind] := by
  simp [kinds]

@[simp] theorem length_kinds (log : List Turn) : (kinds log).length = log.length := by
  simp [kinds]

/-- The answer to a command which takes the activation of `record` forward. -/
structure Carried (codec : EnvelopeCodec) (request : ActivationRequest)
    (record : ActivationRecord) (turn : Turn) : Prop where
  answered : turn.result.failed = false
  verified : turn.command.kind = .known .snapshot →
    verifyActivationCandidate codec turn.callbacks request request.artifact = .ok record
  staged : turn.command.kind = .known .stageCandidate → turn.command.record = record
  reopened : turn.command.kind = .known .reopenCandidate → turn.result.record = record
  reverified : turn.command.kind = .known .reopenCandidate →
    verifyActivationCandidate codec turn.callbacks request turn.result.record.artifact = .ok record

/-- The recovery after a broken-off activation found the records which were there before
it or, when the commit had been attempted, the committed candidate. -/
def RecoveredTo (codec : EnvelopeCodec) (request : ActivationRequest) (log : List Turn) :
    Prop :=
  ∃ initial before recovery snapshot record,
    log = initial :: before ++ [recovery, snapshot] ∧
    verifyActivationCandidate codec initial.callbacks request request.artifact = .ok record ∧
    recovery.command.kind = .known .recover ∧ recovery.result.failed = false ∧
    snapshot.command.kind = .known .snapshot ∧ snapshot.result.failed = false ∧
    ((snapshot.result.active = initial.result.active ∧
        snapshot.result.lastKnownGood = initial.result.lastKnownGood) ∨
      (.known .commitMarked ∈ kinds before ∧ snapshot.result.active = record ∧
        snapshot.result.lastKnownGood = initial.result.active))

/-- The recovery failed, or it found other records. -/
def RecoveryFailed (codec : EnvelopeCodec) (request : ActivationRequest) (log : List Turn) :
    Prop :=
  ∃ before recovery, recovery.command.kind = .known .recover ∧
    ((log = before ++ [recovery] ∧ recovery.result.failed = true) ∨
      ∃ snapshot, log = before ++ [recovery, snapshot] ∧
        snapshot.command.kind = .known .snapshot ∧ ¬ RecoveredTo codec request log)

/-- The last command was to quarantine the installation. -/
def Quarantined (log : List Turn) : Prop :=
  (kinds log).getLast? = some (.known .quarantine)

/-! ## Sessions and logs -/

/-- What a session knows about its candidate and about the records before it. -/
structure Known where
  request : ActivationRequest
  priorActive : ActivationRecord
  priorLastKnownGood : ActivationRecord
  candidate : ActivationRecord

def ActivationSession.known (s : ActivationSession) : Known :=
  ⟨s.request, s.priorActive, s.priorLastKnownGood, s.candidate⟩

section Sound

variable (codec : EnvelopeCodec)

/-- The log starts with the snapshot which the session remembers. -/
def FromPrior (known : Known) (log : List Turn) : Prop :=
  ∃ initial rest, log = initial :: rest ∧ initial.result.active = known.priorActive ∧
    initial.result.lastKnownGood = known.priorLastKnownGood ∧
    verifyActivationCandidate codec initial.callbacks known.request known.request.artifact =
      .ok known.candidate

/-- The first `count` commands have been answered, and each answer carried the candidate
forward. -/
structure Advanced (known : Known) (count : ℕ) (log : List Turn) : Prop where
  commands : kinds log = (forwardCommands.take count).map .known
  carried : ∀ turn ∈ log, Carried codec known.request known.candidate turn
  prior : FromPrior codec known log

/-- An answer after staging broke the activation off. -/
structure BrokenOff (known : Known) (attempted : Bool) (log : List Turn) : Prop where
  commands : ∃ count, 2 ≤ count ∧ count ≤ 6 ∧ kinds log = (forwardCommands.take count).map .known
  prior : FromPrior codec known log
  commit : attempted = true ↔ .known .commitMarked ∈ kinds log

/-- The recovery command was answered. -/
def Recovering (known : Known) (attempted : Bool) (log : List Turn) : Prop :=
  ∃ before recovery, log = before ++ [recovery] ∧ BrokenOff codec known attempted before ∧
    recovery.command.kind = .known .recover ∧ recovery.result.failed = false

/-- What the log says about the outcome of a session. -/
inductive Ended (known : Known) (record : ActivationRecord)
    (err : Option ActivationReasonCode) (log : List Turn) : Prop where
  | activated (advanced : Advanced codec known 6 log) (candidate : record = known.candidate)
      (success : err = none)
  | rejected (commands : kinds log = [.known .snapshot]) (failure : err ≠ none)
  | recovered (recovery : RecoveredTo codec known.request log) (length : log.length ≤ 9)
      (failure : err = some .storageFailure)
  | quarantined (last : Quarantined log) (length : log.length ≤ 9)
      (failure : err = some .recoveryFailure ∨ err = some .quarantineFailure)

/-- The log which the phase of a session stands for. -/
def PhaseSound (s : ActivationSession) (log : List Turn) : Prop :=
  match s.phase with
  | .needInitialSnapshot => log = []
  | .needStage => Advanced codec s.known 1 log
  | .needReopen => Advanced codec s.known 2 log
  | .needMark => Advanced codec s.known 3 log
  | .needCommit => Advanced codec s.known 4 log
  | .needFinalize => Advanced codec s.known 5 log
  | .needRecover => BrokenOff codec s.known s.committedCandidateAllowed log
  | .needRecoverySnapshot => Recovering codec s.known s.committedCandidateAllowed log
  | .needQuarantine => log.length ≤ 8
  | .terminal => Ended codec s.known s.record s.err log

structure SessionSound (request : ActivationRequest) (s : ActivationSession)
    (log : List Turn) : Prop where
  request : s.request = request
  idle : s.phase = .terminal → s.outstanding = false
  phase : PhaseSound codec s log

end Sound

variable {codec : EnvelopeCodec} {known : Known} {log : List Turn} {turn : Turn}

theorem FromPrior.concat (h : FromPrior codec known log) (turn : Turn) :
    FromPrior codec known (log ++ [turn]) := by
  obtain ⟨initial, rest, rfl, hprior⟩ := h
  exact ⟨initial, rest ++ [turn], rfl, hprior⟩

variable {count : ℕ}

theorem kinds_forward_concat {kind : ActivationCommandKind}
    (hlog : kinds log = (forwardCommands.take count).map .known)
    (hkind : forwardCommands[count]? = some kind) (hturn : turn.command.kind = .known kind) :
    kinds (log ++ [turn]) = (forwardCommands.take (count + 1)).map .known := by
  rw [kinds_concat, hlog, hturn, take_add_one, hkind]
  simp

theorem Advanced.concat (h : Advanced codec known count log) (kind : ActivationCommandKind)
    (hkind : forwardCommands[count]? = some kind) (hturn : turn.command.kind = .known kind)
    (hcarried : Carried codec known.request known.candidate turn) :
    Advanced codec known (count + 1) (log ++ [turn]) where
  commands := kinds_forward_concat h.commands hkind hturn
  carried := by
    intro other hother
    rcases mem_append.mp hother with hold | hnew
    · exact h.carried other hold
    · rw [mem_singleton.mp hnew]
      exact hcarried
  prior := h.prior.concat turn

/-- A commit has been attempted once the fifth command was answered. -/
theorem commit_mem_forward (hcount : count ≤ 6) :
    .known .commitMarked ∈ (forwardCommands.take count).map (Choice.known) ↔ 5 ≤ count := by
  have hall : ∀ count < 7, .known .commitMarked ∈
      (forwardCommands.take count).map (Choice.known) ↔ 5 ≤ count := by decide
  exact hall count (by omega)

/-- Any other answer after the first snapshot breaks the activation off. -/
theorem Advanced.breakOff (h : Advanced codec known count log) (kind : ActivationCommandKind)
    (hkind : forwardCommands[count]? = some kind) (hturn : turn.command.kind = .known kind)
    (hcount : 1 ≤ count ∧ count ≤ 5) :
    BrokenOff codec known (decide (4 ≤ count)) (log ++ [turn]) where
  commands := ⟨count + 1, by omega, by omega, kinds_forward_concat h.commands hkind hturn⟩
  prior := h.prior.concat turn
  commit := by
    rw [kinds_forward_concat h.commands hkind hturn, commit_mem_forward (by omega),
      decide_eq_true_iff]
    omega

theorem BrokenOff.length_le {attempted : Bool} (h : BrokenOff codec known attempted log) :
    log.length ≤ 6 := by
  obtain ⟨count, -, hcount, hkinds⟩ := h.commands
  rw [← length_kinds, hkinds, length_map, length_take]
  omega

/-! ## Answers -/

section Answers

variable {s : ActivationSession}

/-- A command other than the snapshot, the stage and the reopening carries the
activation forward when it is answered without an error. -/
theorem carried_of_kind {record : ActivationRecord} {request : ActivationRequest}
    (hfailed : turn.result.failed = false) (hsnapshot : turn.command.kind ≠ .known .snapshot)
    (hstage : turn.command.kind ≠ .known .stageCandidate)
    (hreopen : turn.command.kind ≠ .known .reopenCandidate) :
    Carried codec request record turn :=
  ⟨hfailed, fun h => absurd h hsnapshot, fun h => absurd h hstage, fun h => absurd h hreopen,
    fun h => absurd h hreopen⟩

theorem submitInitialSnapshot_sound (hturn : turn.command.kind = .known .snapshot) :
    PhaseSound codec (s.submitInitialSnapshot codec turn.callbacks turn.result) [turn] := by
  unfold submitInitialSnapshot
  split
  · exact .rejected (by simp [kinds, hturn]) (by simp [finish])
  · rename_i hfailed
    split
    · exact .rejected (by simp [kinds, hturn]) (by simp [finish])
    · split
      · exact .rejected (by simp [kinds, hturn]) (by simp [finish])
      · rename_i candidate hverified
        refine ⟨by simp [kinds, hturn, forwardCommands], ?_, turn, [], rfl, rfl, rfl, hverified⟩
        intro other hother
        rw [mem_singleton.mp hother]
        exact ⟨by simpa using hfailed, fun _ => hverified, by simp [hturn], by simp [hturn],
          by simp [hturn]⟩

theorem submitStage_sound (hlog : Advanced codec s.known 1 log)
    (hturn : turn.command.kind = .known .stageCandidate)
    (hrecord : turn.command.record = s.candidate) :
    PhaseSound codec (s.submitStage turn.result) (log ++ [turn]) := by
  unfold submitStage
  split
  · exact hlog.breakOff .stageCandidate rfl hturn (by decide)
  · rename_i hfailed
    refine hlog.concat .stageCandidate rfl hturn ⟨by simpa using hfailed, by simp [hturn],
      fun _ => hrecord, by simp [hturn], by simp [hturn]⟩

/-- The reopened record has the bytes of the candidate, so the second verification gives
the record of the first. -/
theorem submitReopen_sound (hlog : Advanced codec s.known 2 log)
    (hturn : turn.command.kind = .known .reopenCandidate) :
    PhaseSound codec (s.submitReopen codec turn.callbacks turn.result) (log ++ [turn]) := by
  have hbroken : BrokenOff codec s.known false (log ++ [turn]) :=
    hlog.breakOff .reopenCandidate rfl hturn (by decide)
  unfold submitReopen
  dsimp only
  split
  · exact hbroken
  · rename_i hreopened
    push Not at hreopened
    obtain ⟨hfailed, hartifact, hsigned⟩ := hreopened
    split
    · exact hbroken
    · rename_i reverified hreverified
      split
      · exact hbroken
      · rename_i hsame
        rw [not_not] at hsame
        obtain ⟨initial, rest, -, -, -, hverified⟩ := hlog.prior
        have hrecord : reverified = s.candidate :=
          verified_record_unique hverified hreverified (hsame ▸ hartifact) (hsame ▸ hsigned)
        subst hrecord
        exact hlog.concat .reopenCandidate rfl hturn ⟨by simpa using hfailed, by simp [hturn],
          by simp [hturn], fun _ => hsame.symm, fun _ => hreverified⟩

theorem submitMark_sound (hlog : Advanced codec s.known 3 log)
    (hturn : turn.command.kind = .known .markActivation) :
    PhaseSound codec (s.submitMark turn.result) (log ++ [turn]) := by
  unfold submitMark
  split
  · exact hlog.breakOff .markActivation rfl hturn (by decide)
  · rename_i hfailed
    exact hlog.concat .markActivation rfl hturn
      (carried_of_kind (by simpa using hfailed) (by simp [hturn]) (by simp [hturn])
        (by simp [hturn]))

theorem submitCommit_sound (hlog : Advanced codec s.known 4 log)
    (hturn : turn.command.kind = .known .commitMarked) :
    PhaseSound codec (s.submitCommit turn.result) (log ++ [turn]) := by
  unfold submitCommit
  split
  · exact hlog.breakOff .commitMarked rfl hturn (by decide)
  · rename_i hfailed
    exact hlog.concat .commitMarked rfl hturn
      (carried_of_kind (by simpa using hfailed) (by simp [hturn]) (by simp [hturn])
        (by simp [hturn]))

theorem submitFinalize_sound (hlog : Advanced codec s.known 5 log)
    (hturn : turn.command.kind = .known .finalizeActivation) :
    PhaseSound codec (s.submitFinalize turn.result) (log ++ [turn]) := by
  unfold submitFinalize
  split
  · exact hlog.breakOff .finalizeActivation rfl hturn (by decide)
  · rename_i hfailed
    refine .activated (hlog.concat .finalizeActivation rfl hturn ?_) rfl rfl
    exact carried_of_kind (by simpa using hfailed) (by simp [hturn]) (by simp [hturn])
      (by simp [hturn])

theorem submitRecover_sound (hlog : BrokenOff codec s.known s.committedCandidateAllowed log)
    (hturn : turn.command.kind = .known .recover) :
    PhaseSound codec (s.submitRecover turn.result) (log ++ [turn]) := by
  unfold submitRecover
  split
  · have hlength := hlog.length_le
    simp only [PhaseSound, length_append, length_singleton]
    omega
  · rename_i hfailed
    exact ⟨log, turn, rfl, hlog, hturn, by simpa using hfailed⟩

/-- The session reports a plain storage failure only for the records it remembers. -/
theorem recoveredTo_of_snapshot (hlog : Recovering codec s.known s.committedCandidateAllowed log)
    (hturn : turn.command.kind = .known .snapshot) (hfailed : turn.result.failed = false)
    (hrecords : (turn.result.active = s.priorActive ∧
        turn.result.lastKnownGood = s.priorLastKnownGood) ∨
      (s.committedCandidateAllowed = true ∧ turn.result.active = s.candidate ∧
        turn.result.lastKnownGood = s.priorActive)) :
    RecoveredTo codec s.request (log ++ [turn]) := by
  obtain ⟨before, recovery, rfl, hbroken, hrecovery, hrecovered⟩ := hlog
  obtain ⟨initial, rest, rfl, hactive, hlastKnownGood, hverified⟩ := hbroken.prior
  refine ⟨initial, rest, recovery, turn, s.candidate, by simp, hverified, hrecovery, hrecovered,
    hturn, hfailed, ?_⟩
  rcases hrecords with ⟨hprior, hgood⟩ | ⟨hallowed, hcandidate, hgood⟩
  · exact .inl ⟨hprior.trans hactive.symm, hgood.trans hlastKnownGood.symm⟩
  · refine .inr ⟨?_, hcandidate, hgood.trans hactive.symm⟩
    have hcommit := hbroken.commit.mp hallowed
    obtain ⟨count, hlow, -, hkinds⟩ := hbroken.commands
    -- the first command of the log is the snapshot, so the commit is a later one
    have hhead : initial.command.kind = .known .snapshot := by
      have hhead := congrArg head? hkinds
      obtain ⟨count, rfl⟩ : ∃ c, count = c + 1 := ⟨count - 1, by omega⟩
      simpa [kinds, forwardCommands] using hhead
    simpa [kinds, hhead] using hcommit

theorem Recovering.length_le {attempted : Bool} (h : Recovering codec known attempted log) :
    log.length ≤ 7 := by
  obtain ⟨before, recovery, rfl, hbroken, -⟩ := h
  have hlength := hbroken.length_le
  simp only [length_append, length_singleton]
  omega

theorem submitRecoverySnapshot_sound
    (hlog : Recovering codec s.known s.committedCandidateAllowed log)
    (hturn : turn.command.kind = .known .snapshot) :
    PhaseSound codec (s.submitRecoverySnapshot turn.result) (log ++ [turn]) := by
  have hlength : (log ++ [turn]).length ≤ 8 := by
    have hlength := hlog.length_le
    simp only [length_append, length_singleton]
    omega
  unfold submitRecoverySnapshot
  dsimp only
  split
  · exact hlength
  · rename_i hmatches
    have hfailed : turn.result.failed = false := by
      by_contra h
      exact hmatches (.inl (by simpa using h))
    refine .recovered (recoveredTo_of_snapshot hlog hturn hfailed ?_) (by omega) rfl
    by_contra h
    rw [not_or] at h
    exact hmatches (.inr h)

theorem submitQuarantine_sound (hlog : log.length ≤ 8)
    (hturn : turn.command.kind = .known .quarantine) :
    PhaseSound codec (s.submitQuarantine turn.result) (log ++ [turn]) := by
  refine .quarantined (by simp [Quarantined, hturn]) (by simp; omega) ?_
  cases hfailed : turn.result.failed
  · exact .inl (by simp [submitQuarantine, finish, hfailed])
  · exact .inr (by simp [submitQuarantine, finish, hfailed])

/-- The answer to the outstanding command keeps the session sound. -/
theorem advance_sound (hlog : PhaseSound codec s log) (hphase : s.phase ≠ .terminal)
    (hturn : turn.command.kind = s.phase.commandKind)
    (hrecord : s.phase = .needStage → turn.command.record = s.candidate) :
    PhaseSound codec (s.advance codec turn.callbacks turn.result) (log ++ [turn]) := by
  unfold advance
  unfold PhaseSound at hlog
  cases h : s.phase <;> simp only [h] at hlog hturn hrecord hphase ⊢
  · subst hlog
    exact submitInitialSnapshot_sound hturn
  · exact submitStage_sound hlog hturn (hrecord trivial)
  · exact submitReopen_sound hlog hturn
  · exact submitMark_sound hlog hturn
  · exact submitCommit_sound hlog hturn
  · exact submitFinalize_sound hlog hturn
  · exact submitRecover_sound hlog hturn
  · exact submitRecoverySnapshot_sound hlog hturn
  · exact submitQuarantine_sound hlog hturn
  · exact absurd rfl hphase

end Answers

/-- An answer changes neither the request nor, once it is taken, the outstanding mark. -/
theorem advance_frame (s : ActivationSession) (callbacks : Callbacks)
    (result : ActivationCommandResult) (hidle : s.outstanding = false) :
    (s.advance codec callbacks result).request = s.request ∧
      (s.advance codec callbacks result).outstanding = false := by
  unfold advance
  cases s.phase <;>
    simp only [submitInitialSnapshot, submitStage, submitReopen, submitMark,
      submitCommit, submitFinalize, submitRecover, submitRecoverySnapshot, submitQuarantine, finish,
      beginRecovery] <;>
    repeat' split
  all_goals simp [hidle]

/-! ## Runs -/

variable {command : ActivationCommand}

theorem submit_eq_ok {s after : ActivationSession} {result : ActivationCommandResult}
    {callbacks : Callbacks} (h : s.submit codec callbacks command result = .ok after) :
    s.phase ≠ .terminal ∧ after = advance codec callbacks
      { s with outstanding := false, sequence := s.sequence + 1 } result := by
  rw [submit, check_ok_iff, ensure_eq_ok] at h
  obtain ⟨haccepts, hafter⟩ := h
  simp only [accepts, decide_eq_true_eq] at haccepts
  exact ⟨haccepts.2.1, (Except.ok.inj hafter).symm⟩

theorem next_sound {request : ActivationRequest} {s : ActivationSession}
    (h : SessionSound codec request s log) : SessionSound codec request s.next.2 log := by
  unfold ActivationSession.next
  split
  · exact h
  · rename_i hphase
    rw [not_or] at hphase
    exact ⟨h.request, fun hterminal => absurd hterminal hphase.1, h.phase⟩

theorem sessionStep_sound {request : ActivationRequest} {s : ActivationSession}
    (h : SessionSound codec request s log) (call : SessionCall) :
    SessionSound codec request (sessionStep codec s call).1
      (log ++ (acceptedTurn call (sessionStep codec s call).2).toList) := by
  cases call with
  | next => simpa [sessionStep, acceptedTurn] using next_sound h
  | submit command result callbacks =>
    simp only [sessionStep]
    split
    · simpa [acceptedTurn] using h
    · rename_i after hafter
      obtain ⟨hphase, rfl⟩ := submit_eq_ok hafter
      obtain ⟨hrequest, houtstanding⟩ := @advance_frame codec
        { s with outstanding := false, sequence := s.sequence + 1 } callbacks result rfl
      refine ⟨hrequest.trans h.request, fun _ => houtstanding, ?_⟩
      exact @advance_sound codec log ⟨s.command, result, callbacks⟩
        { s with outstanding := false, sequence := s.sequence + 1 } h.phase hphase rfl
        (fun hstage => if_pos hstage)

/-- Every session agrees with the log of its answered commands. -/
theorem session_sound (codec : EnvelopeCodec) (request : ActivationRequest)
    (calls : List SessionCall) :
    SessionSound codec request (stateAfter (sessionStep codec) (newActivationSession request) calls)
      (emissions (sessionStep codec) acceptedTurn (newActivationSession request) calls) := by
  have hstart : SessionSound codec request (newActivationSession request) [] := ⟨rfl, nofun, rfl⟩
  have hrun := history_stateAfter (SessionSound codec request)
    (fun _ _ call h => sessionStep_sound h call) hstart calls
  simpa using hrun

/-! ## Outcomes -/

section Outcomes

variable {request : ActivationRequest} {s : ActivationSession}

theorem result_eq_ok {record : ActivationRecord} (h : s.result = .ok record) :
    s.phase = .terminal ∧ s.err = none ∧ s.record = record := by
  rw [result, check_ok_iff, ensure_eq_ok] at h
  obtain ⟨⟨hphase, -⟩, h⟩ := h
  split at h
  · cases h
  · rename_i herr
    exact ⟨hphase, herr, Except.ok.inj h⟩

theorem result_eq_error {code : ActivationReasonCode} (h : s.result = .error code)
    (hcode : code ≠ .policyRejected) : s.phase = .terminal ∧ s.err = some code := by
  unfold result ensure at h
  split at h
  · rename_i hterminal
    refine ⟨hterminal.1, ?_⟩
    split at h
    · rename_i herr
      rw [herr]
      exact congrArg some (Except.error.inj h)
    · cases h
  · exact absurd (Except.error.inj h).symm hcode

section

variable (h : SessionSound codec request s log)

include h

theorem SessionSound.ended
    (hphase : s.phase = .terminal) : Ended codec s.known s.record s.err log := by
  have hlog := h.phase
  simpa only [PhaseSound, hphase] using hlog

/-- A commit is commanded only for a candidate which has been carried to the mark. -/
theorem SessionSound.commit_commanded
    (hnext : s.next.1 = some command) (hcommit : command.kind = .known .commitMarked) :
    kinds log = (forwardCommands.take 4).map .known ∧
      ∀ turn ∈ log, Carried codec request s.candidate turn := by
  have hcommand : command = s.command := by
    unfold ActivationSession.next at hnext
    split at hnext
    · cases hnext
    · exact (Option.some.inj hnext).symm
  have hphase : s.phase = .needCommit := by
    rw [hcommand] at hcommit
    simp only [ActivationSession.command] at hcommit
    cases hs : s.phase <;> simp [hs, ActivationSessionPhase.commandKind] at hcommit ⊢
  have hlog := h.phase
  simp only [PhaseSound, hphase] at hlog
  exact ⟨hlog.commands, h.request ▸ hlog.carried⟩

theorem SessionSound.result_ok {record : ActivationRecord} (hresult : s.result = .ok record) :
    kinds log = forwardCommands.map .known ∧ ∀ turn ∈ log, Carried codec request record turn := by
  obtain ⟨hphase, herr, rfl⟩ := result_eq_ok hresult
  cases h.ended hphase with
  | activated hadvanced hrecord _ =>
    rw [hrecord]
    exact ⟨hadvanced.commands, h.request ▸ hadvanced.carried⟩
  | rejected _ hfailure => exact absurd herr hfailure
  | recovered _ _ hfailure => rw [herr] at hfailure; cases hfailure
  | quarantined _ _ hfailure => rw [herr] at hfailure; rcases hfailure with h | h <;> cases h

theorem SessionSound.storageFailure
    (hresult : s.result = .error .storageFailure) (hstaged : .known .stageCandidate ∈ kinds log) :
    RecoveredTo codec request log := by
  obtain ⟨hphase, herr⟩ := result_eq_error hresult (by decide)
  cases h.ended hphase with
  | activated _ _ hsuccess => rw [herr] at hsuccess; cases hsuccess
  | rejected hcommands _ => simp [hcommands] at hstaged
  | recovered hrecovery _ _ => exact h.request ▸ hrecovery
  | quarantined _ _ hfailure => rw [herr] at hfailure; rcases hfailure with h | h <;> cases h

/-- A session which staged its candidate ends in one of three ways. -/
theorem SessionSound.ended_staged
    (hphase : s.phase = .terminal) (hstaged : .known .stageCandidate ∈ kinds log) :
    s.result = .ok s.candidate ∨
      (s.result = .error .storageFailure ∧ RecoveredTo codec request log) ∨
      ((s.result = .error .recoveryFailure ∨ s.result = .error .quarantineFailure) ∧
        Quarantined log) := by
  have hidle := h.idle hphase
  have hresult : s.result = s.err.elim (.ok s.record) .error := by
    rw [result, ensure_of_pos ⟨hphase, by simp [hidle]⟩]
    cases s.err <;> rfl
  cases h.ended hphase with
  | activated _ hrecord hsuccess =>
    rw [hresult, hsuccess, hrecord]
    exact .inl rfl
  | rejected hcommands _ => simp [hcommands] at hstaged
  | recovered hrecovery _ hfailure =>
    rw [hresult, hfailure]
    exact .inr (.inl ⟨rfl, h.request ▸ hrecovery⟩)
  | quarantined hlast _ hfailure =>
    rw [hresult]
    exact .inr (.inr ⟨hfailure.imp (by simp [·]) (by simp [·]), hlast⟩)

end

/-- Until a recovery is commanded, no log has a recovery command. -/
theorem recover_not_mem_forward (hlog : kinds log = (forwardCommands.take count).map .known) :
    .known .recover ∉ kinds log := by
  rw [hlog]
  intro hmem
  obtain ⟨kind, hkind, hknown⟩ := mem_map.mp hmem
  cases hknown
  exact absurd (mem_of_mem_take hkind) (by decide)

theorem RecoveryFailed.recover_mem (h : RecoveryFailed codec request log) :
    .known .recover ∈ kinds log := by
  obtain ⟨before, recovery, hkind, ⟨rfl, -⟩ | ⟨snapshot, rfl, -⟩⟩ := h
  · simp [hkind]
  · simp [kinds, hkind]

/-- After a failed recovery the session commands quarantine. -/
theorem SessionSound.quarantine_commanded (h : SessionSound codec request s log)
    (hfailed : RecoveryFailed codec request log) : s.phase = .needQuarantine := by
  have hmem := hfailed.recover_mem
  have hlog := h.phase
  unfold PhaseSound at hlog
  cases hs : s.phase <;> simp only [hs] at hlog
  case needInitialSnapshot => simp [hlog, kinds] at hmem
  case needRecover =>
    obtain ⟨count, -, -, hkinds⟩ := hlog.commands
    exact absurd hmem (recover_not_mem_forward hkinds)
  case needRecoverySnapshot =>
    obtain ⟨before, recovery, rfl, -, hkind, hanswered⟩ := hlog
    obtain ⟨before', recovery', -, ⟨heq, herr⟩ | ⟨snapshot, heq, hsnapshot, -⟩⟩ := hfailed
    · have hlast : recovery = recovery' := by simpa using congrArg getLast? heq
      rw [hlast, herr] at hanswered
      cases hanswered
    · have hlast : recovery = snapshot := by simpa using congrArg getLast? heq
      rw [hlast, hsnapshot] at hkind
      cases hkind
  case terminal =>
    cases hlog with
    | activated hadvanced _ _ =>
      exact absurd hmem (recover_not_mem_forward hadvanced.commands)
    | rejected hcommands _ => simp [hcommands] at hmem
    | recovered hrecovery _ _ =>
      rw [show s.known.request = request from h.request] at hrecovery
      obtain ⟨before, recovery, hkind, ⟨rfl, -⟩ | ⟨snapshot, -, -, hother⟩⟩ := hfailed
      · obtain ⟨initial, before', recovery', snapshot, -, heq, -, -, -, hsnapshot, -⟩ := hrecovery
        have hlast : recovery = snapshot := by
          simpa [getLast?_cons] using congrArg getLast? heq
        rw [hlast, hsnapshot] at hkind
        cases hkind
      · exact absurd hrecovery hother
    | quarantined hlast _ _ =>
      obtain ⟨before, recovery, hkind, ⟨rfl, -⟩ | ⟨snapshot, rfl, hsnapshot, -⟩⟩ := hfailed
      · simp [Quarantined, hkind] at hlast
      · simp [Quarantined, kinds, hsnapshot] at hlast
  case needQuarantine => rfl
  all_goals exact absurd hmem (recover_not_mem_forward hlog.commands)

theorem SessionSound.length_le (h : SessionSound codec request s log) :
    log.length ≤ 9 ∧ (s.phase ≠ .terminal → log.length ≤ 8) := by
  have hforward : ∀ count, Advanced codec s.known count log → log.length ≤ 6 := by
    intro count hadvanced
    rw [← length_kinds, hadvanced.commands, length_map, length_take]
    exact Nat.min_le_right ..
  have hlog := h.phase
  unfold PhaseSound at hlog
  cases hs : s.phase <;> simp only [hs] at hlog
  case needInitialSnapshot => simp [hlog]
  case needRecover =>
    have hlength := hlog.length_le
    omega
  case needRecoverySnapshot =>
    have hlength := hlog.length_le
    omega
  case needQuarantine => omega
  case terminal =>
    refine ⟨?_, fun hphase => absurd rfl hphase⟩
    cases hlog with
    | activated hadvanced _ _ => exact (hforward 6 hadvanced).trans (by decide)
    | rejected hcommands _ => simp [← length_kinds, hcommands]
    | recovered _ hlength _ => exact hlength
    | quarantined _ hlength _ => exact hlength
  all_goals
    have hlength := hforward _ hlog
    omega

end Outcomes

/-- Over every run of a session: a commit is commanded only after the candidate was
verified, staged, reopened with the staged bytes, verified again to the same record and
marked; success is returned only after the finalize command and with that record; a
storage failure after staging is reported only for the records of a matching recovery
snapshot; after any other recovery quarantine is commanded, and a staged session which
ends in any other way has commanded it; the session has ended after at most nine answered
commands. -/
theorem activation_transaction_safety
    (codec : EnvelopeCodec) (request : ActivationRequest) (calls : List SessionCall) :
    let s := stateAfter (sessionStep codec) (newActivationSession request) calls
    let log := emissions (sessionStep codec) acceptedTurn (newActivationSession request) calls
    (∀ command, s.next.1 = some command → command.kind = .known .commitMarked →
      ∃ record, kinds log = [.known .snapshot, .known .stageCandidate,
          .known .reopenCandidate, .known .markActivation] ∧
        ∀ turn ∈ log, Carried codec request record turn) ∧
    (∀ record, s.result = .ok record → kinds log = forwardCommands.map .known ∧
      ∀ turn ∈ log, Carried codec request record turn) ∧
    (s.result = .error .storageFailure → .known .stageCandidate ∈ kinds log →
      RecoveredTo codec request log) ∧
    (RecoveryFailed codec request log → s.command.kind = .known .quarantine) ∧
    (s.phase = .terminal → .known .stageCandidate ∈ kinds log →
      s.result = .ok s.candidate ∨
        (s.result = .error .storageFailure ∧ RecoveredTo codec request log) ∨
        ((s.result = .error .recoveryFailure ∨ s.result = .error .quarantineFailure) ∧
          Quarantined log)) ∧
    log.length ≤ 9 ∧ (log.length = 9 → s.phase = .terminal) := by
  intro s log
  have hsound : SessionSound codec request s log := session_sound codec request calls
  refine ⟨?_, fun record => hsound.result_ok, hsound.storageFailure, ?_, hsound.ended_staged,
    hsound.length_le.1, ?_⟩
  · intro command hnext hcommit
    obtain ⟨hkinds, hcarried⟩ := hsound.commit_commanded hnext hcommit
    exact ⟨s.candidate, hkinds, hcarried⟩
  · intro hfailed
    rw [ActivationSession.command, hsound.quarantine_commanded hfailed]
    rfl
  · intro hnine
    by_contra hphase
    have hlength := hsound.length_le.2 hphase
    omega

/-! ## An activation which commits -/

def sampleProfile (generation : UInt64) (updateKind : UpdateKind)
    (contentID previousContentID : Text) : CanonicalProfileV1 :=
  { zeroRecord.profile with
    contentID := contentID
    profileID := asciiBytes "n.p"
    lineageID := asciiBytes "line"
    providerID := asciiBytes "provider"
    revocationScope := asciiBytes "scope"
    snapshotMode := .known .fullSnapshot
    updateKind := .known updateKind
    generation := generation
    validFrom := 10
    validUntil := 20
    rootEpoch := 1
    revocationEpoch := 1
    previousContentID := previousContentID }

/-- Objects `[1]` and `[2]` carry a profile and its replacement. -/
def sampleCodec : EnvelopeCodec where
  parseSealedProfileOpaque _ := none
  decodeSealProtectedContextV1 _ := none
  parseSignedProfileOpaque object := some ⟨[], object, []⟩
  decodeSignedProtectedContextV1 _ :=
    some ⟨asciiBytes "issuer", 1, signedPayloadContentType,
      ⟨.known .signedPublic, .known .publicAudience, [], 0⟩⟩
  buildCOSESigStructure _ payload := some payload
  decodeCanonicalProfileV1 payload :=
    if payload = [1] then some (sampleProfile 1 .initial (asciiBytes "c1") [])
    else some (sampleProfile 2 .replacement (asciiBytes "c2") (asciiBytes "c1"))
  marshalDelegation _ := some []
  marshalRevocations _ := some []

def sampleRootKey : KeyReference := ⟨asciiBytes "root", 1⟩

def sampleRequest (object : List UInt8) (current : VerifiedState) : ActivationRequest where
  artifact := object
  dispatch := ⟨.known .signedPublic, .known .publicAudience, [], 0⟩
  now := 15
  root := ⟨1, asciiBytes "view", 10, 20, [sampleRootKey]⟩
  delegation := ⟨⟨1, sampleRootKey.keyID, ⟨asciiBytes "issuer", 1⟩,
    ⟨asciiBytes "provider", asciiBytes "line", asciiBytes "n."⟩, 10, 20, 1, 10, false⟩,
    sampleRootKey, [], []⟩
  revocations := ⟨⟨1, asciiBytes "scope", 1, 1, 10, 20, 10, [asciiBytes "i0", asciiBytes "i1"],
    [asciiBytes "c0"], false⟩, sampleRootKey, [], []⟩
  current := current
  contractVersion := []
  minSafetyFloor := 0
  minRootEpoch := 0
  minRevocationEpoch := 0

def sampleCallbacks : Callbacks := ⟨none, none, some fun _ _ _ => true, none, none, none⟩

/-- A provider which performs every command. -/
def sampleCalls (prior record : ActivationRecord) : List SessionCall :=
  (forwardCommands.zipIdx 1).flatMap fun entry =>
    [.next, .submit ⟨UInt64.ofNat entry.2, .known entry.1, zeroRecord⟩
      ⟨prior, zeroRecord, record, false⟩ sampleCallbacks]

/-- After four answers the commit is commanded, and after six the activation succeeds. -/
theorem activation_transaction_safety_commit :
    let request := sampleRequest [1] zeroRecord.state
    let record := (verifyActivationCandidate sampleCodec sampleCallbacks request [1]).toOption.getD
      zeroRecord
    let calls := sampleCalls zeroRecord record
    let run calls := stateAfter (sessionStep sampleCodec) (newActivationSession request) calls
    (run (calls.take 8)).next.1.map ActivationCommand.kind = some (.known .commitMarked) ∧
      (run calls).result = .ok record ∧
      ∀ turn ∈ emissions (sessionStep sampleCodec) acceptedTurn (newActivationSession request)
        calls, Carried sampleCodec request record turn := by
  intro request record calls run
  have hresult : (run calls).result = .ok record := by decide +kernel
  exact ⟨by decide +kernel, hresult,
    ((activation_transaction_safety sampleCodec request calls).2.1 record hresult).2⟩

end Kurdistan.Product
