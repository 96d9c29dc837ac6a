import Kurdistan.Product.ActivationRuns

/-!
# Misuse of activation sessions

The calls of the bridge in any order: a refused submission leaves the session as it was,
and a destroyed session answers `Result` without an error.
-/

namespace Kurdistan.Product

open Support ActivationSession List

/-! ## Destruction -/

/-- The zero request; its time is the zero time. -/
def zeroRequest : ActivationRequest where
  artifact := []
  dispatch := ⟨.other "", .other "", [], 0⟩
  now := -62135596800
  root := ⟨0, [], 0, 0, []⟩
  delegation := ⟨⟨0, [], ⟨[], 0⟩, ⟨[], [], []⟩, 0, 0, 0, 0, false⟩, ⟨[], 0⟩, [], []⟩
  revocations := ⟨⟨0, [], 0, 0, 0, 0, 0, [], [], false⟩, ⟨[], 0⟩, [], []⟩
  current := zeroRecord.state
  contractVersion := []
  minSafetyFloor := 0
  minRootEpoch := 0
  minRevocationEpoch := 0

def ActivationSession.destroy (s : ActivationSession) : ActivationSession :=
  { s with
    request := zeroRequest
    priorActive := zeroRecord
    priorLastKnownGood := zeroRecord
    candidate := zeroRecord
    record := zeroRecord
    err := none
    phase := .terminal
    outstanding := false }

/-! ## The calls of the bridge -/

inductive BridgeCall where
  | session (call : SessionCall)
  | result
  | destroy

inductive BridgeReply where
  | session (reply : SessionReply)
  | result (value : Except ActivationReasonCode ActivationRecord)
  | destroyed

/-- A command, an accepted submission or a record without an error. -/
def BridgeReply.yields : BridgeReply → Bool
  | .session (.command (some _)) | .session (.accepted _) | .result (.ok _) => true
  | _ => false

def bridgeStep (codec : EnvelopeCodec) (s : ActivationSession) :
    BridgeCall → ActivationSession × BridgeReply
  | .session call => ((sessionStep codec s call).1, .session (sessionStep codec s call).2)
  | .result => (s, .result s.result)
  | .destroy => (s.destroy, .destroyed)

/-- The answered commands of a run. -/
def bridgeTurn : BridgeCall → BridgeReply → Option Turn
  | .session call, .session reply => acceptedTurn call reply
  | _, _ => none

/-- The candidate was verified before it was staged and after it was reopened, and the
finalize command was answered for it. -/
def Finalized (codec : EnvelopeCodec) (request : ActivationRequest) (log : List Turn) : Prop :=
  ∃ record, kinds log = forwardCommands.map .known ∧
    ∀ turn ∈ log, Carried codec request record turn

/-! ## Terminal sessions -/

section Terminal

variable (codec : EnvelopeCodec) {s : ActivationSession} (hphase : s.phase = .terminal)

include hphase

theorem sessionStep_terminal (call : SessionCall) :
    (sessionStep codec s call).1 = s ∧
      (BridgeReply.session (sessionStep codec s call).2).yields = false := by
  cases call with
  | next => simp [sessionStep, ActivationSession.next, hphase, BridgeReply.yields]
  | submit command result callbacks =>
    have hrefused : s.submit codec callbacks command result = .error .policyRejected := by
      simp [submit, accepts, hphase, ensure]
    simp only [sessionStep, hrefused]
    exact ⟨trivial, rfl⟩

omit codec in
theorem result_terminal (hidle : s.outstanding = false) :
    (BridgeReply.result s.result).yields = false ↔ s.err ≠ none := by
  cases herr : s.err <;> simp [result, hphase, hidle, herr, BridgeReply.yields]

end Terminal

/-- What holds of the calls before each `Result` of a longer run. -/
theorem before_result_cons {P : List BridgeCall → Prop} {call : BridgeCall}
    {later : List BridgeCall} :
    (∀ before rest, call :: later = before ++ .result :: rest → P before) ↔
      (call = .result → P []) ∧
        ∀ before rest, later = before ++ .result :: rest → P (call :: before) := by
  constructor
  · intro h
    refine ⟨fun hcall => h [] later (by rw [hcall, nil_append]), fun before rest hlater => ?_⟩
    exact h (call :: before) rest (by rw [hlater, cons_append])
  · rintro ⟨hfirst, hrest⟩ before rest h
    rcases cons_eq_append_iff.mp h with ⟨rfl, hcons⟩ | ⟨tail, rfl, htail⟩
    · exact hfirst (cons.inj hcons).1.symm
    · exact hrest tail rest htail

/-- A terminal session hands out nothing more as long as it keeps an error for `Result`. -/
theorem replies_terminal {codec : EnvelopeCodec} (later : List BridgeCall) {s : ActivationSession}
    (hphase : s.phase = .terminal) (hidle : s.outstanding = false) :
    (∀ reply ∈ replies (bridgeStep codec) s later, reply.yields = false) ↔
      ∀ before rest, later = before ++ .result :: rest → s.err ≠ none ∧ .destroy ∉ before := by
  induction later generalizing s with
  | nil => simp [replies]
  | cons call later ih =>
    rw [replies, forall_mem_cons, before_result_cons]
    cases call with
    | session call =>
      obtain ⟨hsame, hquiet⟩ := sessionStep_terminal codec hphase call
      simp only [bridgeStep, hsame, hquiet, ih hphase hidle]
      simp
    | result =>
      simp only [bridgeStep, result_terminal hphase hidle, ih hphase hidle]
      simp
    | destroy =>
      simp only [bridgeStep, ih (s := s.destroy) rfl rfl]
      simp [ActivationSession.destroy, BridgeReply.yields]

/-! ## Runs of the bridge -/

section Runs

variable {codec : EnvelopeCodec} {request : ActivationRequest} {s : ActivationSession}
  {calls : List BridgeCall}

theorem bridge_sound {log : List Turn} (h : SessionSound codec request s log)
    (hcalls : .destroy ∉ calls) :
    SessionSound codec request (stateAfter (bridgeStep codec) s calls)
      (log ++ emissions (bridgeStep codec) bridgeTurn s calls) := by
  induction calls generalizing s log with
  | nil => simpa [emissions] using h
  | cons call calls ih =>
    obtain ⟨hcall, hcalls⟩ := not_or.mp (mt mem_cons.mpr hcalls)
    rw [emissions, ← append_assoc, stateAfter_cons]
    refine ih ?_ hcalls
    cases call with
    | session call => exact sessionStep_sound h call
    | result => simpa [bridgeStep, bridgeTurn] using h
    | destroy => exact absurd rfl hcall

/-- No later call changes a destroyed session. -/
theorem bridge_destroyed (h : .destroy ∈ calls) :
    ∃ t : ActivationSession, stateAfter (bridgeStep codec) s calls = t.destroy := by
  obtain ⟨before, rest, rfl⟩ := append_of_mem h
  rw [stateAfter_append, stateAfter_cons]
  refine stateAfter_invariant (fun after => ∃ t : ActivationSession, after = t.destroy) ?_
    ⟨_, rfl⟩ rest
  rintro _ call ⟨t, rfl⟩
  cases call with
  | session call => exact ⟨t, (sessionStep_terminal codec rfl call).1⟩
  | result => exact ⟨t, rfl⟩
  | destroy => exact ⟨_, rfl⟩

end Runs

end Kurdistan.Product
