import Kurdistan.Security.EnvelopeSpec

/-!
# At-most-once delivery under every interleaving

Authentication and commit are separate steps, several capabilities for one
record can be outstanding, and copies of a capability share its state. Two
invariants over all interleavings settle what can happen. The codec's replay
windows represent exactly the commits that succeeded, so none succeeds twice.
A capability which has been decided, and which no `Commit` holds, stays that
way, so it never commits again.

The cipher is arbitrary here: nothing depends on which records authenticate.
-/

namespace Kurdistan.Security

open Support EnvelopeWorldV1 List

/-- The record an action has committed, if it has. -/
def committedRecord :
    EnvelopeActionV1 → EnvelopeReplyV1 → Option CommittedRecordV1
  | _, .committed record => some record
  | _, _ => none

/-- The capability whose one decision an action has completed: a `Commit` that
returned, with or without an error from the replay window, or a successful
`Discard`. -/
def settledCapability : EnvelopeActionV1 → EnvelopeReplyV1 → Option ℕ
  | .finishCommit address, .committed _ => some address
  | .finishCommit address, .failed _ => some address
  | .discard (some address), .discarded => some address
  | _, _ => none

namespace EnvelopeWorldV1

variable {aead : AEAD}

/-! ## What one action does -/

/-- An action which touches neither the codec nor a decision. -/
def Quiet (w w' : EnvelopeWorldV1) (a : EnvelopeActionV1) (reply : EnvelopeReplyV1) : Prop :=
  w'.codec = w.codec ∧ w'.committing = w.committing ∧
    w.capabilities <+: w'.capabilities ∧ committedRecord a reply = none ∧
    settledCapability a reply = none

/-- An action which decides the capability at `address`. -/
def Decides (w w' : EnvelopeWorldV1) (address : ℕ) : Prop :=
  address ∉ w.committing ∧ w'.codec = w.codec ∧
    ∃ state, w.capabilities[address]? = some state ∧ state.decided = false ∧
      w'.capabilities = w.capabilities.set address { state with decided := true }

/-- The second half of a `Commit` of the capability at `address`. -/
def Finishes (w w' : EnvelopeWorldV1) (address : ℕ) (reply : EnvelopeReplyV1) : Prop :=
  address ∈ w.committing ∧ w'.committing = w.committing.erase address ∧
    w'.capabilities = w.capabilities ∧
    ∃ state, w.capabilities[address]? = some state ∧
      w'.codec = (w.codec.commitReplayV1 state.slot state.sequence).1 ∧
      ((∃ err, (w.codec.commitReplayV1 state.slot state.sequence).2 =
          .error err ∧ reply = .failed err) ∨
        ((w.codec.commitReplayV1 state.slot state.sequence).2 = .ok () ∧
          reply = .committed ⟨w.codec.replayKeyV1 state.slot, w.codec.epoch, state.sequence⟩))

section

variable (w : EnvelopeWorldV1)

include w

theorem quiet_self {a : EnvelopeActionV1}
    {reply : EnvelopeReplyV1} (hrecord : committedRecord a reply = none)
    (hsettled : settledCapability a reply = none) : Quiet w w a reply :=
  ⟨rfl, rfl, prefix_rfl, hrecord, hsettled⟩

theorem beginAuthenticate_quiet
    (dst : Option BorrowedDestinationV1) (recordClass : NonceRecordClassV1)
    (record : EnvelopeRecordV1) (recordAAD : List UInt8) :
    Quiet w (w.beginAuthenticate dst recordClass record recordAAD).1
      (.beginAuthenticate dst recordClass record recordAAD)
      (w.beginAuthenticate dst recordClass record recordAAD).2 := by
  simp only [beginAuthenticate]
  split
  · exact quiet_self w rfl rfl
  · split
    · exact quiet_self w rfl rfl
    · exact ⟨rfl, rfl, prefix_rfl, rfl, rfl⟩

theorem checkSequence_quiet (call : ℕ) :
    Quiet w (w.checkSequence call).1 (.checkSequence call) (w.checkSequence call).2 := by
  simp only [checkSequence]
  split
  · exact quiet_self w rfl rfl
  · split
    · split
      · exact ⟨rfl, rfl, prefix_rfl, rfl, rfl⟩
      · exact ⟨rfl, rfl, prefix_rfl, rfl, rfl⟩
    · exact quiet_self w rfl rfl

theorem finishAuthenticate_quiet (call : ℕ) :
    Quiet w (w.finishAuthenticate aead call).1 (.finishAuthenticate call)
      (w.finishAuthenticate aead call).2 := by
  simp only [finishAuthenticate]
  split
  · exact quiet_self w rfl rfl
  · split
    · split
      · exact ⟨rfl, rfl, prefix_rfl, rfl, rfl⟩
      · exact ⟨rfl, rfl, prefix_append _ _, rfl, rfl⟩
    · exact quiet_self w rfl rfl

/-- What one of the two decisions refuses, the other refuses too. -/
theorem decision_cases (capability : Option ℕ) :
    (Quiet w (w.beginCommit capability).1 (.beginCommit capability) (w.beginCommit capability).2 ∧
      Quiet w (w.discard capability).1 (.discard capability) (w.discard capability).2) ∨
    ∃ address, capability = some address ∧
      (Decides w (w.beginCommit capability).1 address ∧
        (w.beginCommit capability).1.committing = insert address w.committing ∧
        (w.beginCommit capability).2 = .pending) ∧
      Decides w (w.discard capability).1 address ∧
        (w.discard capability).1.committing = w.committing ∧
        (w.discard capability).2 = .discarded := by
  rcases capability with _ | address
  · exact Or.inl ⟨quiet_self w rfl rfl, quiet_self w rfl rfl⟩
  simp only [beginCommit, discard]
  split_ifs with hheld
  · exact Or.inl ⟨quiet_self w rfl rfl, quiet_self w rfl rfl⟩
  rcases hstate : w.capabilities[address]? with _ | state
  · exact Or.inl ⟨quiet_self w rfl rfl, quiet_self w rfl rfl⟩
  simp only
  split_ifs with hrefused
  · exact Or.inl ⟨quiet_self w rfl rfl, quiet_self w rfl rfl⟩
  · right
    simp only [Bool.or_eq_true, not_or, Bool.not_eq_true] at hrefused
    exact ⟨address, rfl, ⟨⟨hheld, rfl, state, hstate, hrefused.2, rfl⟩, rfl, rfl⟩,
      ⟨hheld, rfl, state, hstate, hrefused.2, rfl⟩, rfl, rfl⟩

theorem finishCommit_cases (address : ℕ) :
    Quiet w (w.finishCommit address).1 (.finishCommit address)
        (w.finishCommit address).2 ∨
      Finishes w (w.finishCommit address).1 address (w.finishCommit address).2 := by
  simp only [finishCommit]
  split_ifs with hheld
  · rcases hstate : w.capabilities[address]? with _ | state
    · exact Or.inl (quiet_self w rfl rfl)
    · right
      rcases hresult : (w.codec.commitReplayV1 state.slot state.sequence).2 with
        err | ⟨⟩
      · simp only [hresult]
        exact ⟨hheld, rfl, rfl, state, hstate, rfl, Or.inl ⟨err, hresult, rfl⟩⟩
      · simp only [hresult]
        exact ⟨hheld, rfl, rfl, state, hstate, rfl, Or.inr ⟨hresult, rfl⟩⟩
  · exact Or.inl (quiet_self w rfl rfl)

end

/-- Everything one action can do: nothing that matters here, decide a
capability, or finish a `Commit`. -/
theorem step_cases (aead : AEAD) (w : EnvelopeWorldV1) (a : EnvelopeActionV1) :
    Quiet w (w.step aead a).1 a (w.step aead a).2 ∨
    (∃ address, a = .beginCommit (some address) ∧
      Decides w (w.step aead a).1 address ∧
      (w.step aead a).1.committing = insert address w.committing ∧
      (w.step aead a).2 = .pending) ∨
    (∃ address, a = .discard (some address) ∧
      Decides w (w.step aead a).1 address ∧
      (w.step aead a).1.committing = w.committing ∧
      (w.step aead a).2 = .discarded) ∨
    (∃ address, a = .finishCommit address ∧
      Finishes w (w.step aead a).1 address (w.step aead a).2) := by
  cases a with
  | beginAuthenticate dst recordClass record recordAAD =>
    exact Or.inl (w.beginAuthenticate_quiet dst recordClass record recordAAD)
  | checkSequence call => exact Or.inl (w.checkSequence_quiet call)
  | finishAuthenticate call => exact Or.inl (w.finishAuthenticate_quiet call)
  | beginCommit capability =>
    rcases w.decision_cases capability with ⟨hquiet, -⟩ | ⟨address, rfl, hrest, -⟩
    · exact Or.inl hquiet
    · exact Or.inr (Or.inl ⟨address, rfl, hrest⟩)
  | finishCommit address =>
    rcases w.finishCommit_cases address with hquiet | hfinish
    · exact Or.inl hquiet
    · exact Or.inr (Or.inr (Or.inr ⟨address, rfl, hfinish⟩))
  | discard capability =>
    rcases w.decision_cases capability with ⟨-, hquiet⟩ | ⟨address, rfl, -, hrest⟩
    · exact Or.inl hquiet
    · exact Or.inr (Or.inr (Or.inl ⟨address, rfl, hrest⟩))

/-! ## The replay state -/

variable {w : EnvelopeWorldV1}

/-- Only a successful `Commit` changes the codec. -/
theorem codec_step_of_not_committed {a : EnvelopeActionV1}
    (h : committedRecord a (w.step aead a).2 = none) : (w.step aead a).1.codec = w.codec := by
  rcases w.step_cases aead a with
    hquiet | ⟨_, _, hdecides, _⟩ | ⟨_, _, hdecides, _⟩ | ⟨_, _, hfinish⟩
  · exact hquiet.1
  · exact hdecides.2.1
  · exact hdecides.2.1
  · obtain ⟨-, -, -, state, -, hcodec, hreply⟩ := hfinish
    rcases hreply with ⟨err, hresult, -⟩ | ⟨-, hreply⟩
    · rcases w.codec.commitReplayV1_cases state.slot state.sequence with
        ⟨_, hsame⟩ | ⟨_, _, _, hok⟩
      · rw [hcodec, hsame]
      · rw [hok] at hresult
        cases hresult
    · rw [hreply] at h
      cases h

/-- Every action extends the history by the record it commits, if any. -/
theorem represents_step {history : List CommittedRecordV1} (h : w.codec.Represents history)
    (a : EnvelopeActionV1) :
    (w.step aead a).1.codec.Represents
      (history ++ (committedRecord a (w.step aead a).2).toList) := by
  rcases hrecord : committedRecord a (w.step aead a).2 with _ | record
  · rw [codec_step_of_not_committed hrecord]
    simpa using h
  · rcases w.step_cases aead a with
      hquiet | ⟨_, rfl, _, _, hreply⟩ | ⟨_, rfl, _, _, hreply⟩ | ⟨_, rfl, hfinish⟩
    · rw [hquiet.2.2.2.1] at hrecord
      cases hrecord
    · rw [hreply] at hrecord
      cases hrecord
    · rw [hreply] at hrecord
      cases hrecord
    · obtain ⟨-, -, -, state, -, hcodec, hreply⟩ := hfinish
      rcases hreply with ⟨err, -, hreply⟩ | ⟨hresult, hreply⟩
      · rw [hreply] at hrecord
        cases hrecord
      · rw [hreply] at hrecord
        cases hrecord
        rcases w.codec.commitReplayV1_cases state.slot state.sequence with
          ⟨_, herr⟩ | ⟨window, hwindow, hcheck, hok⟩
        · rw [herr] at hresult
          cases hresult
        · rw [hcodec, hok]
          exact h.storeReplay hwindow hcheck

/-! ## Decisions -/

/-- The capability has been decided. -/
def Decided (w : EnvelopeWorldV1) (address : ℕ) : Prop :=
  ∃ state, w.capabilities[address]? = some state ∧ state.decided = true

/-- The capability has been decided and no `Commit` of it is under way. -/
def Settled (w : EnvelopeWorldV1) (address : ℕ) : Prop :=
  w.Decided address ∧ address ∉ w.committing

variable {address : ℕ}

theorem Decides.decided {w' : EnvelopeWorldV1} (h : Decides w w' address) : w'.Decided address := by
  obtain ⟨-, -, state, hstate, -, hcapabilities⟩ := h
  have hlt : address < w.capabilities.length := (List.getElem?_eq_some_iff.mp hstate).1
  exact ⟨{ state with decided := true }, by simp [hcapabilities, hlt], rfl⟩

theorem Decides.decided_of_decided {w' : EnvelopeWorldV1} {address' : ℕ} (h : Decides w w' address)
    (hdecided : w.Decided address') : w'.Decided address' := by
  by_cases hsame : address' = address
  · rw [hsame]
    exact h.decided
  · obtain ⟨-, -, state, -, -, hcapabilities⟩ := h
    obtain ⟨state', hstate', hflag⟩ := hdecided
    refine ⟨state', ?_, hflag⟩
    rw [hcapabilities, getElem?_set_ne (Ne.symm hsame)]
    exact hstate'

theorem decided_step (h : w.Decided address) (a : EnvelopeActionV1) :
    (w.step aead a).1.Decided address := by
  rcases w.step_cases aead a with
    hquiet | ⟨_, _, hdecides, _⟩ | ⟨_, _, hdecides, _⟩ | ⟨_, _, hfinish⟩
  · obtain ⟨state, hstate, hflag⟩ := h
    obtain ⟨rest, hprefix⟩ := hquiet.2.2.1
    refine ⟨state, ?_, hflag⟩
    rw [← hprefix, getElem?_append_left (List.getElem?_eq_some_iff.mp hstate).1]
    exact hstate
  · exact hdecides.decided_of_decided h
  · exact hdecides.decided_of_decided h
  · obtain ⟨state, hstate, hflag⟩ := h
    exact ⟨state, by rw [hfinish.2.2.1]; exact hstate, hflag⟩

/-- A settled capability stays settled: it cannot be decided again. -/
theorem settled_step (h : w.Settled address) (a : EnvelopeActionV1) :
    (w.step aead a).1.Settled address := by
  refine ⟨decided_step h.1 a, ?_⟩
  rcases w.step_cases aead a with
    hquiet | ⟨address', _, hdecides, hheld, _⟩ | ⟨_, _, _, hheld, _⟩ | ⟨_, _, hfinish⟩
  · rw [hquiet.2.1]
    exact h.2
  · rw [hheld, Finset.mem_insert, not_or]
    refine ⟨?_, h.2⟩
    rintro rfl
    obtain ⟨state, hstate, hflag⟩ := h.1
    obtain ⟨-, -, state', hstate', hfresh, -⟩ := hdecides
    rw [hstate] at hstate'
    cases hstate'
    simp [hflag] at hfresh
  · rw [hheld]
    exact h.2
  · rw [hfinish.2.1]
    exact fun hmem => h.2 (Finset.mem_of_mem_erase hmem)

/-- Whatever a `Commit` holds has been decided. -/
def HeldDecided (w : EnvelopeWorldV1) : Prop :=
  ∀ address ∈ w.committing, w.Decided address

theorem heldDecided_step (h : w.HeldDecided) (a : EnvelopeActionV1) :
    (w.step aead a).1.HeldDecided := by
  intro address hmem
  rcases w.step_cases aead a with
    hquiet | ⟨address', _, hdecides, hheld, _⟩ | ⟨_, _, _, hheld, _⟩ | ⟨_, _, hfinish⟩
  · rw [hquiet.2.1] at hmem
    exact decided_step (h address hmem) a
  · rw [hheld, Finset.mem_insert] at hmem
    rcases hmem with rfl | hmem
    · exact hdecides.decided
    · exact decided_step (h address hmem) a
  · rw [hheld] at hmem
    exact decided_step (h address hmem) a
  · rw [hfinish.2.1] at hmem
    exact decided_step (h address (Finset.mem_of_mem_erase hmem)) a

theorem settled_of_settledCapability (h : w.HeldDecided) {a : EnvelopeActionV1}
    (hsettles : settledCapability a (w.step aead a).2 = some address) :
    (w.step aead a).1.Settled address := by
  rcases w.step_cases aead a with
    hquiet | ⟨_, rfl, _, _, hreply⟩ | ⟨address', rfl, hdecides, hheld, hreply⟩ |
      ⟨address', rfl, hfinish⟩
  · rw [hquiet.2.2.2.2] at hsettles
    cases hsettles
  · cases hsettles
  · rw [hreply] at hsettles
    cases hsettles
    exact ⟨hdecides.decided, by rw [hheld]; exact hdecides.1⟩
  · have haddress : address' = address := by
      obtain ⟨-, -, -, state, -, -, hreply⟩ := hfinish
      rcases hreply with ⟨err, -, hreply⟩ | ⟨-, hreply⟩ <;>
        simpa [hreply, settledCapability] using hsettles
    subst haddress
    refine ⟨decided_step (h address' hfinish.1) _, ?_⟩
    rw [hfinish.2.1]
    exact Finset.notMem_erase address' w.committing

/-- A settled capability answers every further call with a duplicate error. -/
theorem replies_of_settled (h : w.Settled address) :
    (w.step aead (.beginCommit (some address))).2 = .failed .replayDuplicate ∧
      (w.step aead (.finishCommit address)).2 = .pending ∧
      (w.step aead (.discard (some address))).2 = .failed .replayDuplicate := by
  obtain ⟨⟨state, hstate, hflag⟩, hheld⟩ := h
  refine ⟨?_, ?_, ?_⟩
  · simp [step, beginCommit, hheld, hstate, hflag]
  · simp [step, finishCommit, hheld]
  · simp [step, discard, hheld, hstate, hflag]

/-! ## An uninterrupted commit is a run of actions -/

/-- `Commit` on a capability whose lock is free is its two critical sections
in a row. -/
theorem commit_eq_actions (hfree : address ∉ w.committing) (hheap : address <
    w.capabilities.length) :
    (w.commit address).1 =
        stateAfter (step aead) w
          [.beginCommit (some address), .finishCommit address] ∧
      ((w.commit address).2 = .ok () ↔
        ∃ record, replyAfter (step aead) w [.beginCommit (some address)]
          (.finishCommit address) = .committed record) := by
  obtain ⟨state, hstate⟩ : ∃ state, w.capabilities[address]? = some state :=
    ⟨_, getElem?_eq_getElem hheap⟩
  by_cases hrefused : (!w.validLockedV1 address state || state.decided) = true
  · have hcommit : w.commit address = (w, .error .replayDuplicate) := by
      simp [commit, hstate, hrefused]
    have hbegin : w.step aead (.beginCommit (some address)) = (w, .failed .replayDuplicate) := by
      simp [step, beginCommit, hfree, hstate, hrefused]
    have hfinish : w.step aead (.finishCommit address) = (w, .pending) := by
      simp [step, finishCommit, hfree]
    simp [replyAfter, hcommit, hbegin, hfinish]
  · have hcommit : w.commit address = ({ w.markDecided address state with
            codec := (w.codec.commitReplayV1 state.slot state.sequence).1 },
          (w.codec.commitReplayV1 state.slot state.sequence).2) := by
      simp only [commit, hstate, if_neg hrefused]
    have hbegin : w.step aead (.beginCommit (some address)) = ({ w.markDecided address state with
            committing := insert address w.committing }, .pending) := by
      simp only [step, beginCommit, if_neg hfree, hstate, if_neg hrefused]
    have hfound : (w.capabilities.set address
        { state with decided := true })[address]? = some { state with decided := true } :=
      getElem?_set_self hheap
    have hfinish : (finishCommit
        { w.markDecided address state with
          committing := insert address w.committing } address).1 =
        { w.markDecided address state with
          codec := (w.codec.commitReplayV1 state.slot state.sequence).1 } := by
      simp only [finishCommit, markDecided, Finset.mem_insert_self, if_true,
        hfound, Finset.erase_insert hfree]
      cases (w.codec.commitReplayV1 state.slot state.sequence).2 <;> rfl
    refine ⟨?_, ?_⟩
    · rw [hcommit, stateAfter_cons, hbegin, stateAfter_cons, stateAfter_nil]
      exact hfinish.symm
    · rw [hcommit, replyAfter, stateAfter_cons, hbegin, stateAfter_nil]
      simp only [step, finishCommit, markDecided, Finset.mem_insert_self, if_true, hfound]
      rcases (w.codec.commitReplayV1 state.slot state.sequence).2 with err | ⟨⟩ <;> simp

end EnvelopeWorldV1

/-- At-most-once delivery. For every interleaving of authentications, commits
and discards on a role codec: no record is committed twice; a capability whose
decision is complete answers every later call, through any copy, without
committing; and an action which does not commit leaves the codec, and with it
the replay state, as it was. -/
theorem capability_commits_at_most_once (aead : AEAD) {schedule : KeySchedule}
    {context : EnvelopeContextV1} {client bounded : Bool} {codec : EnvelopeCodecV1}
    (hnew : newRoleEnvelopeV1 schedule context client bounded = .ok codec) :
    (∀ actions : List EnvelopeActionV1,
      (emissions (step aead) committedRecord
        (init codec) actions).Nodup) ∧
    (∀ (before between : List EnvelopeActionV1) (decision : EnvelopeActionV1) (address : ℕ),
      settledCapability decision (replyAfter (step aead)
          (init codec) before decision) = some address →
      replyAfter (step aead) (init codec)
          (before ++ decision :: between) (.beginCommit (some address)) =
        .failed .replayDuplicate ∧
      replyAfter (step aead) (init codec)
          (before ++ decision :: between) (.finishCommit address) = .pending ∧
      replyAfter (step aead) (init codec)
          (before ++ decision :: between) (.discard (some address)) =
        .failed .replayDuplicate) ∧
    (∀ (actions : List EnvelopeActionV1) (a : EnvelopeActionV1),
      committedRecord a (replyAfter (step aead)
          (init codec) actions a) = none →
      (stateAfter (step aead) (init codec)
          (actions ++ [a])).codec =
        (stateAfter (step aead) (init codec) actions).codec) := by
  refine ⟨?_, ?_, ?_⟩
  · intro actions
    have hrun : (stateAfter (step aead)
        (init codec) actions).codec.Represents
          ([] ++ emissions (step aead) committedRecord (init codec) actions) :=
      history_stateAfter (fun (w : EnvelopeWorldV1) history => w.codec.Represents history)
        (fun _ _ a h => represents_step h a) (newRoleEnvelopeV1_represents hnew) actions
    simpa using hrun.nodup
  · intro before between decision address hsettles
    have hheld : (stateAfter (step aead) (init codec) before).HeldDecided :=
      stateAfter_invariant EnvelopeWorldV1.HeldDecided (fun w a h => heldDecided_step h a)
        (by simp [EnvelopeWorldV1.HeldDecided, init]) before
    have hsettled : (stateAfter (step aead)
        (init codec) (before ++ decision :: between)).Settled
          address := by
      rw [stateAfter_append, stateAfter_cons]
      exact stateAfter_invariant (fun w : EnvelopeWorldV1 => w.Settled address)
        (fun w a h => settled_step h a) (settled_of_settledCapability hheld hsettles) between
    exact replies_of_settled hsettled
  · intro actions a hnone
    rw [stateAfter_append]
    exact codec_step_of_not_committed hnone

/-- The first application record of slot seven, as the relay receives it. -/
def sampleRecordV1 : EnvelopeRecordV1 where
  recordType := 1
  epoch := 5
  direction := directionClientToRelayV1
  slot := 7
  sequence := 0
  sealedLength := 17
  ciphertext := 42 :: replicate 16 0

/-- Two authentications of one record, whose commits then race. -/
def sampleActionsV1 : List EnvelopeActionV1 :=
  [.beginAuthenticate none .nonceApplicationRecordV1 sampleRecordV1 [],
    .beginAuthenticate none .nonceApplicationRecordV1 sampleRecordV1 [],
    .checkSequence 0, .checkSequence 1, .finishAuthenticate 1,
    .finishAuthenticate 0, .beginCommit (some 0), .beginCommit (some 1)]

theorem capability_commits_at_most_once_race :
    ∃ codec,
      newRoleEnvelopeV1 sampleScheduleV1 sampleContextV1 false true = .ok codec ∧
      replyAfter (step plainAEAD) (init codec)
          sampleActionsV1 (.finishCommit 1) = .committed ⟨7, 5, 0⟩ ∧
      replyAfter (step plainAEAD) (init codec)
          (sampleActionsV1 ++ .finishCommit 1 :: [.finishCommit 0])
          (.beginCommit (some 1)) = .failed .replayDuplicate ∧
      (emissions (step plainAEAD) committedRecord (init codec)
        (sampleActionsV1 ++ [.finishCommit 1, .finishCommit 0])).Nodup := by
  have hsafe := capability_commits_at_most_once plainAEAD (sampleCodec_ok false true)
  refine ⟨_, sampleCodec_ok false true, by rfl, ?_, hsafe.1 _⟩
  exact (hsafe.2.1 sampleActionsV1 [.finishCommit 0] (.finishCommit 1) 1 (by rfl)).1

end Kurdistan.Security
