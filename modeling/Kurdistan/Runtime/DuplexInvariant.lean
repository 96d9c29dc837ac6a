import Kurdistan.Runtime.DuplexSpec

/-!
# Invariants of one duplex endpoint

Everything here holds for any calls with any bytes. A closed endpoint stays closed and
refuses every seal and open; data is sealed and delivered only by a bound endpoint; of the
frames which were handed out only the pending one is open, and it has the capability for
the record it came in.
-/

namespace Kurdistan.Runtime

open Support Security Framing Protocol List

variable {source : RandSource} {aead : AEAD} {s : ProcessDuplexStateV1 source}

/-! ## Kinds of calls -/

/-- The calls which seal or open a record. -/
def DuplexCall.sealsOrOpens : DuplexCall → Bool
  | .commit _ | .discard _ | .abort => false
  | _ => true

/-- A call which sealed application data or delivered it. -/
def DuplexCall.movesData : DuplexCall → DuplexReply → Bool
  | .sealOperation _ _, .record _ | .sealData _ _ _ _, .record _ | .openFrame _, .frame _ =>
    true
  | _, _ => false

/-- A close, a failed open or a discarded frame. -/
def DuplexCall.terminates : DuplexCall → DuplexReply → Bool
  | .sealClose _, _ | .abort, _ | .discard _, .done => true
  | .acceptEngineReady _, .failed _ | .acceptProfileBind _ _, .failed _
  | .openFrame _, .failed _ => true
  | _, _ => false

/-- The frame which a call committed. -/
def DuplexCall.committedFrame : DuplexCall → DuplexReply → Option ℕ
  | .commit address, .done => some address
  | _, _ => none

/-- A control record which was received: control records are committed at once. -/
def DuplexCall.receivesControl : DuplexCall → DuplexReply → Bool
  | .acceptEngineReady _, .done | .acceptProfileBind _ _, _ | .openFrame _, .done
  | .openFrame _, .failed .linkClosed => true
  | _, _ => false

namespace ProcessDuplexStateV1

/-! ## What never changes -/

theorem client_step (aead : AEAD) (htidy : s.Tidy) (call : DuplexCall) :
    (s.step aead call).1.client = s.client ∧ (s.step aead call).1.digest = s.digest := by
  refine step_turns aead htidy call fun next reply hturn => ?_
  cases hturn <;> exact ⟨rfl, rfl⟩

/-! ## Closed endpoints -/

theorem tidy_step (aead : AEAD) (htidy : s.Tidy) (call : DuplexCall) :
    (s.step aead call).1.Tidy := by
  refine step_turns aead htidy call fun next reply hturn => ?_
  cases hturn with
  | refused => exact htidy
  | failed | aborted | discarded | sealedClose | bindUnanswered | linkClosed =>
    exact fun _ => ⟨rfl, rfl, rfl⟩
  | bindSent | sealed | ready | bindAccepted | keepalive | delivered | committed =>
    exact tidy_of_open ‹_›

theorem closed_step (htidy : s.Tidy) (hclosed : s.closed = true) (call : DuplexCall) :
    (s.step aead call).1.closed = true := by
  refine step_turns aead htidy call fun next reply hturn => ?_
  cases hturn with
  | refused => exact hclosed
  | failed | aborted | discarded | sealedClose | bindUnanswered | linkClosed => rfl
  | bindSent | sealed | ready | bindAccepted | keepalive | delivered | committed =>
    exact hclosed

variable {call : DuplexCall}

theorem failed_of_closed (htidy : s.Tidy) (hclosed : s.closed = true)
    (hcall : call.sealsOrOpens = true) : ∃ err, (s.step aead call).2 = .failed err := by
  refine step_turns aead htidy call fun next reply hturn => ?_
  have hopen : s.closed = false → ∃ err, reply = .failed err := by
    intro hopen
    rw [hclosed] at hopen
    cases hopen
  cases hturn with
  | refused | failed | bindUnanswered | linkClosed => exact ⟨_, rfl⟩
  | aborted | discarded | committed => cases hcall
  | bindSent | sealed | sealedClose | ready | bindAccepted | keepalive | delivered =>
    exact hopen ‹_›

theorem closed_of_terminates (htidy : s.Tidy) (h : call.terminates (s.step aead call).2 = true) :
    (s.step aead call).1.closed = true := by
  revert h
  refine step_turns aead htidy call fun next reply hturn h => ?_
  cases hturn with
  | refused call err hcall =>
    cases call <;> simp_all [DuplexCall.mayRefuse, DuplexCall.terminates]
  | failed | aborted | discarded | sealedClose | bindUnanswered | linkClosed => rfl
  | sealed call nonces log encoded hcall =>
    cases call <;> simp_all [DuplexCall.sealsData, DuplexCall.terminates]
  | bindSent | ready | bindAccepted | keepalive | delivered | committed => cases h

/-! ## Binding -/

theorem bound_of_movesData (htidy : s.Tidy) (h : call.movesData (s.step aead call).2 = true) :
    s.bound = true := by
  revert h
  refine step_turns aead htidy call fun next reply hturn h => ?_
  cases hturn with
  | sealed | delivered => assumption
  | refused call err => cases call <;> cases h
  | failed call codec log err => cases call <;> cases h
  | aborted | discarded | bindSent | sealedClose | ready | bindAccepted | bindUnanswered
  | keepalive | linkClosed | committed => cases h

/-- A relay which becomes bound has just accepted the profile bind record for its digest
and for the exporter it was given. -/
theorem relay_binds (htidy : s.Tidy) (hrelay : s.client = false) (hunbound : s.bound = false)
    (hbound : (s.step aead call).1.bound = true) :
    ∃ encoded exporter, call = .acceptProfileBind encoded exporter ∧
      ∃ m ciphertext, .accepted s.codec.codec.inbound m ciphertext ∈
          (s.step aead call).1.log ∧
        m.plaintext = profileBindBody exporter s.digest := by
  revert hbound
  refine step_turns aead htidy call fun next reply hturn hbound => ?_
  cases hturn with
  | bindAccepted encoded exporter codec log ready hopen _ _ hroom hsend hcodec hlog hbody =>
    exact ⟨encoded, exporter, rfl, hbody⟩
  | ready encoded codec log hopen hclient =>
    rw [hrelay] at hclient
    cases hclient
  | refused | bindSent | sealed | keepalive | delivered | committed =>
    exact absurd (hunbound.symm.trans hbound) (by simp)
  | failed | aborted | discarded | sealedClose | bindUnanswered | linkClosed =>
    cases hbound

/-! ## The log -/

theorem log_step (aead : AEAD) (htidy : s.Tidy) (call : DuplexCall) :
    LogGrows aead s call (s.step aead call).1.log := by
  refine step_turns aead htidy call fun next reply hturn => ?_
  cases hturn with
  | refused | aborted | discarded | committed => exact .refl
  | _ => assumption

/-! ## Frames -/

/-- The frame at an address was finished. -/
def Finished (s : ProcessDuplexStateV1 source) (address : ℕ) : Prop :=
  ∃ frame, s.frames[address]? = some frame ∧ frame.terminal = true

variable {address : ℕ}

theorem finished_modify {frames : List AuthenticatedInnerFrameV1} {other : ℕ}
    (h : ∃ frame, frames[address]? = some frame ∧ frame.terminal = true) :
    ∃ frame, (frames.modify other finishedFrame)[address]? = some frame ∧
      frame.terminal = true := by
  obtain ⟨frame, hframe, hterminal⟩ := h
  rw [getElem?_modify, hframe]
  by_cases hother : other = address
  · exact ⟨finishedFrame frame, by simp [hother], rfl⟩
  · exact ⟨frame, by simp [hother], hterminal⟩

theorem finished_settledFrames (h : s.Finished address) :
    ∃ frame, s.settledFrames[address]? = some frame ∧ frame.terminal = true := by
  rw [settledFrames]
  rcases s.pending with _ | other
  · exact h
  · exact finished_modify h

theorem finished_step (htidy : s.Tidy) (h : s.Finished address) (call : DuplexCall) :
    (s.step aead call).1.Finished address := by
  refine step_turns aead htidy call fun next reply hturn => ?_
  cases hturn with
  | refused | bindSent | sealed | ready | bindAccepted | keepalive => exact h
  | failed | aborted | discarded | sealedClose | bindUnanswered | linkClosed =>
    exact finished_settledFrames h
  | committed => exact finished_modify h
  | delivered =>
    obtain ⟨frame, hframe, hterminal⟩ := h
    have hlt := (List.getElem?_eq_some_iff.mp hframe).1
    exact ⟨frame, by rw [getElem?_append_left hlt, hframe], hterminal⟩

theorem finished_of_commit (htidy : s.Tidy)
    (h : call.committedFrame (s.step aead call).2 = some address) :
    ¬ s.Finished address ∧ (s.step aead call).1.Finished address := by
  revert h
  refine step_turns aead htidy call fun next reply hturn h => ?_
  cases hturn with
  | committed other frame replay state codec hframe hopen hfresh =>
    obtain rfl : other = address := Option.some.inj h
    constructor
    · rintro ⟨found, hfound, hterminal⟩
      rw [hframe, Option.some.injEq] at hfound
      rw [← hfound, hfresh] at hterminal
      cases hterminal
    · exact ⟨finishedFrame frame, by rw [getElem?_modify, hframe]; simp, rfl⟩
  | refused call | failed call | sealed call => cases call <;> cases h
  | aborted | discarded | bindSent | sealedClose | ready | bindAccepted | bindUnanswered
  | keepalive | linkClosed | delivered => cases h

/-- Of the frames which were handed out only the pending one is open. It has the
capability for the record it came in. -/
structure FramesSound (s : ProcessDuplexStateV1 source) : Prop where
  tidy : s.Tidy
  only : ∀ i frame, s.frames[i]? = some frame → frame.terminal = false → s.pending = some i
  held : ∀ i, s.pending = some i → ∃ frame replay, s.frames[i]? = some frame ∧
    frame.replay = some replay ∧
    s.codec.Holds replay frame.streamID.toUInt16 frame.sequence
  bound : s.pending.isSome → s.bound = true

theorem framesSound_new (client : Bool) (digest : FixedBytes 32) (codec : EnvelopeCodecV1)
    (program : ProgramV1) (limit : ℕ) (bounded : Option (DuplexWorkspaceV3 source)) :
    (newProcessDuplexStateV1 client digest codec program limit bounded).FramesSound where
  tidy := tidy_of_open rfl
  only := by intro i frame hframe; simp [newProcessDuplexStateV1] at hframe
  held := nofun
  bound := nofun

variable {frame : AuthenticatedInnerFrameV1}

section Frames

variable {i : ℕ} (honly : ∀ i frame, s.frames[i]? = some frame → frame.terminal = false →
  s.pending = some i)

include honly

theorem terminal_of_idle (hidle : s.pending = none) (hframe : s.frames[i]? = some frame) :
    frame.terminal = true := by
  by_contra hfresh
  have hsome := honly i frame hframe (by simpa using hfresh)
  rw [hidle] at hsome
  cases hsome

theorem terminal_modify (hpending : s.pending = some address)
    (hframe : (s.frames.modify address finishedFrame)[i]? = some frame) :
    frame.terminal = true := by
  by_cases hi : address = i
  · obtain ⟨found, -, rfl⟩ : ∃ found, s.frames[i]? = some found ∧
        finishedFrame found = frame := by simpa [hi] using hframe
    rfl
  · by_contra hfresh
    have hframe : s.frames[i]? = some frame := by simpa [hi] using hframe
    have hother := honly i frame hframe (by simpa using hfresh)
    rw [hpending, Option.some.injEq] at hother
    exact hi hother

theorem terminal_settledFrames (hframe : s.settledFrames[i]? = some frame) :
    frame.terminal = true := by
  rw [settledFrames] at hframe
  rcases hpending : s.pending with _ | address
  · rw [hpending] at hframe
    exact terminal_of_idle honly hpending hframe
  · rw [hpending] at hframe
    exact terminal_modify honly hpending hframe

end Frames

theorem framesSound_idle (htidy : s.Tidy) (hidle : s.pending = none)
    (hterminal : ∀ {i : ℕ} {frame : AuthenticatedInnerFrameV1},
      s.frames[i]? = some frame → frame.terminal = true) :
    s.FramesSound where
  tidy := htidy
  only i frame hframe hfresh := by
    rw [hterminal hframe] at hfresh
    cases hfresh
  held i hi := by
    rw [hidle] at hi
    cases hi
  bound hsome := by
    rw [hidle] at hsome
    cases hsome

variable (h : s.FramesSound)

include h

theorem idle_of_unbound (hunbound : s.bound = false) : s.pending = none := by
  rcases hpending : s.pending with _ | address
  · rfl
  · have hbound := h.bound (by rw [hpending]; rfl)
    rw [hunbound] at hbound
    cases hbound

theorem framesSound_step (call : DuplexCall) : (s.step aead call).1.FramesSound := by
  have htidy := tidy_step aead h.tidy call
  have hturn := turn_step aead h.tidy call
  generalize s.step aead call = result at hturn htidy ⊢
  obtain ⟨next, reply⟩ := result
  cases hturn with
  | refused => exact h
  | failed | aborted | discarded | sealedClose | bindUnanswered | linkClosed =>
    exact framesSound_idle htidy rfl (terminal_settledFrames h.only)
  | bindSent | sealed => exact ⟨htidy, h.only, h.held, h.bound⟩
  | ready | bindAccepted =>
    have hidle := idle_of_unbound h ‹_›
    exact framesSound_idle htidy hidle (terminal_of_idle h.only hidle)
  | keepalive encoded codec log hopen hbound hidle =>
    exact framesSound_idle htidy hidle (terminal_of_idle h.only hidle)
  | committed address frame replay state codec hframe hopen hfresh hpending =>
    exact framesSound_idle htidy rfl (terminal_modify h.only hpending)
  | delivered encoded codec log operation streamID sequence replay hopen hbound hidle hroom
      hcodec hholds =>
      refine ⟨htidy, ?_, ?_, fun _ => hbound⟩
      · intro i frame hframe hfresh
        rcases Nat.lt_trichotomy i s.frames.length with hi | rfl | hi
        · rw [getElem?_append_left hi] at hframe
          rw [terminal_of_idle h.only hidle hframe] at hfresh
          cases hfresh
        · rfl
        · rw [getElem?_eq_none (by simpa using Nat.succ_le_of_lt hi)] at hframe
          cases hframe
      · intro i hi
        obtain rfl : s.frames.length = i := Option.some.inj hi
        exact ⟨⟨operation, streamID, sequence, some replay, false⟩, replay, by simp, rfl, hholds⟩

/-! ## Replay windows -/

/-- The replay windows of an endpoint move in two ways only: a control record is received,
or the pending frame is committed, which advances the window for the record it came in. -/
theorem replay_step (call : DuplexCall) :
    SameReplay s.codec (s.step aead call).1.codec ∨
    (call.receivesControl (s.step aead call).2 = true ∧
      Advances s.codec (s.step aead call).1.codec) ∨
    (∃ address frame, call = .commit address ∧ (s.step aead call).2 = .done ∧
      s.pending = some address ∧ s.frames[address]? = some frame ∧
      s.codec.codec.commitReplayV1 frame.streamID.toUInt16 frame.sequence =
        ((s.step aead call).1.codec.codec, .ok ())) := by
  refine step_turns aead h.tidy call fun next reply hturn => ?_
  cases hturn with
  | refused => exact Or.inl (.of_eq rfl)
  | failed | aborted | discarded | sealedClose => exact Or.inl ‹_›
  | bindSent exporter nonces | sealed call nonces => exact Or.inl ⟨nonces, rfl⟩
  | ready | bindAccepted | bindUnanswered | keepalive | linkClosed =>
    exact Or.inr (Or.inl ⟨rfl, ‹_›⟩)
  | delivered => exact Or.inl (.of_eq ‹_›)
  | committed address frame replay state codec hframe hopen hfresh hpending hreplay hstate hcodec =>
    obtain ⟨found, capability, hfound, hcapability, held, hheld, -, -, hslot, hsequence⟩ :=
      h.held address hpending
    rw [hframe, Option.some.injEq] at hfound
    subst hfound
    rw [hreplay, Option.some.injEq] at hcapability
    subst hcapability
    rw [hstate, Option.some.injEq] at hheld
    subst hheld
    rw [hslot, hsequence] at hcodec
    exact Or.inr (Or.inr ⟨address, frame, rfl, rfl, hpending, hframe, hcodec⟩)

end ProcessDuplexStateV1

end Kurdistan.Runtime
