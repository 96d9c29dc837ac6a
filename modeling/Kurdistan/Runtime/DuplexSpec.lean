import Kurdistan.Runtime.Duplex
import Kurdistan.Security.InOrder

/-!
# What a call of a duplex endpoint does

`Turn` lists every way in which a call can change an endpoint and what it then returns;
`turn_step` says that there is no other. The invariants of the endpoints are read off
this list and not off the methods.
-/

namespace Kurdistan.Security.EnvelopeWorldV1

open Support

variable {aead : AEAD} {w next : EnvelopeWorldV1} {address : ℕ}

/-! ## Capabilities which are still open -/

/-- The capability at an address belongs to this codec, is undecided and stands for the
given record. -/
def Holds (w : EnvelopeWorldV1) (address : ℕ) (slot : UInt16) (sequence : UInt64) : Prop :=
  ∃ state, w.capabilities[address]? = some state ∧ w.validLockedV1 address state = true ∧
    state.decided = false ∧ state.slot = slot ∧ state.sequence = sequence

/-- The codec of a world with other nonces. -/
def withNonces (w : EnvelopeWorldV1) (nonces : NonceOwnerV1) : EnvelopeWorldV1 :=
  { w with codec := { w.codec with nonces := nonces } }

variable {dst : Option BorrowedDestinationV1} {recordClass : NonceRecordClassV1}

theorem authenticate_eq_ok {record : EnvelopeRecordV1} {recordAAD plaintext : List UInt8}
    (h : w.authenticate aead dst recordClass record recordAAD =
      (next, .ok (plaintext, address))) :
    w.codec.authenticateDestinationV1 aead dst recordClass record recordAAD =
        .ok plaintext ∧
      next.codec = w.codec ∧ next.Holds address record.slot record.sequence := by
  rw [authenticate] at h
  rcases hopen : w.codec.authenticateDestinationV1 aead dst recordClass record recordAAD with
    err | opened
  · simp [hopen] at h
  · rw [hopen] at h
    obtain ⟨rfl, rfl, rfl⟩ := h
    refine ⟨rfl, rfl, w.newAuthenticatedReplayV1 w.capabilities.length record.slot
      record.sequence, ?_, ?_, rfl, rfl, rfl⟩
    · simp
    · simp [validLockedV1, newAuthenticatedReplayV1]

theorem authenticate_eq_error {record : EnvelopeRecordV1} {recordAAD : List UInt8}
    {err : SecurityError}
    (h : w.authenticate aead dst recordClass record recordAAD = (next, .error err)) : next = w := by
  rw [authenticate] at h
  rcases hopen : w.codec.authenticateDestinationV1 aead dst recordClass record recordAAD with
    err' | opened
  · rw [hopen] at h
    exact (Prod.mk.inj h).1.symm
  · simp [hopen] at h

theorem commit_cases (w : EnvelopeWorldV1) (address : ℕ) :
    (∃ next err, w.commit address = (next, .error err) ∧ next.codec = w.codec) ∨
    (∃ next state, w.capabilities[address]? = some state ∧
      w.commit address = (next, .ok ()) ∧
      w.codec.commitReplayV1 state.slot state.sequence = (next.codec, .ok ())) := by
  rw [commit]
  rcases hstate : w.capabilities[address]? with _ | state
  · exact Or.inl ⟨w, _, rfl, rfl⟩
  simp only
  split_ifs with hrefused
  · exact Or.inl ⟨w, _, rfl, rfl⟩
  rcases w.codec.commitReplayV1_cases state.slot state.sequence with
    ⟨err, hcommit⟩ | ⟨window, -, -, hcommit⟩
  · exact Or.inl ⟨{ w.markDecided address state with codec := w.codec }, err, by rw [hcommit], rfl⟩
  · exact Or.inr ⟨_, state, rfl, by rw [hcommit], by rw [hcommit]⟩

@[simp] theorem discard_codec (w : EnvelopeWorldV1) (capability : Option ℕ) :
    (w.discard capability).1.codec = w.codec := by
  rcases capability with _ | address
  · rfl
  simp only [discard]
  split_ifs
  · rfl
  · rcases w.capabilities[address]? with _ | state
    · rfl
    · simp only
      split_ifs <;> rfl

end Kurdistan.Security.EnvelopeWorldV1

theorem Kurdistan.Security.EnvelopeCodecV1.commitReplayV1_eq
    (c : Kurdistan.Security.EnvelopeCodecV1) (slot : UInt16) (sequence : UInt64) :
    ∃ replay, (c.commitReplayV1 slot sequence).1 = { c with replay := replay } := by
  rcases c.commitReplayV1_cases slot sequence with ⟨err, hcommit⟩ | ⟨window, -, -, hcommit⟩
  · exact ⟨c.replay, by rw [hcommit]⟩
  · rw [hcommit]
    exact ⟨_, rfl⟩

namespace Kurdistan.Runtime

open Support Security Framing Protocol

variable {source : RandSource} {aead : AEAD} {s : ProcessDuplexStateV1 source} {call : DuplexCall}

/-! ## The parts of a turn -/

/-- The bodies which a call seals. -/
def DuplexCall.Seals (s : ProcessDuplexStateV1 source) (body : List UInt8) : DuplexCall → Prop
  | .profileBind exporter => s.client = true ∧ body = profileBindBody exporter s.digest
  | .acceptProfileBind _ _ => body = processReadyMagicV1
  | .sealOperation _ _ | .sealData _ _ _ _ | .sealKeepalive | .sealClose _ =>
    body.take 8 = duplexMagicV1
  | _ => False

/-- What a call may add to the log: encryptions of bodies it seals, under the outbound
key, and decryptions under the inbound key. -/
inductive EventOf (aead : AEAD) (s : ProcessDuplexStateV1 source) (call : DuplexCall) :
    AEADEvent → Prop
  | sealed (m : AEADMessage) (h : call.Seals s m.plaintext) :
      EventOf aead s call (.released s.codec.codec.outbound m
        (aead.encrypt s.codec.codec.outbound m.nonce m.plaintext m.aad))
  | opened (m : AEADMessage) (ciphertext : List UInt8)
      (h : aead.decrypt s.codec.codec.inbound m.nonce ciphertext m.aad = some m.plaintext) :
      EventOf aead s call (.accepted s.codec.codec.inbound m ciphertext)

/-- The log grew by events of a call. -/
def LogGrows (aead : AEAD) (s : ProcessDuplexStateV1 source) (call : DuplexCall)
    (log : List AEADEvent) : Prop :=
  ∃ events, log = events ++ s.log ∧ ∀ event ∈ events, EventOf aead s call event

/-- No replay window moved. -/
def SameReplay (codec next : EnvelopeWorldV1) : Prop :=
  ∃ nonces, next.codec = { codec.codec with nonces := nonces }

/-- One record was committed to its replay window. -/
def Advances (codec next : EnvelopeWorldV1) : Prop :=
  ∃ slot sequence committed nonces,
    codec.codec.commitReplayV1 slot sequence = (committed, .ok ()) ∧
      next.codec = { committed with nonces := nonces }

theorem LogGrows.refl : LogGrows aead s call s.log := ⟨[], rfl, by simp⟩

variable {log : List AEADEvent}

theorem LogGrows.cons {event : AEADEvent} (h : LogGrows aead s call log)
    (hevent : EventOf aead s call event) : LogGrows aead s call (event :: log) := by
  obtain ⟨events, rfl, hevents⟩ := h
  exact ⟨event :: events, rfl, by simpa using ⟨hevent, hevents⟩⟩

theorem SameReplay.of_eq {codec next : EnvelopeWorldV1} (h : next.codec = codec.codec) :
    SameReplay codec next := ⟨codec.codec.nonces, h⟩

namespace ProcessDuplexStateV1

/-- The frames after the pending one was finished. -/
def settledFrames (s : ProcessDuplexStateV1 source) : List AuthenticatedInnerFrameV1 :=
  match s.pending with
  | none => s.frames
  | some address => s.frames.modify address finishedFrame

/-- The endpoint after it was closed. -/
def closedWith (s : ProcessDuplexStateV1 source) (codec : EnvelopeWorldV1)
    (log : List AEADEvent) : ProcessDuplexStateV1 source :=
  { s with
    codec := codec
    log := log
    closed := true
    bound := false
    bindStarted := false
    pending := none
    frames := s.settledFrames }

/-- The endpoint after it sealed a record. -/
def sealedWith (s : ProcessDuplexStateV1 source) (nonces : NonceOwnerV1)
    (log : List AEADEvent) : ProcessDuplexStateV1 source :=
  { s with codec := s.codec.withNonces nonces, log := log, sendCount := s.sendCount + 1 }

/-- A closed endpoint is not bound and has no pending frame. -/
def Tidy (s : ProcessDuplexStateV1 source) : Prop :=
  s.closed = true → s.bound = false ∧ s.bindStarted = false ∧ s.pending = none

theorem tidy_of_open {s : ProcessDuplexStateV1 source} (h : s.closed = false) : s.Tidy := by
  intro hclosed
  rw [h] at hclosed
  cases hclosed

end ProcessDuplexStateV1

/-- The calls which may fail without an effect. -/
def DuplexCall.mayRefuse : DuplexCall → Bool
  | .sealOperation _ _ | .sealData _ _ _ _ | .commit _ | .discard _ => true
  | _ => false

/-- The calls which seal on a bound endpoint and leave it open. -/
def DuplexCall.sealsData : DuplexCall → Bool
  | .sealOperation _ _ | .sealData _ _ _ _ | .sealKeepalive => true
  | _ => false

/-! ## Turns -/

/-- What a call can do to an endpoint, with its reply. -/
inductive Turn (aead : AEAD) (s : ProcessDuplexStateV1 source) :
    DuplexCall → ProcessDuplexStateV1 source → DuplexReply → Prop
  | refused (call err) (hcall : call.mayRefuse = true) : Turn aead s call s (.failed err)
  | failed (call codec log err) (herr : err ≠ .linkClosed)
      (hcodec : SameReplay s.codec codec) (hlog : LogGrows aead s call log) :
      Turn aead s call (s.closedWith codec log) (.failed err)
  | aborted (codec) (hcodec : SameReplay s.codec codec) :
      Turn aead s .abort (s.closedWith codec s.log) .done
  | discarded (address codec) (hcodec : SameReplay s.codec codec) :
      Turn aead s (.discard address) (s.closedWith codec s.log) .done
  | bindSent (exporter nonces log encoded) (hopen : s.closed = false)
      (hroom : s.sendCount < s.maxMessages)
      (hlog : LogGrows aead s (.profileBind exporter) log) :
      Turn aead s (.profileBind exporter)
        { s.sealedWith nonces log with bindStarted := true } (.record encoded)
  | sealed (call nonces log encoded) (hcall : call.sealsData = true)
      (hopen : s.closed = false) (hbound : s.bound = true)
      (hroom : s.sendCount < s.maxMessages) (hlog : LogGrows aead s call log) :
      Turn aead s call (s.sealedWith nonces log) (.record encoded)
  | sealedClose (code codec log encoded) (hopen : s.closed = false)
      (hroom : s.sendCount < s.maxMessages) (hcodec : SameReplay s.codec codec) (hlog : LogGrows
        aead s (.sealClose code) log) :
      Turn aead s (.sealClose code)
        { s.closedWith codec log with sendCount := s.sendCount + 1 } (.record encoded)
  | ready (encoded codec log) (hopen : s.closed = false) (hclient : s.client = true)
      (hunbound : s.bound = false) (hroom : s.recvCount < s.maxMessages) (hcodec : Advances s.codec
        codec)
      (hlog : LogGrows aead s (.acceptEngineReady encoded) log) :
      Turn aead s (.acceptEngineReady encoded)
        { s with codec := codec, log := log, recvCount := s.recvCount + 1, bound := true }
        .done
  | bindAccepted (encoded exporter codec log ready) (hopen : s.closed = false)
      (hrelay : s.client = false) (hunbound : s.bound = false)
      (hroom : s.recvCount < s.maxMessages) (hsend : s.sendCount < s.maxMessages)
      (hcodec : Advances s.codec codec)
      (hlog : LogGrows aead s (.acceptProfileBind encoded exporter) log)
      (hbody : ∃ m ciphertext, .accepted s.codec.codec.inbound m ciphertext ∈ log ∧
        m.plaintext = profileBindBody exporter s.digest) :
      Turn aead s (.acceptProfileBind encoded exporter)
        { s with
          codec := codec
          log := log
          recvCount := s.recvCount + 1
          sendCount := s.sendCount + 1
          bound := true }
        (.record ready)
  | bindUnanswered (encoded exporter codec log err) (hroom : s.recvCount < s.maxMessages)
      (hcodec : Advances s.codec codec)
      (hlog : LogGrows aead s (.acceptProfileBind encoded exporter) log) :
      Turn aead s (.acceptProfileBind encoded exporter)
        { s.closedWith codec log with recvCount := s.recvCount + 1 } (.failed err)
  | keepalive (encoded codec log) (hopen : s.closed = false) (hbound : s.bound = true)
      (hidle : s.pending = none) (hroom : s.bounded.isSome → s.recvCount < s.maxMessages)
      (hcodec : Advances s.codec codec)
      (hlog : LogGrows aead s (.openFrame encoded) log) :
      Turn aead s (.openFrame encoded)
        { s with codec := codec, log := log, recvCount := s.recvCount + 1 } .done
  | linkClosed (encoded codec log) (hroom : s.bounded.isSome → s.recvCount < s.maxMessages)
      (hcodec : Advances s.codec codec)
      (hlog : LogGrows aead s (.openFrame encoded) log) :
      Turn aead s (.openFrame encoded)
        { s.closedWith codec log with recvCount := s.recvCount + 1 } (.failed .linkClosed)
  | delivered (encoded codec log operation streamID sequence replay)
      (hopen : s.closed = false) (hbound : s.bound = true) (hidle : s.pending = none)
      (hroom : s.bounded.isSome → s.recvCount < s.maxMessages)
      (hcodec : codec.codec = s.codec.codec)
      (hholds : codec.Holds replay (UInt32.toUInt16 streamID) sequence)
      (hlog : LogGrows aead s (.openFrame encoded) log) :
      Turn aead s (.openFrame encoded)
        { s with
          codec := codec
          log := log
          frames := s.frames ++ [⟨operation, streamID, sequence, some replay, false⟩]
          pending := some s.frames.length }
        (.frame s.frames.length)
  | committed (address frame replay state codec)
      (hframe : s.frames[address]? = some frame) (hopen : s.closed = false)
      (hfresh : frame.terminal = false) (hpending : s.pending = some address)
      (hreplay : frame.replay = some replay) (hstate : s.codec.capabilities[replay]? = some state)
      (hcodec : s.codec.codec.commitReplayV1 state.slot state.sequence =
        (codec.codec, .ok ())) :
      Turn aead s (.commit address)
        { s with
          codec := codec
          pending := none
          frames := s.frames.modify address ProcessDuplexStateV1.finishedFrame
          recvCount := s.recvCount + 1 }
        .done

/-- The outcome of a method is a turn. -/
abbrev Turns (aead : AEAD) (s : ProcessDuplexStateV1 source) (call : DuplexCall)
    (outcome : ProcessDuplexStateV1 source × DuplexReply) : Prop :=
  Turn aead s call outcome.1 outcome.2

/-! ## Closing -/

namespace ProcessDuplexStateV1

theorem closeLockedV1_eq (h : s.Tidy) :
    ∃ codec, codec.codec = s.codec.codec ∧ s.closeLockedV1 = s.closedWith codec s.log := by
  rcases hclosed : s.closed with _ | _
  · rcases hpending : s.pending with _ | address
    · simp [closeLockedV1, closedWith, settledFrames, hclosed, hpending]
    · refine ⟨if s.bounded.isSome then
          discardReplay s.codec ((s.frames[address]?).bind (·.replay)) else s.codec, ?_, ?_⟩
      · split_ifs <;> simp [discardReplay]
      · simp [closeLockedV1, closedWith, settledFrames, hclosed, hpending]
  · obtain ⟨hbound, hstarted, hpending⟩ := h hclosed
    obtain ⟨⟩ := s
    simp_all [closeLockedV1, closedWith, settledFrames]

theorem normalize_ne_linkClosed (err : RuntimeError) :
    normalizeProcessRecordErrorV1 err ≠ .linkClosed := by
  cases err with
  | security err =>
    rw [normalizeProcessRecordErrorV1]
    split_ifs <;> simp
  | _ => simp [normalizeProcessRecordErrorV1]

theorem failLockedV1_eq (s : ProcessDuplexStateV1 source) (err : RuntimeError) :
    ∃ err', err' ≠ .linkClosed ∧ s.failLockedV1 err = (s.closeLockedV1, .failed err') := by
  rw [failLockedV1]
  split_ifs
  · exact ⟨_, by simp, rfl⟩
  · exact ⟨_, normalize_ne_linkClosed err, rfl⟩

variable {codec : EnvelopeWorldV1}

theorem turn_fail (htidy : s.Tidy) (hcodec : SameReplay s.codec codec)
    (hlog : LogGrows aead s call log) (err : RuntimeError) :
    Turns aead s call ({ s with codec := codec, log := log }.failLockedV1 err) := by
  obtain ⟨err', herr, hfail⟩ := failLockedV1_eq { s with codec := codec, log := log } err
  obtain ⟨codec', hsame, hclose⟩ :=
    closeLockedV1_eq (s := { s with codec := codec, log := log }) htidy
  rw [hfail, hclose]
  obtain ⟨nonces, hnonces⟩ := hcodec
  exact .failed call codec' log err' herr ⟨nonces, hsame.trans hnonces⟩ hlog

theorem turn_guard (htidy : s.Tidy) (call : DuplexCall) (err : RuntimeError) :
    Turns aead s call (s.failLockedV1 err) :=
  turn_fail htidy (.of_eq rfl) .refl err

/-! ## Sealing -/

/-- A log with one encryption of the body more. -/
def SealLogged (aead : AEAD) (s : ProcessDuplexStateV1 source) (body : List UInt8)
    (log : List AEADEvent) : Prop :=
  ∃ m : AEADMessage, m.plaintext = body ∧
    log = .released s.codec.codec.outbound m
      (aead.encrypt s.codec.codec.outbound m.nonce m.plaintext m.aad) :: s.log

variable {body : List UInt8}

theorem SealLogged.grows (h : SealLogged aead s body log) (hcall : call.Seals s body) :
    LogGrows aead s call log := by
  obtain ⟨m, rfl, rfl⟩ := h
  exact ⟨[_], rfl, by simpa using EventOf.sealed m hcall⟩

theorem sealEnvelope_cases (aead : AEAD) (s : ProcessDuplexStateV1 source)
    (dst : Option BorrowedDestinationV1) (slot : UInt16) (body : List UInt8) :
    (∃ err, s.sealEnvelope aead dst slot body = (s, .error (.security err))) ∨
    (∃ nonces log envelope, SealLogged aead s body log ∧
      s.sealEnvelope aead dst slot body =
        ({ s with codec := s.codec.withNonces nonces, log := log }, .ok envelope)) := by
  rcases hchecks : s.codec.codec.sealChecksV1 dst .nonceApplicationRecordV1 1 slot body with
    err | ⟨⟩
  · simp [sealEnvelope, EnvelopeCodecV1.sealDestinationV1, hchecks]
  rcases s.codec.codec.nonces.outbound.allocateV1_cases .nonceApplicationRecordV1 slot with
    ⟨err, hfail⟩ | ⟨nonce, -, -, -, hok⟩
  · simp [sealEnvelope, EnvelopeCodecV1.sealDestinationV1, hchecks, nonceSlotV1, hfail]
  · right
    generalize hallocation : NonceAllocationV1.mk nonce _ _ _ slot = allocation at hok
    simp only [sealEnvelope, EnvelopeCodecV1.sealDestinationV1, hchecks, nonceSlotV1, hok,
      sealedEvent]
    refine ⟨_, _, _, ⟨⟨allocation.nonce, s.codec.codec.aadV1
      (EnvelopeCodecV1.sealedRecordV1 1 allocation body) [], body⟩, rfl, ?_⟩, rfl⟩
    rw [EnvelopeCodecV1.aadV1_of_destination _ fun _ => rfl]
    rfl

/-- What sealing a body can do: fail, or seal and count one record. -/
inductive SealOutcome (aead : AEAD) (s : ProcessDuplexStateV1 source) (body : List UInt8) :
    ProcessDuplexStateV1 source × Except RuntimeError (List UInt8) → Prop
  | failed (nonces log err) (herr : err ≠ .linkClosed)
      (hlog : log = s.log ∨ SealLogged aead s body log) :
      SealOutcome aead s body
        ({ s with codec := s.codec.withNonces nonces, log := log }, .error err)
  | sealed (nonces log encoded) (hroom : s.sendCount < s.maxMessages)
      (hlog : SealLogged aead s body log) :
      SealOutcome aead s body (s.sealedWith nonces log, .ok encoded)

theorem SealOutcome.unused (body : List UInt8) {err : RuntimeError}
    (herr : err ≠ .linkClosed) : SealOutcome aead s body (s, .error err) :=
  .failed s.codec.codec.nonces s.log err herr (Or.inl rfl)

theorem countSealed_outcome (hroom : s.sendCount < s.maxMessages)
    (dst : Option BorrowedDestinationV1) (slot : UInt16) (body : List UInt8)
    {encode : EnvelopeRecordV1 → Except RuntimeError (List UInt8)}
    (hencode : ∀ envelope err, encode envelope = .error err → err = .recordInvalid) :
    SealOutcome aead s body (countSealed (s.sealEnvelope aead dst slot body) encode) := by
  rcases sealEnvelope_cases aead s dst slot body with
    ⟨err, hfail⟩ | ⟨nonces, log, envelope, hlog, hok⟩
  · rw [hfail]
    exact .unused body (by simp)
  · rw [hok, countSealed]
    dsimp only
    rcases hencoded : encode envelope with err | encoded
    · exact .failed nonces log err (by simp [hencode envelope err hencoded]) (Or.inr hlog)
    · exact .sealed nonces log encoded hroom hlog

variable {frameType : UInt8} {outerStream : UInt32}

theorem encodeRecordFrameV1_eq_error {digest : FixedBytes 32} {record : EnvelopeRecordV1}
    {err : RuntimeError}
    (h : encodeRecordFrameV1 frameType outerStream digest record = .error err) :
    err = .recordInvalid := by
  rw [encodeRecordFrameV1, encodeProcessEnvelopeV1] at h
  by_cases hrecord : record.recordType = recordTypeApplicationFragmentV1 ∧
      (record.direction = applicationDirectionClientV1 ∨
        record.direction = applicationDirectionRelayV1) ∧
      record.slot ≠ 0 ∧ record.sealedLength = UInt32.ofNat record.ciphertext.length ∧
      aeadOverhead ≤ record.ciphertext.length
  · rw [ensure_of_pos hrecord, ok_bind, ok_bind] at h
    split at h
    · cases h
      rfl
    · cases h
  · rw [ensure_of_neg hrecord] at h
    cases h
    rfl

theorem sealBodyLockedV1_outcome (aead : AEAD) (s : ProcessDuplexStateV1 source)
    (frameType : UInt8) (outerStream : UInt32) (slot : UInt16) (body : List UInt8) :
    SealOutcome aead s body (s.sealBodyLockedV1 aead frameType outerStream slot body) := by
  rw [sealBodyLockedV1]
  split_ifs with hlimit
  · exact .unused body (by simp)
  have hroom : s.sendCount < s.maxMessages := by omega
  split
  · rw [sealBodyIntoV3Locked]
    split_ifs
    · exact .unused body (by simp)
    · refine countSealed_outcome hroom _ slot body ?_
      intro envelope err hencode
      split at hencode
      · cases hencode
        rfl
      · cases hencode
  · exact countSealed_outcome hroom _ slot body fun _ _ => encodeRecordFrameV1_eq_error

theorem SealLogged.grows_or (h : log = s.log ∨ SealLogged aead s body log)
    (hcall : call.Seals s body) : LogGrows aead s call log := by
  rcases h with rfl | h
  · exact .refl
  · exact h.grows hcall

/-- A sealing method after its guards. -/
theorem turn_sealOrFail (htidy : s.Tidy) (hopen : s.closed = false) (hbound : s.bound = true)
    (hcall : call.sealsData = true) (hbody : call.Seals s body) (frameType : UInt8)
    (outerStream : UInt32) (slot : UInt16) :
    Turns aead s call (s.sealOrFail aead frameType outerStream slot body) := by
  have hout := sealBodyLockedV1_outcome aead s frameType outerStream slot body
  rw [sealOrFail]
  generalize s.sealBodyLockedV1 .. = result at hout ⊢
  cases hout with
  | failed nonces log err herr hlog =>
    exact turn_fail htidy ⟨nonces, rfl⟩ (SealLogged.grows_or hlog hbody) err
  | sealed nonces log encoded hroom hlog =>
    exact .sealed call nonces log encoded hcall hopen hbound hroom (hlog.grows hbody)

/-! ## Opening -/

/-- A log with one decryption to the body more. -/
def OpenLogged (aead : AEAD) (s : ProcessDuplexStateV1 source) (body : List UInt8)
    (log : List AEADEvent) : Prop :=
  ∃ (m : AEADMessage) (ciphertext : List UInt8), m.plaintext = body ∧
    aead.decrypt s.codec.codec.inbound m.nonce ciphertext m.aad = some m.plaintext ∧
    log = .accepted s.codec.codec.inbound m ciphertext :: s.log

theorem OpenLogged.grows (h : OpenLogged aead s body log) (call : DuplexCall) :
    LogGrows aead s call log := by
  obtain ⟨m, ciphertext, -, hopen, rfl⟩ := h
  exact ⟨[_], rfl, by simpa using EventOf.opened m ciphertext hopen⟩

/-- What authenticating a record of a slot can do: fail, or hand out a capability. -/
inductive OpenOutcome (aead : AEAD) (s : ProcessDuplexStateV1 source) (slot : UInt16) :
    ProcessDuplexStateV1 source × Except RuntimeError AuthenticatedBody → Prop
  | failed (err) : OpenOutcome aead s slot (s, .error err)
  | opened (codec log body replay sequence) (hcodec : codec.codec = s.codec.codec)
      (hholds : codec.Holds replay slot sequence) (hlog : OpenLogged aead s body log) :
      OpenOutcome aead s slot ({ s with codec := codec, log := log }, .ok ⟨body, replay, sequence⟩)

variable {envelope : EnvelopeRecordV1}

theorem openLogged_of_authenticate {dst : Option BorrowedDestinationV1}
    (h : s.codec.codec.authenticateDestinationV1 aead dst .nonceApplicationRecordV1 envelope
      [] = .ok body) :
    OpenLogged aead s body (openedEvent s.codec.codec body envelope ++ s.log) := by
  simp only [EnvelopeCodecV1.authenticateDestinationV1, bind_ok_iff] at h
  obtain ⟨nonce, hchecks, -, -, -, -, hopen⟩ := h
  simp only [EnvelopeCodecV1.authenticateChecksV1, check_ok_iff, nonceSlotV1] at hchecks
  obtain ⟨-, htype, -, -, -, hexpected⟩ := hchecks
  have htype : envelope.recordType = 1 := by simpa [recordTypeAllowedV1] using htype
  rw [EnvelopeCodecV1.openRecordV1, EnvelopeCodecV1.aadV1_of_destination _ fun _ => htype] at hopen
  refine ⟨⟨nonce, s.codec.codec.writeApplicationAADV1 envelope, body⟩, envelope.ciphertext,
    rfl, ?_, ?_⟩
  · rcases hdecrypt : aead.decrypt s.codec.codec.inbound nonce envelope.ciphertext
        (s.codec.codec.aadV1 envelope []) with _ | plaintext
    · simp [hdecrypt] at hopen
    · simp_all [EnvelopeCodecV1.aadV1]
  · simp [openedEvent, hexpected]

theorem authenticateEnvelope_outcome (aead : AEAD) (s : ProcessDuplexStateV1 source)
    (dst : Option BorrowedDestinationV1) (envelope : EnvelopeRecordV1) :
    OpenOutcome aead s envelope.slot (s.authenticateEnvelope aead dst envelope) := by
  rw [authenticateEnvelope]
  rcases hauth : s.codec.authenticate aead dst .nonceApplicationRecordV1 envelope [] with
    ⟨codec, err | ⟨body, replay⟩⟩
  · rw [EnvelopeWorldV1.authenticate_eq_error hauth]
    exact .failed _
  · obtain ⟨hopen, hcodec, hholds⟩ := EnvelopeWorldV1.authenticate_eq_ok hauth
    exact .opened codec _ body replay envelope.sequence hcodec hholds
      (openLogged_of_authenticate hopen)

variable {encoded : Slice} {slot : UInt16}

theorem expectRecord_slot (h : s.expectRecord encoded frameType outerStream slot = .ok envelope) :
    envelope.slot = slot := by
  simp only [expectRecord, bind_ok_iff, ensure_ok_iff] at h
  obtain ⟨-, -, record, -, -, ⟨-, hslot⟩, hrecord⟩ := h
  cases hrecord
  exact hslot

theorem authenticateBodyLockedV1_outcome (aead : AEAD) (s : ProcessDuplexStateV1 source)
    (encoded : Slice) (frameType : UInt8) (outerStream : UInt32) (slot : UInt16) :
    OpenOutcome aead s slot
      (s.authenticateBodyLockedV1 aead encoded frameType outerStream slot) := by
  rw [authenticateBodyLockedV1]
  split_ifs
  · exact .failed _
  rcases hexpect : s.expectRecord encoded frameType outerStream slot with err | envelope
  · exact .failed err
  · have hout := authenticateEnvelope_outcome aead s (s.bodyDestination encoded) envelope
    rw [expectRecord_slot hexpect] at hout
    exact hout

theorem authenticateBodyLockedV1_room {authenticated : AuthenticatedBody}
    (h : (s.authenticateBodyLockedV1 aead encoded frameType outerStream slot).2 =
      .ok authenticated) : s.recvCount < s.maxMessages := by
  by_contra hlimit
  rw [authenticateBodyLockedV1, if_pos (by omega)] at h
  cases h

/-- What committing a capability can do: fail, or advance a window and count. -/
inductive CommitOutcome (s : ProcessDuplexStateV1 source) (replay : ℕ) :
    ProcessDuplexStateV1 source × Except RuntimeError Unit → Prop
  | failed (codec err) (hcodec : codec.codec = s.codec.codec) :
      CommitOutcome s replay ({ s with codec := codec }, .error err)
  | advanced (codec state) (hstate : s.codec.capabilities[replay]? = some state)
      (hcodec : s.codec.codec.commitReplayV1 state.slot state.sequence =
        (codec.codec, .ok ())) :
      CommitOutcome s replay ({ s with codec := codec, recvCount := s.recvCount + 1 }, .ok ())

theorem commitReplay_outcome (s : ProcessDuplexStateV1 source) (replay : ℕ) :
    CommitOutcome s replay (s.commitReplay replay) := by
  rw [commitReplay]
  rcases s.codec.commit_cases replay with
    ⟨next, err, hcommit, hcodec⟩ | ⟨next, state, hstate, hcommit, hcodec⟩
  · rw [hcommit]
    exact .failed next _ hcodec
  · rw [hcommit]
    exact .advanced next state hstate hcodec

/-- A commit which fails the endpoint or goes on with `finish`. -/
theorem turn_commitReplay (htidy : s.Tidy) (hcodec : codec.codec = s.codec.codec)
    (hlog : OpenLogged aead s body log) (replay : ℕ)
    {finish : ProcessDuplexStateV1 source → ProcessDuplexStateV1 source × DuplexReply}
    (hfinish : ∀ next slot sequence,
      s.codec.codec.commitReplayV1 slot sequence = (next.codec, .ok ()) → Turns aead s call
        (finish { s with codec := next, log := log, recvCount := s.recvCount + 1 })) :
    Turns aead s call
      (match { s with codec := codec, log := log }.commitReplay replay with
      | (next, .error err) => next.failLockedV1 err
      | (next, .ok ()) => finish next) := by
  have hcommit := commitReplay_outcome { s with codec := codec, log := log } replay
  generalize commitReplay _ replay = result at hcommit ⊢
  cases hcommit with
  | failed next err hnext =>
    exact turn_fail htidy (.of_eq (hnext.trans hcodec)) (hlog.grows _) err
  | advanced next state hstate hnext =>
    rw [hcodec] at hnext
    exact hfinish next _ _ hnext

theorem turn_reject (htidy : s.Tidy) (hcodec : codec.codec = s.codec.codec)
    (hlog : OpenLogged aead s body log) (replay : ℕ) (err : RuntimeError) :
    Turns aead s call ({ s with codec := codec, log := log }.reject replay err) :=
  turn_fail htidy (.of_eq (by simpa [discardReplay] using hcodec)) (hlog.grows call) err

theorem turn_acceptEngineReadyV1 (htidy : s.Tidy) (encoded : Slice) :
    Turns aead s (.acceptEngineReady encoded) (s.acceptEngineReadyV1 aead encoded) := by
  rw [acceptEngineReadyV1]
  split_ifs with hguard
  · exact turn_guard htidy _ _
  simp only [validLockedV1, Bool.not_eq_true, Bool.or_eq_false_iff, Bool.not_eq_false',
    Bool.not_eq_true'] at hguard
  obtain ⟨⟨⟨hopen, hclient⟩, -⟩, hunbound⟩ := hguard
  have hout := authenticateBodyLockedV1_outcome aead s encoded Wire.typeEngineReady 0
    processControlSlotV1
  generalize hresult : s.authenticateBodyLockedV1 .. = result at hout ⊢
  cases hout with
  | failed err => exact turn_guard htidy _ err
  | opened codec log body replay sequence hcodec hholds hlog =>
    have hroom := authenticateBodyLockedV1_room (congrArg Prod.snd hresult)
    dsimp only
    split_ifs with hbody
    · exact turn_reject htidy hcodec hlog replay _
    refine turn_commitReplay htidy hcodec hlog replay fun next slot sequence hnext => ?_
    exact .ready encoded next log hopen hclient hunbound hroom ⟨_, _, _, _, hnext, rfl⟩
      (hlog.grows _)

/-- The answer to a profile bind record which was committed. -/
theorem turn_answerBind (htidy : s.Tidy) {exporter : FixedBytes 32} {sequence : UInt64}
    (hopen : s.closed = false) (hrelay : s.client = false) (hunbound : s.bound = false)
    (hroom : s.recvCount < s.maxMessages)
    (hcodec : s.codec.codec.commitReplayV1 slot sequence = (codec.codec, .ok ()))
    (hbody : body = profileBindBody exporter s.digest) (hlog : OpenLogged aead s body log) :
    let committed := { s with codec := codec, log := log, recvCount := s.recvCount + 1 }
    let answer : ProcessDuplexStateV1 source × DuplexReply :=
      match committed.sealBodyLockedV1 aead Wire.typeEngineReady 0 processControlSlotV1
          processReadyMagicV1 with
      | (next, .error err) => next.failLockedV1 err
      | (next, .ok ready) => ({ next with bound := true }, .record ready)
    Turn aead s (.acceptProfileBind encoded exporter) answer.1 answer.2 := by
  intro committed answer
  obtain ⟨windows, hwindows⟩ := s.codec.codec.commitReplayV1_eq slot sequence
  rw [hcodec] at hwindows
  have hout := sealBodyLockedV1_outcome aead committed Wire.typeEngineReady 0
    processControlSlotV1 processReadyMagicV1
  have hsealed : ∀ log', SealLogged aead committed processReadyMagicV1 log' →
      LogGrows aead s (.acceptProfileBind encoded exporter) log' := by
    rintro log' ⟨m, hm, rfl⟩
    have hkey := congrArg EnvelopeCodecV1.outbound hwindows
    rw [hkey]
    exact (hlog.grows _).cons (.sealed m hm)
  simp only [answer]
  generalize committed.sealBodyLockedV1 .. = result at hout ⊢
  cases hout with
  | failed nonces log' err herr hlog' =>
    have hgrows : LogGrows aead s (.acceptProfileBind encoded exporter) log' := by
      rcases hlog' with rfl | hlog'
      · exact hlog.grows _
      · exact hsealed log' hlog'
    dsimp only
    obtain ⟨err', -, hfail⟩ := failLockedV1_eq
      { committed with codec := committed.codec.withNonces nonces, log := log' } err
    obtain ⟨next, hnext, hclose⟩ := closeLockedV1_eq
      (s := { committed with codec := committed.codec.withNonces nonces, log := log' }) htidy
    rw [hfail, hclose]
    exact .bindUnanswered encoded exporter next log' err' hroom
      ⟨_, _, _, nonces, hcodec, hnext⟩ hgrows
  | sealed nonces log' ready hsend hlog' =>
    refine .bindAccepted encoded exporter _ log' ready hopen hrelay hunbound hroom hsend
      ⟨_, _, _, nonces, hcodec, rfl⟩ (hsealed log' hlog') ?_
    obtain ⟨m, -, rfl⟩ := hlog'
    obtain ⟨m', ciphertext, hm', -, rfl⟩ := hlog
    exact ⟨m', ciphertext, by simp [committed], hm'.trans hbody⟩

theorem turn_acceptProfileBindV1 (htidy : s.Tidy) (encoded : Slice) (exporter : FixedBytes 32) :
    Turns aead s (.acceptProfileBind encoded exporter)
      (s.acceptProfileBindV1 aead encoded exporter) := by
  rw [acceptProfileBindV1]
  split_ifs with hguard
  · exact turn_guard htidy _ _
  simp only [validLockedV1, Bool.not_eq_true, Bool.or_eq_false_iff, Bool.not_eq_false',
    Bool.not_eq_true'] at hguard
  obtain ⟨⟨⟨hopen, hrelay⟩, hunbound⟩, -⟩ := hguard
  have hout := authenticateBodyLockedV1_outcome aead s encoded Wire.typeProfileBind 0
    processControlSlotV1
  generalize hresult : s.authenticateBodyLockedV1 .. = result at hout ⊢
  cases hout with
  | failed err => exact turn_guard htidy _ err
  | opened codec log body replay sequence hcodec hholds hlog =>
    have hroom := authenticateBodyLockedV1_room (congrArg Prod.snd hresult)
    dsimp only
    split_ifs with hbody
    · exact turn_reject htidy hcodec hlog replay _
    refine turn_commitReplay htidy hcodec hlog replay fun next slot sequence hnext => ?_
    exact turn_answerBind htidy hopen hrelay hunbound hroom hnext (not_not.mp hbody) hlog

/-! ## The other methods -/

theorem take_duplexHeader (kind : UInt8) (value : UInt16) (length : ℕ)
    (rest : List UInt8) : (duplexHeader kind value length ++ rest).take 8 = duplexMagicV1 := by
  simp [duplexHeader, duplexMagicV1]

theorem take_encodeDuplexOperationBodyV1 {frames : List (List UInt8)}
    (h : encodeDuplexOperationBodyV1 frames = .ok body) : body.take 8 = duplexMagicV1 := by
  simp only [encodeDuplexOperationBodyV1, check_ok_iff] at h
  obtain ⟨-, -, hbody⟩ := h
  cases hbody
  exact take_duplexHeader _ _ _ _

theorem turn_profileBindV1 (htidy : s.Tidy) (exporter : FixedBytes 32) :
    Turns aead s (.profileBind exporter) (s.profileBindV1 aead exporter) := by
  rw [profileBindV1]
  split_ifs with hguard
  · exact turn_guard htidy _ _
  simp only [validLockedV1, Bool.not_eq_true, Bool.or_eq_false_iff, Bool.not_eq_false',
    Bool.not_eq_true'] at hguard
  obtain ⟨⟨⟨⟨hopen, hclient⟩, -⟩, -⟩, -⟩ := hguard
  have hcall : (DuplexCall.profileBind exporter).Seals s (profileBindBody exporter s.digest) :=
    ⟨hclient, rfl⟩
  have hout := sealBodyLockedV1_outcome aead s Wire.typeProfileBind 0 processControlSlotV1
    (profileBindBody exporter s.digest)
  generalize s.sealBodyLockedV1 .. = result at hout ⊢
  cases hout with
  | failed nonces log err herr hlog =>
    exact turn_fail htidy ⟨nonces, rfl⟩ (SealLogged.grows_or hlog hcall) err
  | sealed nonces log encoded hroom hlog =>
    exact .bindSent exporter nonces log encoded hopen hroom (hlog.grows hcall)

theorem turn_sealOperationV1 (htidy : s.Tidy) (operation : Operation) (seed : Int64) :
    Turns aead s (.sealOperation operation seed) (s.sealOperationV1 aead operation seed) := by
  rw [sealOperationV1]
  split_ifs with hguard
  · exact turn_guard htidy _ _
  simp only [validLockedV1, Bool.not_eq_true, Bool.or_eq_false_iff, Bool.not_eq_false',
    Bool.not_eq_true'] at hguard
  obtain ⟨⟨⟨⟨hopen, hbound⟩, -⟩, -⟩, -⟩ := hguard
  rcases encodeLiveOperation source s.program operation seed with err | frames
  · exact turn_guard htidy _ _
  dsimp only
  split_ifs
  · exact turn_guard htidy _ _
  rcases hbody : encodeDuplexOperationBodyV1 frames with err | body
  · exact turn_guard htidy _ _
  · refine turn_sealOrFail htidy hopen hbound rfl ?_ _ _ _
    exact take_encodeDuplexOperationBodyV1 hbody

theorem turn_sealPacketDataV3 (htidy : s.Tidy) (payload : Slice) (stream : UInt32)
    (seed : Int64) (kind : PacketPumpKindV1) :
    Turns aead s (.sealData payload stream seed kind)
      (s.sealPacketDataV3 aead payload stream seed kind) := by
  rw [sealPacketDataV3]
  split
  · exact turn_guard htidy _ _
  rename_i w _
  split_ifs with hguard
  · exact turn_guard htidy _ _
  · exact .refused _ _ rfl
  · exact turn_guard htidy _ _
  simp only [validLockedV1, Bool.not_eq_true, Bool.or_eq_false_iff, Bool.not_eq_false',
    Bool.not_eq_true'] at hguard
  obtain ⟨⟨⟨hopen, hbound⟩, -⟩, -⟩ := hguard
  rcases encodePacket w.framing kind w.txFrames w.padding payload stream seed w.txSpans with
    err | ⟨done, count⟩
  · exact .refused _ _ rfl
  dsimp only
  split_ifs
  · exact turn_guard htidy _ _
  · refine turn_sealOrFail htidy hopen hbound rfl ?_ _ _ _
    exact take_duplexHeader _ _ _ _

theorem turn_sealKeepaliveV1 (htidy : s.Tidy) :
    Turns aead s .sealKeepalive (s.sealKeepaliveV1 aead) := by
  rw [sealKeepaliveV1]
  split_ifs with hguard
  · exact turn_guard htidy _ _
  simp only [validLockedV1, Bool.or_eq_true, Bool.not_eq_true', not_or, Bool.not_eq_false] at hguard
  refine turn_sealOrFail htidy hguard.1 hguard.2 rfl ?_ _ _ _
  exact take_duplexHeader _ _ _ _

theorem turn_sealCloseV1 (htidy : s.Tidy) (code : UInt16) :
    Turns aead s (.sealClose code) (s.sealCloseV1 aead code) := by
  rw [sealCloseV1]
  split_ifs with hguard
  · exact turn_guard htidy _ _
  simp only [validLockedV1, Bool.or_eq_true, Bool.not_eq_true', not_or, Bool.not_eq_false] at hguard
  have hcall : (DuplexCall.sealClose code).Seals s
      (encodeDuplexControlBodyV1 duplexKindCloseV1 code) := take_duplexHeader _ _ _ _
  have hout := sealBodyLockedV1_outcome aead s Wire.typeClose 0 processControlSlotV1
    (encodeDuplexControlBodyV1 duplexKindCloseV1 code)
  generalize s.sealBodyLockedV1 .. = result at hout ⊢
  cases hout with
  | failed nonces log err herr hlog =>
    obtain ⟨next, hnext, hclose⟩ := closeLockedV1_eq
      (s := { s with codec := s.codec.withNonces nonces, log := log }) htidy
    dsimp only
    rw [hclose]
    exact .failed _ next log err herr ⟨nonces, hnext⟩ (SealLogged.grows_or hlog hcall)
  | sealed nonces log encoded hroom hlog =>
    obtain ⟨next, hnext, hclose⟩ := closeLockedV1_eq (s := s.sealedWith nonces log) htidy
    dsimp only
    rw [hclose]
    exact .sealedClose code next log encoded hguard.1.1 hroom ⟨nonces, hnext⟩ (hlog.grows hcall)

/-! ## Receiving frames -/

theorem readDuplexBodyV1_operation {program : ProgramV1} {operation : Operation}
    (h : readDuplexBodyV1 program frameType outerStream body = .ok (.operation operation)) :
    frameType = Wire.typeReliableData ∧ outerStream ≠ processControlSlotV1.toUInt32 := by
  simp only [readDuplexBodyV1, bind_ok_iff] at h
  obtain ⟨decoded, -, h⟩ := h
  split_ifs at h
  · simp [check_ok_iff] at h
  · simp [check_ok_iff] at h
  · rw [check_ok_iff, ensure_eq_ok] at h
    exact ⟨h.1.1, h.1.2.1⟩

theorem readDuplexBodyV3_operation {codec : LiveDataCodecV3 source} {w : ReceiveBuffersV3}
    {streamID : UInt32} {operation : Operation}
    (h : readDuplexBodyV3 codec w frameType streamID body = .ok (.operation operation)) :
    frameType = Wire.typeReliableData ∧ streamID ≠ processControlSlotV1.toUInt32 := by
  simp only [readDuplexBodyV3, check_ok_iff] at h
  obtain ⟨-, h⟩ := h
  by_cases hkind : body.getD 8 0 = duplexKindOperationV1
  · rw [if_neg (not_not.mpr hkind), check_ok_iff, ensure_eq_ok] at h
    exact ⟨h.1.1, h.1.2.1⟩
  · rw [if_pos hkind] at h
    obtain ⟨-, h⟩ := check_ok_iff.mp h
    split_ifs at h
    · simp [check_ok_iff] at h
    · simp [check_ok_iff] at h

theorem openOuter_slot {encoded : List UInt8} {streamLow : ℕ} {frame : Wire.Frame}
    (h : s.openOuter encoded streamLow = .ok (frame, slot))
    (htype : frame.type = Wire.typeReliableData)
    (hstream : frame.streamID ≠ processControlSlotV1.toUInt32) :
    slot = frame.streamID.toUInt16 := by
  rw [openOuter] at h
  split at h
  · cases h
  obtain ⟨-, h⟩ := check_ok_iff.mp h
  split_ifs at h with hdata
  · obtain ⟨-, h⟩ := check_ok_iff.mp h
    cases h
    rfl
  · cases h
    exact absurd ⟨htype, hstream⟩ hdata

/-- What happens to a record which was authenticated, for every message in it. -/
theorem turn_deliver (htidy : s.Tidy) {replay : ℕ} {sequence : UInt64}
    {message : Except RuntimeError DuplexMessage} (hopen : s.closed = false)
    (hbound : s.bound = true) (hidle : s.pending = none)
    (hroom : s.bounded.isSome → s.recvCount < s.maxMessages) (hcodec : codec.codec = s.codec.codec)
    (hholds : codec.Holds replay slot sequence) (hlog : OpenLogged aead s body log)
    (hslot : ∀ operation, message = .ok (.operation operation) →
      slot = outerStream.toUInt16) :
    Turns aead s (.openFrame encoded)
      ({ s with codec := codec, log := log }.deliver outerStream ⟨body, replay, sequence⟩
        message) := by
  rcases message with err | message
  · exact turn_reject htidy hcodec hlog replay err
  cases message with
  | keepalive =>
    refine turn_commitReplay htidy hcodec hlog replay fun next slot sequence hnext => ?_
    exact .keepalive encoded next log hopen hbound hidle hroom ⟨_, _, _, _, hnext, rfl⟩
      (hlog.grows _)
  | close =>
    refine turn_commitReplay htidy hcodec hlog replay fun next slot sequence hnext => ?_
    obtain ⟨last, hlast, hclose⟩ := closeLockedV1_eq
      (s := { s with codec := next, log := log, recvCount := s.recvCount + 1 }) htidy
    rw [hclose]
    exact .linkClosed encoded last log hroom ⟨_, _, _, next.codec.nonces, hnext, hlast⟩
      (hlog.grows _)
  | operation operation =>
    rw [hslot operation rfl] at hholds
    exact .delivered encoded codec log operation outerStream sequence replay hopen hbound
      hidle hroom hcodec hholds (hlog.grows _)

theorem turn_openFrameV1 (htidy : s.Tidy) (hversion : s.bounded = none) (encoded : Slice) :
    Turns aead s (.openFrame encoded) (s.openFrameV1 aead encoded) := by
  rw [openFrameV1]
  split_ifs with hguard
  · exact turn_guard htidy _ _
  simp only [validLockedV1, Bool.or_eq_true, Bool.not_eq_true', not_or, Bool.not_eq_false,
    Bool.not_eq_true, Option.isSome_eq_false_iff, Option.isNone_iff_eq_none] at hguard
  obtain ⟨⟨hopen, hbound⟩, hidle⟩ := hguard
  rcases houter : s.openOuter encoded.bytes 1 with err | ⟨frame, slot⟩
  · exact turn_guard htidy _ _
  dsimp only
  rcases decodeProcessEnvelopeV1 frame.payload s.inboundDirection
      s.codec.codec.context.maxEnvelopeBytes with err | envelope
  · exact turn_guard htidy _ _
  dsimp only
  split_ifs with hslot
  · exact turn_guard htidy _ _
  rw [not_not] at hslot
  have hout := authenticateEnvelope_outcome aead s none envelope
  generalize s.authenticateEnvelope .. = result at hout ⊢
  cases hout with
  | failed err => exact turn_guard htidy _ err
  | opened codec log body replay sequence hcodec hholds hlog =>
    refine turn_deliver htidy hopen hbound hidle (by simp [hversion]) hcodec hholds hlog ?_
    intro operation hread
    obtain ⟨htype, hstream⟩ := readDuplexBodyV1_operation hread
    exact hslot.trans (openOuter_slot houter htype hstream)

theorem turn_openFrameV3 (htidy : s.Tidy) (w : DuplexWorkspaceV3 source) (encoded : Slice) :
    Turns aead s (.openFrame encoded) (s.openFrameV3 aead w encoded) := by
  rw [openFrameV3]
  split_ifs with hguard hlimit
  · exact turn_guard htidy _ _
  · exact turn_guard htidy _ _
  · exact turn_guard htidy _ _
  simp only [validLockedV1, Bool.or_eq_true, Bool.not_eq_true', not_or, Bool.not_eq_false,
    Bool.not_eq_true, Option.isSome_eq_false_iff, Option.isNone_iff_eq_none] at hguard
  obtain ⟨⟨hopen, hbound⟩, hidle⟩ := hguard
  rcases houter : s.openOuter encoded.bytes 2 with err | ⟨frame, slot⟩
  · exact turn_guard htidy _ _
  dsimp only
  have hout := authenticateBodyLockedV1_outcome aead s encoded frame.type frame.streamID slot
  generalize s.authenticateBodyLockedV1 .. = result at hout ⊢
  cases hout with
  | failed err => exact turn_guard htidy _ err
  | opened codec log body replay sequence hcodec hholds hlog =>
    refine turn_deliver htidy hopen hbound hidle (fun _ => by omega) hcodec hholds hlog ?_
    intro operation hread
    obtain ⟨htype, hstream⟩ := readDuplexBodyV3_operation hread
    exact openOuter_slot houter htype hstream

/-! ## Every call -/

theorem closeLockedV1_taken {address : ℕ} (hopen : s.closed = false)
    (hpending : s.pending = some address) (codec : EnvelopeWorldV1) :
    { s with
      codec := codec
      pending := none
      frames := s.frames.modify address finishedFrame }.closeLockedV1 =
      s.closedWith codec s.log := by
  simp [closeLockedV1, closedWith, settledFrames, hopen, hpending]

theorem finishV1_guard {address : ℕ} {frame : AuthenticatedInnerFrameV1}
    (h : ¬(frame.terminal || s.pending ≠ some address || !s.validLockedV1) = true) :
    frame.terminal = false ∧ s.pending = some address ∧ s.closed = false := by
  simpa [validLockedV1, and_assoc] using h

theorem turn_commit (address : ℕ) : Turns aead s (.commit address) (s.finishV1 address true) := by
  rw [finishV1]
  rcases hframe : s.frames[address]? with _ | frame
  · exact .refused _ _ rfl
  dsimp only
  split_ifs with hguard hcommit
  · exact .refused _ _ rfl
  · obtain ⟨hfresh, hpending, hopen⟩ := finishV1_guard hguard
    rcases hreplay : frame.replay with _ | replay
    · rw [closeLockedV1_taken hopen hpending s.codec]
      exact .failed _ _ _ _ (by simp) (.of_eq rfl) .refl
    dsimp only
    have hcommit := commitReplay_outcome { s with
      pending := none
      frames := s.frames.modify address finishedFrame } replay
    generalize commitReplay _ replay = result at hcommit ⊢
    cases hcommit with
    | failed codec err hcodec =>
      dsimp only
      rw [closeLockedV1_taken hopen hpending codec]
      exact .failed _ _ _ _ (normalize_ne_linkClosed _) (.of_eq hcodec) .refl
    | advanced codec state hstate hcodec =>
      exact .committed address frame replay state codec hframe hopen hfresh hpending
        hreplay hstate hcodec
  · exact absurd rfl hcommit

theorem turn_discard (address : ℕ) :
    Turns aead s (.discard address) (s.finishV1 address false) := by
  rw [finishV1]
  rcases hframe : s.frames[address]? with _ | frame
  · exact .refused _ _ rfl
  simp only [Bool.false_eq_true, if_false]
  by_cases hguard : (frame.terminal || s.pending ≠ some address || !s.validLockedV1) = true
  · rw [if_pos hguard]
    exact .refused _ _ rfl
  rw [if_neg hguard]
  obtain ⟨-, hpending, hopen⟩ := finishV1_guard hguard
  have hcodec := s.codec.discard_codec frame.replay
  generalize s.codec.discard frame.replay = result at hcodec ⊢
  split
  · rw [closeLockedV1_taken hopen hpending]
    exact .failed _ _ _ _ (normalize_ne_linkClosed _) (.of_eq hcodec) .refl
  · rw [closeLockedV1_taken hopen hpending]
    exact .discarded address _ (.of_eq hcodec)

/-- There is no other turn than those of `Turn`. -/
theorem turn_step (aead : AEAD) (htidy : s.Tidy) (call : DuplexCall) :
    Turns aead s call (s.step aead call) := by
  cases call with
  | profileBind exporter => exact turn_profileBindV1 htidy exporter
  | acceptEngineReady encoded => exact turn_acceptEngineReadyV1 htidy encoded
  | acceptProfileBind encoded exporter => exact turn_acceptProfileBindV1 htidy encoded exporter
  | sealOperation operation seed =>
    rw [step]
    split
    · exact turn_sealOperationV1 htidy operation seed
    · exact .refused _ _ rfl
  | sealData payload stream seed kind =>
    exact turn_sealPacketDataV3 htidy payload stream seed kind
  | sealKeepalive => exact turn_sealKeepaliveV1 htidy
  | sealClose code => exact turn_sealCloseV1 htidy code
  | openFrame encoded =>
    rw [step]
    split
    · exact turn_openFrameV1 htidy ‹_› encoded
    · exact turn_openFrameV3 htidy _ encoded
  | commit frame => exact turn_commit frame
  | discard frame => exact turn_discard frame
  | abort =>
    obtain ⟨codec, hcodec, hclose⟩ := closeLockedV1_eq htidy
    rw [step, hclose]
    exact .aborted codec (.of_eq hcodec)

@[elab_as_elim]
theorem step_turns (aead : AEAD) (htidy : s.Tidy) (call : DuplexCall)
    {motive : ProcessDuplexStateV1 source × DuplexReply → Prop}
    (h : ∀ next reply, Turn aead s call next reply → motive (next, reply)) :
    motive (s.step aead call) :=
  h _ _ (turn_step aead htidy call)

end ProcessDuplexStateV1

end Kurdistan.Runtime
