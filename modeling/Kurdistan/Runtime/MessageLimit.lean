import Kurdistan.Runtime.DuplexSpec
import Kurdistan.Runtime.ProcessRecord

/-!
# The message limit of a session

Every seal compares the send counter with the limit, and so do most of the receiving
methods with the receive counter. Three receiving methods do not: `OpenFrame` of the
first duplex version, `AcceptAck` of the record client and `Open` of the record relay.
An acknowledgement answers a record which was sent, so the client keeps the limit all the
same, and an endpoint of the third version has no such method. The other two keep the limit
along a run exactly when they are given no record which they accept at the limit.
-/

namespace Kurdistan.Runtime

open Support Security Framing Protocol ProcessDuplexStateV1 DuplexCall

/-! ## Runs within the limit -/

section Runs

variable {σ α ρ : Type*} (step : σ → α → σ × ρ) (sendCount recvCount : σ → ℕ) (limit : ℕ)

/-- In every state of the run both counters are within the limit. -/
def LimitKept (s : σ) (calls : List α) : Prop :=
  ∀ pre, pre <+: calls → sendCount (stateAfter step s pre) ≤ limit ∧
    recvCount (stateAfter step s pre) ≤ limit

/-- In no state of the run where the limit is reached the next call takes a record. -/
def NoneAtLimit (takes : σ → α → Prop) (s : σ) (calls : List α) : Prop :=
  ∀ pre call, pre ++ [call] <+: calls → recvCount (stateAfter step s pre) = limit →
    ¬ takes (stateAfter step s pre) call

end Runs

/-! ## Duplex endpoints -/

/-- The replies which tell that a duplex endpoint took a record without looking at the limit,
in the first version: an opened control record, and the commit of a frame. -/
def DuplexCall.receives : DuplexCall → DuplexReply → Bool
  | .openFrame _, .done | .openFrame _, .failed .linkClosed | .commit _, .done => true
  | _, _ => false

namespace ProcessDuplexStateV1

variable {source : RandSource} {aead : AEAD} {s : ProcessDuplexStateV1 source}

/-- What the counters rely on. In the third version a pending frame has its place
within the limit. -/
structure Counted (limit : ℕ) (s : ProcessDuplexStateV1 source) : Prop where
  tidy : s.Tidy
  max : s.maxMessages = limit
  send : s.sendCount ≤ limit
  pending : s.pending.isSome → s.bound = true
  recv : s.bounded.isSome → s.recvCount ≤ limit
  room : s.bounded.isSome → s.pending.isSome → s.recvCount < limit

/-- The bytes are a keepalive or a close of the peer which the codec has not seen, and no
frame is pending. -/
def HoldsControl (aead : AEAD) (s : ProcessDuplexStateV1 source) (encoded : Slice) : Prop :=
  s.validLockedV1 = true ∧ s.bound = true ∧ s.pending = none ∧
    ∃ frame slot envelope next authenticated message,
      s.openOuter encoded.bytes 1 = .ok (frame, slot) ∧
      decodeProcessEnvelopeV1 frame.payload s.inboundDirection
        s.codec.codec.context.maxEnvelopeBytes = .ok envelope ∧ envelope.slot = slot ∧
      s.authenticateEnvelope aead none envelope = (next, .ok authenticated) ∧
      readDuplexBodyV1 s.program frame.type frame.streamID authenticated.body = .ok message ∧
      (message = .keepalive ∨ message = .close) ∧
      (next.codec.commit authenticated.replay).2 = .ok ()

/-- The address is the pending frame, whose capability can be committed. -/
def HoldsCommit (s : ProcessDuplexStateV1 source) (address : ℕ) : Prop :=
  s.validLockedV1 = true ∧ s.pending = some address ∧ ∃ frame replay,
    s.frames[address]? = some frame ∧ frame.terminal = false ∧ frame.replay = some replay ∧
      (s.codec.commit replay).2 = .ok ()

/-- The records which an endpoint of the first version takes without looking at the limit. -/
def Takes (aead : AEAD) (s : ProcessDuplexStateV1 source) : DuplexCall → Prop
  | .openFrame encoded => s.HoldsControl aead encoded
  | .commit address => s.HoldsCommit address
  | _ => False

theorem receives_failLockedV1 (encoded : Slice) (err : RuntimeError) :
    (openFrame encoded).receives (s.failLockedV1 err).2 = false := by
  obtain ⟨reason, hne, hfail⟩ := failLockedV1_eq s err
  rw [hfail]
  cases reason <;> first | rfl | exact absurd rfl hne

theorem receives_deliver (encoded : Slice) (outerStream : UInt32)
    (authenticated : AuthenticatedBody) (read : Except RuntimeError DuplexMessage) :
    (openFrame encoded).receives (s.deliver outerStream authenticated read).2 = true ↔
      (read = .ok .keepalive ∨ read = .ok .close) ∧
        (s.codec.commit authenticated.replay).2 = .ok () := by
  rcases read with err | message
  · simp [deliver, reject, receives_failLockedV1]
  cases message with
  | operation operation => simp [deliver, receives]
  | keepalive | close =>
    rw [deliver, commitReplay]
    rcases s.codec.commit authenticated.replay with ⟨codec, err | ⟨⟩⟩
    · simp [receives_failLockedV1]
    · simp [receives]

theorem receives_openFrameV1 (encoded : Slice) :
    (openFrame encoded).receives (s.openFrameV1 aead encoded).2 = true ↔
      s.HoldsControl aead encoded := by
  rw [openFrameV1, HoldsControl]
  split_ifs with hguard
  · rw [receives_failLockedV1]
    simp only [Bool.or_eq_true, Bool.not_eq_true', Option.isSome_iff_ne_none] at hguard
    grind
  simp only [Bool.or_eq_true, Bool.not_eq_true', not_or, Bool.not_eq_false,
    Option.not_isSome_iff_eq_none] at hguard
  simp only [hguard, true_and]
  rcases s.openOuter encoded.bytes 1 with err | ⟨frame, slot⟩
  · simp [receives_failLockedV1]
  dsimp only
  rcases hdecode : decodeProcessEnvelopeV1 frame.payload s.inboundDirection
    s.codec.codec.context.maxEnvelopeBytes with err | envelope
  · simp [receives_failLockedV1, hdecode]
  dsimp only
  split_ifs with hslot
  · grind [receives_failLockedV1]
  rcases hopened : s.authenticateEnvelope aead none envelope with ⟨next, err | authenticated⟩
  · grind [receives_failLockedV1]
  rw [receives_deliver]
  grind

theorem receives_commit (address : ℕ) :
    (DuplexCall.commit address).receives (s.finishV1 address true).2 = true ↔
      s.HoldsCommit address := by
  rw [finishV1, HoldsCommit]
  rcases hframe : s.frames[address]? with _ | frame
  · simp [receives]
  dsimp only
  split_ifs with hguard hcommit
  · simp only [Bool.or_eq_true, decide_eq_true_eq, Bool.not_eq_true'] at hguard
    grind [receives]
  · simp only [Bool.or_eq_true, decide_eq_true_eq, Bool.not_eq_true', not_or] at hguard
    rcases hreplay : frame.replay with _ | replay
    · grind [receives]
    dsimp only
    rw [commitReplay]
    rcases hcodec : s.codec.commit replay with ⟨codec, err | ⟨⟩⟩ <;> grind [receives]
  · exact absurd rfl hcommit

theorem receives_iff_takes (hversion : s.bounded = none) (call : DuplexCall) :
    call.receives (s.step aead call).2 = true ↔ s.Takes aead call := by
  cases call with
  | openFrame encoded =>
    rw [step, hversion]
    exact receives_openFrameV1 encoded
  | commit address => exact receives_commit address
  | _ => simp [receives, Takes]

theorem counted_new (client : Bool) (digest : FixedBytes 32) (codec : EnvelopeCodecV1)
    (program : ProgramV1) (limit : ℕ) (bounded : Option (DuplexWorkspaceV3 source)) :
    (newProcessDuplexStateV1 client digest codec program limit bounded).Counted limit where
  tidy := by intro h; cases h
  max := rfl
  send := Nat.zero_le _
  pending := by intro h; cases h
  recv _ := Nat.zero_le _
  room _ := by intro h; cases h

theorem counted_closed {limit sendCount recvCount : ℕ} (hmax : s.maxMessages = limit)
    (hsend : sendCount ≤ limit) (hrecv : s.bounded.isSome → recvCount ≤ limit)
    (codec : EnvelopeWorldV1) (log : List AEADEvent) :
    { s.closedWith codec log with
      sendCount := sendCount, recvCount := recvCount }.Counted limit where
  tidy _ := ⟨rfl, rfl, rfl⟩
  max := hmax
  send := hsend
  pending := nofun
  recv := hrecv
  room _ := nofun

theorem counted_step (aead : AEAD) {limit : ℕ} (h : s.Counted limit) (call : DuplexCall) :
    (s.step aead call).1.Counted limit := by
  refine step_turns aead h.tidy call fun next reply hturn => ?_
  have hmax := h.max
  have hidle (hunbound : s.bound = false) : ¬ s.pending.isSome = true := fun hsome => by
    simp [h.pending hsome] at hunbound
  cases hturn with
  | refused => exact h
  | failed call codec log => exact counted_closed h.max h.send h.recv codec log
  | aborted codec => exact counted_closed h.max h.send h.recv codec s.log
  | discarded address codec => exact counted_closed h.max h.send h.recv codec s.log
  | bindSent exporter nonces log encoded hopen hroom =>
    exact ⟨tidy_of_open hopen, h.max, hmax ▸ hroom, h.pending, h.recv, h.room⟩
  | sealed call nonces log encoded hcall hopen hbound hroom =>
    exact ⟨tidy_of_open hopen, h.max, hmax ▸ hroom, h.pending, h.recv, h.room⟩
  | sealedClose code codec log encoded hopen hroom =>
    exact counted_closed h.max (hmax ▸ hroom) h.recv codec log
  | ready encoded codec log hopen hclient hunbound hroom =>
    exact ⟨tidy_of_open hopen, h.max, h.send, fun _ => rfl, fun _ => hmax ▸ hroom,
      fun _ hsome => absurd hsome (hidle hunbound)⟩
  | bindAccepted encoded exporter codec log ready hopen hrelay hunbound hroom hsend =>
    exact ⟨tidy_of_open hopen, h.max, hmax ▸ hsend, fun _ => rfl, fun _ => hmax ▸ hroom,
      fun _ hsome => absurd hsome (hidle hunbound)⟩
  | bindUnanswered encoded exporter codec log err hroom =>
    exact counted_closed h.max h.send (fun _ => hmax ▸ hroom) codec log
  | keepalive encoded codec log hopen hbound hidle hroom =>
    refine ⟨tidy_of_open hopen, h.max, h.send, h.pending, fun hv => hmax ▸ hroom hv, ?_⟩
    intro _ hsome
    rw [hidle] at hsome
    cases hsome
  | linkClosed encoded codec log hroom =>
    exact counted_closed h.max h.send (fun hv => hmax ▸ hroom hv) codec log
  | delivered encoded codec log operation streamID sequence replay hopen hbound hidle hroom =>
    exact ⟨tidy_of_open hopen, h.max, h.send, fun _ => hbound, h.recv,
      fun hv _ => hmax ▸ hroom hv⟩
  | committed address frame replay state codec hframe hopen hfresh hpending =>
    exact ⟨tidy_of_open hopen, h.max, h.send, nofun,
      fun hv => h.room hv (by rw [hpending]; rfl), fun _ => nofun⟩

theorem bounded_step (htidy : s.Tidy) (call : DuplexCall) :
    (s.step aead call).1.bounded = s.bounded := by
  refine step_turns aead htidy call fun next reply hturn => ?_
  cases hturn <;> rfl

/-- From within the limit a call leads beyond it exactly when it receives a record at
the limit. -/
theorem recvCount_step_le_iff {limit : ℕ} (h : s.Counted limit) (hle : s.recvCount ≤ limit)
    (call : DuplexCall) :
    (s.step aead call).1.recvCount ≤ limit ↔
      (s.recvCount = limit → call.receives (s.step aead call).2 = false) := by
  have hturn := turn_step aead h.tidy call
  generalize s.step aead call = result at hturn ⊢
  obtain ⟨next, reply⟩ := result
  have hmax := h.max
  cases hturn with
  | refused call err hcall =>
    have hreceives : call.receives (.failed err) = false := by
      cases call <;> first | rfl | cases hcall
    simp [hreceives, hle]
  | failed call codec log err herr =>
    have hreceives : call.receives (.failed err) = false := by
      cases call <;> first | rfl | (cases err <;> first | rfl | exact absurd rfl herr)
    simp [hreceives, hle]
  | sealed call nonces log encoded hcall =>
    have hreceives : call.receives (.record encoded) = false := by cases call <;> rfl
    simp [hreceives, hle]
  | aborted | discarded => simp [receives, hle]
  | bindSent => simp [receives, sealedWith, hle]
  | sealedClose => simp [receives, closedWith, hle]
  | ready encoded codec log hopen hclient hunbound hroom =>
    simp only [receives, implies_true, iff_true]
    omega
  | bindAccepted encoded exporter codec log ready hopen hrelay hunbound hroom =>
    simp only [receives, implies_true, iff_true]
    omega
  | bindUnanswered encoded exporter codec log err hroom =>
    simp only [receives, implies_true, iff_true]
    omega
  | keepalive | linkClosed | committed =>
    simp only [receives, Bool.true_eq_false, imp_false]
    omega
  | delivered => simp [receives, hle]

end ProcessDuplexStateV1

/-! ## Record sessions -/

namespace RecordSession

/-- A session which received some records more and, if it was within the limit, has sent
no more than the limit allows. -/
structure Extends (s t : RecordSession) (received : ℕ) : Prop where
  max : t.maxMessages = s.maxMessages
  recv : t.recvCount = s.recvCount + received
  send : s.sendCount ≤ s.maxMessages → t.sendCount ≤ t.maxMessages
  sent : s.sendCount ≤ t.sendCount

variable {aead : AEAD} {s t u : RecordSession} {m n : ℕ}

theorem Extends.refl (s : RecordSession) : Extends s s 0 := ⟨rfl, rfl, id, le_rfl⟩

theorem Extends.trans (h : Extends s t m) (h' : Extends t u n) : Extends s u (m + n) where
  max := h'.max.trans h.max
  recv := by rw [h'.recv, h.recv, Nat.add_assoc]
  send hs := h'.send (h.send hs)
  sent := h.sent.trans h'.sent

theorem extends_sealLockedV1 (aead : AEAD) (s : RecordSession) (frameType : UInt8)
    (outerStream : UInt32) (innerSlot : UInt16) (body : List UInt8) :
    Extends s (s.sealLockedV1 aead frameType outerStream innerSlot body).1 0 := by
  rw [sealLockedV1]
  split_ifs with hlimit
  · exact .refl s
  rcases s.codec.codec.sealApplicationV1 aead innerSlot body with ⟨codec, err | envelope⟩
  · exact ⟨rfl, rfl, id, le_rfl⟩
  dsimp only
  rcases encodeRecordFrameV1 frameType outerStream s.digest envelope with err | encoded
  · exact ⟨rfl, rfl, id, le_rfl⟩
  · exact ⟨rfl, rfl, fun _ => Nat.not_le.mp hlimit, Nat.le_succ _⟩

theorem sealLockedV1_sends {frameType : UInt8} {outerStream : UInt32} {innerSlot : UInt16}
    {body encoded : List UInt8} (h : s.sealLockedV1 aead frameType outerStream innerSlot body =
      (t, .ok encoded)) : t.sendCount = s.sendCount + 1 := by
  rw [sealLockedV1] at h
  split_ifs at h
  · cases h
  revert h
  rcases s.codec.codec.sealApplicationV1 aead innerSlot body with ⟨codec, err | envelope⟩
  · rintro ⟨⟩
  dsimp only
  rcases encodeRecordFrameV1 frameType outerStream s.digest envelope with err | encoded
  · rintro ⟨⟩
  · rintro ⟨⟩
    rfl

theorem extends_authenticate (aead : AEAD) (s : RecordSession) (envelope : EnvelopeRecordV1) :
    Extends s (s.authenticate aead envelope).1 0 := by
  rw [authenticate]
  rcases s.codec.authenticate aead none .nonceApplicationRecordV1 envelope [] with
    ⟨codec, err | opened⟩
  · exact ⟨rfl, rfl, id, le_rfl⟩
  · exact ⟨rfl, rfl, id, le_rfl⟩

theorem extends_openLockedV1 (aead : AEAD) (s : RecordSession) (direction : UInt16)
    (encoded : List UInt8) (frameType : UInt8) (outerStream : UInt32) (innerSlot : UInt16) :
    Extends s (s.openLockedV1 aead direction encoded frameType outerStream innerSlot).1 0 := by
  rw [openLockedV1]
  split_ifs
  · exact .refl s
  rcases decodeProcessRecordFrameV1 encoded frameType s.digest direction
      s.codec.codec.context.maxEnvelopeBytes with err | ⟨frame, envelope⟩
  · exact .refl s
  dsimp only
  split_ifs
  · exact .refl s
  · exact extends_authenticate aead s envelope

theorem openLockedV1_room {direction : UInt16} {encoded : List UInt8} {frameType : UInt8}
    {outerStream : UInt32} {innerSlot : UInt16} {opened : List UInt8 × ℕ}
    (h : (s.openLockedV1 aead direction encoded frameType outerStream innerSlot).2 =
      .ok opened) : s.recvCount < s.maxMessages := by
  by_contra hlimit
  rw [openLockedV1, if_pos (Nat.not_lt.mp hlimit)] at h
  cases h

theorem extends_discard (s : RecordSession) (capability : ℕ) :
    Extends s (s.discard capability) 0 := ⟨rfl, rfl, id, le_rfl⟩

theorem extends_commit (s : RecordSession) (capability : ℕ) :
    Extends s (s.commit capability).1 0 := by
  rw [commit]
  rcases s.codec.commit capability with ⟨codec, err | ⟨⟩⟩
  · exact ⟨rfl, rfl, id, le_rfl⟩
  · exact ⟨rfl, rfl, id, le_rfl⟩

theorem extends_countReceived (s : RecordSession) : Extends s s.countReceived 1 :=
  ⟨rfl, rfl, id, le_rfl⟩

@[elab_as_elim]
theorem Extends.cases {α : Type} {result : RecordSession × Except RuntimeError α}
    {motive : RecordSession × Except RuntimeError α → Prop} (h : Extends s result.1 n)
    (failed : ∀ t err, Extends s t n → motive (t, .error err))
    (done : ∀ t value, Extends s t n → result = (t, .ok value) → motive (t, .ok value)) :
    motive result := by
  obtain ⟨t, err | value⟩ := result
  · exact failed t err h
  · exact done t value h rfl

/-- What a call does to the counters: nothing, or it receives one record, and a call
which does not look at the limit says so. -/
def CountsOnce (s t : RecordSession) (receives : Bool) : Prop :=
  Extends s t 0 ∧ receives = false ∨
    Extends s t 1 ∧ (s.recvCount < s.maxMessages ∧ receives = false ∨ receives = true)

theorem CountsOnce.within {receives : Bool} {limit : ℕ} (h : CountsOnce s t receives)
    (hwithin : s.maxMessages = limit ∧ s.sendCount ≤ s.maxMessages) :
    t.maxMessages = limit ∧ t.sendCount ≤ t.maxMessages := by
  rcases h with ⟨h, -⟩ | ⟨h, -⟩
  · exact ⟨h.max.trans hwithin.1, h.send hwithin.2⟩
  · exact ⟨h.max.trans hwithin.1, h.send hwithin.2⟩

theorem CountsOnce.recvCount_le_iff {receives : Bool} (h : CountsOnce s t receives)
    (hle : s.recvCount ≤ s.maxMessages) :
    t.recvCount ≤ s.maxMessages ↔ (s.recvCount = s.maxMessages → receives = false) := by
  rcases h with ⟨h, rfl⟩ | ⟨h, ⟨hroom, rfl⟩ | rfl⟩
  · simp [h.recv, hle]
  · simp only [h.recv, implies_true, iff_true]
    omega
  · simp only [h.recv, Bool.true_eq_false, imp_false]
    omega

end RecordSession

/-! ## The record client -/

namespace ProcessClientRecordEndpointV1

open RecordSession

variable {aead : AEAD} {client next : ProcessClientRecordEndpointV1} {limit : ℕ}

/-- The records which the client sent and which the relay may still answer. -/
def unanswered (client : ProcessClientRecordEndpointV1) : ℕ :=
  client.outstanding.entries.length + (client.bindStarted && !client.bound).toNat

/-- Everything which the client received answers a record which it sent. -/
structure Covered (limit : ℕ) (client : ProcessClientRecordEndpointV1) : Prop where
  max : client.session.maxMessages = limit
  send : client.session.sendCount ≤ client.session.maxMessages
  answers : client.session.recvCount + client.unanswered ≤ client.session.sendCount

theorem covered_closed (h : client.Covered limit) (hnext : Extends client.session next.session 0) :
    next.closeLockedV1.Covered limit := by
  refine ⟨hnext.max.trans h.max, hnext.send h.send, ?_⟩
  have hrecv := hnext.recv
  have hsent := hnext.sent
  have hanswers := h.answers
  change next.session.recvCount + 0 ≤ next.session.sendCount
  omega

/-- A sealed record may add one record without an answer. -/
theorem covered_sealed (h : client.Covered limit) (hnext : Extends client.session next.session 0)
    (hsent : next.session.sendCount = client.session.sendCount + 1)
    (hone : next.unanswered ≤ client.unanswered + 1) : next.Covered limit := by
  refine ⟨hnext.max.trans h.max, hnext.send h.send, ?_⟩
  have hrecv := hnext.recv
  have hanswers := h.answers
  omega

/-- An answer takes its record away. -/
theorem covered_answered (h : client.Covered limit) (hnext : Extends client.session next.session 1)
    (hone : next.unanswered + 1 ≤ client.unanswered) : next.Covered limit := by
  refine ⟨hnext.max.trans h.max, hnext.send h.send, ?_⟩
  have hrecv := hnext.recv
  have hsent := hnext.sent
  have hanswers := h.answers
  omega

theorem covered_profileBind (h : client.Covered limit) (tlsExporter : FixedBytes 32) :
    (client.profileBind aead tlsExporter).1.Covered limit := by
  rw [profileBind]
  split_ifs with hguard
  · exact covered_closed h (.refl _)
  simp only [Bool.or_eq_true, not_or, Bool.not_eq_true] at hguard
  refine (extends_sealLockedV1 aead client.session Wire.typeProfileBind 0 processControlSlotV1
    (profileBindBody tlsExporter client.session.digest)).cases ?_ ?_
  · exact fun _ _ hseal => covered_closed h hseal
  · intro session encoded hseal hsealed
    refine covered_sealed h hseal (sealLockedV1_sends hsealed) ?_
    simp [unanswered, withSession, hguard]

theorem covered_acceptEngineReady (h : client.Covered limit) (encoded : List UInt8) :
    (client.acceptEngineReady aead encoded).1.Covered limit := by
  rw [acceptEngineReady]
  split_ifs with hguard
  · exact covered_closed h (.refl _)
  simp only [Bool.or_eq_true, Bool.not_eq_true', not_or, Bool.not_eq_true,
    Bool.not_eq_false] at hguard
  refine (extends_openLockedV1 aead client.session applicationDirectionRelayV1 encoded
    Wire.typeEngineReady 0 processControlSlotV1).cases (fun _ _ hopen => covered_closed h hopen) ?_
  rintro session ⟨body, capability⟩ hextends -
  dsimp only
  split_ifs
  · exact covered_closed h (hextends.trans (extends_discard session capability))
  refine (hextends.trans (extends_commit session capability)).cases ?_ ?_
  · exact fun _ _ hcommit => covered_closed h hcommit
  · intro session _ hcommit _
    refine covered_answered h (hcommit.trans (extends_countReceived session)) ?_
    simp [unanswered, withSession, hguard]

theorem covered_sealData (h : client.Covered limit) (slot : UInt16) (plaintext : List UInt8) :
    (client.sealData aead slot plaintext).1.Covered limit := by
  rw [sealData]
  split_ifs
  · exact covered_closed h (.refl _)
  · exact covered_closed h (.refl _)
  dsimp only
  generalize operationIDV1 _ _ _ _ _ = id
  refine (extends_sealLockedV1 aead client.session Wire.typeReliableData slot.toUInt32 slot
    (processDataBody id plaintext)).cases ?_ ?_
  · exact fun _ _ hseal => covered_closed h hseal
  · intro session encoded hseal hsealed
    refine covered_sealed h hseal (sealLockedV1_sends hsealed) ?_
    have hlength := (List.kerase_sublist id client.outstanding.entries).length_le
    simp only [unanswered, withSession, AList.entries_insert, List.length_cons]
    omega

theorem covered_acceptAck (h : client.Covered limit) (encoded : List UInt8) :
    (client.acceptAck aead encoded).1.Covered limit := by
  rw [acceptAck]
  split_ifs
  · exact covered_closed h (.refl _)
  rcases decodeProcessRecordFrameV1 encoded Wire.typeReliableData client.session.digest
    applicationDirectionRelayV1 client.session.codec.codec.context.maxEnvelopeBytes with
    err | ⟨frame, envelope⟩
  · exact covered_closed h (.refl _)
  dsimp only
  refine (extends_authenticate aead client.session envelope).cases
    (fun _ _ hopen => covered_closed h hopen) ?_
  rintro session ⟨body, capability⟩ hextends -
  have hdiscard := hextends.trans (extends_discard session capability)
  dsimp only
  rcases parseProcessAckV1 body with err | ⟨id, count⟩
  · exact covered_closed h hdiscard
  dsimp only
  split_ifs with hunknown
  · exact covered_closed h hdiscard
  refine (hextends.trans (extends_commit session capability)).cases ?_ ?_
  · exact fun _ _ hcommit => covered_closed h hcommit
  · intro session _ hcommit _
    refine covered_answered h (hcommit.trans (extends_countReceived session)) ?_
    -- The acknowledged operation was outstanding, so one entry goes.
    have hmem : id ∈ client.outstanding := by
      rw [← AList.lookup_isSome]
      cases hlookup : client.outstanding.lookup id with
      | none => simp [hlookup] at hunknown
      | some slot => rfl
    obtain ⟨slot, first, rest, -, hentries, herase⟩ := List.exists_of_kerase hmem
    have hlength := congrArg List.length hentries
    have herased := congrArg List.length herase
    have hkept : (client.outstanding.erase id).entries = client.outstanding.entries.kerase id := rfl
    simp only [List.length_append, List.length_cons] at hlength herased
    simp only [unanswered, withSession, hkept]
    omega

theorem covered_step (h : client.Covered limit) (call : ClientRecordCall) :
    (client.step aead call).1.Covered limit := by
  cases call with
  | profileBind tlsExporter => exact covered_profileBind h tlsExporter
  | acceptEngineReady encoded => exact covered_acceptEngineReady h encoded
  | sealData slot plaintext => exact covered_sealData h slot plaintext
  | acceptAck encoded => exact covered_acceptAck h encoded
  | closeRecord =>
    rw [step, closeRecord]
    split_ifs
    · exact covered_closed h (.refl _)
    refine (extends_sealLockedV1 aead client.session Wire.typeClose 0 processControlSlotV1
      processCloseBody).cases ?_ ?_
    · exact fun _ _ hseal => covered_closed h hseal
    · exact fun _ _ hseal _ => covered_closed h hseal
  | abort => exact covered_closed h (.refl _)

end ProcessClientRecordEndpointV1

/-! ## The record relay -/

/-- The reply which tells that a relay took a record without looking at the limit. -/
def RelayRecordCall.receives : RelayRecordCall → RecordReply → Bool
  | .openRecord _, .delivery _ _ => true
  | _, _ => false

namespace ProcessRelayRecordEndpointV1

open RecordSession

variable {aead : AEAD} (relay : ProcessRelayRecordEndpointV1)

/-- The bytes are a data record of the client with an operation which the relay has not seen,
and no delivery is pending. -/
def HoldsData (aead : AEAD) (relay : ProcessRelayRecordEndpointV1) (encoded : List UInt8) : Prop :=
  relay.closed = false ∧ relay.bound = true ∧ relay.pending = none ∧
    ∃ frame envelope session body capability id payload,
      decodeProcessRecordFrameV1 encoded Wire.typeReliableData relay.session.digest
        applicationDirectionClientV1 relay.session.codec.codec.context.maxEnvelopeBytes =
          .ok (frame, envelope) ∧
      relay.session.authenticate aead envelope = (session, .ok (body, capability)) ∧
      parseProcessDataV1 body = .ok (id, payload) ∧ frame.streamID = envelope.slot.toUInt32 ∧
      envelope.slot ≠ 0 ∧ envelope.slot ≠ processControlSlotV1 ∧ id ∉ relay.seen ∧
      (session.commit capability).2 = .ok ()

/-- The records which a relay takes without looking at the limit. -/
def Takes (aead : AEAD) (relay : ProcessRelayRecordEndpointV1) : RelayRecordCall → Prop
  | .openRecord encoded => relay.HoldsData aead encoded
  | _ => False

theorem receives_openRecord (encoded : List UInt8) :
    (RelayRecordCall.openRecord encoded).receives (relay.openRecord aead encoded).2 = true ↔
      relay.HoldsData aead encoded := by
  have hfail : ∀ (next : ProcessRelayRecordEndpointV1) err,
      (RelayRecordCall.openRecord encoded).receives (next.failLockedV1 err).2 = false :=
    fun _ _ => rfl
  rw [openRecord, HoldsData]
  split_ifs with hguard
  · rw [hfail]
    simp only [Bool.or_eq_true, Bool.not_eq_true', Option.isSome_iff_ne_none] at hguard
    grind
  simp only [Bool.or_eq_true, Bool.not_eq_true', not_or, Bool.not_eq_true, Bool.not_eq_false,
    Option.isSome_eq_false_iff, Option.isNone_iff_eq_none] at hguard
  simp only [hguard, true_and]
  rcases decodeProcessRecordFrameV1 encoded Wire.typeReliableData relay.session.digest
    applicationDirectionClientV1 relay.session.codec.codec.context.maxEnvelopeBytes with
    err | ⟨frame, envelope⟩
  · simp [hfail]
  dsimp only
  rcases hopened : relay.session.authenticate aead envelope with
    ⟨session, err | ⟨body, capability⟩⟩
  · grind
  dsimp only
  rcases hparsed : parseProcessDataV1 body with err | ⟨id, payload⟩
  · grind
  dsimp only
  split_ifs with hslot hseen
  · grind
  · grind
  rcases hcommit : session.commit capability with ⟨next, err | ⟨⟩⟩
  · grind
  · grind [RelayRecordCall.receives]

theorem receives_iff_takes (call : RelayRecordCall) :
    call.receives (relay.step aead call).2 = true ↔ relay.Takes aead call := by
  cases call with
  | openRecord encoded => exact receives_openRecord relay encoded
  | _ => simp [RelayRecordCall.receives, Takes]

@[simp] theorem withSession_session (session : RecordSession) : (relay.withSession session).session
    = session := rfl

@[simp] theorem closeLockedV1_session : relay.closeLockedV1.session = relay.session := by
  rw [closeLockedV1]
  rcases relay.pending with _ | address <;> rfl

@[simp] theorem failLockedV1_session
    (err : RuntimeError) : (relay.failLockedV1 err).1.session = relay.session :=
  relay.closeLockedV1_session

theorem countsOnce_acceptProfileBind (encoded : List UInt8) (tlsExporter : FixedBytes 32) :
    CountsOnce relay.session (relay.acceptProfileBind aead encoded tlsExporter).1.session
      false := by
  rw [acceptProfileBind]
  split_ifs
  · exact Or.inl ⟨by simpa using .refl _, rfl⟩
  refine (extends_openLockedV1 aead relay.session applicationDirectionClientV1 encoded
    Wire.typeProfileBind 0 processControlSlotV1).cases
    (fun _ _ h => Or.inl ⟨by simpa using h, rfl⟩) ?_
  rintro session ⟨body, capability⟩ hextends hopened
  have hroom := openLockedV1_room (congrArg Prod.snd hopened)
  dsimp only
  split_ifs
  · exact Or.inl ⟨by simpa using hextends.trans (extends_discard session capability), rfl⟩
  refine (hextends.trans (extends_commit session capability)).cases
    (fun _ _ h => Or.inl ⟨by simpa using h, rfl⟩) fun session _ hcommit _ => ?_
  dsimp only
  refine ((hcommit.trans (extends_countReceived session)).trans
    (extends_sealLockedV1 aead session.countReceived Wire.typeEngineReady 0
      processControlSlotV1 processReadyMagicV1)).cases ?_ ?_
  · exact fun _ _ hseal => Or.inr ⟨by simpa using hseal, Or.inl ⟨hroom, rfl⟩⟩
  · exact fun _ _ hseal _ => Or.inr ⟨hseal, Or.inl ⟨hroom, rfl⟩⟩

theorem countsOnce_openRecord (encoded : List UInt8) :
    CountsOnce relay.session (relay.openRecord aead encoded).1.session
      ((RelayRecordCall.openRecord encoded).receives (relay.openRecord aead encoded).2) := by
  rw [openRecord]
  split_ifs
  · exact Or.inl ⟨by simpa using .refl _, rfl⟩
  rcases decodeProcessRecordFrameV1 encoded Wire.typeReliableData relay.session.digest
    applicationDirectionClientV1 relay.session.codec.codec.context.maxEnvelopeBytes with
    err | ⟨frame, envelope⟩
  · exact Or.inl ⟨by simpa using .refl _, rfl⟩
  dsimp only
  refine (extends_authenticate aead relay.session envelope).cases
    (fun _ _ h => Or.inl ⟨by simpa using h, rfl⟩) ?_
  rintro session ⟨body, capability⟩ hextends -
  have hdiscard := hextends.trans (extends_discard session capability)
  dsimp only
  rcases parseProcessDataV1 body with err | ⟨id, payload⟩
  · exact Or.inl ⟨by simpa using hdiscard, rfl⟩
  dsimp only
  split_ifs
  · exact Or.inl ⟨by simpa using hdiscard, rfl⟩
  · exact Or.inl ⟨by simpa using hdiscard, rfl⟩
  refine (hextends.trans (extends_commit session capability)).cases ?_ ?_
  · exact fun _ _ hcommit => Or.inl ⟨by simpa using hcommit, rfl⟩
  · exact fun session _ hcommit _ =>
      Or.inr ⟨hcommit.trans (extends_countReceived session), Or.inr rfl⟩

theorem extends_commitDelivery (address : ℕ) :
    Extends relay.session (relay.commitDelivery aead address).1.session 0 := by
  rw [commitDelivery]
  rcases relay.deliveries[address]? with _ | delivery
  · exact .refl _
  dsimp only
  split_ifs
  · exact .refl _
  generalize processAckBody delivery.id _ = body
  refine (extends_sealLockedV1 aead relay.session Wire.typeReliableData delivery.slot.toUInt32
    delivery.slot body).cases ?_ ?_
  · exact fun _ _ hseal => by simpa using hseal
  · exact fun _ _ hseal _ => hseal

theorem rejectDelivery_session (address : ℕ) :
    (relay.rejectDelivery address).1.session = relay.session := by
  rw [rejectDelivery]
  rcases relay.deliveries[address]? with _ | delivery
  · rfl
  dsimp only
  split_ifs
  · rfl
  · simp [finishDelivery]

/-- A close record is not counted, but it is accepted only below the limit. -/
theorem acceptClose_spec (encoded : List UInt8) :
    Extends relay.session (relay.acceptClose aead encoded).1.session 0 ∧
      ((relay.acceptClose aead encoded).2 = .done →
        relay.session.recvCount < relay.session.maxMessages) := by
  rw [acceptClose]
  split_ifs
  · exact ⟨by simpa using .refl _, nofun⟩
  refine (extends_openLockedV1 aead relay.session applicationDirectionClientV1 encoded
    Wire.typeClose 0 processControlSlotV1).cases (fun _ _ h => ⟨by simpa using h, nofun⟩) ?_
  rintro session ⟨body, capability⟩ hextends hopened
  have hroom := openLockedV1_room (congrArg Prod.snd hopened)
  dsimp only
  split_ifs
  · exact ⟨by simpa using hextends.trans (extends_discard session capability), nofun⟩
  refine (hextends.trans (extends_commit session capability)).cases ?_ ?_
  · exact fun _ _ hcommit => ⟨by simpa using hcommit, nofun⟩
  · exact fun _ _ hcommit _ => ⟨by simpa using hcommit, fun _ => hroom⟩

theorem countsOnce_step (call : RelayRecordCall) :
    CountsOnce relay.session (relay.step aead call).1.session
      (call.receives (relay.step aead call).2) := by
  cases call with
  | acceptProfileBind encoded tlsExporter =>
    exact countsOnce_acceptProfileBind relay encoded tlsExporter
  | openRecord encoded => exact countsOnce_openRecord relay encoded
  | commitDelivery delivery => exact Or.inl ⟨extends_commitDelivery relay delivery, rfl⟩
  | rejectDelivery delivery =>
    refine Or.inl ⟨?_, rfl⟩
    rw [step, rejectDelivery_session]
    exact .refl _
  | acceptClose encoded => exact Or.inl ⟨(acceptClose_spec relay encoded).1, rfl⟩
  | abort =>
    refine Or.inl ⟨?_, rfl⟩
    rw [step, closeLockedV1_session]
    exact .refl _

end ProcessRelayRecordEndpointV1

/-! ## The limit along runs -/

section Limits

variable (aead : AEAD)

theorem duplex_limitKept_iff {source : RandSource} {limit : ℕ}
    {s : ProcessDuplexStateV1 source} (h : s.Counted limit) (hversion : s.bounded = none)
    (hrecv : s.recvCount ≤ limit) (calls : List DuplexCall) :
    LimitKept (step aead) sendCount recvCount limit s calls ↔
      NoneAtLimit (step aead) recvCount limit (Takes aead) s calls := by
  refine forall_prefix_iff_safe
    (fun t : ProcessDuplexStateV1 source => t.Counted limit ∧ t.bounded = none)
    (fun t => t.sendCount ≤ limit ∧ t.recvCount ≤ limit)
    (fun t call => t.recvCount = limit → ¬ t.Takes aead call) ?_ ?_ ⟨h, hversion⟩
    ⟨h.send, hrecv⟩ calls
  · rintro t call ⟨ht, hnone⟩
    exact ⟨counted_step aead ht call, (bounded_step ht.tidy call).trans hnone⟩
  · rintro t call ⟨ht, hnone⟩ ⟨-, hle⟩
    rw [and_iff_right (counted_step aead ht call).send, ← receives_iff_takes hnone,
      Bool.not_eq_true]
    exact recvCount_step_le_iff ht hle call

theorem duplexV3_limitKept {source : RandSource} {limit : ℕ}
    {s : ProcessDuplexStateV1 source} (h : s.Counted limit) (hversion : s.bounded.isSome)
    (calls : List DuplexCall) : LimitKept (step aead) sendCount recvCount limit s calls := by
  intro pre _
  have hrun : (stateAfter (step aead) s pre).Counted limit ∧
      (stateAfter (step aead) s pre).bounded.isSome := by
    refine stateAfter_invariant
      (fun t : ProcessDuplexStateV1 source => t.Counted limit ∧ t.bounded.isSome) ?_
      ⟨h, hversion⟩ pre
    intro t call ht
    refine ⟨counted_step aead ht.1 call, ?_⟩
    rw [bounded_step ht.1.tidy call]
    exact ht.2
  exact ⟨hrun.1.send, hrun.1.recv hrun.2⟩

theorem client_limitKept {limit : ℕ} {client : ProcessClientRecordEndpointV1}
    (h : client.Covered limit) (calls : List ClientRecordCall) :
    LimitKept (ProcessClientRecordEndpointV1.step aead) (·.session.sendCount)
      (·.session.recvCount) limit client calls := by
  intro pre _
  obtain ⟨hmax, hsend, hanswers⟩ := stateAfter_invariant
    (ProcessClientRecordEndpointV1.Covered limit)
    (fun t call ht => ProcessClientRecordEndpointV1.covered_step ht call) h pre
  rw [hmax] at hsend
  exact ⟨hsend, (Nat.le_add_right _ _).trans (hanswers.trans hsend)⟩

/-- What a relay keeps of its limit. -/
def ProcessRelayRecordEndpointV1.Within (limit : ℕ) (relay : ProcessRelayRecordEndpointV1) : Prop :=
  relay.session.maxMessages = limit ∧ relay.session.sendCount ≤ relay.session.maxMessages

theorem relay_within {limit : ℕ} {relay : ProcessRelayRecordEndpointV1} (h : relay.Within limit)
    (call : RelayRecordCall) : (relay.step aead call).1.Within limit :=
  (relay.countsOnce_step call).within h

theorem relay_limitKept_iff {limit : ℕ} {relay : ProcessRelayRecordEndpointV1}
    (h : relay.Within limit) (hrecv : relay.session.recvCount ≤ limit)
    (calls : List RelayRecordCall) :
    LimitKept (ProcessRelayRecordEndpointV1.step aead) (·.session.sendCount)
        (·.session.recvCount) limit relay calls ↔
      NoneAtLimit (ProcessRelayRecordEndpointV1.step aead) (·.session.recvCount) limit
        (ProcessRelayRecordEndpointV1.Takes aead) relay calls := by
  refine forall_prefix_iff_safe (ProcessRelayRecordEndpointV1.Within limit)
    (fun t => t.session.sendCount ≤ limit ∧ t.session.recvCount ≤ limit)
    (fun t call => t.session.recvCount = limit → ¬ t.Takes aead call)
    (fun t call ht => relay_within aead ht call) ?_ h ⟨h.1 ▸ h.2, hrecv⟩ calls
  rintro t call ⟨rfl, hsend⟩ ⟨-, hle⟩
  obtain ⟨hmax, hsend'⟩ := relay_within aead ⟨rfl, hsend⟩ call
  rw [and_iff_right (hmax ▸ hsend'), ← t.receives_iff_takes, Bool.not_eq_true]
  exact (t.countsOnce_step call).recvCount_le_iff hle

end Limits

/-- No endpoint ever sends beyond the limit, and duplex endpoints of the third version and
record clients do not receive beyond it. Duplex endpoints of the first version and record
relays keep the limit along exactly those runs in which the methods without a check are given
no record to take at the limit. The relay does not count the close record it ends with, but
takes it only below the limit. -/
theorem session_message_limit (aead : AEAD) :
    (∀ (source : RandSource) (client : Bool) (digest : FixedBytes 32)
      (codec : EnvelopeCodecV1) (program : ProgramV1) (limit : ℕ)
      (w : DuplexWorkspaceV3 source) (calls : List DuplexCall),
      let endpoint := newProcessDuplexStateV1 client digest codec program limit (some w)
      LimitKept (step aead) sendCount recvCount limit endpoint calls) ∧
    (∀ (source : RandSource) (client : Bool) (digest : FixedBytes 32)
      (codec : EnvelopeCodecV1) (program : ProgramV1) (limit : ℕ) (calls : List DuplexCall),
      let endpoint : ProcessDuplexStateV1 source :=
        newProcessDuplexStateV1 client digest codec program limit none
      (stateAfter (step aead) endpoint calls).sendCount ≤ limit ∧
      (LimitKept (step aead) sendCount recvCount limit endpoint calls ↔
        NoneAtLimit (step aead) recvCount limit (Takes aead) endpoint calls)) ∧
    (∀ (digest : FixedBytes 32) (codec : EnvelopeCodecV1) (maxFrame maxStreams : UInt32)
      (limit : ℕ) (calls : List ClientRecordCall),
      let endpoint := newProcessClientRecordEndpointV1 digest codec maxFrame maxStreams limit
      LimitKept (ProcessClientRecordEndpointV1.step aead) (·.session.sendCount)
        (·.session.recvCount) limit endpoint calls) ∧
    (∀ (digest : FixedBytes 32) (codec : EnvelopeCodecV1) (limit : ℕ)
      (calls : List RelayRecordCall),
      let endpoint := newProcessRelayRecordEndpointV1 digest codec limit
      (stateAfter (ProcessRelayRecordEndpointV1.step aead) endpoint
          calls).session.sendCount ≤ limit ∧
      (LimitKept (ProcessRelayRecordEndpointV1.step aead) (·.session.sendCount)
          (·.session.recvCount) limit endpoint calls ↔
        NoneAtLimit (ProcessRelayRecordEndpointV1.step aead) (·.session.recvCount) limit
          (ProcessRelayRecordEndpointV1.Takes aead) endpoint calls) ∧
      ∀ encoded, replyAfter (ProcessRelayRecordEndpointV1.step aead) endpoint calls
          (.acceptClose encoded) = .done →
        (stateAfter (ProcessRelayRecordEndpointV1.step aead) endpoint
          calls).session.recvCount < limit) := by
  refine ⟨?_, ?_, ?_, ?_⟩
  · intro source client digest codec program limit w calls
    exact duplexV3_limitKept aead (counted_new ..) rfl calls
  · intro source client digest codec program limit calls endpoint
    have hcounted : endpoint.Counted limit := counted_new ..
    have hrun := stateAfter_invariant (ProcessDuplexStateV1.Counted limit)
      (fun t call ht => counted_step aead ht call) hcounted calls
    exact ⟨hrun.send, duplex_limitKept_iff aead hcounted rfl (Nat.zero_le _) calls⟩
  · intro digest codec maxFrame maxStreams limit calls
    exact client_limitKept aead ⟨rfl, Nat.zero_le _, le_rfl⟩ calls
  · intro digest codec limit calls endpoint
    have hwithin : endpoint.Within limit := ⟨rfl, Nat.zero_le _⟩
    obtain ⟨hmax, hsend⟩ := stateAfter_invariant (ProcessRelayRecordEndpointV1.Within limit)
      (fun t call ht => relay_within aead ht call) hwithin calls
    refine ⟨hmax ▸ hsend, relay_limitKept_iff aead hwithin (Nat.zero_le _) calls, ?_⟩
    intro encoded hdone
    have hroom := (ProcessRelayRecordEndpointV1.acceptClose_spec _ encoded).2 hdone
    exact hroom.trans_eq hmax

/-! ## A relay beyond its limit -/

/-- A relay of the first duplex version which may receive one record. -/
def limitedRelay : ProcessDuplexStateV1 zeroSource :=
  newProcessDuplexStateV1 false (fixedBytes 32 [1])
    (freshEnvelopeCodecV1 sampleScheduleV1 sampleContextV1 false false) sampleProgram 1 none

/-- A peer of the relay which does not count. -/
def unlimitedClient : ProcessDuplexStateV1 zeroSource :=
  newProcessDuplexStateV1 true (fixedBytes 32 [1])
    (freshEnvelopeCodecV1 sampleScheduleV1 sampleContextV1 true false) sampleProgram 9 none

/-- The bytes of a record which was sealed. -/
def sealedRecord : DuplexReply → Slice
  | .record encoded => ⟨0, encoded⟩
  | _ => ⟨0, []⟩

/-- The relay accepts a profile bind record and then a keepalive. -/
def callsBeyondLimit : List DuplexCall :=
  let bind := unlimitedClient.step plainAEAD (.profileBind (fixedBytes 32 [2]))
  let keepalive := { bind.1 with bound := true }.step plainAEAD .sealKeepalive
  [.acceptProfileBind (sealedRecord bind.2) (fixedBytes 32 [2]),
    .openFrame (sealedRecord keepalive.2)]

theorem session_message_limit_exceeded :
    ¬ LimitKept (step plainAEAD) sendCount recvCount 1 limitedRelay callsBeyondLimit := by
  intro h
  obtain ⟨-, hrecv⟩ := h callsBeyondLimit (List.prefix_refl _)
  revert hrecv
  decide +kernel

end Kurdistan.Runtime
