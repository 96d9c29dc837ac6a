import Kurdistan.Handshake.Network

/-!
# Invariants of handshake runs

What holds of every party of a reachable network: its stage agrees with what its
calls returned, the sessions it went through satisfy the call specifications, and
their hash inputs and signatures are in the log. Every signature in the log was
released by one of the parties.
-/

namespace Kurdistan.Handshake

open Support Security ClientProcessHandshakeV1 RelayProcessHandshakeV1 Function List

/-! ## Clients -/

namespace ClientParty

variable {p : Primitives} {log log' : List Event} {c c' : ClientParty}

/-- The stage of a client and what its calls returned. -/
def Staged (p : Primitives) (c : ClientParty) : Prop :=
  match c.state.stage with
  | .new => c.state.Created c.authority ∧ c.accepted = none ∧ c.result = none
  | .awaitServerHello =>
    (∃ scalar hello, c.state.Greeted p c.authority scalar hello) ∧
      c.sent = some c.state.clientHello ∧ c.accepted = none ∧ c.result = none
  | .awaitServerFinish => c.accepted = some c.state ∧ c.result = none
  | .closed => True

/-- A client which has accepted the hello of a relay in state `s`. -/
structure HasAccepted (p : Primitives) (log : List Event) (c : ClientParty)
    (s : ClientProcessHandshakeV1) (session : ClientProcessHandshakeV1.Session) : Prop where
  accepted : c.accepted = some s
  state : s.Accepted p c.authority session
  sent : c.sent = some s.clientHello
  logged : acceptServerHelloEvents p c.authority s ⊆ log

/-- A client which has completed on a finish body. -/
structure HasCompleted (p : Primitives) (log : List Event) (c : ClientParty)
    (s : ClientProcessHandshakeV1) (session : ClientProcessHandshakeV1.Session)
    (received : List UInt8) (result : ProcessHandshakeResultV1) : Prop extends
    HasAccepted p log c s session where
  completed : s.Completed p c.authority session received result
  finishLogged : acceptServerFinishEvents p c.authority s received ⊆ log

structure Sound (p : Primitives) (log : List Event) (c : ClientParty) : Prop where
  staged : c.Staged p
  accepted : ∀ s, c.accepted = some s → ∃ session, c.HasAccepted p log s session
  completed : ∀ result, c.result = some result →
    ∃ s session received, c.HasCompleted p log s session received result

/-- What a party keeps from one call to the next. -/
structure Extends (c c' : ClientParty) : Prop where
  authority : c'.authority = c.authority
  accepted : ∀ s, c.accepted = some s → c'.accepted = some s
  result : ∀ result, c.result = some result → c'.result = some result

/-- Where a signature released by a client comes from. -/
inductive Released (p : Primitives) (log : List Event) (c : ClientParty)
    (key : List UInt8) (digest : FixedBytes 32) (signature : List UInt8) : Prop where
  | hello (unsigned : List UInt8) (hashed : .hashed (framed (clientHelloSigned unsigned)) ∈ log)
      (digest_eq : digest = p.hash (framed (clientHelloSigned unsigned)))
  | finish (s : ClientProcessHandshakeV1) (accepted : c.accepted = some s)
      (key_eq : key = publicHalf c.authority.privateKey)
      (digest_eq : digest = p.hash (framed (clientFinish.signed (s.clientFinishSentBody.take 36))))

variable {session : ClientProcessHandshakeV1.Session}

theorem HasAccepted.mono {s : ClientProcessHandshakeV1} (h : c.HasAccepted p log s session)
    (hlog : log ⊆ log') : c.HasAccepted p log' s session :=
  ⟨h.accepted, h.state, h.sent, List.Subset.trans h.logged hlog⟩

theorem HasCompleted.mono {s : ClientProcessHandshakeV1} {received : List UInt8}
    {result : ProcessHandshakeResultV1} (h : c.HasCompleted p log s session received result)
    (hlog : log ⊆ log') : c.HasCompleted p log' s session received result :=
  ⟨h.toHasAccepted.mono hlog, h.completed, List.Subset.trans h.finishLogged hlog⟩

theorem Sound.mono (h : c.Sound p log) (hlog : log ⊆ log') : c.Sound p log' where
  staged := h.staged
  accepted := fun s hs =>
    let ⟨session, hsession⟩ := h.accepted s hs
    ⟨session, hsession.mono hlog⟩
  completed := fun result hresult =>
    let ⟨s, session, received, hcompleted⟩ := h.completed result hresult
    ⟨s, session, received, hcompleted.mono hlog⟩

theorem Released.mono {key signature : List UInt8} {digest : FixedBytes 32}
    (h : c.Released p log key digest signature) (hextends : c.Extends c')
    (hlog : log ⊆ log') : c'.Released p log' key digest signature := by
  cases h with
  | hello unsigned hashed digest_eq => exact .hello unsigned (hlog hashed) digest_eq
  | finish s accepted key_eq digest_eq =>
    refine .finish s (hextends.accepted s accepted) ?_ digest_eq
    rw [hextends.authority]
    exact key_eq

/-- What a call may do to a client. -/
structure Turn (p : Primitives) (log : List Event) (c : ClientParty)
    (turn : ClientParty × List Event × Reply) : Prop where
  sound : turn.1.Sound p (turn.2.1 ++ log)
  keeps : c.Extends turn.1
  released : ∀ key digest signature, .released key digest signature ∈ turn.2.1 →
    turn.1.Released p (turn.2.1 ++ log) key digest signature

theorem Extends.refl (c : ClientParty) : c.Extends c := ⟨rfl, fun _ h => h, fun _ h => h⟩

theorem turn_close (h : c.Sound p log) (reply : Reply) :
    Turn p log c ({ c with state := c.state.close }, [], reply) where
  sound :=
    { staged := trivial
      accepted := fun s hs =>
        let ⟨session, hsession⟩ := h.accepted s hs
        ⟨session, hsession.accepted, hsession.state, hsession.sent, hsession.logged⟩
      completed := fun result hresult =>
        let ⟨s, session, received, hcompleted⟩ := h.completed result hresult
        ⟨s, session, received, ⟨hcompleted.accepted, hcompleted.state, hcompleted.sent,
          hcompleted.logged⟩, hcompleted.completed, hcompleted.finishLogged⟩ }
  keeps := ⟨rfl, fun _ h => h, fun _ h => h⟩
  released := fun _ _ _ h => by cases h

theorem start_cases (p : Primitives) (c : ClientParty) (draw : Option Contribution) :
    (∃ code, c.start p draw = ({ c with state := c.state.close }, [], .failed code)) ∨
      ∃ state message, c.state.startCall p draw = .ok (state, message) ∧
        c.start p draw = ({ c with state, sent := some message },
          startEvents p c.authority state, .message message) := by
  rw [start, ClientProcessHandshakeV1.start]
  rcases settle_cases ClientProcessHandshakeV1.close c.state (c.state.startCall p draw) with
    ⟨code, -, hsettle⟩ | ⟨state, message, hcall, hsettle⟩
  · exact Or.inl ⟨code, by rw [hsettle]⟩
  · exact Or.inr ⟨state, message, hcall, by rw [hsettle]⟩

theorem acceptServerHello_cases (p : Primitives) (c : ClientParty) (message : List UInt8) :
    (∃ code, c.acceptServerHello p message =
        ({ c with state := c.state.close }, [], .failed code)) ∨
      ∃ state reply, c.state.acceptServerHelloCall p message = .ok (state, reply) ∧
        c.acceptServerHello p message = ({ c with state, accepted := some state },
          acceptServerHelloEvents p c.authority state, .message reply) := by
  rw [acceptServerHello, ClientProcessHandshakeV1.acceptServerHello]
  rcases settle_cases ClientProcessHandshakeV1.close c.state
      (c.state.acceptServerHelloCall p message) with
    ⟨code, -, hsettle⟩ | ⟨state, reply, hcall, hsettle⟩
  · exact Or.inl ⟨code, by rw [hsettle]⟩
  · exact Or.inr ⟨state, reply, hcall, by rw [hsettle]⟩

theorem acceptServerFinish_cases (p : Primitives) (c : ClientParty) (message : List UInt8) :
    (∃ code, c.acceptServerFinish p message =
        ({ c with state := c.state.close }, [], .failed code)) ∨
      ∃ state result, c.state.acceptServerFinishCall p message = .ok (state, result) ∧
        c.acceptServerFinish p message = ({ c with state, result := some result },
          acceptServerFinishEvents p c.authority c.state (message.drop 4),
          .completed result) := by
  rw [acceptServerFinish, ClientProcessHandshakeV1.acceptServerFinish]
  rcases settle_cases ClientProcessHandshakeV1.close c.state
      (c.state.acceptServerFinishCall p message) with
    ⟨code, -, hsettle⟩ | ⟨state, result, hcall, hsettle⟩
  · exact Or.inl ⟨code, by rw [hsettle]⟩
  · exact Or.inr ⟨state, result, hcall, by rw [hsettle]⟩

theorem turn_start (h : c.Sound p log) (draw : Option Contribution) :
    Turn p log c (c.start p draw) := by
  rcases start_cases p c draw with ⟨code, hturn⟩ | ⟨state, message, hcall, hturn⟩
  · rw [hturn]
    exact turn_close h _
  · have hnew : c.state.stage = .new := startCall_stage hcall
    have hstaged := h.staged
    rw [Staged, hnew] at hstaged
    obtain ⟨hcreated, haccepted, hresult⟩ := hstaged
    obtain ⟨hstage, rfl, hgreeted⟩ := startCall_eq_ok hcreated hcall
    rw [hturn]
    refine ⟨⟨?_, ?_, ?_⟩, ⟨rfl, ?_, ?_⟩, ?_⟩
    · simp only [Staged, hstage, true_and]
      exact ⟨hgreeted, haccepted, hresult⟩
    · intro s hs
      exact absurd hs (by simp [haccepted])
    · intro result hs
      exact absurd hs (by simp [hresult])
    · exact fun s hs => hs
    · exact fun result hs => hs
    · intro key digest signature hmem
      simp only [startEvents, signEvents, mem_cons, not_mem_nil, or_false,
        CryptoEvent.released.injEq, reduceCtorEq] at hmem
      refine .hello (helloUnsigned state.clientSentBody) ?_ hmem.2.1
      simp [startEvents, signEvents]

theorem turn_acceptServerHello (h : c.Sound p log) (message : List UInt8) :
    Turn p log c (c.acceptServerHello p message) := by
  rcases acceptServerHello_cases p c message with ⟨code, hturn⟩ | ⟨state, reply, hcall, hturn⟩
  · rw [hturn]
    exact turn_close h _
  · have hstage := acceptServerHelloCall_stage hcall
    have hstaged := h.staged
    rw [Staged, hstage] at hstaged
    obtain ⟨⟨scalar, hello, hgreeted⟩, hsent, haccepted, hresult⟩ := hstaged
    obtain ⟨hstage', hhello, session, hsession⟩ := acceptServerHelloCall_eq_ok hgreeted hcall
    rw [hturn]
    refine ⟨⟨?_, ?_, ?_⟩, ⟨rfl, ?_, ?_⟩, ?_⟩
    · simp only [Staged, hstage', true_and]
      exact hresult
    · rintro s ⟨⟩
      exact ⟨session, rfl, hsession, by rw [hhello]; exact hsent, subset_append_left _ _⟩
    · intro result hs
      exact absurd hs (by simp [hresult])
    · intro s hs
      exact absurd hs (by simp [haccepted])
    · exact fun result hs => hs
    · intro key digest signature hmem
      simp only [acceptServerHelloEvents, signEvents, acceptEvents, cons_append,
        nil_append, mem_cons, not_mem_nil, or_false,
        CryptoEvent.released.injEq, reduceCtorEq] at hmem
      exact .finish state rfl hmem.1 hmem.2.1

theorem turn_acceptServerFinish (h : c.Sound p log) (message : List UInt8) :
    Turn p log c (c.acceptServerFinish p message) := by
  rcases acceptServerFinish_cases p c message with ⟨code, hturn⟩ | ⟨state, result, hcall, hturn⟩
  · rw [hturn]
    exact turn_close h _
  · have hstage := acceptServerFinishCall_stage hcall
    have hstaged := h.staged
    rw [Staged, hstage] at hstaged
    obtain ⟨haccepted, hresult⟩ := hstaged
    obtain ⟨session, hsession⟩ := h.accepted _ haccepted
    obtain ⟨rfl, received, rfl, hcompleted⟩ := acceptServerFinishCall_eq_ok hsession.state hcall
    rw [hturn]
    refine ⟨⟨?_, ?_, ?_⟩, ⟨rfl, ?_, ?_⟩, ?_⟩
    · exact trivial
    · intro s hs
      obtain ⟨session, hsession⟩ := h.accepted s hs
      exact ⟨session, hsession.accepted, hsession.state, hsession.sent,
        subset_append_of_subset_right _ hsession.logged⟩
    · rintro result ⟨⟩
      refine ⟨c.state, session, received, ⟨⟨haccepted, hsession.state, hsession.sent,
        subset_append_of_subset_right _ hsession.logged⟩, hcompleted, ?_⟩⟩
      exact subset_append_left _ _
    · exact fun s hs => hs
    · intro result hs
      exact absurd hs (by simp [hresult])
    · intro key digest signature hmem
      simp [acceptServerFinishEvents, acceptEvents] at hmem

end ClientParty

/-! ## Relays -/

/-- A cache which has kept everything another one had recorded. -/
def CacheGrows (cache cache' : Option HandshakeReplayCache) : Prop :=
  ∀ c, cache = some c → ∃ c', cache' = some c' ∧ c.seen ⊆ c'.seen

theorem CacheGrows.refl (cache : Option HandshakeReplayCache) : CacheGrows cache cache :=
  fun c hc => ⟨c, hc, List.Subset.refl _⟩

namespace RelayParty

variable {p : Primitives} {log log' : List Event} {r r' : RelayParty}

/-- The stage of a relay and what its calls returned. -/
def Staged (r : RelayParty) : Prop :=
  match r.state.stage with
  | .awaitClientHello =>
    r.state.Created r.authority ∧ r.state.replay = r.cache ∧ r.answered = none ∧ r.result = none
  | .awaitClientFinish => r.answered = some r.state ∧ r.result = none
  | .closed => True

/-- A relay which has answered the hello of a client in state `s`. -/
structure HasAnswered (p : Primitives) (log : List Event) (r : RelayParty)
    (s : RelayProcessHandshakeV1) (session : RelayProcessHandshakeV1.Session) : Prop where
  answered : r.answered = some s
  state : s.Answered p r.authority session
  logged : acceptClientHelloEvents p r.authority s ⊆ log

/-- A relay which has completed on a finish body and sent its own. -/
structure HasCompleted (p : Primitives) (log : List Event) (r : RelayParty)
    (s : RelayProcessHandshakeV1) (session : RelayProcessHandshakeV1.Session)
    (received sent : List UInt8) (result : ProcessHandshakeResultV1) : Prop extends
    HasAnswered p log r s session where
  returned : r.result = some result
  completed : s.Completed p r.authority session received sent result
  finishLogged : acceptClientFinishEvents p r.authority s received sent ⊆ log

structure Sound (p : Primitives) (log : List Event) (r : RelayParty) : Prop where
  staged : r.Staged
  answered : ∀ s, r.answered = some s → ∃ session, r.HasAnswered p log s session
  completed : ∀ result, r.result = some result →
    ∃ s session received sent, r.HasCompleted p log s session received sent result

structure Extends (r r' : RelayParty) : Prop where
  authority : r'.authority = r.authority
  cache : r'.cache = r.cache
  answered : ∀ s, r.answered = some s → r'.answered = some s
  result : ∀ result, r.result = some result → r'.result = some result

/-- Where a signature released by a relay comes from. -/
inductive Released (p : Primitives) (log : List Event) (r : RelayParty)
    (key : List UInt8) (digest : FixedBytes 32) (signature : List UInt8) : Prop where
  | hello (clientSigned unsigned : List UInt8)
      (hashed : .hashed (framed (serverHelloSigned clientSigned unsigned)) ∈ log)
      (digest_eq : digest = p.hash (framed (serverHelloSigned clientSigned unsigned)))
  | finish (s : RelayProcessHandshakeV1) (session : RelayProcessHandshakeV1.Session)
      (received sent : List UInt8) (result : ProcessHandshakeResultV1)
      (completed : r.HasCompleted p log s session received sent result)
      (key_eq : key = publicHalf r.authority.privateKey)
      (digest_eq : digest = p.hash (framed (serverFinish.signed (sent.take 36))))
      (signature_eq : signature = finishSignature sent)

variable {session : RelayProcessHandshakeV1.Session}

theorem HasAnswered.mono {s : RelayProcessHandshakeV1} (h : r.HasAnswered p log s session)
    (hextends : r.Extends r') (hlog : log ⊆ log') : r'.HasAnswered p log' s session := by
  refine ⟨hextends.answered s h.answered, ?_, ?_⟩
  · rw [hextends.authority]
    exact h.state
  · rw [hextends.authority]
    exact List.Subset.trans h.logged hlog

theorem HasCompleted.mono {s : RelayProcessHandshakeV1} {received sent : List UInt8}
    {result : ProcessHandshakeResultV1}
    (h : r.HasCompleted p log s session received sent result) (hextends : r.Extends r')
    (hlog : log ⊆ log') : r'.HasCompleted p log' s session received sent result := by
  refine ⟨h.toHasAnswered.mono hextends hlog, hextends.result result h.returned, ?_, ?_⟩
  · rw [hextends.authority]
    exact h.completed
  · rw [hextends.authority]
    exact List.Subset.trans h.finishLogged hlog

theorem Extends.refl (r : RelayParty) : r.Extends r :=
  ⟨rfl, rfl, fun _ h => h, fun _ h => h⟩

theorem Sound.mono (h : r.Sound p log) (hlog : log ⊆ log') : r.Sound p log' where
  staged := h.staged
  answered := fun s hs =>
    let ⟨session, hsession⟩ := h.answered s hs
    ⟨session, hsession.mono (.refl r) hlog⟩
  completed := fun result hresult =>
    let ⟨s, session, received, sent, hcompleted⟩ := h.completed result hresult
    ⟨s, session, received, sent, hcompleted.mono (.refl r) hlog⟩

theorem Released.mono {key signature : List UInt8} {digest : FixedBytes 32}
    (h : r.Released p log key digest signature) (hextends : r.Extends r')
    (hlog : log ⊆ log') : r'.Released p log' key digest signature := by
  cases h with
  | hello clientSigned unsigned hashed digest_eq =>
    exact .hello clientSigned unsigned (hlog hashed) digest_eq
  | finish s session received sent result completed key_eq digest_eq signature_eq =>
    refine .finish s session received sent result (completed.mono hextends hlog) ?_ digest_eq
      signature_eq
    rw [hextends.authority]
    exact key_eq

/-- What a call may do to a relay. -/
structure Turn (p : Primitives) (log : List Event) (r : RelayParty)
    (turn : RelayParty × List Event × Reply) : Prop where
  sound : turn.1.Sound p (turn.2.1 ++ log)
  keeps : r.Extends turn.1
  released : ∀ key digest signature, .released key digest signature ∈ turn.2.1 →
    turn.1.Released p (turn.2.1 ++ log) key digest signature

theorem turn_close (h : r.Sound p log) (reply : Reply) :
    Turn p log r ({ r with state := r.state.close }, [], reply) := by
  have hextends : r.Extends { r with state := r.state.close } :=
    ⟨rfl, rfl, fun _ h => h, fun _ h => h⟩
  refine ⟨⟨trivial, ?_, ?_⟩, hextends, fun _ _ _ h => by cases h⟩
  · intro s hs
    obtain ⟨session, hsession⟩ := h.answered s hs
    exact ⟨session, hsession.mono hextends (List.Subset.refl _)⟩
  · intro result hresult
    obtain ⟨s, session, received, sent, hcompleted⟩ := h.completed result hresult
    exact ⟨s, session, received, sent, hcompleted.mono hextends (List.Subset.refl _)⟩

theorem acceptClientHello_cases (p : Primitives) (r : RelayParty)
    (cache : Option HandshakeReplayCache) (message : List UInt8) (draw : Option Contribution) :
    (∃ code cache', CacheGrows cache cache' ∧ r.acceptClientHello p cache message draw =
        (({ r with state := r.state.close }, [], .failed code), cache')) ∨
      ∃ hello body cache' state reply,
        r.state.admitClientHello p cache message = .ok (hello, body, cache') ∧
        r.state.answerClientHello p message hello body draw = .ok (state, reply) ∧
        r.acceptClientHello p cache message draw =
          (({ r with state, answered := some state },
            acceptClientHelloEvents p r.authority state, .message reply), some cache') := by
  rw [acceptClientHello, RelayProcessHandshakeV1.acceptClientHello]
  cases hadmit : r.state.admitClientHello p cache message with
  | error code => exact Or.inl ⟨code, cache, CacheGrows.refl cache, rfl⟩
  | ok value =>
    obtain ⟨hello, body, cache'⟩ := value
    rcases settle_cases RelayProcessHandshakeV1.close r.state
        (r.state.answerClientHello p message hello body draw) with
      ⟨code, -, hsettle⟩ | ⟨state, reply, hcall, hsettle⟩
    · refine Or.inl ⟨code, some cache', ?_, by simp only [hsettle]⟩
      intro c hc
      obtain ⟨-, -, -, -, before, hbefore, -, hseen⟩ := admitClientHello_eq_ok hadmit
      rw [hc, Option.some.injEq] at hbefore
      refine ⟨cache', rfl, ?_⟩
      rw [hseen, hbefore]
      exact subset_cons_self _ _
    · exact Or.inr ⟨hello, body, cache', state, reply, rfl, hcall, by simp only [hsettle]⟩

theorem acceptClientFinish_cases (p : Primitives) (r : RelayParty) (message : List UInt8) :
    (∃ code, r.acceptClientFinish p message =
        ({ r with state := r.state.close }, [], .failed code)) ∨
      ∃ state finish result,
        r.state.acceptClientFinishCall p message = .ok (state, finish, result) ∧
        r.acceptClientFinish p message = ({ r with state, result := some result },
          acceptClientFinishEvents p r.authority r.state (message.drop 4) (finish.drop 4),
          .completed result) := by
  rw [acceptClientFinish, RelayProcessHandshakeV1.acceptClientFinish]
  rcases settle_cases RelayProcessHandshakeV1.close r.state
      (r.state.acceptClientFinishCall p message) with
    ⟨code, -, hsettle⟩ | ⟨state, ⟨finish, result⟩, hcall, hsettle⟩
  · exact Or.inl ⟨code, by rw [hsettle]⟩
  · exact Or.inr ⟨state, finish, result, hcall, by rw [hsettle]⟩

theorem turn_acceptClientHello (h : r.Sound p log) (cache : Option HandshakeReplayCache)
    (message : List UInt8) (draw : Option Contribution) :
    Turn p log r (r.acceptClientHello p cache message draw).1 := by
  rcases acceptClientHello_cases p r cache message draw with
    ⟨code, cache', -, hturn⟩ | ⟨hello, body, cache', state, reply, hadmit, hanswer, hturn⟩
  · rw [hturn]
    exact turn_close h _
  · obtain ⟨hstage, hmessage, hparsed, hverify, -⟩ := admitClientHello_eq_ok hadmit
    have hstaged := h.staged
    rw [Staged, hstage] at hstaged
    obtain ⟨hcreated, -, hanswered, hresult⟩ := hstaged
    obtain ⟨hstage', -, -, session, -, hsession⟩ :=
      answerClientHello_eq_ok hcreated hmessage hparsed hverify hanswer
    rw [hturn]
    refine ⟨⟨?_, ?_, ?_⟩, ⟨rfl, rfl, ?_, ?_⟩, ?_⟩
    · simp only [Staged, hstage', true_and]
      exact hresult
    · rintro s ⟨⟩
      exact ⟨session, rfl, hsession, subset_append_left _ _⟩
    · intro result hs
      exact absurd hs (by simp [hresult])
    · intro s hs
      exact absurd hs (by simp [hanswered])
    · exact fun result hs => hs
    · intro key digest signature hmem
      simp only [acceptClientHelloEvents, signEvents, acceptEvents, cons_append,
        nil_append, mem_cons, not_mem_nil, or_false, false_or,
        CryptoEvent.released.injEq, reduceCtorEq] at hmem
      refine .hello state.receivedClientBody (helloUnsigned state.serverSentBody) ?_ hmem.2.1
      simp [acceptClientHelloEvents, signEvents]

theorem turn_acceptClientFinish (h : r.Sound p log) (message : List UInt8) :
    Turn p log r (r.acceptClientFinish p message) := by
  rcases acceptClientFinish_cases p r message with
    ⟨code, hturn⟩ | ⟨state, finish, result, hcall, hturn⟩
  · rw [hturn]
    exact turn_close h _
  · have hstage := acceptClientFinishCall_stage hcall
    have hstaged := h.staged
    rw [Staged, hstage] at hstaged
    obtain ⟨hanswered, hresult⟩ := hstaged
    obtain ⟨session, hsession⟩ := h.answered _ hanswered
    obtain ⟨rfl, received, sent, rfl, rfl, hcompleted⟩ :=
      acceptClientFinishCall_eq_ok hsession.state hcall
    have hextends : r.Extends { r with state := r.state.close, result := some result } :=
      ⟨rfl, rfl, fun _ hs => hs, fun _ hs => absurd hs (by simp [hresult])⟩
    have hdone : HasCompleted p
        (acceptClientFinishEvents p r.authority r.state received sent ++ log)
        { r with state := r.state.close, result := some result } r.state session received sent
        result :=
      ⟨hsession.mono hextends (subset_append_right _ _), rfl, hcompleted, subset_append_left _ _⟩
    rw [hturn]
    refine ⟨⟨trivial, ?_, ?_⟩, hextends, ?_⟩
    · intro s hs
      obtain ⟨session, hsession⟩ := h.answered s hs
      exact ⟨session, hsession.mono hextends (subset_append_right _ _)⟩
    · rintro result ⟨⟩
      exact ⟨r.state, session, received, sent, hdone⟩
    · intro key digest signature hmem
      simp only [acceptClientFinishEvents, signEvents, acceptEvents, cons_append,
        nil_append, mem_cons, not_mem_nil, or_false, false_or,
        CryptoEvent.released.injEq, reduceCtorEq] at hmem
      exact .finish r.state session received sent result hdone hmem.1 hmem.2.1 hmem.2.2

end RelayParty

/-! ## Networks -/

theorem update_some_cases {α : Type} {table : ℕ → Option α} {i j : ℕ} {entry value : α}
    (h : update table i (some entry) j = some value) :
    (j = i ∧ entry = value) ∨ (j ≠ i ∧ table j = some value) := by
  by_cases hj : j = i
  · subst hj
    rw [update_self, Option.some.injEq] at h
    exact Or.inl ⟨rfl, h⟩
  · rw [update_of_ne hj] at h
    exact Or.inr ⟨hj, h⟩

namespace Network

variable {p : Primitives} {net : Network}

/-- Every party is sound and every released signature belongs to one of them. -/
structure Sound (p : Primitives) (net : Network) : Prop where
  clients : ∀ i c, net.clients i = some c → c.Sound p net.log
  relays : ∀ j r, net.relays j = some r → r.Sound p net.log
  released : ∀ key digest signature, .released key digest signature ∈ net.log →
    (∃ i c, net.clients i = some c ∧ c.Released p net.log key digest signature) ∨
      ∃ j r, net.relays j = some r ∧ r.Released p net.log key digest signature

theorem sound_empty : Sound p empty where
  clients := fun _ _ h => by cases h
  relays := fun _ _ h => by cases h
  released := fun _ _ _ h => by cases h

section

variable (h : net.Sound p)

include h

theorem Sound.callClient (i : ℕ) {call : ClientParty → ClientParty × List Event × Reply}
    (hcall : ∀ c, c.Sound p net.log → ClientParty.Turn p net.log c (call c)) :
    (net.callClient i call).1.Sound p := by
  rw [Network.callClient]
  cases hi : net.clients i with
  | none => exact h
  | some c =>
    have hturn := hcall c (h.clients i c hi)
    have hlog : net.log ⊆ (call c).2.1 ++ net.log := subset_append_right _ _
    refine ⟨?_, fun j r hr => (h.relays j r hr).mono hlog, ?_⟩
    · intro i' c' hc'
      rcases update_some_cases hc' with ⟨rfl, rfl⟩ | ⟨-, hold⟩
      · exact hturn.sound
      · exact (h.clients i' c' hold).mono hlog
    · intro key digest signature hmem
      rcases mem_append.mp hmem with hnew | hold
      · exact Or.inl ⟨i, (call c).1, update_self .., hturn.released _ _ _ hnew⟩
      · rcases h.released _ _ _ hold with ⟨i', c', hc', hreleased⟩ | ⟨j, r, hr, hreleased⟩
        · left
          by_cases hii : i' = i
          · subst hii
            rw [hi, Option.some.injEq] at hc'
            subst hc'
            exact ⟨i', (call c).1, update_self .., hreleased.mono hturn.keeps hlog⟩
          · refine ⟨i', c', ?_, hreleased.mono (.refl c') hlog⟩
            exact (update_of_ne hii ..).trans hc'
        · exact Or.inr ⟨j, r, hr, hreleased.mono (.refl r) hlog⟩

/-- The turn of a relay keeps a network sound, whatever becomes of the caches. -/
theorem Sound.relayTurn {j : ℕ} {r : RelayParty} (hj : net.relays j = some r)
    {turn : RelayParty × List Event × Reply} (hturn : RelayParty.Turn p net.log r turn)
    (caches : ℕ → Option HandshakeReplayCache) (serverNonces : List (FixedBytes 32)) :
    Sound p
      { net with
        relays := update net.relays j (some turn.1), caches,
        log := turn.2.1 ++ net.log, serverNonces } := by
  have hlog : net.log ⊆ turn.2.1 ++ net.log := subset_append_right _ _
  refine ⟨fun i c hc => (h.clients i c hc).mono hlog, ?_, ?_⟩
  · intro j' r' hr'
    rcases update_some_cases hr' with ⟨rfl, rfl⟩ | ⟨-, hold⟩
    · exact hturn.sound
    · exact (h.relays j' r' hold).mono hlog
  · intro key digest signature hmem
    rcases mem_append.mp hmem with hnew | hold
    · exact Or.inr ⟨j, turn.1, update_self .., hturn.released _ _ _ hnew⟩
    · rcases h.released _ _ _ hold with ⟨i, c, hc, hreleased⟩ | ⟨j', r', hr', hreleased⟩
      · exact Or.inl ⟨i, c, hc, hreleased.mono (.refl c) hlog⟩
      · right
        by_cases hjj : j' = j
        · subst hjj
          rw [hj, Option.some.injEq] at hr'
          subst hr'
          exact ⟨j', turn.1, update_self .., hreleased.mono hturn.keeps hlog⟩
        · refine ⟨j', r', ?_, hreleased.mono (.refl r') hlog⟩
          exact (update_of_ne hjj ..).trans hr'

theorem Sound.callRelay (j : ℕ) {call : RelayParty → RelayParty × List Event × Reply}
    (hcall : ∀ r, r.Sound p net.log → RelayParty.Turn p net.log r (call r)) :
    (net.callRelay j call).1.Sound p := by
  rw [Network.callRelay]
  cases hj : net.relays j with
  | none => exact h
  | some r => exact h.relayTurn hj (hcall r (h.relays j r hj)) net.caches net.serverNonces

theorem Sound.greetRelay (j : ℕ) (message : List UInt8)
    (draw : Option Contribution) : (net.greetRelay p j message draw).1.Sound p := by
  rw [Network.greetRelay]
  cases hj : net.relays j with
  | none => exact h
  | some r =>
    exact h.relayTurn hj (RelayParty.turn_acceptClientHello (h.relays j r hj) _ message draw)
      _ _

theorem Sound.addCache (k : ℕ) (capacity : Int) : (net.addCache k capacity).1.Sound p := by
  rw [Network.addCache]
  split
  · exact h
  · exact h
  · exact ⟨h.clients, h.relays, h.released⟩

end

theorem newClientProcessHandshakeV1_stage {config : FirstContactInput} {deps : Dependencies}
    {state : ClientProcessHandshakeV1}
    (h : newClientProcessHandshakeV1 p config deps = .ok state) : state.stage = .new := by
  simp only [newClientProcessHandshakeV1, bind_ok_iff] at h
  obtain ⟨_, _, _, _, hvalue⟩ := h
  cases hvalue
  rfl

theorem newRelayProcessHandshakeV1_stage {config : FirstContactInput} {deps : Dependencies}
    {cache : Option ℕ} {state : RelayProcessHandshakeV1}
    (h : newRelayProcessHandshakeV1 p config deps cache = .ok state) :
    state.stage = .awaitClientHello := by
  simp only [newRelayProcessHandshakeV1, bind_ok_iff] at h
  obtain ⟨_, _, _, _, _, _, hvalue⟩ := h
  cases hvalue
  rfl

theorem Sound.addClient (h : net.Sound p) (i : ℕ) (config : FirstContactInput)
    (deps : Dependencies) : (net.addClient p i config deps).1.Sound p := by
  cases hi : net.clients i with
  | some c => simpa only [Network.addClient, hi] using h
  | none =>
    cases hnew : newClientProcessHandshakeV1 p config deps with
    | error code => simpa only [Network.addClient, hi, hnew] using h
    | ok state =>
      simp only [Network.addClient, hi, hnew]
      refine ⟨?_, h.relays, ?_⟩
      · intro i' c' hc'
        rcases update_some_cases hc' with ⟨rfl, rfl⟩ | ⟨-, hold⟩
        · refine ⟨?_, fun _ hs => (nomatch hs), fun _ hs => (nomatch hs)⟩
          simp only [ClientParty.Staged, newClientProcessHandshakeV1_stage hnew]
          exact ⟨⟨rfl, rfl, rfl⟩, trivial, trivial⟩
        · exact h.clients i' c' hold
      · intro key digest signature hmem
        rcases h.released _ _ _ hmem with ⟨i', c', hc', hreleased⟩ | hrelay
        · left
          refine ⟨i', c', ?_, hreleased⟩
          have hii : i' ≠ i := by
            rintro rfl
            rw [hi] at hc'
            cases hc'
          exact (update_of_ne hii ..).trans hc'
        · exact Or.inr hrelay

theorem Sound.addRelay (h : net.Sound p) (j : ℕ) (config : FirstContactInput)
    (deps : Dependencies) (cache : Option ℕ) : (net.addRelay p j config deps cache).1.Sound p := by
  cases hj : net.relays j with
  | some r => simpa only [Network.addRelay, hj] using h
  | none =>
    cases hnew : newRelayProcessHandshakeV1 p config deps cache with
    | error code => simpa only [Network.addRelay, hj, hnew] using h
    | ok state =>
      simp only [Network.addRelay, hj, hnew]
      refine ⟨h.clients, ?_, ?_⟩
      · intro j' r' hr'
        rcases update_some_cases hr' with ⟨rfl, rfl⟩ | ⟨-, hold⟩
        · refine ⟨?_, fun _ hs => (nomatch hs), fun _ hs => (nomatch hs)⟩
          simp only [RelayParty.Staged, newRelayProcessHandshakeV1_stage hnew]
          exact ⟨⟨rfl, rfl, rfl⟩, trivial, trivial, trivial⟩
        · exact h.relays j' r' hold
      · intro key digest signature hmem
        rcases h.released _ _ _ hmem with hclient | ⟨j', r', hr', hreleased⟩
        · exact Or.inl hclient
        · right
          refine ⟨j', r', ?_, hreleased⟩
          have hjj : j' ≠ j := by
            rintro rfl
            rw [hj] at hr'
            cases hr'
          exact (update_of_ne hjj ..).trans hr'

theorem Sound.step (h : net.Sound p) (action : Action) : (net.step p action).1.Sound p := by
  cases action with
  | newCache k capacity => exact h.addCache k capacity
  | newClient i config deps => exact h.addClient i config deps
  | newRelay j config deps cache => exact h.addRelay j config deps cache
  | start i draw => exact h.callClient i fun c hc => ClientParty.turn_start hc draw
  | acceptServerHello i message =>
    exact h.callClient i fun c hc => ClientParty.turn_acceptServerHello hc message
  | acceptServerFinish i message =>
    exact h.callClient i fun c hc => ClientParty.turn_acceptServerFinish hc message
  | closeClient i => exact h.callClient i fun c hc => ClientParty.turn_close hc _
  | acceptClientHello j message draw => exact h.greetRelay j message draw
  | acceptClientFinish j message =>
    exact h.callRelay j fun r hr => RelayParty.turn_acceptClientFinish hr message
  | closeRelay j => exact h.callRelay j fun r hr => RelayParty.turn_close hr _

theorem sound_after (p : Primitives) (actions : List Action) : (after p actions).Sound p :=
  stateAfter_invariant (Sound p) (fun _ action h => h.step action) sound_empty actions

end Network

end Kurdistan.Handshake
