import Kurdistan.Handshake.NetworkInvariant

/-!
# Closed instances stay closed

A call which fails closes its instance, and so does a call made out of order and
a call which completes. A closed instance answers every further call with a
failure, whatever the other instances do.
-/

namespace Kurdistan.Handshake

open Support Security Function

/-- The instance a call is made on. -/
inductive Instance where
  | client (i : ℕ)
  | relay (j : ℕ)
  deriving DecidableEq

def Action.target : Action → Option Instance
  | .newCache _ _ => none
  | .newClient _ _ _ => none
  | .newRelay _ _ _ _ => none
  | .start i _ => some (.client i)
  | .acceptServerHello i _ => some (.client i)
  | .acceptServerFinish i _ => some (.client i)
  | .closeClient i => some (.client i)
  | .acceptClientHello j _ _ => some (.relay j)
  | .acceptClientFinish j _ => some (.relay j)
  | .closeRelay j => some (.relay j)

namespace Network

variable {p : Primitives} {net : Network}

def Closed (net : Network) : Instance → Prop
  | .client i => ∃ c, net.clients i = some c ∧ c.state.stage = .closed
  | .relay j => ∃ r, net.relays j = some r ∧ r.state.stage = .closed

/-- A call made at another stage than the one it belongs to. -/
def OutOfOrder (net : Network) : Action → Prop
  | .start i _ => ∃ c, net.clients i = some c ∧ c.state.stage ≠ .new
  | .acceptServerHello i _ =>
    ∃ c, net.clients i = some c ∧ c.state.stage ≠ .awaitServerHello
  | .acceptServerFinish i _ =>
    ∃ c, net.clients i = some c ∧ c.state.stage ≠ .awaitServerFinish
  | .acceptClientHello j _ _ =>
    ∃ r, net.relays j = some r ∧ r.state.stage ≠ .awaitClientHello
  | .acceptClientFinish j _ =>
    ∃ r, net.relays j = some r ∧ r.state.stage ≠ .awaitClientFinish
  | _ => False

/-! ## Turns -/

/-- What a call which belongs to a stage does: it fails and closes the instance,
or it was made at its stage and answers with a message or closes. -/
def StageTurn {σ : Type} (closed stage before after : σ) (reply : Reply) : Prop :=
  (after = closed ∧ ∃ code, reply = .failed code) ∨
    (before = stage ∧ (after = closed ∨ ∃ m, reply = .message m))

/-- What follows for the instance the call is made on. -/
structure Settles (wasClosed wrongStage isClosed : Prop) (reply : Reply) : Prop where
  failed : ∀ code, reply = .failed code → isClosed
  completed : ∀ result, reply = .completed result → isClosed
  stays : wasClosed → isClosed ∧ ∀ result, reply ≠ .completed result
  order : wrongStage → isClosed

theorem StageTurn.settles {σ : Type} {closed stage before after : σ} {reply : Reply}
    (h : StageTurn closed stage before after reply) (hstage : stage ≠ closed) :
    Settles (before = closed) (before ≠ stage) (after = closed) reply := by
  rcases h with ⟨hclosed, code, hreply⟩ | ⟨hright, hdone⟩
  · subst hreply
    exact ⟨fun _ _ => hclosed, fun _ _ => hclosed, fun _ => ⟨hclosed, fun _ h => (nomatch h)⟩,
      fun _ => hclosed⟩
  · have hfinal : (∀ m, reply ≠ .message m) → after = closed := fun hreply => by
      rcases hdone with hclosed | ⟨m, hm⟩
      · exact hclosed
      · exact absurd hm (hreply m)
    refine ⟨fun code hcode => hfinal fun m hm => ?_, fun result hresult => hfinal fun m hm => ?_,
      fun hclosed => absurd (hright.symm.trans hclosed) hstage, fun hwrong => absurd hright hwrong⟩
    · rw [hcode] at hm
      cases hm
    · rw [hresult] at hm
      cases hm

theorem stageTurn_start (p : Primitives) (c : ClientParty) (draw : Option Contribution) :
    StageTurn .closed .new c.state.stage (c.start p draw).1.state.stage (c.start p draw).2.2 := by
  rcases c.start_cases p draw with ⟨code, hturn⟩ | ⟨state, message, hcall, hturn⟩
  · rw [hturn]
    exact Or.inl ⟨rfl, code, rfl⟩
  · rw [hturn]
    exact Or.inr ⟨ClientProcessHandshakeV1.startCall_stage hcall, Or.inr ⟨message, rfl⟩⟩

theorem stageTurn_acceptServerHello (p : Primitives) (c : ClientParty) (message : List UInt8) :
    StageTurn .closed .awaitServerHello c.state.stage
      (c.acceptServerHello p message).1.state.stage (c.acceptServerHello p message).2.2 := by
  rcases c.acceptServerHello_cases p message with ⟨code, hturn⟩ | ⟨state, reply, hcall, hturn⟩
  · rw [hturn]
    exact Or.inl ⟨rfl, code, rfl⟩
  · rw [hturn]
    exact Or.inr ⟨ClientProcessHandshakeV1.acceptServerHelloCall_stage hcall, Or.inr ⟨reply, rfl⟩⟩

theorem stageTurn_acceptServerFinish (p : Primitives) (c : ClientParty) (message : List UInt8) :
    StageTurn .closed .awaitServerFinish c.state.stage
      (c.acceptServerFinish p message).1.state.stage (c.acceptServerFinish p message).2.2 := by
  rcases c.acceptServerFinish_cases p message with ⟨code, hturn⟩ | ⟨state, result, hcall, hturn⟩
  · rw [hturn]
    exact Or.inl ⟨rfl, code, rfl⟩
  · rw [hturn]
    refine Or.inr ⟨ClientProcessHandshakeV1.acceptServerFinishCall_stage hcall, Or.inl ?_⟩
    simp only [ClientProcessHandshakeV1.acceptServerFinishCall, bind_ok_iff] at hcall
    obtain ⟨_, _, _, _, _, _, _, _, hvalue⟩ := hcall
    cases hvalue
    rfl

theorem stageTurn_acceptClientHello (p : Primitives) (r : RelayParty)
    (cache : Option HandshakeReplayCache) (message : List UInt8) (draw : Option Contribution) :
    StageTurn .closed .awaitClientHello r.state.stage
      (r.acceptClientHello p cache message draw).1.1.state.stage
      (r.acceptClientHello p cache message draw).1.2.2 := by
  rcases r.acceptClientHello_cases p cache message draw with
    ⟨code, cache', -, hturn⟩ | ⟨hello, body, cache', state, reply, hadmit, -, hturn⟩
  · rw [hturn]
    exact Or.inl ⟨rfl, code, rfl⟩
  · rw [hturn]
    obtain ⟨hstage, -⟩ := RelayProcessHandshakeV1.admitClientHello_eq_ok hadmit
    exact Or.inr ⟨hstage, Or.inr ⟨reply, rfl⟩⟩

theorem stageTurn_acceptClientFinish (p : Primitives) (r : RelayParty) (message : List UInt8) :
    StageTurn .closed .awaitClientFinish r.state.stage
      (r.acceptClientFinish p message).1.state.stage (r.acceptClientFinish p message).2.2 := by
  rcases r.acceptClientFinish_cases p message with
    ⟨code, hturn⟩ | ⟨state, finish, result, hcall, hturn⟩
  · rw [hturn]
    exact Or.inl ⟨rfl, code, rfl⟩
  · rw [hturn]
    refine Or.inr ⟨RelayProcessHandshakeV1.acceptClientFinishCall_stage hcall, Or.inl ?_⟩
    simp only [RelayProcessHandshakeV1.acceptClientFinishCall, bind_ok_iff] at hcall
    obtain ⟨_, _, _, _, _, _, _, _, hvalue⟩ := hcall
    cases hvalue
    rfl

/-! ## Steps -/

variable {wrongStage : Prop}

theorem Settles.absent (h : ¬ wrongStage) : Settles False wrongStage False .none :=
  ⟨fun _ h => (nomatch h), fun _ h => (nomatch h), False.elim, h⟩

theorem Settles.congr {a a' b b' c c' : Prop} {reply : Reply} (h : Settles a b c reply)
    (ha : a' ↔ a) (hb : b' → b) (hc : c' ↔ c) : Settles a' b' c' reply := by
  rw [ha, hc]
  exact ⟨h.failed, h.completed, h.stays, fun hwrong => h.order (hb hwrong)⟩

theorem settles_callClient {i : ℕ} {call : ClientParty → ClientParty × List Event × Reply}
    (wrong : ClientParty → Prop) (hwrong : wrongStage → ∃ c, net.clients i = some c ∧ wrong c)
    (hcall : ∀ c, Settles (c.state.stage = .closed) (wrong c)
      ((call c).1.state.stage = .closed) (call c).2.2) :
    Settles (net.Closed (.client i)) wrongStage ((net.callClient i call).1.Closed (.client i))
      (net.callClient i call).2 := by
  cases hi : net.clients i with
  | none =>
    simp only [Network.callClient, hi, Closed, reduceCtorEq, false_and, exists_false]
    refine Settles.absent fun h => ?_
    obtain ⟨c, hc, -⟩ := hwrong h
    rw [hi] at hc
    cases hc
  | some c =>
    simp only [Network.callClient, hi]
    refine (hcall c).congr ?_ ?_ ?_
    · simp [Closed, hi]
    · intro h
      obtain ⟨c', hc', hstage⟩ := hwrong h
      rw [hi, Option.some.injEq] at hc'
      exact hc' ▸ hstage
    · simp [Closed]

/-- The turn of a relay, whatever becomes of the caches. -/
theorem settles_relayTurn {j : ℕ} {r : RelayParty} (hj : net.relays j = some r)
    {turn : RelayParty × List Event × Reply} {wrong : RelayParty → Prop}
    (hwrong : wrongStage → ∃ r, net.relays j = some r ∧ wrong r)
    (hturn : Settles (r.state.stage = .closed) (wrong r) (turn.1.state.stage = .closed)
      turn.2.2) {net' : Network} (hnet : net'.relays = update net.relays j (some turn.1)) :
    Settles (net.Closed (.relay j)) wrongStage (net'.Closed (.relay j)) turn.2.2 := by
  refine hturn.congr ?_ ?_ ?_
  · simp [Closed, hj]
  · intro h
    obtain ⟨r', hr', hstage⟩ := hwrong h
    rw [hj, Option.some.injEq] at hr'
    exact hr' ▸ hstage
  · simp [Closed, hnet]

theorem settles_callRelay {j : ℕ} {call : RelayParty → RelayParty × List Event × Reply}
    (wrong : RelayParty → Prop) (hwrong : wrongStage → ∃ r, net.relays j = some r ∧ wrong r)
    (hcall : ∀ r, Settles (r.state.stage = .closed) (wrong r)
      ((call r).1.state.stage = .closed) (call r).2.2) :
    Settles (net.Closed (.relay j)) wrongStage ((net.callRelay j call).1.Closed (.relay j))
      (net.callRelay j call).2 := by
  cases hj : net.relays j with
  | none =>
    simp only [Network.callRelay, hj, Closed, reduceCtorEq, false_and, exists_false]
    refine Settles.absent fun h => ?_
    obtain ⟨r, hr, -⟩ := hwrong h
    rw [hj] at hr
    cases hr
  | some r =>
    simp only [Network.callRelay, hj]
    exact settles_relayTurn hj hwrong (hcall r) rfl

theorem settles_greetRelay (j : ℕ) (message : List UInt8) (draw : Option Contribution) :
    Settles (net.Closed (.relay j)) (net.OutOfOrder (.acceptClientHello j message draw))
      ((net.greetRelay p j message draw).1.Closed (.relay j))
      (net.greetRelay p j message draw).2 := by
  cases hj : net.relays j with
  | none =>
    simp only [Network.greetRelay, hj, Closed, reduceCtorEq, false_and, exists_false]
    refine Settles.absent ?_
    rintro ⟨r, hr, -⟩
    rw [hj] at hr
    cases hr
  | some r =>
    simp only [Network.greetRelay, hj]
    exact settles_relayTurn hj id
      ((stageTurn_acceptClientHello p r _ message draw).settles (by decide)) rfl

theorem Settles.close (wasClosed : Prop) : Settles wasClosed False True .none :=
  ⟨fun _ _ => trivial, fun _ _ => trivial, fun _ => ⟨trivial, fun _ h => (nomatch h)⟩, False.elim⟩

variable {action : Action} {x : Instance}

theorem settles_step (h : action.target = some x) :
    Settles (net.Closed x) (net.OutOfOrder action) ((net.step p action).1.Closed x)
      (net.step p action).2 := by
  cases action with
  | newCache k capacity => cases h
  | newClient i config deps => cases h
  | newRelay j config deps cache => cases h
  | start i draw =>
    cases h
    exact settles_callClient _ id fun c => (stageTurn_start p c draw).settles (by decide)
  | acceptServerHello i message =>
    cases h
    exact settles_callClient _ id fun c =>
      (stageTurn_acceptServerHello p c message).settles (by decide)
  | acceptServerFinish i message =>
    cases h
    exact settles_callClient _ id fun c =>
      (stageTurn_acceptServerFinish p c message).settles (by decide)
  | closeClient i =>
    cases h
    exact settles_callClient (fun _ => False) False.elim fun c =>
      (Settles.close _).congr Iff.rfl id (iff_true_intro rfl)
  | acceptClientHello j message draw =>
    cases h
    exact settles_greetRelay j message draw
  | acceptClientFinish j message =>
    cases h
    exact settles_callRelay _ id fun r =>
      (stageTurn_acceptClientFinish p r message).settles (by decide)
  | closeRelay j =>
    cases h
    exact settles_callRelay (fun _ => False) False.elim fun r =>
      (Settles.close _).congr Iff.rfl id (iff_true_intro rfl)

theorem callClient_of_ne {i i' : ℕ} (h : i' ≠ i)
    (call : ClientParty → ClientParty × List Event × Reply) :
    (net.callClient i call).1.clients i' = net.clients i' := by
  rw [callClient]
  split
  · rfl
  · exact update_of_ne h ..

theorem callClient_relays (i : ℕ) (call : ClientParty → ClientParty × List Event × Reply) :
    (net.callClient i call).1.relays = net.relays := by
  rw [callClient]
  split <;> rfl

theorem callRelay_of_ne {j j' : ℕ} (h : j' ≠ j)
    (call : RelayParty → RelayParty × List Event × Reply) :
    (net.callRelay j call).1.relays j' = net.relays j' := by
  rw [callRelay]
  split
  · rfl
  · exact update_of_ne h ..

theorem callRelay_clients (j : ℕ) (call : RelayParty → RelayParty × List Event × Reply) :
    (net.callRelay j call).1.clients = net.clients := by
  rw [callRelay]
  split <;> rfl

theorem greetRelay_of_ne {j j' : ℕ} (h : j' ≠ j) (message : List UInt8)
    (draw : Option Contribution) :
    (net.greetRelay p j message draw).1.relays j' = net.relays j' := by
  rw [greetRelay]
  split
  · rfl
  · exact update_of_ne h ..

theorem greetRelay_clients (j : ℕ) (message : List UInt8) (draw : Option Contribution) :
    (net.greetRelay p j message draw).1.clients = net.clients := by
  rw [greetRelay]
  split <;> rfl

/-- A client is the same after an action on another instance, unless the action
creates it. -/
theorem clients_step_of_ne {i : ℕ} (h : action.target ≠ some (.client i))
    (hnew : net.clients i ≠ none ∨ ∀ config deps, action ≠ .newClient i config deps) :
    (net.step p action).1.clients i = net.clients i := by
  have hne : ∀ i', some (Instance.client i') ≠ some (.client i) → i ≠ i' := by
    rintro i' h rfl
    exact h rfl
  cases action with
  | newCache k capacity =>
    rw [step, addCache]
    split <;> rfl
  | newClient i' config deps =>
    rw [step, addClient]
    split
    · rfl
    · rfl
    · rename_i hnone _
      have hii : i ≠ i' := by
        rintro rfl
        rcases hnew with hsome | hother
        · exact hsome hnone
        · exact hother config deps rfl
      exact update_of_ne hii ..
  | newRelay j config deps cache =>
    rw [step, addRelay]
    split <;> rfl
  | start i' draw => exact callClient_of_ne (hne i' h) _
  | acceptServerHello i' message => exact callClient_of_ne (hne i' h) _
  | acceptServerFinish i' message => exact callClient_of_ne (hne i' h) _
  | closeClient i' => exact callClient_of_ne (hne i' h) _
  | acceptClientHello j message draw => exact congrFun (greetRelay_clients j message draw) i
  | acceptClientFinish j message => exact congrFun (callRelay_clients j _) i
  | closeRelay j => exact congrFun (callRelay_clients j _) i

/-- A run which neither creates nor calls a client leaves it as it is. -/
theorem clients_stateAfter_of_ne {i : ℕ} {actions : List Action}
    (h : ∀ action ∈ actions, action.target ≠ some (.client i) ∧
      ∀ config deps, action ≠ .newClient i config deps) :
    (stateAfter (step p) net actions).clients i = net.clients i := by
  induction actions generalizing net with
  | nil => rfl
  | cons action actions ih =>
    rw [List.forall_mem_cons] at h
    rw [stateAfter_cons, ih h.2, clients_step_of_ne h.1.1 (Or.inr h.1.2)]

theorem relay_step_of_ne {j : ℕ} {r : RelayParty} (h : action.target ≠ some (.relay j))
    (hj : net.relays j = some r) : (net.step p action).1.relays j = some r := by
  have hne : ∀ j', some (Instance.relay j') ≠ some (.relay j) → j ≠ j' := by
    rintro j' h rfl
    exact h rfl
  cases action with
  | newCache k capacity =>
    rw [step, addCache]
    split <;> exact hj
  | newClient i config deps =>
    rw [step, addClient]
    split <;> exact hj
  | newRelay j' config deps cache =>
    rw [step, addRelay]
    split
    · exact hj
    · exact hj
    · rename_i hnone _
      have hjj : j ≠ j' := by
        rintro rfl
        rw [hj] at hnone
        cases hnone
      exact (update_of_ne hjj ..).trans hj
  | start i draw => exact (congrFun (callClient_relays i _) j).trans hj
  | acceptServerHello i message => exact (congrFun (callClient_relays i _) j).trans hj
  | acceptServerFinish i message => exact (congrFun (callClient_relays i _) j).trans hj
  | closeClient i => exact (congrFun (callClient_relays i _) j).trans hj
  | acceptClientHello j' message draw =>
    exact (greetRelay_of_ne (hne j' h) message draw).trans hj
  | acceptClientFinish j' message => exact (callRelay_of_ne (hne j' h) _).trans hj
  | closeRelay j' => exact (callRelay_of_ne (hne j' h) _).trans hj

theorem Closed.other {action : Action} (h : net.Closed x)
    (hx : action.target ≠ some x) : (net.step p action).1.Closed x := by
  cases x with
  | client i =>
    obtain ⟨c, hc, hstage⟩ := h
    have hsome : net.clients i ≠ none := by rw [hc]; exact Option.some_ne_none c
    exact ⟨c, (clients_step_of_ne hx (Or.inl hsome)).trans hc, hstage⟩
  | relay j =>
    obtain ⟨r, hr, hstage⟩ := h
    exact ⟨r, relay_step_of_ne hx hr, hstage⟩

theorem Closed.step (h : net.Closed x) (action : Action) : (net.step p action).1.Closed x := by
  by_cases hx : action.target = some x
  · exact ((settles_step hx).stays h).1
  · exact h.other hx

section Ended

variable (hx : action.target = some x) (before rest : List Action)
  (h : (∃ code, replyAfter (step p) empty before action = .failed code) ∨
    (after p before).OutOfOrder action ∨
    ∃ result, replyAfter (step p) empty before action = .completed result)

include hx h

/-- After a call which failed or was out of order, or which completed, an instance
is closed for the rest of the run. -/
theorem closed_after_call : (after p (before ++ action :: rest)).Closed x := by
  have hsettles : Settles ((after p before).Closed x) ((after p before).OutOfOrder action)
      (((after p before).step p action).1.Closed x) ((after p before).step p action).2 :=
    settles_step hx
  have hclosed : ((after p before).step p action).1.Closed x := by
    rcases h with ⟨code, hcode⟩ | horder | ⟨result, hresult⟩
    · exact hsettles.failed code hcode
    · exact hsettles.order horder
    · exact hsettles.completed result hresult
  rw [after, stateAfter_append, stateAfter_cons]
  exact stateAfter_invariant (fun net : Network => net.Closed x)
    (fun _ action h => h.step action) hclosed rest

theorem never_completes {next : Action} (hnext : next.target = some x)
    (result : ProcessHandshakeResultV1) :
    replyAfter (step p) empty (before ++ action :: rest) next ≠ .completed result :=
  ((settles_step hnext).stays (closed_after_call hx before rest h)).2 result

end Ended

end Network

end Kurdistan.Handshake
