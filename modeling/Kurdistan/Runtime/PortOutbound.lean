import Kurdistan.Runtime.FlowInvariant
import Kurdistan.Runtime.PacketPort

/-!
# Outbound packets of the port

The outbound slot is a queue of one packet with its flow. A turn either leaves the queue
alone, or fills the empty slot with the packet it accepts, or empties the slot and returns
what it held, or closes the port. So what was returned is a prefix of what was accepted,
and as long as the port is open the slot holds the rest.
-/

namespace Kurdistan.Runtime

open Support List

/-- A packet which `Submit` accepted, with the flow it reserved. -/
def PortEvent.accepted : PortEvent → Option (List UInt8 × ProductionFlowRefV1)
  | .submitted packet (.ok ref) => some (packet, ref)
  | _ => none

/-- A packet which a read returned, with the flow it came with. -/
def PortEvent.returned : PortEvent → Option (List UInt8 × ProductionFlowRefV1)
  | .read (.ok answer) => some answer
  | _ => none

theorem mem_of_accepted {events : List PortEvent} {packet : List UInt8}
    {ref : ProductionFlowRefV1} (h : (packet, ref) ∈ events.filterMap PortEvent.accepted) :
    .submitted packet (.ok ref) ∈ events := by
  obtain ⟨e, he, haccepted⟩ := mem_filterMap.mp h
  unfold PortEvent.accepted at haccepted
  split at haccepted <;> cases haccepted
  exact he

/-- The packets accepted along a history, in order. -/
def accepted (history : List (ℕ × PortEvent)) : List (List UInt8 × ProductionFlowRefV1) :=
  history.filterMap fun e => e.2.accepted

/-- The packets returned along a history, in order. -/
def returned (history : List (ℕ × PortEvent)) : List (List UInt8 × ProductionFlowRefV1) :=
  history.filterMap fun e => e.2.returned

theorem accepted_append (history : List (ℕ × PortEvent)) (i : ℕ) (events : List PortEvent) :
    accepted (history ++ events.map (Prod.mk i)) =
      accepted history ++ events.filterMap PortEvent.accepted := by
  rw [accepted, filterMap_append, filterMap_map]
  rfl

theorem returned_append (history : List (ℕ × PortEvent)) (i : ℕ) (events : List PortEvent) :
    returned (history ++ events.map (Prod.mk i)) =
      returned history ++ events.filterMap PortEvent.returned := by
  rw [returned, filterMap_append, filterMap_map]
  rfl

namespace PacketPortV1

/-- The packet in the outbound slot, with its flow. -/
def queued (p : PacketPortV1) : Option (List UInt8 × ProductionFlowRefV1) :=
  if p.outBytes = 0 then none else some (p.outbound.take p.outBytes, p.outFlow)

theorem queued_eq_none {p : PacketPortV1} (h : p.outBytes = 0) : p.queued = none :=
  if_pos h

theorem queued_enqueue {p : PacketPortV1} {input : List UInt8} (h : input ≠ [])
    (ref : ProductionFlowRefV1) : (p.enqueue input ref).queued = some (input, ref) := by
  have hlength : input.length ≠ 0 := fun hzero => h (eq_nil_of_length_eq_zero hzero)
  rw [queued, enqueue, if_neg hlength]
  simp [splice]

/-- What a turn may do to the outbound queue. A packet which is accepted in production
mode enters the slot with the reference its reservation returned. -/
inductive OutboundStep (flowOf : PacketFlow) (before after : PacketPortV1)
    (events : List PortEvent) : Prop where
  | same (hqueue : after.queued = before.queued) (hclosed : after.closed = before.closed)
      (haccepted : events.filterMap PortEvent.accepted = [])
      (hreturned : events.filterMap PortEvent.returned = [])
  | accept (packet : List UInt8) (ref : ProductionFlowRefV1) (hopen : before.closed = false)
      (hclosed : after.closed = before.closed) (hbefore : before.queued = none)
      (hafter : after.queued = some (packet, ref))
      (hflow : ∀ a, before.production = some a →
        ∃ b, a.reserveV1 flowOf packet = (b, .ok ref) ∧ after.production = some b)
      (hevents : events = [.submitted packet (.ok ref)])
  | remove (packet : List UInt8) (ref : ProductionFlowRefV1) (hopen : before.closed = false)
      (hclosed : after.closed = before.closed) (hbefore : before.queued = some (packet, ref))
      (hafter : after.queued = none) (hevents : events = [.read (.ok (packet, ref))])
  | shut (hclosed : after.closed = true)
      (hsubmit : ∀ packet result, .submitted packet result ∉ events)
      (hread : ∀ result, .read result ∉ events)

theorem closed_closeV1 (p : PacketPortV1) (failure : PortError) :
    (p.closeV1 failure).closed = true := by
  by_cases h : p.closed
  · rw [closeV1, if_pos h]
    exact h
  · rw [closeV1, if_neg h]

/-! ## Turns -/

variable (flowOf : PacketFlow) (s : PortState)

theorem submitLoop_outbound (ctx : Option ContextError) {input : List UInt8} (hinput : input ≠ []) :
    OutboundStep flowOf s.port (submitLoop flowOf s ctx input).shared.port
      (submitLoop flowOf s ctx input).events := by
  unfold submitLoop
  by_cases hclosed : s.port.closed
  · rw [if_pos hclosed]
    exact .same rfl rfl rfl rfl
  rw [if_neg hclosed]
  have hopen : s.port.closed = false := by simpa using hclosed
  rcases ctx with _ | err
  · by_cases hempty : s.port.outBytes = 0
    · have hbefore := queued_eq_none hempty
      rw [if_pos hempty]
      rcases hproduction : s.port.production with _ | a
      · refine .accept input s.port.outFlow hopen rfl hbefore (queued_enqueue hinput _) ?_ rfl
        intro a ha
        rw [hproduction] at ha
        cases ha
      · rcases hreserve : a.reserveV1 flowOf input with ⟨b, err | ref⟩
        · dsimp only
          rw [hreserve]
          exact .same rfl rfl rfl rfl
        · dsimp only
          rw [hreserve]
          refine .accept input ref hopen rfl hbefore (queued_enqueue hinput _) ?_ rfl
          intro a' ha'
          obtain ⟨⟩ := hproduction.symm.trans ha'
          exact ⟨b, hreserve, rfl⟩
    · rw [if_neg hempty]
      exact .same rfl rfl rfl rfl
  · exact .same rfl rfl rfl rfl

theorem submit_outbound (ctx : Option ContextError) (input : List UInt8) :
    OutboundStep flowOf s.port (submit flowOf s ctx input).shared.port
      (submit flowOf s ctx input).events := by
  rw [submit]
  split
  · exact .same rfl rfl rfl rfl
  · split_ifs with hinput
    · exact .same rfl rfl rfl rfl
    · exact submitLoop_outbound flowOf s ctx fun hnil => hinput (Or.inl hnil)

theorem readLoop_outbound (capacity : ℕ) :
    OutboundStep flowOf s.port (readLoop s capacity).shared.port (readLoop s capacity).events := by
  rw [readLoop]
  by_cases hclosed : s.port.closed
  · rw [if_pos hclosed]
    exact .same rfl rfl rfl rfl
  rw [if_neg hclosed]
  have hopen : s.port.closed = false := by simpa using hclosed
  by_cases hempty : s.port.outBytes = 0
  · rw [if_neg (not_not.mpr hempty)]
    exact .same rfl rfl rfl rfl
  rw [if_pos hempty]
  split_ifs
  · exact .same rfl rfl rfl rfl
  · exact .remove _ _ hopen rfl (if_neg hempty) rfl rfl

theorem read_outbound (reader : PortReader) (capacity : ℕ) :
    OutboundStep flowOf s.port (read s reader capacity).shared.port
      (read s reader capacity).events := by
  rw [read]
  split
  · exact .same rfl rfl rfl rfl
  · split_ifs
    · exact .same rfl rfl rfl rfl
    · exact .same rfl rfl rfl rfl
    · exact readLoop_outbound flowOf s capacity

theorem writeLoop_outbound {before : PacketPortV1}
    (input : List UInt8) (offered : List PortEvent) (hqueue : s.port.queued = before.queued)
    (hclosed : s.port.closed = before.closed)
    (haccepted : offered.filterMap PortEvent.accepted = [])
    (hreturned : offered.filterMap PortEvent.returned = []) :
    OutboundStep flowOf before (writeLoop s input offered).shared.port
      (writeLoop s input offered).events := by
  rw [writeLoop]
  split_ifs
  · exact .same hqueue hclosed (by rw [filterMap_append, haccepted]; rfl)
      (by rw [filterMap_append, hreturned]; rfl)
  · exact .same hqueue hclosed (by rw [filterMap_append, haccepted]; rfl)
      (by rw [filterMap_append, hreturned]; rfl)
  · exact .same hqueue hclosed haccepted hreturned

theorem write_outbound (input : List UInt8) :
    OutboundStep flowOf s.port (write s input).shared.port (write s input).events := by
  rw [write]
  split
  · exact .same rfl rfl rfl rfl
  · split_ifs
    · exact .same rfl rfl rfl rfl
    · exact writeLoop_outbound flowOf { s with port := s.port.offer input } input
        [.offered input] rfl rfl rfl rfl

theorem receiveLoop_outbound (ctx : Option ContextError) (capacity : ℕ) :
    OutboundStep flowOf s.port (receiveLoop s ctx capacity).shared.port
      (receiveLoop s ctx capacity).events := by
  unfold receiveLoop
  rcases ctx with _ | err
  · dsimp only
    split_ifs
    · exact .same rfl rfl rfl rfl
    · exact .same rfl rfl rfl rfl
    · exact .same rfl rfl rfl rfl
    · exact .shut (closed_closeV1 _ _) (by simp) (by simp)
    · exact .same rfl rfl rfl rfl
    · exact .same rfl rfl rfl rfl
  · dsimp only
    split_ifs
    · exact .same rfl rfl rfl rfl
    · exact .same rfl rfl rfl rfl

theorem receive_outbound (ctx : Option ContextError) (capacity : ℕ) :
    OutboundStep flowOf s.port (receive s ctx capacity).shared.port
      (receive s ctx capacity).events := by
  rw [receive]
  split
  · exact .same rfl rfl rfl rfl
  · split_ifs
    · exact .same rfl rfl rfl rfl
    · exact receiveLoop_outbound flowOf s ctx capacity

theorem acknowledge_outbound (ctx : Option ContextError) (token : UInt64)
    (completedBytes : Int) (writeErr : Bool) :
    OutboundStep flowOf s.port (acknowledge s ctx token completedBytes writeErr).shared.port
      (acknowledge s ctx token completedBytes writeErr).events := by
  unfold acknowledge
  rcases ctx with _ | err
  · dsimp only
    split_ifs
    · exact .same rfl rfl rfl rfl
    · exact .same rfl rfl rfl rfl
    · exact .shut (closed_closeV1 _ _) (by simp) (by simp)
    · exact .same rfl rfl rfl rfl
  · dsimp only
    split_ifs
    · exact .same rfl rfl rfl rfl
    · exact .same rfl rfl rfl rfl
    · exact .shut (closed_closeV1 _ _) (by simp) (by simp)

theorem close_outbound : OutboundStep flowOf s.port (close s).shared.port (close s).events := by
  rw [close]
  split_ifs
  · exact .shut (closed_closeV1 _ _) (by simp) (by simp)
  · exact .shut (closed_closeV1 _ _) (by simp) (by simp)

end PacketPortV1

open PacketPortV1

/-- A waiting `Submit` has a packet to submit. -/
def PortThread.Submits : PortThread → Prop
  | .submitting input => input ≠ []
  | _ => True

theorem portTurn_outbound (flowOf : PacketFlow) (s : PortState) {t : PortThread}
    (ht : t.Submits) (ctx : Option ContextError) :
    OutboundStep flowOf s.port (portTurn flowOf s t ctx).shared.port
      (portTurn flowOf s t ctx).events := by
  cases t with
  | start call =>
    cases call with
    | submit input => exact submit_outbound flowOf s ctx input
    | read reader capacity => exact read_outbound flowOf s reader capacity
    | write input => exact write_outbound flowOf s input
    | receive capacity => exact receive_outbound flowOf s ctx capacity
    | acknowledge token completedBytes writeErr =>
      exact acknowledge_outbound flowOf s ctx token completedBytes writeErr
    | close => exact close_outbound flowOf s
    | touch change => exact .same rfl rfl rfl rfl
    | otherPort =>
      rw [portTurn]
      split_ifs
      · exact .same rfl rfl rfl rfl
      · exact .same rfl rfl rfl rfl
  | submitting input => exact submitLoop_outbound flowOf s ctx ht
  | reading capacity => exact readLoop_outbound flowOf s capacity
  | writing input => exact writeLoop_outbound flowOf s input [] rfl rfl rfl rfl
  | receiving capacity => exact receiveLoop_outbound flowOf s ctx capacity
  | done => exact .same rfl rfl rfl rfl

/-- A call on a port starts no other thread, and a `Submit` which waits still has its packet. -/
theorem portTurn_next (flowOf : PacketFlow) (s : PortState) (t : PortThread)
    (ctx : Option ContextError) : (portTurn flowOf s t ctx).started = [] ∧
      (t.Submits → (portTurn flowOf s t ctx).next.Submits) := by
  have hsubmit (input : List UInt8) : (submitLoop flowOf s ctx input).started = [] ∧
      (input ≠ [] → (submitLoop flowOf s ctx input).next.Submits) := by
    unfold submitLoop
    rcases ctx with _ | err <;> dsimp only <;> repeat' split
    all_goals exact ⟨rfl, fun hinput => by trivial⟩
  have hread (capacity : ℕ) :
      (readLoop s capacity).started = [] ∧ (readLoop s capacity).next.Submits := by
    rw [readLoop]
    split_ifs <;> exact ⟨rfl, trivial⟩
  have hwrite (s : PortState) (input : List UInt8) (offered : List PortEvent) :
      (writeLoop s input offered).started = [] ∧ (writeLoop s input offered).next.Submits := by
    rw [writeLoop]
    split_ifs <;> exact ⟨rfl, trivial⟩
  have hreceive (capacity : ℕ) : (receiveLoop s ctx capacity).started = [] ∧
      (receiveLoop s ctx capacity).next.Submits := by
    unfold receiveLoop
    rcases ctx with _ | err <;> dsimp only <;> split_ifs <;> exact ⟨rfl, trivial⟩
  cases t with
  | start call =>
    cases call with
    | submit input =>
      rw [portTurn, submit]
      split
      · exact ⟨rfl, fun _ => trivial⟩
      · split_ifs with hinput
        · exact ⟨rfl, fun _ => trivial⟩
        · exact ⟨(hsubmit input).1, fun _ => (hsubmit input).2 fun h => hinput (Or.inl h)⟩
    | read reader capacity =>
      rw [portTurn, PacketPortV1.read]
      split
      · exact ⟨rfl, fun _ => trivial⟩
      · split_ifs
        · exact ⟨rfl, fun _ => trivial⟩
        · exact ⟨rfl, fun _ => trivial⟩
        · exact (hread capacity).imp_right fun h _ => h
    | write input =>
      rw [portTurn, write]
      split
      · exact ⟨rfl, fun _ => trivial⟩
      · split_ifs
        · exact ⟨rfl, fun _ => trivial⟩
        · exact (hwrite _ input _).imp_right fun h _ => h
    | receive capacity =>
      rw [portTurn, receive]
      split
      · exact ⟨rfl, fun _ => trivial⟩
      · split_ifs
        · exact ⟨rfl, fun _ => trivial⟩
        · exact (hreceive capacity).imp_right fun h _ => h
    | acknowledge token completedBytes writeErr =>
      rw [portTurn]
      unfold acknowledge
      rcases ctx with _ | err <;> dsimp only <;> split_ifs <;> exact ⟨rfl, fun _ => trivial⟩
    | close => exact ⟨rfl, fun _ => trivial⟩
    | touch change => exact ⟨rfl, fun _ => trivial⟩
    | otherPort => exact ⟨rfl, fun _ => trivial⟩
  | submitting input => exact hsubmit input
  | reading capacity => exact (hread capacity).imp_right fun h _ => h
  | writing input => exact (hwrite s input []).imp_right fun h _ => h
  | receiving capacity => exact (hreceive capacity).imp_right fun h _ => h
  | done => exact ⟨rfl, fun _ => trivial⟩

/-! ## Runs -/

/-- What was accepted is what was returned, followed by what is in the slot. -/
structure OutboundSound (s : PortState) (history : List (ℕ × PortEvent)) : Prop where
  ordered : returned history <+: accepted history
  complete : s.port.closed = false → accepted history = returned history ++ s.port.queued.toList

variable {events : List PortEvent} {flowOf : PacketFlow}

theorem OutboundSound.step {s after : PortState} {history : List (ℕ × PortEvent)}
    (h : OutboundSound s history) (hstep : OutboundStep flowOf s.port after.port events) (i : ℕ) :
    OutboundSound after (history ++ events.map (Prod.mk i)) := by
  cases hstep with
  | same hqueue hclosed haccepted hreturned =>
    constructor
    · rw [accepted_append, returned_append, haccepted, hreturned, append_nil, append_nil]
      exact h.ordered
    · intro hopen
      rw [accepted_append, returned_append, haccepted, hreturned, append_nil, append_nil, hqueue]
      exact h.complete (hclosed ▸ hopen)
  | accept packet ref hopen hclosed hbefore hafter hflow hevents =>
    subst hevents
    have hempty := h.complete hopen
    rw [hbefore, Option.toList_none, append_nil] at hempty
    constructor
    · have hnothing : [PortEvent.submitted packet (.ok ref)].filterMap PortEvent.returned =
          [] := rfl
      rw [accepted_append, returned_append, hempty, hnothing, append_nil]
      exact prefix_append _ _
    · rw [accepted_append, returned_append, hempty, hafter]
      simp [PortEvent.accepted, PortEvent.returned]
  | remove packet ref hopen hclosed hbefore hafter hevents =>
    subst hevents
    have hfull := h.complete hopen
    rw [hbefore, Option.toList_some] at hfull
    constructor
    · rw [accepted_append, returned_append, hfull]
      simp [PortEvent.returned]
    · rw [accepted_append, returned_append, hfull, hafter]
      simp [PortEvent.accepted, PortEvent.returned]
  | shut hclosed hsubmit hread =>
    have haccepted : events.filterMap PortEvent.accepted = [] := by
      refine filterMap_eq_nil_iff.mpr fun e he => ?_
      cases e with
      | submitted packet result => exact absurd he (hsubmit packet result)
      | _ => rfl
    have hreturned : events.filterMap PortEvent.returned = [] := by
      refine filterMap_eq_nil_iff.mpr fun e he => ?_
      cases e with
      | read result => exact absurd he (hread result)
      | _ => rfl
    constructor
    · rw [accepted_append, returned_append, haccepted, hreturned, append_nil, append_nil]
      exact h.ordered
    · intro hopen
      rw [hclosed] at hopen
      cases hopen

theorem outboundSound_run (flowOf : PacketFlow) {maximum : ℕ}
    {production : Option ProductionPacketAdmissionV1} {p : PacketPortV1}
    (hnew : newPacketPortV1 maximum production = some p) (tokens : UInt64)
    (moves : List (Move PortCall (Option ContextError))) :
    System.Holds OutboundSound (fun _ _ _ t => t.Submits)
      ((portSystem flowOf).run ⟨⟨p, tokens⟩, [], []⟩ moves) := by
  refine System.holds_run (fun _ _ _ _ _ _ => trivial) ?_ (System.holds_start ?_) moves
  · intro s history i t ctx hsound ht
    refine ⟨hsound.step (portTurn_outbound flowOf s ht ctx) i,
      (portTurn_next flowOf s t ctx).2 ht, ?_, fun _ _ _ hu => hu⟩
    intro u hu
    rw [portSystem, (portTurn_next flowOf s t ctx).1] at hu
    cases hu
  · rw [newPacketPortV1] at hnew
    split_ifs at hnew
    obtain ⟨⟩ := hnew
    exact ⟨prefix_rfl, fun _ => rfl⟩

theorem PacketPortV1.OutboundStep.queued_of_failed {before after : PacketPortV1}
    (h : OutboundStep flowOf before after events)
    (hfailed : (∃ packet err, .submitted packet (.error err) ∈ events) ∨
      ∃ err, .read (.error err) ∈ events) : after.queued = before.queued := by
  cases h with
  | same hqueue hclosed haccepted hreturned => exact hqueue
  | accept packet ref hopen hclosed hbefore hafter hflow hevents =>
    subst hevents
    simp at hfailed
  | remove packet ref hopen hclosed hbefore hafter hevents =>
    subst hevents
    simp at hfailed
  | shut hclosed hsubmit hread =>
    rcases hfailed with ⟨packet, err, hmem⟩ | ⟨err, hmem⟩
    · exact absurd hmem (hsubmit packet (.error err))
    · exact absurd hmem (hread (.error err))

theorem PacketPortV1.OutboundStep.flow_of_accepted {before after : PacketPortV1}
    (h : OutboundStep flowOf before after events) {packet : List UInt8} {ref : ProductionFlowRefV1}
    (hevent : .submitted packet (.ok ref) ∈ events) {a : ProductionPacketAdmissionV1}
    (ha : before.production = some a) :
    ∃ b, a.reserveV1 flowOf packet = (b, .ok ref) ∧ after.production = some b := by
  cases h with
  | same hqueue hclosed haccepted hreturned =>
    have hnone := filterMap_eq_nil_iff.mp haccepted _ hevent
    cases hnone
  | accept packet' ref' hopen hclosed hbefore hafter hflow hevents =>
    subst hevents
    simp only [mem_singleton] at hevent
    obtain ⟨rfl, rfl⟩ := hevent
    exact hflow a ha
  | remove packet' ref' hopen hclosed hbefore hafter hevents =>
    subst hevents
    simp at hevent
  | shut hclosed hsubmit hread => exact absurd hevent (hsubmit packet (.ok ref))

/-- The admission counts `ref` as a reference to the flow of the packet. A packet which
belongs to no flow has none. -/
def ProductionPacketAdmissionV1.Counts (flowOf : PacketFlow) (a : ProductionPacketAdmissionV1)
    (packet : List UInt8) (ref : ProductionFlowRefV1) : Prop :=
  flowOf packet = .ok none ∧ ref = {} ∨
    ∃ key f i, flowOf packet = .ok (some key) ∧ a.flow = some f ∧ f.entryLockedV1 ref = some i ∧
      (f.entry i).key = key ∧ (f.entry i).references ≠ 0

theorem ProductionPacketAdmissionV1.counts_reserveV1 {a b : ProductionPacketAdmissionV1}
    (hsound : ∀ f, a.flow = some f → f.Sound) {packet : List UInt8} {ref : ProductionFlowRefV1}
    (h : a.reserveV1 flowOf packet = (b, .ok ref)) : b.Counts flowOf packet ref := by
  rw [ProductionPacketAdmissionV1.reserveV1] at h
  split_ifs at h
  · cases h
  · cases h
  rcases hflow : flowOf packet with err | _ | key <;> rw [hflow] at h
  · cases h
  · cases h
    exact .inl ⟨hflow, rfl⟩
  rcases htable : a.flow with _ | f <;> rw [htable] at h
  · cases h
  obtain ⟨rfl, hresult⟩ := Prod.mk.inj h
  rcases hreserve : f.reserveV1 key a.now with ⟨g, err | r⟩ <;> rw [hreserve] at hresult <;>
    cases hresult
  obtain ⟨i, hlocked, hkey, hcounted⟩ := (hsound f htable).reserveV1_ok hreserve
  exact .inr ⟨key, g, i, hflow, rfl, hlocked, hkey, hcounted⟩

/-- Along every interleaving of the calls on a port: the packets which reads return,
each with its flow, are a prefix of the packets which `Submit` accepted; as long as the
port is open only the packet in the slot is missing. A call which fails, because it is
cancelled, finds its buffer too small or is refused otherwise, leaves the slot as it is.
In production mode the flow of an accepted packet is the one its reservation returned. It
leads to the live entry with the key of the packet, which counts the reference, if the
table is in order, as every table which was built and only called stays. -/
theorem port_outbound_order (flowOf : PacketFlow) (maximum : ℕ)
    (production : Option ProductionPacketAdmissionV1) (p : PacketPortV1)
    (hnew : newPacketPortV1 maximum production = some p) (tokens : UInt64)
    (moves : List (Move PortCall (Option ContextError))) :
    let w := (portSystem flowOf).run ⟨⟨p, tokens⟩, [], []⟩ moves
    returned w.history <+: accepted w.history ∧
      (w.shared.port.closed = false →
        accepted w.history = returned w.history ++ w.shared.port.queued.toList) ∧
      ∀ (i : ℕ) (t : PortThread) (ctx : Option ContextError), w.threads[i]? = some t →
        let r := portTurn flowOf w.shared t ctx
        (((∃ packet err, .submitted packet (.error err) ∈ r.events) ∨
            ∃ err, .read (.error err) ∈ r.events) →
          r.shared.port.queued = w.shared.port.queued) ∧
        ∀ packet ref a, .submitted packet (.ok ref) ∈ r.events →
          w.shared.port.production = some a →
          ∃ b, a.reserveV1 flowOf packet = (b, .ok ref) ∧ r.shared.port.production = some b ∧
            ((∀ f, a.flow = some f → f.Sound) → b.Counts flowOf packet ref) := by
  intro w
  have hsound := outboundSound_run flowOf hnew tokens moves
  refine ⟨hsound.shared.ordered, hsound.shared.complete, ?_⟩
  intro i t ctx ht r
  have hstep := portTurn_outbound flowOf w.shared (hsound.threads i t ht) ctx
  refine ⟨hstep.queued_of_failed, fun packet ref a hevent ha => ?_⟩
  obtain ⟨b, hreserve, hafter⟩ := hstep.flow_of_accepted hevent ha
  exact ⟨b, hreserve, hafter, fun hflow =>
    ProductionPacketAdmissionV1.counts_reserveV1 hflow hreserve⟩

/-- A port for packets of at most forty bytes. -/
def smallPort : PacketPortV1 where
  maximum := 40
  outbound := replicate 40 0
  inbound := replicate 40 0

/-- An admission for one TCP and one UDP flow. -/
def smallAdmission : ProductionPacketAdmissionV1 where
  generation := 1
  raw := true
  active := true
  closed := false
  now := 5
  flow := some smallFlowTable

/-- All packets belong to one flow, apart from those of one byte. -/
def smallFlow : PacketFlow := fun packet =>
  if packet.length = 1 then .ok none else .ok (some sampleFlowKey)

/-- Two packets are submitted, and one is read in between. -/
def twoSubmits : List (Move PortCall (Option ContextError)) :=
  [.call (.submit [1, 2]), .run 0 none, .call (.submit [3]), .run 1 none,
    .call (.read (.production true) 40), .run 2 none, .run 1 none]

def smallProductionPort : PacketPortV1 :=
  { smallPort with production := some smallAdmission }

/-- A run of the small port in production mode. -/
def runSmallPort (moves : List (Move PortCall (Option ContextError))) :=
  (portSystem smallFlow).run ⟨⟨smallProductionPort, 0⟩, [], []⟩ moves

theorem port_outbound_order_twoSubmits :
    returned (runSmallPort twoSubmits).history = [([1, 2], ⟨1, 1⟩)] ∧
      accepted (runSmallPort twoSubmits).history = [([1, 2], ⟨1, 1⟩), ([3], {})] ∧
      returned (runSmallPort twoSubmits).history <+: accepted (runSmallPort twoSubmits).history ∧
      ∃ b, (portTurn smallFlow (runSmallPort [.call (.submit [1, 2])]).shared
          (.start (.submit [1, 2])) none).shared.port.production = some b ∧
        b.Counts smallFlow [1, 2] ⟨1, 1⟩ := by
  have horder := port_outbound_order smallFlow 40 _ smallProductionPort rfl 0
  refine ⟨by decide +kernel, by decide +kernel, (horder twoSubmits).1, ?_⟩
  have haccepted : ([1, 2], ⟨1, 1⟩) ∈ filterMap PortEvent.accepted
      (portTurn smallFlow (runSmallPort [.call (.submit [1, 2])]).shared
        (.start (.submit [1, 2])) none).events := by
    decide +kernel
  obtain ⟨b, -, hafter, hcounts⟩ := ((horder [.call (.submit [1, 2])]).2.2 0
    (.start (.submit [1, 2])) none rfl).2 _ _ smallAdmission (mem_of_accepted haccepted) rfl
  have hsound : ∀ f, smallAdmission.flow = some f → f.Sound := by
    rintro f ⟨⟩
    exact newProductionFlowTableV1_sound (show newProductionFlowTableV1 1 1 1000 = .ok _ from rfl)
  rw [runSmallPort]
  exact ⟨b, hafter, hcounts hsound⟩

end Kurdistan.Runtime
