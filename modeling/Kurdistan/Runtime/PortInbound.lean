import Kurdistan.Runtime.PortOutbound

/-!
# Inbound packets of the port

An inbound packet is offered by a `Write`, delivered to a `Receive` under a fresh token,
acknowledged with that token, and then reported as written. `Handshake` is this protocol
on the events of a history, without the port. The port follows it: every turn causes only
events which the protocol allows, and the slot holds what the protocol says.
-/

namespace Kurdistan.Runtime

open Support PacketPortV1 PortEvent List

/-! ## The protocol -/

/-- How far the current packet has come, with the thread that writes it. -/
inductive InboundPhase where
  | idle
  | offered (writer : ℕ) (packet : List UInt8)
  | delivered (writer : ℕ) (packet : List UInt8) (token : UInt64)
  | acknowledged (writer : ℕ) (packet : List UInt8) (token : UInt64)
  deriving DecidableEq

/-- The `Write` in progress and its packet. -/
def InboundPhase.write : InboundPhase → Option (ℕ × List UInt8)
  | .idle => none
  | .offered writer packet => some (writer, packet)
  | .delivered writer packet _ => some (writer, packet)
  | .acknowledged writer packet _ => some (writer, packet)

/-- The phase after an event. -/
def InboundPhase.after (phase : InboundPhase) : ℕ × PortEvent → InboundPhase
  | (i, .offered packet) => .offered i packet
  | (i, .wrote _ _) => if phase.write.map Prod.fst = some i then .idle else phase
  | (_, .received (.ok (token, packet))) =>
    match phase with
    | .offered writer _ => .delivered writer packet token
    | _ => phase
  | (_, .acknowledged _ _ (.ok _)) =>
    match phase with
    | .delivered writer packet token => .acknowledged writer packet token
    | _ => phase
  | _ => phase

def PortEvent.closes : PortEvent → Bool
  | .closed => true
  | _ => false

structure Handshake where
  phase : InboundPhase := .idle
  closed : Bool := false

namespace Handshake

/-- The events which the protocol allows. -/
def Allows (s : Handshake) : ℕ × PortEvent → Prop
  | (_, .offered _) => s.phase = .idle ∧ s.closed = false
  | (i, .wrote packet (.ok n)) =>
    n = packet.length ∧ ∃ token, s.phase = .acknowledged i packet token
  | (i, .wrote packet (.error _)) => (∀ other token, s.phase ≠ .acknowledged i other token) ∧
      ∀ other, s.phase.write = some (i, other) → packet = other
  | (_, .received (.ok (_, packet))) =>
    s.closed = false ∧ ∃ writer, s.phase = .offered writer packet
  | (_, .acknowledged token n (.ok _)) =>
    s.closed = false ∧ ∃ writer packet, s.phase = .delivered writer packet token ∧ n = packet.length
  | _ => True

def after (s : Handshake) (e : ℕ × PortEvent) : Handshake :=
  ⟨s.phase.after e, s.closed || e.2.closes⟩

/-- A list of events which the protocol allows one after the other. -/
def Follows (s : Handshake) : List (ℕ × PortEvent) → Prop
  | [] => True
  | e :: history => s.Allows e ∧ (s.after e).Follows history

/-- The state after a list of events. -/
def afterAll (s : Handshake) (history : List (ℕ × PortEvent)) : Handshake :=
  history.foldl after s

section

variable (s : Handshake)

include s

@[simp] theorem afterAll_nil : s.afterAll [] = s := rfl

@[simp] theorem afterAll_cons (e : ℕ × PortEvent) (history : List (ℕ × PortEvent)) :
    s.afterAll (e :: history) = (s.after e).afterAll history := rfl

theorem afterAll_append (history later : List (ℕ × PortEvent)) :
    s.afterAll (history ++ later) = (s.afterAll history).afterAll later :=
  foldl_append

theorem follows_append (history later : List (ℕ × PortEvent)) :
    s.Follows (history ++ later) ↔ s.Follows history ∧ (s.afterAll history).Follows later := by
  induction history generalizing s with
  | nil => simp [Follows]
  | cons e history ih => simp [Follows, ih, and_assoc]

theorem follows_concat (history : List (ℕ × PortEvent)) (e : ℕ × PortEvent) :
    s.Follows (history ++ [e]) ↔ s.Follows history ∧ (s.afterAll history).Allows e := by
  simp [follows_append, Follows]

/-- The port is open in the protocol as long as no event closed it. -/
theorem closed_afterAll (history : List (ℕ × PortEvent)) :
    (s.afterAll history).closed = false ↔ s.closed = false ∧ ∀ e ∈ history, e.2.closes = false := by
  induction history generalizing s with
  | nil => simp
  | cons e history ih => simp [ih, after, and_assoc]

end

/-! ## One packet -/

/-- The event is a successful acknowledgement. -/
def Acknowledges : PortEvent → Prop
  | .acknowledged _ _ (.ok _) => True
  | _ => False

/-- What happened to the packet of a `Write` since it was offered. -/
inductive Progress (i : ℕ) (packet : List UInt8) (mid : List (ℕ × PortEvent)) :
    InboundPhase → Prop where
  | offered (hnone : ∀ e ∈ mid, ¬ Acknowledges e.2) : Progress i packet mid (.offered i packet)
  | delivered (token : UInt64) (j : ℕ) (a b : List (ℕ × PortEvent))
      (hmid : mid = a ++ (j, .received (.ok (token, packet))) :: b)
      (hnone : ∀ e ∈ mid, ¬ Acknowledges e.2) :
      Progress i packet mid (.delivered i packet token)
  | acknowledged (token : UInt64) (j k : ℕ) (a b c : List (ℕ × PortEvent))
      (hmid : mid = a ++ (j, .received (.ok (token, packet))) ::
        (b ++ (k, .acknowledged token packet.length (.ok ())) :: c))
      (hopen : ∀ e ∈ a ++ b, e.2.closes = false) :
      Progress i packet mid (.acknowledged i packet token)

variable {mid : List (ℕ × PortEvent)} {packet : List UInt8} {i : ℕ} {e : ℕ × PortEvent}

/-- An event which changes neither the phase nor the acknowledgements. -/
theorem Progress.extend {phase : InboundPhase} (h : Progress i packet mid phase)
    (he : ¬ Acknowledges e.2) : Progress i packet (mid ++ [e]) phase := by
  have hsnoc (hnone : ∀ e ∈ mid, ¬ Acknowledges e.2) : ∀ e' ∈ mid ++ [e], ¬ Acknowledges e'.2 := by
    intro e' he'
    rcases mem_append.mp he' with hold | hnew
    · exact hnone e' hold
    · rwa [mem_singleton.mp hnew]
  cases h with
  | offered hnone => exact .offered (hsnoc hnone)
  | delivered token j a b hmid hnone =>
    exact .delivered token j a (b ++ [e]) (by simp [hmid]) (hsnoc hnone)
  | acknowledged token j k a b c hmid hopen =>
    exact .acknowledged token j k a b (c ++ [e]) (by simp [hmid]) hopen

variable {s : Handshake}

/-- One allowed event of another thread, or none of the `Write` itself. -/
theorem Progress.step (h : Progress i packet mid s.phase)
    (hallows : s.Allows e) (hopen : s.closed = false → ∀ e ∈ mid, e.2.closes = false)
    (hother : ∀ other result, e ≠ (i, .wrote other result)) :
    Progress i packet (mid ++ [e]) (s.phase.after e) := by
  obtain ⟨phase, closed⟩ := s
  obtain ⟨j, event⟩ := e
  have hwrite : phase.write = some (i, packet) := by
    cases h <;> rfl
  cases event with
  | offered other =>
    obtain rfl : phase = .idle := hallows.1
    cases hwrite
  | wrote other result =>
    have hne : j ≠ i := by
      rintro rfl
      exact hother other result rfl
    have hkeep : phase.after (j, .wrote other result) = phase := by
      rw [InboundPhase.after, if_neg]
      rw [hwrite, Option.map_some, Option.some.injEq]
      exact hne.symm
    rw [hkeep]
    exact h.extend id
  | received result =>
    rcases result with err | ⟨token, bytes⟩
    · exact h.extend id
    · obtain ⟨-, writer, hphase⟩ := hallows
      obtain rfl : phase = .offered writer bytes := hphase
      cases h with
      | offered hnone =>
        refine .delivered token j mid [] rfl ?_
        intro e he
        rcases mem_append.mp he with hold | hnew
        · exact hnone e hold
        · rw [mem_singleton.mp hnew]
          exact id
  | acknowledged token n result =>
    rcases result with err | ⟨⟩
    · exact h.extend id
    · obtain ⟨hclosed, writer, bytes, hphase, rfl⟩ := hallows
      obtain rfl : phase = .delivered writer bytes token := hphase
      cases h with
      | delivered _ j' a b hmid hnone =>
        refine .acknowledged token j' j a b [] (by simp [hmid]) fun e he => ?_
        refine hopen hclosed e ?_
        rw [hmid]
        exact ((sublist_cons_self _ _).append_left _).subset he
  | submitted other result => exact h.extend id
  | read result => exact h.extend id
  | closed => exact h.extend id

/-- What happened between the offer of a packet and the return of its `Write`. -/
theorem progress (hphase : s.phase = .offered i packet)
    (hfollows : s.Follows mid) (hother : ∀ other result, (i, .wrote other result) ∉ mid) :
    Progress i packet mid (s.afterAll mid).phase := by
  induction mid using reverseRecOn with
  | nil =>
    rw [afterAll_nil, hphase]
    exact .offered (by simp)
  | append_singleton mid e ih =>
    obtain ⟨hmid, hallows⟩ := (follows_concat s mid e).mp hfollows
    have hprogress := ih hmid fun other result hmem =>
      hother other result (mem_append_left _ hmem)
    rw [afterAll_append]
    refine hprogress.step hallows (fun hclosed => ((closed_afterAll s mid).mp hclosed).2) ?_
    rintro other result rfl
    exact hother other result (by simp)

/-- Only an offer and a return change which `Write` is in progress. -/
theorem write_after (hallows : s.Allows e) (hoffered : ∀ j packet, e ≠ (j, .offered packet))
    (hwrote : ∀ j packet result, e ≠ (j, .wrote packet result)) :
    (s.phase.after e).write = s.phase.write := by
  obtain ⟨j, event⟩ := e
  cases event with
  | offered packet => exact absurd rfl (hoffered j packet)
  | wrote packet result => exact absurd rfl (hwrote j packet result)
  | received result =>
    rcases result with err | ⟨token, bytes⟩
    · rfl
    · obtain ⟨-, writer, hphase⟩ := hallows
      rw [hphase]
      rfl
  | acknowledged token n result =>
    rcases result with err | ⟨⟩
    · rfl
    · obtain ⟨-, writer, packet, hphase, -⟩ := hallows
      rw [hphase]
      rfl
  | submitted packet result => rfl
  | read result => rfl
  | closed => rfl

/-- A `Write` in progress was offered before, and neither its return nor another offer
came in between. -/
theorem write_offered {history : List (ℕ × PortEvent)} (hfollows : ({} : Handshake).Follows history)
    (hwrite : (({} : Handshake).afterAll history).phase.write = some (i, packet)) :
    ∃ pre mid, history = pre ++ (i, .offered packet) :: mid ∧
      (∀ other result, (i, .wrote other result) ∉ mid) ∧
      ∀ j other, (j, .offered other) ∉ mid := by
  induction history using reverseRecOn with
  | nil => cases hwrite
  | append_singleton history e ih =>
    obtain ⟨hbefore, hallows⟩ := (follows_concat _ history e).mp hfollows
    rw [afterAll_append] at hwrite
    by_cases hoffered : ∃ j other, e = (j, .offered other)
    · obtain ⟨j, other, rfl⟩ := hoffered
      obtain ⟨rfl, rfl⟩ : j = i ∧ other = packet := by
        simpa [after, InboundPhase.after, InboundPhase.write] using hwrite
      exact ⟨history, [], rfl, by simp, by simp⟩
    push Not at hoffered
    -- The return of another `Write` leaves this one in progress, and its own does not.
    have hkeep : (({} : Handshake).afterAll history).phase.write = some (i, packet) ∧
        ∀ other result, e ≠ (i, .wrote other result) := by
      by_cases hwrote : ∃ j other result, e = (j, .wrote other result)
      · obtain ⟨j, other, result, rfl⟩ := hwrote
        simp only [afterAll_cons, afterAll_nil, after, InboundPhase.after] at hwrite
        split_ifs at hwrite with hown
        · cases hwrite
        · refine ⟨hwrite, ?_⟩
          rintro other' result' heq
          rw [hwrite] at hown
          exact hown (congrArg some (Prod.mk.inj heq).1.symm)
      · push Not at hwrote
        refine ⟨?_, hwrote i⟩
        rw [← write_after hallows hoffered hwrote]
        exact hwrite
    obtain ⟨pre, mid, rfl, hreturn, hoffer⟩ := ih hbefore hkeep.1
    refine ⟨pre, mid ++ [e], by simp, ?_, ?_⟩
    · intro other result hmem
      rcases mem_append.mp hmem with hold | hnew
      · exact hreturn other result hold
      · exact hkeep.2 other result (mem_singleton.mp hnew).symm
    · intro j other hmem
      rcases mem_append.mp hmem with hold | hnew
      · exact hoffer j other hold
      · exact hoffered j other (mem_singleton.mp hnew).symm

/-- Without a new offer no packet becomes ready for delivery. -/
theorem not_offered_afterAll (hphase : ∀ i packet, s.phase ≠ .offered i packet)
    (hnone : ∀ j other, (j, .offered other) ∉ mid) :
    ∀ i packet, (s.afterAll mid).phase ≠ .offered i packet := by
  induction mid generalizing s with
  | nil => exact hphase
  | cons e mid ih =>
    refine ih (fun i packet => ?_) fun j other hmem =>
      hnone j other (mem_cons_of_mem _ hmem)
    obtain ⟨j, event⟩ := e
    change s.phase.after (j, event) ≠ .offered i packet
    unfold InboundPhase.after
    split
    · rename_i heq
      rw [heq] at hnone
      exact absurd mem_cons_self (hnone _ _)
    · split_ifs
      · simp
      · exact hphase i packet
    · split
      · simp
      · exact hphase i packet
    · split
      · simp
      · exact hphase i packet
    · exact hphase i packet

/-- An event by thread `i` leaves the `Write` of every other thread in progress. -/
theorem write_after_other {event : PortEvent}
    (hallows : s.Allows (i, event)) {j : ℕ} (hne : j ≠ i) (packet : List UInt8) :
    (s.phase.after (i, event)).write = some (j, packet) ↔ s.phase.write = some (j, packet) := by
  cases event with
  | offered other =>
    obtain ⟨hidle, -⟩ : s.phase = .idle ∧ s.closed = false := hallows
    simp [hidle, InboundPhase.after, InboundPhase.write, Ne.symm hne]
  | wrote other result =>
    rw [InboundPhase.after]
    split_ifs with hown
    · obtain ⟨⟨writer, bytes⟩, hwrite, rfl⟩ := Option.map_eq_some_iff.mp hown
      have hidle : InboundPhase.idle.write = none := rfl
      simp [hwrite, hidle, Ne.symm hne]
    · rfl
  | _ =>
    rw [write_after hallows]
    · simp
    · simp

theorem write_afterAll_other {events : List PortEvent}
    (hfollows : s.Follows (events.map (Prod.mk i))) {j : ℕ} (hne : j ≠ i) (packet : List UInt8) :
    (s.afterAll (events.map (Prod.mk i))).phase.write = some (j, packet) ↔
      s.phase.write = some (j, packet) := by
  induction events generalizing s with
  | nil => rfl
  | cons event events ih =>
    obtain ⟨hallows, hrest⟩ := hfollows
    exact (ih hrest).trans (write_after_other hallows hne packet)

end Handshake

/-! ## The port follows the protocol -/

/-- What the inbound slot of a port holds in a phase. -/
def PacketPortV1.Holds (p : PacketPortV1) : InboundPhase → Prop
  | .idle => p.writing = false ∧ p.inBytes = 0 ∧ p.received = false ∧ p.acked = false
  | .offered _ packet => p.writing = true ∧ p.received = false ∧ p.acked = false ∧
      p.inBytes = packet.length ∧ packet ≠ [] ∧
      (p.closed = false → p.inbound.take p.inBytes = packet)
  | .delivered _ packet token => p.writing = true ∧ p.received = true ∧ p.acked = false ∧
      p.token = token ∧ p.inBytes = packet.length
  | .acknowledged _ _ _ => p.writing = true ∧ p.received = true ∧ p.acked = true

/-- A waiting `Write` is the one in progress, and no other thread is. -/
def PortThread.Writes (t : PortThread) (s : Handshake) (i : ℕ) : Prop :=
  match t with
  | .writing input => s.phase.write = some (i, input)
  | _ => ∀ input, s.phase.write ≠ some (i, input)

/-- The port is where the protocol is. -/
structure PortMatches (p : PacketPortV1) (s : Handshake) : Prop where
  closed : p.closed = s.closed
  slot : p.Holds s.phase

/-- What the turn of thread `i` does to the protocol. -/
structure InboundTurn (s : Handshake) (i : ℕ) (tokens : UInt64) (r : PortTurn) : Prop where
  follows : s.Follows (r.events.map (Prod.mk i))
  port : PortMatches r.shared.port (s.afterAll (r.events.map (Prod.mk i)))
  own : r.next.Writes (s.afterAll (r.events.map (Prod.mk i))) i
  counter : tokens.toNat ≤ r.shared.tokens.toNat
  fresh : ∀ token packet, .received (.ok (token, packet)) ∈ r.events →
    r.events = [.received (.ok (token, packet))] ∧ tokens.toNat < token.toNat ∧
      token.toNat ≤ r.shared.tokens.toNat

/-- Events of other calls than a `Write`, and of calls which fail. -/
def PortEvent.Neutral : PortEvent → Prop
  | .submitted _ _ => True
  | .read _ => True
  | .received (.error _) => True
  | .acknowledged _ _ (.error _) => True
  | _ => False

variable {s : Handshake} {i : ℕ}

theorem Handshake.neutral_step {event : PortEvent}
    (h : event.Neutral) : s.Allows (i, event) ∧ s.after (i, event) = s := by
  unfold PortEvent.Neutral at h
  split at h
  · exact ⟨trivial, by simp [after, InboundPhase.after, closes]⟩
  · exact ⟨trivial, by simp [after, InboundPhase.after, closes]⟩
  · exact ⟨trivial, by simp [after, InboundPhase.after, closes]⟩
  · exact ⟨trivial, by simp [after, InboundPhase.after, closes]⟩
  · exact h.elim

/-- The parts of a port which the inbound slot consists of. -/
def PacketPortV1.inboundPart (p : PacketPortV1) :
    Bool × Bool × ℕ × Bool × Bool × UInt64 × List UInt8 :=
  (p.closed, p.writing, p.inBytes, p.received, p.acked, p.token, p.inbound)

variable {p : PacketPortV1}

theorem PacketPortV1.Holds.congr {q : PacketPortV1} {phase : InboundPhase} (h : p.Holds phase)
    (heq : q.inboundPart = p.inboundPart) : q.Holds phase := by
  simp only [inboundPart, Prod.mk.injEq] at heq
  obtain ⟨hclosed, hwriting, hbytes, hreceived, hacked, htoken, hinbound⟩ := heq
  cases phase <;> simpa only [Holds, hclosed, hwriting, hbytes, hreceived, hacked, htoken,
    hinbound] using h

theorem Handshake.neutral_steps {events : List PortEvent} (h : ∀ event ∈ events, event.Neutral) :
    s.Follows (events.map (Prod.mk i)) ∧ s.afterAll (events.map (Prod.mk i)) = s := by
  induction events with
  | nil => exact ⟨trivial, rfl⟩
  | cons event events ih =>
    obtain ⟨hallows, hafter⟩ := @Handshake.neutral_step s i event (h event mem_cons_self)
    obtain ⟨hfollows, hall⟩ := ih fun e he => h e (mem_cons_of_mem _ he)
    rw [map_cons, Handshake.afterAll_cons, hafter]
    refine ⟨⟨hallows, ?_⟩, hall⟩
    rw [hafter]
    exact hfollows

/-- Closing the port keeps what the slot stands for. -/
theorem PortMatches.closeV1 (h : PortMatches p s) (failure : PortError) :
    PortMatches (p.closeV1 failure) ⟨s.phase, true⟩ := by
  obtain ⟨phase, _⟩ := s
  refine ⟨closed_closeV1 p failure, ?_⟩
  have hslot := h.slot
  by_cases hclosed : p.closed
  · rw [PacketPortV1.closeV1, if_pos hclosed]
    exact hslot
  · rw [PacketPortV1.closeV1, if_neg hclosed]
    cases phase with
    | offered j packet =>
      obtain ⟨hwriting, hreceived, hacked, hbytes, hnonempty, -⟩ := hslot
      exact ⟨hwriting, hreceived, hacked, hbytes, hnonempty, fun hopen => by cases hopen⟩
    | _ => exact hslot

theorem toNat_next_token {tokens : UInt64} (h : tokens ≠ lastToken) :
    (tokens + 1).toNat = tokens.toNat + 1 := by
  have hlast : lastToken.toNat = 2 ^ 64 - 1 := rfl
  have hne : tokens.toNat ≠ 2 ^ 64 - 1 := fun heq => h (UInt64.toNat_inj.mp (heq.trans hlast.symm))
  have hbound := tokens.toNat_lt
  rw [UInt64.toNat_add]
  exact Nat.mod_eq_of_lt (by simp only [UInt64.toNat_one]; omega)

section Turns

open PacketPortV1

variable {s : Handshake} {i : ℕ} {before : PortState} {input : List UInt8}
  (h : PortMatches before.port s)

include h

/-- A turn which does not touch the inbound slot and causes only neutral events. -/
theorem PortMatches.neutral {r : PortTurn} (hnext : r.next.Writes s i)
    (hpart : r.shared.port.inboundPart = before.port.inboundPart)
    (hcounter : before.tokens.toNat ≤ r.shared.tokens.toNat)
    (hevents : ∀ event ∈ r.events, event.Neutral) : InboundTurn s i before.tokens r := by
  obtain ⟨hfollows, hafter⟩ := @Handshake.neutral_steps s i r.events hevents
  refine ⟨hfollows, ?_, ?_, hcounter, fun token packet hmem => ?_⟩
  · rw [hafter]
    exact ⟨(congrArg Prod.fst hpart).trans h.closed, h.slot.congr hpart⟩
  · rw [hafter]
    exact hnext
  · exact absurd (hevents _ hmem) id

/-! ### A write in progress -/

theorem write_returns {result : Except PortError ℕ} (hown : s.phase.write = some (i, input))
    (hallows : s.Allows (i, .wrote input result)) :
    InboundTurn s i before.tokens
      ⟨{ before with port := before.port.resetInbound }, .done, [], [.wrote input result]⟩ := by
  have hwriter : s.phase.write.map Prod.fst = some i := by
    rw [hown]
    rfl
  have hafter : s.after (i, .wrote input result) = ⟨.idle, s.closed⟩ := by
    rw [Handshake.after, InboundPhase.after, if_pos hwriter]
    simp [closes]
  refine ⟨⟨hallows, trivial⟩, ?_, ?_, le_rfl, by simp⟩
  · rw [map_singleton, Handshake.afterAll_cons, hafter]
    exact ⟨h.closed, rfl, rfl, rfl, rfl⟩
  · rw [map_singleton, Handshake.afterAll_cons, hafter]
    exact fun input => by simp [InboundPhase.write]

theorem writeLoop_inbound (hown : s.phase.write = some (i, input)) :
    InboundTurn s i before.tokens (writeLoop before input []) := by
  rw [writeLoop]
  split_ifs with hacked hshut
  · refine write_returns h hown ⟨rfl, ?_⟩
    obtain ⟨phase, closed⟩ := s
    have hslot := h.slot
    cases phase with
    | idle => cases hown
    | acknowledged j packet token =>
      obtain ⟨⟩ := hown
      exact ⟨token, rfl⟩
    | _ => exact absurd hacked (by simp [hslot.2.2.1])
  · refine write_returns h hown ⟨fun other token hphase => ?_, fun other hother => ?_⟩
    · have hslot := h.slot
      rw [hphase] at hslot
      exact hacked hslot.2.2
    · exact (Prod.mk.inj (Option.some.inj (hown.symm.trans hother))).2
  · have hwriting : before.port.writing = true := by
      obtain ⟨phase, closed⟩ := s
      have hslot := h.slot
      cases phase with
      | idle => cases hown
      | _ => exact hslot.1
    refine h.neutral hown ?_ le_rfl (by simp)
    simp [inboundPart, hwriting]

theorem PortMatches.deliverable (hopen : before.port.closed = false)
    (hreceived : before.port.received = false) (hbytes : before.port.inBytes ≠ 0) :
    ∃ writer, s.phase = .offered writer (before.port.inbound.take before.port.inBytes) := by
  obtain ⟨phase, closed⟩ := s
  have hslot := h.slot
  cases phase with
  | idle => exact absurd hslot.2.1 hbytes
  | offered j packet => exact ⟨j, by rw [hslot.2.2.2.2.2 hopen]⟩
  | _ => exact absurd hslot.2.1 (by simp [hreceived])

theorem PortMatches.acknowledgeable (hreceived : before.port.received = true)
    (hacked : before.port.acked = false) :
    ∃ writer packet, s.phase = .delivered writer packet before.port.token ∧
      before.port.inBytes = packet.length := by
  obtain ⟨phase, closed⟩ := s
  have hslot := h.slot
  cases phase with
  | idle => exact absurd hslot.2.2.1 (by simp [hreceived])
  | offered j packet => exact absurd hslot.2.1 (by simp [hreceived])
  | delivered j packet token =>
    obtain ⟨-, -, -, rfl, hlength⟩ := hslot
    exact ⟨j, packet, rfl, hlength⟩
  | acknowledged j packet token => exact absurd hslot.2.2 (by simp [hacked])

section Quiet

variable (hown : ∀ packet, s.phase.write ≠ some (i, packet))

include hown

/-- A call which leaves the inbound slot alone and returns. -/
theorem PortMatches.answers {started : List PortThread} {event : PortEvent}
    (hpart : p.inboundPart = before.port.inboundPart) (hevent : event.Neutral) :
    InboundTurn s i before.tokens ⟨{ before with port := p }, .done, started, [event]⟩ :=
  h.neutral hown hpart le_rfl (by simpa using hevent)

/-! ### Outbound calls -/

theorem submitLoop_inbound (flowOf : PacketFlow) (ctx : Option ContextError) (input : List UInt8) :
    InboundTurn s i before.tokens (submitLoop flowOf before ctx input) := by
  unfold submitLoop
  rcases ctx with _ | err
  · dsimp only
    split_ifs
    · exact h.answers hown rfl trivial
    · split
      · exact h.answers hown rfl trivial
      · split
        · exact h.answers hown rfl trivial
        · exact h.answers hown rfl trivial
    · exact h.neutral hown rfl le_rfl (by simp)
  · dsimp only
    split_ifs
    · exact h.answers hown rfl trivial
    · exact h.answers hown rfl trivial

theorem submit_inbound (flowOf : PacketFlow) (ctx : Option ContextError) (input : List UInt8) :
    InboundTurn s i before.tokens (submit flowOf before ctx input) := by
  rw [submit]
  split
  · exact h.answers hown rfl trivial
  · split_ifs
    · exact h.answers hown rfl trivial
    · exact submitLoop_inbound h hown flowOf ctx input

theorem readLoop_inbound (capacity : ℕ) :
    InboundTurn s i before.tokens (readLoop before capacity) := by
  rw [readLoop]
  split_ifs
  · exact h.answers hown rfl trivial
  · exact h.answers hown rfl trivial
  · exact h.answers hown rfl trivial
  · exact h.neutral hown rfl le_rfl (by simp)

theorem read_inbound (reader : PortReader) (capacity : ℕ) :
    InboundTurn s i before.tokens (PacketPortV1.read before reader capacity) := by
  rw [PacketPortV1.read]
  split
  · exact h.answers hown rfl trivial
  · split_ifs
    · exact h.answers hown rfl trivial
    · exact h.answers hown rfl trivial
    · exact readLoop_inbound h hown capacity

/-! ### Write -/

theorem write_refused {err : PortError} :
    InboundTurn s i before.tokens ⟨before, .done, [], [.wrote input (.error err)]⟩ := by
  have hallows : s.Allows (i, .wrote input (.error err)) := by
    refine ⟨fun other token hphase => ?_, fun other hother => absurd hother (hown other)⟩
    refine hown other ?_
    rw [hphase]
    rfl
  have hafter : s.after (i, .wrote input (.error err)) = s := by
    rw [Handshake.after, InboundPhase.after, if_neg]
    · simp [closes]
    · intro hwriter
      obtain ⟨⟨writer, packet⟩, hwrite, rfl⟩ := Option.map_eq_some_iff.mp hwriter
      exact hown packet hwrite
  refine ⟨⟨hallows, trivial⟩, ?_, ?_, le_rfl, by simp⟩
  · rw [map_singleton, Handshake.afterAll_cons, hafter]
    exact h
  · rw [map_singleton, Handshake.afterAll_cons, hafter]
    exact hown

theorem write_inbound (input : List UInt8) :
    InboundTurn s i before.tokens (write before input) := by
  rw [write]
  split
  · exact write_refused h hown
  rename_i hbegin
  split_ifs with hinput
  · exact write_refused h hown
  -- The port is open and no other `Write` is in progress, so the packet is offered.
  have hopen : before.port.closed = false ∧ before.port.writing = false := by
    rw [beginV1] at hbegin
    split_ifs at hbegin with hclosed hwriting
    exact ⟨by simpa using hclosed, by simpa using hwriting⟩
  have hidle : s.phase = .idle := by
    have hslot := h.slot
    cases hphase : s.phase with
    | idle => rfl
    | _ =>
      rw [hphase] at hslot
      exact absurd hslot.1 (by simp [hopen.2])
  have hslot := h.slot
  rw [hidle] at hslot
  obtain ⟨-, -, hreceived, hacked⟩ := hslot
  have hsclosed : s.closed = false := by
    rw [← h.closed]
    exact hopen.1
  have hafter : s.after (i, .offered input) = ⟨.offered i input, s.closed⟩ := by
    simp [Handshake.after, InboundPhase.after, closes]
  have hwait : writeLoop { before with port := before.port.offer input } input
      [.offered input] = ⟨{ before with port := { before.port.offer input with
        writing := true } }, .writing input, [], [.offered input]⟩ := by
    simp [writeLoop, offer, hacked, hopen.1]
  rw [hwait]
  refine ⟨⟨⟨hidle, hsclosed⟩, trivial⟩, ?_, ?_, le_rfl, by simp⟩
  · rw [map_singleton, Handshake.afterAll_cons, hafter]
    refine ⟨h.closed, rfl, hreceived, hacked, rfl, fun hnil => hinput (Or.inl hnil), ?_⟩
    simp [offer, splice]
  · rfl

/-! ### Closing -/

/-- A turn which closes the port and then answers with a neutral event. -/
theorem closing_turn {failure : PortError} {events : List PortEvent}
    (hpart : p.inboundPart = before.port.inboundPart) (hevents : ∀ event ∈ events, event.Neutral) :
    InboundTurn s i before.tokens
      ⟨{ before with port := p.closeV1 failure }, .done, [], .closed :: events⟩ := by
  have hmatches : PortMatches p s := ⟨(congrArg Prod.fst hpart).trans h.closed, h.slot.congr hpart⟩
  have hafter : s.after (i, .closed) = ⟨s.phase, true⟩ := by
    simp [Handshake.after, InboundPhase.after, closes]
  obtain ⟨hfollows, hall⟩ := @Handshake.neutral_steps ⟨s.phase, true⟩ i events hevents
  refine ⟨⟨trivial, ?_⟩, ?_, ?_, le_rfl, fun token packet hmem => ?_⟩
  · rw [hafter]
    exact hfollows
  · rw [map_cons, Handshake.afterAll_cons, hafter, hall]
    exact hmatches.closeV1 failure
  · rw [map_cons, Handshake.afterAll_cons, hafter, hall]
    exact hown
  · rcases mem_cons.mp hmem with heq | hmem
    · cases heq
    · exact absurd (hevents _ hmem) id

theorem close_inbound : InboundTurn s i before.tokens (close before) := by
  rw [close]
  split_ifs with hclosed
  · refine h.neutral hown ?_ le_rfl (by simp)
    rw [PacketPortV1.closeV1, if_pos hclosed]
  · exact closing_turn h hown rfl (by simp)

/-! ### Receive and Acknowledge -/

variable (ctx : Option ContextError)

include ctx

theorem receiveLoop_inbound (capacity : ℕ) :
    InboundTurn s i before.tokens (receiveLoop before ctx capacity) := by
  unfold receiveLoop
  rcases ctx with _ | err
  · dsimp only
    split_ifs with hclosed hreceived hbytes hcapacity hlast
    · exact h.answers hown rfl trivial
    · exact h.answers hown rfl trivial
    · exact h.answers hown rfl trivial
    · exact closing_turn h hown rfl (by simp [PortEvent.Neutral])
    · have hopen : before.port.closed = false := by simpa using hclosed
      have hsopen : s.closed = false := h.closed.symm.trans hopen
      have hnext := toNat_next_token hlast
      obtain ⟨writer, hphase⟩ := h.deliverable hopen (by simpa using hreceived) hbytes
      have hslot := h.slot
      rw [hphase] at hslot hown
      obtain ⟨hwriting, -, hacked, hlength, -, -⟩ := hslot
      have hafter : s.after (i, .received (.ok (before.tokens + 1,
          before.port.inbound.take before.port.inBytes))) =
          ⟨.delivered writer (before.port.inbound.take before.port.inBytes)
            (before.tokens + 1), s.closed⟩ := by
        simp [Handshake.after, InboundPhase.after, closes, hphase]
      refine ⟨⟨⟨hsopen, writer, hphase⟩, trivial⟩, ?_, ?_, ?_, ?_⟩
      · rw [map_singleton, Handshake.afterAll_cons, hafter]
        exact ⟨h.closed, hwriting, rfl, hacked, rfl, hlength⟩
      · rw [map_singleton, Handshake.afterAll_cons, hafter]
        exact hown
      · exact hnext ▸ Nat.le_succ _
      · intro token packet hmem
        simp only [mem_singleton] at hmem
        obtain ⟨rfl, rfl⟩ := hmem
        exact ⟨rfl, by omega, le_rfl⟩
    · exact h.neutral hown rfl le_rfl (by simp)
  · dsimp only
    split_ifs
    · exact h.answers hown rfl trivial
    · exact h.answers hown rfl trivial

theorem receive_inbound (capacity : ℕ) :
    InboundTurn s i before.tokens (receive before ctx capacity) := by
  rw [receive]
  split
  · exact h.answers hown rfl trivial
  · split_ifs
    · exact h.answers hown rfl trivial
    · exact receiveLoop_inbound h hown ctx capacity

theorem acknowledge_inbound (token : UInt64) (completedBytes : Int) (writeErr : Bool) :
    InboundTurn s i before.tokens (acknowledge before ctx token completedBytes writeErr) := by
  unfold acknowledge
  rcases ctx with _ | err
  · dsimp only
    split_ifs with hclosed hinvalid hfailed
    · exact h.answers hown rfl trivial
    · exact h.answers hown rfl trivial
    · exact closing_turn h hown rfl (by simp [PortEvent.Neutral])
    · simp only [not_or, not_not, Bool.not_eq_false, Bool.not_eq_true] at hinvalid hfailed
      obtain ⟨-, rfl, hreceived, hacked⟩ := hinvalid
      obtain ⟨-, rfl⟩ := hfailed
      obtain ⟨writer, packet, hphase, hlength⟩ := h.acknowledgeable hreceived hacked
      have hsopen : s.closed = false := h.closed.symm.trans (by simpa using hclosed)
      have hslot := h.slot
      rw [hphase] at hslot hown
      have hafter (n : Int) : s.after (i, .acknowledged before.port.token n (.ok ())) =
          ⟨.acknowledged writer packet before.port.token, s.closed⟩ := by
        simp [Handshake.after, InboundPhase.after, closes, hphase]
      refine ⟨⟨⟨hsopen, writer, packet, hphase, by rw [hlength]⟩, trivial⟩, ?_, ?_, le_rfl, by simp⟩
      · rw [nil_append, map_singleton, Handshake.afterAll_cons, hafter]
        exact ⟨h.closed, hslot.1, hslot.2.1, rfl⟩
      · rw [nil_append, map_singleton, Handshake.afterAll_cons, hafter]
        exact hown
  · dsimp only
    split_ifs
    · exact h.answers hown rfl trivial
    · exact h.answers hown rfl trivial
    · exact closing_turn h hown rfl (by simp [PortEvent.Neutral])

end Quiet

theorem portTurn_inbound (flowOf : PacketFlow) {t : PortThread} (ctx : Option ContextError)
    (ht : t.Writes s i) : InboundTurn s i before.tokens (portTurn flowOf before t ctx) := by
  cases t with
  | start call =>
    cases call with
    | submit input => exact submit_inbound h ht flowOf ctx input
    | read reader capacity => exact read_inbound h ht reader capacity
    | write input => exact write_inbound h ht input
    | receive capacity => exact receive_inbound h ht ctx capacity
    | acknowledge token completedBytes writeErr =>
      exact acknowledge_inbound h ht ctx token completedBytes writeErr
    | close => exact close_inbound h ht
    | touch change => exact h.neutral ht rfl le_rfl (by simp [portTurn])
    | otherPort =>
      rw [portTurn]
      split_ifs with hlast
      · exact h.neutral ht rfl le_rfl (by simp)
      · refine h.neutral ht rfl ?_ (by simp)
        exact toNat_next_token hlast ▸ Nat.le_succ _
  | submitting input => exact submitLoop_inbound h ht flowOf ctx input
  | reading capacity => exact readLoop_inbound h ht capacity
  | writing input => exact writeLoop_inbound h ht
  | receiving capacity => exact receiveLoop_inbound h ht ctx capacity
  | done => exact h.neutral ht rfl le_rfl (by simp [portTurn])

end Turns

/-! ## Runs -/

/-- The token of a delivery. -/
def PortEvent.delivery : PortEvent → Option UInt64
  | .received (.ok (token, _)) => some token
  | _ => none

/-- The tokens of the deliveries along a history, in order. -/
def deliveries (history : List (ℕ × PortEvent)) : List UInt64 :=
  history.filterMap fun e => e.2.delivery

theorem deliveries_append (history : List (ℕ × PortEvent)) (i : ℕ) (events : List PortEvent) :
    deliveries (history ++ events.map (Prod.mk i)) =
      deliveries history ++ events.filterMap delivery := by
  rw [deliveries, filterMap_append, filterMap_map]
  rfl

/-- The history follows the protocol, the port is where the history leads, and the
counter is ahead of the tokens. -/
structure InboundSound (s : PortState) (history : List (ℕ × PortEvent)) : Prop where
  follows : ({} : Handshake).Follows history
  port : PortMatches s.port (({} : Handshake).afterAll history)
  unique : (deliveries history).Nodup
  counted : ∀ token ∈ deliveries history, token.toNat ≤ s.tokens.toNat

/-- A turn delivers at most one packet, under a token above all earlier ones. -/
theorem InboundTurn.deliveries {tokens : UInt64} {r : PortTurn} (h : InboundTurn s i tokens r) :
    r.events.filterMap delivery = [] ∨
      ∃ token, r.events.filterMap delivery = [token] ∧
        tokens.toNat < token.toNat ∧ token.toNat ≤ r.shared.tokens.toNat := by
  by_cases hnone : ∃ token packet, .received (.ok (token, packet)) ∈ r.events
  · obtain ⟨token, packet, hmem⟩ := hnone
    obtain ⟨hevents, hlow, hhigh⟩ := h.fresh token packet hmem
    exact Or.inr ⟨token, by rw [hevents]; rfl, hlow, hhigh⟩
  · refine Or.inl (filterMap_eq_nil_iff.mpr fun event hmem => ?_)
    cases event with
    | received result =>
      rcases result with err | ⟨token, packet⟩
      · rfl
      · exact absurd ⟨token, packet, hmem⟩ hnone
    | _ => rfl

theorem InboundSound.step {s : PortState} {history : List (ℕ × PortEvent)}
    {r : PortTurn} (h : InboundSound s history)
    (hturn : InboundTurn (({} : Handshake).afterAll history) i s.tokens r) :
    InboundSound r.shared (history ++ r.events.map (Prod.mk i)) := by
  have hkeep (token : UInt64) (hmem : token ∈ deliveries history) :
      token.toNat ≤ r.shared.tokens.toNat := (h.counted token hmem).trans hturn.counter
  have hfollows : ({} : Handshake).Follows (history ++ r.events.map (Prod.mk i)) :=
    (Handshake.follows_append _ _ _).mpr ⟨h.follows, hturn.follows⟩
  have hport : PortMatches r.shared.port
      (({} : Handshake).afterAll (history ++ r.events.map (Prod.mk i))) := by
    rw [Handshake.afterAll_append]
    exact hturn.port
  rcases hturn.deliveries with hnone | ⟨token, hone, hlow, hhigh⟩
  · refine ⟨hfollows, hport, ?_, ?_⟩
    · rw [deliveries_append, hnone, append_nil]
      exact h.unique
    · rw [deliveries_append, hnone, append_nil]
      exact hkeep
  · refine ⟨hfollows, hport, ?_, ?_⟩
    · rw [deliveries_append, hone, ← concat_eq_append]
      refine h.unique.concat fun hmem => ?_
      have hold := h.counted token hmem
      omega
    · intro other hmem
      rw [deliveries_append, hone, mem_append, mem_singleton] at hmem
      rcases hmem with hmem | rfl
      · exact hkeep other hmem
      · exact hhigh

theorem inboundSound_run (flowOf : PacketFlow) {maximum : ℕ}
    {production : Option ProductionPacketAdmissionV1}
    (hnew : newPacketPortV1 maximum production = some p) (tokens : UInt64)
    (moves : List (Move PortCall (Option ContextError))) :
    System.Holds InboundSound (fun _ history i t => t.Writes (({} : Handshake).afterAll history) i)
      ((portSystem flowOf).run ⟨⟨p, tokens⟩, [], []⟩ moves) := by
  refine System.holds_run ?_ ?_ (System.holds_start ?_) moves
  · intro s history i call hsound hfresh input hwrite
    obtain ⟨pre, mid, rfl, -, -⟩ := Handshake.write_offered hsound.follows hwrite
    exact absurd (hfresh (i, .offered input) (by simp)) (Nat.lt_irrefl i)
  · intro s history i t ctx hsound ht
    have hturn := portTurn_inbound hsound.port flowOf ctx ht
    refine ⟨hsound.step hturn, ?_, ?_, ?_⟩
    · rw [Handshake.afterAll_append]
      exact hturn.own
    · intro u hu
      have hstarted := (portTurn_next flowOf s t ctx).1
      rw [portSystem, hstarted] at hu
      cases hu
    · intro j u hne hu
      rw [Handshake.afterAll_append]
      have hother := Handshake.write_afterAll_other hturn.follows hne
      cases u with
      | writing input => exact (hother input).mpr hu
      | _ => exact fun input hwrite => hu input ((hother input).mp hwrite)
  · rw [newPacketPortV1] at hnew
    split_ifs at hnew
    obtain ⟨⟩ := hnew
    exact ⟨trivial, ⟨rfl, rfl, rfl, rfl, rfl⟩, nodup_nil, by simp [deliveries]⟩

/-- After its offer a packet was handed to a `Receive`, and it was acknowledged under the
token of that delivery and with its length before the port was closed. -/
def Completed (pre mid : List (ℕ × PortEvent)) (packet : List UInt8) : Prop :=
  ∃ (token : UInt64) (j k : ℕ) (a b c : List (ℕ × PortEvent)),
    mid = a ++ (j, .received (.ok (token, packet))) ::
      (b ++ (k, .acknowledged token packet.length (.ok ())) :: c) ∧
    ∀ i, (i, .closed) ∉ pre ++ a ++ b

namespace Handshake

variable {history pre mid : List (ℕ × PortEvent)} {i : ℕ} {packet : List UInt8}

section

variable (hfollows : ({} : Handshake).Follows (pre ++ (i, .offered packet) :: mid))

include hfollows

/-- The state of a `Write` which was offered and has not returned, from the events since
its offer. -/
theorem progress_of_offered (hother : ∀ other result, (i, .wrote other result) ∉ mid) :
    Progress i packet mid
      (({} : Handshake).afterAll (pre ++ (i, .offered packet) :: mid)).phase := by
  obtain ⟨-, -, hmid⟩ := (follows_append _ _ _).mp hfollows
  rw [afterAll_append, afterAll_cons]
  exact progress rfl hmid hother

theorem open_of_offered : ∀ e ∈ pre, e.2.closes = false := by
  obtain ⟨-, ⟨-, hopen⟩, -⟩ := (follows_append _ _ _).mp hfollows
  exact ((closed_afterAll _ pre).mp hopen).2

/-- The packet of a `Write` in progress is completed exactly in the last phase. -/
theorem completed_iff (hother : ∀ other result, (i, .wrote other result) ∉ mid) :
    Completed pre mid packet ↔ ∃ token,
      (({} : Handshake).afterAll (pre ++ (i, .offered packet) :: mid)).phase =
        .acknowledged i packet token := by
  have hprogress := progress_of_offered hfollows hother
  have hopen := open_of_offered hfollows
  generalize (({} : Handshake).afterAll (pre ++ (i, .offered packet) :: mid)).phase = phase
    at hprogress
  have hnever (hnone : ∀ e ∈ mid, ¬ Acknowledges e.2) : ¬ Completed pre mid packet := by
    rintro ⟨token, j, k, a, b, c, rfl, -⟩
    exact hnone (k, .acknowledged token packet.length (.ok ())) (by simp) trivial
  cases hprogress with
  | offered hnone => exact iff_of_false (hnever hnone) (by simp)
  | delivered token j a b hmid hnone => exact iff_of_false (hnever hnone) (by simp)
  | acknowledged token j k a b c hmid hbetween =>
    refine ⟨fun _ => ⟨token, rfl⟩, fun _ => ⟨token, j, k, a, b, c, hmid, ?_⟩⟩
    intro i' hmem
    rw [append_assoc] at hmem
    rcases mem_append.mp hmem with hpre | hrest
    · exact absurd (hopen _ hpre) (by simp [closes])
    · exact absurd (hbetween _ hrest) (by simp [closes])

theorem write_of_offered (hother : ∀ other result, (i, .wrote other result) ∉ mid) :
    (({} : Handshake).afterAll (pre ++ (i, .offered packet) :: mid)).phase.write =
      some (i, packet) := by
  have hprogress := progress_of_offered hfollows hother
  generalize (({} : Handshake).afterAll (pre ++ (i, .offered packet) :: mid)).phase = phase
    at hprogress
  cases hprogress <;> rfl

end

variable {post : List (ℕ × PortEvent)}

/-- The result of a `Write` says whether its packet was completed. -/
theorem result_of_offered {other : List UInt8} {result : Except PortError ℕ}
    (hfollows : ({} : Handshake).Follows
      (pre ++ (i, .offered packet) :: (mid ++ (i, .wrote other result) :: post)))
    (hother : ∀ other result, (i, .wrote other result) ∉ mid) :
    other = packet ∧ ((∃ n, result = .ok n) ↔ Completed pre mid packet) ∧
      ∀ n, result = .ok n → n = packet.length := by
  have hsplit : pre ++ (i, .offered packet) :: (mid ++ (i, .wrote other result) :: post) =
      (pre ++ (i, .offered packet) :: mid) ++ (i, .wrote other result) :: post := by simp
  rw [hsplit] at hfollows
  obtain ⟨hbefore, hallows, -⟩ := (follows_append _ _ _).mp hfollows
  have hwrite := write_of_offered hbefore hother
  rw [completed_iff hbefore hother]
  rcases result with err | n
  · obtain ⟨hnot, hsame⟩ := hallows
    refine ⟨hsame packet hwrite, ?_, fun n hn => by cases hn⟩
    constructor
    · rintro ⟨n, hn⟩
      cases hn
    · rintro ⟨token, hphase⟩
      exact absurd hphase (hnot packet token)
  · obtain ⟨hlength, token, hphase⟩ := hallows
    rw [hphase] at hwrite
    obtain rfl : other = packet := (Prod.mk.inj (Option.some.inj hwrite)).2
    exact ⟨rfl, ⟨fun _ => ⟨token, hphase⟩, fun _ => ⟨n, rfl⟩⟩,
      fun m hm => (Except.ok.inj hm).symm.trans hlength⟩

/-- A `Write` which succeeds was offered before. -/
theorem offered_of_success {n : ℕ}
    (hfollows : ({} : Handshake).Follows (pre ++ (i, .wrote packet (.ok n)) :: post)) :
    ∃ a mid, pre = a ++ (i, .offered packet) :: mid ∧
      ∀ other result, (i, .wrote other result) ∉ mid := by
  obtain ⟨hbefore, ⟨-, token, hphase⟩, -⟩ := (follows_append _ _ _).mp hfollows
  obtain ⟨a, mid, hpre, hother, -⟩ :=
    write_offered hbefore (show _ = some (i, packet) by rw [hphase]; rfl)
  exact ⟨a, mid, hpre, hother⟩

/-- A successful acknowledgement is for the packet of the `Write` in progress, under the
token of its delivery and with its length. -/
theorem delivered_of_acknowledged {k : ℕ} {token : UInt64} {n : Int}
    (hfollows : ({} : Handshake).Follows
      (pre ++ (k, .acknowledged token n (.ok ())) :: post)) :
    ∃ a b c i j packet, pre = a ++ (i, .offered packet) ::
        (b ++ (j, .received (.ok (token, packet))) :: c) ∧
      n = packet.length ∧ (∀ other result, (i, .wrote other result) ∉ b ++ c) ∧
      ∀ j' other, (j', .offered other) ∉ b ++ c := by
  obtain ⟨hbefore, ⟨-, i, packet, hphase, hlength⟩, -⟩ := (follows_append _ _ _).mp hfollows
  obtain ⟨a, mid, rfl, hother, hoffer⟩ :=
    write_offered hbefore (show _ = some (i, packet) by rw [hphase]; rfl)
  have hprogress := progress_of_offered hbefore hother
  rw [hphase] at hprogress
  cases hprogress with
  | delivered _ j b c hmid hnone =>
    subst hmid
    have hsubset :=
      ((sublist_cons_self (j, .received (.ok (token, packet))) c).append_left b).subset
    exact ⟨a, b, c, i, j, packet, rfl, hlength,
      fun other result hmem => hother other result (hsubset hmem),
      fun j' other hmem => hoffer j' other (hsubset hmem)⟩

/-- Between two deliveries a packet is offered. -/
theorem offered_between {j k : ℕ} {token token' : UInt64} {packet' : List UInt8}
    (hfollows : ({} : Handshake).Follows (pre ++ (j, .received (.ok (token, packet))) ::
      (mid ++ (k, .received (.ok (token', packet'))) :: post))) :
    ∃ i other, (i, .offered other) ∈ mid := by
  by_contra hnone
  push Not at hnone
  obtain ⟨-, ⟨-, writer, hphase⟩, hrest⟩ := (follows_append _ _ _).mp hfollows
  obtain ⟨-, ⟨-, writer', hagain⟩, -⟩ := (follows_append _ _ _).mp hrest
  refine not_offered_afterAll ?_ hnone writer' packet' hagain
  simp [after, InboundPhase.after, hphase]

end Handshake

/-- An acknowledgement with another token than that of the delivery changes nothing. -/
theorem acknowledge_stale (s : PortState) (ctx : Option ContextError) {token : UInt64}
    (n : Int) (writeErr : Bool) (htoken : token ≠ s.port.token) :
    (acknowledge s ctx token n writeErr).shared = s := by
  unfold acknowledge
  by_cases hclosed : s.port.closed
  · rw [if_pos hclosed]
  · rw [if_neg hclosed, if_pos (Or.inr (Or.inl htoken))]

/-- Along every interleaving of the calls on a port: a `Write` succeeds exactly if its
packet was handed to a `Receive` and acknowledged under the token of that delivery with
its exact length before the port was closed, and it returns at its next turn once this
has happened; tokens are not used twice; a successful acknowledgement belongs to the
packet which was delivered under its token and whose `Write` is still waiting; with any
other token nothing changes; and no packet is delivered a second time. -/
theorem port_inbound_handshake (flowOf : PacketFlow) (maximum : ℕ)
    (production : Option ProductionPacketAdmissionV1) (p : PacketPortV1)
    (hnew : newPacketPortV1 maximum production = some p) (tokens : UInt64)
    (moves : List (Move PortCall (Option ContextError))) :
    let w := (portSystem flowOf).run ⟨⟨p, tokens⟩, [], []⟩ moves
    (∀ pre mid post i packet other result,
      w.history = pre ++ (i, .offered packet) :: (mid ++ (i, .wrote other result) :: post) →
      (∀ other result, (i, .wrote other result) ∉ mid) →
      other = packet ∧ ((∃ n, result = .ok n) ↔ Completed pre mid packet) ∧
        ∀ n, result = .ok n → n = packet.length) ∧
    (∀ pre post i packet n, w.history = pre ++ (i, .wrote packet (.ok n)) :: post →
      ∃ a mid, pre = a ++ (i, .offered packet) :: mid ∧
        ∀ other result, (i, .wrote other result) ∉ mid) ∧
    (∀ pre mid i packet, w.history = pre ++ (i, .offered packet) :: mid →
      (∀ other result, (i, .wrote other result) ∉ mid) →
      w.threads[i]? = some (.writing packet) ∧
        (Completed pre mid packet → ∀ ctx,
          (portTurn flowOf w.shared (.writing packet) ctx).events =
            [.wrote packet (.ok packet.length)])) ∧
    (deliveries w.history).Nodup ∧
    (∀ pre post k token n, w.history = pre ++ (k, .acknowledged token n (.ok ())) :: post →
      ∃ a b c i j packet, pre = a ++ (i, .offered packet) ::
          (b ++ (j, .received (.ok (token, packet))) :: c) ∧
        n = packet.length ∧ (∀ other result, (i, .wrote other result) ∉ b ++ c) ∧
        ∀ j' other, (j', .offered other) ∉ b ++ c) ∧
    (∀ ctx token n writeErr, token ≠ w.shared.port.token →
      (acknowledge w.shared ctx token n writeErr).shared = w.shared) ∧
    (∀ pre mid post j k token token' packet packet',
      w.history = pre ++ (j, .received (.ok (token, packet))) ::
        (mid ++ (k, .received (.ok (token', packet'))) :: post) →
      ∃ i other, (i, .offered other) ∈ mid) := by
  intro w
  have hholds := inboundSound_run flowOf hnew tokens moves
  have hsound : InboundSound w.shared w.history := hholds.shared
  refine ⟨?_, ?_, ?_, hsound.unique, ?_, ?_, ?_⟩
  · intro pre mid post i packet other result hhistory hother
    exact Handshake.result_of_offered (hhistory ▸ hsound.follows) hother
  · intro pre post i packet n hhistory
    exact Handshake.offered_of_success (hhistory ▸ hsound.follows)
  · intro pre mid i packet hhistory hother
    have hfollows : ({} : Handshake).Follows (pre ++ (i, .offered packet) :: mid) :=
      hhistory ▸ hsound.follows
    have hwrite := Handshake.write_of_offered hfollows hother
    rw [← hhistory] at hwrite
    constructor
    · have hmem : (i, .offered packet) ∈ w.history := by
        rw [hhistory]
        simp
      have hbound : i < w.threads.length := hholds.tagged _ hmem
      have hlocal := hholds.threads i w.threads[i] (getElem?_eq_getElem hbound)
      rw [getElem?_eq_getElem hbound]
      rcases ht : w.threads[i] with _ | _ | _ | input | _ | _
      all_goals rw [ht] at hlocal
      case writing =>
        obtain rfl : packet = input := (Prod.mk.inj (Option.some.inj (hwrite.symm.trans hlocal))).2
        rfl
      all_goals exact absurd hwrite (hlocal packet)
    · intro hcompleted ctx
      obtain ⟨token, hphase⟩ := (Handshake.completed_iff hfollows hother).mp hcompleted
      rw [← hhistory] at hphase
      have hslot := hsound.port.slot
      rw [hphase] at hslot
      rw [portTurn, writeLoop, if_pos hslot.2.2]
      rfl
  · intro pre post k token n hhistory
    exact Handshake.delivered_of_acknowledged (hhistory ▸ hsound.follows)
  · intro ctx token n writeErr htoken
    exact acknowledge_stale w.shared ctx n writeErr htoken
  · intro pre mid post j k token token' packet packet' hhistory
    exact Handshake.offered_between (hhistory ▸ hsound.follows)

/-- A packet is written, received, acknowledged and reported as written. -/
def oneDelivery : List (Move PortCall (Option ContextError)) :=
  [.call (.write [7]), .run 0 none, .call (.receive 40), .run 1 none,
    .call (.acknowledge 1 1 false), .run 2 none, .run 0 none]

theorem port_inbound_handshake_oneDelivery :
    newPacketPortV1 40 none = some smallPort ∧
      ((portSystem fun _ => .ok none).run ⟨⟨smallPort, 0⟩, [], []⟩ oneDelivery).history =
        [] ++ (0, .offered [7]) :: ([(1, .received (.ok (1, [7]))),
          (2, .acknowledged 1 1 (.ok ()))] ++ (0, .wrote [7] (.ok 1)) :: []) ∧
      Completed [] [(1, .received (.ok (1, [7]))), (2, .acknowledged 1 1 (.ok ()))] [7] := by
  have hhistory : ((portSystem fun _ => .ok none).run ⟨⟨smallPort, 0⟩, [], []⟩
      oneDelivery).history = [] ++ (0, .offered [7]) :: ([(1, .received (.ok (1, [7]))),
        (2, .acknowledged 1 1 (.ok ()))] ++ (0, .wrote [7] (.ok 1)) :: []) := rfl
  have hresult := (port_inbound_handshake (fun _ => .ok none) 40 none smallPort rfl 0
    oneDelivery).1 _ _ _ _ _ _ _ hhistory (by simp)
  exact ⟨rfl, hhistory, hresult.2.1.mp ⟨1, rfl⟩⟩

end Kurdistan.Runtime
