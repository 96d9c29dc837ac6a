import Kurdistan.Runtime.PumpLife

/-!
# The finalisation of a service pump

The use count is the sum of the uses which the threads hold. Once the pump is terminal
no use begins, so the last of the remaining uses and the waker decide together who
finalises the pump: the flag is taken under the lock, by one of them.
-/

namespace Kurdistan.Runtime

open Support PumpPoint PumpLife List PumpEvent Support.System

namespace PumpPoint

/-- The uses which a thread holds. -/
def held : PumpPoint → ℕ
  | .start _ => 0
  | .checking _ => 1
  | .using _ pending => 1 + pending.toNat
  | .binding => 1
  | .working _ pending => 1 + pending.toNat
  | .launching rest => 1 + rest.length
  | .coordinating => 1
  | .ending => 1
  | .waking next => next.held
  | .finalizing next => next.held
  | .done => 0

/-- The wakers a thread has to finish. -/
def wakers : PumpPoint → ℕ
  | .waking next => 1 + next.wakers
  | .finalizing next => next.wakers
  | _ => 0

/-- The finalisations a thread has decided on. -/
def finals : PumpPoint → ℕ
  | .waking next => next.finals
  | .finalizing next => 1 + next.finals
  | _ => 0

end PumpPoint

namespace PumpEvent

def begun : PumpEvent → ℕ
  | .began n => n
  | _ => 0

def ends : PumpEvent → ℕ
  | .ended => 1
  | _ => 0

def finals : PumpEvent → ℕ
  | .finalised => 1
  | _ => 0

end PumpEvent

/-- The sum of a quantity over the events of a history. -/
def tally (f : PumpEvent → ℕ) (history : List (ℕ × PumpEvent)) : ℕ :=
  (history.map fun e => f e.2).sum

theorem tally_append (f : PumpEvent → ℕ) (history : List (ℕ × PumpEvent)) (i : ℕ)
    (events : List PumpEvent) :
    tally f (history ++ events.map (Prod.mk i)) = tally f history + (events.map f).sum := by
  simp [tally, Function.comp_def]

/-- The reason with which a turn of a live pump cancels it. -/
def cancelReason : PumpPoint → PumpInput → Option ServiceError
  | .start (.cancel reason), _ => some reason
  | .checking _, .authority err => err
  | .using _ _, .cancel reason => some reason
  | .binding, .cancel reason => some reason
  | .working _ _, .cancel reason => some reason
  | .working _ false, .finish err => err
  | .coordinating, .cancel reason => some reason
  | _, _ => none

/-! ## What a turn can do -/

/-- The fields on which the end of the pump depends. -/
def PumpLife.core (p : PumpLife) : Bool × Bool × Bool × Option ServiceError × Int × ℕ × ℕ :=
  (p.terminal, p.wakeDone, p.finalized, p.reason, p.users, p.streams, p.probes)

/-- What a turn does to the life of the pump, to the uses of its thread and of the
threads it starts, and to the wakers and finalisations in progress. -/
inductive PumpStep (p : PumpLife) (t : PumpPoint) (r : PumpTurn) : Prop where
  /-- nothing, apart from uses which are passed on -/
  | quiet (hcore : r.shared.core = p.core) (hevents : r.events = [])
      (hheld : load held r = t.held) (hwakers : load PumpPoint.wakers r = t.wakers)
      (hfinals : load PumpPoint.finals r = t.finals)
  /-- uses are reserved -/
  | reserve (n : ℕ) (hpositive : n ≠ 0) (hlive : p.terminal = false)
      (hroom : p.users + n ≤ p.maximumUses)
      (hcore : r.shared.core = { p with users := p.users + n }.core)
      (hbegun : (r.events.map begun).sum = n)
      (hends : (r.events.map ends).sum = 0)
      (hfinalised : (r.events.map PumpEvent.finals).sum = 0)
      (hheld : load held r = t.held + n)
      (hwakers : load PumpPoint.wakers r = t.wakers)
      (hfinals : load PumpPoint.finals r = t.finals)
  /-- a use is reserved and given back under the same lock -/
  | refund (hlive : p.terminal = false) (hcore : r.shared.core = p.core)
      (hevents : r.events = [.began 1, .ended]) (hheld : load held r = t.held)
      (hwakers : load PumpPoint.wakers r = t.wakers)
      (hfinals : load PumpPoint.finals r = t.finals)
  /-- the pump becomes terminal -/
  | cancel (reason : ServiceError) (hlive : p.terminal = false)
      (hcore : r.shared.core = { p with terminal := true, reason := some reason }.core)
      (hevents : r.events = [.terminal reason]) (hheld : load held r = t.held)
      (hwakers : load PumpPoint.wakers r = t.wakers + 1)
      (hfinals : load PumpPoint.finals r = t.finals)
  /-- the waker ends, and finalises the pump if no use is left -/
  | wake (last : Bool) (hlast : last = true ↔ p.users = 0 ∧ p.finalized = false)
      (hcore : r.shared.core =
        { p with wakeDone := true, finalized := p.finalized || last }.core)
      (hevents : r.events = [])
      (hheld : load held r = t.held)
      (hwakers : load PumpPoint.wakers r + 1 = t.wakers)
      (hfinals : load PumpPoint.finals r = t.finals + last.toNat)
  /-- a use ends, and finalises the pump if it was the last one -/
  | release (last : Bool) (hlast : last = true ↔ p.terminal = true ∧ p.wakeDone = true ∧
        p.users - 1 = 0 ∧ p.finalized = false)
      (hcore : r.shared.core =
        { p with users := p.users - 1, finalized := p.finalized || last }.core)
      (hevents : r.events = [.ended])
      (hheld : load held r + 1 = t.held)
      (hwakers : load PumpPoint.wakers r = t.wakers)
      (hfinals : load PumpPoint.finals r = t.finals + last.toNat)
  /-- the pump is finalised -/
  | finalise (hcore : r.shared.core = { p with streams := 0, probes := 0 }.core)
      (hevents : r.events = [.finalised]) (hheld : load held r = t.held)
      (hwakers : load PumpPoint.wakers r = t.wakers)
      (hfinals : load PumpPoint.finals r + 1 = t.finals)

namespace PumpLife

variable {p : PumpLife} {t next : PumpPoint}

theorem core_inj {q : PumpLife} (h : q.core = p.core) :
    q.terminal = p.terminal ∧ q.wakeDone = p.wakeDone ∧ q.finalized = p.finalized ∧
      q.reason = p.reason ∧ q.users = p.users ∧ q.streams = p.streams ∧ q.probes = p.probes := by
  simpa only [core, Prod.mk.injEq] using h

theorem reserveUsesLockedV1_eq_some {n : ℕ} {q : PumpLife} (h : p.reserveUsesLockedV1 n = some q) :
    p.terminal = false ∧ p.users + n ≤ p.maximumUses ∧ q = { p with users := p.users + n } := by
  rw [reserveUsesLockedV1] at h
  split_ifs at h with hterminal hroom
  refine ⟨by simpa using hterminal, by omega, (Option.some.inj h).symm⟩

/-- A turn which changes neither the life of the pump nor the uses, wakers and
finalisations of its thread. -/
theorem quiet_step {q : PumpLife} (hcore : q.core = p.core) (hheld : next.held = t.held)
    (hwakers : next.wakers = t.wakers) (hfinals : next.finals = t.finals) :
    PumpStep p t ⟨q, next, [], []⟩ := by
  refine .quiet hcore rfl ?_ ?_ ?_
  · simpa [load] using hheld
  · simpa [load] using hwakers
  · simpa [load] using hfinals

theorem endUseV1_step (hheld : next.held + 1 = t.held) (hwakers : next.wakers = t.wakers)
    (hfinals : next.finals = t.finals) : PumpStep p t (p.endUseV1 next) := by
  rw [endUseV1]
  split_ifs with hlast
  · refine .release true ⟨fun _ => hlast, fun _ => rfl⟩ ?_ rfl ?_ ?_ ?_
    · simp
    · simpa [load, held] using hheld
    · simpa [load, PumpPoint.wakers] using hwakers
    · simp [load, PumpPoint.finals, hfinals, Nat.add_comm]
  · refine .release false ⟨fun h => absurd h Bool.false_ne_true,
      fun h => absurd h hlast⟩ ?_ rfl ?_ ?_ ?_
    · simp
    · simpa [load] using hheld
    · simpa [load] using hwakers
    · simpa [load] using hfinals

theorem cancelWithReason_step (reason : ServiceError) (hheld : next.held = t.held)
    (hwakers : next.wakers = t.wakers) (hfinals : next.finals = t.finals) :
    PumpStep p t (p.cancelWithReason reason next) := by
  rw [cancelWithReason]
  split_ifs with hterminal
  · exact quiet_step rfl hheld hwakers hfinals
  · refine .cancel (serviceTerminalV1 reason) (by simpa using hterminal) rfl rfl ?_ ?_ ?_
    · simpa [load, held] using hheld
    · simp [load, PumpPoint.wakers, hwakers, Nat.add_comm]
    · simpa [load, PumpPoint.finals] using hfinals

theorem wake_step : PumpStep p (.waking next) (p.wake next) := by
  rw [wake]
  split_ifs with hlast
  · refine .wake true ⟨fun _ => hlast, fun _ => rfl⟩ ?_ rfl ?_ ?_ ?_
    · simp
    · simp [load, held]
    · simp [load, PumpPoint.wakers, Nat.add_comm]
    · simp [load, PumpPoint.finals, Nat.add_comm]
  · refine .wake false ⟨fun h => absurd h Bool.false_ne_true,
      fun h => absurd h hlast⟩ ?_ rfl ?_ ?_ ?_
    · simp
    · simp [load, held]
    · simp [load, PumpPoint.wakers, Nat.add_comm]
    · simp [load, PumpPoint.finals]

theorem reserveWorker_step (rateLimited : Bool) {reserved refused : PumpPoint}
    (hreserved : reserved.held = t.held + 1) (hrefused : refused.held = t.held)
    (hwakers : reserved.wakers = t.wakers ∧ refused.wakers = t.wakers)
    (hfinals : reserved.finals = t.finals ∧ refused.finals = t.finals) :
    PumpStep p t (p.reserveWorker rateLimited reserved refused) := by
  rw [reserveWorker]
  rcases hreserve : p.reserveUsesLockedV1 1 with _ | q
  · exact quiet_step rfl hrefused hwakers.2 hfinals.2
  · obtain ⟨hlive, hroom, rfl⟩ := reserveUsesLockedV1_eq_some hreserve
    split_ifs
    · refine .refund hlive ?_ rfl ?_ ?_ ?_
      · simp
      · simpa [load] using hrefused
      · simpa [load] using hwakers.2
      · simpa [load] using hfinals.2
    · refine .reserve 1 Nat.one_ne_zero hlive hroom rfl rfl rfl rfl ?_ ?_ ?_
      · simpa [load] using hreserved
      · simpa [load] using hwakers.1
      · simpa [load] using hfinals.1

theorem beginUseV1_step (m : PumpMethod) : PumpStep p (.start (.method m)) (p.beginUseV1 m) := by
  rw [beginUseV1]
  split_ifs
  · exact .quiet rfl rfl rfl rfl rfl
  · exact .quiet rfl rfl rfl rfl rfl
  rcases hreserve : p.reserveUsesLockedV1 1 with _ | q
  · exact .quiet rfl rfl rfl rfl rfl
  · obtain ⟨hlive, hroom, rfl⟩ := reserveUsesLockedV1_eq_some hreserve
    exact .reserve 1 Nat.one_ne_zero hlive hroom rfl rfl rfl rfl rfl rfl rfl

theorem runV1_step : PumpStep p (.start .run) p.runV1 := by
  rw [runV1]
  split_ifs
  · exact .quiet rfl rfl rfl rfl rfl
  · exact .quiet rfl rfl rfl rfl rfl
  rcases hreserve : p.reserveUsesLockedV1 (1 + p.runWorkers.length) with _ | q
  · exact .quiet rfl rfl rfl rfl rfl
  · obtain ⟨hlive, hroom, rfl⟩ := reserveUsesLockedV1_eq_some hreserve
    refine .reserve (1 + p.runWorkers.length) (by omega) hlive hroom rfl ?_ rfl rfl ?_ rfl rfl
    · simp [begun]
    · simp [load, held]

/-- A turn which passes a use on to a worker. -/
theorem launch_step (k : PumpWorker) (hheld : next.held + 1 = t.held)
    (hwakers : next.wakers = t.wakers) (hfinals : next.finals = t.finals) :
    PumpStep p t ⟨p, next, [.working k false], []⟩ := by
  refine .quiet rfl rfl ?_ ?_ ?_
  · simpa [load, held] using hheld
  · simpa [load, PumpPoint.wakers] using hwakers
  · simpa [load, PumpPoint.finals] using hfinals

theorem turn_step (p : PumpLife) (t : PumpPoint) (input : PumpInput) :
    PumpStep p t (p.turn t input) := by
  unfold turn
  split
  · exact beginUseV1_step _
  · exact runV1_step
  · exact cancelWithReason_step _ rfl rfl rfl
  · split
    · exact quiet_step rfl rfl rfl rfl
    · exact cancelWithReason_step _ rfl rfl rfl
  · exact cancelWithReason_step _ rfl rfl rfl
  · exact reserveWorker_step _ rfl rfl ⟨rfl, rfl⟩ ⟨rfl, rfl⟩
  · exact launch_step _ rfl rfl rfl
  · split_ifs
    · exact quiet_step rfl rfl rfl rfl
    · exact quiet_step rfl rfl rfl rfl
  · exact quiet_step rfl rfl rfl rfl
  · exact cancelWithReason_step _ rfl rfl rfl
  · split_ifs
    · exact quiet_step rfl rfl rfl rfl
    · exact quiet_step rfl rfl rfl rfl
  · exact quiet_step rfl rfl rfl rfl
  · exact cancelWithReason_step _ rfl rfl rfl
  · exact reserveWorker_step _ rfl rfl ⟨rfl, rfl⟩ ⟨rfl, rfl⟩
  · exact launch_step _ rfl rfl rfl
  · exact endUseV1_step rfl rfl rfl
  · split
    · exact quiet_step rfl rfl rfl rfl
    · exact cancelWithReason_step _ rfl rfl rfl
  · exact launch_step _ rfl rfl rfl
  · exact quiet_step rfl rfl rfl rfl
  · exact cancelWithReason_step _ rfl rfl rfl
  · split_ifs
    · exact quiet_step rfl rfl rfl rfl
    · exact quiet_step rfl rfl rfl rfl
  · exact endUseV1_step rfl rfl rfl
  · exact wake_step
  · refine .finalise rfl rfl ?_ ?_ ?_
    · simp [finalizeV1, load, held]
    · simp [finalizeV1, load, PumpPoint.wakers]
    · simp [finalizeV1, load, PumpPoint.finals, Nat.add_comm]
  · exact quiet_step rfl rfl rfl rfl

/-- A live pump becomes terminal by a cancel and by nothing else, with the reason of the
cancel. -/
theorem turn_cancel (hlive : p.terminal = false) (t : PumpPoint) (input : PumpInput) :
    (p.turn t input).shared.terminal = (cancelReason t input).isSome ∧
      ∀ reason ∈ cancelReason t input,
        (p.turn t input).shared.reason = some (serviceTerminalV1 reason) := by
  have hwait : ∀ input, (∀ reason, input = .cancel reason → False) →
      cancelReason .coordinating input = none := by
    intro input hinput
    cases input <;> first | rfl | exact (hinput _ rfl).elim
  unfold turn
  split <;>
    grind [cancelReason, cancelWithReason, beginUseV1, runV1, reserveWorker, reserveUsesLockedV1,
      authorityV1, endUseV1, wake, finalizeV1]

end PumpLife

/-! ## The invariant -/

/-- The life of a pump with room for `streams` and `probes`, with the uses of its threads
and what has happened. -/
structure PumpSound (streams probes : ℕ) (w : World PumpLife PumpPoint PumpEvent) : Prop where
  users : w.shared.users = total held w
  counted : w.shared.users =
    (tally begun w.history : Int) - tally ends w.history
  bound : w.shared.users ≤ 8 + 3 * streams + 3 * probes
  sized : w.shared.finalized = false → w.shared.streams = streams ∧ w.shared.probes = probes
  wakers : total PumpPoint.wakers w = (w.shared.terminal && !w.shared.wakeDone).toNat
  woke : w.shared.wakeDone = true → w.shared.terminal = true
  finals : total PumpPoint.finals w + tally PumpEvent.finals w.history =
    w.shared.finalized.toNat
  ended : w.shared.finalized = true → w.shared.wakeDone = true ∧ w.shared.users = 0
  last : w.shared.wakeDone = true → w.shared.users = 0 → w.shared.finalized = true

variable {streams probes : ℕ} {w : World PumpLife PumpPoint PumpEvent}

theorem PumpSound.step (h : PumpSound streams probes w) {i : ℕ} {t : PumpPoint} {r : PumpTurn}
    (hi : w.threads[i]? = some t) (hstep : PumpStep w.shared t r) :
    PumpSound streams probes (settle w i r) := by
  have hheldAll := total_settle held r hi
  have hwakersAll := total_settle PumpPoint.wakers r hi
  have hfinalsAll := total_settle PumpPoint.finals r hi
  have hshared : (settle w i r).shared = r.shared := rfl
  have htally (f : PumpEvent → ℕ) : tally f (settle w i r).history =
      tally f w.history + (r.events.map f).sum := tally_append f w.history i r.events
  obtain ⟨husers, hcounted, hbound, hsized, hwakers, hwoke, hfinals, hover, hlast⟩ := h
  have hasleep (hlive : w.shared.terminal = false) : w.shared.wakeDone = false := by
    by_contra hwoken
    rw [hwoke (by simpa using hwoken)] at hlive
    cases hlive
  have hunfinished (hnotWoken : w.shared.wakeDone = false) : w.shared.finalized = false := by
    by_contra hfinalised
    rw [(hover (by simpa using hfinalised)).1] at hnotWoken
    cases hnotWoken
  cases hstep with
  | quiet hcore hevents hheld hwaking hfinal =>
    have hcore := core_inj hcore
    constructor <;> simp only [hshared, htally, hevents, hcore, map_nil, sum_nil]
    · omega
    · exact hcounted
    · exact hbound
    · exact hsized
    · omega
    · exact hwoke
    · omega
    · exact hover
    · exact hlast
  | reserve n hpositive hlive hroom hcore hbegun hends hfinalised hheld hwaking hfinal =>
    have hcore := core_inj hcore
    have hnotWoken := hasleep hlive
    have hnotFinal := hunfinished hnotWoken
    obtain ⟨hstreams', hprobes'⟩ := hsized hnotFinal
    rw [maximumUses, hstreams', hprobes'] at hroom
    constructor <;> simp only [hshared, htally, hbegun, hends, hfinalised, hcore, Nat.add_zero]
    · omega
    · omega
    · omega
    · exact hsized
    · omega
    · exact hwoke
    · omega
    · intro hfinalised
      rw [hnotFinal] at hfinalised
      cases hfinalised
    · intro hwoken
      rw [hnotWoken] at hwoken
      cases hwoken
  | refund hlive hcore hevents hheld hwaking hfinal =>
    have hcore := core_inj hcore
    constructor <;>
      simp only [hshared, htally, hevents, hcore, map_cons, map_nil, sum_cons, sum_nil, begun, ends,
        PumpEvent.finals]
    · omega
    · omega
    · exact hbound
    · exact hsized
    · omega
    · exact hwoke
    · omega
    · exact hover
    · exact hlast
  | cancel reason hlive hcore hevents hheld hwaking hfinal =>
    have hcore := core_inj hcore
    have hnotWoken := hasleep hlive
    rw [hlive, Bool.false_and, Bool.toNat_false] at hwakers
    constructor <;>
      simp only [hshared, htally, hevents, hcore, map_cons, map_nil, sum_cons, sum_nil, begun, ends,
        PumpEvent.finals]
    · omega
    · exact hcounted
    · exact hbound
    · exact hsized
    · rw [hnotWoken]
      simp only [Bool.not_false, Bool.and_true, Bool.toNat_true]
      omega
    · exact fun _ => trivial
    · omega
    · exact hover
    · exact hlast
  | wake last hlastIff hcore hevents hheld hwaking hfinal =>
    have hcore := core_inj hcore
    -- Only one waker is in progress, so none is left afterwards.
    have hwaiting : (w.shared.terminal && !w.shared.wakeDone) = true := by
      by_contra hnot
      rw [Bool.not_eq_true] at hnot
      rw [hnot, Bool.toNat_false] at hwakers
      omega
    rw [hwaiting, Bool.toNat_true] at hwakers
    simp only [Bool.and_eq_true, Bool.not_eq_true'] at hwaiting
    have hnotFinal := hunfinished hwaiting.2
    rw [hnotFinal, Bool.toNat_false] at hfinals
    rw [hnotFinal, Bool.false_or] at hcore
    constructor <;>
      simp only [hshared, htally, hevents, hcore, map_nil, sum_nil, hwaiting.1, Bool.not_true,
        Bool.and_false, Bool.toNat_false]
    · omega
    · exact hcounted
    · exact hbound
    · exact fun _ => hsized hnotFinal
    · omega
    · exact fun _ => trivial
    · omega
    · intro hfinalised
      exact ⟨trivial, (hlastIff.mp hfinalised).1⟩
    · exact fun _ hnone => hlastIff.mpr ⟨hnone, hnotFinal⟩
  | release last hlastIff hcore hevents hheld hwaking hfinal =>
    have hcore := core_inj hcore
    -- A use which ends was counted, so the pump was not finalised yet.
    have hnotFinal : w.shared.finalized = false := by
      by_contra hfinalised
      have hnone := (hover (by simpa using hfinalised)).2
      omega
    rw [hnotFinal, Bool.toNat_false] at hfinals
    rw [hnotFinal, Bool.false_or] at hcore
    constructor <;>
      simp only [hshared, htally, hevents, hcore, map_cons, map_nil, sum_cons, sum_nil, begun, ends,
        PumpEvent.finals]
    · omega
    · omega
    · omega
    · exact fun _ => hsized hnotFinal
    · omega
    · exact hwoke
    · omega
    · intro hfinalised
      obtain ⟨-, hwoken, hnone, -⟩ := hlastIff.mp hfinalised
      exact ⟨hwoken, hnone⟩
    · exact fun hwoken hnone => hlastIff.mpr ⟨hwoke hwoken, hwoken, hnone, hnotFinal⟩
  | finalise hcore hevents hheld hwaking hfinal =>
    have hcore := core_inj hcore
    have hfinalised : w.shared.finalized = true := by
      by_contra hnot
      rw [Bool.not_eq_true] at hnot
      rw [hnot, Bool.toNat_false] at hfinals
      omega
    constructor <;>
      simp only [hshared, htally, hevents, hcore, map_cons, map_nil, sum_cons, sum_nil, begun, ends,
        PumpEvent.finals]
    · omega
    · exact hcounted
    · exact hbound
    · intro hnot
      rw [hfinalised] at hnot
      cases hnot
    · omega
    · exact hwoke
    · omega
    · exact hover
    · exact hlast

/-! ## Runs -/

/-- A pump as its constructor leaves it. -/
def newPumpLife (streams probes : ℕ) (packetSource : Bool) : PumpLife where
  streams := streams
  probes := probes
  packetSource := packetSource

theorem PumpSound.call (h : PumpSound streams probes w) (c : PumpCall) :
    PumpSound streams probes (pumpSystem.step w (.call c)) := by
  have htotal (f : PumpPoint → ℕ) (hf : f (.start c) = 0) :
      total f (pumpSystem.step w (.call c)) = total f w :=
    (total_call f w c).trans (by rw [pumpSystem, hf, Nat.add_zero])
  obtain ⟨husers, hcounted, hbound, hsized, hwakers, hwoke, hfinals, hover, hlast⟩ := h
  refine ⟨?_, hcounted, hbound, hsized, ?_, hwoke, ?_, hover, hlast⟩
  · rw [htotal _ rfl]
    exact husers
  · rw [htotal _ rfl]
    exact hwakers
  · rw [htotal _ rfl]
    exact hfinals

theorem pumpSound_run (streams probes : ℕ) (packetSource : Bool)
    (moves : List (Move PumpCall PumpInput)) :
    PumpSound streams probes
      (pumpSystem.run ⟨newPumpLife streams probes packetSource, [], []⟩ moves) := by
  refine run_invariant (PumpSound streams probes) ?_ ?_ moves
  · intro w m hw
    rcases pumpSystem.step_cases w m with ⟨c, rfl⟩ | hsame | ⟨i, input, t, hi, hstep⟩
    · exact hw.call c
    · rw [hsame]
      exact hw
    · rw [hstep]
      exact hw.step hi (turn_step w.shared t input)
  · constructor <;> simp [newPumpLife, total, tally]
    omega

variable {p : PumpLife} {t : PumpPoint} {r : PumpTurn}

theorem PumpStep.reason_eq (h : PumpStep p t r) (hterminal : p.terminal = true) :
    r.shared.terminal = true ∧ r.shared.reason = p.reason := by
  have hkept {q : PumpLife} (hcore : r.shared.core = q.core) :
      r.shared.terminal = q.terminal ∧ r.shared.reason = q.reason :=
    ⟨(core_inj hcore).1, (core_inj hcore).2.2.2.1⟩
  cases h with
  | quiet hcore => exact (hkept hcore).imp_left (·.trans hterminal)
  | reserve n hpositive hlive => exact absurd hterminal (by simp [hlive])
  | refund hlive => exact absurd hterminal (by simp [hlive])
  | cancel reason hlive => exact absurd hterminal (by simp [hlive])
  | wake last hlast hcore => exact (hkept hcore).imp_left (·.trans hterminal)
  | release last hlast hcore => exact (hkept hcore).imp_left (·.trans hterminal)
  | finalise hcore => exact (hkept hcore).imp_left (·.trans hterminal)

theorem reason_run (w : World PumpLife PumpPoint PumpEvent)
    (hterminal : w.shared.terminal = true) (moves : List (Move PumpCall PumpInput)) :
    (pumpSystem.run w moves).shared.terminal = true ∧
      (pumpSystem.run w moves).shared.reason = w.shared.reason := by
  refine run_invariant (fun v : World PumpLife PumpPoint PumpEvent =>
      v.shared.terminal = true ∧ v.shared.reason = w.shared.reason) ?_
    ⟨hterminal, rfl⟩ moves
  rintro v m ⟨hv, hreason⟩
  rcases pumpSystem.step_cases v m with ⟨c, rfl⟩ | hsame | ⟨i, input, t, hi, hstep⟩
  · exact ⟨hv, hreason⟩
  · rw [hsame]
    exact ⟨hv, hreason⟩
  · rw [hstep]
    obtain ⟨hterminal', hreason'⟩ := (turn_step v.shared t input).reason_eq hv
    exact ⟨hterminal', hreason'.trans hreason⟩

/-- Uses are passed on, begun and ended, and never lost or ended twice. -/
theorem PumpStep.conserves (h : PumpStep p t r) :
    load held r + (r.events.map ends).sum =
      t.held + (r.events.map begun).sum := by
  cases h with
  | quiet hcore hevents hheld => rw [hevents, hheld]; rfl
  | reserve n hpositive hlive hroom hcore hbegun hends hfinalised hheld =>
    rw [hbegun, hends, hheld, Nat.add_zero]
  | refund hlive hcore hevents hheld => rw [hevents, hheld]; rfl
  | cancel reason hlive hcore hevents hheld => rw [hevents, hheld]; rfl
  | wake last hlast hcore hevents hheld => rw [hevents, hheld]; rfl
  | release last hlast hcore hevents hheld => rw [hevents]; exact hheld
  | finalise hcore hevents hheld => rw [hevents, hheld]; rfl

/-- Uses begin only while the pump is not terminal. -/
theorem PumpStep.live_of_began (h : PumpStep p t r) (hbegan : (r.events.map begun).sum ≠ 0) :
    p.terminal = false := by
  cases h with
  | quiet hcore hevents => simp [hevents] at hbegan
  | reserve n hpositive hlive => exact hlive
  | refund hlive => exact hlive
  | cancel reason hlive => exact hlive
  | wake last hlast hcore hevents => simp [hevents] at hbegan
  | release last hlast hcore hevents => simp [hevents, begun] at hbegan
  | finalise hcore hevents => simp [hevents, begun] at hbegan

theorem PumpStep.began_of_admitted (h : PumpStep p t r) (hadmitted : .admitted ∈ r.events) :
    (r.events.map begun).sum ≠ 0 := by
  cases h with
  | quiet hcore hevents => simp [hevents] at hadmitted
  | reserve n hpositive hlive hroom hcore hbegun => rwa [hbegun]
  | refund hlive hcore hevents => simp [hevents] at hadmitted
  | cancel reason hlive hcore hevents => simp [hevents] at hadmitted
  | wake last hlast hcore hevents => simp [hevents] at hadmitted
  | release last hlast hcore hevents => simp [hevents] at hadmitted
  | finalise hcore hevents => simp [hevents] at hadmitted

theorem PumpStep.finals_of_finalised (h : PumpStep p t r)
    (hfinalised : .finalised ∈ r.events) : t.finals ≠ 0 := by
  have hsum : (r.events.map PumpEvent.finals).sum ≠ 0 := by
    have hle := le_sum_of_mem (mem_map_of_mem (f := PumpEvent.finals) hfinalised)
    have hone : PumpEvent.finals .finalised = 1 := rfl
    omega
  cases h with
  | quiet hcore hevents => simp [hevents] at hfinalised
  | reserve n hpositive hlive hroom hcore hbegun hends hnone => exact absurd hnone hsum
  | refund hlive hcore hevents => simp [hevents] at hfinalised
  | cancel reason hlive hcore hevents => simp [hevents] at hfinalised
  | wake last hlast hcore hevents => simp [hevents] at hfinalised
  | release last hlast hcore hevents => simp [hevents] at hfinalised
  | finalise hcore hevents hheld hwakers hfinals => omega

theorem total_eq_zero {f : PumpPoint → ℕ} (hf : f .done = 0) (hdone : ∀ t ∈ w.threads, t = .done) :
    total f w = 0 := by
  refine sum_eq_zero fun n hn => ?_
  obtain ⟨t, ht, rfl⟩ := mem_map.mp hn
  rw [hdone t ht, hf]

/-- Along every interleaving of calls, workers and cancellations: a live pump becomes terminal
by a cancel and nothing else, and the reason of this first cancel is recorded and stays; the
pump is finalised at most once, only when it is terminal, its waker has ended and no use is
left, and exactly once when a terminal pump has come to rest; no call is admitted and no use
begins once the pump is terminal, so none after its finalisation; the uses are those the
threads hold, a turn changes them only by the uses it begins and ends, and at rest all of them
are ended; and there are never more than the limit. -/
theorem pump_finalisation (streams probes : ℕ) (packetSource : Bool)
    (moves : List (Move PumpCall PumpInput)) :
    let w := pumpSystem.run ⟨newPumpLife streams probes packetSource, [], []⟩ moves
    (∀ more, w.shared.terminal = true →
      (pumpSystem.run w more).shared.terminal = true ∧
        (pumpSystem.run w more).shared.reason = w.shared.reason) ∧
    tally PumpEvent.finals w.history ≤ 1 ∧
    (∀ (i : ℕ) (t : PumpPoint) (input : PumpInput), w.threads[i]? = some t →
      let r := w.shared.turn t input
      (w.shared.terminal = false → r.shared.terminal = (cancelReason t input).isSome ∧
        ∀ reason ∈ cancelReason t input, r.shared.reason = some (serviceTerminalV1 reason)) ∧
      (.finalised ∈ r.events → w.shared.terminal = true ∧ w.shared.wakeDone = true ∧
        w.shared.users = 0 ∧ tally PumpEvent.finals w.history = 0) ∧
      ((r.events.map begun).sum ≠ 0 →
        w.shared.terminal = false ∧ tally PumpEvent.finals w.history = 0) ∧
      (.admitted ∈ r.events → (r.events.map begun).sum ≠ 0) ∧
      load held r + (r.events.map ends).sum =
        t.held + (r.events.map begun).sum) ∧
    w.shared.users = total held w ∧
    w.shared.users =
      (tally begun w.history : Int) - tally ends w.history ∧
    ((∀ t ∈ w.threads, t = .done) →
      tally begun w.history = tally ends w.history ∧
      (w.shared.terminal = true → tally PumpEvent.finals w.history = 1)) ∧
    w.shared.users ≤ 8 + 3 * streams + 3 * probes := by
  intro w
  have h : PumpSound streams probes w := pumpSound_run streams probes packetSource moves
  have hfinals := h.finals
  have honce := w.shared.finalized.toNat_le
  refine ⟨fun more hterminal => reason_run w hterminal more, by omega, ?_, h.users,
    h.counted, ?_, h.bound⟩
  · intro i t input ht r
    have hstep := turn_step w.shared t input
    refine ⟨fun hlive => turn_cancel hlive t input, fun hfinalised => ?_, fun hbegan => ?_,
      hstep.began_of_admitted, hstep.conserves⟩
    · have hpending := hstep.finals_of_finalised hfinalised
      have hle := le_total PumpPoint.finals ht
      have hflag : w.shared.finalized = true := by
        by_contra hnot
        rw [Bool.not_eq_true] at hnot
        rw [hnot, Bool.toNat_false] at hfinals
        omega
      obtain ⟨hwoken, hnone⟩ := h.ended hflag
      exact ⟨h.woke hwoken, hwoken, hnone, by omega⟩
    · have hlive := hstep.live_of_began hbegan
      refine ⟨hlive, ?_⟩
      have hflag : w.shared.finalized = false := by
        by_contra hfinalised
        have hterminal := h.woke (h.ended (by simpa using hfinalised)).1
        rw [hlive] at hterminal
        cases hterminal
      rw [hflag, Bool.toNat_false] at hfinals
      omega
  · intro hdone
    have hheld : total held w = 0 := total_eq_zero rfl hdone
    have hwakers : total PumpPoint.wakers w = 0 := total_eq_zero rfl hdone
    have hpending : total PumpPoint.finals w = 0 := total_eq_zero rfl hdone
    have husers := h.users
    have hcounted := h.counted
    refine ⟨by omega, fun hterminal => ?_⟩
    have hwoken : w.shared.wakeDone = true := by
      by_contra hnot
      have hwaiting := h.wakers
      rw [hterminal, Bool.not_eq_true _ |>.mp hnot, hwakers] at hwaiting
      cases hwaiting
    rw [h.last hwoken (by omega), Bool.toNat_true] at hfinals
    omega

/-- A bind is in progress when the pump is cancelled twice. -/
def sampleMoves : List (Move PumpCall PumpInput) :=
  [.call (.method .bind), .run 0 .bound, .call (.cancel .contextDeadline),
    .call (.cancel .linkClosed), .run 1 .bound, .run 2 .bound, .run 1 .bound,
    .run 0 (.authority none), .run 0 .bound, .run 0 .bound]

/-- The reason is the one of the first cancel, and the bind finalises the pump with its last
use. -/
theorem pump_finalisation_bind :
    let w := pumpSystem.run ⟨newPumpLife 1 1 false, [], []⟩ sampleMoves
    w.shared.reason = some (.result .timeout) ∧ w.threads = [.done, .done, .done] ∧
      tally begun w.history = 1 ∧ tally PumpEvent.finals w.history = 1 := by
  intro w
  have hrest : ∀ t ∈ w.threads, t = .done := by
    intro t ht
    have hthreads : w.threads = replicate 3 .done := rfl
    exact eq_of_mem_replicate (hthreads ▸ ht)
  have hfinal := (pump_finalisation 1 1 false sampleMoves).2.2.2.2.2.1 hrest
  exact ⟨rfl, rfl, rfl, hfinal.2 rfl⟩

end Kurdistan.Runtime
