import Kurdistan.Runtime.ServiceRecord
import Kurdistan.Support.Threads

/-!
# The life of a service pump

The part of the service pump which decides when it ends: the terminal flag with its
reason, the waker, the number of uses, and the finalisation. Every public call and every
worker takes turns on this state. What a call does between its begin and its end is
chosen by the input of its turns: it may cancel the pump with any reason, and `StartProbe`
and the receiver may reserve the use of a worker and launch it.
-/

namespace Kurdistan.Runtime

open Support

/-- The errors which reach the pump. `other` is any error it does not know. -/
inductive ServiceError where
  | result (r : ServiceResultV1)
  | contextCanceled
  | contextDeadline
  | serviceRecord
  | frameState
  | secureChannel
  | messageLimit
  | linkClosed
  | clockRegression
  | pumpIO
  | other (code : ℕ)
  deriving DecidableEq

/-- `serviceTerminalV1`: the error which is recorded for a cause. -/
def serviceTerminalV1 : ServiceError → ServiceError
  | .result .success => .result .internalFailure
  | .contextCanceled => .result .cancelled
  | .contextDeadline => .result .timeout
  | .other _ => .result .internalFailure
  | e => e

/-- The fields of `ServicePumpV1` on which its end depends. `streams` and `probes` are
the lengths of the tables. -/
structure PumpLife where
  terminal : Bool := false
  wakeDone : Bool := false
  finalized : Bool := false
  binding : Bool := false
  bindUsed : Bool := false
  ready : Bool := false
  running : Bool := false
  reason : Option ServiceError := none
  users : Int := 0
  streams : ℕ
  probes : ℕ
  /-- `packetSourceEnabledV1` -/
  packetSource : Bool

/-- The public methods which count as uses. -/
inductive PumpMethod where
  | openStream
  | writeStream
  | closeWrite
  | cancelStream
  | receiveStream
  | confirmStreamDelivery
  | streamRetired
  | rejectStreamDelivery
  | startProbe
  | awaitProbe
  | cancelProbe
  | trySubmitReturnPacket
  | bind
  deriving DecidableEq

/-- The argument of `beginUseV1`. -/
def PumpMethod.requiresReady : PumpMethod → Bool
  | .trySubmitReturnPacket => false
  | .bind => false
  | _ => true

inductive PumpWorker where
  | tx
  | rx
  | supervise
  | packetSource
  | stream
  | probeGroup
  | relayProbe
  deriving DecidableEq

inductive PumpCall where
  | method (m : PumpMethod)
  /-- `Run` or `RunWithPublicationV1` -/
  | run
  /-- `CancelWithReason` by the owner, by `Close` or by the callback of a context -/
  | cancel (reason : ServiceError)

/-- Where a thread of the pump is. -/
inductive PumpPoint where
  | start (call : PumpCall)
  /-- in `beginUseV1`, with the use reserved -/
  | checking (m : PumpMethod)
  /-- in the body of a method, which may have reserved a worker -/
  | using (m : PumpMethod) (pending : Bool)
  /-- in `BindV1`, after it was admitted -/
  | binding
  /-- in the body of a worker, which may have reserved another one -/
  | working (k : PumpWorker) (pending : Bool)
  /-- in `runV1`, with the workers still to launch -/
  | launching (rest : List PumpWorker)
  /-- in `runV1`, until the pump is terminal -/
  | coordinating
  /-- before `endUseV1` -/
  | ending
  /-- in `CancelWithReason`, after the terminal flag was set -/
  | waking (next : PumpPoint)
  /-- before `finalizeV1` -/
  | finalizing (next : PumpPoint)
  | done

/-- What the body of a thread does next. -/
inductive PumpInput where
  /-- the outcome of `authorityV1` for a pump which is not terminal -/
  | authority (err : Option ServiceError)
  | cancel (reason : ServiceError)
  /-- the bind is admitted, or refused -/
  | bind (admitted : Bool)
  /-- the handshake of `BindV1` succeeded -/
  | bound
  /-- reserve the use of a worker; `StartProbe` gives it back if its rate is exceeded -/
  | reserve (rateLimited : Bool)
  | launch (k : PumpWorker)
  /-- give the reserved use back with `endUseV1` -/
  | drop
  /-- the body returns -/
  | finish (err : Option ServiceError)

inductive PumpEvent where
  /-- uses were reserved -/
  | began (n : ℕ)
  /-- a use was ended -/
  | ended
  /-- a public method or `Run` was admitted -/
  | admitted
  /-- a reason was recorded -/
  | terminal (reason : ServiceError)
  | finalised
  deriving DecidableEq

abbrev PumpTurn := Turn PumpLife PumpPoint PumpEvent

namespace PumpLife

variable (p : PumpLife)

/-- The largest number of uses. -/
def maximumUses : Int := 8 + 3 * p.streams + 3 * p.probes

/-- `reserveUsesLockedV1` -/
def reserveUsesLockedV1 (n : ℕ) : Option PumpLife :=
  if p.terminal then none
  else if n < 1 ∨ p.maximumUses - n < p.users then none
  else some { p with users := p.users + n }

/-- The first part of `beginUseV1`, up to the check of the authority. -/
def beginUseV1 (m : PumpMethod) : PumpTurn :=
  if p.terminal then ⟨p, .done, [], []⟩
  else if m.requiresReady ∧ (p.ready = false ∨ p.running = false) then ⟨p, .done, [], []⟩
  else
    match p.reserveUsesLockedV1 1 with
    | none => ⟨p, .done, [], []⟩
    | some p => ⟨p, .checking m, [], [.began 1, .admitted]⟩

/-- `endUseV1`, with the thread going on at `next`. -/
def endUseV1 (next : PumpPoint) : PumpTurn :=
  let p := { p with users := p.users - 1 }
  if p.terminal ∧ p.wakeDone ∧ p.users = 0 ∧ p.finalized = false then
    ⟨{ p with finalized := true }, .finalizing next, [], [.ended]⟩
  else ⟨p, next, [], [.ended]⟩

/-- The first critical section of `CancelWithReason`. -/
def cancelWithReason (reason : ServiceError) (next : PumpPoint) : PumpTurn :=
  if p.terminal then ⟨p, next, [], []⟩
  else
    ⟨{ p with terminal := true, reason := some (serviceTerminalV1 reason) }, .waking next, [],
      [.terminal (serviceTerminalV1 reason)]⟩

/-- The second critical section of `CancelWithReason`. -/
def wake (next : PumpPoint) : PumpTurn :=
  let p := { p with wakeDone := true }
  if p.users = 0 ∧ p.finalized = false then
    ⟨{ p with finalized := true }, .finalizing next, [], []⟩
  else ⟨p, next, [], []⟩

def finalizeV1 (next : PumpPoint) : PumpTurn :=
  ⟨{ p with streams := 0, probes := 0 }, next, [], [.finalised]⟩

/-- The outcome of `authorityV1`, which reports the reason of a terminal pump. -/
def authorityV1 (err : Option ServiceError) : Option ServiceError :=
  if p.terminal then p.reason else err

/-- The workers which `runV1` launches. -/
def runWorkers : List PumpWorker :=
  [.tx, .rx, .supervise] ++ if p.packetSource then [.packetSource] else []

/-- The critical section of `runV1`. -/
def runV1 : PumpTurn :=
  if p.terminal then ⟨p, .done, [], []⟩
  else if p.running ∨ p.binding ∨ p.ready = false then ⟨p, .done, [], []⟩
  else
    match p.reserveUsesLockedV1 (1 + p.runWorkers.length) with
    | none => ⟨p, .done, [], []⟩
    | some q =>
      ⟨{ q with running := true }, .launching p.runWorkers, [],
        [.began (1 + p.runWorkers.length), .admitted]⟩

/-- The reservation of a worker inside a use. A rate limit gives the use back under the
same lock. -/
def reserveWorker (rateLimited : Bool) (reserved refused : PumpPoint) :
    PumpTurn :=
  match p.reserveUsesLockedV1 1 with
  | none => ⟨p, refused, [], []⟩
  | some q =>
    if rateLimited then
      ⟨{ q with users := q.users - 1 }, refused, [], [.began 1, .ended]⟩
    else ⟨q, reserved, [], [.began 1]⟩

/-- The turn of a thread. -/
def turn : PumpPoint → PumpInput → PumpTurn
  | .start (.method m), _ => p.beginUseV1 m
  | .start .run, _ => p.runV1
  | .start (.cancel reason), _ => p.cancelWithReason reason .done
  | .checking m, .authority err =>
    match p.authorityV1 err with
    | none => ⟨p, .using m false, [], []⟩
    | some e => p.cancelWithReason e .ending
  | .using m pending, .cancel reason => p.cancelWithReason reason (.using m pending)
  | .using .startProbe false, .reserve rateLimited =>
    p.reserveWorker rateLimited (.using .startProbe true) (.using .startProbe false)
  | .using .startProbe true, .launch k =>
    ⟨p, .using .startProbe false, [.working k false], []⟩
  | .using .bind false, .bind admitted =>
    if admitted ∧ p.bindUsed = false ∧ p.running = false then
      ⟨{ p with bindUsed := true, binding := true }, .binding, [], []⟩
    else ⟨p, .ending, [], []⟩
  | .using _ false, .finish _ => ⟨p, .ending, [], []⟩
  | .binding, .cancel reason => p.cancelWithReason reason .binding
  | .binding, .bound =>
    if p.terminal then ⟨p, .binding, [], []⟩ else ⟨{ p with ready := true }, .binding, [], []⟩
  | .binding, .finish _ => ⟨{ p with binding := false }, .ending, [], []⟩
  | .working k pending, .cancel reason => p.cancelWithReason reason (.working k pending)
  | .working .rx false, .reserve _ =>
    p.reserveWorker false (.working .rx true) (.working .rx false)
  | .working .rx true, .launch k => ⟨p, .working .rx false, [.working k false], []⟩
  | .working .rx true, .drop => p.endUseV1 (.working .rx false)
  | .working _ false, .finish err =>
    match err with
    | none => ⟨p, .ending, [], []⟩
    | some e => p.cancelWithReason e .ending
  | .launching (k :: rest), _ => ⟨p, .launching rest, [.working k false], []⟩
  | .launching [], _ => ⟨p, .coordinating, [], []⟩
  | .coordinating, .cancel reason => p.cancelWithReason reason .coordinating
  | .coordinating, _ =>
    if p.terminal then ⟨p, .ending, [], []⟩ else ⟨p, .coordinating, [], []⟩
  | .ending, _ => p.endUseV1 .done
  | .waking next, _ => p.wake next
  | .finalizing next, _ => p.finalizeV1 next
  | point, _ => ⟨p, point, [], []⟩

end PumpLife

/-- A pump with its callers and workers. -/
def pumpSystem : System PumpLife PumpPoint PumpCall PumpInput PumpEvent where
  entry := .start
  turn := PumpLife.turn

end Kurdistan.Runtime
