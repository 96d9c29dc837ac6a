import Kurdistan.Runtime.Flow
import Kurdistan.Support.Buffer
import Kurdistan.Support.Threads

/-!
# The packet port

The port between the packet pump and the native adapter. `Submit` and `Read` carry
outbound packets through one slot, and `Write`, `Receive` and `Acknowledge` carry inbound
packets through another one. In production mode a submitted packet reserves its flow,
and the reference leaves the port together with the packet.

Every method holds the mutex of the port except while it waits, so a call is a thread
with one turn up to its first wait and one turn after each wake. A turn which finds
nothing new leaves the thread waiting.
-/

namespace Kurdistan.Runtime

open Support List

/-- `ctx.Err()` of a context which is done. -/
inductive ContextError where
  | canceled
  | deadlineExceeded
  deriving DecidableEq

/-- The reasons for which an IP packet is refused. -/
inductive PacketError where
  | invalid
  | family
  | protocol
  | source
  | destination
  | fragmented
  deriving DecidableEq

inductive PortError where
  | packet
  | busy
  | token
  | tokenExhausted
  | delivery
  | closedPipe
  | shortBuffer
  | context (err : ContextError)
  | service (result : ServiceResultV1)
  | refused (err : PacketError)
  deriving DecidableEq

def FlowError.toPort : FlowError → PortError
  | .service result => .service result
  | .packetInvalid => .refused .invalid

/-! ## Admission of production packets -/

/-- The flow of an outbound packet, as `effectivePacketInfoV1` and `productionFlowTupleV1`
compute it from the addresses, the MTU and the protocols of the plan; none for ICMP. -/
abbrev PacketFlow := List UInt8 → Except PacketError (Option ProductionFlowKeyV1)

/-- `productionPacketAdmissionV1`. What only the packet validation reads is part of the
`PacketFlow`. -/
structure ProductionPacketAdmissionV1 where
  generation : UInt64
  raw : Bool
  active : Bool
  closed : Bool
  now : Time
  flow : Option ProductionFlowTableV1

namespace ProductionPacketAdmissionV1

def reserveV1 (flowOf : PacketFlow) (a : ProductionPacketAdmissionV1) (packet : List UInt8) :
    ProductionPacketAdmissionV1 × Except PortError ProductionFlowRefV1 :=
  if a.closed ∨ a.active = false ∨ a.generation = 0 then
    (a, .error (.service .invalidRequest))
  else if a.raw = false then (a, .error (.service .notAdmitted))
  else
    match flowOf packet with
    | .error err => (a, .error (.refused err))
    | .ok none => (a, .ok {})
    | .ok (some key) =>
      match a.flow with
      | none => (a, .error (.service .invalidRequest))
      | some f =>
        ({ a with flow := some (f.reserveV1 key a.now).1 },
          (f.reserveV1 key a.now).2.mapError FlowError.toPort)

def releaseV1 (a : ProductionPacketAdmissionV1) (r : ProductionFlowRefV1) :
    ProductionPacketAdmissionV1 :=
  if r.index ≠ 0 then { a with flow := a.flow.map fun f => f.releaseV1 r } else a

end ProductionPacketAdmissionV1

/-! ## The port -/

structure PacketPortV1 where
  closed : Bool := false
  failure : PortError := .closedPipe
  maximum : ℕ
  outbound : List UInt8
  inbound : List UInt8
  outBytes : ℕ := 0
  inBytes : ℕ := 0
  token : UInt64 := 0
  received : Bool := false
  acked : Bool := false
  reading : Bool := false
  writing : Bool := false
  submitting : Bool := false
  receiving : Bool := false
  production : Option ProductionPacketAdmissionV1 := none
  outFlow : ProductionFlowRefV1 := {}

/-- `NewPacketPortV1`; the installation of a production client sets the admission before
it publishes the port. -/
def newPacketPortV1 (maxPacketBytes : ℕ) (production : Option ProductionPacketAdmissionV1) :
    Option PacketPortV1 :=
  if maxPacketBytes < 40 ∨ 65535 < maxPacketBytes then none
  else
    some {
      maximum := maxPacketBytes
      outbound := replicate maxPacketBytes 0
      inbound := replicate maxPacketBytes 0
      production := production }

/-- The port and the counter of the delivery tokens, which all ports of the process
share. -/
structure PortState where
  port : PacketPortV1
  tokens : UInt64

inductive PortEvent where
  /-- `Submit` returned. -/
  | submitted (packet : List UInt8) (result : Except PortError ProductionFlowRefV1)
  /-- `Read` or `readProductionV1` returned. -/
  | read (result : Except PortError (List UInt8 × ProductionFlowRefV1))
  /-- `Write` copied its packet to the port. -/
  | offered (packet : List UInt8)
  /-- `Write` returned. -/
  | wrote (packet : List UInt8) (result : Except PortError ℕ)
  /-- `Receive` returned. -/
  | received (result : Except PortError (UInt64 × List UInt8))
  /-- `Acknowledge` returned. -/
  | acknowledged (token : UInt64) (completed : Int) (result : Except PortError Unit)
  /-- The port was closed. -/
  | closed

/-- Who reads outbound packets: any holder of the port, or a pump with an admission,
which may be that of the port. -/
inductive PortReader where
  | plain
  | production (own : Bool)
  deriving DecidableEq

/-- The calls on a port. `touch` is whatever else happens to the admission under its own
mutex, and `otherPort` a delivery of another port. -/
inductive PortCall where
  | submit (input : List UInt8)
  | read (reader : PortReader) (capacity : ℕ)
  | write (input : List UInt8)
  | receive (capacity : ℕ)
  | acknowledge (token : UInt64) (completedBytes : Int) (writeErr : Bool)
  | close
  | touch (change : ProductionPacketAdmissionV1 → ProductionPacketAdmissionV1)
  | otherPort

/-- The points of a call: before its first turn, waiting, and returned. -/
inductive PortThread where
  | start (call : PortCall)
  | submitting (input : List UInt8)
  | reading (capacity : ℕ)
  | writing (input : List UInt8)
  | receiving (capacity : ℕ)
  | done

abbrev PortTurn := Turn PortState PortThread PortEvent

namespace PacketPortV1

variable (p : PacketPortV1)

/-- `beginV1`, without setting the flag. -/
def beginV1 (active : Bool) : Option PortError :=
  if p.closed then some .closedPipe else if active then some .busy else none

/-- `closeV1` of a port which may be closed already. -/
def closeV1 (failure : PortError) : PacketPortV1 :=
  if p.closed then p
  else
    { p with
      closed := true
      failure := failure
      production := p.production.map fun a => a.releaseV1 p.outFlow
      outFlow := if p.production.isSome then {} else p.outFlow
      outbound := []
      inbound := []
      outBytes := 0 }

/-! ### Outbound packets -/

/-- Copy a packet into the outbound slot, with its flow. -/
def enqueue (input : List UInt8) (ref : ProductionFlowRefV1) :
    PacketPortV1 :=
  { p with
    outbound := splice p.outbound 0 input
    outBytes := input.length
    outFlow := ref }

/-- The loop of `Submit`. -/
def submitLoop (flowOf : PacketFlow) (s : PortState) (ctx : Option ContextError)
    (input : List UInt8) : PortTurn :=
  let p := { s.port with submitting := false }
  if p.closed then
    ⟨{ s with port := p }, .done, [], [.submitted input (.error .closedPipe)]⟩
  else
    match ctx with
    | some err => ⟨{ s with port := p }, .done, [], [.submitted input (.error (.context err))]⟩
    | none =>
      if p.outBytes = 0 then
        match p.production with
        | none =>
          ⟨{ s with port := p.enqueue input p.outFlow }, .done, [],
            [.submitted input (.ok p.outFlow)]⟩
        | some a =>
          match a.reserveV1 flowOf input with
          | (a, .error err) =>
            ⟨{ s with port := { p with production := some a } }, .done, [],
              [.submitted input (.error err)]⟩
          | (a, .ok ref) =>
            ⟨{ s with port := { p with production := some a }.enqueue input ref },
              .done, [], [.submitted input (.ok ref)]⟩
      else ⟨{ s with port := { p with submitting := true } }, .submitting input, [], []⟩

def submit (flowOf : PacketFlow) (s : PortState) (ctx : Option ContextError)
    (input : List UInt8) : PortTurn :=
  match s.port.beginV1 s.port.submitting with
  | some err => ⟨s, .done, [], [.submitted input (.error err)]⟩
  | none =>
    if input = [] ∨ s.port.maximum < input.length then
      ⟨s, .done, [], [.submitted input (.error .packet)]⟩
    else submitLoop flowOf s ctx input

/-- The outbound slot after its packet left. -/
def dequeue : PacketPortV1 :=
  { p with
    outbound := splice p.outbound 0 (replicate p.outBytes 0)
    outBytes := 0
    outFlow := if p.production.isSome then {} else p.outFlow }

/-- The loop of `Read` and `readProductionV1`. -/
def readLoop (s : PortState) (capacity : ℕ) : PortTurn :=
  let p := { s.port with reading := false }
  if p.closed then ⟨{ s with port := p }, .done, [], [.read (.error .closedPipe)]⟩
  else if p.outBytes ≠ 0 then
    if capacity < p.outBytes then
      ⟨{ s with port := p }, .done, [], [.read (.error .shortBuffer)]⟩
    else
      ⟨{ s with port := p.dequeue }, .done, [],
        [.read (.ok (p.outbound.take p.outBytes, p.outFlow))]⟩
  else ⟨{ s with port := { p with reading := true } }, .reading capacity, [], []⟩

/-- `Read` is refused in production mode, and `readProductionV1` without the admission of
the port. -/
def admitsReader : PortReader → Bool
  | .plain => p.production.isNone
  | .production own => own && p.production.isSome

def read (s : PortState) (reader : PortReader) (capacity : ℕ) : PortTurn :=
  match s.port.beginV1 s.port.reading with
  | some err => ⟨s, .done, [], [.read (.error err)]⟩
  | none =>
    if s.port.admitsReader reader = false then
      ⟨s, .done, [], [.read (.error (.service .invalidRequest))]⟩
    else if capacity = 0 then ⟨s, .done, [], [.read (.error .shortBuffer)]⟩
    else readLoop s capacity

/-! ### Inbound packets -/

/-- The deferred end of `Write`. -/
def resetInbound : PacketPortV1 :=
  { p with
    inbound := replicate p.inbound.length 0
    inBytes := 0
    token := 0
    received := false
    acked := false
    writing := false }

variable (s : PortState)

/-- The loop of `Write`; `offered` is the event of the turn in which it starts. -/
def writeLoop (input : List UInt8) (offered : List PortEvent) : PortTurn :=
  if s.port.acked then
    ⟨{ s with port := s.port.resetInbound }, .done, [],
      offered ++ [.wrote input (.ok input.length)]⟩
  else if s.port.closed then
    ⟨{ s with port := s.port.resetInbound }, .done, [],
      offered ++ [.wrote input (.error s.port.failure)]⟩
  else ⟨{ s with port := { s.port with writing := true } }, .writing input, [], offered⟩

/-- Copy a packet into the inbound slot. -/
def offer (input : List UInt8) : PacketPortV1 :=
  { p with
    inbound := splice p.inbound 0 input
    inBytes := input.length }

def write (input : List UInt8) : PortTurn :=
  match s.port.beginV1 s.port.writing with
  | some err => ⟨s, .done, [], [.wrote input (.error err)]⟩
  | none =>
    if input = [] ∨ s.port.maximum < input.length then
      ⟨s, .done, [], [.wrote input (.error .packet)]⟩
    else writeLoop { s with port := s.port.offer input } input [.offered input]

/-- The largest token. -/
def lastToken : UInt64 := UInt64.ofNat (2 ^ 64 - 1)

/-- The loop of `Receive`. -/
def receiveLoop (s : PortState) (ctx : Option ContextError) (capacity : ℕ) : PortTurn :=
  let p := { s.port with receiving := false }
  if p.closed then ⟨{ s with port := p }, .done, [], [.received (.error .closedPipe)]⟩
  else
    match ctx with
    | some err => ⟨{ s with port := p }, .done, [], [.received (.error (.context err))]⟩
    | none =>
      if p.received then ⟨{ s with port := p }, .done, [], [.received (.error .busy)]⟩
      else if p.inBytes ≠ 0 then
        if capacity < p.inBytes then
          ⟨{ s with port := p }, .done, [], [.received (.error .shortBuffer)]⟩
        else if s.tokens = lastToken then
          ⟨{ s with port := p.closeV1 .tokenExhausted }, .done, [],
            [.closed, .received (.error .tokenExhausted)]⟩
        else
          ⟨⟨{ p with token := s.tokens + 1, received := true }, s.tokens + 1⟩, .done, [],
            [.received (.ok (s.tokens + 1, p.inbound.take p.inBytes))]⟩
      else ⟨{ s with port := { p with receiving := true } }, .receiving capacity, [], []⟩

def receive (ctx : Option ContextError) (capacity : ℕ) : PortTurn :=
  match s.port.beginV1 s.port.receiving with
  | some err => ⟨s, .done, [], [.received (.error err)]⟩
  | none =>
    if capacity = 0 then ⟨s, .done, [], [.received (.error .shortBuffer)]⟩
    else receiveLoop s ctx capacity

def acknowledge (s : PortState) (ctx : Option ContextError) (token : UInt64)
    (completedBytes : Int) (writeErr : Bool) : PortTurn :=
  let p := s.port
  let answer (p : PacketPortV1) (events : List PortEvent)
      (result : Except PortError Unit) : PortTurn :=
    ⟨{ s with port := p }, .done, [], events ++ [.acknowledged token completedBytes result]⟩
  if p.closed then answer p [] (.error .closedPipe)
  else if token = 0 ∨ token ≠ p.token ∨ p.received = false ∨ p.acked then
    answer p [] (.error .token)
  else
    match ctx with
    | some err => answer (p.closeV1 .closedPipe) [.closed] (.error (.context err))
    | none =>
      if writeErr ∨ completedBytes ≠ p.inBytes then
        answer (p.closeV1 .delivery) [.closed] (.error .delivery)
      else
        answer { p with
          inbound := splice p.inbound 0 (replicate p.inBytes 0)
          acked := true } [] (.ok ())

/-- `Close`, which reports the closing only the first time. -/
def close : PortTurn :=
  ⟨{ s with port := s.port.closeV1 .closedPipe }, .done, [],
    if s.port.closed then [] else [.closed]⟩

end PacketPortV1

/-- The turn of a call for the state of its context. -/
def portTurn (flowOf : PacketFlow) (s : PortState) (t : PortThread)
    (ctx : Option ContextError) : PortTurn :=
  match t with
  | .start (.submit input) => PacketPortV1.submit flowOf s ctx input
  | .start (.read reader capacity) => PacketPortV1.read s reader capacity
  | .start (.write input) => PacketPortV1.write s input
  | .start (.receive capacity) => PacketPortV1.receive s ctx capacity
  | .start (.acknowledge token completedBytes writeErr) =>
    PacketPortV1.acknowledge s ctx token completedBytes writeErr
  | .start .close => PacketPortV1.close s
  | .start (.touch change) =>
    ⟨{ s with port := { s.port with production := s.port.production.map change } }, .done, [], []⟩
  | .start .otherPort =>
    ⟨if s.tokens = PacketPortV1.lastToken then s else { s with tokens := s.tokens + 1 },
      .done, [], []⟩
  | .submitting input => PacketPortV1.submitLoop flowOf s ctx input
  | .reading capacity => PacketPortV1.readLoop s capacity
  | .writing input => PacketPortV1.writeLoop s input []
  | .receiving capacity => PacketPortV1.receiveLoop s ctx capacity
  | .done => ⟨s, .done, [], []⟩

/-- A port with its callers. -/
def portSystem (flowOf : PacketFlow) :
    System PortState PortThread PortCall (Option ContextError) PortEvent where
  entry := .start
  turn := portTurn flowOf

end Kurdistan.Runtime
