import Kurdistan.Runtime.ServiceRecord
import Kurdistan.Support.ProbeTable

/-!
# The production flow table

The table of the flows whose packets a client may send. Entries live in one array, split
between TCP and UDP; each class has a stack of free entries. An index of twice the size,
addressed by a hash of the flow key, finds the entry of a key by linear probing.

Times are instants of the trusted clock, with zero for the zero time. The methods hold
the mutex of the table from start to end.
-/

namespace Kurdistan.Runtime

open Support

/-- An instant, in nanoseconds; zero is the zero time. -/
abbrev Time := Int

structure ProductionFlowKeyV1 where
  source : FixedBytes 16
  destination : FixedBytes 16
  sourcePort : UInt16
  destinationPort : UInt16
  family : UInt8
  protocol : UInt8
  deriving DecidableEq

instance : Inhabited ProductionFlowKeyV1 := ⟨⟨fixedBytes 16 [], fixedBytes 16 [], 0, 0, 0, 0⟩⟩

/-- A reference to an entry. The index is one based; zero means no lease. -/
structure ProductionFlowRefV1 where
  generation : UInt64 := 0
  index : UInt16 := 0
  deriving DecidableEq

/-- An entry; the generation of a free entry is zero. -/
structure ProductionFlowEntryV1 where
  key : ProductionFlowKeyV1 := default
  activity : Time := 0
  generation : UInt64 := 0
  references : UInt32 := 0
  accepted : Bool := false

structure ProductionFlowTableV1 where
  entries : List ProductionFlowEntryV1
  index : List UInt16
  free : List UInt16
  idle : Int
  nextGeneration : UInt64
  tcpCapacity : UInt16
  tcpFree : UInt16
  udpFree : UInt16
  destroyed : Bool

/-- The errors of the table. -/
inductive FlowError where
  | service (result : ServiceResultV1)
  | packetInvalid
  deriving DecidableEq

/-! ## Construction -/

/-- `unsafe.Sizeof` of the table and of an entry on 64-bit targets. -/
def flowTableBytes : ℕ := 104

def flowEntryBytes : ℕ := 80

/-- `for index < limit { index *= 2 }`, which takes fewer rounds than the limit. -/
def doubleUntil (limit : ℕ) : ℕ → ℕ → ℕ
  | 0, index => index
  | fuel + 1, index => if index < limit then doubleUntil limit fuel (index * 2) else index

/-- The bytes a table owns and the length of its index. -/
def productionFlowStorageV1 (tcp udp : UInt16) : Except FlowError (ℕ × ℕ) := do
  ensure (tcp ≤ 4096 ∧ udp ≤ 2048 ∧ tcp.toNat + udp.toNat ≠ 0) (.service .invalidRequest)
  let n := tcp.toNat + udp.toNat
  let index := doubleUntil (2 * n) (2 * n) 1
  let owned := flowTableBytes + n * flowEntryBytes + (index + n) * 2
  ensure (index ≤ 16384 ∧ owned ≤ 1048576) (.service .resourceLimit)
  .ok (owned, index)

/-- An hour, the longest idle time. -/
def maxFlowIdle : Int := 3600000000000

def newProductionFlowTableV1 (tcp udp : UInt16) (idle : Int) :
    Except FlowError ProductionFlowTableV1 := do
  let storage ← productionFlowStorageV1 tcp udp
  ensure (0 < idle ∧ idle ≤ maxFlowIdle) (.service .invalidRequest)
  let n := tcp.toNat + udp.toNat
  .ok {
    entries := List.replicate n {}
    index := List.replicate storage.2 0
    free := (List.range n).map UInt16.ofNat
    idle := idle
    nextGeneration := 0
    tcpCapacity := tcp
    tcpFree := tcp
    udpFree := udp
    destroyed := false }

/-! ## The index -/

/-- The bytes of a key which are hashed, in order. -/
def ProductionFlowKeyV1.bytes (k : ProductionFlowKeyV1) : List UInt8 :=
  k.source.toList ++ k.destination.toList ++ putUint16 k.sourcePort ++
    putUint16 k.destinationPort ++ [k.family, k.protocol]

def flowHashV1 (k : ProductionFlowKeyV1) : UInt64 :=
  k.bytes.foldl (fun h b => (h ^^^ b.toUInt64) * 1099511628211) 14695981039346656037

/-- `^uint16(0)`, the mark of a removed entry. -/
def flowTombstone : UInt16 := 65535

/-- What a word of the index says about its cell. -/
def flowCell (word : UInt16) : Cell ℕ :=
  if word = 0 then .empty else if word = flowTombstone then .deleted
  else .used (word.toNat - 1)

namespace ProductionFlowTableV1

variable (f : ProductionFlowTableV1)

def entry (i : ℕ) : ProductionFlowEntryV1 := f.entries.getD i {}

def cells (cell : ℕ) : Cell ℕ := flowCell (f.index.getD cell 0)

/-- The cells in which a key is looked for, in order. -/
def path (k : ProductionFlowKeyV1) (n : ℕ) : ℕ :=
  let mask := f.index.length - 1
  ((flowHashV1 k &&& UInt64.ofNat mask).toNat + n) &&& mask

/-- `findLockedV1`: the entry of a key and its cell, or a cell for an insertion. -/
def findLockedV1 (k : ProductionFlowKeyV1) : Option ℕ × Option ℕ :=
  probe (f.path k) f.cells (fun i => (f.entry i).key) k f.index.length 0 none

/-! ## Removal -/

/-- Push an entry on the stack of its class. -/
def pushFree (i : ℕ) : ProductionFlowTableV1 :=
  if i < f.tcpCapacity.toNat then
    { f with
      free := f.free.set f.tcpFree.toNat (UInt16.ofNat i)
      tcpFree := f.tcpFree + 1 }
  else
    { f with
      free := f.free.set (f.tcpCapacity.toNat + f.udpFree.toNat) (UInt16.ofNat i)
      udpFree := f.udpFree + 1 }

def removeLockedV1 (i : ℕ) : ProductionFlowTableV1 :=
  let marked :=
    match (f.findLockedV1 (f.entry i).key).2 with
    | none => f
    | some cell => { f with index := f.index.set cell flowTombstone }
  let freed := marked.pushFree i
  { freed with entries := freed.entries.set i {} }

/-- The condition of `expireLockedV1` on one entry. -/
def expired (now : Time) (i : ℕ) : Bool :=
  let e := f.entry i
  e.generation ≠ 0 ∧ e.references = 0 ∧ (e.accepted = false ∨ e.activity + f.idle ≤ now)

def expireEntry (now : Time) (f : ProductionFlowTableV1) (i : ℕ) : ProductionFlowTableV1 :=
  if f.expired now i then f.removeLockedV1 i else f

def expireLockedV1 (now : Time) : ProductionFlowTableV1 :=
  (List.range f.entries.length).foldl (expireEntry now) f

/-! ## Methods -/

/-- Pop a free entry of a class. -/
def popFree (tcp : Bool) : Option (ProductionFlowTableV1 × ℕ) :=
  if tcp then
    if f.tcpFree = 0 then none
    else
      some ({ f with tcpFree := f.tcpFree - 1 }, (f.free.getD (f.tcpFree - 1).toNat 0).toNat)
  else
    if f.udpFree = 0 then none
    else
      some ({ f with udpFree := f.udpFree - 1 },
        (f.free.getD (f.tcpCapacity.toNat + (f.udpFree - 1).toNat) 0).toNat)

/-- Put a fresh entry for a key into the index. -/
def insertLockedV1 (k : ProductionFlowKeyV1) (cell : Option ℕ) :
    Except FlowError (ProductionFlowTableV1 × ℕ) :=
  match cell with
  | none => .error (.service .resourceLimit)
  | some cell =>
    if f.nextGeneration = UInt64.ofNat (2 ^ 64 - 1) then .error (.service .resourceLimit)
    else
      match f.popFree (k.protocol = 6) with
      | none => .error (.service .resourceLimit)
      | some (f, i) =>
        .ok ({ f with
            nextGeneration := f.nextGeneration + 1
            entries := f.entries.set i
              { key := k, generation := f.nextGeneration + 1 }
            index := f.index.set cell (UInt16.ofNat (i + 1)) }, i)

/-- Count one more holder of an entry. -/
def retain (i : ℕ) :
    ProductionFlowTableV1 × Except FlowError ProductionFlowRefV1 :=
  let e := f.entry i
  if e.references = UInt32.ofNat (2 ^ 32 - 1) then (f, .error (.service .resourceLimit))
  else
    ({ f with entries := f.entries.set i { e with references := e.references + 1 } },
      .ok ⟨e.generation, UInt16.ofNat (i + 1)⟩)

def reserveV1 (k : ProductionFlowKeyV1) (now : Time) :
    ProductionFlowTableV1 × Except FlowError ProductionFlowRefV1 :=
  if f.destroyed then (f, .error (.service .invalidRequest))
  else if now = 0 ∨ (k.family ≠ 4 ∧ k.family ≠ 6) ∨ (k.protocol ≠ 6 ∧ k.protocol ≠ 17) then
    (f, .error .packetInvalid)
  else
    let f := f.expireLockedV1 now
    match f.findLockedV1 k with
    | (some i, _) => f.retain i
    | (none, cell) =>
      match f.insertLockedV1 k cell with
      | .error err => (f, .error err)
      | .ok (f, i) => f.retain i

/-- The entry a reference leads to, if it is still that of the same generation. -/
def entryLockedV1 (r : ProductionFlowRefV1) : Option ℕ :=
  if f.destroyed ∨ r.index = 0 ∨ f.entries.length < r.index.toNat ∨ r.generation = 0 then none
  else if (f.entry (r.index.toNat - 1)).generation ≠ r.generation then none
  else some (r.index.toNat - 1)

def acceptV1 (r : ProductionFlowRefV1) (now : Time) :
    ProductionFlowTableV1 :=
  match f.entryLockedV1 r with
  | none => f
  | some i =>
    let e := f.entry i
    if 0 < e.references ∧ now ≠ 0 then
      let e := { e with accepted := true, activity := max e.activity now }
      { f with entries := f.entries.set i e }
    else f

def releaseV1 (r : ProductionFlowRefV1) : ProductionFlowTableV1 :=
  match f.entryLockedV1 r with
  | none => f
  | some i =>
    let e := f.entry i
    if 0 < e.references then
      let released := { f with
        entries := f.entries.set i { e with references := e.references - 1 } }
      if e.references - 1 = 0 ∧ e.accepted = false then released.removeLockedV1 i
      else released
    else f

def lookupV1 (k : ProductionFlowKeyV1) (now : Time) :
    ProductionFlowTableV1 × ProductionFlowRefV1 :=
  if f.destroyed then (f, {})
  else
    let f := f.expireLockedV1 now
    match (f.findLockedV1 k).1 with
    | none => (f, {})
    | some i =>
      if (f.entry i).accepted then (f, ⟨(f.entry i).generation, UInt16.ofNat (i + 1)⟩)
      else (f, {})

def refreshV1 (r : ProductionFlowRefV1) (now : Time) :
    ProductionFlowTableV1 :=
  match f.entryLockedV1 r with
  | none => f
  | some i =>
    let e := f.entry i
    if e.accepted ∧ (0 < e.references ∨ now < e.activity + f.idle) ∧ e.activity < now then
      { f with entries := f.entries.set i { e with activity := now } }
    else f

end ProductionFlowTableV1

/-- The methods of a table, and its expiry on its own. References are answered by
`reserve` and `lookup`. -/
inductive FlowCall where
  | reserve (k : ProductionFlowKeyV1) (now : Time)
  | accept (r : ProductionFlowRefV1) (now : Time)
  | release (r : ProductionFlowRefV1)
  | lookup (k : ProductionFlowKeyV1) (now : Time)
  | refresh (r : ProductionFlowRefV1) (now : Time)
  | expire (now : Time)

def ProductionFlowTableV1.step (f : ProductionFlowTableV1) :
    FlowCall → ProductionFlowTableV1 × Except FlowError ProductionFlowRefV1
  | .reserve k now => f.reserveV1 k now
  | .accept r now => (f.acceptV1 r now, .ok {})
  | .release r => (f.releaseV1 r, .ok {})
  | .lookup k now => ((f.lookupV1 k now).1, .ok (f.lookupV1 k now).2)
  | .refresh r now => (f.refreshV1 r now, .ok {})
  | .expire now => (f.expireLockedV1 now, .ok {})

end Kurdistan.Runtime
