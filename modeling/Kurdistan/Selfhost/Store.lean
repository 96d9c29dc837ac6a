import Mathlib.Logic.Function.Basic
import Kurdistan.Support.Disk
import Kurdistan.Support.Outcome

/-!
# The state store of a deployment

The state is one file. A transaction loads it, and replaces it by a temporary file which was
written next to it. On Windows the old file is first moved away. The CBOR library, the
validation of a state and the changes of an action are parameters.
-/

namespace Kurdistan.Selfhost

open Support

inductive Platform where
  | windows
  | unix
  deriving DecidableEq

/-- The files of a deployment; `previous` is the backup of the state on Windows. -/
inductive StateFile where
  | state
  | previous
  | temporary
  | lock
  deriving DecidableEq

inductive StoreError where
  | invalidInput
  | busy
  | io
  | stateCorrupt
  | newerSchema
  | migration
  | capacityExhausted
  | clockUnhealthy
  | commitUncertain
  | refused
  deriving DecidableEq

def maxStateBytes : ℕ := 8 * 1024 * 1024
def maxAssignments : ℕ := 4096 * 8
def maxAuditEntries : ℕ := 4096 * 8

/-- The states of a deployment under its master key. The envelope of a state holds its encoding
and the MAC of it. `finish` is what every transaction adds to a state: the compaction, the clock,
the revision, the audit entry and the publication. -/
structure Format (σ : Type) where
  assignments : σ → ℕ
  audit : σ → ℕ
  lastObservedAt : σ → Int64
  validateState : σ → Except StoreError Unit
  finish : Int64 → σ → Except StoreError σ
  encodeEnvelope : σ → Except StoreError (List UInt8)
  decodeEnvelope : List UInt8 → Except StoreError σ

/-- What is encoded for a valid state is decoded as this state. -/
def Format.Lawful {σ : Type} (f : Format σ) : Prop :=
  ∀ state raw, f.validateState state = .ok () → f.encodeEnvelope state = .ok raw →
    raw.length ≤ maxStateBytes → raw ≠ [] ∧ f.decodeEnvelope raw = .ok state

/-- The steps which can fail. -/
inductive Phase where
  | lock
  | load
  | create
  | chmod
  | stat
  | ownership
  | write
  | sync
  | close
  | dropPrevious
  | statState
  | keepPrevious
  | rename
  | restorePrevious
  | dropBackup
  | openDirectory
  | syncDirectory
  | dropTemporary
  | unlock
  deriving DecidableEq

/-- What happens to every step. -/
abbrev Faults := Phase → Fault

section Files

def put (name : StateFile) (file : Option File) (dir : Directory StateFile) :
    Directory StateFile :=
  Function.update dir name file

def syncFile (name : StateFile) (dir : Directory StateFile) : Directory StateFile :=
  put name ((dir name).map fun file => { file with synced := true }) dir

/-- Moves a file, if there is one. -/
def rename (source target : StateFile) (dir : Directory StateFile) : Directory StateFile :=
  if (dir source).isSome then put source none (put target (dir source) dir) else dir

abbrev StoreProgram := Program StateFile StoreError

variable (faults : Faults)

/-- A step without an effect on the files. -/
def check (phase : Phase) (err : StoreError) (next : StoreProgram) : StoreProgram :=
  attempt (faults phase) err id next

def alter (phase : Phase) (effect : Directory StateFile → Directory StateFile)
    (next : StoreProgram) : StoreProgram :=
  attempt (faults phase) .io (Disk.change effect) next

def remove (phase : Phase) (name : StateFile) (next : StoreProgram) : StoreProgram :=
  ignoring (faults phase) (Disk.change (put name none)) next

/-- The rename into place on Windows; if it fails, the backup is brought back. -/
def installState : StoreProgram :=
  branch (faults .rename) (Disk.change (rename .temporary .state))
    (remove faults .dropBackup .previous <| check faults .openDirectory .commitUncertain <|
      Prod.mk .done)
    (ignoring (faults .restorePrevious) (Disk.change (rename .previous .state)) <|
      Prod.mk (.failed .io))

/-- The last part of `saveState`, which puts the temporary file in place. -/
def replaceState : Platform → StoreProgram
  | .windows => remove faults .dropPrevious .previous <|
    branch (faults .statState) id
      (alter faults .keepPrevious (rename .state .previous) (installState faults))
      (installState faults)
  | .unix => alter faults .rename (rename .temporary .state) <|
    check faults .openDirectory .commitUncertain <|
    attempt (faults .syncDirectory) .commitUncertain Disk.sync <| Prod.mk .done

/-- Creates a file for the time of a program. -/
def holding (creation removal : Phase) (name : StateFile) (program : StoreProgram) :
    StoreProgram :=
  alter faults creation (put name (some { content := [] })) <|
    deferring (faults removal) (Disk.change (put name none)) program

def writeState (platform : Platform) (raw : List UInt8) : StoreProgram :=
  holding faults .create .dropTemporary .temporary <|
    check faults .chmod .io <| check faults .stat .io <| check faults .ownership .io <|
    attempt (faults .write) .io (Disk.change (put .temporary (some { content := raw }))) <|
    alter faults .sync (syncFile .temporary) <| check faults .close .io <|
    replaceState faults platform

end Files

def validateClockTransition (previous current : Int64) : Except StoreError Unit :=
  ensure (0 < previous ∧ 0 < current ∧ previous - 5 * 60 ≤ current ∧
    current ≤ previous + 90 * 24 * 60 * 60) .clockUnhealthy

/-- The arguments of `withStateTransactionClock`. The update of an action may leave the state as
it is. -/
structure Action (σ : Type) where
  now : Int64
  allowClockRepair : Bool
  update : σ → Except StoreError (Option σ)

namespace Format

variable {σ : Type} (f : Format σ)

def decodeStateFile (raw : List UInt8) : Except StoreError σ := do
  let state ← f.decodeEnvelope raw
  (f.validateState state).mapError fun _ => .stateCorrupt
  return state

/-- `loadState` with the master key, from the state file. -/
def loadState (file : Option File) : Except StoreError σ := do
  let file ← file.elim (.error .stateCorrupt) .ok
  ensure (file.content ≠ [] ∧ file.content.length ≤ maxStateBytes) .stateCorrupt
  f.decodeStateFile file.content

/-- The checks and the encoding at the start of `saveState`. -/
def encodeStateFile (state : σ) : Except StoreError (List UInt8) := do
  ensure (f.assignments state ≤ maxAssignments ∧ f.audit state ≤ maxAuditEntries) .capacityExhausted
  f.validateState state
  let raw ← f.encodeEnvelope state
  ensure (raw.length ≤ maxStateBytes) .capacityExhausted
  return raw

variable (platform : Platform) (faults : Faults)

/-- `saveStateWithHooks` without hooks. -/
def saveState (state : σ) : StoreProgram :=
  match f.encodeStateFile state with
  | .error err => Prod.mk (.failed err)
  | .ok raw => writeState faults platform raw

/-- The state which a transaction saves. -/
def nextState (action : Action σ) (state : σ) : Except StoreError (Option σ) := do
  if action.allowClockRepair then .ok ()
    else validateClockTransition (f.lastObservedAt state) action.now
  match ← action.update state with
  | none => return none
  | some changed => return some (← f.finish action.now changed)

def withStateTransactionClock (action : Action σ) : StoreProgram := fun disk =>
  if action.now ≤ 0 then (.failed .invalidInput, disk)
  else if (disk.current .lock).isSome then (.failed .busy, disk)
  else disk |> (holding faults .lock .unlock .lock <| check faults .load .stateCorrupt fun disk =>
    match f.loadState (disk.current .state) >>= f.nextState action with
    | .error err => (.failed err, disk)
    | .ok none => (.done, disk)
    | .ok (some state) => f.saveState platform faults state disk)

end Format

end Kurdistan.Selfhost
