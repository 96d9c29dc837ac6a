import Mathlib.Data.List.Basic

/-!
# Disks which can crash

The bytes of a file are durable after the file was synced: a crash may leave any others. Changes
of the directory are durable after the directory was synced: a crash may bring back every
directory which there was since then. A step of a program works, fails, or the machine crashes
in it.
-/

namespace Kurdistan.Support

variable {ν ε : Type}

structure File where
  content : List UInt8
  synced : Bool := false

/-- The files of a directory. -/
abbrev Directory (ν : Type) := ν → Option File

/-- What a crash may leave of a file: the bytes of one which was not synced are lost. -/
def Leaves (file after : Option File) : Prop :=
  after = file ∨ after.isSome ∧ ∃ content, file = some ⟨content, false⟩

theorem leaves_refl (file : Option File) : Leaves file file := .inl rfl

@[simp] theorem leaves_synced {content : List UInt8} {after : Option File} :
    Leaves (some ⟨content, true⟩) after ↔ after = some ⟨content, true⟩ := by
  simp [Leaves]

/-- A directory, and those which a crash may bring back. -/
structure Disk (ν : Type) where
  current : Directory ν
  earlier : List (Directory ν) := []

namespace Disk

def change (effect : Directory ν → Directory ν) (disk : Disk ν) : Disk ν where
  current := effect disk.current
  earlier := disk.current :: disk.earlier

def sync (disk : Disk ν) : Disk ν := { current := disk.current }

/-- Whatever a crash leaves under a name has a property. -/
def Durably (disk : Disk ν) (name : ν) (P : Option File → Prop) : Prop :=
  ∀ dir ∈ disk.current :: disk.earlier, ∀ after, Leaves (dir name) after → P after

variable {disk : Disk ν} {name : ν} {P Q : Option File → Prop}

theorem durably_change {effect : Directory ν → Directory ν} :
    (disk.change effect).Durably name P ↔
      (∀ after, Leaves (effect disk.current name) after → P after) ∧ disk.Durably name P := by
  simp [Durably, change]

theorem Durably.mono (h : disk.Durably name P) (hPQ : ∀ file, P file → Q file) :
    disk.Durably name Q :=
  fun dir hdir after hafter => hPQ after (h dir hdir after hafter)

theorem Durably.current (h : disk.Durably name P) : P (disk.current name) :=
  h disk.current List.mem_cons_self _ (leaves_refl _)

end Disk

inductive Fault where
  | works
  | fails
  | crashes
  deriving DecidableEq

/-- How a program ends. -/
inductive Ending (ε : Type) where
  | done
  | failed (err : ε)
  | crashed
  deriving DecidableEq

abbrev Program (ν ε : Type) := Disk ν → Ending ε × Disk ν

/-- A step, and what follows if it works and if it fails. -/
def branch (fault : Fault) (effect : Disk ν → Disk ν) (next failed : Program ν ε) :
    Program ν ε := fun disk =>
  match fault with
  | .works => next (effect disk)
  | .fails => failed disk
  | .crashes => (.crashed, disk)

/-- A step whose failure ends the program. -/
def attempt (fault : Fault) (err : ε) (effect : Disk ν → Disk ν) (next : Program ν ε) :
    Program ν ε :=
  branch fault effect next (Prod.mk (.failed err))

/-- A step whose failure is ignored. -/
def ignoring (fault : Fault) (effect : Disk ν → Disk ν) (next : Program ν ε) : Program ν ε :=
  branch fault effect next next

/-- A last step after a program which does not crash. -/
def deferring (fault : Fault) (effect : Disk ν → Disk ν) (program : Program ν ε) :
    Program ν ε := fun disk =>
  match program disk with
  | (.crashed, after) => (.crashed, after)
  | (ending, after) => ignoring fault effect (Prod.mk ending) after

end Kurdistan.Support
