import Kurdistan.Support.Outcome

/-!
# Writing into a caller's buffer

Encoders fill a destination slice from left to right. A `Cursor` is the
destination together with the position reached. Two writes are distinguished,
as in Go: `put` (an index assignment or a fixed-width store) fails outside the
slice, while `copy` stops silently at its end.

`Emits write bytes` says that a writer appends exactly `bytes` wherever there is
room for them. It composes along sequences and loops, so the contents written
by an encoder are read off from the contents written by its parts.
-/

namespace Kurdistan.Support

open List

variable {ε α : Type}

/-- Replace the bytes of `buffer` from `pos` on by `src`. -/
def splice (buffer : List UInt8) (pos : ℕ) (src : List UInt8) : List UInt8 :=
  buffer.take pos ++ src ++ buffer.drop (pos + src.length)

theorem splice_append {done rest src : List UInt8} :
    splice (done ++ rest) done.length src = done ++ src ++ rest.drop src.length := by
  simp [splice]

/-- A destination slice and the position of the next write. -/
structure Cursor where
  buffer : List UInt8
  pos : ℕ

/-- A writer advances the cursor or fails. -/
abbrev Write (ε : Type) := Cursor → Except ε Cursor

variable (outOfRange : ε)

/-- Store `src` at the cursor; all of it has to fit. -/
def put (src : List UInt8) : Write ε := fun c =>
  if c.buffer.length < c.pos + src.length then .error outOfRange
  else .ok ⟨splice c.buffer c.pos src, c.pos + src.length⟩

/-- `pos += copy(dst[pos:], src)`: what does not fit is dropped. -/
def copy (src : List UInt8) : Write ε := fun c =>
  if c.buffer.length < c.pos then .error outOfRange
  else
    let copied := src.take (c.buffer.length - c.pos)
    .ok ⟨splice c.buffer c.pos copied, c.pos + copied.length⟩

/-- Run a writer for every element of a list, in order. -/
def writeAll (write : α → Write ε) : List α → Write ε
  | [], c => .ok c
  | x :: xs, c => write x c >>= writeAll write xs

/-- The writer appends `bytes` whenever they fit behind what was written. -/
def Emits (write : Write ε) (bytes : List UInt8) : Prop :=
  ∀ done rest : List UInt8, bytes.length ≤ rest.length →
    write ⟨done ++ rest, done.length⟩ =
      .ok ⟨done ++ bytes ++ rest.drop bytes.length, (done ++ bytes).length⟩

theorem emits_pure : Emits (fun c => .ok c : Write ε) [] := by
  intro done rest _
  simp

theorem emits_put (src : List UInt8) : Emits (put outOfRange src) src := by
  intro done rest hroom
  have hfits : ¬ (done ++ rest).length < done.length + src.length := by
    simp only [length_append]
    omega
  rw [put, if_neg hfits, splice_append, length_append]

theorem emits_copy (src : List UInt8) : Emits (copy outOfRange src) src := by
  intro done rest hroom
  have hinside : ¬ (done ++ rest).length < done.length := by simp
  have hall : src.take ((done ++ rest).length - done.length) = src := by
    rw [take_of_length_le]
    simpa using hroom
  simp only [copy]
  rw [if_neg hinside, hall, splice_append, length_append]

/-- Consecutive writers append the concatenation. -/
theorem Emits.bind {first second : Write ε} {left right : List UInt8}
    (hfirst : Emits first left) (hsecond : Emits second right) :
    Emits (fun c => first c >>= second) (left ++ right) := by
  intro done rest hroom
  rw [length_append] at hroom
  have hleft : left.length ≤ rest.length := by omega
  have hright : right.length ≤ (rest.drop left.length).length := by
    rw [length_drop]
    omega
  show first ⟨done ++ rest, done.length⟩ >>= second = _
  rw [hfirst done rest hleft, ok_bind, hsecond (done ++ left) _ hright, drop_drop]
  simp only [append_assoc, length_append]

/-- A loop of writers appends the parts in order. -/
theorem emits_writeAll {write : α → Write ε} {bytes : α → List UInt8} {xs : List α}
    (h : ∀ x ∈ xs, Emits (write x) (bytes x)) : Emits (writeAll write xs) (xs.flatMap bytes) := by
  induction xs with
  | nil => exact emits_pure
  | cons x xs ih =>
    have hhead : Emits (write x) (bytes x) := h x mem_cons_self
    have htail : Emits (writeAll write xs) (xs.flatMap bytes) :=
      ih fun y hy => h y (mem_cons_of_mem x hy)
    exact hhead.bind htail

/-- Filling a destination of exactly the right size leaves nothing else in it. -/
theorem Emits.fill {write : Write ε} {bytes dst : List UInt8} (h : Emits write bytes)
    (hlength : dst.length = bytes.length) : write ⟨dst, 0⟩ = .ok ⟨bytes, bytes.length⟩ := by
  have hrun := h [] dst (Nat.le_of_eq hlength.symm)
  rw [drop_of_length_le (Nat.le_of_eq hlength)] at hrun
  simpa using hrun

end Kurdistan.Support
