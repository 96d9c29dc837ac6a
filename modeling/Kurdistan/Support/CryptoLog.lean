import Mathlib.Data.List.Basic

/-!
# Runs under ideal hashing and signing

The parties of a protocol hash byte strings, release signatures and accept
signatures. A log records these events, newest first. The usual idealisations
are properties of the log of one run:

* `CollisionFree`: no two different inputs hashed in the run have one digest;
* `Unforgeable`: a signature accepted under a key was released before, by a
  party which signs under this key, and for the same digest.
-/

namespace Kurdistan.Support

open List

/-- What a party did with the hash function and the signature scheme. -/
inductive CryptoEvent (ι κ δ σ : Type) where
  | hashed (input : ι)
  | released (key : κ) (digest : δ) (signature : σ)
  | accepted (key : κ) (digest : δ) (signature : σ)
  deriving DecidableEq

namespace CryptoEvent

variable {ι κ δ σ : Type}

/-- The hash input of an event, if it has one. -/
def input? : CryptoEvent ι κ δ σ → Option ι
  | hashed input => some input
  | _ => none

/-- The inputs hashed along a log. -/
def inputs (log : List (CryptoEvent ι κ δ σ)) : List ι := log.filterMap input?

variable {log : List (CryptoEvent ι κ δ σ)}

theorem mem_inputs {input : ι} : input ∈ inputs log ↔ hashed input ∈ log := by
  rw [inputs, mem_filterMap]
  constructor
  · rintro ⟨event, hevent, hinput⟩
    cases event with
    | hashed other =>
      rw [input?, Option.some.injEq] at hinput
      exact hinput ▸ hevent
    | released key digest signature => cases hinput
    | accepted key digest signature => cases hinput
  · intro h
    exact ⟨hashed input, h, rfl⟩

/-- Different inputs of the run have different digests. -/
def CollisionFree (hash : ι → δ) (log : List (CryptoEvent ι κ δ σ)) : Prop :=
  ∀ x ∈ inputs log, ∀ y ∈ inputs log, hash x = hash y → x = y

theorem CollisionFree.eq {hash : ι → δ} (h : CollisionFree hash log) {x y : ι} (hx : hashed x ∈ log)
    (hy : hashed y ∈ log) (hdigest : hash x = hash y) : x = y :=
  h x (mem_inputs.mpr hx) y (mem_inputs.mpr hy) hdigest

/-- Accepted signatures were released earlier, under the same key and for the
same digest. -/
def Unforgeable : List (CryptoEvent ι κ δ σ) → Prop
  | [] => True
  | hashed _ :: log => Unforgeable log
  | released _ _ _ :: log => Unforgeable log
  | accepted key digest signature :: log =>
    released key digest signature ∈ log ∧ Unforgeable log

theorem Unforgeable.released_of_accepted (h : Unforgeable log) {key : κ} {digest : δ}
    {signature : σ} (hmem : accepted key digest signature ∈ log) :
    released key digest signature ∈ log := by
  induction log with
  | nil => cases hmem
  | cons event log ih =>
    apply mem_cons_of_mem
    cases event with
    | hashed input =>
      rcases mem_cons.mp hmem with hhead | htail
      · cases hhead
      · exact ih h htail
    | released otherKey otherDigest otherSignature =>
      rcases mem_cons.mp hmem with hhead | htail
      · cases hhead
      · exact ih h htail
    | accepted otherKey otherDigest otherSignature =>
      rcases mem_cons.mp hmem with hhead | htail
      · cases hhead
        exact h.1
      · exact ih h.2 htail

theorem Unforgeable.of_append {events : List (CryptoEvent ι κ δ σ)}
    (h : Unforgeable (events ++ log)) : Unforgeable log := by
  induction events with
  | nil => exact h
  | cons event events ih =>
    cases event with
    | hashed input => exact ih h
    | released key digest signature => exact ih h
    | accepted key digest signature => exact ih h.2

section Decidable

variable [DecidableEq ι] [DecidableEq κ] [DecidableEq δ] [DecidableEq σ]

instance (hash : ι → δ) (log : List (CryptoEvent ι κ δ σ)) : Decidable (CollisionFree hash log) :=
  inferInstanceAs (Decidable (∀ x ∈ inputs log, ∀ y ∈ inputs log, hash x = hash y → x = y))

instance decidableUnforgeable : (log : List (CryptoEvent ι κ δ σ)) → Decidable (Unforgeable log)
  | [] => isTrue trivial
  | hashed _ :: log => decidableUnforgeable log
  | released _ _ _ :: log => decidableUnforgeable log
  | accepted key digest signature :: log =>
    have := decidableUnforgeable log
    inferInstanceAs (Decidable (released key digest signature ∈ log ∧ Unforgeable log))

end Decidable

end CryptoEvent

end Kurdistan.Support
