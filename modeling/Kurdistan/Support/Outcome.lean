import Mathlib.Data.List.Basic

/-!
# Fallible computations

Go functions which return an error are `Except` computations here. `ensure`
is the early return `if !condition { return err }`, and `ensureAll` is the same
check inside a `for` loop. Each has one lemma saying when it succeeds; callers
peel a successful computation apart with `bind_ok_iff`.
-/

namespace Kurdistan.Support

variable {ε α β : Type}

/-- Continue when `condition` holds and return `err` otherwise. -/
def ensure (condition : Prop) [Decidable condition] (err : ε) : Except ε Unit :=
  if condition then .ok () else .error err

variable {condition : Prop} {err : ε}

@[simp] theorem ensure_eq_ok [Decidable condition] : ensure condition err = .ok () ↔ condition := by
  by_cases h : condition <;> simp [ensure]

/-- `ensure_eq_ok` after `bind_ok_iff`, which names the result of the check. -/
theorem ensure_ok_iff [Decidable condition] {value : Unit} :
    ensure condition err = .ok value ↔ condition := ensure_eq_ok

theorem ensure_of_pos [Decidable condition] (h : condition) : ensure condition err = .ok () :=
  ensure_eq_ok.mpr h

@[simp] theorem ensure_true : ensure True err = .ok () :=
  ensure_of_pos trivial

theorem ensure_of_neg [Decidable condition] (h : ¬ condition) :
    ensure condition err = .error err := by
  simp [ensure, h]

/-- Perform a check only when `flag` is set. -/
def whenever (flag : Bool) (check : Except ε Unit) : Except ε Unit :=
  if flag then check else .ok ()

@[simp] theorem whenever_eq_ok {flag : Bool} {check : Except ε Unit} :
    whenever flag check = .ok () ↔ (flag = true → check = .ok ()) := by
  cases flag <;> simp [whenever]

/-- Check every element in order and return the first error. -/
def ensureAll (check : α → Except ε Unit) : List α → Except ε Unit
  | [] => .ok ()
  | x :: xs => do
    check x
    ensureAll check xs

/-- A successful sequence of computations consists of successful parts. -/
theorem bind_ok_iff {first : Except ε α} {rest : α → Except ε β} {result : β} :
    first >>= rest = .ok result ↔ ∃ value, first = .ok value ∧ rest value = .ok result := by
  rcases first with err | value <;> simp [bind, Except.bind]

/-- `bind_ok_iff` for a check, whose result carries no data. -/
theorem check_ok_iff {check : Except ε Unit} {rest : Unit → Except ε β} {result : β} :
    check >>= rest = .ok result ↔ check = .ok () ∧ rest () = .ok result := by
  rcases check with err | ⟨⟩ <;> simp [bind, Except.bind]

@[simp] theorem ok_bind (value : α) (rest : α → Except ε β) :
    Except.ok value >>= rest = rest value := rfl

@[simp] theorem error_bind (err : ε) (rest : α → Except ε β) :
    (Except.error err : Except ε α) >>= rest = .error err := rfl

theorem exists_ok_of_isSome (result : Except ε α)
    (h : result.toOption.isSome = true) : ∃ value, result = .ok value := by
  cases result with
  | error err => cases h
  | ok value => exact ⟨value, rfl⟩

theorem ensureAll_eq_ok {check : α → Except ε Unit} {xs : List α} :
    ensureAll check xs = .ok () ↔ ∀ x ∈ xs, check x = .ok () := by
  induction xs with
  | nil => simp [ensureAll]
  | cons x xs ih => simp [ensureAll, check_ok_iff, ih]

end Kurdistan.Support
