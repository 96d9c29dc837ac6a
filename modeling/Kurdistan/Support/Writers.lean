import Kurdistan.Support.Framed

/-!
# Writers which can be told apart

A digest commits to the values which its input determines. A writer separates its values if
what it writes and what follows can be recovered from the two together, so that the fields of
an input are recovered one after the other.
-/

namespace Kurdistan.Support

open List

variable {α β : Type} {write : α → List UInt8} {admits : α → Prop}

/-- What the writer writes and what follows it can be told apart. -/
def Separates (write : α → List UInt8) (admits : α → Prop) : Prop :=
  ∀ ⦃left right⦄, admits left → admits right → ∀ ⦃leftRest rightRest⦄,
    write left ++ leftRest = write right ++ rightRest → left = right ∧ leftRest = rightRest

theorem separates_lengthPrefixed : Separates lengthPrefixed fun value => value.length < 2 ^ 32 :=
  fun _ _ hleft hright _ _ => lengthPrefixed_append_inj hleft hright

theorem separates_of_length {n : ℕ} (hlength : ∀ value, (write value).length = n)
    (hinj : Function.Injective write) : Separates write fun _ => True := by
  intro left right _ _ leftRest rightRest h
  obtain ⟨hvalue, hrest⟩ := append_inj h ((hlength left).trans (hlength right).symm)
  exact ⟨hinj hvalue, hrest⟩

theorem separates_fixedBytes (n : ℕ) :
    Separates (fun value : FixedBytes n => value.toList) fun _ => True :=
  separates_of_length (fun value => value.toList_length) List.Vector.toList_injective

theorem separates_putUint16 : Separates putUint16 fun _ => True :=
  separates_of_length length_putUint16 putUint16_injective

theorem separates_putUint32 : Separates putUint32 fun _ => True :=
  separates_of_length length_putUint32 putUint32_injective

theorem separates_putUint64 : Separates putUint64 fun _ => True :=
  separates_of_length length_putUint64 putUint64_injective

/-- A writer of a part which determines the whole. -/
theorem Separates.comap {part : β → α} {holds : β → Prop} (h : Separates write admits)
    (hadmits : ∀ ⦃value⦄, holds value → admits (part value))
    (hpart : ∀ ⦃left right⦄, holds left → holds right → part left = part right → left = right) :
    Separates (fun value => write (part value)) holds := by
  intro left right hleft hright leftRest rightRest heq
  obtain ⟨hvalue, hrest⟩ := h (hadmits hleft) (hadmits hright) heq
  exact ⟨hpart hleft hright hvalue, hrest⟩

theorem Separates.count :
    Separates (fun value : ℕ => putUint64 (UInt64.ofNat value)) fun value => value < 2 ^ 64 := by
  refine separates_putUint64.comap (fun _ _ => trivial) fun left right hleft hright h => ?_
  have hvalue := congrArg UInt64.toNat h
  rwa [UInt64.toNat_ofNat_of_lt' hleft, UInt64.toNat_ofNat_of_lt' hright] at hvalue

/-- Equally many values and what follows them can be told apart. -/
theorem Separates.flatMap (h : Separates write admits) {left right : List α}
    (hleft : ∀ value ∈ left, admits value) (hright : ∀ value ∈ right, admits value)
    (hlength : left.length = right.length) {leftRest rightRest : List UInt8}
    (heq : left.flatMap write ++ leftRest = right.flatMap write ++ rightRest) :
    left = right ∧ leftRest = rightRest := by
  induction left generalizing right with
  | nil =>
    obtain rfl := length_eq_zero_iff.mp hlength.symm
    exact ⟨rfl, heq⟩
  | cons first left ih =>
    cases right with
    | nil => simp at hlength
    | cons second right =>
      rw [forall_mem_cons] at hleft hright
      rw [flatMap_cons, flatMap_cons, append_assoc, append_assoc] at heq
      obtain ⟨rfl, htail⟩ := h hleft.1 hright.1 heq
      obtain ⟨rfl, hrest⟩ := ih hleft.2 hright.2 (Nat.succ.inj hlength) htail
      exact ⟨rfl, hrest⟩

/-- A list with its length in front. -/
theorem Separates.counted (h : Separates write admits) :
    Separates (fun values : List α => putUint64 (UInt64.ofNat values.length) ++ values.flatMap
      write)
      fun values => values.length < 2 ^ 64 ∧ ∀ value ∈ values, admits value := by
  intro left right hleft hright leftRest rightRest heq
  obtain ⟨hlength, heq⟩ := Separates.count hleft.1 hright.1 heq
  exact h.flatMap hleft.2 hright.2 hlength heq

end Kurdistan.Support
