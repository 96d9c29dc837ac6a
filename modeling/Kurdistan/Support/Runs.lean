import Mathlib.Data.List.Induction
import Mathlib.Data.List.Nodup

/-!
# Runs of deterministic machines

A machine is a function `step : σ → α → σ × ρ` which takes a state and an
action to the next state and a reply. This module contains the induction
rules for finite runs: preservation of an invariant, lockstep simulation of
two machines, and the rules for what a run emits. An emission is a value read
off an action and its reply; the history rule relates the state after a run to
everything the run has emitted.
-/

namespace Kurdistan.Support

open List

variable {σ τ α ρ β : Type*}

/-- The state reached from `s` by the actions `as`. -/
def stateAfter (step : σ → α → σ × ρ) (s : σ) (as : List α) : σ :=
  as.foldl (fun s a => (step s a).1) s

/-- The reply to action `a` taken after the actions `as`. -/
def replyAfter (step : σ → α → σ × ρ) (s : σ) (as : List α) (a : α) : ρ :=
  (step (stateAfter step s as) a).2

/-- The replies along a run, in order. -/
def replies (step : σ → α → σ × ρ) : σ → List α → List ρ
  | _, [] => []
  | s, a :: as => (step s a).2 :: replies step (step s a).1 as

/-- The values emitted along a run, in order. -/
def emissions (step : σ → α → σ × ρ) (emit : α → ρ → Option β) :
    σ → List α → List β
  | _, [] => []
  | s, a :: as =>
    (emit a (step s a).2).toList ++ emissions step emit (step s a).1 as

section Basics

variable (step : σ → α → σ × ρ)

@[simp] theorem stateAfter_nil (s : σ) : stateAfter step s [] = s := rfl

@[simp] theorem stateAfter_cons (s : σ) (a : α) (as : List α) :
    stateAfter step s (a :: as) = stateAfter step (step s a).1 as := rfl

theorem stateAfter_append (s : σ) (as bs : List α) :
    stateAfter step s (as ++ bs) = stateAfter step (stateAfter step s as) bs := by
  simp [stateAfter]

end Basics

variable {step : σ → α → σ × ρ} {s : σ}

/-- A property preserved by every step holds at the end of every run. -/
theorem stateAfter_invariant (Inv : σ → Prop) (hstep : ∀ s a, Inv s → Inv (step s a).1)
    (hs : Inv s) (as : List α) : Inv (stateAfter step s as) := by
  induction as generalizing s with
  | nil => exact hs
  | cons a as ih => exact ih (hstep s a hs)

theorem stateAfter_concat (step : σ → α → σ × ρ) (s : σ) (as : List α) (a : α) :
    stateAfter step s (as ++ [a]) = (step (stateAfter step s as) a).1 :=
  stateAfter_append step s as [a]

/-- A property holds all along a run exactly when every step of the run is safe, if a
step keeps the property exactly when it is safe. -/
theorem forall_prefix_iff_safe (Inv Good : σ → Prop)
    (Safe : σ → α → Prop) (hstep : ∀ s a, Inv s → Inv (step s a).1)
    (hsafe : ∀ s a, Inv s → Good s → (Good (step s a).1 ↔ Safe s a))
    (hs : Inv s) (hgood : Good s) (as : List α) :
    (∀ pre, pre <+: as → Good (stateAfter step s pre)) ↔
      ∀ pre a, pre ++ [a] <+: as → Safe (stateAfter step s pre) a := by
  constructor
  · intro h pre a hpre
    have hnext := h (pre ++ [a]) hpre
    rw [stateAfter_concat] at hnext
    exact (hsafe _ a (stateAfter_invariant Inv hstep hs pre)
      (h pre ((prefix_append pre [a]).trans hpre))).mp hnext
  · intro h pre
    induction pre using reverseRecOn with
    | nil => exact fun _ => hgood
    | append_singleton pre a ih =>
      intro hpre
      rw [stateAfter_concat]
      exact (hsafe _ a (stateAfter_invariant Inv hstep hs pre)
        (ih ((prefix_append pre [a]).trans hpre))).mpr (h pre a hpre)

/-- Two machines whose steps preserve a relation and answer alike answer
alike along every run. -/
theorem replies_eq_of_lockstep {left : σ → α → σ × ρ} {right : τ → α → τ × ρ} (Rel : σ → τ → Prop)
    (hstep : ∀ s t a, Rel s t → Rel (left s a).1 (right t a).1 ∧ (left s a).2 = (right t a).2)
    {t : τ} (hst : Rel s t) (as : List α) :
    Rel (stateAfter left s as) (stateAfter right t as) ∧
      replies left s as = replies right t as := by
  induction as generalizing s t with
  | nil => exact ⟨hst, rfl⟩
  | cons a as ih =>
    obtain ⟨hnext, hreply⟩ := hstep s t a hst
    obtain ⟨hrel, hreplies⟩ := ih hnext
    refine ⟨hrel, ?_⟩
    rw [replies, replies, hreply, hreplies]

/-! ## What a run emits -/

variable {emit : α → ρ → Option β}

/-- The history rule. If every step extends a history which represents the
state by what the step emits, then so does every run. -/
theorem history_stateAfter (Represents : σ → List β → Prop)
    (hstep : ∀ s history a, Represents s history →
      Represents (step s a).1 (history ++ (emit a (step s a).2).toList)) {history : List β}
    (hs : Represents s history) (as : List α) :
    Represents (stateAfter step s as) (history ++ emissions step emit s as) := by
  induction as generalizing s history with
  | nil => simpa [emissions] using hs
  | cons a as ih =>
    have htail := ih (hstep s history a hs)
    rw [append_assoc] at htail
    exact htail

/-- If every emission spends a value which was not spent before, and spent
values stay spent, then no value is emitted twice along a run. The steps may
rely on an invariant. -/
theorem emissions_nodup_of_invariant (Inv : σ → Prop) (Spent : σ → β → Prop)
    (hstep : ∀ s a, Inv s → Inv (step s a).1)
    (hkeep : ∀ s a b, Inv s → Spent s b → Spent (step s a).1 b)
    (hspend : ∀ s a b, Inv s → emit a (step s a).2 = some b →
      ¬ Spent s b ∧ Spent (step s a).1 b) (hs : Inv s) (as : List α) :
    (emissions step emit s as).Nodup := by
  let Represents : σ → List β → Prop := fun s history =>
    Inv s ∧ history.Nodup ∧ ∀ b ∈ history, Spent s b
  have hrun : Represents (stateAfter step s as) ([] ++ emissions step emit s as) := by
    refine history_stateAfter Represents ?_ ⟨hs, nodup_nil, by simp⟩ as
    rintro s history a ⟨hinv, hnodup, hspent⟩
    refine ⟨hstep s a hinv, ?_⟩
    rcases hemit : emit a (step s a).2 with _ | b
    · rw [Option.toList_none, append_nil]
      exact ⟨hnodup, fun b hb => hkeep s a b hinv (hspent b hb)⟩
    · obtain ⟨hfresh, hnow⟩ := hspend s a b hinv hemit
      constructor
      · rw [Option.toList_some, ← concat_eq_append]
        exact hnodup.concat fun hb => hfresh (hspent b hb)
      · intro b' hb'
        rw [Option.toList_some, mem_append, mem_singleton] at hb'
        rcases hb' with hb' | rfl
        · exact hkeep s a b' hinv (hspent b' hb')
        · exact hnow
  simpa using hrun.2.1

theorem emissions_nodup (Spent : σ → β → Prop) (hkeep : ∀ s a b, Spent s b → Spent (step s a).1 b)
    (hspend : ∀ s a b, emit a (step s a).2 = some b →
      ¬ Spent s b ∧ Spent (step s a).1 b) (s : σ) (as : List α) :
    (emissions step emit s as).Nodup :=
  emissions_nodup_of_invariant (fun _ => True) Spent (fun _ _ _ => trivial)
    (fun s a b _ => hkeep s a b) (fun s a b _ => hspend s a b) trivial as

end Kurdistan.Support
