import Mathlib.Data.List.Forall2
import Mathlib.Data.List.Chain
import Mathlib.Data.List.Sort

/-!
# Matching in order

`matchInOrder` takes values one after the other and looks for each of them among the
candidates which lie behind the match of the value before it. What it finds is a
sublist of the candidates, and it finds every sublist which matches when a value agrees
with one candidate only.
-/

namespace Kurdistan.Support

open List

section Matching

variable {α β : Type} (agrees : α → β → Bool)

/-- The first candidates which agree with the values, in the order of the values. -/
def matchInOrder : List α → List β → Option (List β)
  | [], _ => some []
  | _ :: _, [] => none
  | value :: rest, candidate :: remaining =>
    if agrees value candidate then
      (matchInOrder rest remaining).map (candidate :: ·)
    else matchInOrder (value :: rest) remaining

variable {agrees}

theorem matchInOrder_sound {values : List α} {candidates found : List β}
    (h : matchInOrder agrees values candidates = some found) :
    found.Sublist candidates ∧ List.Forall₂ (fun a b => agrees a b = true) values found := by
  induction values, candidates using matchInOrder.induct agrees generalizing found with
  | case1 candidates =>
    rw [matchInOrder] at h
    obtain ⟨⟩ := h
    exact ⟨nil_sublist _, .nil⟩
  | case2 => cases h
  | case3 value rest candidate remaining hagrees ih =>
    rw [matchInOrder, if_pos hagrees] at h
    obtain ⟨tail, htail, rfl⟩ := Option.map_eq_some_iff.mp h
    obtain ⟨hsublist, hforall⟩ := ih htail
    exact ⟨hsublist.cons_cons candidate, .cons hagrees hforall⟩
  | case4 value rest candidate remaining hagrees ih =>
    rw [matchInOrder, if_neg hagrees] at h
    obtain ⟨hsublist, hforall⟩ := ih h
    exact ⟨hsublist.cons candidate, hforall⟩

/-- A matching sublist is the one which is found. -/
theorem matchInOrder_complete {values : List α} {candidates found : List β}
    (hunique : ∀ value, ∀ a ∈ candidates, ∀ b ∈ candidates,
      agrees value a = true → agrees value b = true → a = b) (hsublist : found.Sublist candidates)
    (hforall : List.Forall₂ (fun a b => agrees a b = true) values found) :
    matchInOrder agrees values candidates = some found := by
  induction values, candidates using matchInOrder.induct agrees generalizing found with
  | case1 candidates =>
    obtain rfl := forall₂_nil_left_iff.mp hforall
    rw [matchInOrder]
  | case2 value rest =>
    obtain ⟨first, tail, -, -, rfl⟩ := forall₂_cons_left_iff.mp hforall
    cases hsublist
  | case3 value rest candidate remaining hagrees ih =>
    obtain ⟨first, tail, hfirst, htail, rfl⟩ := forall₂_cons_left_iff.mp hforall
    have hmem := hsublist.subset mem_cons_self
    obtain rfl := hunique value first hmem candidate mem_cons_self hfirst hagrees
    have hrest := ih (fun v a ha b hb => hunique v a (mem_cons_of_mem _ ha) b
      (mem_cons_of_mem _ hb)) (cons_sublist_cons.mp hsublist) htail
    rw [matchInOrder, if_pos hagrees, hrest, Option.map_some]
  | case4 value rest candidate remaining hagrees ih =>
    have hskip : found.Sublist remaining := by
      obtain ⟨first, tail, hfirst, -, rfl⟩ := forall₂_cons_left_iff.mp hforall
      cases hsublist with
      | cons _ hsublist => exact hsublist
      | cons_cons _ hsublist => exact absurd hfirst hagrees
    rw [matchInOrder, if_neg hagrees]
    exact ih (fun v a ha b hb => hunique v a (mem_cons_of_mem _ ha) b
      (mem_cons_of_mem _ hb)) hskip hforall

end Matching

section Ordered

variable {α : Type} [DecidableEq α]

/-- The request lists some of the signed values, each behind the one before it in both
orders. -/
def orderedSubset (before : α → α → Bool) (signed requested : List α) : Bool :=
  requested ≠ [] ∧ (requested.IsChain fun a b => before a b = true) ∧
    (matchInOrder (fun a b => decide (a = b)) requested signed).isSome

theorem orderedSubset_iff {before : α → α → Bool} {signed requested : List α} :
    orderedSubset before signed requested = true ↔
      requested ≠ [] ∧ (requested.IsChain fun a b => before a b = true) ∧
        requested.Sublist signed := by
  have hmatch : (matchInOrder (fun a b => decide (a = b)) requested signed).isSome ↔
      requested.Sublist signed := by
    constructor
    · intro h
      obtain ⟨found, hfound⟩ := Option.isSome_iff_exists.mp h
      obtain ⟨hsublist, hforall⟩ := matchInOrder_sound hfound
      have heq : requested = found := by simpa using hforall
      rwa [heq]
    · intro h
      refine Option.isSome_iff_exists.mpr ⟨requested, matchInOrder_complete ?_ h ?_⟩
      · simp only [decide_eq_true_eq]
        rintro value a - b - rfl rfl
        rfl
      · simp
  simp only [orderedSubset, decide_eq_true_eq, hmatch]

end Ordered

/-! ## Elements at increasing positions -/

section Positions

variable {α : Type}

theorem filterMap_range_length (l : List α) :
    (range l.length).filterMap (fun index => l[index]?) = l := by
  induction l using reverseRecOn with
  | nil => rfl
  | append_singleton l last ih =>
    have hfirst : (range l.length).filterMap (fun index => (l ++ [last])[index]?) = l := by
      refine (filterMap_congr fun index hindex => ?_).trans ih
      exact getElem?_append_left (mem_range.mp hindex)
    rw [length_append, length_singleton, range_succ, filterMap_append, hfirst]
    simp

/-- Increasing positions in range are a sublist of all positions. -/
theorem sublist_range {indexes : List ℕ} {n : ℕ} (hsorted : indexes.Pairwise (· < ·))
    (hrange : ∀ index ∈ indexes, index < n) : indexes.Sublist (range n) := by
  have hsubset : indexes ⊆ range n := fun index hindex =>
    mem_range.mpr (hrange index hindex)
  have hsubperm := subperm_of_subset (hsorted.imp Nat.ne_of_lt) hsubset
  exact sublist_of_subperm_of_pairwise hsubperm hsorted pairwise_lt_range

/-- The elements at increasing positions are a sublist. -/
theorem filterMap_getElem?_sublist {l : List α} {indexes : List ℕ}
    (hsorted : indexes.Pairwise (· < ·)) (hrange : ∀ index ∈ indexes, index < l.length) :
    (indexes.filterMap fun index => l[index]?).Sublist l := by
  have hsublist := (sublist_range hsorted hrange).filterMap fun index => l[index]?
  rwa [filterMap_range_length] at hsublist

end Positions

end Kurdistan.Support
