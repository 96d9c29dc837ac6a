import Mathlib.Data.Finset.Card
import Mathlib.Data.Finset.Insert
import Mathlib.Logic.Function.Basic

/-!
# Open addressing with tombstones

An index of cells maps keys to slots. A key is looked for along its own path through
the cells; a slot which is removed leaves a tombstone, so that longer paths stay
connected. `probe` is the search loop, which also remembers the first tombstone it met
as the place for an insertion.

`Probed` is the invariant of such an index, for arbitrary paths, keys and slots. It is
kept by writing a new slot where `probe` says and by turning a used cell into a
tombstone, and it makes the search find exactly the keys which are stored.
-/

namespace Kurdistan.Support

variable {ι κ : Type}

/-- What a cell of the index says. -/
inductive Cell (ι : Type) where
  | empty
  | deleted
  | used (slot : ι)
  deriving DecidableEq

/-- The search for a key along its path: at most `remaining` further cells, the next one
being cell number `n` of the path, after `first` was met as the first tombstone. The
result is the slot which holds the key, and its cell or the cell for an insertion. -/
def probe [DecidableEq κ] (path : ℕ → ℕ) (cells : ℕ → Cell ι) (key : ι → κ) (k : κ) :
    ℕ → ℕ → Option ℕ → Option ι × Option ℕ
  | 0, _, first => (none, first)
  | remaining + 1, n, first =>
    match cells (path n) with
    | .empty => (none, some (first.getD (path n)))
    | .deleted => probe path cells key k remaining (n + 1) (first.or (some (path n)))
    | .used slot =>
      if key slot = k then (some slot, some (path n))
      else probe path cells key k remaining (n + 1) first

/-! ## The search loop -/

section Probe

variable [DecidableEq κ] {path : ℕ → ℕ} {cells : ℕ → Cell ι} {key : ι → κ} {k : κ}
  {remaining : ℕ} {first : Option ℕ}

theorem probe_found {n : ℕ} {slot : ι}
    (h : (probe path cells key k remaining n first).1 = some slot) :
    ∃ j < n + remaining, (probe path cells key k remaining n first).2 = some (path j) ∧
      cells (path j) = .used slot ∧ key slot = k := by
  induction remaining generalizing n first with
  | zero => cases h
  | succ remaining ih =>
    rw [probe] at h ⊢
    rcases hcell : cells (path n) with _ | _ | other <;> simp only [hcell] at h ⊢
    · cases h
    · obtain ⟨j, hj, hfound⟩ := ih h
      exact ⟨j, by omega, hfound⟩
    · split_ifs at h ⊢ with hkey
      · obtain ⟨⟩ := h
        exact ⟨n, by omega, rfl, hcell, hkey⟩
      · obtain ⟨j, hj, hfound⟩ := ih h
        exact ⟨j, by omega, hfound⟩

/-- The search does not stop in front of a slot with the key. -/
theorem probe_reaches {n target : ℕ} {slot : ι} (hlow : n ≤ target) (hhigh : target < n + remaining)
    (hcell : cells (path target) = .used slot) (hkey : key slot = k)
    (hconnected : ∀ j < target, cells (path j) ≠ .empty) :
    (probe path cells key k remaining n first).1.isSome := by
  induction remaining generalizing n first with
  | zero => omega
  | succ remaining ih =>
    rw [probe]
    rcases Nat.eq_or_lt_of_le hlow with rfl | hlt
    · simp [hcell, hkey]
    · rcases hnext : cells (path n) with _ | _ | other
      · exact absurd hnext (hconnected n hlt)
      · exact ih hlt (by omega)
      · dsimp only
        split_ifs
        · rfl
        · exact ih hlt (by omega)

/-- The cell for an insertion: not in use, and connected to the start of the path. -/
def Vacant (path : ℕ → ℕ) (cells : ℕ → Cell ι) (limit cell : ℕ) : Prop :=
  ∃ j < limit, cell = path j ∧ (∀ slot, cells cell ≠ .used slot) ∧ ∀ i < j, cells (path i) ≠ .empty

/-- A search which fails returns a cell for an insertion, if there is any on the path. -/
theorem probe_vacant {n : ℕ} (hnone : (probe path cells key k remaining n first).1 = none)
    (hconnected : ∀ j < n, cells (path j) ≠ .empty)
    (hfirst : ∀ cell ∈ first, Vacant path cells (n + remaining) cell)
    (hfree : first = none → ∃ j, n ≤ j ∧ j < n + remaining ∧
      ∀ slot, cells (path j) ≠ .used slot) :
    ∃ cell, (probe path cells key k remaining n first).2 = some cell ∧
      Vacant path cells (n + remaining) cell := by
  induction remaining generalizing n first with
  | zero =>
    cases first with
    | none =>
      obtain ⟨j, hlow, hhigh, -⟩ := hfree rfl
      omega
    | some cell => exact ⟨cell, rfl, hfirst cell rfl⟩
  | succ remaining ih =>
    have hsum : n + 1 + remaining = n + (remaining + 1) := by omega
    have hnext (hcell : cells (path n) ≠ .empty) : ∀ j < n + 1, cells (path j) ≠ .empty := by
      intro j hj
      rcases Nat.lt_succ_iff_lt_or_eq.mp hj with hlt | rfl
      · exact hconnected j hlt
      · exact hcell
    have hhere (hcell : ∀ slot, cells (path n) ≠ .used slot) :
        Vacant path cells (n + (remaining + 1)) (path n) :=
      ⟨n, by omega, rfl, hcell, hconnected⟩
    rw [probe] at hnone ⊢
    rcases hcell : cells (path n) with _ | _ | other <;> simp only [hcell] at hnone ⊢
    · refine ⟨_, rfl, ?_⟩
      cases first with
      | none => exact hhere (by simp [hcell])
      | some cell => exact hfirst cell rfl
    · refine hsum ▸ ih hnone (hnext (by simp [hcell])) ?_ ?_
      · intro cell hmem
        rw [hsum]
        cases first with
        | none =>
          obtain rfl : path n = cell := Option.some.inj hmem
          exact hhere (by simp [hcell])
        | some other => exact hfirst cell hmem
      · intro hempty
        cases first <;> cases hempty
    · split_ifs at hnone ⊢ with hkey
      refine hsum ▸ ih hnone (hnext (by simp [hcell])) (fun cell hmem => ?_) ?_
      · rw [hsum]
        exact hfirst cell hmem
      · intro hempty
        obtain ⟨j, hlow, hhigh, hfreej⟩ := hfree hempty
        refine ⟨j, ?_, by omega, hfreej⟩
        rcases Nat.eq_or_lt_of_le hlow with rfl | hlt
        · exact absurd hcell (hfreej other)
        · exact hlt

end Probe

/-! ## The invariant -/

/-- Every path goes through all cells. -/
structure PathsCover (m : ℕ) (path : κ → ℕ → ℕ) : Prop where
  inside : ∀ k n, path k n < m
  covers : ∀ k, ∀ c < m, ∃ n < m, path k n = c

/-- The used cells hold the live slots, once each, where a search for their key gets. -/
structure Probed (m : ℕ) (path : κ → ℕ → ℕ) (cells : ℕ → Cell ι) (key : ι → κ)
    (live : Finset ι) : Prop where
  stored : ∀ c < m, ∀ slot, cells c = .used slot → slot ∈ live
  single : ∀ c < m, ∀ d < m, ∀ slot, cells c = .used slot → cells d = .used slot → c = d
  reached : ∀ slot ∈ live, ∃ n < m, cells (path (key slot) n) = .used slot ∧
    ∀ j < n, cells (path (key slot) j) ≠ .empty
  distinct : ∀ slot ∈ live, ∀ other ∈ live, key slot = key other → slot = other

namespace Probed

variable {m : ℕ} {path : κ → ℕ → ℕ} {cells : ℕ → Cell ι} {key : ι → κ} {live : Finset ι}
  (h : Probed m path cells key live)

include h

theorem exists_unused (hcard : live.card < m) : ∃ c < m, ∀ slot, cells c ≠ .used slot := by
  by_contra hall
  push Not at hall
  obtain ⟨slot, -⟩ := hall 0 (by omega)
  have : Nonempty ι := ⟨slot⟩
  choose! slotOf hslot using hall
  have hmaps : ∀ c ∈ Finset.range m, slotOf c ∈ live := fun c hc =>
    h.stored c (Finset.mem_range.mp hc) _ (hslot c (Finset.mem_range.mp hc))
  obtain ⟨c, hc, d, hd, hne, heq⟩ := Finset.exists_ne_map_eq_of_card_lt_of_maps_to
    (by simpa using hcard) hmaps
  rw [Finset.mem_range] at hc hd
  exact hne (h.single c hc d hd _ (hslot c hc) (heq ▸ hslot d hd))

section Search

variable [DecidableEq κ]

/-- The search for the key of a live slot finds the slot and its cell. -/
theorem probe_eq (hpaths : PathsCover m path) {slot : ι} (hlive : slot ∈ live) :
    ∃ c < m, probe (path (key slot)) cells key (key slot) m 0 none = (some slot, some c) ∧
      cells c = .used slot := by
  obtain ⟨target, htarget, hcell, hconnected⟩ := h.reached slot hlive
  have hsome : (probe (path (key slot)) cells key (key slot) m 0 none).1.isSome :=
    probe_reaches (Nat.zero_le _) (by omega) hcell rfl hconnected
  obtain ⟨found, hfound⟩ := Option.isSome_iff_exists.mp hsome
  obtain ⟨j, -, hsecond, hused, hkey⟩ := probe_found hfound
  have hinside := hpaths.inside (key slot) j
  obtain rfl := h.distinct found (h.stored _ hinside _ hused) slot hlive hkey
  exact ⟨_, hinside, Prod.ext hfound hsecond, hused⟩

/-- The search finds a slot exactly if the slot is live and holds the key. -/
theorem probe_eq_some_iff (hpaths : PathsCover m path) (k : κ) (slot : ι) :
    (probe (path k) cells key k m 0 none).1 = some slot ↔ slot ∈ live ∧ key slot = k := by
  constructor
  · intro hfound
    obtain ⟨j, -, -, hused, hkey⟩ := probe_found hfound
    exact ⟨h.stored _ (hpaths.inside k j) _ hused, hkey⟩
  · rintro ⟨hlive, rfl⟩
    obtain ⟨c, -, hprobe, -⟩ := h.probe_eq hpaths hlive
    rw [hprobe]

/-- As long as fewer slots are live than there are cells, a search which fails returns a
cell for an insertion. -/
theorem probe_eq_none (hpaths : PathsCover m path) (hcard : live.card < m) {k : κ}
    (hnone : (probe (path k) cells key k m 0 none).1 = none) :
    ∃ c, probe (path k) cells key k m 0 none = (none, some c) ∧ Vacant (path k) cells m c := by
  obtain ⟨c, hc, hunused⟩ := h.exists_unused hcard
  obtain ⟨n, hn, rfl⟩ := hpaths.covers k c hc
  obtain ⟨cell, hcell, hvacant⟩ := probe_vacant hnone (by simp) (by simp)
    (fun _ => ⟨n, Nat.zero_le _, by omega, hunused⟩)
  exact ⟨cell, Prod.ext hnone hcell, by simpa using hvacant⟩

end Search

variable [DecidableEq ι]

/-- Writing a new slot to a vacant cell of its path keeps the invariant. -/
theorem insert {newKey : ι → κ} {slot : ι} {c : ℕ}
    (hnew : slot ∉ live) (hkeys : ∀ other ∈ live, newKey other = key other)
    (hfresh : ∀ other ∈ live, key other ≠ newKey slot)
    (hvacant : Vacant (path (newKey slot)) cells m c) :
    Probed m path (Function.update cells c (.used slot)) newKey (insert slot live) := by
  obtain ⟨n, hn, rfl, hunused, hconnected⟩ := hvacant
  generalize hc : path (newKey slot) n = c at hunused ⊢
  have hfilled (d : ℕ) (hd : cells d ≠ .empty) :
      Function.update cells c (.used slot) d ≠ .empty := by
    rcases eq_or_ne d c with rfl | hne
    · simp
    · rwa [Function.update_of_ne hne]
  have hold {d : ℕ} {other : ι} (hother : other ≠ slot) :
      Function.update cells c (.used slot) d = .used other ↔ cells d = .used other := by
    rcases eq_or_ne d c with rfl | hne
    · simp only [Function.update_self, Cell.used.injEq, hother.symm, false_iff]
      exact hunused other
    · rw [Function.update_of_ne hne]
  have hat {d : ℕ} (hd : d < m)
      (hused : Function.update cells c (.used slot) d = .used slot) : d = c := by
    by_contra hne
    rw [Function.update_of_ne hne] at hused
    exact hnew (h.stored d hd slot hused)
  refine ⟨?_, ?_, ?_, ?_⟩
  · intro d hd other hused
    by_cases hother : other = slot
    · exact hother ▸ Finset.mem_insert_self _ _
    · exact Finset.mem_insert_of_mem (h.stored d hd other ((hold hother).mp hused))
  · intro d hd e he other hd' he'
    by_cases hother : other = slot
    · subst hother
      rw [hat hd hd', hat he he']
    · exact h.single d hd e he other ((hold hother).mp hd') ((hold hother).mp he')
  · intro other hlive
    rcases Finset.mem_insert.mp hlive with rfl | hlive
    · refine ⟨n, hn, by rw [hc, Function.update_self], fun j hj => ?_⟩
      exact hfilled _ (hconnected j hj)
    · have hother : other ≠ slot := fun heq => hnew (heq ▸ hlive)
      obtain ⟨target, htarget, hcell, hpath⟩ := h.reached other hlive
      rw [hkeys other hlive]
      exact ⟨target, htarget, (hold hother).mpr hcell, fun j hj => hfilled _ (hpath j hj)⟩
  · intro left hleft right hright heq
    rcases Finset.mem_insert.mp hleft with rfl | hl <;>
      rcases Finset.mem_insert.mp hright with rfl | hr
    · rfl
    · rw [hkeys right hr] at heq
      exact absurd heq.symm (hfresh right hr)
    · rw [hkeys left hl] at heq
      exact absurd heq (hfresh left hl)
    · rw [hkeys left hl, hkeys right hr] at heq
      exact h.distinct left hl right hr heq

/-- Turning the cell of a slot into a tombstone removes the slot. -/
theorem erase {newKey : ι → κ} {slot : ι} {c : ℕ} (hc : c < m) (hcell : cells c = .used slot)
    (hkeys : ∀ other ∈ live, other ≠ slot → newKey other = key other) :
    Probed m path (Function.update cells c .deleted) newKey (live.erase slot) := by
  have hfilled (d : ℕ) (hd : cells d ≠ .empty) : Function.update cells c .deleted d ≠ .empty := by
    rcases eq_or_ne d c with rfl | hne
    · simp
    · rwa [Function.update_of_ne hne]
  have hold {d : ℕ} {other : ι} (hused : Function.update cells c .deleted d = .used other) :
      d ≠ c ∧ cells d = .used other := by
    rcases eq_or_ne d c with rfl | hne
    · simp at hused
    · exact ⟨hne, by rwa [Function.update_of_ne hne] at hused⟩
  refine ⟨?_, ?_, ?_, ?_⟩
  · intro d hd other hused
    obtain ⟨hne, hused⟩ := hold hused
    refine Finset.mem_erase.mpr ⟨?_, h.stored d hd other hused⟩
    rintro rfl
    exact hne (h.single d hd c hc other hused hcell)
  · intro d hd e he other hd' he'
    exact h.single d hd e he other (hold hd').2 (hold he').2
  · intro other hlive
    obtain ⟨hother, hlive⟩ := Finset.mem_erase.mp hlive
    obtain ⟨target, htarget, htargetCell, hpath⟩ := h.reached other hlive
    rw [hkeys other hlive hother]
    refine ⟨target, htarget, ?_, fun j hj => hfilled _ (hpath j hj)⟩
    rw [Function.update_of_ne, htargetCell]
    intro heq
    rw [heq, hcell] at htargetCell
    exact hother (Cell.used.inj htargetCell).symm
  · intro left hleft right hright heq
    obtain ⟨hl, hleft⟩ := Finset.mem_erase.mp hleft
    obtain ⟨hr, hright⟩ := Finset.mem_erase.mp hright
    rw [hkeys left hleft hl, hkeys right hright hr] at heq
    exact h.distinct left hleft right hright heq

end Probed

theorem probed_empty {m : ℕ} {path : κ → ℕ → ℕ} {cells : ℕ → Cell ι} {key : ι → κ}
    (h : ∀ c, cells c = .empty) : Probed m path cells key ∅ :=
  ⟨by simp [h], by simp [h], by simp, by simp⟩

end Kurdistan.Support
