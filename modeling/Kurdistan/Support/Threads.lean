import Mathlib.Algebra.Order.BigOperators.Group.List
import Mathlib.Algebra.Order.Ring.Nat

/-!
# Threads over a shared state

A system consists of a shared state and of threads which take turns on it. A turn is
one critical section: it changes the shared state, moves the thread to its next point,
may start further threads, and may cause events. Every run interleaves calls, which
start threads, and turns in an arbitrary order; the history keeps every event together
with the number of the thread that caused it.

The invariant rule splits an invariant into a part about the shared state and a part
about the point of each thread, which the turns of the other threads have to respect.
-/

namespace Kurdistan.Support

open List

variable {σ τ κ ι ε : Type*}

/-- What one turn of a thread does. -/
structure Turn (σ τ ε : Type*) where
  shared : σ
  next : τ
  started : List τ := []
  events : List ε := []

/-- The entry points of calls, and the turn of a thread for the input it meets. -/
structure System (σ τ κ ι ε : Type*) where
  entry : κ → τ
  turn : σ → τ → ι → Turn σ τ ε

/-- A shared state, its threads in the order of their start, and what has happened. -/
structure World (σ τ ε : Type*) where
  shared : σ
  threads : List τ := []
  history : List (ℕ × ε) := []

/-- A step of a run: a call starts a thread, or a thread takes its turn. -/
inductive Move (κ ι : Type*) where
  | call (c : κ)
  | run (i : ℕ) (input : ι)

namespace System

variable (sys : System σ τ κ ι ε)

/-- The world after thread `i` took the turn `r`. -/
def settle (w : World σ τ ε) (i : ℕ) (r : Turn σ τ ε) : World σ τ ε where
  shared := r.shared
  threads := w.threads.set i r.next ++ r.started
  history := w.history ++ r.events.map (Prod.mk i)

def step (w : World σ τ ε) : Move κ ι → World σ τ ε
  | .call c => { w with threads := w.threads ++ [sys.entry c] }
  | .run i input =>
    match w.threads[i]? with
    | none => w
    | some t => settle w i (sys.turn w.shared t input)

/-- The world after a run. -/
def run (w : World σ τ ε) (moves : List (Move κ ι)) : World σ τ ε :=
  moves.foldl sys.step w

@[simp] theorem run_nil (w : World σ τ ε) : sys.run w [] = w := rfl

@[simp] theorem run_cons (w : World σ τ ε) (m : Move κ ι) (moves : List (Move κ ι)) :
    sys.run w (m :: moves) = sys.run (sys.step w m) moves := rfl

variable {sys} {w : World σ τ ε}

/-- A property of worlds kept by every step holds after every run. -/
theorem run_invariant (Inv : World σ τ ε → Prop) (hstep : ∀ w m, Inv w → Inv (sys.step w m))
    (hw : Inv w) (moves : List (Move κ ι)) : Inv (sys.run w moves) := by
  induction moves generalizing w with
  | nil => exact hw
  | cons m moves ih => exact ih (hstep w m hw)

/-! ## The threads after a turn -/

theorem getElem?_settle {i j : ℕ} {r : Turn σ τ ε} {t u : τ} (hi : w.threads[i]? = some t)
    (h : (settle w i r).threads[j]? = some u) :
    (j = i ∧ u = r.next) ∨ (j ≠ i ∧ w.threads[j]? = some u) ∨
      (w.threads.length ≤ j ∧ u ∈ r.started) := by
  have hbound : i < w.threads.length := (List.getElem?_eq_some_iff.mp hi).1
  rw [settle] at h
  by_cases hj : j < w.threads.length
  · rw [getElem?_append_left (by simpa using hj)] at h
    by_cases heq : j = i
    · subst heq
      rw [getElem?_set_self hbound] at h
      exact Or.inl ⟨rfl, (Option.some.inj h).symm⟩
    · rw [getElem?_set_ne (Ne.symm heq)] at h
      exact Or.inr (Or.inl ⟨heq, h⟩)
  · rw [getElem?_append_right (by simpa using hj)] at h
    exact Or.inr (Or.inr ⟨Nat.le_of_not_lt hj, mem_of_getElem? h⟩)

/-- Every event is caused by a thread that was started. -/
def Tagged (w : World σ τ ε) : Prop := ∀ e ∈ w.history, e.1 < w.threads.length

theorem tagged_step (h : Tagged w) (m : Move κ ι) : Tagged (sys.step w m) := by
  cases m with
  | call c =>
    intro e he
    have hlt := h e he
    simp only [step, length_append]
    exact Nat.lt_succ_of_lt hlt
  | run i input =>
    rw [step]
    rcases hi : w.threads[i]? with _ | t
    · exact h
    have hbound : i < w.threads.length := (List.getElem?_eq_some_iff.mp hi).1
    intro e he
    simp only [settle, length_append, length_set]
    rcases mem_append.mp he with hold | hnew
    · exact Nat.lt_add_right _ (h e hold)
    · obtain ⟨event, -, rfl⟩ := mem_map.mp hnew
      exact Nat.lt_add_right _ hbound

/-! ## Sums over the threads -/

variable (f : τ → ℕ)

/-- The sum of a quantity over all threads. -/
def total (w : World σ τ ε) : ℕ := (w.threads.map f).sum

/-- The sum of a quantity over the threads which a turn leaves behind. -/
def load (r : Turn σ τ ε) : ℕ := f r.next + (r.started.map f).sum

theorem sum_map_set {threads : List τ} {i : ℕ} {t : τ} (u : τ) (hi : threads[i]? = some t) :
    ((threads.set i u).map f).sum + f t = (threads.map f).sum + f u := by
  induction threads generalizing i with
  | nil => simp at hi
  | cons head tail ih =>
    cases i with
    | zero =>
      obtain rfl : head = t := by simpa using hi
      simp only [set_cons_zero, map_cons, sum_cons]
      omega
    | succ i =>
      have htail := ih (by simpa using hi)
      simp only [set_cons_succ, map_cons, sum_cons]
      omega

theorem total_call (f : τ → ℕ) (w : World σ τ ε) (c : κ) :
    total f (sys.step w (.call c : Move κ ι)) = total f w + f (sys.entry c) := by
  simp [total, step]

theorem total_settle {i : ℕ} {t : τ} (r : Turn σ τ ε) (hi : w.threads[i]? = some t) :
    total f (settle w i r) + f t = total f w + load f r := by
  have hset := sum_map_set f r.next hi
  simp only [total, settle, load, map_append, sum_append]
  omega

theorem le_total {i : ℕ} {t : τ} (hi : w.threads[i]? = some t) : f t ≤ total f w :=
  le_sum_of_mem (mem_map_of_mem (mem_of_getElem? hi))

theorem step_cases (w : World σ τ ε) (m : Move κ ι) :
    (∃ c, m = .call c) ∨ sys.step w m = w ∨
      ∃ i input t, w.threads[i]? = some t ∧
        sys.step w m = settle w i (sys.turn w.shared t input) := by
  cases m with
  | call c => exact Or.inl ⟨c, rfl⟩
  | run i input =>
    rcases hi : w.threads[i]? with _ | t
    · exact Or.inr (Or.inl (by rw [step, hi]))
    · exact Or.inr (Or.inr ⟨i, input, t, hi, by rw [step, hi]⟩)

/-! ## The invariant rule -/

/-- What a turn has to keep: the shared part, the part of its own thread and of the
threads it starts, and the part of every other thread. -/
structure Keeps (Shared : σ → List (ℕ × ε) → Prop)
    (Local : σ → List (ℕ × ε) → ℕ → τ → Prop) (s : σ) (h : List (ℕ × ε)) (i : ℕ)
    (r : Turn σ τ ε) : Prop where
  shared : Shared r.shared (h ++ r.events.map (Prod.mk i))
  own : Local r.shared (h ++ r.events.map (Prod.mk i)) i r.next
  started : ∀ t ∈ r.started, ∀ j,
    (∀ e ∈ h ++ r.events.map (Prod.mk i), e.1 < j) →
      Local r.shared (h ++ r.events.map (Prod.mk i)) j t
  others : ∀ j u, j ≠ i → Local s h j u → Local r.shared (h ++ r.events.map (Prod.mk i)) j u

/-- The two parts of an invariant, for a world. -/
structure Holds (Shared : σ → List (ℕ × ε) → Prop)
    (Local : σ → List (ℕ × ε) → ℕ → τ → Prop) (w : World σ τ ε) : Prop where
  tagged : Tagged w
  shared : Shared w.shared w.history
  threads : ∀ i t, w.threads[i]? = some t → Local w.shared w.history i t

variable {Shared : σ → List (ℕ × ε) → Prop} {Local : σ → List (ℕ × ε) → ℕ → τ → Prop}

theorem holds_step (hentry : ∀ s h i c, Shared s h → (∀ e ∈ h, e.1 < i) → Local s h i (sys.entry c))
    (hturn : ∀ s h i t input, Shared s h → Local s h i t →
      Keeps Shared Local s h i (sys.turn s t input)) (hw : Holds Shared Local w) (m : Move κ ι) :
    Holds Shared Local (sys.step w m) := by
  refine ⟨tagged_step hw.tagged m, ?_, ?_⟩
  · cases m with
    | call c => exact hw.shared
    | run i input =>
      rw [step]
      rcases hi : w.threads[i]? with _ | t
      · exact hw.shared
      · exact (hturn _ _ i t input hw.shared (hw.threads i t hi)).shared
  · cases m with
    | call c =>
      intro j u hu
      by_cases hj : j < w.threads.length
      · rw [step, getElem?_append_left hj] at hu
        exact hw.threads j u hu
      · rw [step, getElem?_append_right (Nat.le_of_not_lt hj)] at hu
        obtain rfl := mem_singleton.mp (mem_of_getElem? hu)
        exact hentry _ _ j c hw.shared
          fun e he => Nat.lt_of_lt_of_le (hw.tagged e he) (Nat.le_of_not_lt hj)
    | run i input =>
      intro j u hu
      rw [step] at hu ⊢
      rcases hi : w.threads[i]? with _ | t
      · rw [hi] at hu
        exact hw.threads j u hu
      rw [hi] at hu
      have hkeeps := hturn _ _ i t input hw.shared (hw.threads i t hi)
      rcases getElem?_settle hi hu with ⟨rfl, rfl⟩ | ⟨hne, hold⟩ | ⟨hnew, hmem⟩
      · exact hkeeps.own
      · exact hkeeps.others j u hne (hw.threads j u hold)
      · refine hkeeps.started u hmem j fun e he => ?_
        have hbound : i < w.threads.length := (List.getElem?_eq_some_iff.mp hi).1
        rcases mem_append.mp he with hold | hevent
        · exact Nat.lt_of_lt_of_le (hw.tagged e hold) hnew
        · obtain ⟨event, -, rfl⟩ := mem_map.mp hevent
          exact Nat.lt_of_lt_of_le hbound hnew

/-- The invariant rule: if the entry points meet their part and every turn keeps what it
has to, the invariant holds after every run. -/
theorem holds_run (hentry : ∀ s h i c, Shared s h → (∀ e ∈ h, e.1 < i) → Local s h i (sys.entry c))
    (hturn : ∀ s h i t input, Shared s h → Local s h i t →
      Keeps Shared Local s h i (sys.turn s t input)) (hw : Holds Shared Local w)
    (moves : List (Move κ ι)) : Holds Shared Local (sys.run w moves) :=
  run_invariant (Holds Shared Local) (fun _ m h => holds_step hentry hturn h m) hw moves

theorem holds_start {s : σ} (h : Shared s []) : Holds Shared Local ⟨s, [], []⟩ :=
  ⟨by simp [Tagged], h, by simp⟩

end System

end Kurdistan.Support
