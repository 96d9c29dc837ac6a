import Kurdistan.Runtime.Flow
import Kurdistan.Support.Runs
import Mathlib.Data.Finset.Dedup
import Mathlib.Data.Nat.Bitwise
import Mathlib.Order.Interval.Finset.Nat

/-!
# The representation of the flow table

The live entries are those with a generation. `Sound` says that the index is an open
addressing table for them, and that the two stacks hold the other entries of their class.
Every method keeps it, so a search finds exactly the keys of the live entries and an
insertion always has a cell.
-/

namespace Kurdistan.Runtime

open Support ProductionFlowTableV1 Function List Nat

/-! ## Stacks of free entries -/

/-- The entries on the stack of `count` words which starts at `base`. -/
def stackList (free : List UInt16) (base count : ℕ) : List ℕ :=
  ((free.drop base).take count).map UInt16.toNat

variable {free : List UInt16} {base count : ℕ}

theorem length_stackList (h : base + count ≤ free.length) :
    (stackList free base count).length = count := by
  rw [stackList, length_map, length_take, length_drop]
  omega

theorem stackList_push (word : UInt16) (h : base + count < free.length) :
    stackList (free.set (base + count) word) base (count + 1) =
      stackList free base count ++ [word.toNat] := by
  have hroom : count < (free.drop base).length := by
    rw [length_drop]
    omega
  have hset : (free.set (base + count) word).drop base = (free.drop base).set count word := by
    rw [drop_set, if_neg (by omega), Nat.add_sub_cancel_left]
  rw [stackList, hset, take_succ_eq_append_getElem (by simpa using hroom),
    getElem_set_self, map_append, take_set_of_le le_rfl]
  rfl

theorem stackList_pop (h : base + count < free.length) :
    stackList free base (count + 1) =
      stackList free base count ++ [(free.getD (base + count) 0).toNat] := by
  have hpush := stackList_push free[base + count] h
  rw [set_getElem_self] at hpush
  rw [hpush, getD_eq_getElem _ _ h]

theorem stackList_set {i : ℕ} (word : UInt16) (h : i < base ∨ base + count ≤ i) :
    stackList (free.set i word) base count = stackList free base count := by
  rw [stackList, stackList, drop_set]
  split_ifs with hlow
  · rfl
  · rw [take_set_of_le (by omega)]

/-- The stack holds the entries from `low` to `high` which are not live. -/
structure FreeStack (list : List ℕ) (low high : ℕ) (live : Finset ℕ) : Prop where
  nodup : list.Nodup
  mem : ∀ i, i ∈ list ↔ low ≤ i ∧ i < high ∧ i ∉ live

namespace FreeStack

variable {list : List ℕ} {low high i : ℕ} {live : Finset ℕ}

/-- A live entry of the class leaves room on the stack. -/
theorem length_lt (h : FreeStack list low high live) (hlow : low ≤ i) (hhigh : i < high)
    (hlive : i ∈ live) : list.length < high - low := by
  have hsub : list.toFinset ⊆ (Finset.Ico low high).erase i := by
    intro j hj
    obtain ⟨hjlow, hjhigh, hjlive⟩ := (h.mem j).mp (mem_toFinset.mp hj)
    refine Finset.mem_erase.mpr ⟨?_, Finset.mem_Ico.mpr ⟨hjlow, hjhigh⟩⟩
    rintro rfl
    exact hjlive hlive
  have hcard := Finset.card_le_card hsub
  rw [toFinset_card_of_nodup h.nodup,
    Finset.card_erase_of_mem (Finset.mem_Ico.mpr ⟨hlow, hhigh⟩), card_Ico] at hcard
  omega

theorem push (h : FreeStack list low high live) (hlow : low ≤ i) (hhigh : i < high)
    (hlive : i ∈ live) : FreeStack (list ++ [i]) low high (live.erase i) := by
  constructor
  · rw [nodup_append]
    refine ⟨h.nodup, by simp, ?_⟩
    intro j hj other hother
    rw [mem_singleton] at hother
    rintro rfl
    exact ((h.mem j).mp hj).2.2 (hother ▸ hlive)
  · intro j
    rw [mem_append, h.mem, mem_singleton, Finset.mem_erase]
    constructor
    · rintro (⟨hl, hr, hj⟩ | rfl)
      · exact ⟨hl, hr, fun hmem => hj hmem.2⟩
      · exact ⟨hlow, hhigh, fun hmem => hmem.1 rfl⟩
    · rintro ⟨hl, hr, hj⟩
      by_cases hji : j = i
      · exact Or.inr hji
      · exact Or.inl ⟨hl, hr, fun hmem => hj ⟨hji, hmem⟩⟩

theorem pop (h : FreeStack (list ++ [i]) low high live) :
    FreeStack list low high (insert i live) := by
  have hnodup := nodup_append.mp h.nodup
  refine ⟨hnodup.1, fun j => ?_⟩
  have hmem := h.mem j
  rw [mem_append, mem_singleton] at hmem
  rw [Finset.mem_insert]
  constructor
  · intro hj
    obtain ⟨hl, hr, hjlive⟩ := hmem.mp (Or.inl hj)
    refine ⟨hl, hr, ?_⟩
    rintro (rfl | hmem')
    · exact hnodup.2.2 j hj j (mem_singleton_self j) rfl
    · exact hjlive hmem'
  · rintro ⟨hl, hr, hj⟩
    rcases hmem.mpr ⟨hl, hr, fun hlive => hj (Or.inr hlive)⟩ with hj' | rfl
    · exact hj'
    · exact absurd (Or.inl rfl) hj

theorem congr {other : Finset ℕ} (h : FreeStack list low high live)
    (heq : ∀ j, low ≤ j → j < high → (j ∈ other ↔ j ∈ live)) : FreeStack list low high other := by
  refine ⟨h.nodup, fun j => (h.mem j).trans ?_⟩
  constructor
  · rintro ⟨hl, hr, hj⟩
    exact ⟨hl, hr, fun hmem => hj ((heq j hl hr).mp hmem)⟩
  · rintro ⟨hl, hr, hj⟩
    exact ⟨hl, hr, fun hmem => hj ((heq j hl hr).mpr hmem)⟩

end FreeStack

/-! ## Cells -/

theorem flowCell_entry {i : ℕ} (h : i < 6144) : flowCell (UInt16.ofNat (i + 1)) = .used i := by
  have hword : (UInt16.ofNat (i + 1)).toNat = i + 1 :=
    UInt16.toNat_ofNat_of_lt' (show _ < 2 ^ 16 by omega)
  have hzero : UInt16.ofNat (i + 1) ≠ 0 := by
    intro heq
    rw [heq] at hword
    simp at hword
  have hmark : UInt16.ofNat (i + 1) ≠ flowTombstone := by
    intro heq
    rw [heq, flowTombstone, show (65535 : UInt16).toNat = 65535 from rfl] at hword
    omega
  rw [flowCell, if_neg hzero, if_neg hmark, hword, Nat.add_sub_cancel]

namespace ProductionFlowTableV1

theorem cells_set (f : ProductionFlowTableV1) {cell : ℕ} (h : cell < f.index.length)
    (word : UInt16) :
    { f with index := f.index.set cell word }.cells = update f.cells cell (flowCell word) := by
  funext c
  rcases eq_or_ne c cell with rfl | hne
  · rw [update_self, cells, getD_eq_getElem _ _ (by simpa using h), getElem_set_self]
  · rw [update_of_ne hne, cells, cells, getD_eq_getElem?_getD,
      getElem?_set_ne hne.symm, ← getD_eq_getElem?_getD]

variable {i : ℕ}

theorem entry_set (f : ProductionFlowTableV1) (h : i < f.entries.length)
    (e : ProductionFlowEntryV1) :
    { f with entries := f.entries.set i e }.entry = update f.entry i e := by
  funext j
  rcases eq_or_ne j i with rfl | hne
  · rw [update_self, entry, getD_eq_getElem _ _ (by simpa using h), getElem_set_self]
  · rw [update_of_ne hne, entry, entry, getD_eq_getElem?_getD,
      getElem?_set_ne hne.symm, ← getD_eq_getElem?_getD]

/-! ## The invariant -/

/-- The entries which hold a flow. -/
def live (f : ProductionFlowTableV1) : Finset ℕ :=
  (Finset.range f.entries.length).filter fun i => (f.entry i).generation ≠ 0

variable {f : ProductionFlowTableV1}

theorem mem_live : i ∈ f.live ↔ i < f.entries.length ∧ (f.entry i).generation ≠ 0 := by
  rw [live, Finset.mem_filter, Finset.mem_range]

/-- The free entries for TCP. -/
def tcpList (f : ProductionFlowTableV1) : List ℕ := stackList f.free 0 f.tcpFree.toNat

/-- The free entries for UDP. -/
def udpList (f : ProductionFlowTableV1) : List ℕ :=
  stackList f.free f.tcpCapacity.toNat f.udpFree.toNat

/-- What the constructor fixes. -/
structure Shaped (f : ProductionFlowTableV1) : Prop where
  alive : f.destroyed = false
  small : f.entries.length ≤ 6144
  split : f.tcpCapacity.toNat ≤ f.entries.length
  power : ∃ e, f.index.length = 2 ^ e
  wide : f.entries.length < f.index.length
  narrow : f.index.length ≤ 16384
  stack : f.free.length = f.entries.length

structure Sound (f : ProductionFlowTableV1) : Prop where
  shaped : f.Shaped
  tcpRoom : f.tcpFree.toNat ≤ f.tcpCapacity.toNat
  udpRoom : f.tcpCapacity.toNat + f.udpFree.toNat ≤ f.entries.length
  tcp : FreeStack f.tcpList 0 f.tcpCapacity.toNat f.live
  udp : FreeStack f.udpList f.tcpCapacity.toNat f.entries.length f.live
  probed : Probed f.index.length f.path f.cells (fun i => (f.entry i).key) f.live

variable {g : ProductionFlowTableV1}

theorem Shaped.congr (h : f.Shaped) (hdestroyed : g.destroyed = f.destroyed)
    (hentries : g.entries.length = f.entries.length) (hcapacity : g.tcpCapacity = f.tcpCapacity)
    (hindex : g.index.length = f.index.length) (hfree : g.free.length = f.free.length) :
    g.Shaped := by
  obtain ⟨halive, hsmall, hsplit, hpower, hwide, hnarrow, hstack⟩ := h
  rw [← hdestroyed] at halive
  rw [← hentries] at hsmall hsplit hwide hstack
  rw [← hcapacity] at hsplit
  rw [← hindex] at hpower hwide hnarrow
  rw [← hfree] at hstack
  exact ⟨halive, hsmall, hsplit, hpower, hwide, hnarrow, hstack⟩

theorem path_congr (h : g.index.length = f.index.length) : g.path = f.path := by
  funext k n
  rw [path, path, h]

/-- The paths of a table go through its whole index. -/
theorem Shaped.pathsCover (h : f.Shaped) : PathsCover f.index.length f.path := by
  obtain ⟨e, hpower⟩ := h.power
  have hpositive : 0 < f.index.length := lt_of_le_of_lt (zero_le _) h.wide
  have hpath (k : ProductionFlowKeyV1) (n : ℕ) : f.path k n =
      ((flowHashV1 k &&& UInt64.ofNat (f.index.length - 1)).toNat + n) % f.index.length := by
    rw [path]
    conv_lhs => rw [hpower, and_two_pow_sub_one_eq_mod, ← hpower]
  constructor
  · intro k n
    rw [hpath]
    exact mod_lt _ hpositive
  · intro k c hc
    simp only [hpath]
    generalize (flowHashV1 k &&& UInt64.ofNat (f.index.length - 1)).toNat = start
    have hstart := mod_lt start hpositive
    have hdivide := div_add_mod start f.index.length
    generalize start / f.index.length = turns at hdivide
    generalize start % f.index.length = rest at hstart hdivide
    subst hdivide
    by_cases hle : rest ≤ c
    · refine ⟨c - rest, by omega, ?_⟩
      rw [Nat.add_assoc, Nat.mul_add_mod, Nat.add_sub_cancel' hle, Nat.mod_eq_of_lt hc]
    · refine ⟨f.index.length + c - rest, by omega, ?_⟩
      rw [Nat.add_assoc, Nat.mul_add_mod, Nat.add_sub_cancel' (by omega),
        add_mod_left, Nat.mod_eq_of_lt hc]

section

variable (h : f.Sound)

include h

theorem Sound.card_live_lt : f.live.card < f.index.length := by
  have hcard := Finset.card_filter_le (Finset.range f.entries.length)
    fun i => (f.entry i).generation ≠ 0
  rw [Finset.card_range] at hcard
  exact lt_of_le_of_lt hcard h.shaped.wide

/-- Entries may change as long as they keep their key and stay live or free. -/
theorem Sound.set_entry {i : ℕ} (hi : i < f.entries.length)
    {e : ProductionFlowEntryV1} (hkey : e.key = (f.entry i).key)
    (hgeneration : e.generation = (f.entry i).generation) :
    { f with entries := f.entries.set i e }.Sound := by
  have hentry := f.entry_set hi e
  have hkeys : (fun j => ({ f with entries := f.entries.set i e }.entry j).key) =
      fun j => (f.entry j).key := by
    funext j
    rw [hentry]
    rcases eq_or_ne j i with rfl | hne
    · rw [update_self, hkey]
    · rw [update_of_ne hne]
  have hlive : { f with entries := f.entries.set i e }.live = f.live := by
    ext j
    rw [mem_live, mem_live, hentry, length_set]
    rcases eq_or_ne j i with rfl | hne
    · rw [update_self, hgeneration]
    · rw [update_of_ne hne]
  refine ⟨h.shaped.congr rfl length_set rfl rfl rfl, h.tcpRoom, ?_, ?_, ?_, ?_⟩
  · rw [length_set]
    exact h.udpRoom
  · rw [hlive]
    exact h.tcp
  · rw [hlive, length_set]
    exact h.udp
  · rw [hlive, hkeys]
    exact h.probed

/-! ## Removal -/

/-- The stacks after an entry was pushed. -/
theorem Sound.pushFree {i : ℕ} (hi : i ∈ f.live) :
    (f.pushFree i).tcpFree.toNat ≤ f.tcpCapacity.toNat ∧
      f.tcpCapacity.toNat + (f.pushFree i).udpFree.toNat ≤ f.entries.length ∧
      FreeStack (f.pushFree i).tcpList 0 f.tcpCapacity.toNat (f.live.erase i) ∧
      FreeStack (f.pushFree i).udpList f.tcpCapacity.toNat f.entries.length (f.live.erase i) := by
  obtain ⟨⟨-, hsmall, hsplit, -, -, -, hstack⟩, htcpRoom, hudpRoom, htcp, hudp, -⟩ := h
  have hinside := (mem_live.mp hi).1
  have hword : (UInt16.ofNat i).toNat = i :=
    UInt16.toNat_ofNat_of_lt' (show _ < 2 ^ 16 by omega)
  have hsucc {count : UInt16} (hcount : count.toNat < 6144) :
      (count + 1).toNat = count.toNat + 1 := by
    rw [UInt16.toNat_add]
    exact Nat.mod_eq_of_lt (by simp only [UInt16.toNat_one]; omega)
  by_cases hclass : i < f.tcpCapacity.toNat
  · have hroom := htcp.length_lt (zero_le _) hclass hi
    rw [tcpList, length_stackList (by omega), Nat.sub_zero] at hroom
    rw [ProductionFlowTableV1.pushFree, if_pos hclass]
    refine ⟨?_, hudpRoom, ?_, ?_⟩
    · rw [hsucc (by omega)]
      omega
    · have hpush := stackList_push (UInt16.ofNat i)
        (show 0 + f.tcpFree.toNat < f.free.length by omega)
      rw [zero_add, hword] at hpush
      rw [tcpList, hsucc (by omega), hpush]
      exact htcp.push (zero_le _) hclass hi
    · rw [udpList, stackList_set _ (Or.inl (by omega))]
      exact hudp.congr fun j hj _ => by
        rw [Finset.mem_erase]
        exact ⟨And.right, fun hmem => ⟨by omega, hmem⟩⟩
  · have hroom := hudp.length_lt (Nat.le_of_not_lt hclass) hinside hi
    rw [udpList, length_stackList (by omega)] at hroom
    rw [ProductionFlowTableV1.pushFree, if_neg hclass]
    refine ⟨htcpRoom, ?_, ?_, ?_⟩
    · rw [hsucc (by omega)]
      omega
    · rw [tcpList, stackList_set _ (Or.inr (show 0 + f.tcpFree.toNat ≤ _ by omega))]
      exact htcp.congr fun j _ hj => by
        rw [Finset.mem_erase]
        exact ⟨And.right, fun hmem => ⟨by omega, hmem⟩⟩
    · have hpush := stackList_push (UInt16.ofNat i)
        (show f.tcpCapacity.toNat + f.udpFree.toNat < f.free.length by omega)
      rw [hword] at hpush
      rw [udpList, hsucc (by omega), hpush]
      exact hudp.push (Nat.le_of_not_lt hclass) hinside hi

/-- An entry, a cell and the stacks may change together. -/
theorem Sound.change {i cell : ℕ} (hi : i < f.entries.length) (hcell : cell < f.index.length)
    {e : ProductionFlowEntryV1} {word tcpFree udpFree : UInt16} {free : List UInt16}
    {nextGeneration : UInt64} {entries : Finset ℕ} (hg : g = { f with
      entries := f.entries.set i e, index := f.index.set cell word, free, nextGeneration,
      tcpFree, udpFree })
    (hfree : free.length = f.free.length)
    (hlive : ∀ j, j ∈ entries ↔ if j = i then e.generation ≠ 0 else j ∈ f.live)
    (htcpRoom : tcpFree.toNat ≤ f.tcpCapacity.toNat)
    (hudpRoom : f.tcpCapacity.toNat + udpFree.toNat ≤ f.entries.length)
    (htcp : FreeStack (stackList free 0 tcpFree.toNat) 0 f.tcpCapacity.toNat entries)
    (hudp : FreeStack (stackList free f.tcpCapacity.toNat udpFree.toNat) f.tcpCapacity.toNat
      f.entries.length entries)
    (hprobed : Probed f.index.length f.path (update f.cells cell (flowCell word))
      (fun j => (update f.entry i e j).key) entries) :
    g.Sound ∧ g.entry = update f.entry i e ∧ g.entries.length = f.entries.length ∧
      g.live = entries := by
  have hentry : g.entry = update f.entry i e := by
    rw [hg]
    exact f.entry_set hi e
  have hcells : g.cells = update f.cells cell (flowCell word) := by
    rw [hg]
    exact f.cells_set hcell word
  have hentries : g.entries.length = f.entries.length := by rw [hg, length_set]
  have hindex : g.index.length = f.index.length := by rw [hg, length_set]
  have hsame : g.live = entries := by
    ext j
    rw [mem_live, hentry, hentries, hlive]
    split_ifs with hji
    · simp [hji, hi]
    · rw [update_of_ne hji, mem_live]
  refine ⟨?_, hentry, hentries, hsame⟩
  rw [← hentry, ← hcells, ← hindex, ← path_congr hindex, ← hsame] at hprobed
  rw [← hsame, ← hentries] at hudp
  rw [← hsame] at htcp
  rw [← hentries] at hudpRoom
  subst hg
  exact ⟨h.shaped.congr rfl hentries rfl hindex hfree, htcpRoom, hudpRoom, htcp, hudp, hprobed⟩

theorem Sound.removeLockedV1 {i : ℕ} (hi : i ∈ f.live) :
    (f.removeLockedV1 i).Sound ∧
      (f.removeLockedV1 i).entry = update f.entry i {} ∧
      (f.removeLockedV1 i).entries.length = f.entries.length ∧
      (f.removeLockedV1 i).live = f.live.erase i := by
  obtain ⟨cell, hcell, hfind, hused⟩ := h.probed.probe_eq h.shaped.pathsCover hi
  obtain ⟨htcpRoom, hudpRoom, htcp, hudp⟩ := h.pushFree hi
  have hmarked : f.removeLockedV1 i =
      { f with
        entries := f.entries.set i {}
        index := f.index.set cell flowTombstone
        free := (f.pushFree i).free
        tcpFree := (f.pushFree i).tcpFree
        udpFree := (f.pushFree i).udpFree } := by
    rw [ProductionFlowTableV1.removeLockedV1, findLockedV1, hfind]
    simp only [ProductionFlowTableV1.pushFree]
    split_ifs <;> rfl
  have hfixed : (f.pushFree i).tcpCapacity = f.tcpCapacity ∧
      (f.pushFree i).free.length = f.free.length := by
    simp only [ProductionFlowTableV1.pushFree]
    split_ifs <;> simp
  rw [udpList, hfixed.1] at hudp
  refine h.change (mem_live.mp hi).1 hcell hmarked hfixed.2 (fun j => ?_) htcpRoom hudpRoom htcp
    hudp ?_
  · rw [Finset.mem_erase]
    split_ifs with hji
    · simp [hji]
    · exact and_iff_right hji
  · exact h.probed.erase hcell hused fun j _ hne => by rw [update_of_ne hne]

theorem Sound.expireEntry (now : Time) {i : ℕ} (hi : i < f.entries.length) :
    (ProductionFlowTableV1.expireEntry now f i).Sound ∧
      (ProductionFlowTableV1.expireEntry now f i).entries.length = f.entries.length := by
  rw [ProductionFlowTableV1.expireEntry]
  split_ifs with hexpired
  · rw [expired, decide_eq_true_eq] at hexpired
    obtain ⟨hsound, -, hlength, -⟩ := h.removeLockedV1 (mem_live.mpr ⟨hi, hexpired.1⟩)
    exact ⟨hsound, hlength⟩
  · exact ⟨h, rfl⟩

theorem Sound.expireLockedV1 (now : Time) : (f.expireLockedV1 now).Sound := by
  -- Expiry keeps the number of entries, so every index of the loop stays inside.
  have hloop : ∀ (is : List ℕ) (g : ProductionFlowTableV1), g.Sound →
      (∀ i ∈ is, i < g.entries.length) →
      (is.foldl (ProductionFlowTableV1.expireEntry now) g).Sound := by
    intro is
    induction is with
    | nil => exact fun g hg _ => hg
    | cons i is ih =>
      intro g hg hinside
      obtain ⟨hsound, hlength⟩ := hg.expireEntry now (hinside i mem_cons_self)
      refine ih _ hsound fun j hj => ?_
      rw [hlength]
      exact hinside j (mem_cons_of_mem _ hj)
  exact hloop _ f h fun i hi => mem_range.mp hi

/-! ## Insertion -/

/-- A popped entry is free and of its class; the stacks lose it. -/
theorem Sound.popFree {tcp : Bool} {i : ℕ} (hpop : f.popFree tcp = some (g, i)) :
    i < f.entries.length ∧ i ∉ f.live ∧
      g = { f with tcpFree := g.tcpFree, udpFree := g.udpFree } ∧
      g.tcpFree.toNat ≤ f.tcpCapacity.toNat ∧
      f.tcpCapacity.toNat + g.udpFree.toNat ≤ f.entries.length ∧
      FreeStack g.tcpList 0 f.tcpCapacity.toNat (insert i f.live) ∧
      FreeStack g.udpList f.tcpCapacity.toNat f.entries.length (insert i f.live) := by
  obtain ⟨⟨-, hsmall, hsplit, -, -, -, hstack⟩, htcpRoom, hudpRoom, htcp, hudp, -⟩ := h
  have hpred {count : UInt16} (hcount : count ≠ 0) : (count - 1).toNat + 1 = count.toNat := by
    have hpositive : 0 < count.toNat := by
      rw [pos_iff_ne_zero]
      intro hzero
      exact hcount (UInt16.toNat_inj.mp hzero)
    have hone : (1 : UInt16) ≤ count := UInt16.le_iff_toNat_le.mpr hpositive
    rw [UInt16.toNat_sub_of_le _ _ hone]
    exact Nat.sub_add_cancel hpositive
  cases tcp with
  | true =>
    rw [ProductionFlowTableV1.popFree, if_pos rfl] at hpop
    split_ifs at hpop with hempty
    obtain ⟨⟩ := hpop
    have hcount := hpred hempty
    have htop := @stackList_pop f.free 0 _ (show 0 + (f.tcpFree - 1).toNat < f.free.length by omega)
    rw [hcount, zero_add] at htop
    rw [tcpList, htop] at htcp
    obtain ⟨-, hhigh, hfree⟩ := (htcp.mem _).mp (mem_append_right _ (mem_singleton_self _))
    refine ⟨by omega, hfree, rfl, by dsimp only; omega, hudpRoom, htcp.pop, ?_⟩
    exact hudp.congr fun j hj _ => by
      rw [Finset.mem_insert]
      exact ⟨fun hmem => hmem.resolve_left (by omega), Or.inr⟩
  | false =>
    rw [ProductionFlowTableV1.popFree, if_neg (by simp)] at hpop
    split_ifs at hpop with hempty
    obtain ⟨⟩ := hpop
    have hcount := hpred hempty
    have htop := @stackList_pop f.free f.tcpCapacity.toNat _
      (show f.tcpCapacity.toNat + (f.udpFree - 1).toNat < f.free.length by omega)
    rw [hcount] at htop
    rw [udpList, htop] at hudp
    obtain ⟨hlow, hhigh, hfree⟩ := (hudp.mem _).mp (mem_append_right _ (mem_singleton_self _))
    refine ⟨hhigh, hfree, rfl, htcpRoom, by dsimp only; omega, ?_, hudp.pop⟩
    exact htcp.congr fun j _ hj => by
      rw [Finset.mem_insert]
      exact ⟨fun hmem => hmem.resolve_left (by omega), Or.inr⟩

end

theorem add_one_ne_zero_of_ne_max {generation : UInt64}
    (h : generation ≠ UInt64.ofNat (2 ^ 64 - 1)) : generation + 1 ≠ 0 := by
  intro hzero
  apply h
  have hnat := congrArg UInt64.toNat hzero
  have hlt := generation.toNat_lt
  rw [UInt64.toNat_add, UInt64.toNat_one, UInt64.toNat_zero] at hnat
  apply UInt64.toNat_inj.mp
  rw [UInt64.toNat_ofNat_of_lt' (by decide)]
  omega

/-- A key which was not found gets a fresh entry. -/
theorem Sound.insertLockedV1 (h : f.Sound) {k : ProductionFlowKeyV1}
    (hnone : (f.findLockedV1 k).1 = none)
    (hinsert : f.insertLockedV1 k (f.findLockedV1 k).2 = .ok (g, i)) :
    g.Sound ∧ i < f.entries.length ∧ i ∉ f.live ∧
      g.entry = update f.entry i { key := k, generation := f.nextGeneration + 1 } ∧
      g.live = insert i f.live ∧ g.entries.length = f.entries.length ∧
      f.nextGeneration ≠ UInt64.ofNat (2 ^ 64 - 1) ∧
      g.nextGeneration = f.nextGeneration + 1 := by
  obtain ⟨cell, hfind, hvacant⟩ := h.probed.probe_eq_none h.shaped.pathsCover h.card_live_lt hnone
  have hcell : cell < f.index.length := by
    obtain ⟨j, -, rfl, -⟩ := hvacant
    exact h.shaped.pathsCover.inside k j
  rw [findLockedV1, hfind, ProductionFlowTableV1.insertLockedV1] at hinsert
  split_ifs at hinsert with hmax
  rcases hpop : f.popFree (k.protocol = 6) with _ | ⟨popped, j⟩ <;>
    rw [hpop] at hinsert <;> cases hinsert
  obtain ⟨hinside, hfree, hpopped, htcpRoom, hudpRoom, htcp, hudp⟩ := h.popFree hpop
  obtain ⟨tcpFree, udpFree, rfl⟩ : ∃ tcpFree udpFree,
      popped = { f with tcpFree := tcpFree, udpFree := udpFree } := ⟨_, _, hpopped⟩
  have hsmall := h.shaped.small
  refine (h.change hinside hcell rfl rfl (fun j => ?_) htcpRoom hudpRoom htcp hudp ?_).elim
    fun hsound ⟨hentry, hlength, hlive⟩ =>
      ⟨hsound, hinside, hfree, hentry, hlive, hlength, hmax, rfl⟩
  · rw [Finset.mem_insert]
    split_ifs with hji
    · exact ⟨fun _ => add_one_ne_zero_of_ne_max hmax, fun _ => .inl hji⟩
    · exact or_iff_right hji
  · rw [flowCell_entry (show i < 6144 by omega)]
    refine h.probed.insert hfree (fun other hother => ?_) (fun other hother heq => ?_) ?_
    · have hne : other ≠ i := fun heq => hfree (heq ▸ hother)
      rw [update_of_ne hne]
    · rw [update_self] at heq
      have hfound := (h.probed.probe_eq_some_iff h.shaped.pathsCover k other).mpr ⟨hother, heq⟩
      rw [hfind] at hfound
      cases hfound
    · rw [update_self]
      exact hvacant

/-! ## The methods -/

theorem Sound.retain (h : f.Sound) (hi : i < f.entries.length) : (f.retain i).1.Sound := by
  rw [ProductionFlowTableV1.retain]
  split_ifs
  · exact h
  · exact h.set_entry hi rfl rfl

theorem findLockedV1_inside (h : f.Sound) {k : ProductionFlowKeyV1}
    (hfound : (f.findLockedV1 k).1 = some i) : i < f.entries.length :=
  (mem_live.mp ((h.probed.probe_eq_some_iff h.shaped.pathsCover k i).mp hfound).1).1

theorem Sound.reserveV1 {f : ProductionFlowTableV1} (h : f.Sound) (k : ProductionFlowKeyV1)
    (now : Time) : (f.reserveV1 k now).1.Sound := by
  rw [ProductionFlowTableV1.reserveV1]
  split_ifs
  · exact h
  · exact h
  have hexpired := h.expireLockedV1 now
  dsimp only
  generalize f.expireLockedV1 now = g at hexpired
  rcases hfind : g.findLockedV1 k with ⟨_ | i, cell⟩
  · have hnone : (g.findLockedV1 k).1 = none := by rw [hfind]
    rcases hinsert : g.insertLockedV1 k cell with err | ⟨inserted, i⟩ <;> dsimp only
    · rw [hinsert]
      exact hexpired
    · rw [hinsert]
      obtain ⟨hsound, hinside, -, -, -, hlength, -⟩ :=
        hexpired.insertLockedV1 hnone (by rw [hfind]; exact hinsert)
      exact hsound.retain (hlength ▸ hinside)
  · exact hexpired.retain (findLockedV1_inside hexpired (by rw [hfind]))

theorem entryLockedV1_eq_some {r : ProductionFlowRefV1} (h : f.entryLockedV1 r = some i) :
    f.destroyed = false ∧ i < f.entries.length ∧ r.index.toNat = i + 1 ∧
      (f.entry i).generation = r.generation ∧ r.generation ≠ 0 := by
  rw [entryLockedV1] at h
  split_ifs at h with hguard hsame
  obtain ⟨⟩ := h
  simp only [not_or, Bool.not_eq_true] at hguard
  obtain ⟨hdestroyed, hindex, hinside, hgeneration⟩ := hguard
  have hpositive : r.index.toNat ≠ 0 := fun hzero => hindex (UInt16.toNat_inj.mp hzero)
  exact ⟨hdestroyed, by omega, by omega, not_not.mp hsame, hgeneration⟩

/-- The reference `retain` returns leads back to the entry, which now counts it. -/
theorem Sound.retain_ok (h : f.Sound) (hi : i ∈ f.live) {r : ProductionFlowRefV1}
    (hretain : f.retain i = (g, .ok r)) : g.entryLockedV1 r = some i ∧
      (g.entry i).key = (f.entry i).key ∧ (g.entry i).references ≠ 0 := by
  obtain ⟨hinside, hgeneration⟩ := mem_live.mp hi
  have hsmall := h.shaped.small
  have hindex : (UInt16.ofNat (i + 1)).toNat = i + 1 :=
    UInt16.toNat_ofNat_of_lt' (show i + 1 < 2 ^ 16 by omega)
  rw [ProductionFlowTableV1.retain] at hretain
  split_ifs at hretain with hmax
  · cases hretain
  obtain ⟨rfl, ⟨⟩⟩ := Prod.mk.inj hretain
  rw [f.entry_set hinside, entryLockedV1, f.entry_set hinside, hindex, Nat.add_sub_cancel,
    update_self, length_set, if_neg, if_neg (not_not.mpr rfl)]
  · refine ⟨rfl, rfl, ?_⟩
    dsimp only
    intro hzero
    apply hmax
    rw [← UInt32.toNat_inj] at hzero ⊢
    have hlt := (f.entry i).references.toNat_lt
    rw [UInt32.toNat_add, UInt32.toNat_one, UInt32.toNat_zero] at hzero
    rw [UInt32.toNat_ofNat_of_lt' (by decide)]
    omega
  · rintro (hdestroyed | hzero | hlong | hfree)
    · rw [h.shaped.alive] at hdestroyed
      cases hdestroyed
    · exact Nat.succ_ne_zero i (hindex.symm.trans (congrArg UInt16.toNat hzero))
    · omega
    · exact hgeneration hfree

/-- A reservation returns a reference to a live entry with the key, which counts it. -/
theorem Sound.reserveV1_ok (h : f.Sound) {k : ProductionFlowKeyV1} {now : Time}
    {r : ProductionFlowRefV1} (hreserve : f.reserveV1 k now = (g, .ok r)) :
    ∃ i, g.entryLockedV1 r = some i ∧ (g.entry i).key = k ∧ (g.entry i).references ≠ 0 := by
  rw [ProductionFlowTableV1.reserveV1] at hreserve
  split_ifs at hreserve
  · cases hreserve
  · cases hreserve
  have hexpired := h.expireLockedV1 now
  dsimp only at hreserve
  generalize f.expireLockedV1 now = t at hexpired hreserve
  rcases hfind : t.findLockedV1 k with ⟨_ | i, cell⟩ <;> rw [hfind] at hreserve
  · rcases hinsert : t.insertLockedV1 k cell with err | ⟨inserted, i⟩ <;>
      simp only [hinsert] at hreserve
    · cases hreserve
    obtain ⟨hsound, -, -, hentry, hlive, -⟩ :=
      hexpired.insertLockedV1 (by rw [hfind]) (by rw [hfind]; exact hinsert)
    have hi : i ∈ inserted.live := hlive ▸ Finset.mem_insert_self i t.live
    obtain ⟨hlocked, hkey, hcounted⟩ := hsound.retain_ok hi hreserve
    exact ⟨i, hlocked, by rw [hkey, hentry, update_self], hcounted⟩
  · obtain ⟨hlive, hkey⟩ :=
      (hexpired.probed.probe_eq_some_iff hexpired.shaped.pathsCover k i).mp
        (congrArg Prod.fst hfind)
    obtain ⟨hlocked, hsame, hcounted⟩ := hexpired.retain_ok hlive hreserve
    exact ⟨i, hlocked, hsame.trans hkey, hcounted⟩

theorem Sound.acceptV1 (h : f.Sound) (r : ProductionFlowRefV1) (now : Time) :
    (f.acceptV1 r now).Sound := by
  rw [ProductionFlowTableV1.acceptV1]
  split
  · exact h
  · rename_i i hentry
    dsimp only
    split_ifs
    · exact h.set_entry (entryLockedV1_eq_some hentry).2.1 rfl rfl
    · exact h

theorem Sound.refreshV1 (h : f.Sound) (r : ProductionFlowRefV1) (now : Time) :
    (f.refreshV1 r now).Sound := by
  rw [ProductionFlowTableV1.refreshV1]
  split
  · exact h
  · rename_i i hentry
    dsimp only
    split_ifs
    · exact h.set_entry (entryLockedV1_eq_some hentry).2.1 rfl rfl
    · exact h

theorem Sound.releaseV1 (h : f.Sound) (r : ProductionFlowRefV1) : (f.releaseV1 r).Sound := by
  rw [ProductionFlowTableV1.releaseV1]
  split
  · exact h
  · rename_i i hentry
    obtain ⟨-, hinside, -, hgeneration, hne⟩ := entryLockedV1_eq_some hentry
    dsimp only
    split_ifs
    · refine ((h.set_entry hinside ?_ ?_).removeLockedV1 ?_).1
      · rfl
      · rfl
      · rw [mem_live, f.entry_set hinside, update_self, length_set]
        exact ⟨hinside, hgeneration ▸ hne⟩
    · exact h.set_entry hinside rfl rfl
    · exact h

theorem Sound.lookupV1 (h : f.Sound) (k : ProductionFlowKeyV1) (now : Time) :
    (f.lookupV1 k now).1.Sound := by
  rw [ProductionFlowTableV1.lookupV1]
  split_ifs
  · exact h
  have hexpired := h.expireLockedV1 now
  dsimp only
  split
  · exact hexpired
  · split_ifs <;> exact hexpired

theorem Sound.step (h : f.Sound) (call : FlowCall) : (f.step call).1.Sound := by
  cases call with
  | reserve k now => exact h.reserveV1 k now
  | accept r now => exact h.acceptV1 r now
  | release r => exact h.releaseV1 r
  | lookup k now => exact h.lookupV1 k now
  | refresh r now => exact h.refreshV1 r now
  | expire now => exact h.expireLockedV1 now

end ProductionFlowTableV1

/-! ## Construction -/

theorem doubleUntil_eq (limit fuel index : ℕ) :
    ∃ e, doubleUntil limit fuel index = index * 2 ^ e := by
  induction fuel generalizing index with
  | zero => exact ⟨0, (mul_one index).symm⟩
  | succ fuel ih =>
    rw [doubleUntil]
    split_ifs
    · obtain ⟨e, he⟩ := ih (index * 2)
      exact ⟨e + 1, by rw [he, pow_succ', mul_assoc]⟩
    · exact ⟨0, (mul_one index).symm⟩

theorem le_doubleUntil {limit fuel index : ℕ} (h : limit ≤ index * 2 ^ fuel) :
    limit ≤ doubleUntil limit fuel index := by
  induction fuel generalizing index with
  | zero => simpa [doubleUntil] using h
  | succ fuel ih =>
    rw [doubleUntil]
    split_ifs with hlt
    · exact ih (by rwa [pow_succ', ← mul_assoc] at h)
    · exact Nat.le_of_not_lt hlt

theorem stackList_range {n : ℕ} (hn : n ≤ 6144) (h : base + count ≤ n) :
    stackList ((range n).map UInt16.ofNat) base count = range' base count := by
  refine ext_getElem ?_ fun i hi _ => ?_
  · rw [length_stackList (by simpa using h), length_range']
  · rw [length_stackList (by simpa using h)] at hi
    simp only [stackList, getElem_map, getElem_take, getElem_drop,
      getElem_range, getElem_range', Nat.one_mul]
    exact UInt16.toNat_ofNat_of_lt' (show _ < 2 ^ 16 by omega)

theorem freeStack_range (low high : ℕ) (h : low ≤ high) :
    FreeStack (range' low (high - low)) low high ∅ := by
  refine ⟨nodup_range', fun i => ?_⟩
  rw [mem_range'_1, Nat.add_sub_cancel' h]
  simp

theorem productionFlowStorageV1_eq_ok {tcp udp : UInt16} {storage : ℕ × ℕ}
    (h : productionFlowStorageV1 tcp udp = .ok storage) :
    tcp.toNat + udp.toNat ≤ 6144 ∧ 0 < tcp.toNat + udp.toNat ∧ storage.2 ≤ 16384 ∧
      storage.2 = doubleUntil (2 * (tcp.toNat + udp.toNat)) (2 * (tcp.toNat + udp.toNat)) 1 := by
  simp only [productionFlowStorageV1, check_ok_iff, ensure_eq_ok] at h
  obtain ⟨⟨htcp, hudp, hpositive⟩, ⟨hindex, -⟩, ⟨⟩⟩ := h
  have htcpNat : tcp.toNat ≤ 4096 := UInt16.le_iff_toNat_le.mp htcp
  have hudpNat : udp.toNat ≤ 2048 := UInt16.le_iff_toNat_le.mp hudp
  exact ⟨by omega, by omega, hindex, rfl⟩

theorem newProductionFlowTableV1_sound {tcp udp : UInt16} {idle : Int}
    {f : ProductionFlowTableV1} (h : newProductionFlowTableV1 tcp udp idle = .ok f) : f.Sound := by
  obtain ⟨storage, hstorage, h⟩ := bind_ok_iff.mp h
  obtain ⟨-, h⟩ := check_ok_iff.mp h
  obtain ⟨⟩ := h
  obtain ⟨hsmall, hpositive, hnarrow, hindex⟩ := productionFlowStorageV1_eq_ok hstorage
  generalize storage.2 = index at hnarrow hindex
  have hempty (i : ℕ) : (replicate (tcp.toNat + udp.toNat)
      ({} : ProductionFlowEntryV1)).getD i {} = {} := by
    rw [getD_eq_getElem?_getD, getElem?_getD_replicate_default_eq]
  have hwords (c : ℕ) : (replicate index (0 : UInt16)).getD c 0 = 0 := by
    rw [getD_eq_getElem?_getD, getElem?_getD_replicate_default_eq]
  have hwide : 2 * (tcp.toNat + udp.toNat) ≤ index := by
    rw [hindex]
    exact le_doubleUntil (by rw [Nat.one_mul]; exact Nat.lt_two_pow_self.le)
  have hlive (f : ProductionFlowTableV1)
      (hentries : f.entries = replicate (tcp.toNat + udp.toNat) {}) : f.live = ∅ := by
    ext i
    rw [mem_live, entry, hentries, hempty]
    simp
  have htcp := stackList_range hsmall (show 0 + tcp.toNat ≤ _ by omega)
  have hudp := stackList_range hsmall (le_refl (tcp.toNat + udp.toNat))
  refine ⟨⟨rfl, ?_, ?_, ?_, ?_, ?_, ?_⟩, le_refl tcp.toNat, ?_, ?_, ?_, ?_⟩
  · simpa using hsmall
  · simp
  · obtain ⟨e, he⟩ := doubleUntil_eq (2 * (tcp.toNat + udp.toNat)) (2 * (tcp.toNat + udp.toNat)) 1
    exact ⟨e, by simpa [← hindex] using he⟩
  · simp only [length_replicate]
    omega
  · simpa using hnarrow
  · simp
  · simp
  · rw [hlive _ rfl, tcpList, htcp]
    exact freeStack_range 0 tcp.toNat (zero_le _)
  · rw [hlive _ rfl, udpList, hudp, length_replicate]
    simpa using freeStack_range tcp.toNat (tcp.toNat + udp.toNat) (le_add_right _ _)
  · rw [hlive _ rfl]
    refine probed_empty fun c => ?_
    rw [cells, hwords, flowCell, if_pos rfl]

/-! ## Runs -/

/-- After every run from a constructed table the live entries and the occupied cells
correspond one to one, a search finds exactly the keys of the live entries, the free
lists hold every other entry once, and a search which fails returns a cell that can be
written to. -/
theorem flow_table_representation (tcp udp : UInt16) (idle : Int)
    (f : ProductionFlowTableV1) (h : newProductionFlowTableV1 tcp udp idle = .ok f)
    (calls : List FlowCall) :
    let t := stateAfter step f calls
    (∀ c i, t.cells c = .used i → c < t.index.length ∧ i ∈ t.live) ∧
      (∀ i ∈ t.live, ∃! c, t.cells c = .used i) ∧
      (∀ k i, (t.findLockedV1 k).1 = some i ↔ i ∈ t.live ∧ (t.entry i).key = k) ∧
      t.tcpList.Nodup ∧ t.udpList.Nodup ∧ t.tcpList.Disjoint t.udpList ∧
      (∀ i, i < t.entries.length ↔ i ∈ t.tcpList ∨ i ∈ t.udpList ∨ i ∈ t.live) ∧
      (∀ i ∈ t.live, i ∉ t.tcpList ∧ i ∉ t.udpList) ∧
      (∀ k, (t.findLockedV1 k).1 = none → ∃ c < t.index.length,
        t.findLockedV1 k = (none, some c) ∧ ∀ i, t.cells c ≠ .used i) := by
  intro t
  have hsound : t.Sound := stateAfter_invariant _ (fun s call hs => hs.step call)
    (newProductionFlowTableV1_sound h) calls
  have hcover := hsound.shaped.pathsCover
  have hsplit := hsound.shaped.split
  have hinside (c i : ℕ) (hused : t.cells c = .used i) : c < t.index.length := by
    by_contra hout
    rw [cells, getD_eq_default _ _ (Nat.le_of_not_lt hout), flowCell, if_pos rfl] at hused
    cases hused
  refine ⟨?_, ?_, ?_, hsound.tcp.nodup, hsound.udp.nodup, ?_, ?_, ?_, ?_⟩
  · intro c i hused
    exact ⟨hinside c i hused, hsound.probed.stored c (hinside c i hused) i hused⟩
  · intro i hi
    obtain ⟨c, hc, -, hused⟩ := hsound.probed.probe_eq hcover hi
    refine ⟨c, hused, fun d hd => ?_⟩
    exact hsound.probed.single d (hinside d i hd) c hc i hd hused
  · exact hsound.probed.probe_eq_some_iff hcover
  · intro i htcp hudp
    have hlow := (hsound.tcp.mem i).mp htcp
    have hhigh := (hsound.udp.mem i).mp hudp
    omega
  · intro i
    rw [hsound.tcp.mem, hsound.udp.mem]
    constructor
    · intro hi
      by_cases hlive : i ∈ t.live
      · exact Or.inr (Or.inr hlive)
      · by_cases hclass : i < t.tcpCapacity.toNat
        · exact Or.inl ⟨zero_le _, hclass, hlive⟩
        · exact Or.inr (Or.inl ⟨Nat.le_of_not_lt hclass, hi, hlive⟩)
    · rintro (⟨-, hclass, -⟩ | ⟨-, hi, -⟩ | hlive)
      · omega
      · exact hi
      · exact (mem_live.mp hlive).1
  · intro i hlive
    exact ⟨fun htcp => ((hsound.tcp.mem i).mp htcp).2.2 hlive,
      fun hudp => ((hsound.udp.mem i).mp hudp).2.2 hlive⟩
  · intro k hnone
    obtain ⟨c, hfind, n, -, rfl, hunused, -⟩ :=
      hsound.probed.probe_eq_none hcover hsound.card_live_lt hnone
    exact ⟨_, hcover.inside k n, hfind, hunused⟩

/-- A table with room for one TCP and one UDP flow. -/
def smallFlowTable : ProductionFlowTableV1 where
  entries := [{}, {}]
  index := [0, 0, 0, 0]
  free := [0, 1]
  idle := 1000
  nextGeneration := 0
  tcpCapacity := 1
  tcpFree := 1
  udpFree := 1
  destroyed := false

def sampleFlowKey : ProductionFlowKeyV1 :=
  { (default : ProductionFlowKeyV1) with sourcePort := 9, family := 4, protocol := 6 }

/-- A flow which is reserved again after its first entry was released. -/
def reservedAgain : List FlowCall :=
  [.reserve sampleFlowKey 5, .release ⟨1, 1⟩, .reserve sampleFlowKey 6]

theorem flow_table_representation_reservedAgain :
    newProductionFlowTableV1 1 1 1000 = .ok smallFlowTable ∧
      0 ∈ (stateAfter step smallFlowTable reservedAgain).live ∧
      ∃! c, (stateAfter step smallFlowTable reservedAgain).cells c = .used 0 := by
  have hnew : newProductionFlowTableV1 1 1 1000 = .ok smallFlowTable := rfl
  have hlive : 0 ∈ (stateAfter step smallFlowTable reservedAgain).live := by
    decide +kernel
  exact ⟨hnew, hlive,
    (flow_table_representation 1 1 1000 smallFlowTable hnew reservedAgain).2.1 0 hlive⟩

end Kurdistan.Runtime
