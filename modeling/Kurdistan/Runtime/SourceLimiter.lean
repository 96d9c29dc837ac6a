import Mathlib.Data.List.AList
import Kurdistan.Runtime.PacketAddress
import Kurdistan.Support.Runs

/-!
# The source limiter of a relay

`Allow` of a limiter which is not closed, so that it has its key. A source is the canonical
address of a peer, and the table holds the window of a source under a keyed digest.
`allow_live` says what an attempt does to a window which has not ended; the bounds of
every run follow from it.
-/

namespace Kurdistan.Runtime

open Support Product List

structure TCPAddr where
  ip : List UInt8
  zone : Text

/-- A peer which is not a TCP address is `none`. -/
def canonicalRemoteIPV1 (remote : Option TCPAddr) : Option (List UInt8) := do
  let tcpAddress ← remote
  guard (tcpAddress.zone = [] ∧ isAddress tcpAddress.ip)
  let address := unmap tcpAddress.ip
  guard (¬ isUnspecified address ∧ ¬ isMulticast address)
  return address

/-- HMAC with SHA-256, of a key and a message. -/
abbrev Mac := List UInt8 → List UInt8 → FixedBytes 32

def keyedSourceDigestV1 (m : Mac) (key address : List UInt8) : FixedBytes 32 :=
  m key (asciiBytes "kurd-relay-source-limit-v1" ++ 0 :: address)

structure SourceLimitEntryV1 where
  windowStart : Int
  attempts : ℕ

abbrev SourceTable := AList fun _ : FixedBytes 32 => SourceLimitEntryV1

/-- Times and durations are in nanoseconds. -/
structure SourceLimiterV1 where
  key : List UInt8
  entries : SourceTable
  capacity : Int
  maxAttempts : Int
  window : Int

def newSourceLimiterV1 (key : List UInt8) (capacity maxAttempts window : Int) :
    Option SourceLimiterV1 :=
  if key.length = 32 ∧ 0 < capacity ∧ capacity ≤ 65536 ∧ 0 < maxAttempts ∧ maxAttempts ≤ 1024 ∧
      10 ^ 9 ≤ window ∧ window ≤ 3600 * 10 ^ 9 then
    some ⟨key, ∅, capacity, maxAttempts, window⟩
  else none

/-- A call of `Allow` and the reading of its clock. -/
structure Attempt where
  remote : Option TCPAddr
  now : Int

namespace SourceLimiterV1

variable (l : SourceLimiterV1)

/-- The window has ended; `time.Time.Sub` saturates. -/
def expired (now : Int) (entry : SourceLimitEntryV1) : Bool :=
  l.window ≤ max (-2 ^ 63) (min (2 ^ 63 - 1) (now - entry.windowStart))

def removeExpiredV1 (now : Int) (entries : SourceTable) : SourceTable :=
  ⟨entries.entries.filter fun e => ¬ l.expired now e.2, entries.nodupKeys.sublist filter_sublist⟩

/-- The table without the window of the source, if that has ended. -/
def withoutEnded (now : Int) (digest : FixedBytes 32) : SourceTable :=
  if (l.entries.lookup digest).any (l.expired now) then l.entries.erase digest else l.entries

/-- The table in which an attempt looks up its source. -/
def current (now : Int) (digest : FixedBytes 32) : SourceTable :=
  let entries := l.withoutEnded now digest
  if digest ∉ entries ∧ l.capacity ≤ entries.keys.length then l.removeExpiredV1 now entries
  else entries

/-- An attempt of the source with this digest. -/
def allowSource (now : Int) (digest : FixedBytes 32) : SourceLimiterV1 × Bool :=
  let entries := l.current now digest
  let entry := (entries.lookup digest).getD ⟨now, 0⟩
  if digest ∉ entries ∧ l.capacity ≤ entries.keys.length ∨ l.maxAttempts ≤ entry.attempts then
    ({ l with entries }, false)
  else
    ({ l with entries := entries.insert digest { entry with attempts := entry.attempts + 1 } },
      true)

def allow (m : Mac) (l : SourceLimiterV1) (a : Attempt) : SourceLimiterV1 × Bool :=
  match canonicalRemoteIPV1 a.remote with
  | none => (l, false)
  | some address => l.allowSource a.now (keyedSourceDigestV1 m l.key address)

/-- The source of an attempt which was allowed. -/
def allowed (a : Attempt) (reply : Bool) : Option (List UInt8) :=
  if reply then canonicalRemoteIPV1 a.remote else none

variable {l : SourceLimiterV1} {m : Mac} {a : Attempt} {now : Int}
  {own digest : FixedBytes 32} {entry : SourceLimitEntryV1}

theorem keys_withoutEnded (l : SourceLimiterV1) (now : Int) (own : FixedBytes 32) :
    (l.withoutEnded now own).keys <+ l.entries.keys := by
  rw [withoutEnded]
  split_ifs
  · rw [AList.keys_erase]
    exact erase_sublist
  · exact .refl _

theorem keys_current (l : SourceLimiterV1) (now : Int) (own : FixedBytes 32) :
    (l.current now own).keys <+ (l.withoutEnded now own).keys := by
  rw [current]
  split_ifs
  · exact filter_sublist.map _
  · exact .refl _

theorem mem_current (own : FixedBytes 32) (h : entry ∈ l.entries.lookup digest)
    (hlive : l.expired now entry = false) : entry ∈ (l.current now own).lookup digest := by
  have hkept : entry ∈ (l.withoutEnded now own).lookup digest := by
    rw [withoutEnded]
    split_ifs with hended
    · have hne : digest ≠ own := by
        rintro rfl
        rw [h, Option.any_some, hlive] at hended
        cases hended
      rwa [AList.lookup_erase_ne hne]
    · exact h
  rw [current]
  split_ifs
  · rw [AList.mem_lookup_iff] at hkept ⊢
    exact mem_filter.mpr ⟨hkept, by simp [hlive]⟩
  · exact hkept

theorem length_allowSource (h : l.entries.keys.length ≤ l.capacity) :
    (l.allowSource now own).1.entries.keys.length ≤ l.capacity := by
  have hle := ((keys_current l now own).trans (keys_withoutEnded l now own)).length_le
  rw [allowSource]
  split_ifs with hrefused
  · dsimp only
    omega
  · rw [AList.keys_insert, length_cons, length_erase]
    split_ifs with hmem
    · have hpos := length_pos_of_mem hmem
      omega
    · have hroom := not_and.mp (not_or.mp hrefused).1 hmem
      omega

variable {start : Int} {n : ℕ}

/-- A window which has not ended keeps its start, and only its own attempts count. -/
theorem allowSource_live (own : FixedBytes 32) (h : ⟨start, n⟩ ∈ l.entries.lookup digest)
    (hlive : l.expired now ⟨start, n⟩ = false) :
    let n' := n + ((l.allowSource now own).2 && own = digest).toNat
    ⟨start, n'⟩ ∈ (l.allowSource now own).1.entries.lookup digest ∧
      (n ≤ l.maxAttempts → n' ≤ l.maxAttempts) := by
  have hcurrent := mem_current own h hlive
  rw [allowSource]
  by_cases hown : own = digest
  · subst hown
    rw [Option.mem_def.mp hcurrent, Option.getD_some]
    split_ifs with hrefused
    · simpa using hcurrent
    · have hroom : (n : Int) < l.maxAttempts := not_le.mp (not_or.mp hrefused).2
      refine ⟨by simp, fun _ => ?_⟩
      simpa using Int.add_one_le_of_lt hroom
  · split_ifs
    · simpa using hcurrent
    · simpa [hown, AList.lookup_insert_ne (Ne.symm hown)] using hcurrent

/-- An attempt which is allowed without a live window opens one. -/
theorem allowSource_opens (hopen : (l.entries.lookup own).all (l.expired now) = true)
    (hallowed : (l.allowSource now own).2 = true) :
    ⟨now, 1⟩ ∈ (l.allowSource now own).1.entries.lookup own := by
  have hnone : own ∉ (l.current now own).keys := by
    intro hmem
    have hkept := (keys_current l now own).subset hmem
    rw [withoutEnded] at hkept
    split_ifs at hkept with hended
    · simp [l.entries.keys_nodup.mem_erase_iff] at hkept
    · obtain ⟨entry, hentry⟩ := Option.isSome_iff_exists.mp (AList.lookup_isSome.mpr hkept)
      simp_all
  rw [allowSource] at hallowed ⊢
  split_ifs at hallowed ⊢
  simp [AList.lookup_eq_none.mpr hnone]

/-- What an attempt does to a window which has not ended. -/
theorem allow_live (h : ⟨start, n⟩ ∈ l.entries.lookup digest)
    (hlive : l.expired a.now ⟨start, n⟩ = false) :
    let n' := n + ((allowed a (l.allow m a).2).toList.map (keyedSourceDigestV1 m l.key)).count
      digest
    ⟨start, n'⟩ ∈ (l.allow m a).1.entries.lookup digest ∧
      (n ≤ l.maxAttempts → n' ≤ l.maxAttempts) := by
  rw [allow, allowed]
  rcases canonicalRemoteIPV1 a.remote with _ | address
  · simpa using h
  · have hsource := allowSource_live (keyedSourceDigestV1 m l.key address) h hlive
    rcases eq_or_ne (keyedSourceDigestV1 m l.key address) digest with rfl | hown
    · cases hreply : (l.allowSource a.now (keyedSourceDigestV1 m l.key address)).2 <;>
        simpa [hreply] using hsource
    · cases hreply : (l.allowSource a.now (keyedSourceDigestV1 m l.key address)).2 <;>
        simpa [hown] using hsource

/-- An attempt changes nothing but the table, which stays within its capacity. -/
theorem allow_config (l : SourceLimiterV1) (m : Mac) (a : Attempt) :
    (l.allow m a).1 = { l with entries := (l.allow m a).1.entries } ∧
      (l.entries.keys.length ≤ l.capacity → (l.allow m a).1.entries.keys.length ≤ l.capacity) := by
  rw [allow]
  rcases canonicalRemoteIPV1 a.remote with _ | address
  · exact ⟨rfl, id⟩
  · refine ⟨?_, length_allowSource⟩
    dsimp only
    rw [allowSource]
    split_ifs
    · rfl
    · rfl

/-- What a run does to a window which does not end in it. -/
theorem run_live {within : List Attempt} (hwindow : 10 ^ 9 ≤ l.window ∧ l.window ≤ 3600 * 10 ^ 9)
    (h : ⟨start, n⟩ ∈ l.entries.lookup digest) (hwithin : ∀ a ∈ within, a.now < start + l.window) :
    let n' := n + ((emissions (allow m) allowed l within).map
      (keyedSourceDigestV1 m l.key)).count digest
    ⟨start, n'⟩ ∈ (stateAfter (allow m) l within).entries.lookup digest ∧
      (n ≤ l.maxAttempts → n' ≤ l.maxAttempts) := by
  induction within generalizing l n with
  | nil => simpa [emissions] using h
  | cons a within ih =>
    obtain ⟨hnow, hrest⟩ := forall_mem_cons.mp hwithin
    have hlive : l.expired a.now ⟨start, n⟩ = false := by
      simp only [expired, decide_eq_false_iff_not]
      omega
    obtain ⟨hlookup, hmax⟩ := allow_live (m := m) h hlive
    rw [stateAfter_cons, emissions, map_append, count_append, ← Nat.add_assoc]
    rw [(allow_config l m a).1] at hlookup ⊢
    obtain ⟨hend, hbound⟩ := ih (l := { l with entries := (l.allow m a).1.entries }) hwindow
      hlookup hrest
    exact ⟨hend, fun hn => hbound (hmax hn)⟩

/-- A window admits at most the configured number of attempts, the first included. -/
theorem count_window {within : List Attempt} {address : List UInt8}
    (hwindow : 10 ^ 9 ≤ l.window ∧ l.window ≤ 3600 * 10 ^ 9) (hmax : 0 < l.maxAttempts)
    (hsource : address ∈ canonicalRemoteIPV1 a.remote)
    (hopen : (l.entries.lookup (keyedSourceDigestV1 m l.key address)).all (l.expired a.now) = true)
    (hreply : (l.allow m a).2 = true) (hwithin : ∀ b ∈ within, b.now < a.now + l.window) :
    (emissions (allow m) allowed l (a :: within)).count address ≤ l.maxAttempts := by
  have hopened : ⟨a.now, 1⟩ ∈
      (l.allow m a).1.entries.lookup (keyedSourceDigestV1 m l.key address) := by
    rw [allow, Option.mem_def.mp hsource] at hreply ⊢
    exact allowSource_opens hopen hreply
  rw [emissions, allowed, hreply, if_pos rfl, hsource, Option.toList_some, singleton_append,
    count_cons_self]
  rw [(allow_config l m a).1] at hopened ⊢
  have hbound := (run_live (l := { l with entries := (l.allow m a).1.entries }) (m := m) hwindow
    hopened hwithin).2 hmax
  refine (Int.ofNat_le.mpr ?_).trans hbound
  rw [Nat.add_comm]
  exact Nat.add_le_add_left count_le_count_map 1

end SourceLimiterV1

open SourceLimiterV1 in
/-- In every state of a run the table is within its capacity. An entry whose window does not
end keeps its start whatever happens, and its count unless its own digest is counted. A window
which is opened by an attempt admits at most the configured number of attempts, and an IPv4
address is treated like its IPv6 form. -/
theorem source_limiter (m : Mac) (key : List UInt8) (capacity maxAttempts window : Int)
    (l : SourceLimiterV1) (hnew : newSourceLimiterV1 key capacity maxAttempts window = some l)
    (before within : List Attempt) :
    let s := stateAfter (allow m) l before
    s.entries.keys.length ≤ capacity ∧
    (∀ digest, ∀ entry ∈ s.entries.lookup digest,
      (∀ a ∈ within, a.now < entry.windowStart + window) →
        ⟨entry.windowStart, entry.attempts + ((emissions (allow m) allowed s within).map
          (keyedSourceDigestV1 m key)).count digest⟩ ∈
            (stateAfter (allow m) s within).entries.lookup digest) ∧
    (∀ a, ∀ address ∈ canonicalRemoteIPV1 a.remote,
      (s.entries.lookup (keyedSourceDigestV1 m key address)).all (s.expired a.now) = true →
      (s.allow m a).2 = true → (∀ b ∈ within, b.now < a.now + window) →
        (emissions (allow m) allowed s (a :: within)).count address ≤ maxAttempts) ∧
    ∀ ip, ip.length = 4 → ∀ now,
      s.allow m ⟨some ⟨embedded ip, []⟩, now⟩ = s.allow m ⟨some ⟨ip, []⟩, now⟩ := by
  rw [newSourceLimiterV1] at hnew
  split_ifs at hnew with hconfig
  obtain ⟨-, hcapacity, -, hmax, -, hwindow⟩ := hconfig
  cases hnew
  let Inv := fun s : SourceLimiterV1 =>
    (∃ entries, s = ⟨key, entries, capacity, maxAttempts, window⟩) ∧
      s.entries.keys.length ≤ s.capacity
  have hstep : ∀ s a, Inv s → Inv (s.allow m a).1 := by
    rintro _ a ⟨⟨entries, rfl⟩, hsize⟩
    obtain ⟨hsame, hroom⟩ := allow_config ⟨key, entries, capacity, maxAttempts, window⟩ m a
    rw [hsame] at hroom ⊢
    exact ⟨⟨_, rfl⟩, hroom hsize⟩
  obtain ⟨⟨entries, hs⟩, hsize⟩ :=
    stateAfter_invariant Inv hstep ⟨⟨∅, rfl⟩, hcapacity.le⟩ before
  rw [hs] at hsize ⊢
  refine ⟨hsize, ?_, ?_, fun ip hip now => ?_⟩
  · exact fun digest entry hentry hwithin => (run_live hwindow hentry hwithin).1
  · exact fun a address => count_window hwindow hmax
  · have hcanonical : canonicalRemoteIPV1 (some ⟨embedded ip, []⟩) =
        canonicalRemoteIPV1 (some ⟨ip, []⟩) := by
      rw [canonicalRemoteIPV1, canonicalRemoteIPV1]
      simp only [Option.bind_eq_bind, Option.bind_some, unmap_embedded hip, unmap_of_length hip]
      simp [isAddress, embedded, hip]
    simp only [allow, hcanonical]

/-- Of three attempts at once a window for two attempts admits two. -/
theorem source_limiter_pair :
    let m : Mac := fun key _ => fixedBytes 32 key
    let l : SourceLimiterV1 := ⟨replicate 32 0, ∅, 1, 2, 10 ^ 9⟩
    let a : Attempt := ⟨some ⟨[10, 0, 0, 1], []⟩, 0⟩
    (emissions (SourceLimiterV1.allow m) SourceLimiterV1.allowed l [a, a, a]).count [10, 0, 0, 1] ≤
      (2 : Int) := by
  intro m l a
  exact (source_limiter m (replicate 32 0) 1 2 (10 ^ 9) l rfl [] [a, a]).2.2.1 a _ rfl rfl
    (by decide) (by decide)

end Kurdistan.Runtime
