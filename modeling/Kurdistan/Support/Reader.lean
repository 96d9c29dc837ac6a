import Kurdistan.Support.Outcome

/-!
# Reading from a stream

A buffered reader over a source which hands out its bytes in chunks of any sizes.
`Yields` says what a read consumes and returns however the bytes are cut.
-/

namespace Kurdistan.Support

open List

variable {ε α β : Type}

abbrev Reader (ε : Type) := StateT (List (List UInt8)) (Except ε)

/-- `ReadByte`. Behind an exhausted chunk comes the next one of the source. -/
def readByte (atEnd : ε) : List (List UInt8) → Except ε (UInt8 × List (List UInt8))
  | [] => .error atEnd
  | [] :: chunks => readByte atEnd chunks
  | [byte] :: chunks => .ok (byte, chunks)
  | (byte :: chunk) :: chunks => .ok (byte, chunk :: chunks)

/-- `io.ReadFull`, whose error tells whether the stream ended in front of the first byte. -/
def readFull (atEnd within : ε) : ℕ → Reader ε (List UInt8)
  | 0 => pure []
  | n + 1 => do
    let byte ← (readByte atEnd : Reader ε UInt8)
    let rest ← readFull within within n
    pure (byte :: rest)

/-- Read byte by byte until `accept` finds a value in what was read, at most `fuel` bytes. -/
def readUntil (accept : List UInt8 → Option α) (atEnd limit : ε) : ℕ → List UInt8 → Reader ε α
  | 0, _ => throw limit
  | fuel + 1, buf => do
    let byte ← (readByte atEnd : Reader ε UInt8)
    match accept (buf ++ [byte]) with
    | some value => pure value
    | none => readUntil accept atEnd limit fuel (buf ++ [byte])

def readMany (read : Reader ε α) : ℕ → Reader ε (List α)
  | 0 => pure []
  | n + 1 => do
    let value ← read
    let rest ← readMany read n
    pure (value :: rest)

/-- In front of every tail, the read takes exactly `bytes` and returns `value`. -/
def Yields (read : Reader ε α) (bytes : List UInt8) (value : α) : Prop :=
  ∀ chunks tail, chunks.flatten = bytes ++ tail →
    ∃ rest, read chunks = .ok (value, rest) ∧ rest.flatten = tail

variable {atEnd limit : ε} {bytes : List UInt8} {value : α}

theorem readByte_eq {chunks : List (List UInt8)} {byte : UInt8}
    (h : chunks.flatten = byte :: bytes) :
    ∃ rest, readByte atEnd chunks = .ok (byte, rest) ∧ rest.flatten = bytes := by
  induction chunks with
  | nil => cases h
  | cons chunk chunks ih =>
    rcases chunk with _ | ⟨first, _ | ⟨second, chunk⟩⟩
    · exact ih h
    all_goals
      obtain ⟨rfl, rfl⟩ := cons.inj h
      exact ⟨_, rfl, rfl⟩

theorem Yields.bind {read : Reader ε α} {next : α → Reader ε β} {more : List UInt8} {result : β}
    (h : Yields read bytes value) (hnext : Yields (next value) more result) :
    Yields (read >>= next) (bytes ++ more) result := by
  intro chunks tail hchunks
  obtain ⟨rest, hread, hrest⟩ := h chunks (more ++ tail) (by rw [hchunks, append_assoc])
  obtain ⟨last, hlast, htail⟩ := hnext rest tail hrest
  exact ⟨last, by simp only [Bind.bind, StateT.bind, Except.bind, hread, hlast], htail⟩

theorem yields_byte_iff {byte : UInt8} {next : UInt8 → Reader ε α} :
    Yields (do next (← readByte atEnd)) (byte :: bytes) value ↔ Yields (next byte) bytes value := by
  constructor
  · intro h chunks tail hchunks
    exact h ([byte] :: chunks) tail (by simp [hchunks])
  · intro h
    change Yields _ ([byte] ++ bytes) _
    exact Yields.bind (fun _ _ => readByte_eq) h

theorem yields_pure_iff {other : α} :
    Yields (pure other : Reader ε α) bytes value ↔ other = value ∧ bytes = [] := by
  constructor
  · intro h
    obtain ⟨rest, hread, hrest⟩ := h [bytes] [] (by simp)
    obtain ⟨hvalue, rfl⟩ := Prod.mk.inj (Except.ok.inj hread)
    exact ⟨hvalue, by simpa using hrest⟩
  · rintro ⟨rfl, rfl⟩ chunks tail h
    exact ⟨chunks, rfl, h⟩

theorem Yields.map {read : Reader ε α} (h : Yields read bytes value) (f : α → β) :
    Yields (do pure (f (← read))) bytes (f value) := by
  have hmap : Yields (do pure (f (← read))) (bytes ++ []) (f value) :=
    h.bind (yields_pure_iff.mpr ⟨rfl, rfl⟩)
  rwa [append_nil] at hmap

theorem yields_readFull (atEnd within : ε) (bytes : List UInt8) :
    Yields (readFull atEnd within bytes.length) bytes bytes := by
  induction bytes generalizing atEnd with
  | nil => exact yields_pure_iff.mpr ⟨rfl, rfl⟩
  | cons byte bytes ih => exact yields_byte_iff.mpr ((ih within).map _)

theorem yields_readMany {read : Reader ε (List UInt8)} {values : List (List UInt8)}
    (h : ∀ value ∈ values, Yields read value value) :
    Yields (readMany read values.length) values.flatten values := by
  induction values with
  | nil => exact yields_pure_iff.mpr ⟨rfl, rfl⟩
  | cons value values ih =>
    rw [forall_mem_cons] at h
    exact h.1.bind ((ih h.2).map _)

/-- The loop ends exactly at the first value, within its limit. -/
theorem yields_readUntil_iff {accept : List UInt8 → Option α} {fuel : ℕ} {buf : List UInt8} :
    Yields (readUntil accept atEnd limit fuel buf) bytes value ↔
      0 < bytes.length ∧ bytes.length ≤ fuel ∧ accept (buf ++ bytes) = some value ∧
        ∀ n, n + 1 < bytes.length → accept (buf ++ bytes.take (n + 1)) = none := by
  induction fuel generalizing buf bytes with
  | zero =>
    constructor
    · intro h
      obtain ⟨rest, hread, -⟩ := h [bytes] [] (by simp)
      cases hread
    · omega
  | succ fuel ih =>
    cases bytes with
    | nil =>
      constructor
      · intro h
        obtain ⟨rest, hread, -⟩ := h [] [] rfl
        cases hread
      · simp
    | cons byte bytes =>
      rw [readUntil, yields_byte_iff]
      rcases hbyte : accept (buf ++ [byte]) with _ | found
      · rw [ih, append_assoc, singleton_append, length_cons]
        constructor
        · rintro ⟨-, hfuel, hvalue, hnone⟩
          refine ⟨by omega, by omega, hvalue, fun n hn => ?_⟩
          cases n with
          | zero => exact hbyte
          | succ n => simpa using hnone n (by omega)
        · rintro ⟨-, hfuel, hvalue, hnone⟩
          refine ⟨?_, by omega, hvalue, fun n hn => by simpa using hnone (n + 1) (by omega)⟩
          rcases bytes with _ | ⟨next, bytes⟩
          · cases hbyte.symm.trans hvalue
          · simp
      · rw [yields_pure_iff]
        constructor
        · rintro ⟨rfl, rfl⟩
          exact ⟨by simp, by simp, hbyte, by simp⟩
        · rintro ⟨-, -, hvalue, hnone⟩
          rcases bytes with _ | ⟨next, bytes⟩
          · exact ⟨Option.some.inj (hbyte.symm.trans hvalue), rfl⟩
          · cases hbyte.symm.trans (hnone 0 (by simp))

end Kurdistan.Support
