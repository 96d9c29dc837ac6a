import Kurdistan.Support.Buffer
import Kurdistan.Framing.CodecSpec

/-!
# Padding and fragment sizes

The deterministic padding engine and the fragment sizes of the scheduler. The
random source is a parameter: all the engine needs of it is that a seed
determines the stream of draws and that a bounded draw respects its bound.
-/

namespace Kurdistan.Framing

open Support Protocol

/-- `math/rand`. `intn bound` is `Intn(bound + 1)`. -/
structure RandSource where
  State : Type
  seed : Int64 → State
  float64 : State → Float64 × State
  intn : (bound : ℕ) → State → Fin (bound + 1) × State

/-- A source whose draws are all zero. -/
def zeroSource : RandSource where
  State := Unit
  seed _ := ()
  float64 rng := (.finite 0, rng)
  intn _ rng := (0, rng)

variable {source : RandSource}

structure Engine (source : RandSource) where
  policy : PaddingPolicy
  rng : source.State

/-- `padding.New`. -/
def newEngine (source : RandSource) (policy : PaddingPolicy) (seed : Int64) : Engine source :=
  ⟨policy, source.seed seed⟩

/-- `ResetSeed`: the source restarts as if newly created. -/
def Engine.resetSeed (e : Engine source) (seed : Int64) : Engine source :=
  { e with rng := source.seed seed }

/-- Whether this draw selects no padding; only probabilistic padding draws. -/
def Engine.skips (e : Engine source) : Bool × Engine source :=
  if e.policy.mode = .known .probabilistic then
    let draw := source.float64 e.rng
    (e.policy.probability.lt draw.1, { e with rng := draw.2 })
  else (false, e)

/-- The size within the bounds of the policy. `Intn` panics on the overflow of
its argument. -/
def Engine.drawSize (e : Engine source) : Except FramingError (Int × Engine source) :=
  if e.policy.maxPaddingBytes < e.policy.minPaddingBytes then
    .error (.text "invalid padding bounds")
  else if e.policy.minPaddingBytes < e.policy.maxPaddingBytes then
    let n := (Int64.ofInt (e.policy.maxPaddingBytes - e.policy.minPaddingBytes + 1)).toInt
    if n ≤ 0 then .error .panic
    else
      let draw := source.intn (n - 1).toNat e.rng
      .ok (e.policy.minPaddingBytes + draw.1, { e with rng := draw.2 })
  else .ok (e.policy.minPaddingBytes, e)

/-- `selectSize`; `none` when no padding is selected. -/
def Engine.selectSize (e : Engine source) : Except FramingError (Option Int × Engine source) :=
  let skip := e.skips
  if skip.1 then .ok (none, skip.2)
  else do
    let drawn ← skip.2.drawSize
    .ok (some drawn.1, drawn.2)

/-- `fill` on a slice of the given length. -/
def fill (source : RandSource) : ℕ → source.State → List UInt8 × source.State
  | 0, rng => ([], rng)
  | n + 1, rng =>
    let draw := source.intn 255 rng
    let rest := fill source n draw.2
    (UInt8.ofNat draw.1 :: rest.1, rest.2)

/-- Draw the padding of one frame: its bytes and the engine afterwards. -/
def Engine.generate (e : Engine source) : Except FramingError (List UInt8 × Engine source) :=
  if e.policy.mode = .known .none then .ok ([], e)
  else do
    let selected ← e.selectSize
    match selected.1 with
    | none => .ok ([], selected.2)
    | some size =>
      if size < 0 then .error .panic
      else
        let filled := fill source size.toNat selected.2.rng
        .ok (filled.1, { selected.2 with rng := filled.2 })

/-- `math.MaxInt`. -/
def maxInt : Int := 2 ^ 63 - 1

/-- `GenerateInto`: the number of padding bytes, the destination afterwards and
the engine afterwards. The destination has to hold the largest padding before
anything is drawn. -/
def Engine.generateInto (e : Engine source) (dst : List UInt8) :
    Except FramingError (ℕ × List UInt8 × Engine source) :=
  if e.policy.mode = .known .none then .ok (0, dst, e)
  else do
    ensure (0 ≤ e.policy.minPaddingBytes ∧
      e.policy.minPaddingBytes ≤ e.policy.maxPaddingBytes ∧
      e.policy.maxPaddingBytes - e.policy.minPaddingBytes ≠ maxInt)
      (.text "invalid padding bounds")
    ensure (e.policy.maxPaddingBytes ≤ dst.length) (.text "padding destination too short")
    let selected ← e.selectSize
    match selected.1 with
    | none => .ok (0, dst, selected.2)
    | some size =>
      if size < 0 ∨ (dst.length : Int) < size then .error .panic
      else
        let filled := fill source size.toNat selected.2.rng
        .ok (size.toNat, splice dst 0 filled.1, { selected.2 with rng := filled.2 })

/-! ## Bounds -/

@[simp] theorem length_fill (n : ℕ) (rng : source.State) : (fill source n rng).1.length = n := by
  induction n generalizing rng with
  | zero => rfl
  | succ n ih => simp [fill, ih]

/-- Padding bounds which fit in a machine integer. -/
structure BoundedPadding (policy : PaddingPolicy) : Prop where
  nonneg : 0 ≤ policy.minPaddingBytes
  ordered : policy.minPaddingBytes ≤ policy.maxPaddingBytes
  fits : policy.maxPaddingBytes < maxInt

/-- A padding is absent or within the bounds of the policy. -/
def PaddingWithin (policy : PaddingPolicy) (pad : List UInt8) : Prop :=
  pad = [] ∨ policy.minPaddingBytes ≤ pad.length ∧ (pad.length : Int) ≤ policy.maxPaddingBytes

@[simp] theorem skips_policy (e : Engine source) : e.skips.2.policy = e.policy := by
  rw [Engine.skips]
  split <;> rfl

/-- Wrapping a non-negative integer to 64 bits does not increase it. -/
theorem wrap_le {n : Int} (h : 0 ≤ n) : (Int64.ofInt n).toInt ≤ n := by
  rw [Int64.toInt_ofInt, Int.bmod_def, Int64.size]
  split <;> omega

variable {e e' : Engine source}

theorem drawSize_spec {size : Int} (h : e.drawSize = .ok (size, e')) :
    e'.policy = e.policy ∧ e.policy.minPaddingBytes ≤ size ∧ size ≤ e.policy.maxPaddingBytes := by
  unfold Engine.drawSize at h
  split at h
  · cases h
  · split at h
    · dsimp only at h
      split at h
      · cases h
      · obtain ⟨⟩ := h
        have hwrap := wrap_le (n := e.policy.maxPaddingBytes - e.policy.minPaddingBytes + 1)
          (by omega)
        refine ⟨rfl, ?_, ?_⟩ <;> omega
    · obtain ⟨⟩ := h
      refine ⟨rfl, ?_, ?_⟩ <;> omega

theorem selectSize_spec {selected : Option Int} (h : e.selectSize = .ok (selected, e')) :
    e'.policy = e.policy ∧ ∀ size ∈ selected,
      e.policy.minPaddingBytes ≤ size ∧ size ≤ e.policy.maxPaddingBytes := by
  unfold Engine.selectSize at h
  dsimp only at h
  split at h
  · obtain ⟨⟩ := h
    simp
  · obtain ⟨⟨size, drawn⟩, hdraw, hresult⟩ := bind_ok_iff.mp h
    obtain ⟨⟩ := hresult
    obtain ⟨hpolicy, hlow, hhigh⟩ := drawSize_spec hdraw
    rw [skips_policy] at hpolicy hlow hhigh
    refine ⟨hpolicy, ?_⟩
    rintro _ ⟨⟩
    exact ⟨hlow, hhigh⟩

/-- Whatever the engine draws respects the bounds of the policy. -/
theorem generate_spec {pad : List UInt8} (h : e.generate = .ok (pad, e')) :
    e'.policy = e.policy ∧ PaddingWithin e.policy pad := by
  unfold Engine.generate at h
  split at h
  · obtain ⟨⟩ := h
    exact ⟨rfl, .inl rfl⟩
  · obtain ⟨⟨selected, drawn⟩, hselect, hresult⟩ := bind_ok_iff.mp h
    obtain ⟨hpolicy, hbounds⟩ := selectSize_spec hselect
    cases selected with
    | none =>
      obtain ⟨⟩ := hresult
      exact ⟨hpolicy, .inl rfl⟩
    | some size =>
      obtain ⟨hlow, hhigh⟩ := hbounds size rfl
      dsimp only at hresult
      split at hresult
      · cases hresult
      · obtain ⟨⟩ := hresult
        refine ⟨hpolicy, .inr ?_⟩
        rw [length_fill]
        omega

theorem selectSize_total (h : BoundedPadding e.policy) :
    ∃ selected e', e.selectSize = .ok (selected, e') := by
  obtain ⟨hnonneg, hordered, hfits⟩ := h
  unfold Engine.selectSize
  dsimp only
  split
  · exact ⟨_, _, rfl⟩
  · have hwrap : (Int64.ofInt (e.policy.maxPaddingBytes - e.policy.minPaddingBytes +
        1)).toInt = e.policy.maxPaddingBytes - e.policy.minPaddingBytes + 1 := by
      simp only [maxInt] at hfits
      exact Int64.toInt_ofInt_of_le (by omega) (by omega)
    simp only [Engine.drawSize, skips_policy]
    rw [if_neg (by omega)]
    split
    · rw [if_neg (by omega)]
      exact ⟨_, _, rfl⟩
    · exact ⟨_, _, rfl⟩

/-- Within machine bounds the engine always produces a padding. -/
theorem generate_total (h : BoundedPadding e.policy) : ∃ pad e', e.generate = .ok (pad, e') := by
  unfold Engine.generate
  split
  · exact ⟨_, _, rfl⟩
  · obtain ⟨selected, drawn, hselect⟩ := selectSize_total h
    have hbounds := (selectSize_spec hselect).2
    rw [hselect, ok_bind]
    cases selected with
    | none => exact ⟨_, _, rfl⟩
    | some size =>
      have hlow := (hbounds size rfl).1
      have hnonneg := h.nonneg
      dsimp only
      rw [if_neg (by omega)]
      exact ⟨_, _, rfl⟩

/-- Generating into a large enough destination draws the same padding and leaves
it at the front of the destination. -/
theorem generateInto_eq (dst : List UInt8) (h : BoundedPadding e.policy)
    (hroom : e.policy.mode ≠ .known .none → e.policy.maxPaddingBytes ≤ dst.length) :
    e.generateInto dst = e.generate >>= fun drawn =>
      .ok (drawn.1.length, splice dst 0 drawn.1, drawn.2) := by
  unfold Engine.generateInto Engine.generate
  split
  · simp [splice]
  · rename_i hmode
    have hroom := hroom hmode
    have hpre : 0 ≤ e.policy.minPaddingBytes ∧
        e.policy.minPaddingBytes ≤ e.policy.maxPaddingBytes ∧
        e.policy.maxPaddingBytes - e.policy.minPaddingBytes ≠ maxInt := by
      refine ⟨h.nonneg, h.ordered, ?_⟩
      have := h.fits
      have := h.nonneg
      omega
    rw [ensure_of_pos hpre, ok_bind, ensure_of_pos hroom, ok_bind]
    obtain ⟨selected, drawn, hselect⟩ := selectSize_total h
    have hbounds := (selectSize_spec hselect).2
    rw [hselect, ok_bind, ok_bind]
    cases selected with
    | none => simp [splice]
    | some size =>
      obtain ⟨hlow, hhigh⟩ := hbounds size rfl
      dsimp only
      rw [if_neg (by omega), if_neg (by omega), ok_bind, length_fill]

/-! ## Consecutive draws -/

/-- The paddings of the next `n` frames. -/
def Engine.draws : ℕ → Engine source → Except FramingError (List (List UInt8))
  | 0, _ => .ok []
  | n + 1, e => do
    let drawn ← e.generate
    let rest ← draws n drawn.2
    .ok (drawn.1 :: rest)

theorem draws_within {n : ℕ} {pads : List (List UInt8)} (h : e.draws n = .ok pads) :
    pads.length = n ∧ ∀ pad ∈ pads, PaddingWithin e.policy pad := by
  induction n generalizing e pads with
  | zero =>
    cases h
    simp
  | succ n ih =>
    simp only [Engine.draws, bind_ok_iff] at h
    obtain ⟨⟨pad, e'⟩, hgenerate, rest, hdraws, ⟨⟩⟩ := h
    obtain ⟨hpolicy, hwithin⟩ := generate_spec hgenerate
    obtain ⟨hlength, hall⟩ := ih hdraws
    rw [hpolicy] at hall
    exact ⟨by simp [hlength], by simpa using ⟨hwithin, hall⟩⟩

/-! ## Fragment sizes -/

variable (fragmentationMode : Choice FragmentationMode)

/-- The largest fragment of `FragmentSizesFor`. -/
def maxChunkFor
    (maxBatchBytes maxFrameBytes : Int) : Int :=
  let batch :=
    if maxBatchBytes ≤ 0 ∨ maxFrameBytes - 512 < maxBatchBytes then maxFrameBytes - 512
    else maxBatchBytes
  let limited :=
    match fragmentationMode with
    | .known .fixedSizeChunks => min batch 4096
    | .known .boundedVariableChunks => min batch 6144
    | .known .schedulerControlledChunks => min batch maxBatchBytes
    | _ => min batch (16 * 1024)
  if limited < 1 then 1 else limited

/-- The loop which cuts `remaining` bytes into chunks. Every round takes at least
one byte, so `remaining` rounds are enough. -/
def chunkSizes (maxChunk : ℕ) : ℕ → ℕ → List ℕ
  | 0, _ => []
  | fuel + 1, remaining =>
    if remaining = 0 then []
    else
      let n := min maxChunk remaining
      n :: chunkSizes maxChunk fuel (remaining - n)

/-- `FragmentSizesFor`. -/
def fragmentSizesFor
    (maxBatchBytes maxFrameBytes : Int) (payloadLen : ℕ) : List ℕ :=
  if payloadLen = 0 then [0]
  else chunkSizes (maxChunkFor fragmentationMode maxBatchBytes maxFrameBytes).toNat
    payloadLen payloadLen

theorem one_le_maxChunkFor
    (maxBatchBytes maxFrameBytes : Int) :
    1 ≤ maxChunkFor fragmentationMode maxBatchBytes maxFrameBytes := by
  unfold maxChunkFor
  dsimp only
  split <;> omega

theorem sum_chunkSizes {maxChunk fuel remaining : ℕ} (hchunk : 1 ≤ maxChunk)
    (hfuel : remaining ≤ fuel) : (chunkSizes maxChunk fuel remaining).sum = remaining := by
  induction fuel generalizing remaining with
  | zero =>
    have hzero : remaining = 0 := by omega
    simp [chunkSizes, hzero]
  | succ fuel ih =>
    by_cases hzero : remaining = 0
    · simp [chunkSizes, hzero]
    · simp only [chunkSizes, if_neg hzero, List.sum_cons]
      rw [ih (by omega)]
      omega

theorem sum_fragmentSizesFor
    (maxBatchBytes maxFrameBytes : Int) (payloadLen : ℕ) :
    (fragmentSizesFor fragmentationMode maxBatchBytes maxFrameBytes payloadLen).sum =
      payloadLen := by
  unfold fragmentSizesFor
  split
  · simp [*]
  · have hchunk := one_le_maxChunkFor fragmentationMode maxBatchBytes maxFrameBytes
    exact sum_chunkSizes (by omega) le_rfl

theorem fragmentSizesFor_ne_nil
    (maxBatchBytes maxFrameBytes : Int) (payloadLen : ℕ) :
    fragmentSizesFor fragmentationMode maxBatchBytes maxFrameBytes payloadLen ≠ [] := by
  unfold fragmentSizesFor
  split
  · simp
  · rename_i hpos
    cases payloadLen with
    | zero => exact absurd rfl hpos
    | succ n => simp [chunkSizes]

end Kurdistan.Framing
