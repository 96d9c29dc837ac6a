import Kurdistan.Runtime.Duplex

/-!
# Sizes of the buffers of a duplex endpoint

`sizeDuplexV3` computes the buffers of an endpoint of the third version before any of
them is allocated: the largest payload whose frames fit the body in the worst case, and
the bytes the endpoint owns. Both ends of a link run it on their own record limit and
budget.
-/

namespace Kurdistan.Runtime

open Support Framing Protocol List

variable {source : RandSource}

structure ProcessDuplexBoundsV3 where
  ownedBytes : UInt64
  maxRecordBytes : UInt32
  maxPayloadBytes : UInt32
  deriving DecidableEq

structure DuplexSizeV3 where
  bounds : ProcessDuplexBoundsV3
  dataCap : UInt32
  frameBytes : UInt32
  paddingBytes : UInt32
  deriving DecidableEq

/-- The arguments of `sizeDuplexV3` besides the program and its codec. `fixed` is the
value of `duplexFixedBytesV3`, which adds up the sizes of records in memory. -/
structure DuplexSizingV3 where
  fixed : UInt64
  envelopeBytes : UInt32
  cryptoBytes : UInt64
  recordCap : UInt32
  minimum : UInt32
  budget : UInt64

variable (n : DuplexSizingV3)

/-- The largest body. -/
def DuplexSizingV3.dataCap : UInt64 :=
  min (n.envelopeBytes.toUInt64 - 16)
    (min (UInt64.ofNat (Wire.maxPayloadBytes - 44)) (n.recordCap.toUInt64 - 92))

/-- The largest record. -/
def DuplexSizingV3.recordBytes : UInt64 :=
  min n.recordCap.toUInt64
    (min (n.envelopeBytes.toUInt64 + 76) (UInt64.ofNat (Wire.maxPayloadBytes + 48)))

variable (codec : LiveDataCodecV3 source)

/-- The closure `fits`: the frames of a payload of `payloadBytes` bytes and their lengths
stay below `dataCap` whatever the stream and the padding. -/
def fitsV3 (dataCap : UInt64) (payloadBytes : Int) : Bool :=
  match codec.bounds payloadBytes with
  | .error _ => false
  | .ok b => 16 + 4 * b.frameCount.toUInt64 + b.frameBytes.toUInt64 ≤ dataCap

/-- The binary search. Every round brings `lo` and `hi` closer, so that `fuel` rounds
are enough for a distance of `fuel`. -/
def searchPayloadV3 (fits : Int → Bool) : ℕ → Int → Int → Int
  | 0, lo, _ => lo
  | fuel + 1, lo, hi =>
    if lo < hi then
      let mid := lo + (hi - lo + 1) / 2
      if fits mid then searchPayloadV3 fits fuel mid hi
      else searchPayloadV3 fits fuel lo (mid - 1)
    else lo

/-- Add up the buffers as long as the budget lasts. -/
def chargeV3 (budget : UInt64) : UInt64 → List UInt64 → Except RuntimeError UInt64
  | total, [] => .ok total
  | total, n :: rest => do
    ensure (n ≤ budget - total) .serviceResourceLimit
    chargeV3 budget (total + n) rest

def sizeDuplexV3 (program : ProgramV1) (codec : LiveDataCodecV3 source)
    (n : DuplexSizingV3) : Except RuntimeError DuplexSizeV3 :=
  match program.messages with
  | [] => .error .serviceResourceLimit
  | message :: _ => do
    ensure (272 ≤ n.minimum ∧ n.minimum ≤ 65535 ∧ 92 ≤ n.recordCap ∧
      n.recordCap ≤ 1048576 ∧ 16 ≤ n.envelopeBytes ∧ n.budget ≤ 134217728 ∧
      n.fixed ≤ n.budget ∧ n.cryptoBytes ≤ n.budget - n.fixed) .serviceResourceLimit
    let dcap := n.dataCap
    let rcap := n.recordBytes
    ensure (fitsV3 codec dcap 272) .serviceResourceLimit
    let hi := min 65535 (min message.maxPayloadBytes program.limits.maxPayloadBytes)
    let lo := searchPayloadV3 (fitsV3 codec dcap) (hi - 272).toNat 272 hi
    let b := (codec.bounds lo).toOption.getD ⟨0, 0, 0, 0⟩
    ensure (n.minimum ≤ UInt32.ofInt lo) .serviceResourceLimit
    let total ← chargeV3 n.budget (n.fixed + n.cryptoBytes)
      [b.frameBytes.toUInt64, dcap, dcap, rcap, rcap, UInt64.ofInt lo, b.paddingBytes.toUInt64]
    .ok {
      bounds := ⟨total, rcap.toUInt32, UInt32.ofInt lo⟩
      dataCap := dcap.toUInt32
      frameBytes := b.frameBytes
      paddingBytes := b.paddingBytes }

/-- The buffers `constructDuplexV3` allocates for a size. -/
structure DuplexWorkspaceV3.SizedBy (w : DuplexWorkspaceV3 source) (size : DuplexSizeV3) :
    Prop where
  txFrames : w.txFrames.bytes.length = size.frameBytes.toNat
  txBody : w.txBody.bytes.length = size.dataCap.toNat
  rxBody : w.rxBody.bytes.length = size.dataCap.toNat
  txRecord : w.txRecord.bytes.length = size.bounds.maxRecordBytes.toNat
  rxRecord : w.rxRecord.bytes.length = size.bounds.maxRecordBytes.toNat
  maxPayloadBytes : w.maxPayloadBytes = size.bounds.maxPayloadBytes.toNat
  padding : w.padding.bytes.length = size.paddingBytes.toNat

/-- A workspace which the constructor of an endpoint has made for a program. -/
structure DuplexWorkspaceV3.BuiltFor (w : DuplexWorkspaceV3 source) (program : ProgramV1)
    (n : DuplexSizingV3) : Prop where
  framing : newLiveDataCodecV3 source program = .ok w.framing
  sized : ∃ size, sizeDuplexV3 program w.framing n = .ok size ∧ w.SizedBy size

/-- Fresh buffers of these sizes, laid out one behind the other. -/
def constructWorkspaceV3 (size : DuplexSizeV3) :
    DuplexWorkspaceV3 source :=
  let dataCap := size.dataCap.toNat
  let payload := size.bounds.maxPayloadBytes.toNat
  let record := size.bounds.maxRecordBytes.toNat
  let frames := size.frameBytes.toNat
  let table := 256 * frameSpanBytes
  { maxPayloadBytes := payload
    framing := codec
    rxBody := ⟨0, replicate dataCap 0⟩
    rxPayload := ⟨dataCap, replicate payload 0⟩
    rxSpans := ⟨dataCap + payload, List.Vector.replicate 256 {}⟩
    txSpans := ⟨dataCap + payload + table, List.Vector.replicate 256 {}⟩
    txFrames := ⟨dataCap + payload + 2 * table, replicate frames 0⟩
    txBody := ⟨dataCap + payload + 2 * table + frames, replicate dataCap 0⟩
    txRecord := ⟨2 * dataCap + payload + 2 * table + frames, replicate record 0⟩
    rxRecord := ⟨2 * dataCap + payload + 2 * table + frames + record, replicate record 0⟩
    padding := ⟨2 * dataCap + payload + 2 * table + frames + 2 * record,
      replicate size.paddingBytes.toNat 0⟩
    payloadRoom := length_replicate
    bodyApart := by
      intro n hn
      simp only [length_replicate] at hn
      simp only [regionsOverlap]
      split_ifs <;> simp <;> omega
    spansApart := by
      intro n hn
      simp only [regionsOverlap, length_replicate]
      split_ifs
      · rfl
      · simp
      · simp only [decide_eq_false_iff_not]
        omega }

theorem constructWorkspaceV3_sizedBy (size : DuplexSizeV3) :
    (constructWorkspaceV3 codec size).SizedBy size :=
  ⟨length_replicate, length_replicate, length_replicate,
    length_replicate, length_replicate, rfl, length_replicate⟩

theorem DuplexSizingV3.dataCap_le : n.dataCap.toNat ≤ Wire.maxPayloadBytes - 44 := by
  have hwire : (UInt64.ofNat (Wire.maxPayloadBytes - 44)).toNat =
      Wire.maxPayloadBytes - 44 := by decide
  simp only [dataCap, UInt64.min_def]
  split_ifs with houter hinner hinner <;> simp only [UInt64.le_iff_toNat_le] at * <;> omega

theorem sizeDuplexV3_dataCap {program : ProgramV1} {codec : LiveDataCodecV3 source}
    {n : DuplexSizingV3} {size : DuplexSizeV3} (h : sizeDuplexV3 program codec n = .ok size) :
    size.dataCap = n.dataCap.toUInt32 := by
  unfold sizeDuplexV3 at h
  split at h
  · cases h
  simp only [bind_ok_iff] at h
  obtain ⟨_, -, _, -, _, -, total, -, h⟩ := h
  cases h
  rfl

theorem DuplexWorkspaceV3.BuiltFor.txBody_le {w : DuplexWorkspaceV3 source}
    {program : ProgramV1} {n : DuplexSizingV3} (h : w.BuiltFor program n) :
    w.txBody.bytes.length ≤ Wire.maxPayloadBytes - 44 := by
  obtain ⟨size, hsize, hsized⟩ := h.sized
  have hcap := n.dataCap_le
  rw [hsized.txBody, sizeDuplexV3_dataCap hsize, UInt64.toNat_toUInt32]
  exact (Nat.mod_le _ _).trans hcap

end Kurdistan.Runtime
