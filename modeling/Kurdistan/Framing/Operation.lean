import Mathlib.Data.Fintype.Basic
import Mathlib.Tactic.FinCases
import Kurdistan.Support.Buffer
import Kurdistan.Framing.CodecSpec

/-!
# Operations and their metadata block

The operation carried by a group of frames, the fixed 41-byte part and the ten
length-prefixed texts of its metadata, and the borrowed view the parser takes of
them. Go's `int` is a 64-bit integer, so reading back a 32-bit field never gives
a negative number.
-/

namespace Kurdistan.Framing

open Support Protocol List

structure Operation where
  semantic : Choice Semantic := .other ""
  streamID : UInt32 := 0
  sequence : UInt64 := 0
  offset : UInt64 := 0
  creditBytes : Int := 0
  reason : List UInt8 := []
  priority : List UInt8 := []
  endStream : Bool := false
  payload : List UInt8 := []
  relayIntentID : UInt64 := 0
  targetClass : List UInt8 := []
  targetVariant : List UInt8 := []
  requestClass : List UInt8 := []
  responseMode : List UInt8 := []
  targetErrorCode : List UInt8 := []
  targetCloseReason : List UInt8 := []
  targetResetReason : List UInt8 := []
  metadataClass : List UInt8 := []
  responseChunkIndex : Int := 0
  payloadByteCount : Int := 0
  responseByteCount : Int := 0
  deriving DecidableEq

variable (op : Operation)

/-- The texts of the metadata block, in wire order. -/
def operationMetadataStrings : List.Vector (List UInt8) 10 :=
  ⟨[op.reason, op.priority, op.targetClass, op.targetVariant, op.requestClass,
    op.responseMode, op.targetErrorCode, op.targetCloseReason, op.targetResetReason,
    op.metadataClass], rfl⟩

/-! ## Writing -/

/-- The conversion `uint32(value)`. -/
def uint32 (value : Int) : UInt32 := UInt32.ofInt value

variable (value : List UInt8)

/-- A text behind its length byte. -/
def writeText : Write FramingError := fun c =>
  put .panic [UInt8.ofNat value.length] c >>= copy .panic value

def writeOperationMetadata : Write FramingError := fun c => do
  let c ← put .panic (putUint64 op.sequence) c
  let c ← put .panic (putUint64 op.offset) c
  let c ← put .panic (putUint32 (uint32 op.creditBytes)) c
  let c ← put .panic [if op.endStream then 1 else 0] c
  let c ← put .panic (putUint64 op.relayIntentID) c
  let c ← put .panic (putUint32 (uint32 op.payloadByteCount)) c
  let c ← put .panic (putUint32 (uint32 op.responseByteCount)) c
  let c ← put .panic (putUint32 (uint32 op.responseChunkIndex)) c
  writeAll writeText (operationMetadataStrings op).toList c

def encodeOperationMetadata : Except FramingError (List UInt8) := do
  ensure (op.reason.length ≤ 255) (.text "reason too long")
  ensure (op.priority.length ≤ 255) (.text "priority too long")
  ensure (0 ≤ op.creditBytes) (.text "credit bytes cannot be negative")
  ensure (0 ≤ op.payloadByteCount ∧ 0 ≤ op.responseByteCount ∧ 0 ≤ op.responseChunkIndex)
    (.text "proxy byte counts and chunk indexes cannot be negative")
  ensureAll (fun value : List UInt8 =>
    ensure (value.length ≤ 255) (.text "proxy metadata value too long"))
    (operationMetadataStrings op).toList
  let size := 51 + ((operationMetadataStrings op).toList.map length).sum
  let c ← writeOperationMetadata op ⟨replicate size 0, 0⟩
  .ok c.buffer

/-! ## Reading -/

/-- Validated metadata: the fixed part and the ten texts. -/
structure MetadataView where
  fixed : FixedBytes 41
  values : List.Vector (List UInt8) 10

/-- Read `n` length-prefixed texts and return what follows them. -/
def parseTexts : (n : ℕ) → List UInt8 →
    Except FramingError (List.Vector (List UInt8) n × List UInt8)
  | 0, rest => .ok (.nil, rest)
  | _ + 1, [] => .error .unexpectedEOF
  | n + 1, size :: rest =>
    if rest.length < size.toNat then .error .unexpectedEOF
    else do
      let parsed ← parseTexts n (rest.drop size.toNat)
      .ok (.cons (rest.take size.toNat) parsed.1, parsed.2)

def parseMetadataView (input : List UInt8) :
    Except FramingError (MetadataView × List UInt8) := do
  ensure (51 ≤ input.length) .unexpectedEOF
  let parsed ← parseTexts 10 (input.drop 41)
  .ok (⟨fixedBytes 41 (input.take 41), parsed.1⟩, parsed.2)

/-- The bytes `[low, high)` of the fixed part. -/
def MetadataView.field (v : MetadataView) (low high : ℕ) : List UInt8 :=
  (v.fixed.toList.take high).drop low

/-- The end-of-stream byte is set. -/
def MetadataView.endStream (v : MetadataView) : Bool := v.field 20 21 ≠ [0]

def MetadataView.equal (v other : MetadataView) : Bool :=
  v.field 0 20 = other.field 0 20 ∧ v.endStream = other.endStream ∧
    v.field 21 41 = other.field 21 41 ∧ v.values = other.values

/-- The conversion `int(uint32)`, which is never negative on 64 bits. -/
def MetadataView.int32 (v : MetadataView) (offset : ℕ) : Int :=
  (getUint32 (v.field offset (offset + 4))).toNat

/-- No integer field would be rejected by encoding the operation again. -/
def MetadataView.validOperation (v : MetadataView) : Bool :=
  [16, 29, 33, 37].all fun offset => 0 ≤ v.int32 offset

def MetadataView.materialize (v : MetadataView) : Operation where
  sequence := getUint64 (v.field 0 8)
  offset := getUint64 (v.field 8 16)
  creditBytes := v.int32 16
  endStream := v.endStream
  relayIntentID := getUint64 (v.field 21 29)
  payloadByteCount := v.int32 29
  responseByteCount := v.int32 33
  responseChunkIndex := v.int32 37
  reason := v.values.get 0
  priority := v.values.get 1
  targetClass := v.values.get 2
  targetVariant := v.values.get 3
  requestClass := v.values.get 4
  responseMode := v.values.get 5
  targetErrorCode := v.values.get 6
  targetCloseReason := v.values.get 7
  targetResetReason := v.values.get 8
  metadataClass := v.values.get 9

/-! ## What is written -/

/-- The fixed part of the metadata block. -/
def metadataFixed : List UInt8 :=
  putUint64 op.sequence ++ (putUint64 op.offset ++ (putUint32 (uint32 op.creditBytes) ++
    ([if op.endStream then 1 else 0] ++ (putUint64 op.relayIntentID ++
      (putUint32 (uint32 op.payloadByteCount) ++
        (putUint32 (uint32 op.responseByteCount) ++ putUint32 (uint32 op.responseChunkIndex)))))))

def textBytes : List UInt8 := UInt8.ofNat value.length :: value

/-- The whole metadata block. -/
def metadataBytes : List UInt8 :=
  metadataFixed op ++ (operationMetadataStrings op).toList.flatMap textBytes

@[simp] theorem length_metadataFixed : (metadataFixed op).length = 41 := by
  simp [metadataFixed]

theorem length_flatMap_textBytes (values : List (List UInt8)) :
    (values.flatMap textBytes).length = values.length + (values.map length).sum := by
  induction values with
  | nil => rfl
  | cons value values ih =>
    simp only [flatMap_cons, length_append, textBytes, length_cons, map_cons, sum_cons]
    omega

theorem length_metadataBytes :
    (metadataBytes op).length = 51 + ((operationMetadataStrings op).toList.map length).sum := by
  rw [metadataBytes, length_append, length_metadataFixed, length_flatMap_textBytes,
    List.Vector.toList_length]
  omega

theorem emits_writeText : Emits (writeText value) (textBytes value) :=
  (emits_put _ _).bind (emits_copy _ _)

theorem emits_writeOperationMetadata : Emits (writeOperationMetadata op) (metadataBytes op) := by
  have htexts : Emits (writeAll writeText (operationMetadataStrings op).toList)
      ((operationMetadataStrings op).toList.flatMap textBytes) :=
    emits_writeAll fun value _ => emits_writeText value
  apply (emits_put _ _).bind
  apply (emits_put _ _).bind
  apply (emits_put _ _).bind
  apply (emits_put _ _).bind
  apply (emits_put _ _).bind
  apply (emits_put _ _).bind
  apply (emits_put _ _).bind
  exact (emits_put _ _).bind htexts

/-- The checks of `encodeOperationMetadata`. -/
structure EncodableMetadata (op : Operation) : Prop where
  texts : ∀ value ∈ (operationMetadataStrings op).toList, value.length ≤ 255
  creditBytes : 0 ≤ op.creditBytes
  payloadByteCount : 0 ≤ op.payloadByteCount
  responseByteCount : 0 ≤ op.responseByteCount
  responseChunkIndex : 0 ≤ op.responseChunkIndex

theorem writeOperationMetadata_fill {dst : List UInt8}
    (hdst : dst.length = (metadataBytes op).length) :
    writeOperationMetadata op ⟨dst, 0⟩ = .ok ⟨metadataBytes op, (metadataBytes op).length⟩ :=
  (emits_writeOperationMetadata op).fill hdst

/-- Encoding succeeds exactly within the checks, with the block as its result. -/
theorem encodeOperationMetadata_eq_ok {op : Operation} {block : List UInt8} :
    encodeOperationMetadata op = .ok block ↔ EncodableMetadata op ∧ block = metadataBytes op := by
  have hfill := writeOperationMetadata_fill op
    (show (replicate (51 + ((operationMetadataStrings op).toList.map
      length).sum) 0).length = _ by rw [length_replicate, length_metadataBytes])
  simp only [encodeOperationMetadata, hfill, ok_bind]
  simp only [check_ok_iff, ensureAll_eq_ok, ensure_eq_ok, Except.ok.injEq]
  constructor
  · rintro ⟨-, -, hcredit, ⟨hpayload, hresponse, hchunk⟩, htexts, rfl⟩
    exact ⟨⟨htexts, hcredit, hpayload, hresponse, hchunk⟩, rfl⟩
  · rintro ⟨h, rfl⟩
    refine ⟨h.texts _ ?_, h.texts _ ?_, h.creditBytes,
      ⟨h.payloadByteCount, h.responseByteCount, h.responseChunkIndex⟩, h.texts, rfl⟩
    · simp [operationMetadataStrings]
    · simp [operationMetadataStrings]

/-! ## What is read back -/

/-- The view of the metadata of an operation. -/
def metadataView : MetadataView :=
  ⟨fixedBytes 41 (metadataFixed op), operationMetadataStrings op⟩

theorem parseTexts_textBytes {n : ℕ} (values : List.Vector (List UInt8) n)
    (tail : List UInt8) (h : ∀ value ∈ values.toList, value.length ≤ 255) :
    parseTexts n (values.toList.flatMap textBytes ++ tail) = .ok (values, tail) := by
  induction n with
  | zero =>
    rw [List.Vector.eq_nil values]
    rfl
  | succ n ih =>
    obtain ⟨value, rest, rfl⟩ := values.exists_eq_cons
    have hvalue : value.length ≤ 255 := h value (by simp)
    have hsize : (UInt8.ofNat value.length).toNat = value.length := by
      simp; omega
    have hrest := ih rest fun other hother => h other (by simp [hother])
    simp only [List.Vector.toList_cons, flatMap_cons, textBytes, cons_append,
      append_assoc, parseTexts, hsize]
    rw [if_neg (by simp), drop_left, take_left, hrest, ok_bind]

/-- The parser inverts the writer, whatever follows the block. -/
theorem parseMetadataView_metadataBytes {op : Operation}
    (h : ∀ value ∈ (operationMetadataStrings op).toList, value.length ≤ 255) (tail : List UInt8) :
    parseMetadataView (metadataBytes op ++ tail) = .ok (metadataView op, tail) := by
  have hlength : 51 ≤ (metadataBytes op ++ tail).length := by
    rw [length_append, length_metadataBytes]
    omega
  rw [parseMetadataView, ensure_of_pos hlength, ok_bind, metadataBytes, append_assoc,
    drop_left' (length_metadataFixed op), parseTexts_textBytes _ _ h, ok_bind,
    take_left' (length_metadataFixed op), metadataView]

theorem toList_metadataView : (metadataView op).fixed.toList = metadataFixed op :=
  toList_fixedBytes (length_metadataFixed op)

/-- Reading an integer field back gives it modulo `2 ^ 32`. -/
def narrowed (value : Int) : Int := (uint32 value).toNat

theorem narrowed_eq (value : Int) : narrowed value = value % 2 ^ 32 := by
  have hword : (value % 2 ^ 32).toNat < 2 ^ 32 := by omega
  rw [narrowed, uint32, UInt32.ofInt, UInt32.toNat_ofNat_of_lt' hword]
  omega

/-- An integer field survives the round trip exactly when it fits in 32 bits. -/
theorem narrowed_eq_self {value : Int} (h : 0 ≤ value) :
    narrowed value = value ↔ value < 2 ^ 32 := by
  rw [narrowed_eq]
  omega

/-- The operation rebuilt from its metadata: the integer fields are narrowed and
what travels outside the block is absent. -/
theorem materialize_metadataView :
    (metadataView op).materialize =
      { op with
        semantic := .other ""
        streamID := 0
        payload := []
        creditBytes := narrowed op.creditBytes
        payloadByteCount := narrowed op.payloadByteCount
        responseByteCount := narrowed op.responseByteCount
        responseChunkIndex := narrowed op.responseChunkIndex } := by
  have hend : (metadataView op).endStream = op.endStream := by
    cases hflag : op.endStream <;>
      simp [MetadataView.endStream, MetadataView.field, toList_metadataView, metadataFixed, hflag,
        take_append, drop_append, drop_of_length_le]
  have hvalues : (metadataView op).values = operationMetadataStrings op := rfl
  simp only [MetadataView.materialize, hend, hvalues]
  simp [MetadataView.int32, MetadataView.field, toList_metadataView, metadataFixed,
    take_append, drop_append, take_of_length_le, drop_of_length_le,
    narrowed, operationMetadataStrings, List.Vector.get]

/-! ## Encoding a parsed block again -/

variable {input rest : List UInt8}

theorem parseTexts_spec {n : ℕ} {values : List.Vector (List UInt8) n}
    (h : parseTexts n input = .ok (values, rest)) :
    (∀ value ∈ values.toList, value.length ≤ 255) ∧ input.length ≤ rest.length + 256 * n := by
  induction n generalizing input rest with
  | zero =>
    obtain ⟨⟩ := h
    simp
  | succ n ih =>
    cases input with
    | nil => cases h
    | cons size input =>
      rw [parseTexts] at h
      split at h
      · cases h
      · obtain ⟨⟨others, tail⟩, hparse, hresult⟩ := bind_ok_iff.mp h
        obtain ⟨⟩ := hresult
        have hsize := size.toNat_lt
        obtain ⟨htexts, hlength⟩ := ih hparse
        rw [length_drop] at hlength
        simp only [List.Vector.toList_cons, forall_mem_cons, length_take, length_cons]
        exact ⟨⟨by omega, htexts⟩, by omega⟩

variable {v : MetadataView}

/-- The metadata takes at most 2601 bytes from the front of a section. -/
theorem parseMetadataView_spec (h : parseMetadataView input = .ok (v, rest)) :
    (∀ value ∈ v.values.toList, value.length ≤ 255) ∧ input.length ≤ rest.length + 2601 := by
  rw [parseMetadataView, check_ok_iff] at h
  obtain ⟨⟨values, tail⟩, hparse, hresult⟩ := bind_ok_iff.mp h.2
  obtain ⟨⟩ := hresult
  obtain ⟨htexts, hlength⟩ := parseTexts_spec hparse
  rw [length_drop] at hlength
  refine ⟨htexts, ?_⟩
  dsimp only
  omega

theorem length_field (v : MetadataView) {low high : ℕ} (h : high ≤ 41) :
    (v.field low high).length = high - low := by
  rw [MetadataView.field, length_drop, length_take, List.Vector.toList_length]
  omega

theorem field_append_field (v : MetadataView) {low mid high : ℕ} (hlow : low ≤ mid)
    (hmid : mid ≤ high) : v.field low mid ++ v.field mid high = v.field low high := by
  have htake : (v.fixed.toList.take high).take mid = v.fixed.toList.take mid := by
    rw [take_take, Nat.min_eq_left hmid]
  have hdrop (bytes : List UInt8) :
      (bytes.take mid).drop low ++ bytes.drop mid = bytes.drop low := by
    by_cases hshort : bytes.length ≤ mid
    · simp [take_of_length_le hshort, drop_of_length_le hshort]
    · conv_rhs => rw [← take_append_drop mid bytes]
      rw [drop_append_of_le_length]
      rw [length_take]
      omega
  rw [MetadataView.field, ← htake, MetadataView.field, hdrop, MetadataView.field]

/-- A text list is determined by its encoding. -/
theorem flatMap_textBytes_injective {n : ℕ} {a b : List.Vector (List UInt8) n}
    (ha : ∀ value ∈ a.toList, value.length ≤ 255) (hb : ∀ value ∈ b.toList, value.length ≤ 255)
    (h : a.toList.flatMap textBytes = b.toList.flatMap textBytes) : a = b := by
  have hparse := parseTexts_textBytes a [] ha
  rw [h, parseTexts_textBytes b [] hb] at hparse
  simpa using hparse.symm

theorem operationMetadataStrings_materialize (v : MetadataView) :
    operationMetadataStrings v.materialize = v.values := by
  apply List.Vector.ext
  intro i
  fin_cases i <;> rfl

/-- Encoding a parsed block again only normalises its end-of-stream byte. -/
theorem metadataBytes_materialize (v : MetadataView) :
    metadataBytes v.materialize =
      v.field 0 20 ++ ([if v.endStream then 1 else 0] ++ (v.field 21 41 ++
        v.values.toList.flatMap textBytes)) := by
  have hput32 (offset : ℕ) (h : offset + 4 ≤ 41) :
      putUint32 (uint32 (v.int32 offset)) = v.field offset (offset + 4) := by
    have hword : uint32 (v.int32 offset) = getUint32 (v.field offset (offset + 4)) := by
      have hlt := (getUint32 (v.field offset (offset + 4))).toNat_lt
      apply UInt32.toNat_inj.mp
      have hnarrow := narrowed_eq (v.int32 offset)
      simp only [narrowed, MetadataView.int32] at hnarrow ⊢
      omega
    rw [hword, putUint32_getUint32]
    rw [length_field v h]
    omega
  have hput64 (low : ℕ) (h : low + 8 ≤ 41) :
      putUint64 (getUint64 (v.field low (low + 8))) = v.field low (low + 8) := by
    rw [putUint64_getUint64]
    rw [length_field v h]
    omega
  have hfront : v.field 0 20 = v.field 0 8 ++ (v.field 8 16 ++ v.field 16 20) := by
    rw [field_append_field v (by omega) (by omega), field_append_field v (by omega) (by omega)]
  have hback : v.field 21 41 =
      v.field 21 29 ++ (v.field 29 33 ++ (v.field 33 37 ++ v.field 37 41)) := by
    rw [field_append_field v (by omega) (by omega), field_append_field v (by omega) (by omega),
      field_append_field v (by omega) (by omega)]
  rw [metadataBytes, operationMetadataStrings_materialize, hfront, hback]
  simp only [metadataFixed, MetadataView.materialize]
  rw [hput32 16 (by omega), hput32 29 (by omega), hput32 33 (by omega),
    hput32 37 (by omega), hput64 0 (by omega), hput64 8 (by omega), hput64 21 (by omega)]
  simp only [append_assoc]
  rfl

theorem encodableMetadata_materialize (h : ∀ value ∈ v.values.toList, value.length ≤ 255) :
    EncodableMetadata v.materialize where
  texts := by rwa [operationMetadataStrings_materialize]
  creditBytes := Int.natCast_nonneg _
  payloadByteCount := Int.natCast_nonneg _
  responseByteCount := Int.natCast_nonneg _
  responseChunkIndex := Int.natCast_nonneg _

theorem validOperation_eq_true (v : MetadataView) : v.validOperation = true := by
  simp [MetadataView.validOperation, MetadataView.int32]

/-- Comparing two views is the same as comparing their encodings. -/
theorem equal_iff_metadataBytes {w : MetadataView}
    (hv : ∀ value ∈ v.values.toList, value.length ≤ 255)
    (hw : ∀ value ∈ w.values.toList, value.length ≤ 255) :
    v.equal w = true ↔ metadataBytes v.materialize = metadataBytes w.materialize := by
  rw [metadataBytes_materialize, metadataBytes_materialize]
  simp only [MetadataView.equal, decide_eq_true_eq]
  constructor
  · rintro ⟨hfront, hend, hback, hvalues⟩
    rw [hfront, hend, hback, hvalues]
  · intro h
    have hlength (low high : ℕ) (h : high ≤ 41) :
        (v.field low high).length = (w.field low high).length := by
      rw [length_field v h, length_field w h]
    obtain ⟨hfront, hrest⟩ := append_inj h (hlength 0 20 (by omega))
    obtain ⟨hend, hrest⟩ := append_inj hrest rfl
    obtain ⟨hback, htexts⟩ := append_inj hrest (hlength 21 41 (by omega))
    refine ⟨hfront, ?_, hback, flatMap_textBytes_injective hv hw htexts⟩
    revert hend
    cases v.endStream <;> cases w.endStream <;> simp

end Kurdistan.Framing
