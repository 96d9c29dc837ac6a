import Kurdistan.Protocol.Wire
import Kurdistan.Support.Buffer

/-!
# Outer wire records and their frames

Decoding and encoding are inverse to each other, and a frame whose payload lies in the
destination is encoded in place to the same bytes.
-/

namespace Kurdistan.Wire

open Support List

variable {frame : Frame} {encoded : List UInt8}

/-! ## Decoding -/

theorem writeFrame_eq (frame : Frame) :
    writeFrame frame = 75 :: 85 :: 82 :: 68 :: majorVersion :: minorVersion :: frame.type ::
      frame.flags :: (putUint32 frame.streamID ++ (putUint32 (UInt32.ofNat frame.payload.length) ++
        (frame.planDigest.toList ++ frame.payload))) := by
  simp [writeFrame, magic]

theorem length_writeFrame (frame : Frame) :
    (writeFrame frame).length = headerBytes + frame.payload.length := by
  simp [writeFrame_eq, headerBytes]
  omega

theorem length_payload_le (h : validate frame = .ok ()) :
    frame.payload.length ≤ maxPayloadBytes := by
  rw [validate, check_ok_iff, ensure_eq_ok] at h
  exact h.1.2.2.2

theorem decode_writeFrame (h : validate frame = .ok ()) :
    decode (writeFrame frame) = .ok frame := by
  have hpayload := length_payload_le h
  have hlength : (UInt32.ofNat frame.payload.length).toNat = frame.payload.length :=
    UInt32.toNat_ofNat_of_lt' (hpayload.trans_lt (by decide))
  have hdigest := frame.planDigest.toList_length
  have hbehind : (writeFrame frame).drop 12 = putUint32 (UInt32.ofNat frame.payload.length) ++
      (frame.planDigest.toList ++ frame.payload) := by
    rw [writeFrame_eq]
    exact drop_left' (length_putUint32 _)
  have htail : (writeFrame frame).drop 16 = frame.planDigest.toList ++ frame.payload := by
    rw [show 16 = 12 + 4 from rfl, ← drop_drop, hbehind]
    exact drop_left' (length_putUint32 _)
  have hend : (writeFrame frame).drop headerBytes = frame.payload := by
    rw [show headerBytes = 16 + 32 from rfl, ← drop_drop, htail]
    exact drop_left' hdigest
  have hstream : getUint32 ((writeFrame frame).drop 8) = frame.streamID := by
    exact getUint32_putUint32 _ _
  have hframe : (⟨(writeFrame frame).getD 6 0, (writeFrame frame).getD 7 0,
      getUint32 ((writeFrame frame).drop 8),
      fixedBytes 32 (((writeFrame frame).drop 16).take 32),
      (writeFrame frame).drop headerBytes⟩ : Frame) = frame := by
    rw [hstream, htail, hend, take_left' hdigest, fixedBytes_toList, writeFrame_eq]
    rfl
  simp only [decode, hframe, hbehind, getUint32_putUint32, hlength, length_writeFrame, h]
  rw [ensure_of_pos, ensure_of_pos (Nat.add_comm ..)]
  · rfl
  · refine ⟨Nat.le_add_right .., Nat.add_le_add_left hpayload _, ?_⟩
    exact ⟨rfl, rfl, rfl⟩

theorem take_drop_append {n k m : ℕ} (h : m = n + k) :
    (encoded.drop n).take k ++ encoded.drop m = encoded.drop n := by
  rw [h, ← drop_drop, take_append_drop]

theorem decode_eq_ok :
    decode encoded = .ok frame ↔ validate frame = .ok () ∧ encoded = writeFrame frame := by
  constructor
  · intro h
    simp only [decode, check_ok_iff, ensure_eq_ok] at h
    obtain ⟨⟨hlength, -, hmagic, hmajor, hminor⟩, htotal, hvalid, h⟩ := h
    obtain rfl := Except.ok.inj h
    refine ⟨hvalid, ?_⟩
    simp only [headerBytes] at hlength htotal
    have hpayload : UInt32.ofNat (encoded.drop 48).length = getUint32 (encoded.drop 12) := by
      rw [length_drop, ← htotal, Nat.add_sub_cancel, UInt32.ofNat_toNat]
    have hfour : (encoded.drop 4).take 4 =
        [encoded.getD 4 0, encoded.getD 5 0, encoded.getD 6 0, encoded.getD 7 0] := by
      rw [drop_eq_getElem_cons (by omega), drop_eq_getElem_cons (by omega),
        drop_eq_getElem_cons (by omega), drop_eq_getElem_cons (by omega)]
      simp (disch := omega) only [take_succ_cons, take_zero, getD_eq_getElem?_getD,
        getElem?_eq_getElem, Option.getD_some]
    rw [writeFrame, headerBytes, hpayload, putUint32_getUint32_take (by simp; omega),
      putUint32_getUint32_take (by simp; omega),
      toList_fixedBytes (length_take_of_le (by simp; omega)), ← hmagic, ← hmajor, ← hminor, ← hfour]
    simp only [append_assoc]
    rw [take_drop_append (m := 48) rfl, take_drop_append (m := 16) rfl,
      take_drop_append (m := 12) rfl, take_drop_append (m := 8) rfl, take_append_drop]
  · rintro ⟨hvalid, rfl⟩
    exact decode_writeFrame hvalid

/-! ## Encoding in place -/

/-- A slice of a memory. -/
structure Region (memory : List UInt8) where
  offset : ℕ
  length : ℕ
  inside : offset + length ≤ memory.length

def Region.bytes {memory : List UInt8} (r : Region memory) : List UInt8 :=
  (memory.drop r.offset).take r.length

theorem Region.length_bytes {memory : List UInt8} (r : Region memory) :
    r.bytes.length = r.length := by
  have hinside := r.inside
  simp only [Region.bytes, length_take, length_drop]
  omega

/-- `copy` between two places of the memory; it has read its source before it writes. -/
def copyWithin (target source length : ℕ) (memory : List UInt8) : List UInt8 :=
  splice memory target ((memory.drop source).take length)

/-- `writeFrame` at an offset of the memory. Every write sees the memory which the one before
has left, so the payload is copied before the header can overwrite it. -/
def writeFrameAt (memory : List UInt8) (out : ℕ) (payload : Region memory) (header : Frame) :
    List UInt8 :=
  let copied := copyWithin (out + headerBytes) payload.offset payload.length memory
  let named := splice copied out magic
  let typed := splice named (out + 4) [majorVersion, minorVersion, header.type, header.flags]
  let addressed := splice typed (out + 8) (putUint32 header.streamID)
  let sized := splice addressed (out + 12) (putUint32 (UInt32.ofNat payload.length))
  splice sized (out + 16) header.planDigest.toList

/-- `EncodeInto` with the payload in the memory of the destination: the number of bytes
written and the memory afterwards. -/
def encodeIntoMemory (memory : List UInt8) (dst payload : Region memory) (header : Frame) :
    Except WireError (ℕ × List UInt8) := do
  let frame := { header with payload := payload.bytes }
  validate frame
  let n := headerBytes + payload.length
  ensure (n ≤ dst.length) .invalidFrame
  .ok (n, writeFrameAt memory dst.offset payload header)

theorem splice_behind {memory front rest : List UInt8} {pos next : ℕ}
    (hpos : pos ≤ memory.length) (hnext : next = pos + front.length) :
    splice (splice memory pos front) next rest = splice memory pos (front ++ rest) := by
  obtain ⟨done, tail, rfl, rfl⟩ : ∃ done tail, memory = done ++ tail ∧ pos = done.length :=
    ⟨memory.take pos, memory.drop pos, by simp, by simp [hpos]⟩
  rw [splice_append, splice_append, hnext, append_assoc, append_assoc, ← append_assoc,
    ← length_append, splice_append]
  simp

theorem splice_before {memory front rest : List UInt8} {pos next : ℕ}
    (hnext : next = pos + front.length) (hroom : next ≤ memory.length) :
    splice (splice memory next rest) pos front = splice memory pos (front ++ rest) := by
  obtain ⟨done, mid, tail, rfl, rfl, hmid⟩ : ∃ done mid tail, memory = done ++ (mid ++ tail) ∧
      pos = done.length ∧ mid.length = front.length :=
    ⟨memory.take pos, (memory.drop pos).take front.length, (memory.drop pos).drop front.length,
      by simp, by simp; omega, by simp; omega⟩
  have hbehind : splice (done ++ (mid ++ tail)) next rest =
      done ++ (mid ++ rest ++ tail.drop rest.length) := by
    rw [hnext, ← hmid, ← length_append, ← append_assoc, splice_append]
    simp
  rw [hbehind, splice_append, splice_append, append_assoc mid, drop_left' hmid]
  simp [← hmid]

theorem writeFrameAt_eq {memory : List UInt8} {out : ℕ} {payload : Region memory}
    (h : out + headerBytes + payload.length ≤ memory.length) (header : Frame) :
    writeFrameAt memory out payload header =
      splice memory out (writeFrame { header with payload := payload.bytes }) := by
  have hbytes := payload.length_bytes
  have hlength : (splice memory (out + headerBytes) payload.bytes).length = memory.length := by
    simp [splice]
    omega
  have hcopy : copyWithin (out + headerBytes) payload.offset payload.length memory =
      splice memory (out + headerBytes) payload.bytes := rfl
  simp only [writeFrameAt, hcopy]
  rw [← hbytes]
  generalize hcopied : splice memory (out + headerBytes) payload.bytes = copied at hlength
  simp (disch := first | omega | simp [magic]) only [splice_behind]
  rw [← hcopied, splice_before (by simp [magic, headerBytes]) (by omega)]
  rfl

/-- A byte string is accepted exactly when it is the encoding of the frame returned, valid
frames survive encoding and decoding, and encoding into a memory which also holds the payload
leaves there what `Encode` returns. -/
theorem wire_record_bijection :
    (∀ encoded frame, decode encoded = .ok frame ↔ encode frame = .ok encoded) ∧
    (∀ frame, validate frame = .ok () → (encode frame).bind decode = .ok frame) ∧
    ∀ memory (dst payload : Region memory) header n after,
      encodeIntoMemory memory dst payload header = .ok (n, after) ↔
        ∃ encoded, encode { header with payload := payload.bytes } = .ok encoded ∧
          n = encoded.length ∧ n ≤ dst.length ∧ after = splice memory dst.offset encoded := by
  refine ⟨fun encoded frame => ?_, fun frame hvalid => ?_, ?_⟩
  · rw [decode_eq_ok, encode, check_ok_iff, Except.ok.injEq, eq_comm (a := encoded)]
  · rw [encode, hvalid]
    exact decode_writeFrame hvalid
  · intro memory dst payload header n after
    have hinside := dst.inside
    have hlength : (writeFrame { header with payload := payload.bytes }).length =
        headerBytes + payload.length := by
      rw [length_writeFrame, payload.length_bytes]
    simp only [encodeIntoMemory, encode, check_ok_iff, ensure_eq_ok, Except.ok.injEq,
      Prod.mk.injEq]
    constructor
    · rintro ⟨hvalid, hroom, rfl, rfl⟩
      exact ⟨_, ⟨hvalid, rfl⟩, hlength.symm, hroom, writeFrameAt_eq (by omega) header⟩
    · rintro ⟨_, ⟨hvalid, rfl⟩, rfl, hroom, rfl⟩
      rw [hlength] at hroom ⊢
      exact ⟨hvalid, hroom, rfl, writeFrameAt_eq (by omega) header⟩

/-- A payload which lies across the end of the header is moved to its place and read back. -/
theorem wire_record_bijection_overlapping :
    let payload : List UInt8 := [1, 2, 3, 4, 5, 6, 7, 8, 9, 10, 11, 12]
    let memory := replicate 42 0 ++ payload ++ replicate 6 0
    let header : Frame := ⟨typeReliableData, 0, 7, fixedBytes 32 [1], []⟩
    ∃ after, encodeIntoMemory memory ⟨0, 60, by decide⟩ ⟨42, 12, by decide⟩ header =
      .ok (60, after) ∧ decode after = .ok { header with payload } := by
  intro payload memory header
  have hencode : encode { header with payload } = .ok (writeFrame { header with payload }) := by
    decide +kernel
  refine ⟨writeFrame { header with payload }, ?_, (wire_record_bijection.1 _ _).mpr hencode⟩
  exact (wire_record_bijection.2.2 memory _ _ header 60 _).mpr
    ⟨_, hencode, by decide +kernel, by decide, by decide +kernel⟩

end Kurdistan.Wire
