import Kurdistan.Framing.LiveEncoder

/-!
# The bounds of the live encoder

`Bounds` promises sizes before any padding is drawn. Whatever the engine then draws,
the encoder stays within them, and a longer payload never has smaller bounds.
-/

namespace Kurdistan.Framing

open Support Protocol LiveDataCodecV3 List

variable {source : RandSource} {c : LiveDataCodecV3 source} {data padding : CodecMessage}

theorem frameRoom_mono (hlive : LiveSpec c.spec data padding) {m n : ℕ} (hle : m ≤ n)
    (h : c.frameBound n = .ok (c.frameRoom n)) : c.frameRoom m ≤ c.frameRoom n := by
  obtain ⟨hfits, wrapperBytes, hwrapper, hroom⟩ := (frameBound_eq_ok hlive).mp h
  have hframe := hlive.frameHigh
  have hbody : c.bodyBound data m ≤ c.bodyBound data n := by
    simp only [bodyBound]
    omega
  obtain ⟨shorter, hshorter, hwidth⟩ := lengthWrapperSize_mono hwrapper hbody (by omega)
  have hsmall := (frameBound_eq_ok hlive).mpr ⟨by omega, shorter, hshorter, rfl⟩
  have hsmallRoom : c.frameRoom m = c.bodyBound data m + shorter := by
    rw [frameRoom, hsmall]
    rfl
  omega

/-- A longer payload has as many whole chunks and no shorter rest, or more chunks. -/
theorem chunks_mono {chunk m n : ℕ} (hchunk : 0 < chunk) (hpos : 0 < m) (hle : m ≤ n) :
    m - (m - 1) / chunk * chunk ≤ chunk ∧
      ((m - 1) / chunk = (n - 1) / chunk ∧
          m - (m - 1) / chunk * chunk ≤ n - (n - 1) / chunk * chunk ∨
        (m - 1) / chunk < (n - 1) / chunk) := by
  have hquotient : (m - 1) / chunk ≤ (n - 1) / chunk := Nat.div_le_div_right (by omega)
  have hdivide := Nat.div_add_mod (m - 1) chunk
  have hrest := Nat.mod_lt (m - 1) hchunk
  rw [Nat.mul_comm] at hdivide
  refine ⟨by omega, hquotient.eq_or_lt.imp_left fun heq => ⟨heq, ?_⟩⟩
  rw [heq]
  exact Nat.sub_le_sub_right hle _

/-- The sizes which the bounds promise grow with the payload. -/
theorem bounds_mono (hcodec : LiveCodec c data padding) {m n : ℕ} {b b' : LiveDataBoundsV3}
    (hle : m ≤ n) (hm : c.bounds m = .ok b) (hn : c.bounds n = .ok b') :
    b.frameBytes.toNat ≤ b'.frameBytes.toNat ∧
      b.largestFrameBytes.toNat ≤ b'.largestFrameBytes.toNat ∧
      b.frameCount.toNat ≤ b'.frameCount.toNat ∧
      b.paddingBytes.toNat ≤ b'.paddingBytes.toNat := by
  have hb := bounds_spec hcodec.chunk hm
  have hb' := bounds_spec hcodec.chunk hn
  have hone := one_le_maxChunkFor c.spec.fragmentationMode c.spec.maxBatchBytes c.spec.maxFrameBytes
  rw [← liveChunk_eq] at hone
  obtain ⟨chunk, hchunk⟩ : ∃ chunk : ℕ, liveChunk c.spec = chunk :=
    ⟨(liveChunk c.spec).toNat, by omega⟩
  obtain ⟨hrest, hcases⟩ := chunks_mono (by omega : 0 < chunk) hb.positive hle
  have hsizes := fragmentSizes_eq hchunk hb.positive
  have hsizes' := fragmentSizes_eq hchunk hb'.positive
  generalize (m - 1) / chunk = q at hrest hcases hsizes
  generalize (n - 1) / chunk = r at hcases hsizes'
  generalize n - r * chunk = last' at hcases hsizes'
  have hmono {small large : ℕ} (hsmall : small ≤ large) (hmem : large ∈ c.spec.fragmentSizes n) :
      c.frameRoom small ≤ c.frameRoom large :=
    frameRoom_mono hcodec.spec hsmall (hb'.frames large hmem)
  have hlast : last' ∈ c.spec.fragmentSizes n := by simp [hsizes']
  have hwhole (hr : 0 < r) : chunk ∈ c.spec.fragmentSizes n := by
    rw [hsizes']
    exact mem_append_left _ (mem_replicate.mpr ⟨by omega, rfl⟩)
  have hbytes := hb.frameBytes
  have hbytes' := hb'.frameBytes
  simp only [hsizes, hsizes', map_append, map_replicate, map_singleton,
    sum_append, sum_replicate_nat, sum_singleton] at hbytes hbytes'
  have hcount := hb.frameCount
  have hcount' := hb'.frameCount
  rw [hsizes, length_append, length_replicate, length_singleton] at hcount
  rw [hsizes', length_append, length_replicate, length_singleton] at hcount'
  obtain ⟨size, hsize, hlargest⟩ := hb.largest
  rw [hsizes, mem_append, mem_replicate, mem_singleton] at hsize
  refine ⟨?_, ?_, ?_, le_of_eq (hb.paddingBytes.trans hb'.paddingBytes.symm)⟩
  · rcases hcases with ⟨rfl, hshort⟩ | hmore
    · have htail := hmono hshort hlast
      omega
    · have htail := hmono hrest (hwhole (by omega))
      have hproduct := Nat.mul_le_mul_right (c.frameRoom chunk) (show q + 1 ≤ r from hmore)
      rw [Nat.succ_mul] at hproduct
      omega
  · rw [← hlargest]
    rcases hsize with ⟨hsome, rfl⟩ | rfl
    · exact hb'.covers _ (hwhole (by rcases hcases with ⟨rfl, -⟩ | hmore <;> omega))
    · rcases hcases with ⟨-, hshort⟩ | hmore
      · exact (hmono hshort hlast).trans (hb'.covers _ hlast)
      · exact (hmono hrest (hwhole (by omega))).trans (hb'.covers _ (hwhole (by omega)))
  · rcases hcases with ⟨rfl, -⟩ | hmore <;> omega

/-- Bounds are sound. With buffers of the promised sizes the encoder succeeds for
every source and seed, so none of the errors dropped on its way occurs; all frames
together, every frame and every padding stay within the bounds, and every header
field fits its width. The bounds are monotone in the length of the payload. -/
theorem bounds_sound {program : ProgramV1} (hcodec : newLiveDataCodecV3 source program = .ok c) :
    (∀ framesDst paddingScratch payload streamID spans b seed sequence,
      c.bounds payload.bytes.length = .ok b →
      EncodableBuffers framesDst paddingScratch payload streamID spans b →
      ∃ done data stream pads tail rest,
        c.encodeDataInto framesDst paddingScratch payload streamID seed (some spans) sequence =
          .ok (done, b.frameCount.toNat) ∧
        done.pos ≤ b.frameBytes.toNat ∧
        let op := liveOperation streamID sequence payload.bytes
        Written done (c.spec.framesOf data stream op pads) tail rest ∧
        ∀ f ∈ c.spec.fragmentsOf data stream op pads,
          FrameFits c.spec f ∧ (f.frame c.spec).length ≤ b.largestFrameBytes.toNat ∧
          f.pad.length ≤ b.paddingBytes.toNat ∧ f.stream.length ≤ 4 ∧ f.fragIndex < 2 ^ 16 ∧
          f.fragCount < 2 ^ 16 ∧ f.pad.length < 2 ^ 16) ∧
    ∀ (m n : ℕ) (b b' : LiveDataBoundsV3), m ≤ n → c.bounds m = .ok b → c.bounds n = .ok b' →
      b.frameBytes.toNat ≤ b'.frameBytes.toNat ∧
        b.largestFrameBytes.toNat ≤ b'.largestFrameBytes.toNat ∧
        b.frameCount.toNat ≤ b'.frameCount.toNat ∧
        b.paddingBytes.toNat ≤ b'.paddingBytes.toNat := by
  obtain ⟨data, padding, hlive⟩ := liveCodec_of_program hcodec
  refine ⟨?_, fun m n b b' => bounds_mono hlive⟩
  intro framesDst paddingScratch payload streamID spans b seed sequence hbounds hbuffers
  have hb := bounds_spec hlive.chunk hbounds
  obtain ⟨done, count, stream, pads, hencode, hencodes⟩ :=
    encodeDataInto_total hlive seed sequence hbounds hbuffers
  have hstream := length_writeStreamID_live hencodes.encodedStream hbuffers.streamHigh
  obtain ⟨hwithin, hroom⟩ := @fragmentParts_within_bounds _ data padding c stream
    (c.spec.fragmentSizes payload.bytes.length).length pads
    (liveOperation streamID sequence payload.bytes) hlive.spec hstream
    (length_metadataBytes_live ..) 0 0 _ hb.frames hencodes.padLengths
  obtain ⟨tail, rest, hwritten⟩ := hencodes.written
  have hcount : count = b.frameCount.toNat := hencodes.frameCount.trans hb.frameCount.symm
  refine ⟨done, data, stream, pads, tail, rest, hcount ▸ hencode, ?_, hwritten, fun f hf => ?_⟩
  · rw [hwritten.pos, ← hb.frameBytes]
    exact hroom
  · have hf := hwithin f hf
    obtain ⟨size, hsize, hframe⟩ := hf.frame
    have hfragments := hb.fragments
    have hindex := hf.fragIndex
    have hpad := hf.padding
    have hpadding := hb.padding
    refine ⟨hf.fits, hframe.trans (hb.covers size hsize), hb.paddingBytes ▸ hpad,
      hf.stream_eq ▸ hstream, by omega, ?_, by omega⟩
    rw [hf.fragCount]
    omega

theorem bounds_sound_samplePayload :
    (∃ done, sampleCodec.encodeDataInto sampleFramesDst samplePaddingScratch samplePayload 300 5
      (some sampleSpanTable) 0 = .ok (done, 1) ∧ done.pos ≤ 74) ∧
      ∀ n b, 3 ≤ n → sampleCodec.bounds (n : ℕ) = .ok b → 74 ≤ b.frameBytes.toNat := by
  have hsound := bounds_sound newLiveDataCodecV3_sampleProgram
  obtain ⟨done, -, -, -, -, -, hencode, hpos, -⟩ := hsound.1 sampleFramesDst samplePaddingScratch
    samplePayload 300 sampleSpanTable _ 5 0 bounds_samplePayload encodableBuffers_sample
  exact ⟨⟨done, hencode, hpos⟩, fun n b hn hb => (hsound.2 3 n _ b hn bounds_samplePayload hb).1⟩

end Kurdistan.Framing
