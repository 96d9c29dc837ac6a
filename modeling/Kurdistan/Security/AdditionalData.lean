import Kurdistan.Support.Writers
import Kurdistan.Security.EnvelopeSpec

/-!
# What the additional data of a record determines

Application and control records have layouts of their own. The first byte tells
them apart, and inside one layout the fields are recovered one after the other.
The sealed length stands in the application layout only.
-/

namespace Kurdistan.Security

open Support List

namespace EnvelopeCodecV1

/-- What both layouts bind. -/
structure SameBindingV1 (c c' : EnvelopeCodecV1) (record other : EnvelopeRecordV1) : Prop where
  recordType : record.recordType = other.recordType
  epoch : record.epoch = other.epoch
  direction : record.direction = other.direction
  slot : record.slot = other.slot
  sequence : record.sequence = other.sequence
  boundClass : c.boundClassV1 = c'.boundClassV1
  effectivePolicyHash : c.context.effectivePolicyHash = c'.context.effectivePolicyHash
  transcriptHash : c.context.transcriptHash = c'.context.transcriptHash
  boundContext : c.boundContextV1 = c'.boundContextV1

theorem length_boundContextV1 {c c' : EnvelopeCodecV1}
    (hmode : c.context.effectivePolicy.secureEnvelopeMode =
      c'.context.effectivePolicy.secureEnvelopeMode) :
    c.boundContextV1.length = c'.boundContextV1.length := by
  rw [boundContextV1, boundContextV1, hmode]
  split <;> simp

/-- Domain separation of the additional data. Application data never equals
control data. Equal application data belongs to records which agree on every
bound value and on the sealed length. Equal control data in one mode belongs to
records which agree on every bound value and on the caller's own data; it does
not determine the sealed length. -/
theorem aadV1_separates (c c' : EnvelopeCodecV1) (record other : EnvelopeRecordV1)
    (recordAAD otherAAD : List UInt8) :
    (record.recordType = 1 → other.recordType ≠ 1 →
      c.aadV1 record recordAAD ≠ c'.aadV1 other otherAAD) ∧
    (c.aadV1 record recordAAD = c'.aadV1 other otherAAD →
      record.recordType = 1 → other.recordType = 1 →
      SameBindingV1 c c' record other ∧ record.sealedLength = other.sealedLength) ∧
    (c.aadV1 record recordAAD = c'.aadV1 other otherAAD →
      record.recordType ≠ 1 → other.recordType ≠ 1 →
      c.context.effectivePolicy.secureEnvelopeMode =
        c'.context.effectivePolicy.secureEnvelopeMode →
      SameBindingV1 c c' record other ∧ recordAAD = otherAAD) := by
  refine ⟨?_, ?_, ?_⟩
  · intro hrecord hother h
    -- The layouts differ in their first byte.
    have hfirst := congrArg head? h
    have happlication : putUint16 1 = [0, 1] := by decide
    simp only [aadV1, if_pos hrecord, if_neg hother] at hfirst
    exact absurd (Option.some.inj hfirst) (by decide)
  · intro h hrecord hother
    simp only [aadV1, if_pos hrecord, if_pos hother, writeApplicationAADV1, append_assoc] at h
    have h := append_cancel_left (append_cancel_left h)
    obtain ⟨hpolicy, h⟩ := fixedBytes_append_inj h
    obtain ⟨htranscript, h⟩ := fixedBytes_append_inj h
    obtain ⟨hclass, h⟩ := separates_putUint16 trivial trivial h
    obtain ⟨hepoch, h⟩ := separates_putUint64 trivial trivial h
    obtain ⟨hdirection, h⟩ := separates_putUint16 trivial trivial h
    obtain ⟨hslot, h⟩ := separates_putUint16 trivial trivial h
    obtain ⟨hsequence, h⟩ := separates_putUint64 trivial trivial h
    obtain ⟨hsealed, h⟩ := separates_putUint32 trivial trivial h
    exact ⟨⟨hrecord.trans hother.symm, hepoch, hdirection, hslot, hsequence, hclass, hpolicy,
      htranscript, h⟩, hsealed⟩
  · intro h hrecord hother hmode
    simp only [aadV1, if_neg hrecord, if_neg hother, append_assoc] at h
    have h := append_cancel_left h
    obtain ⟨htype, h⟩ := separates_putUint16 trivial trivial h
    obtain ⟨hepoch, h⟩ := separates_putUint64 trivial trivial h
    obtain ⟨hdirection, h⟩ := separates_putUint16 trivial trivial h
    obtain ⟨hslot, h⟩ := separates_putUint16 trivial trivial h
    obtain ⟨hsequence, h⟩ := separates_putUint64 trivial trivial h
    obtain ⟨hclass, h⟩ := separates_putUint16 trivial trivial h
    obtain ⟨hpolicy, h⟩ := fixedBytes_append_inj h
    obtain ⟨htranscript, h⟩ := fixedBytes_append_inj h
    obtain ⟨hbound, h⟩ := append_inj h (length_boundContextV1 hmode)
    exact ⟨⟨htype, hepoch, hdirection, hslot, hsequence, hclass, hpolicy, htranscript, hbound⟩, h⟩

end EnvelopeCodecV1

/-- A control record of the sample codec, sealed at `sealedLength`. -/
def sampleControlV1 (sealedLength : UInt32) : EnvelopeRecordV1 :=
  ⟨2, 5, 1, 0, 0, sealedLength, []⟩

theorem aadV1_separates_sample :
    let codec := freshEnvelopeCodecV1 sampleScheduleV1 sampleContextV1 true false
    codec.aadV1 { sampleControlV1 16 with recordType := 1 } [] ≠
        codec.aadV1 (sampleControlV1 16) [] ∧
      EnvelopeCodecV1.SameBindingV1 codec codec (sampleControlV1 16) (sampleControlV1 17) :=
  ⟨(EnvelopeCodecV1.aadV1_separates _ _ _ _ _ _).1 rfl (by decide),
    ((EnvelopeCodecV1.aadV1_separates _ _ (sampleControlV1 16) (sampleControlV1 17) [] []).2.2
      rfl (by decide) (by decide) rfl).1⟩

/-- Two codecs built from one schedule seal control records of different length
under the same additional data. -/
theorem aadV1_control_sealedLength :
    ∃ codec first second,
      newRoleEnvelopeV1 sampleScheduleV1 sampleContextV1 true false = .ok codec ∧
      (codec.sealControlV1 plainAEAD 2 [] []).2 = .ok first ∧
      (codec.sealControlV1 plainAEAD 2 [1] []).2 = .ok second ∧
      codec.aadV1 first [] = codec.aadV1 second [] ∧
      first.sealedLength ≠ second.sealedLength :=
  ⟨_, _, _, sampleCodec_ok true false, rfl, rfl, rfl, by decide⟩

end Kurdistan.Security
