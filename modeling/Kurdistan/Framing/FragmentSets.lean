import Kurdistan.Framing.DecoderAgreement

/-!
# Altered fragment sets

A frame names its operation's metadata, its position and the size of its set.
Hence a frame has at most one place in the lists the decoder accepts, and altering
an accepted list leaves the accepted lists.
-/

namespace Kurdistan.Framing

open Support Protocol List

variable {spec : CodecSpec} {frames others : List (List UInt8)}

/-- Some operation is decoded from the frames. -/
def Accepted (spec : CodecSpec) (frames : List (List UInt8)) : Prop :=
  ∃ result, decodeFramesWithSpec spec frames = .ok result

theorem accepted_of_parses {views : List FrameView} (hviews : ParsesTo spec frames views) :
    Accepted spec frames ↔ ∃ expected, views.head? = some expected ∧
      FragmentSet expected views := by
  cases views with
  | nil =>
    cases hviews
    simp [Accepted, decodeFramesWithSpec, decodeAll]
  | cons expected rest =>
    constructor
    · rintro ⟨⟨op, parts⟩, h⟩
      exact ⟨expected, rfl, ((decodeFramesWithSpec_of_parses hviews).mp h).1⟩
    · rintro ⟨_, hhead, hset⟩
      obtain ⟨⟩ := hhead
      exact ⟨_, (decodeFramesWithSpec_of_parses hviews).mpr ⟨hset, rfl, rfl⟩⟩

namespace Accepted

variable (h : Accepted spec frames)

include h

theorem fragmentOf :
    ∃ expected, ∀ i frame, frames[i]? = some frame → ∃ view,
      parseFrameView spec frame = .ok view ∧ FragmentOf expected frames.length i view ∧
        metadataBytes view.metadata.materialize = metadataBytes expected.metadata.materialize := by
  obtain ⟨⟨op, parts⟩, hdecode⟩ := h
  obtain ⟨expected, rest, hviews, hset, -⟩ := decodeFramesWithSpec_eq_ok.mp hdecode
  have htexts := forall₂_texts hviews
  have hlength := hviews.length_eq
  refine ⟨expected, fun i frame hframe => ?_⟩
  obtain ⟨hi, rfl⟩ := List.getElem?_eq_some_iff.mp hframe
  have hi' := hlength ▸ hi
  have hfragment := hset (_, i) (mem_zipIdx_iff_getElem?.mpr (getElem?_eq_getElem hi'))
  exact ⟨_, hviews.get hi hi', hlength.symm ▸ hfragment,
    (equal_iff_metadataBytes (htexts _ (getElem_mem hi'))
      (htexts _ mem_cons_self)).mp hfragment.metadata⟩

theorem place (h' : Accepted spec others) {i j : ℕ}
    {frame : List UInt8} (hi : frames[i]? = some frame) (hj : others[j]? = some frame) :
    frames.length = others.length ∧ i = j := by
  obtain ⟨_, hframes⟩ := h.fragmentOf
  obtain ⟨_, hothers⟩ := h'.fragmentOf
  obtain ⟨view, hview, hfragment, -⟩ := hframes i frame hi
  obtain ⟨_, hview', hfragment', -⟩ := hothers j frame hj
  obtain ⟨⟩ := hview.symm.trans hview'
  exact ⟨hfragment.fragCount.symm.trans hfragment'.fragCount,
    hfragment.fragIndex.symm.trans hfragment'.fragIndex⟩

theorem length_eq (h' : Accepted spec others)
    {frame : List UInt8} (hmem : frame ∈ frames) (hmem' : frame ∈ others) :
    frames.length = others.length := by
  obtain ⟨i, hi⟩ := mem_iff_getElem?.mp hmem
  obtain ⟨j, hj⟩ := mem_iff_getElem?.mp hmem'
  exact (h.place h' hi hj).1

theorem metadata_eq {i j : ℕ} {frame other : List UInt8}
    {view view' : FrameView} (hi : frames[i]? = some frame) (hj : frames[j]? = some other)
    (hview : parseFrameView spec frame = .ok view)
    (hview' : parseFrameView spec other = .ok view') :
    metadataBytes view.metadata.materialize = metadataBytes view'.metadata.materialize := by
  obtain ⟨_, hframes⟩ := h.fragmentOf
  obtain ⟨_, hparsed, -, hblock⟩ := hframes i frame hi
  obtain ⟨_, hparsed', -, hblock'⟩ := hframes j other hj
  obtain ⟨⟩ := hparsed.symm.trans hview
  obtain ⟨⟩ := hparsed'.symm.trans hview'
  exact hblock.trans hblock'.symm

theorem ne_nil : frames ≠ [] := by
  rintro rfl
  simp [Accepted, decodeFramesWithSpec, decodeAll] at h

end Accepted

/-- Fragment-set exactness. Frames which parse are accepted exactly when they
are the complete fragment set of one operation in order, and an accepted list is
no longer accepted once a frame is removed, repeated, moved to another place, or,
in a list of two frames or more, replaced by a frame with other metadata. -/
theorem accepted_exact {views : List FrameView} (hviews : ParsesTo spec frames views) :
    (Accepted spec frames ↔ ∃ expected, views.head? = some expected ∧
      FragmentSet expected views) ∧
    (Accepted spec frames →
      (∀ i < frames.length, ¬ Accepted spec (frames.eraseIdx i)) ∧
      (∀ frame ∈ frames, ∀ i ≤ frames.length, ¬ Accepted spec (frames.insertIdx i frame)) ∧
      (∀ i j frame other, i ≠ j → frames[i]? = some frame → frames[j]? = some other →
        ¬ Accepted spec ((frames.set i other).set j frame)) ∧
      ∀ i frame view other view', 1 < frames.length → frames[i]? = some frame →
        parseFrameView spec frame = .ok view → parseFrameView spec other = .ok view' →
        view'.metadata.equal view.metadata = false →
        ¬ Accepted spec (frames.set i other)) := by
  refine ⟨accepted_of_parses hviews, fun h => ⟨?_, ?_, ?_, ?_⟩⟩
  · intro i hi h'
    obtain ⟨frame, hframe⟩ := exists_mem_of_ne_nil _ h'.ne_nil
    have hlength := h.length_eq h' (mem_of_mem_eraseIdx hframe) hframe
    rw [length_eraseIdx_of_lt hi] at hlength
    omega
  · intro frame hframe i hi h'
    have hlength := h.length_eq h' hframe ((mem_insertIdx hi).mpr (Or.inl rfl))
    rw [length_insertIdx_of_le_length hi] at hlength
    omega
  · intro i j frame other hne hi hj h'
    have hlt := (List.getElem?_eq_some_iff.mp hi).1
    have hmoved : ((frames.set i other).set j frame)[i]? = some other := by
      rw [getElem?_set_ne hne.symm, getElem?_set_self hlt]
    exact hne (h'.place h hmoved hj).2
  · intro i frame view other view' hmany hi hview hview' hother h'
    have hlt := (List.getElem?_eq_some_iff.mp hi).1
    -- A second frame of the list stays and fixes the metadata.
    obtain ⟨k, hk, hne⟩ : ∃ k < frames.length, i ≠ k :=
      ⟨if i = 0 then 1 else 0, by split <;> omega, by split <;> omega⟩
    have hkept := getElem?_eq_getElem hk
    obtain ⟨_, hframes⟩ := h.fragmentOf
    obtain ⟨kept, hparsed, -⟩ := hframes k _ hkept
    have hbefore := h.metadata_eq hkept hi hparsed hview
    have hafter := h'.metadata_eq (getElem?_set_self hlt)
      ((getElem?_set_ne hne).trans hkept) hview' hparsed
    have hequal := (equal_iff_metadataBytes (parseFrameView_texts hview')
      (parseFrameView_texts hview)).mpr (hafter.trans hbefore)
    exact absurd hequal (by simp [hother])

/-- The sample frame with a sequence number in its metadata. -/
def sampleFrameOfOther : List UInt8 :=
  sampleFrame.set 23 7

theorem accepted_exact_sampleFrame :
    Accepted sampleCodec.spec [sampleFrame] ∧
      ¬ Accepted sampleCodec.spec [sampleFrame, sampleFrame] := by
  obtain ⟨view, hview⟩ := exists_ok_of_isSome (parseFrameView sampleCodec.spec sampleFrame)
    (by decide +kernel)
  have haccepted : Accepted sampleCodec.spec [sampleFrame] :=
    exists_ok_of_isSome _ (by decide +kernel)
  exact ⟨haccepted, ((accepted_exact (.cons hview .nil)).2 haccepted).2.1 sampleFrame
    mem_cons_self 0 (Nat.zero_le _)⟩

/-- The only frame of an operation may be replaced by the only frame of another. -/
theorem accepted_sampleFrameOfOther :
    codecSpecFromLiveProgram sampleProgram = .ok sampleCodec.spec ∧ ∃ view view',
      parseFrameView sampleCodec.spec sampleFrame = .ok view ∧
      parseFrameView sampleCodec.spec sampleFrameOfOther = .ok view' ∧
      view'.metadata.equal view.metadata = false ∧
      Accepted sampleCodec.spec [sampleFrame] ∧
      Accepted sampleCodec.spec ([sampleFrame].set 0 sampleFrameOfOther) := by
  obtain ⟨view, hview⟩ := exists_ok_of_isSome (parseFrameView sampleCodec.spec sampleFrame)
    (by decide +kernel)
  obtain ⟨view', hview'⟩ := exists_ok_of_isSome
    (parseFrameView sampleCodec.spec sampleFrameOfOther) (by decide +kernel)
  have hother : ((parseFrameView sampleCodec.spec sampleFrame).toOption.bind fun view =>
      (parseFrameView sampleCodec.spec sampleFrameOfOther).toOption.map fun view' =>
        view'.metadata.equal view.metadata) = some false := by
    decide +kernel
  rw [hview, hview'] at hother
  exact ⟨codecSpecFromLiveProgram_sampleProgram, view, view', hview, hview',
    Option.some.inj hother, exists_ok_of_isSome _ (by decide +kernel),
    exists_ok_of_isSome _ (by decide +kernel)⟩

end Kurdistan.Framing
