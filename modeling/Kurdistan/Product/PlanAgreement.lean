import Kurdistan.Product.AdmissionReadback
import Kurdistan.Product.PlanDigest

/-!
# Client and relay agree on a plan

The preface of a plan determines it: a relay with the authority of the client builds the
same plan from the preface, and the preface which a relay accepts is the preface of the
plan it has built. The digest of a plan determines all of its fields but two sizes.
-/

namespace Kurdistan.Product

open Support Support.Cbor
open Protocol hiding hexEncode

/-! ## Decoded policies -/

theorem withinPolicyV2_decoded (p : PolicyV2) (plan : PlanV2) :
    withinPolicyV2 p.decoded plan = withinPolicyV2 p plan := by
  unfold PolicyV2.decoded
  cases p.services <;> rfl

theorem effectiveEndpointIndexesV1_decoded (p : PolicyV2) (endpoints : List EndpointV2) :
    effectiveEndpointIndexesV1 p.decoded endpoints = effectiveEndpointIndexesV1 p endpoints := by
  unfold PolicyV2.decoded
  cases p.services <;> rfl

section Correct

variable {libraries : Libraries} (hlib : libraries.cbor.Correct strictMode) {now later : Instant}
  {plan : PlanV2}

include hlib

theorem validateV2At_iff {p : PolicyV2} (hvalid : validateRuntimeAt libraries p now = .ok ())
    (hsize : (runtimeMap p).encode.length ≤ maxPolicyBytes)
    (hbytes : plan.runtimePolicyBytes = (runtimeMap p).encode) :
    validateV2At libraries plan now = .ok () ↔
      plan.WellFormed ∧ withinPolicyV2 p plan = true ∧
        digestPlanV2 plan = plan.digest := by
  have hdecode := decodeRuntimeAt_runtimeMap hlib hvalid hsize
  rw [validateV2At_eq_ok, hbytes, hdecode]
  simp only [Except.ok.injEq, exists_eq_left', withinPolicyV2_decoded]

end Correct

/-! ## Selecting again -/

/-- The request which names a selection. -/
def SelectionV2.request (selection : SelectionV2) (policy : PolicyV2) : NarrowingRequestV2 where
  strategyID := selection.strategyID
  endpointIndexes := selection.endpointIndexes
  ipMode := selection.ipMode
  routes := selection.network.routes
  dnsServers := ofMode selection.ipMode selection.network.dns4.toList selection.network.dns6.toList
  mtu := policy.mtu
  payloadProtocols := selection.payloadProtocols
  maxQueuePackets := selection.limits.queue
  maxIncompleteOps := selection.limits.incomplete
  maxReconnectAttempts := selection.limits.reconnects
  allowLAN := false

theorem uint16_min_le_right (a b : UInt16) : min a b ≤ b := by
  change (if a ≤ b then a else b) ≤ b
  split_ifs with h
  · exact h
  · exact UInt16.le_refl b

theorem selectLimitsV2_again {policy : PolicyV2} {requested again : NarrowingRequestV2}
    {limits : SelectedLimits} (h : selectLimitsV2 policy requested = .ok limits)
    (hqueue : again.maxQueuePackets = limits.queue)
    (hincomplete : again.maxIncompleteOps = limits.incomplete)
    (hreconnects : again.maxReconnectAttempts = limits.reconnects) :
    selectLimitsV2 policy again = .ok limits := by
  simp only [selectLimitsV2, check_ok_iff, ensure_eq_ok] at h ⊢
  obtain ⟨hsmall, hops, hbounds, hlimits⟩ := h
  have hlimits := Except.ok.inj hlimits
  have hle : limits.incomplete ≤ maximumIncompleteOpsV2 := by
    rw [← hlimits]
    simp only
    split_ifs
    · exact hops
    · exact uint16_min_le_right _ _
  rw [hqueue, hincomplete, hreconnects]
  rw [← hlimits] at hle ⊢
  refine ⟨hsmall, hle, ?_, ?_⟩
  · simp only [hbounds.1, hbounds.2.1, hbounds.2.2.1, if_true, ne_eq, not_false_eq_true, true_and]
    exact hbounds.2.2.2
  · simp only [hbounds.1, hbounds.2.1, hbounds.2.2.1, ne_eq]
    rfl

variable {mode : Choice IPModeV2}

theorem not_isUnset_of_known (h : mode.isKnown = true) : isUnset mode = false := by
  obtain ⟨word, rfl⟩ := Choice.isKnown_iff.mp h
  cases word <;> decide

theorem selectIPModeV2_of_mem {signed : List (Choice IPModeV2)} (hknown : mode.isKnown = true)
    (hmem : mode ∈ signed) : selectIPModeV2 signed mode = .ok mode := by
  unfold selectIPModeV2
  rw [if_neg (by simp [not_isUnset_of_known hknown])]
  exact check_ok_iff.mpr ⟨ensure_eq_ok.mpr (decide_eq_true hmem), rfl⟩

theorem ValidTransport.known_modes {policy : PolicyV2} (hvalid : ValidTransport policy) :
    ∀ mode ∈ policy.allowedIPModes, mode.isKnown = true := by
  have hsorted := hvalid.sorted_words.1
  simp only [sortedUnique, decide_eq_true_eq] at hsorted
  exact hsorted.1

variable {selection : SelectionV2}

theorem selectedProtocols_subset {authority : AuthorityV2} {requested : NarrowingRequestV2}
    (hvalid : ValidTransport authority.policy)
    (h : selectAuthorityV2 authority requested = .ok selection) :
    protocolSubsetV2 authority.policy.allowedProtocols selection.payloadProtocols = true := by
  obtain ⟨-, -, -, -, -, hprotocols, -⟩ := selectAuthorityV2_eq_ok.mp h
  rcases selectProtocolsV2_eq_ok.mp hprotocols with ⟨-, heq⟩ | ⟨heq, hsubset⟩
  · exact heq ▸ protocolSubsetV2_refl hvalid
  · exact heq ▸ hsubset

/-- An authority with the same policy, strategies and relays selects the same from the
request which names the selection. -/
theorem selectAuthorityV2_again {authority other : AuthorityV2} {requested : NarrowingRequestV2}
    (hvalid : ValidTransport authority.policy) (hpolicy : other.policy = authority.policy)
    (hstrategies : other.strategyIDs = authority.strategyIDs)
    (hrelays : other.relayIDs = authority.relayIDs)
    (h : selectAuthorityV2 authority requested = .ok selection) :
    selectAuthorityV2 other (selection.request authority.policy) = .ok selection := by
  obtain ⟨hne, hsublist⟩ := selectedIndexes_sublist hvalid h
  have hsubset := selectedProtocols_subset hvalid h
  obtain ⟨hstrategy, hrelay, hindexes, hmode, hnetwork, hprotocols, hlimits, -, -, hmtu⟩ :=
    selectAuthorityV2_eq_ok.mp h
  obtain ⟨hname, hsigned, -⟩ := selectStrategyV2_eq_ok.mp hstrategy
  obtain ⟨haddresses, hselected, -, -⟩ := selectNetworkV2_eq_ok.mp hnetwork
  have hmem := selectIPModeV2_mem hmode
  have hchain : selection.endpointIndexes.IsChain (· < ·) :=
    (hvalid.indexes.2.2.sublist hsublist).isChain
  refine selectAuthorityV2_eq_ok.mpr ?_
  rw [hpolicy, hstrategies, hrelays]
  refine ⟨selectStrategyV2_eq_ok.mpr ⟨hname, hsigned, .inr hname⟩, hrelay,
    selectEndpointIndexesV2_eq_ok.mpr (.inr ⟨rfl, hne, hchain, hsublist⟩),
    selectIPModeV2_of_mem (hvalid.known_modes _ hmem) hmem,
    selectNetworkV2_eq_ok.mpr ⟨haddresses, hselected, .inr ?_, .inr ?_⟩,
    selectProtocolsV2_eq_ok.mpr (.inr ⟨rfl, hsubset⟩),
    selectLimitsV2_again hlimits rfl rfl rfl, rfl, .inr rfl, hmtu⟩
  · rw [← hselected]
    rfl
  · rw [SelectionV2.request, hselected]
    exact ofMode_dns haddresses

variable {preface : RelayAdmissionPrefaceV1}

/-- A request which leaves nothing open names the selection. -/
theorem request_of_complete {authority : AuthorityV2}
    (hpreface : validateRelayAdmissionPrefaceV1 preface = true)
    (h : selectAuthorityV2 authority preface.requested = .ok selection) :
    preface.requested = selection.request authority.policy := by
  simp only [validateRelayAdmissionPrefaceV1, decide_eq_true_eq] at hpreface
  obtain ⟨⟨-, -, -, -, -, hstrategy, hindexes, -, -, hknown, hroutes, -, hdns, -, hmtu, hprotocols,
    -, hqueue, hincomplete, hattempts, hlan⟩, -⟩ := hpreface
  obtain ⟨hname, -, hindex, hmode, hnetwork, hprotocol, hlimits, -, hsize, -⟩ :=
    selectAuthorityV2_eq_ok.mp h
  have hsupported := (selectStrategyV2_eq_ok.mp hname).1
  have hindex := (selectEndpointIndexesV2_eq_ok.mp hindex).resolve_left fun h => hindexes h.1
  have hprotocol := (selectProtocolsV2_eq_ok.mp hprotocol).resolve_left fun h => hprotocols h.1
  obtain ⟨haddresses, hselected, hroute, hserver⟩ := selectNetworkV2_eq_ok.mp hnetwork
  unfold selectIPModeV2 at hmode
  rw [if_neg (by simp [not_isUnset_of_known hknown])] at hmode
  obtain ⟨-, hmode⟩ := check_ok_iff.mp hmode
  obtain ⟨-, hlimits⟩ := check_ok_iff.mp hlimits
  obtain ⟨-, hlimits⟩ := check_ok_iff.mp hlimits
  obtain ⟨-, hlimits⟩ := check_ok_iff.mp hlimits
  rw [if_pos hqueue, if_pos hincomplete, if_pos hattempts] at hlimits
  have hlimits := Except.ok.inj hlimits
  have hnonzero : preface.requested.mtu ≠ 0 := by
    rw [hmtu]
    decide
  have hservers : ofMode selection.ipMode selection.network.dns4.toList
      selection.network.dns6.toList = preface.requested.dnsServers := by
    rw [hserver.resolve_left hdns, hselected]
    exact ofMode_dns haddresses
  have hroutes : preface.requested.routes = selection.network.routes := by
    rw [hroute.resolve_left hroutes, hselected]
  rcases hrequest : preface.requested with ⟨⟩
  simp only [hrequest] at *
  simp only [SelectionV2.request, NarrowingRequestV2.mk.injEq, ← hlimits]
  exact ⟨hstrategy.trans hsupported.symm, hindex.1.symm, Except.ok.inj hmode, hroutes,
    hservers.symm,
    hsize.resolve_left hnonzero, hprotocol.1.symm, trivial, trivial, trivial, hlan⟩

/-! ## The preface of a plan -/

theorem ofMode_ne_nil {α : Type} (h : mode.isKnown = true) (value4 value6 : α) :
    ofMode mode value4 value6 ≠ [] := by
  obtain ⟨word, rfl⟩ := Choice.isKnown_iff.mp h
  cases word <;> simp [ofMode, includesIPv4, includesIPv6]

theorem length_ofMode {α : Type} (mode : Choice IPModeV2) (value4 value6 : α) :
    (ofMode mode value4 value6).length ≤ 2 := by
  unfold ofMode
  split_ifs <;> simp

theorem mem_ofMode {α : Type} {value4 value6 value : α} (h : value ∈ ofMode mode value4 value6) :
    value = value4 ∨ value = value6 := by
  unfold ofMode at h
  split_ifs at h <;> simp_all

section Preface

variable {policy : PolicyV2} {plan : PlanV2} {indexes : List UInt8}

/-- A plan which stays inside a valid policy has a valid preface. -/
theorem validateRelayAdmissionPrefaceV1_prefaceOf (hvalid : ValidTransport policy)
    (hwell : plan.WellFormed) (hwithin : withinPolicyV2 policy plan = true)
    (hindexes : effectiveEndpointIndexesV1 policy plan.endpoints = some indexes) :
    validateRelayAdmissionPrefaceV1 (prefaceOf plan indexes) = true := by
  rw [withinPolicyV2, decide_eq_true_eq] at hwithin
  obtain ⟨-, -, -, -, -, -, -, -, hmode, hprotocols, hnetwork⟩ := hwithin
  rw [modePermittedV2, decide_eq_true_eq] at hmode
  obtain ⟨hsome, hchain, hsublist⟩ := orderedSubset_iff.mp hprotocols
  obtain ⟨-, hroutes, -⟩ := networkMatchesModeV2_iff.mp hnetwork
  obtain ⟨hsigned, hforall⟩ := matchInOrder_sound hindexes
  have hlength := hforall.length_eq
  have hknown := hvalid.known_modes _ hmode
  have hwords := hvalid.sorted_words.2
  have hcount := (length_sortedUnique hwords : _ ≤ 4)
  simp only [sortedUnique, decide_eq_true_eq] at hwords
  have hroutes : (prefaceOf plan indexes).requested.routes =
      ofMode plan.ipMode defaultRoute4 defaultRoute6 := hroutes
  rw [validateRelayAdmissionPrefaceV1, decide_eq_true_eq]
  refine ⟨⟨rfl, hwell.contentID, hwell.generation, hwell.receiptDigest, hwell.digest,
    hwell.strategyID, ?_, ?_, ?_, hknown, ?_, ?_, ofMode_ne_nil hknown _ _, length_ofMode _ _ _,
    hwell.mtu, hsome, ?_, hwell.queue, hwell.ops, hwell.reconnects, rfl⟩, ?_, ?_, ?_, hchain⟩
  · rintro (hempty : indexes = [])
    rw [hempty] at hlength
    exact hwell.endpoints (List.eq_nil_of_length_eq_zero hlength)
  · exact hlength ▸ hwell.endpointCount
  · exact decide_eq_true (hvalid.indexes.2.2.sublist hsigned).isChain
  · exact hroutes ▸ ofMode_ne_nil hknown _ _
  · exact hroutes ▸ length_ofMode _ _ _
  · exact hsublist.length_le.trans hcount
  · intro route hroute
    rcases mem_ofMode (hroutes ▸ hroute) with rfl | rfl <;> decide
  · intro server hserver
    rcases mem_ofMode hserver with rfl | rfl <;> simp [isAddress]
  · exact fun protocol hprotocol => hwords.1 protocol (hsublist.subset hprotocol)

variable {libraries : Libraries} {now : Instant} {preface : RelayAdmissionPrefaceV1}

theorem newRelayAdmissionPrefaceV1At_eq_some :
    newRelayAdmissionPrefaceV1At libraries plan now = some preface ↔
      (¬ isZeroTime now = true ∧ validateV2At libraries plan now = .ok ()) ∧
      ∃ policy, decodeRuntimeAt libraries plan.runtimePolicyBytes now = .ok policy ∧
        ∃ indexes, effectiveEndpointIndexesV1 policy plan.endpoints = some indexes ∧
          validateRelayAdmissionPrefaceV1 (prefaceOf plan indexes) = true ∧
          prefaceOf plan indexes = preface := by
  unfold newRelayAdmissionPrefaceV1At
  simp only [Option.bind_eq_bind, guard_bind_eq_some]
  refine and_congr_right fun _ => ?_
  cases decodeRuntimeAt libraries plan.runtimePolicyBytes now with
  | error err => simp [Except.toOption]
  | ok policy =>
    simp only [Except.toOption, Option.bind_some, Except.ok.injEq, exists_eq_left']
    rw [Option.bind_eq_some_iff]
    refine exists_congr fun indexes => and_congr_right fun _ => ?_
    rw [guard_bind_eq_some, Option.pure_def, Option.some.injEq]

end Preface

/-! ## Client and relay -/

/-- The plan of a profile of another size. -/
def PlanV2.resize (plan : PlanV2) (size : ℕ) : PlanV2 := { plan with admittedProfileBytes := size }

theorem digestPlanV2_resize (plan : PlanV2) (size : ℕ) :
    digestPlanV2 (plan.resize size) = digestPlanV2 plan := rfl

theorem PlanV2.WellFormed.resize {plan : PlanV2} (h : plan.WellFormed) (size : ℕ) :
    (plan.resize size).WellFormed := { h with }

theorem withinPolicyV2_resize (policy : PolicyV2) (plan : PlanV2) (size : ℕ) :
    withinPolicyV2 policy (plan.resize size) = withinPolicyV2 policy plan := rfl

theorem planV2_resize (authority : AuthorityV2) (policyBytes : List UInt8)
    (carrier : LiveAuthorityV2) (selection : SelectionV2) (size : ℕ) :
    (planV2 authority policyBytes carrier selection).resize size =
      planV2 { authority with admittedProfileBytes := size } policyBytes carrier selection :=
  congrArg (fun digest => { unsignedPlanV2 authority policyBytes carrier selection with
    admittedProfileBytes := size, digest := digest })
    (digestPlanV2_resize (unsignedPlanV2 authority policyBytes carrier selection) size).symm

section Agreement

variable {libraries : Libraries} (hlib : libraries.cbor.Correct strictMode)
  {authority : AuthorityV2} {requested : NarrowingRequestV2} {now later : Instant} {plan : PlanV2}

include hlib

/-- A built plan carries the encoding of the policy and stays inside it. -/
theorem built_facts (h : buildAuthorityV2 libraries authority requested now = .ok plan) :
    authority.Admitted ∧ validateRuntimeAt libraries authority.policy now = .ok () ∧
      (runtimeMap authority.policy).encode.length ≤ maxPolicyBytes ∧
      ∃ selection, selectAuthorityV2 authority requested = .ok selection ∧
        plan = planV2 authority (runtimeMap authority.policy).encode
          (carrierOf authority.policy) selection ∧
        plan.WellFormed := by
  obtain ⟨hadmitted, hvalid, policyBytes, selection, hencode, hselection, rfl, hplan⟩ :=
    buildAuthorityV2_eq_ok.mp h
  obtain ⟨-, rfl, hsize⟩ := (encodeRuntimeAt_eq_ok hlib).mp hencode
  exact ⟨hadmitted, hvalid, hsize, selection, hselection, rfl, (validateV2At_eq_ok.mp hplan).1⟩

variable (hsize : (runtimeMap authority.policy).encode.length ≤ maxPolicyBytes)
  (hselection : selectAuthorityV2 authority requested = .ok selection)
  (hplan : plan = planV2 authority (runtimeMap authority.policy).encode
    (carrierOf authority.policy) selection) (hwell : plan.WellFormed)

include hsize hselection hplan hwell

/-- The preface of a built plan, at every time at which its policy is valid. -/
theorem newRelayAdmissionPrefaceV1At_built
    (hvalid : validateRuntimeAt libraries authority.policy now = .ok ()) :
    newRelayAdmissionPrefaceV1At libraries plan now =
        some (prefaceOf plan selection.endpointIndexes) ∧
      validateRelayAdmissionPrefaceV1 (prefaceOf plan selection.endpointIndexes) = true := by
  have htransport := validTransport_of_validRuntime hvalid
  obtain ⟨-, hsublist⟩ := selectedIndexes_sublist htransport hselection
  have hdecode := decodeRuntimeAt_runtimeMap hlib hvalid hsize
  have hwithin := withinPolicyV2_planV2 htransport hselection
    (runtimeMap authority.policy).encode (carrierOf authority.policy)
  have hindexes := effectiveEndpointIndexesV1_select htransport hsublist
  subst hplan
  have hpreface := validateRelayAdmissionPrefaceV1_prefaceOf htransport hwell hwithin hindexes
  have hplan := (validateV2At_iff hlib hvalid hsize rfl).mpr
    ⟨hwell, hwithin, digestPlanV2_planV2 _ _ _ _⟩
  refine ⟨newRelayAdmissionPrefaceV1At_eq_some.mpr ⟨⟨not_isZeroTime_of_valid hvalid, hplan⟩,
    authority.policy.decoded, hdecode, selection.endpointIndexes, ?_, hpreface, rfl⟩, hpreface⟩
  rw [effectiveEndpointIndexesV1_decoded]
  exact hindexes

/-- From the preface, an authority with the same policy, strategies and relays builds the
same plan, at every time at which the policy is valid. -/
theorem buildAuthorityV2_again {other : AuthorityV2}
    (hother : other = { authority with admittedProfileBytes := maxPayloadBytes })
    (hadmitted : authority.Admitted)
    (hvalid : validateRuntimeAt libraries authority.policy later = .ok ()) :
    buildAuthorityV2 libraries other (prefaceOf plan selection.endpointIndexes).requested later =
      .ok (plan.resize maxPayloadBytes) := by
  have htransport := validTransport_of_validRuntime hvalid
  have hrequest : (prefaceOf plan selection.endpointIndexes).requested =
      selection.request authority.policy := by
    rw [hplan]
    rfl
  have hsame : plan.resize maxPayloadBytes =
      planV2 other (runtimeMap authority.policy).encode (carrierOf authority.policy)
        selection := by
    rw [hplan, hother]
    exact planV2_resize _ _ _ _ _
  have hselect := selectAuthorityV2_again htransport (show other.policy = _ by rw [hother])
    (show other.strategyIDs = _ by rw [hother]) (show other.relayIDs = _ by rw [hother]) hselection
  have hwithin := withinPolicyV2_planV2 htransport hselection
    (runtimeMap authority.policy).encode (carrierOf authority.policy)
  rw [← hplan] at hwithin
  have hdigest : digestPlanV2 (plan.resize maxPayloadBytes) =
      (plan.resize maxPayloadBytes).digest := by
    rw [hsame]
    exact digestPlanV2_planV2 _ _ _ _
  have hpolicy : (plan.resize maxPayloadBytes).runtimePolicyBytes =
      (runtimeMap authority.policy).encode := by
    rw [hplan]
    rfl
  rw [hrequest]
  refine buildAuthorityV2_eq_ok.mpr ⟨?_, ?_, (runtimeMap authority.policy).encode, selection, ?_,
    hselect, ?_, ?_⟩
  · rw [hother]
    exact { hadmitted with profileBytes := ⟨show 0 < maxPayloadBytes by decide, le_rfl⟩ }
  · rw [hother]
    exact hvalid
  · rw [hother]
    exact (encodeRuntimeAt_eq_ok hlib).mpr ⟨hvalid, rfl, hsize⟩
  · rw [hsame, hother]
  · refine (validateV2At_iff hlib hvalid hsize hpolicy).mpr ⟨hwell.resize _, ?_, hdigest⟩
    rw [withinPolicyV2_resize, hwithin]

end Agreement

theorem ascii_of_canonicalID {value : Text} (h : canonicalID value false = true) :
    ∀ byte ∈ value, byte < 128 := by
  have hall : ∀ n < 256, isCanonicalIDByte (UInt8.ofNat n) = true → n < 128 := by decide +kernel
  intro byte hbyte
  unfold canonicalID at h
  rw [if_neg (List.ne_nil_of_mem hbyte), decide_eq_true_eq] at h
  refine UInt8.lt_iff_toNat_lt.mpr (hall byte.toNat byte.toNat_lt ?_)
  rw [UInt8.ofNat_toNat]
  exact h.2 byte hbyte

theorem contentID_of_encoded {envelope : Library} {profile : CanonicalProfileV1}
    {encoded : List UInt8} (h : encodeCanonicalProfileV1 envelope profile = some encoded) :
    canonicalID profile.contentID false = true := by
  obtain ⟨hvalid, -⟩ := guard_bind_eq_some.mp h
  rw [validateCanonicalProfileV1, decide_eq_true_eq] at hvalid
  exact hvalid.1 _ List.mem_cons_self

/-- The relay holds what the client's request names. -/
structure RelayAuthorityV2.Shares (authority : RelayAuthorityV2) (request : RequestV2) : Prop where
  profileContentID : authority.profileContentID = request.profile.contentID
  profileGeneration : authority.profileGeneration = request.profile.generation
  runtimePolicy : authority.runtimePolicy = request.runtimePolicy
  strategyIDs : authority.strategyIDs = request.profile.strategyIDs
  relayIDs : authority.relayIDs = request.profile.relayIDs

/-- The preface goes over the wire unchanged, alone and in front of a stream. -/
def SurvivesWire (admission : Library) (preface : RelayAdmissionPrefaceV1) : Prop :=
  (∃ encoded, encodeRelayAdmissionPrefaceV1 admission preface = some encoded ∧
    decodeRelayAdmissionPrefaceV1 admission encoded = some preface) ∧
  ∀ rest, ∃ written, writeRelayAdmissionPrefaceV1 admission preface = some written ∧
    readRelayAdmissionPrefaceV1 admission (written ++ rest) = some (preface, rest)

theorem survivesWire {admission : Library} (hlib : admission.Correct admissionMode)
    (hvalid : validateRelayAdmissionPrefaceV1 preface = true)
    (htext : (textOfBytes preface.profileContentID).isSome) : SurvivesWire admission preface :=
  ⟨⟨_, encodeRelayAdmissionPrefaceV1_eq hlib hvalid htext,
    decodeRelayAdmissionPrefaceV1_encode hlib hvalid htext⟩,
    readRelayAdmissionPrefaceV1_write hlib hvalid htext⟩

section Exchange

variable {libraries : Libraries} (hlib : libraries.cbor.Correct strictMode)
  {authority : RelayAuthorityV2} {now : Instant} {plan : PlanV2}

include hlib

/-- What a relay accepts is the preface of the plan which it has built. -/
theorem preface_of_relay {preface : RelayAdmissionPrefaceV1}
    (h : buildRelayV2At libraries authority preface now = some plan) :
    newRelayAdmissionPrefaceV1At libraries plan now = some preface := by
  obtain ⟨⟨-, -, -, hpreface, hcontent, hgeneration⟩, hbuild, hdigest⟩ :=
    buildRelayV2At_eq_some.mp h
  obtain ⟨-, hvalid, hsize, selection, hselection, hplan, hwell⟩ := built_facts hlib hbuild
  have hrequest := request_of_complete hpreface hselection
  have hnew := (newRelayAdmissionPrefaceV1At_built hlib hsize hselection hplan hwell hvalid).1
  have hversion := hpreface
  simp only [validateRelayAdmissionPrefaceV1, decide_eq_true_eq] at hversion
  rw [hnew, Option.some.injEq]
  have hsame : (prefaceOf plan selection.endpointIndexes).requested = preface.requested := by
    rw [hrequest, hplan]
    rfl
  rw [RelayAdmissionPrefaceV1.mk.injEq]
  refine ⟨hversion.1.1.symm, ?_, ?_, ?_, hdigest, hsame⟩
  · rw [hplan]
    exact hcontent
  · rw [hplan]
    exact hgeneration
  · rw [hplan]
    rfl

/-- The preface of a client's plan, and what a relay with the same authority makes of it. -/
theorem relay_of_preface {envelope : Library} {request : RequestV2}
    (h : buildV2At libraries envelope request now = .ok plan) :
    ∃ preface, validateRelayAdmissionPrefaceV1 preface = true ∧
      preface.profileContentID = request.profile.contentID ∧
      (∀ later, validateRuntimeAt libraries request.runtimePolicy later = .ok () →
        newRelayAdmissionPrefaceV1At libraries plan later = some preface) ∧
      ∀ authority : RelayAuthorityV2, authority.Shares request → ∀ later rebuilt,
        buildRelayV2At libraries authority preface later = some rebuilt ↔
          (authority.validFrom ≤ unixSeconds later ∧ unixSeconds later < authority.validUntil ∧
            validateRuntimeAt libraries request.runtimePolicy later = .ok ()) ∧
          rebuilt = plan.resize maxPayloadBytes := by
  obtain ⟨profileBytes, -, -, -, -, hbuild⟩ := buildV2At_eq_ok.mp h
  obtain ⟨hadmitted, hvalid, hsize, selection, hselection, hplan, hwell⟩ := built_facts hlib hbuild
  have hpreface := (newRelayAdmissionPrefaceV1At_built hlib hsize hselection hplan hwell hvalid).2
  have hcontent : plan.profileContentID = request.profile.contentID := by
    rw [hplan]
    rfl
  have hgeneration : plan.profileGeneration = request.profile.generation := by
    rw [hplan]
    rfl
  have hreceipt : plan.activationReceiptDigest = digestReceiptV2 request.activationReceipt := by
    rw [hplan]
    rfl
  refine ⟨prefaceOf plan selection.endpointIndexes, hpreface, hcontent, fun later hlater =>
    (newRelayAdmissionPrefaceV1At_built hlib hsize hselection hplan hwell hlater).1,
    fun authority hshares later rebuilt => ?_⟩
  have hother : authority.forPreface (prefaceOf plan selection.endpointIndexes) =
      { request.authority profileBytes.length with admittedProfileBytes := maxPayloadBytes } := by
    simp only [RelayAuthorityV2.forPreface, AuthorityV2.mk.injEq]
    exact ⟨trivial, hshares.profileContentID, hshares.profileGeneration, hreceipt,
      hshares.runtimePolicy, hshares.strategyIDs, hshares.relayIDs⟩
  have hagain := fun hlater : validateRuntimeAt libraries request.runtimePolicy later = .ok () =>
    buildAuthorityV2_again hlib hsize hselection hplan hwell hother hadmitted hlater
  rw [buildRelayV2At_eq_some]
  constructor
  · rintro ⟨⟨-, hfrom, huntil, -⟩, hrebuilt, -⟩
    have hlater := (buildAuthorityV2_eq_ok.mp hrebuilt).2.1
    rw [hother] at hlater
    rw [hagain hlater] at hrebuilt
    exact ⟨⟨hfrom, huntil, hlater⟩, (Except.ok.inj hrebuilt).symm⟩
  · rintro ⟨⟨hfrom, huntil, hlater⟩, rfl⟩
    exact ⟨⟨not_isZeroTime_of_valid hlater, hfrom, huntil, hpreface,
      hshares.profileContentID.trans hcontent.symm,
      hshares.profileGeneration.trans hgeneration.symm⟩, hagain hlater, rfl⟩

omit hlib in
theorem relay_permits {preface : RelayAdmissionPrefaceV1}
    (h : buildRelayV2At libraries authority preface now = some plan) :
    validateV2At libraries plan now = .ok () ∧ Narrows authority.runtimePolicy plan ∧
      plan.strategyID ∈ authority.strategyIDs ∧ plan.relayKeyID ∈ authority.relayIDs ∧
      plan.profileContentID = authority.profileContentID ∧
      plan.profileGeneration = authority.profileGeneration ∧
      encodeRuntimeAt libraries authority.runtimePolicy now = .ok plan.runtimePolicyBytes := by
  obtain ⟨-, hbuild, -⟩ := buildRelayV2At_eq_some.mp h
  obtain ⟨-, -, policyBytes, selection, hencode, hselection, hplan, hvalid⟩ :=
    buildAuthorityV2_eq_ok.mp hbuild
  have hnarrows := narrows_of_build hbuild
  obtain ⟨hstrategy, hrelay, -⟩ := selectAuthorityV2_eq_ok.mp hselection
  obtain ⟨hname, hsigned, -⟩ := selectStrategyV2_eq_ok.mp hstrategy
  refine ⟨hvalid, hnarrows, ?_, ?_, ?_, ?_, ?_⟩
  · rw [← hname] at hsigned
    rw [hplan]
    exact hsigned
  · rw [hplan]
    exact hrelay
  · rw [hplan]
    rfl
  · rw [hplan]
    rfl
  · rw [hplan]
    exact hencode

end Exchange

/-- Client and relay agree: the preface of a client's plan is carried unchanged, and a relay
with the same authority accepts it exactly while its authority and the policy are valid, with
the plan of the client up to the size of the profile. Whatever a relay accepts is the preface
of a plan inside its own authority, and equal digests of accepted plans mean equal fields
unless two hashed inputs collide. -/
theorem plan_agreement (libraries : Libraries) (envelope admission : Library)
    (hlib : libraries.cbor.Correct strictMode) (hadmission : admission.Correct admissionMode) :
    (∀ request now plan, buildV2At libraries envelope request now = .ok plan →
      ∃ preface, newRelayAdmissionPrefaceV1At libraries plan now = some preface ∧
        SurvivesWire admission preface ∧
        (∀ later, validateRuntimeAt libraries request.runtimePolicy later = .ok () →
          newRelayAdmissionPrefaceV1At libraries plan later = some preface) ∧
        ∀ authority : RelayAuthorityV2, authority.Shares request → ∀ later rebuilt,
          buildRelayV2At libraries authority preface later = some rebuilt ↔
            (authority.validFrom ≤ unixSeconds later ∧ unixSeconds later < authority.validUntil ∧
              validateRuntimeAt libraries request.runtimePolicy later = .ok ()) ∧
            rebuilt = plan.resize maxPayloadBytes) ∧
    (∀ authority preface now plan, buildRelayV2At libraries authority preface now = some plan →
      newRelayAdmissionPrefaceV1At libraries plan now = some preface ∧
        validateV2At libraries plan now = .ok () ∧ Narrows authority.runtimePolicy plan ∧
        plan.strategyID ∈ authority.strategyIDs ∧ plan.relayKeyID ∈ authority.relayIDs ∧
        plan.profileContentID = authority.profileContentID ∧
        plan.profileGeneration = authority.profileGeneration ∧
        encodeRuntimeAt libraries authority.runtimePolicy now = .ok plan.runtimePolicyBytes) ∧
    ∀ left right now later, validateV2At libraries left now = .ok () →
      validateV2At libraries right later = .ok () → NoCollision left right →
      left.digest = right.digest → left.withoutSizes = right.withoutSizes := by
  refine ⟨fun request now plan h => ?_, fun authority preface now plan h => ?_,
    fun left right now later hleft hright => withoutSizes_of_accepted hlib hleft hright⟩
  · obtain ⟨preface, hvalid, hcontent, hpreface, hrelay⟩ := relay_of_preface hlib h
    obtain ⟨profileBytes, hprofile, -, -, -, hbuild⟩ := buildV2At_eq_ok.mp h
    have htext : (textOfBytes preface.profileContentID).isSome := by
      rw [hcontent]
      exact isSome_textOfBytes_of_ascii (ascii_of_canonicalID (contentID_of_encoded hprofile))
    exact ⟨preface, hpreface now (buildAuthorityV2_eq_ok.mp hbuild).2.1,
      survivesWire hadmission hvalid htext, hpreface, hrelay⟩
  · exact ⟨preface_of_relay hlib h, relay_permits h⟩

/-- A relay with the authority of the sample request. -/
def sampleRelay : RelayAuthorityV2 where
  profileContentID := samplePlanRequest.profile.contentID
  profileGeneration := samplePlanRequest.profile.generation
  validFrom := samplePlanRequest.profile.validFrom
  validUntil := samplePlanRequest.profile.validUntil
  runtimePolicy := samplePlanRequest.runtimePolicy
  strategyIDs := samplePlanRequest.profile.strategyIDs
  relayIDs := samplePlanRequest.profile.relayIDs

theorem plan_agreement_sample :
    ∃ preface, newRelayAdmissionPrefaceV1At sampleLibraries samplePlan sampleTime = some preface ∧
      SurvivesWire (reference admissionMode) preface ∧
      buildRelayV2At sampleLibraries sampleRelay preface sampleTime =
        some (samplePlan.resize maxPayloadBytes) := by
  obtain ⟨preface, hpreface, hwire, -, hrelay⟩ := (plan_agreement sampleLibraries sampleEnvelope
    (reference admissionMode) (correct_reference _) (correct_reference _)).1 samplePlanRequest
    sampleTime samplePlan buildV2At_sample
  refine ⟨preface, hpreface, hwire, (hrelay sampleRelay ⟨rfl, rfl, rfl, rfl, rfl⟩ sampleTime
    (samplePlan.resize maxPayloadBytes)).mpr ⟨⟨?_, ?_, sampleFacts.policy⟩, rfl⟩⟩
  · decide
  · decide

end Kurdistan.Product
