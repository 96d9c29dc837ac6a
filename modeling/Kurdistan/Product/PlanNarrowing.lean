import Kurdistan.Product.PolicyRoundTrip
import Kurdistan.Product.RelayAdmission
import Kurdistan.Support.Writers

/-!
# A plan grants no more than its policy

`Narrows policy plan` says that the plan is a part of the policy. Whatever builds or
accepts a plan keeps to it. The policy a plan carries in bytes is the one these bytes were
written for, at whatever time they are read.
-/

namespace Kurdistan.Product

open Support Support.Cbor List
open Protocol (ProgramV1 programMap sampleProgram strictMode)

/-! ## Narrow plans -/

/-- The address is one of the families of the mode. -/
def inMode (mode : Choice IPModeV2) (address : List UInt8) : Bool :=
  address.length = 4 ∧ includesIPv4 mode ∨ address.length = 16 ∧ includesIPv6 mode

/-- The plan is a part of the policy: some of its endpoints and protocols in their order,
one of its modes with the routes and the DNS servers of this mode, and no larger limit. -/
structure Narrows (policy : PolicyV2) (plan : PlanV2) : Prop where
  endpoints : plan.endpoints.Sublist policy.endpoints
  ipMode : plan.ipMode ∈ policy.allowedIPModes
  payloadProtocols : plan.payloadProtocols.Sublist policy.allowedProtocols
  routes : plan.routes = policy.routes.filter fun route => inMode plan.ipMode route.address
  dnsServers : effectiveDNSServersV1 plan = policy.dnsServers.filter (inMode plan.ipMode)
  clientIPv4 : plan.clientIPv4 =
    fixedBytes 4 (if includesIPv4 plan.ipMode then sliceBytes policy.clientIPv4 else [])
  clientIPv6 : plan.clientIPv6 =
    fixedBytes 16 (if includesIPv6 plan.ipMode then sliceBytes policy.clientIPv6 else [])
  mtu : plan.mtu ≤ policy.mtu
  maxQueuePackets : plan.maxQueuePackets.toNat ≤ policy.limits.maxQueuedPackets.toNat
  maxIncompleteOps : plan.maxIncompleteOps.toNat ≤ policy.limits.maxQueuedPackets.toNat
  maxReconnectAttempts :
    plan.maxReconnectAttempts.toNat ≤ policy.limits.maxReconnectAttempts.toNat
  dialTimeout : plan.dialTimeout ≤ secondsV2 policy.fallback.attemptTimeoutSeconds
  idleTimeout : plan.idleTimeout ≤ secondsV2 policy.limits.maxIdleSeconds

/-! ## Networks -/

/-- The addresses of the policy have the lengths which the mode needs. -/
structure HasAddresses (policy : PolicyV2) (mode : Choice IPModeV2) : Prop where
  ipv4 : includesIPv4 mode = true →
    (sliceBytes policy.clientIPv4).length = 4 ∧ (sliceBytes policy.dnsIPv4).length = 4
  ipv6 : includesIPv6 mode = true →
    (sliceBytes policy.clientIPv6).length = 16 ∧ (sliceBytes policy.dnsIPv6).length = 16

/-- The network which `selectNetworkV2` returns if it returns one. -/
def networkOf (policy : PolicyV2) (mode : Choice IPModeV2) : NetworkV2 where
  routes := ofMode mode defaultRoute4 defaultRoute6
  dns := ofMode mode (sliceBytes policy.dnsIPv4) (sliceBytes policy.dnsIPv6)
  client4 := fixedBytes 4 (if includesIPv4 mode then sliceBytes policy.clientIPv4 else [])
  dns4 := fixedBytes 4 (if includesIPv4 mode then sliceBytes policy.dnsIPv4 else [])
  client6 := fixedBytes 16 (if includesIPv6 mode then sliceBytes policy.clientIPv6 else [])
  dns6 := fixedBytes 16 (if includesIPv6 mode then sliceBytes policy.dnsIPv6 else [])

variable {mode : Choice IPModeV2}

theorem selectNetworkV2_eq_ok {policy : PolicyV2} {routes : List PrefixV2} {dns : List (List UInt8)}
    {network : NetworkV2} :
    selectNetworkV2 policy mode routes dns = .ok network ↔
      HasAddresses policy mode ∧ network = networkOf policy mode ∧
        (routes = [] ∨ routes = (networkOf policy mode).routes) ∧
        (dns = [] ∨ dns = (networkOf policy mode).dns) := by
  unfold selectNetworkV2
  simp only [check_ok_iff, whenever_eq_ok, ensure_eq_ok]
  constructor
  · rintro ⟨h4, h6, hrequested, hnetwork⟩
    exact ⟨⟨h4, h6⟩, (Except.ok.inj hnetwork).symm, hrequested.1, hrequested.2⟩
  · rintro ⟨haddresses, rfl, hroutes, hdns⟩
    exact ⟨haddresses.ipv4, haddresses.ipv6, ⟨hroutes, hdns⟩, rfl⟩

theorem networkMatchesModeV2_iff {policy : PolicyV2} {plan : PlanV2} :
    networkMatchesModeV2 policy plan = true ↔
      HasAddresses policy plan.ipMode ∧
        plan.routes = (networkOf policy plan.ipMode).routes ∧
        plan.clientIPv4 = (networkOf policy plan.ipMode).client4 ∧
        plan.dnsIPv4 = (networkOf policy plan.ipMode).dns4 ∧
        plan.clientIPv6 = (networkOf policy plan.ipMode).client6 ∧
        plan.dnsIPv6 = (networkOf policy plan.ipMode).dns6 := by
  unfold networkMatchesModeV2
  cases hselect : selectNetworkV2 policy plan.ipMode plan.routes [] with
  | error err =>
    simp only [Bool.false_eq_true, false_iff]
    rintro ⟨haddresses, hroutes, -⟩
    have hok := selectNetworkV2_eq_ok.mpr ⟨haddresses, rfl, .inr hroutes, .inl rfl⟩
    cases hok.symm.trans hselect
  | ok network =>
    obtain ⟨haddresses, rfl, -, -⟩ := selectNetworkV2_eq_ok.mp hselect
    simp only [decide_eq_true_eq]
    constructor
    · rintro ⟨hroutes, hclient4, hdns4, hclient6, hdns6⟩
      exact ⟨haddresses, hroutes.symm, hclient4.symm, hdns4.symm, hclient6.symm, hdns6.symm⟩
    · rintro ⟨-, hroutes, hclient4, hdns4, hclient6, hdns6⟩
      exact ⟨hroutes.symm, hclient4.symm, hdns4.symm, hclient6.symm, hdns6.symm⟩

theorem validTransport_of_validRuntime {libraries : Libraries} {p : PolicyV2} {now : Instant}
    (h : validateRuntimeAt libraries p now = .ok ()) : ValidTransport p := by
  rcases validateRuntimeAt_eq_ok.mp h with ⟨-, -, hv2⟩ | ⟨s, -, -, hv3⟩
  · exact validTransport_of_validV2 hv2
  · exact (readable_of_validV3 hv3).1

theorem inMode_of_length4 {address : List UInt8} (h : address.length = 4) :
    inMode mode address = includesIPv4 mode := by
  simp [inMode, h]

theorem inMode_of_length16 {address : List UInt8} (h : address.length = 16) :
    inMode mode address = includesIPv6 mode := by
  simp [inMode, h]

theorem filter_forFamilies {α : Type} {ipv4 ipv6 : List UInt8} {value4 value6 : α} {keep : α → Bool}
    (hkeep4 : ipv4 ≠ [] → keep value4 = includesIPv4 mode)
    (hkeep6 : ipv6 ≠ [] → keep value6 = includesIPv6 mode)
    (hmode4 : includesIPv4 mode = true → ipv4 ≠ [])
    (hmode6 : includesIPv6 mode = true → ipv6 ≠ []) :
    (forFamilies ipv4 ipv6 value4 value6).filter keep = ofMode mode value4 value6 := by
  have hpart : ∀ (family : List UInt8) (value : α) (included : Bool),
      (family ≠ [] → keep value = included) → (included = true → family ≠ []) →
      (if family = [] then [] else [value]).filter keep = if included then [value] else [] := by
    intro family value included hkeep hmode
    by_cases hfamily : family = []
    · have hincluded : included = false := by
        rw [← Bool.not_eq_true]
        exact fun h => hmode h hfamily
      simp [hfamily, hincluded]
    · rw [if_neg hfamily, filter_singleton, hkeep hfamily]
      cases included <;> rfl
  rw [forFamilies, ofMode, filter_append, hpart _ _ _ hkeep4 hmode4, hpart _ _ _ hkeep6 hmode6]

section Valid

variable {policy : PolicyV2} (hvalid : ValidTransport policy)

include hvalid

theorem ValidTransport.dns_families :
    (sliceBytes policy.dnsIPv4 ≠ [] → (sliceBytes policy.dnsIPv4).length = 4) ∧
      (sliceBytes policy.dnsIPv6 ≠ [] → (sliceBytes policy.dnsIPv6).length = 16) := by
  have haddresses := hvalid.addresses
  simp only [validateAddresses, check_ok_iff, ensure_eq_ok] at haddresses
  obtain ⟨-, -, ⟨-, hdns4, -, hdns6, -⟩, -⟩ := haddresses
  constructor
  · intro h
    simpa using (length_of_validOptionalAddress hdns4).resolve_left h
  · intro h
    simpa using (length_of_validOptionalAddress hdns6).resolve_left h

theorem filter_routes (h : HasAddresses policy mode) :
    policy.routes.filter (fun route => inMode mode route.address) =
      (networkOf policy mode).routes := by
  have haddresses := hvalid.addresses
  simp only [validateAddresses, validateRoutes, check_ok_iff, ensure_eq_ok] at haddresses
  obtain ⟨-, -, -, hroutes, -⟩ := haddresses
  rw [hroutes]
  refine filter_forFamilies (fun _ => inMode_of_length4 rfl) (fun _ => inMode_of_length16 rfl)
    (fun hmode => ?_) fun hmode => ?_
  · exact ne_nil_of_length_pos (by rw [(h.ipv4 hmode).1]; omega)
  · exact ne_nil_of_length_pos (by rw [(h.ipv6 hmode).1]; omega)

theorem filter_dnsServers (h : HasAddresses policy mode) :
    policy.dnsServers.filter (inMode mode) = (networkOf policy mode).dns := by
  have haddresses := hvalid.addresses
  simp only [validateAddresses, validateDNS, check_ok_iff, ensure_eq_ok] at haddresses
  obtain ⟨-, -, -, -, -, hservers⟩ := haddresses
  rw [hservers]
  refine filter_forFamilies (fun hne => inMode_of_length4 (hvalid.dns_families.1 hne))
    (fun hne => inMode_of_length16 (hvalid.dns_families.2 hne)) (fun hmode => ?_) fun hmode => ?_
  · exact ne_nil_of_length_pos (by rw [(h.ipv4 hmode).2]; omega)
  · exact ne_nil_of_length_pos (by rw [(h.ipv6 hmode).2]; omega)

omit hvalid in
theorem ofMode_dns (h : HasAddresses policy mode) :
    ofMode mode (networkOf policy mode).dns4.toList (networkOf policy mode).dns6.toList =
      (networkOf policy mode).dns := by
  simp only [ofMode, networkOf]
  congr 1
  · by_cases hmode : includesIPv4 mode = true
    · simp only [hmode, if_true]
      rw [toList_fixedBytes (h.ipv4 hmode).2]
    · simp [hmode]
  · by_cases hmode : includesIPv6 mode = true
    · simp only [hmode, if_true]
      rw [toList_fixedBytes (h.ipv6 hmode).2]
    · simp [hmode]

end Valid

/-! ## Endpoints and limits -/

section Within

variable {policy : PolicyV2} (hvalid : ValidTransport policy)

include hvalid

theorem ValidTransport.indexes : policy.fallback.endpointIndexes ≠ [] ∧
    (∀ index ∈ policy.fallback.endpointIndexes, index.toNat < policy.endpoints.length) ∧
    policy.fallback.endpointIndexes.Pairwise (· < ·) := by
  have hfallback := hvalid.fallback
  simp only [validateFallback, check_ok_iff, ensure_eq_ok] at hfallback
  exact ⟨hfallback.1.1, hfallback.2.1, hfallback.2.2⟩

theorem ValidTransport.maxQueuedPackets_le : policy.limits.maxQueuedPackets ≤ 256 := by
  obtain ⟨program, hlimits⟩ := hvalid.limits
  simp only [validateLimits, ensure_eq_ok] at hlimits
  obtain ⟨-, -, -, -, -, -, -, hqueued, -⟩ := hlimits
  exact hqueued

/-- Endpoints at some of the signed indexes keep their order. -/
theorem selectEndpointsV2_sublist {indexes : List UInt8}
    (h : indexes.Sublist policy.fallback.endpointIndexes) :
    (selectEndpointsV2 policy.endpoints indexes).Sublist policy.endpoints := by
  obtain ⟨-, hrange, hsorted⟩ := hvalid.indexes
  have hmap : selectEndpointsV2 policy.endpoints indexes =
      (indexes.map UInt8.toNat).filterMap fun index => policy.endpoints[index]? := by
    rw [filterMap_map]
    rfl
  rw [hmap]
  refine filterMap_getElem?_sublist ?_ ?_
  · rw [pairwise_map]
    exact (hsorted.sublist h).imp fun hlt => UInt8.lt_iff_toNat_lt.mp hlt
  · intro index hindex
    obtain ⟨byte, hbyte, rfl⟩ := mem_map.mp hindex
    exact hrange byte (h.subset hbyte)

omit hvalid in
/-- Endpoints which stand at indexes are selected by them. -/
theorem selectEndpointsV2_of_forall₂ {endpoints : List EndpointV2} {indexes : List UInt8}
    (h : List.Forall₂ (fun endpoint index => standsAt policy endpoint index = true) endpoints
      indexes) : selectEndpointsV2 policy.endpoints indexes = endpoints := by
  induction h with
  | nil => rfl
  | cons hfirst hrest ih =>
    simp only [standsAt, decide_eq_true_eq] at hfirst
    rw [selectEndpointsV2, filterMap_cons, hfirst]
    exact congrArg _ ih

omit hvalid in
theorem endpointsSubsetV2_spec {endpoints : List EndpointV2}
    (h : endpointsSubsetV2 policy endpoints = true) :
    ∃ indexes, indexes.Sublist policy.fallback.endpointIndexes ∧
      effectiveEndpointIndexesV1 policy endpoints = some indexes ∧
      selectEndpointsV2 policy.endpoints indexes = endpoints := by
  simp only [endpointsSubsetV2, decide_eq_true_eq] at h
  obtain ⟨indexes, hindexes⟩ := Option.isSome_iff_exists.mp h.2
  obtain ⟨hsublist, hforall⟩ := matchInOrder_sound hindexes
  exact ⟨indexes, hsublist, hindexes, selectEndpointsV2_of_forall₂ hforall⟩

/-- A plan which stays inside a valid policy narrows it. -/
theorem narrows_of_within {plan : PlanV2} (hmtu : plan.mtu = 1280)
    (h : withinPolicyV2 policy plan = true) : Narrows policy plan := by
  rw [withinPolicyV2, decide_eq_true_eq] at h
  simp only [modePermittedV2, protocolSubsetV2, orderedSubset_iff, networkMatchesModeV2_iff,
    decide_eq_true_eq] at h
  obtain ⟨-, -, hqueue, hincomplete, hreconnect, hdial, hidle, hendpoints, hmode, hprotocols,
    haddresses, hroutes, hclient4, hdns4, hclient6, hdns6⟩ := h
  obtain ⟨indexes, hindexes, -, hselect⟩ := endpointsSubsetV2_spec hendpoints
  have hsmall := hvalid.maxQueuedPackets_le
  have hqueued : policy.limits.maxQueuedPackets.toUInt16.toNat =
      policy.limits.maxQueuedPackets.toNat := by
    have := UInt32.le_iff_toNat_le.mp hsmall
    rw [UInt32.toNat_toUInt16, Nat.mod_eq_of_lt]
    exact Nat.lt_of_le_of_lt this (by decide)
  have hpolicyMTU : policy.mtu = 1280 := by
    have haddress := hvalid.addresses
    simp only [validateAddresses, check_ok_iff, ensure_eq_ok] at haddress
    exact haddress.1.2.2
  exact {
    endpoints := hselect ▸ selectEndpointsV2_sublist hvalid hindexes
    ipMode := hmode
    payloadProtocols := hprotocols.2.2
    routes := by rw [filter_routes hvalid haddresses, hroutes]
    dnsServers := by
      rw [filter_dnsServers hvalid haddresses, effectiveDNSServersV1, hdns4, hdns6,
        ofMode_dns haddresses]
    clientIPv4 := hclient4
    clientIPv6 := hclient6
    mtu := by
      rw [hmtu, hpolicyMTU]
      exact UInt16.le_refl _
    maxQueuePackets := hqueued ▸ UInt16.le_iff_toNat_le.mp hqueue
    maxIncompleteOps := hqueued ▸ UInt16.le_iff_toNat_le.mp hincomplete
    maxReconnectAttempts := by simpa using UInt32.le_iff_toNat_le.mp hreconnect
    dialTimeout := hdial.le
    idleTimeout := hidle.le }

end Within

/-! ## What a selection is -/

section Selection

variable {authority : AuthorityV2} {requested : NarrowingRequestV2} {selection : SelectionV2}

theorem selectStrategyV2_eq_ok {signed : List Text} {requested strategy : Text} :
    selectStrategyV2 signed requested = .ok strategy ↔
      strategy = supportedStrategyTLS13TCP ∧ supportedStrategyTLS13TCP ∈ signed ∧
        (requested = [] ∨ requested = supportedStrategyTLS13TCP) := by
  unfold selectStrategyV2
  split_ifs with hrequested
  · simp only [check_ok_iff, ensure_eq_ok, pure, Except.pure, Except.ok.injEq]
    constructor
    · rintro ⟨⟨rfl, hmem⟩, rfl⟩
      exact ⟨rfl, hmem, .inr rfl⟩
    · rintro ⟨rfl, hmem, hempty | rfl⟩
      · exact absurd hempty hrequested
      · exact ⟨⟨rfl, hmem⟩, rfl⟩
  · rw [not_not] at hrequested
    simp only [check_ok_iff, ensure_eq_ok, pure, Except.pure, Except.ok.injEq, hrequested,
      true_or, and_true]
    exact ⟨fun h => ⟨h.2.symm, h.1⟩, fun h => ⟨h.2, h.1.symm⟩⟩

/-- A request is left to the policy, or is granted as it is. -/
theorem select_eq_ok {α : Type} [DecidableEq α] {before : α → α → Bool}
    {signed requested selected : List α} :
    (if requested = [] then return signed
      else do
        ensure (orderedSubset before signed requested = true) PlanErrorV2.widening
        return requested) = .ok selected ↔
      requested = [] ∧ selected = signed ∨
        selected = requested ∧ orderedSubset before signed requested = true := by
  split_ifs with hrequested
  · simp only [pure, Except.pure, Except.ok.injEq, hrequested, true_and, orderedSubset_iff, ne_eq,
      not_true, false_and, and_false, or_false]
    exact eq_comm
  · simp only [check_ok_iff, ensure_eq_ok, pure, Except.pure, Except.ok.injEq, hrequested,
      false_and, false_or]
    exact ⟨fun h => ⟨h.2.symm, h.1⟩, fun h => ⟨h.2, h.1.symm⟩⟩

theorem selectEndpointIndexesV2_eq_ok {signed requested indexes : List UInt8} :
    selectEndpointIndexesV2 signed requested = .ok indexes ↔
      requested = [] ∧ indexes = signed ∨
        indexes = requested ∧ requested ≠ [] ∧ requested.IsChain (· < ·) ∧
          requested.Sublist signed := by
  refine select_eq_ok.trans ?_
  simp only [orderedSubset_iff, decide_eq_true_eq]

theorem selectProtocolsV2_eq_ok {signed requested protocols : List (Choice PayloadProtocolV2)} :
    selectProtocolsV2 signed requested = .ok protocols ↔
      requested = [] ∧ protocols = signed ∨
        protocols = requested ∧ protocolSubsetV2 signed requested = true :=
  select_eq_ok

theorem selectIPModeV2_mem {signed : List (Choice IPModeV2)} {requested : Choice IPModeV2}
    (h : selectIPModeV2 signed requested = .ok mode) : mode ∈ signed := by
  unfold selectIPModeV2 at h
  split_ifs at h with hunset
  · cases signed with
    | nil => cases h
    | cons first rest =>
      obtain ⟨⟩ := h
      exact mem_cons_self
  · simp only [check_ok_iff, ensure_eq_ok, modePermittedV2, decide_eq_true_eq, pure,
      Except.pure, Except.ok.injEq] at h
    exact h.2 ▸ h.1

theorem selectLimitsV2_spec {policy : PolicyV2} {limits : SelectedLimits}
    (h : selectLimitsV2 policy requested = .ok limits) :
    limits.queue.toUInt32 ≤ policy.limits.maxQueuedPackets ∧
      limits.incomplete.toUInt32 ≤ policy.limits.maxQueuedPackets ∧
      limits.reconnects.toUInt32 ≤ policy.limits.maxReconnectAttempts := by
  simp only [selectLimitsV2, check_ok_iff, ensure_eq_ok] at h
  obtain ⟨-, -, hbounds, hlimits⟩ := h
  obtain ⟨⟩ := hlimits
  exact ⟨hbounds.2.2.2.1, hbounds.2.2.2.2.1, hbounds.2.2.2.2.2⟩

theorem selectAuthorityV2_eq_ok :
    selectAuthorityV2 authority requested = .ok selection ↔
      selectStrategyV2 authority.strategyIDs requested.strategyID = .ok selection.strategyID ∧
      authority.policy.relayAuthKeyID ∈ authority.relayIDs ∧
      selectEndpointIndexesV2 authority.policy.fallback.endpointIndexes
        requested.endpointIndexes = .ok selection.endpointIndexes ∧
      selectIPModeV2 authority.policy.allowedIPModes requested.ipMode = .ok selection.ipMode ∧
      selectNetworkV2 authority.policy selection.ipMode requested.routes requested.dnsServers =
        .ok selection.network ∧
      selectProtocolsV2 authority.policy.allowedProtocols requested.payloadProtocols =
        .ok selection.payloadProtocols ∧
      selectLimitsV2 authority.policy requested = .ok selection.limits ∧
      requested.allowLAN = false ∧
      (requested.mtu = 0 ∨ requested.mtu = authority.policy.mtu) ∧
      authority.policy.mtu = 1280 := by
  simp only [selectAuthorityV2, bind_ok_iff, ensure_ok_iff, exists_const]
  constructor
  · rintro ⟨strategy, hstrategy, hrelay, indexes, hindexes, mode, hmode, network, hnetwork,
      protocols, hprotocols, limits, hlimits, hlast, ⟨⟩⟩
    exact ⟨hstrategy, hrelay, hindexes, hmode, hnetwork, hprotocols, hlimits, hlast⟩
  · rintro ⟨hstrategy, hrelay, hindexes, hmode, hnetwork, hprotocols, hlimits, hlast⟩
    exact ⟨_, hstrategy, hrelay, _, hindexes, _, hmode, _, hnetwork, _, hprotocols, _, hlimits,
      hlast, rfl⟩

end Selection

/-! ## Built plans -/

section Built

variable {policy : PolicyV2} (hvalid : ValidTransport policy)

include hvalid

theorem ValidTransport.endpoints_nodup : policy.endpoints.Nodup := by
  have haddresses := hvalid.addresses
  simp only [validateAddresses, check_ok_iff, ensure_eq_ok] at haddresses
  exact haddresses.2.1.2.2.of_map _

variable {indexes : List UInt8}

omit hvalid in
theorem forall₂_standsAt (h : ∀ index ∈ indexes, index.toNat < policy.endpoints.length) :
    List.Forall₂ (fun endpoint index => standsAt policy endpoint index = true)
      (selectEndpointsV2 policy.endpoints indexes) indexes := by
  induction indexes with
  | nil => exact .nil
  | cons index rest ih =>
    have hfirst := getElem?_eq_getElem (h index mem_cons_self)
    have hrest := ih fun other hother => h other (mem_cons_of_mem _ hother)
    rw [selectEndpointsV2, filterMap_cons, hfirst]
    exact .cons (by simp [standsAt]) hrest

/-- The indexes of selected endpoints are found again. -/
theorem effectiveEndpointIndexesV1_select (h : indexes.Sublist policy.fallback.endpointIndexes) :
    effectiveEndpointIndexesV1 policy (selectEndpointsV2 policy.endpoints indexes) =
      some indexes := by
  obtain ⟨-, hrange, -⟩ := hvalid.indexes
  refine matchInOrder_complete ?_ h
    (forall₂_standsAt fun index hindex => hrange index (h.subset hindex))
  intro endpoint a ha b hb hstandsA hstandsB
  simp only [standsAt, decide_eq_true_eq] at hstandsA hstandsB
  have hnodup := hvalid.endpoints_nodup
  rw [getElem?_eq_getElem (hrange a ha), Option.some.injEq] at hstandsA
  rw [getElem?_eq_getElem (hrange b hb), Option.some.injEq] at hstandsB
  exact UInt8.toNat_inj.mp ((hnodup.getElem_inj_iff).mp (hstandsA.trans hstandsB.symm))

theorem endpointsSubsetV2_select (hne : indexes ≠ [])
    (h : indexes.Sublist policy.fallback.endpointIndexes) :
    endpointsSubsetV2 policy (selectEndpointsV2 policy.endpoints indexes) = true := by
  have hfound := effectiveEndpointIndexesV1_select hvalid h
  simp only [endpointsSubsetV2, decide_eq_true_eq]
  refine ⟨fun hempty => ?_, by rw [← effectiveEndpointIndexesV1, hfound]; rfl⟩
  rw [hempty, effectiveEndpointIndexesV1, matchInOrder] at hfound
  exact hne (Option.some.inj hfound).symm

theorem protocolSubsetV2_refl :
    protocolSubsetV2 policy.allowedProtocols policy.allowedProtocols = true := by
  have hmodes := hvalid.modes
  simp only [validateModesAndProtocols, check_ok_iff, ensure_eq_ok] at hmodes
  have hsorted := hmodes.1.2.2.2
  simp only [sortedUnique, decide_eq_true_eq] at hsorted
  rw [protocolSubsetV2, orderedSubset_iff]
  exact ⟨ne_nil_of_length_pos (by have := hmodes.1.2.2.1; omega), hsorted.2.isChain,
    List.Sublist.refl _⟩

theorem toUInt16_le {value : UInt16} (h : value.toUInt32 ≤ policy.limits.maxQueuedPackets) :
    value ≤ policy.limits.maxQueuedPackets.toUInt16 := by
  have hsmall := UInt32.le_iff_toNat_le.mp hvalid.maxQueuedPackets_le
  have hle := UInt32.le_iff_toNat_le.mp h
  have hlt : policy.limits.maxQueuedPackets.toNat < 2 ^ 16 := Nat.lt_of_le_of_lt hsmall (by decide)
  rw [UInt16.le_iff_toNat_le, UInt32.toNat_toUInt16, Nat.mod_eq_of_lt hlt]
  simpa using hle

end Built

section Build

variable {libraries : Libraries} {authority : AuthorityV2} {requested : NarrowingRequestV2}
  {selection : SelectionV2} {now : Instant} {plan : PlanV2}

theorem selectedIndexes_sublist (hvalid : ValidTransport authority.policy)
    (h : selectAuthorityV2 authority requested = .ok selection) :
    selection.endpointIndexes ≠ [] ∧
      selection.endpointIndexes.Sublist authority.policy.fallback.endpointIndexes := by
  obtain ⟨-, -, hindexes, -⟩ := selectAuthorityV2_eq_ok.mp h
  rcases selectEndpointIndexesV2_eq_ok.mp hindexes with ⟨-, heq⟩ | ⟨heq, hne, -, hsublist⟩
  · exact ⟨heq ▸ hvalid.indexes.1, heq ▸ List.Sublist.refl _⟩
  · exact ⟨heq ▸ hne, heq ▸ hsublist⟩

/-- A selected plan stays inside the policy. -/
theorem withinPolicyV2_planV2 (hvalid : ValidTransport authority.policy)
    (h : selectAuthorityV2 authority requested = .ok selection) (policyBytes : List UInt8)
    (carrier : LiveAuthorityV2) :
    withinPolicyV2 authority.policy (planV2 authority policyBytes carrier selection) = true := by
  obtain ⟨hne, hsublist⟩ := selectedIndexes_sublist hvalid h
  obtain ⟨-, -, -, hmode, hnetwork, hprotocols, hlimits, -⟩ := selectAuthorityV2_eq_ok.mp h
  obtain ⟨haddresses, hnetwork, -, -⟩ := selectNetworkV2_eq_ok.mp hnetwork
  obtain ⟨hqueue, hincomplete, hreconnects⟩ := selectLimitsV2_spec hlimits
  have hsubset : protocolSubsetV2 authority.policy.allowedProtocols
      selection.payloadProtocols = true := by
    rcases selectProtocolsV2_eq_ok.mp hprotocols with ⟨-, heq⟩ | ⟨heq, hsubset⟩
    · exact heq ▸ protocolSubsetV2_refl hvalid
    · exact heq ▸ hsubset
  have hmatches : networkMatchesModeV2 authority.policy
      (planV2 authority policyBytes carrier selection) = true := by
    rw [networkMatchesModeV2_iff]
    simp only [planV2, unsignedPlanV2, hnetwork, and_true]
    exact haddresses
  rw [withinPolicyV2, decide_eq_true_eq]
  exact ⟨rfl, rfl, toUInt16_le hvalid hqueue, toUInt16_le hvalid hincomplete, hreconnects, rfl,
    rfl, endpointsSubsetV2_select hvalid hne hsublist,
    decide_eq_true (selectIPModeV2_mem hmode), hsubset, hmatches⟩

/-- The digest of a plan does not depend on the field which it is stored in. -/
theorem digestPlanV2_planV2 (authority : AuthorityV2) (policyBytes : List UInt8)
    (carrier : LiveAuthorityV2) (selection : SelectionV2) :
    digestPlanV2 (planV2 authority policyBytes carrier selection) =
      (planV2 authority policyBytes carrier selection).digest :=
  rfl

/-- The carrier of a valid policy. -/
def carrierOf (policy : PolicyV2) : LiveAuthorityV2 :=
  ⟨policy.carrierFamily, liveALPNV2, policy.endpoints.length, true⟩

theorem resolveRuntimeAt_eq {policy : PolicyV2}
    (h : validateRuntimeAt libraries policy now = .ok ()) :
    resolveRuntimeAt libraries policy now = some (carrierOf policy) := by
  have hvalid := validTransport_of_validRuntime h
  simp [resolveRuntimeAt, h, hvalid.wireProtocol, hvalid.carrierFamily, carrierOf]

/-- The fields of an authority which do not come from the policy. -/
structure AuthorityV2.Admitted (authority : AuthorityV2) : Prop where
  profileBytes : 0 < authority.admittedProfileBytes ∧
    authority.admittedProfileBytes ≤ maxPayloadBytes
  profileContentID : boundedV2 authority.profileContentID 128 = true
  profileGeneration : authority.profileGeneration ≠ 0
  activationReceiptDigest : authority.activationReceiptDigest ≠ zeroDigest
  strategyIDs : authority.strategyIDs ≠ []
  relayIDs : authority.relayIDs ≠ []

theorem not_isZeroTime_of_valid {policy : PolicyV2}
    (h : validateRuntimeAt libraries policy now = .ok ()) : ¬ isZeroTime now = true := by
  obtain ⟨program, hcommon⟩ := validCommon_of_validRuntime h
  obtain ⟨leaf, -, hzero, -⟩ := leaf_of_validCommon hcommon
  exact hzero

theorem orFail_eq_ok {α : Type} {error : PlanErrorV2} {value : Option α} {result : α} :
    orFail error value = .ok result ↔ value = some result := by
  cases value <;> simp [orFail]

/-- What a successful build has checked, and the plan which it returns. -/
theorem buildAuthorityV2_eq_ok :
    buildAuthorityV2 libraries authority requested now = .ok plan ↔
      authority.Admitted ∧ validateRuntimeAt libraries authority.policy now = .ok () ∧
      ∃ policyBytes selection,
        encodeRuntimeAt libraries authority.policy now = .ok policyBytes ∧
        selectAuthorityV2 authority requested = .ok selection ∧
        plan = planV2 authority policyBytes (carrierOf authority.policy) selection ∧
        validateV2At libraries plan now = .ok () := by
  simp only [buildAuthorityV2, bind_ok_iff, ensure_ok_iff, exists_const, orFail_eq_ok]
  constructor
  · rintro ⟨⟨hbytes, hsize, -, hcontent, hgeneration, hreceipt, hstrategies, hrelays⟩,
      ⟨hvalid, -⟩, policyBytes, hencode, carrier, hcarrier, -, selection, hselection, _, hplan, ⟨⟩⟩
    obtain ⟨⟩ := (resolveRuntimeAt_eq hvalid).symm.trans hcarrier
    refine ⟨⟨⟨hbytes, hsize⟩, hcontent, hgeneration, hreceipt, hstrategies, hrelays⟩, hvalid,
      policyBytes, selection, ?_, hselection, rfl, hplan⟩
    generalize encodeRuntimeAt .. = encoded at hencode ⊢
    rcases encoded with err | bytes
    · cases hencode
    · exact congrArg _ (Option.some.inj hencode)
  · rintro ⟨⟨⟨hbytes, hsize⟩, hcontent, hgeneration, hreceipt, hstrategies, hrelays⟩, hvalid,
      policyBytes, selection, hencode, hselection, rfl, hplan⟩
    have htransport := validTransport_of_validRuntime hvalid
    exact ⟨⟨hbytes, hsize, not_isZeroTime_of_valid hvalid, hcontent, hgeneration, hreceipt,
      hstrategies, hrelays⟩, ⟨hvalid, htransport.liveProgram.1⟩, policyBytes, by rw [hencode]; rfl,
      _, resolveRuntimeAt_eq hvalid, ⟨rfl, rfl⟩, selection, hselection, _, hplan, rfl⟩

end Build

/-! ## Well-formed plans -/

/-- The checks of `wellFormedV2`, by name. -/
@[mk_iff] structure PlanV2.WellFormed (plan : PlanV2) : Prop where
  version : plan.version = versionV2
  contentID : boundedV2 plan.profileContentID 128
  generation : plan.profileGeneration ≠ 0
  receiptDigest : plan.activationReceiptDigest ≠ zeroDigest
  policyDigest : plan.runtimePolicyDigest ≠ zeroDigest
  programDigest : plan.liveProgramDigest ≠ zeroDigest
  strategyID : plan.strategyID = supportedStrategyTLS13TCP
  relayKeyID : boundedV2 plan.relayKeyID 64
  carrierFamily : plan.carrierFamily = carrierFamilyTLS13TCP
  alpn : plan.alpn = liveALPNV2
  endpoints : plan.endpoints ≠ []
  endpointCount : plan.endpoints.length ≤ 4
  mtu : plan.mtu = 1280
  queue : plan.maxQueuePackets ≠ 0
  ops : plan.maxIncompleteOps ≠ 0
  opsBound : plan.maxIncompleteOps ≤ maximumIncompleteOpsV2
  reconnects : plan.maxReconnectAttempts ≠ 0
  dialTimeout : 0 < plan.dialTimeout
  dialBound : plan.dialTimeout ≤ 10 * 10 ^ 9
  idleTimeout : 0 < plan.idleTimeout
  digest : plan.digest ≠ zeroDigest
  policyBytes : plan.runtimePolicyBytes ≠ []
  policyHash : sha256 plan.runtimePolicyBytes = plan.runtimePolicyDigest

theorem wellFormedV2_iff {plan : PlanV2} : wellFormedV2 plan = true ↔ plan.WellFormed := by
  rw [wellFormedV2, decide_eq_true_eq, PlanV2.wellFormed_iff]

/-! ## Narrowing -/

section Narrowing

variable {libraries : Libraries} {authority : AuthorityV2} {requested : NarrowingRequestV2}
  {now : Instant} {plan : PlanV2}

theorem validateV2At_eq_ok :
    validateV2At libraries plan now = .ok () ↔
      plan.WellFormed ∧ ∃ policy,
        decodeRuntimeAt libraries plan.runtimePolicyBytes now = .ok policy ∧
        withinPolicyV2 policy plan = true ∧ digestPlanV2 plan = plan.digest := by
  unfold validateV2At
  rw [check_ok_iff, ensure_eq_ok, wellFormedV2_iff]
  refine and_congr_right fun _ => ?_
  cases decodeRuntimeAt libraries plan.runtimePolicyBytes now with
  | error err => simp
  | ok policy => simp only [check_ok_iff, ensure_eq_ok, Except.ok.injEq, exists_eq_left']

theorem narrows_of_build (h : buildAuthorityV2 libraries authority requested now = .ok plan) :
    Narrows authority.policy plan := by
  obtain ⟨-, hvalid, policyBytes, selection, -, hselection, rfl, hplan⟩ :=
    buildAuthorityV2_eq_ok.mp h
  have htransport := validTransport_of_validRuntime hvalid
  exact narrows_of_within htransport (validateV2At_eq_ok.mp hplan).1.mtu
    (withinPolicyV2_planV2 htransport hselection policyBytes _)

theorem narrows_of_validate (h : validateV2At libraries plan now = .ok ()) :
    ∃ policy, decodeRuntimeAt libraries plan.runtimePolicyBytes now = .ok policy ∧
      Narrows policy plan := by
  obtain ⟨hwell, policy, hdecode, hwithin, -⟩ := validateV2At_eq_ok.mp h
  have hvalid := validateRuntimeAt_of_encodeRuntimeAt (encodeRuntimeAt_of_decodeRuntimeAt hdecode)
  exact ⟨policy, hdecode, narrows_of_within (validTransport_of_validRuntime hvalid)
    hwell.mtu hwithin⟩

theorem guard_bind_eq_some {α : Type} {p : Prop} [Decidable p] {rest : Unit → Option α}
    {result : α} : (guard p : Option Unit).bind rest = some result ↔ p ∧ rest () = some result := by
  by_cases hp : p <;> simp [hp]

theorem buildV2At_eq_ok {envelope : Library} {request : RequestV2} :
    buildV2At libraries envelope request now = .ok plan ↔
      ∃ profileBytes, encodeCanonicalProfileV1 envelope request.profile = some profileBytes ∧
        (¬ isZeroTime now = true ∧ request.profile.generation ≠ 0 ∧
          request.profile.validFrom ≤ unixSeconds now ∧
          unixSeconds now < request.profile.validUntil) ∧
        receiptMatchesProfileV2 request.activationReceipt request.profile = true ∧
        validateRuntimeAgainstEnvelopeAt libraries request.runtimePolicy request.profile now =
          .ok () ∧
        buildAuthorityV2 libraries (request.authority profileBytes.length) request.requested
          now = .ok plan := by
  unfold buildV2At
  rw [bind_ok_iff]
  simp only [orFail_eq_ok, check_ok_iff, ensure_eq_ok]

theorem buildRelayV2At_eq_some {authority : RelayAuthorityV2} {preface : RelayAdmissionPrefaceV1} :
    buildRelayV2At libraries authority preface now = some plan ↔
      (¬ isZeroTime now = true ∧ authority.validFrom ≤ unixSeconds now ∧
        unixSeconds now < authority.validUntil ∧
        validateRelayAdmissionPrefaceV1 preface = true ∧
        authority.profileContentID = preface.profileContentID ∧
        authority.profileGeneration = preface.profileGeneration) ∧
      buildAuthorityV2 libraries (authority.forPreface preface) preface.requested now =
        .ok plan ∧
      plan.digest = preface.planDigest := by
  unfold buildRelayV2At
  cases hbuild :
    buildAuthorityV2 libraries (authority.forPreface preface) preface.requested now with
  | error err => simp [Except.toOption]
  | ok built =>
    simp only [Option.bind_eq_bind, Except.toOption, Option.bind_some, guard_bind_eq_some,
      Option.pure_def, Option.some.injEq, Except.ok.injEq]
    constructor
    · rintro ⟨hchecks, hdigest, rfl⟩
      exact ⟨hchecks, rfl, hdigest⟩
    · rintro ⟨hchecks, rfl, hdigest⟩
      exact ⟨hchecks, hdigest, rfl⟩

end Narrowing

/-- For all libraries: a plan which a client or a relay builds narrows the policy it is
built from, and is built inside the validity of the profile; a plan which validation
accepts narrows the policy it carries. Validation does not know the profile. -/
theorem plan_narrowing (libraries : Libraries) (envelope : Library) :
    (∀ request now plan, buildV2At libraries envelope request now = .ok plan →
      Narrows request.runtimePolicy plan ∧
        request.profile.validFrom ≤ unixSeconds now ∧
        unixSeconds now < request.profile.validUntil) ∧
    (∀ authority preface now plan,
      buildRelayV2At libraries authority preface now = some plan →
      Narrows authority.runtimePolicy plan ∧ authority.validFrom ≤ unixSeconds now ∧
        unixSeconds now < authority.validUntil) ∧
    ∀ plan now, validateV2At libraries plan now = .ok () →
      ∃ policy, decodeRuntimeAt libraries plan.runtimePolicyBytes now = .ok policy ∧
        sha256 plan.runtimePolicyBytes = plan.runtimePolicyDigest ∧
        validateRuntimeAt libraries policy now = .ok () ∧ Narrows policy plan := by
  refine ⟨fun request now plan h => ?_, fun authority preface now plan h => ?_,
    fun plan now h => ?_⟩
  · obtain ⟨profileBytes, -, ⟨-, -, hfrom, huntil⟩, -, -, hbuild⟩ := buildV2At_eq_ok.mp h
    exact ⟨narrows_of_build hbuild, hfrom, huntil⟩
  · obtain ⟨⟨-, hfrom, huntil, -⟩, hbuild, -⟩ := buildRelayV2At_eq_some.mp h
    exact ⟨narrows_of_build hbuild, hfrom, huntil⟩
  · obtain ⟨policy, hdecode, hnarrows⟩ := narrows_of_validate h
    have hvalid := validateRuntimeAt_of_encodeRuntimeAt (encodeRuntimeAt_of_decodeRuntimeAt hdecode)
    exact ⟨policy, hdecode, (validateV2At_eq_ok.mp h).1.policyHash, hvalid, hnarrows⟩

/-! ## A sample policy -/

def sampleParsers : Parsers where
  url _ := none
  addr _ := none
  ip _ := none
  ip_ascii := by simp

def sampleLeaf : Leaf where
  notBefore := 0
  notAfter := 10 ^ 15
  selfSigned := true
  verifiesHostname _ := true
  ipAddresses := []
  dnsNames := [asciiBytes "relay.example"]
  serverAuth := true

def sampleLibraries : Libraries where
  cbor := reference strictMode
  parsers := sampleParsers
  parseCertificate _ := some sampleLeaf

/-- Three endpoints, both families, two modes and three protocols. -/
def samplePolicy : PolicyV2 where
  schemaVersion := schemaVersionV2
  wireProtocol := wireProtocolV1
  carrierFamily := carrierFamilyTLS13TCP
  liveProgram := (programMap sampleProgram).encode
  liveProgramSHA256 := fixedBytes 32 [211, 124, 230, 244, 162, 12, 30, 80, 216, 13, 111, 197, 154,
    44, 141, 144, 50, 155, 232, 241, 160, 1, 61, 6, 210, 121, 21, 230, 142, 83, 120, 101]
  clientAuthKeyID := hexEncode
    [114, 205, 110, 132, 34, 196, 7, 251, 109, 9, 134, 144, 241, 19, 11, 125]
  clientAuthPublic := fixedBytes 32 (replicate 32 1)
  relayAuthKeyID := asciiBytes "relay." ++ hexEncode [117, 135, 123, 180, 29, 57, 59, 95]
  relayAuthPublic := fixedBytes 32 (replicate 32 2)
  tlsServerName := asciiBytes "relay.example"
  tlsLeafDER := [1]
  tlsLeafSHA256 := fixedBytes 32 [75, 245, 18, 47, 52, 69, 84, 197, 59, 222, 46, 187, 140, 210,
    183, 227, 209, 96, 10, 214, 49, 195, 133, 165, 215, 204, 226, 60, 119, 133, 69, 154]
  endpoints := [⟨1, [192, 0, 2, 1], 4, 443⟩, ⟨2, replicate 15 32 ++ [1], 6, 443⟩,
    ⟨3, [192, 0, 2, 3], 4, 8443⟩]
  clientIPv4 := some [10, 0, 0, 2]
  dnsIPv4 := some [10, 0, 0, 1]
  clientIPv6 := some (replicate 15 32 ++ [2])
  dnsIPv6 := some (replicate 15 32 ++ [3])
  routes := [defaultRoute4, defaultRoute6]
  dnsServers := [[10, 0, 0, 1], replicate 15 32 ++ [3]]
  mtu := 1280
  allowedIPModes := [.known .dualStack, .known .ipv4Only]
  allowedProtocols := [.known .icmp, .known .tcp, .known .udp]
  limits := ⟨100, 64, 100, 100, 1, 3⟩
  fallback := ⟨[0, 1, 2], 3, 5, 10⟩
  relayAdmissionDigest := fixedBytes 32 [116, 81, 176, 198, 244, 190, 223, 151, 146, 253, 179, 208,
    23, 180, 73, 192, 31, 9, 74, 243, 145, 254, 90, 99, 244, 91, 158, 1, 22, 216, 26, 226]
  services := none

/-- The time at which the sample plan is built. -/
def sampleTime : Instant := 1000 * 10 ^ 9

def samplePlanProfile : CanonicalProfileV1 :=
  ⟨asciiBytes "content", asciiBytes "profile", asciiBytes "lineage", asciiBytes "provider",
    asciiBytes "v1", asciiBytes "scope", .known .fullSnapshot, .known .initial, 1, 1, 500, 2000,
    1, 1, [], [], [samplePolicy.relayAuthKeyID], [supportedStrategyTLS13TCP],
    some (runtimeMap samplePolicy).encode⟩

/-- A request for less: two endpoints, one family, two protocols and smaller limits. -/
def samplePlanRequest : RequestV2 where
  profile := samplePlanProfile
  activationReceipt := ⟨asciiBytes "content", asciiBytes "provider", asciiBytes "lineage",
    replicate 64 48, 1, 1, 1⟩
  runtimePolicy := samplePolicy
  requested := ⟨supportedStrategyTLS13TCP, [0, 2], .known .ipv4Only, [defaultRoute4],
    [[10, 0, 0, 1]], 1280, [.known .tcp, .known .udp], 32, 16, 2, false⟩

def sampleEnvelope : Library := reference ⟨16, 2048, 128⟩

def sampleSelection : SelectionV2 where
  strategyID := supportedStrategyTLS13TCP
  endpointIndexes := [0, 2]
  ipMode := .known .ipv4Only
  network := networkOf samplePolicy (.known .ipv4Only)
  payloadProtocols := [.known .tcp, .known .udp]
  limits := ⟨32, 16, 2⟩

def sampleProfileBytes : List UInt8 := (profileMap samplePlanProfile).encode

def samplePlan : PlanV2 :=
  planV2 (samplePlanRequest.authority sampleProfileBytes.length) (runtimeMap samplePolicy).encode
    (carrierOf samplePolicy) sampleSelection

/-- What evaluation says of the sample. -/
structure SampleFacts : Prop where
  policy : validateRuntimeAt sampleLibraries samplePolicy sampleTime = .ok ()
  policySize : (runtimeMap samplePolicy).encode.length ≤ maxPolicyBytes
  profile : validateCanonicalProfileV1 sampleEnvelope samplePlanProfile = true
  profileSize : 0 < sampleProfileBytes.length ∧ sampleProfileBytes.length ≤ maxPayloadBytes
  receipt : receiptMatchesProfileV2 samplePlanRequest.activationReceipt samplePlanProfile = true
  receiptDigest : samplePlan.activationReceiptDigest ≠ zeroDigest
  policyDigest : samplePlan.runtimePolicyDigest ≠ zeroDigest
  programDigest : samplePlan.liveProgramDigest ≠ zeroDigest
  digest : samplePlan.digest ≠ zeroDigest

theorem sampleFacts : SampleFacts := by
  constructor <;> decide +kernel

theorem wellFormed_samplePlan : samplePlan.WellFormed := by
  have hsame : ∀ a b c d, sha256 (planV2 a b c d).runtimePolicyBytes =
      (planV2 a b c d).runtimePolicyDigest := fun _ _ _ _ => rfl
  exact ⟨rfl, by decide, by decide, sampleFacts.receiptDigest, sampleFacts.policyDigest,
    sampleFacts.programDigest, rfl, by decide, rfl, rfl, by decide, by decide, rfl, by decide,
    by decide, by decide, by decide, by decide, by decide, by decide, sampleFacts.digest,
    encode_ne_nil _, hsame _ _ _ _⟩

theorem selectAuthorityV2_sample (profileBytes : ℕ) :
    selectAuthorityV2 (samplePlanRequest.authority profileBytes) samplePlanRequest.requested =
      .ok sampleSelection := by
  rfl

theorem encodeRuntimeAt_samplePolicy {now : Instant}
    (h : validateRuntimeAt sampleLibraries samplePolicy now = .ok ()) :
    encodeRuntimeAt sampleLibraries samplePolicy now = .ok (runtimeMap samplePolicy).encode :=
  (encodeRuntimeAt_eq_ok (correct_reference strictMode)).mpr ⟨h, rfl, sampleFacts.policySize⟩

theorem validateV2At_samplePlan {now : Instant}
    (h : validateRuntimeAt sampleLibraries samplePolicy now = .ok ()) :
    validateV2At sampleLibraries samplePlan now = .ok () := by
  have hdecode : decodeRuntimeAt sampleLibraries samplePlan.runtimePolicyBytes now =
      .ok samplePolicy :=
    decodeRuntimeAt_runtimeMap (correct_reference strictMode) h sampleFacts.policySize
  have hselection := selectAuthorityV2_sample sampleProfileBytes.length
  exact validateV2At_eq_ok.mpr ⟨wellFormed_samplePlan, samplePolicy, hdecode,
    withinPolicyV2_planV2 (validTransport_of_validRuntime h) hselection _ _,
    digestPlanV2_planV2 _ _ _ _⟩

theorem encodeCanonicalProfileV1_sample :
    encodeCanonicalProfileV1 sampleEnvelope samplePlanProfile = some sampleProfileBytes := by
  have hmarshal : sampleEnvelope.marshal (profileMap samplePlanProfile) = some sampleProfileBytes :=
    rfl
  simp [encodeCanonicalProfileV1, sampleFacts.profile, hmarshal, sampleFacts.profileSize]

theorem buildV2At_sample :
    buildV2At sampleLibraries sampleEnvelope samplePlanRequest sampleTime = .ok samplePlan := by
  have hvalid := sampleFacts.policy
  have hencode := encodeRuntimeAt_samplePolicy hvalid
  refine buildV2At_eq_ok.mpr ⟨sampleProfileBytes, encodeCanonicalProfileV1_sample, by decide,
    sampleFacts.receipt, ?_, ?_⟩
  · have hnone : samplePlanRequest.runtimePolicy.services = none := rfl
    refine check_ok_iff.mpr ⟨ensure_eq_ok.mpr hencode, ensure_eq_ok.mpr ?_⟩
    simp [hnone]
  · refine buildAuthorityV2_eq_ok.mpr ⟨?_, hvalid, _, _, hencode, selectAuthorityV2_sample _, rfl,
      validateV2At_samplePlan hvalid⟩
    exact ⟨sampleFacts.profileSize, by decide, by decide, sampleFacts.receiptDigest, by decide,
      by decide⟩

/-- The sample plan narrows its policy. -/
theorem plan_narrowing_sample :
    buildV2At sampleLibraries sampleEnvelope samplePlanRequest sampleTime = .ok samplePlan ∧
      Narrows samplePolicy samplePlan :=
  ⟨buildV2At_sample, ((plan_narrowing sampleLibraries sampleEnvelope).1 samplePlanRequest sampleTime
    samplePlan buildV2At_sample).1⟩

/-- A plan which was built while the profile was valid passes validation after the end of
this validity. -/
theorem plan_narrowing_expired :
    buildV2At sampleLibraries sampleEnvelope samplePlanRequest sampleTime = .ok samplePlan ∧
      validateV2At sampleLibraries samplePlan (3000 * 10 ^ 9) = .ok () ∧
      ¬ unixSeconds (3000 * 10 ^ 9) < samplePlanRequest.profile.validUntil := by
  have hlater : validateRuntimeAt sampleLibraries samplePolicy (3000 * 10 ^ 9) = .ok () :=
    validateRuntimeAt_later sampleFacts.policy (show _ = some sampleLeaf from rfl)
      (by decide) (by decide) (by decide)
  exact ⟨buildV2At_sample, validateV2At_samplePlan hlater, by decide⟩

/-! ## Policies and their encodings -/

/-- The decoder accepts exactly what the encoder writes, and the bytes of a policy which is
valid at two times are read back at every time between them. -/
theorem runtime_policy_encodings (libraries : Libraries)
    (hlib : libraries.cbor.Correct strictMode) (p : PolicyV2) (encoded : List UInt8)
    (now : Instant) :
    (decodeRuntimeAt libraries encoded now = .ok p ↔
      encodeRuntimeAt libraries p now = .ok encoded ∧ p.decoded = p) ∧
    ∀ later between, encodeRuntimeAt libraries p now = .ok encoded →
      validateRuntimeAt libraries p later = .ok () → now ≤ between → between ≤ later →
      ¬ isZeroTime between = true → decodeRuntimeAt libraries encoded between = .ok p.decoded := by
  have hread {t : Instant} (h : encodeRuntimeAt libraries p t = .ok encoded) :
      decodeRuntimeAt libraries encoded t = .ok p.decoded := by
    obtain ⟨hvalid, rfl, hsize⟩ := (encodeRuntimeAt_eq_ok hlib).mp h
    exact decodeRuntimeAt_runtimeMap hlib hvalid hsize
  refine ⟨⟨fun h => ?_, fun ⟨h, hp⟩ => hp ▸ hread h⟩, ?_⟩
  · have hencode := encodeRuntimeAt_of_decodeRuntimeAt h
    exact ⟨hencode, Except.ok.inj ((hread hencode).symm.trans h)⟩
  · intro later between h hlater hlow hhigh hzero
    obtain ⟨hvalid, hbytes, hsize⟩ := (encodeRuntimeAt_eq_ok hlib).mp h
    obtain ⟨_, hnow⟩ := validCommon_of_validRuntime hvalid
    obtain ⟨_, hthen⟩ := validCommon_of_validRuntime hlater
    obtain ⟨leaf, hleaf, -, hbefore, -⟩ := leaf_of_validCommon hnow
    obtain ⟨_, hsame, -, -, hafter⟩ := leaf_of_validCommon hthen
    obtain ⟨⟩ := hleaf.symm.trans hsame
    -- Time enters through the certificate only, whose validity is an interval.
    have hbetween := validateRuntimeAt_later hvalid hleaf hzero (hbefore.trans hlow)
      (hhigh.trans hafter)
    exact hread ((encodeRuntimeAt_eq_ok hlib).mpr ⟨hbetween, hbytes, hsize⟩)

/-- The sample policy is read back. -/
theorem runtime_policy_encodings_sample :
    decodeRuntimeAt sampleLibraries (runtimeMap samplePolicy).encode sampleTime =
      .ok samplePolicy :=
  (runtime_policy_encodings sampleLibraries (correct_reference strictMode) samplePolicy _
    sampleTime).1.mpr ⟨encodeRuntimeAt_samplePolicy sampleFacts.policy, rfl⟩

end Kurdistan.Product
