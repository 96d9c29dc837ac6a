import Kurdistan.Product.PlanNarrowing

/-!
# What the digest of a plan commits to

Two plans which a relay or a client accepts and which have the same digest agree in every
field but the two sizes outside the digest, unless two of the inputs which were hashed
collide.
-/

namespace Kurdistan.Product

open Support Support.Cbor List
open Protocol hiding hexEncode

/-! ## Writers -/

theorem separates_text {α : Type} (lexicon : Lexicon α) :
    Separates (fun choice : Choice α => writeBytesV2 (utf8Bytes (choice.text lexicon.word)))
      fun choice => choice.isKnown = true := by
  refine separates_lengthPrefixed.comap (fun choice hknown => ?_) fun a b ha hb heq => ?_
  · have hlength := lexicon.length_text_le hknown
    show (utf8Bytes (choice.text lexicon.word)).length < 2 ^ 32
    omega
  · rw [← lexicon.ofText_text ha, utf8Bytes_injective heq, lexicon.ofText_text hb]

theorem separates_writePrefixV2 :
    Separates writePrefixV2 fun route => route.address.length < 2 ^ 32 := by
  intro left right hleft hright leftRest rightRest heq
  simp only [writePrefixV2, cons_append, cons.injEq] at heq
  obtain ⟨hlength, heq⟩ := heq
  obtain ⟨haddress, hrest⟩ := separates_lengthPrefixed hleft hright heq
  refine ⟨?_, hrest⟩
  cases left
  cases right
  simp only [PrefixV2.mk.injEq]
  exact ⟨haddress, hlength⟩

theorem separates_writeEndpointV2 :
    Separates writeEndpointV2 fun endpoint => endpoint.address.length < 2 ^ 32 := by
  intro left right hleft hright leftRest rightRest heq
  simp only [writeEndpointV2, cons_append, cons.injEq] at heq
  obtain ⟨hpriority, hfamily, heq⟩ := heq
  have hl := left.port.toNat_lt
  have hr := right.port.toNat_lt
  obtain ⟨hport, heq⟩ := Separates.count (show _ < 2 ^ 64 by omega) (by omega) heq
  obtain ⟨haddress, hrest⟩ := separates_lengthPrefixed hleft hright heq
  refine ⟨?_, hrest⟩
  cases left
  cases right
  simp only [EndpointV2.mk.injEq]
  exact ⟨hpriority, haddress, hfamily, UInt16.toNat_inj.mp hport⟩

theorem separates_duration : Separates (fun value : Int => writeUint64V2 (uint64OfInt value))
    fun value => 0 ≤ value ∧ value < 2 ^ 64 := by
  refine separates_putUint64.comap (fun _ _ => trivial) fun a b ha hb heq => ?_
  have hvalue : ∀ value : Int, (uint64OfInt value).toNat = (value % 2 ^ 64).toNat :=
    fun value => UInt64.toNat_ofNat_of_lt' (show (value % 2 ^ 64).toNat < 2 ^ 64 by omega)
  have hnat := congrArg UInt64.toNat heq
  rw [hvalue, hvalue] at hnat
  omega

/-! ## Plans -/

/-- The fields of a plan fit into the input of its digest. -/
structure PlanV2.Writable (plan : PlanV2) : Prop where
  texts : ∀ text ∈ [plan.profileContentID, plan.runtimePolicyBytes, plan.strategyID,
    plan.relayKeyID, plan.carrierFamily, plan.alpn], text.length < 2 ^ 32
  ipMode : plan.ipMode.isKnown = true
  durations : ∀ value ∈ [plan.dialTimeout, plan.idleTimeout], 0 ≤ value ∧ value < 2 ^ 64
  endpoints : plan.endpoints.length < 2 ^ 64 ∧
    ∀ endpoint ∈ plan.endpoints, endpoint.address.length < 2 ^ 32
  routes : plan.routes.length < 2 ^ 64 ∧ ∀ route ∈ plan.routes, route.address.length < 2 ^ 32
  payloadProtocols : plan.payloadProtocols.length < 2 ^ 64 ∧
    ∀ protocol ∈ plan.payloadProtocols, protocol.isKnown = true

/-- No two of the inputs hashed for the plans collide. -/
def NoCollision (left right : PlanV2) : Prop :=
  ∀ a ∈ [planInput left, planInput right, narrowingInput left, narrowingInput right],
    ∀ b ∈ [planInput left, planInput right, narrowingInput left, narrowingInput right],
      sha256 a = sha256 b → a = b

/-- A plan without the sizes, which its digest leaves out. -/
def PlanV2.withoutSizes (plan : PlanV2) : PlanV2 :=
  { plan with admittedProfileBytes := 0, signedProxyBufferBytes := 0 }

section Inputs

variable {left right : PlanV2} (hleft : left.Writable) (hright : right.Writable)

include hleft hright

theorem narrowingInput_inj (heq : narrowingInput left = narrowingInput right) :
    left.profileGeneration = right.profileGeneration ∧
      left.runtimePolicyDigest = right.runtimePolicyDigest ∧
      left.liveProgramDigest = right.liveProgramDigest ∧
      left.carrierFamily = right.carrierFamily ∧ left.alpn = right.alpn ∧
      left.ipMode = right.ipMode ∧ left.mtu = right.mtu ∧
      left.maxQueuePackets = right.maxQueuePackets ∧
      left.maxIncompleteOps = right.maxIncompleteOps ∧
      left.maxReconnectAttempts = right.maxReconnectAttempts ∧
      left.dialTimeout = right.dialTimeout ∧ left.idleTimeout = right.idleTimeout ∧
      left.clientIPv4 = right.clientIPv4 ∧ left.dnsIPv4 = right.dnsIPv4 ∧
      left.clientIPv6 = right.clientIPv6 ∧ left.dnsIPv6 = right.dnsIPv6 ∧
      left.routes = right.routes ∧ left.payloadProtocols = right.payloadProtocols := by
  have hword : ∀ value : UInt16, value.toNat < 2 ^ 64 := fun value => by
    have := value.toNat_lt
    omega
  have hbyte : ∀ value : UInt8, value.toNat < 2 ^ 64 := fun value => by
    have := value.toNat_lt
    omega
  simp only [narrowingInput, append_assoc] at heq
  obtain ⟨hgeneration, heq⟩ := separates_putUint64 trivial trivial heq
  obtain ⟨hpolicy, heq⟩ := separates_fixedBytes 32 trivial trivial heq
  obtain ⟨hprogram, heq⟩ := separates_fixedBytes 32 trivial trivial heq
  obtain ⟨hcarrier, heq⟩ := separates_lengthPrefixed (hleft.texts left.carrierFamily (by simp))
    (hright.texts right.carrierFamily (by simp)) heq
  obtain ⟨halpn, heq⟩ := separates_lengthPrefixed (hleft.texts left.alpn (by simp))
    (hright.texts right.alpn (by simp)) heq
  obtain ⟨hmode, heq⟩ := separates_text IPModeV2.lexicon hleft.ipMode hright.ipMode heq
  obtain ⟨hmtu, heq⟩ := Separates.count (hword left.mtu) (hword right.mtu) heq
  obtain ⟨hqueue, heq⟩ := Separates.count (hword _) (hword right.maxQueuePackets) heq
  obtain ⟨hincomplete, heq⟩ := Separates.count (hword _) (hword right.maxIncompleteOps) heq
  obtain ⟨hattempts, heq⟩ := Separates.count (hbyte _) (hbyte right.maxReconnectAttempts) heq
  obtain ⟨hdial, heq⟩ := separates_duration (hleft.durations left.dialTimeout (by simp))
    (hright.durations right.dialTimeout (by simp)) heq
  obtain ⟨hidle, heq⟩ := separates_duration (hleft.durations left.idleTimeout (by simp))
    (hright.durations right.idleTimeout (by simp)) heq
  obtain ⟨hclient4, heq⟩ := separates_fixedBytes 4 trivial trivial heq
  obtain ⟨hdns4, heq⟩ := separates_fixedBytes 4 trivial trivial heq
  obtain ⟨hclient6, heq⟩ := separates_fixedBytes 16 trivial trivial heq
  obtain ⟨hdns6, heq⟩ := separates_fixedBytes 16 trivial trivial heq
  obtain ⟨hroutes, heq⟩ := separates_writePrefixV2.counted hleft.routes hright.routes heq
  rw [← append_nil (writeListV2 _ left.payloadProtocols),
    ← append_nil (writeListV2 _ right.payloadProtocols)] at heq
  obtain ⟨hprotocols, -⟩ := (separates_text PayloadProtocolV2.lexicon).counted
    hleft.payloadProtocols hright.payloadProtocols heq
  exact ⟨hgeneration, hpolicy, hprogram, hcarrier, halpn, hmode, UInt16.toNat_inj.mp hmtu,
    UInt16.toNat_inj.mp hqueue, UInt16.toNat_inj.mp hincomplete, UInt8.toNat_inj.mp hattempts,
    hdial, hidle, hclient4, hdns4, hclient6, hdns6, hroutes, hprotocols⟩

theorem planInput_inj (heq : planInput left = planInput right) :
    left.profileContentID = right.profileContentID ∧
      left.activationReceiptDigest = right.activationReceiptDigest ∧
      left.runtimePolicyBytes = right.runtimePolicyBytes ∧
      effectiveNarrowingV2 left = effectiveNarrowingV2 right ∧
      left.strategyID = right.strategyID ∧ left.relayKeyID = right.relayKeyID ∧
      left.endpoints = right.endpoints := by
  have hdigest : ∀ value : FixedBytes 32, value.toList.length < 2 ^ 32 := fun value => by
    rw [List.Vector.toList_length]
    omega
  simp only [planInput, append_assoc] at heq
  have heq := append_cancel_left heq
  obtain ⟨hcontent, heq⟩ := separates_lengthPrefixed (hleft.texts left.profileContentID (by simp))
    (hright.texts right.profileContentID (by simp)) heq
  obtain ⟨hreceipt, heq⟩ := separates_fixedBytes 32 trivial trivial heq
  obtain ⟨hpolicy, heq⟩ := separates_lengthPrefixed (hleft.texts left.runtimePolicyBytes (by simp))
    (hright.texts right.runtimePolicyBytes (by simp)) heq
  obtain ⟨hnarrowing, heq⟩ := separates_lengthPrefixed (hdigest (effectiveNarrowingV2 left))
    (hdigest (effectiveNarrowingV2 right)) heq
  obtain ⟨hstrategy, heq⟩ := separates_lengthPrefixed (hleft.texts left.strategyID (by simp))
    (hright.texts right.strategyID (by simp)) heq
  obtain ⟨hrelay, heq⟩ := separates_lengthPrefixed (hleft.texts left.relayKeyID (by simp))
    (hright.texts right.relayKeyID (by simp)) heq
  rw [← append_nil (writeListV2 _ left.endpoints),
    ← append_nil (writeListV2 _ right.endpoints)] at heq
  obtain ⟨hendpoints, -⟩ := separates_writeEndpointV2.counted hleft.endpoints hright.endpoints heq
  exact ⟨hcontent, hreceipt, hpolicy, List.Vector.toList_injective hnarrowing, hstrategy, hrelay,
    hendpoints⟩

theorem withoutSizes_of_digest (hversion : left.version = right.version)
    (hfree : NoCollision left right) (hl : digestPlanV2 left = left.digest)
    (hr : digestPlanV2 right = right.digest) (heq : left.digest = right.digest) :
    left.withoutSizes = right.withoutSizes := by
  have hplan : planInput left = planInput right :=
    hfree _ (by simp) _ (by simp) (hl.trans (heq.trans hr.symm))
  obtain ⟨hcontent, hreceipt, hpolicy, hnarrowing, hstrategy, hrelay, hendpoints⟩ :=
    planInput_inj hleft hright hplan
  obtain ⟨hgeneration, hpolicyDigest, hprogram, hcarrier, halpn, hmode, hmtu, hqueue, hincomplete,
    hattempts, hdial, hidle, hclient4, hdns4, hclient6, hdns6, hroutes, hprotocols⟩ :=
    narrowingInput_inj hleft hright (hfree _ (by simp) _ (by simp) hnarrowing)
  simp only [PlanV2.withoutSizes, PlanV2.mk.injEq]
  exact ⟨hversion, hcontent, hgeneration, hreceipt, hpolicyDigest, hprogram, hstrategy, hrelay,
    hcarrier, halpn, hendpoints, hclient4, hdns4, hclient6, hdns6, hroutes, hmode, hmtu,
    hprotocols, hqueue, hincomplete, hattempts, hdial, hidle, heq, hpolicy, trivial, trivial⟩

end Inputs

/-! ## Accepted plans -/

theorem writable_of_within {policy : PolicyV2} {plan : PlanV2} (hvalid : ValidTransport policy)
    (hwell : plan.WellFormed) (hwithin : withinPolicyV2 policy plan = true)
    (hsize : plan.runtimePolicyBytes.length ≤ maxPolicyBytes) : plan.Writable := by
  have hnarrows := narrows_of_within hvalid hwell.mtu hwithin
  obtain ⟨-, -, hendpoint⟩ := hvalid.endpoint_lengths
  obtain ⟨-, hsigned, hroute⟩ := hvalid.route_lengths
  obtain ⟨hmodes, hprotocols⟩ := hvalid.sorted_words
  have hcount : policy.allowedProtocols.length ≤ 4 := length_sortedUnique hprotocols
  simp only [sortedUnique, decide_eq_true_eq] at hmodes hprotocols
  rw [withinPolicyV2, decide_eq_true_eq] at hwithin
  obtain ⟨-, -, -, -, -, hdial, hidle, -⟩ := hwithin
  have hcontent := hwell.contentID
  have hrelay := hwell.relayKeyID
  have hendpoints := hwell.endpointCount
  simp only [boundedV2, decide_eq_true_eq] at hcontent hrelay
  have hpolicy : maxPolicyBytes < 2 ^ 32 := by decide
  have hroutes := hnarrows.routes ▸ length_filter_le _ policy.routes
  have hseconds : ∀ value : UInt32, 0 ≤ secondsV2 value ∧ secondsV2 value < 2 ^ 64 := by
    intro value
    have := value.toNat_lt
    unfold secondsV2
    omega
  refine ⟨?_, hmodes.1 _ hnarrows.ipMode, ?_, ⟨by omega, fun endpoint hmem => ?_⟩,
    ⟨by omega, fun route hmem => ?_⟩, ?_, fun protocol hmem => ?_⟩
  · simp only [forall_mem_cons]
    rw [hwell.strategyID, hwell.carrierFamily, hwell.alpn]
    exact ⟨by omega, by omega, by decide, by omega, by decide, by decide⟩
  · simp only [forall_mem_cons, not_mem_nil, false_imp_iff, implies_true, and_true]
    rw [hdial, hidle]
    exact ⟨hseconds _, hseconds _⟩
  · have := hendpoint _ (hnarrows.endpoints.mem hmem)
    omega
  · rw [hnarrows.routes] at hmem
    have := hroute _ (mem_of_mem_filter hmem)
    omega
  · have := hnarrows.payloadProtocols.length_le
    omega
  · exact hprotocols.1 _ (hnarrows.payloadProtocols.mem hmem)

theorem withoutSizes_of_accepted {libraries : Libraries}
    (hlib : libraries.cbor.Correct strictMode) {left right : PlanV2} {now later : Instant}
    (hleft : validateV2At libraries left now = .ok ())
    (hright : validateV2At libraries right later = .ok ()) (hfree : NoCollision left right)
    (heq : left.digest = right.digest) : left.withoutSizes = right.withoutSizes := by
  have haccepted : ∀ {plan : PlanV2} {at' : Instant}, validateV2At libraries plan at' = .ok () →
      plan.Writable ∧ plan.version = versionV2 ∧ digestPlanV2 plan = plan.digest := by
    intro plan at' h
    obtain ⟨hwell, policy, hdecode, hwithin, hdigest⟩ := validateV2At_eq_ok.mp h
    obtain ⟨hvalid, hbytes, hsize⟩ :=
      (encodeRuntimeAt_eq_ok hlib).mp (encodeRuntimeAt_of_decodeRuntimeAt hdecode)
    exact ⟨writable_of_within (validTransport_of_validRuntime hvalid) hwell hwithin
      (hbytes ▸ hsize), hwell.version, hdigest⟩
  obtain ⟨hl, hlv, hld⟩ := haccepted hleft
  obtain ⟨hr, hrv, hrd⟩ := haccepted hright
  exact withoutSizes_of_digest hl hr (hlv.trans hrv.symm) hfree hld hrd heq

end Kurdistan.Product
