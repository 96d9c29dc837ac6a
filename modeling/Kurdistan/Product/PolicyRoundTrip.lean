import Kurdistan.Product.PolicyReadback

/-!
# Encoded policies are read back

`decodeRuntimeAt` returns the policy which `encodeRuntimeAt` has written, at every time at
which the policy is valid; a policy of version 3 comes back with empty in place of nil
addresses.
-/

namespace Kurdistan.Product

open Support Support.Cbor List
open Protocol hiding hexEncode

variable {lib : Library} {decode : FieldDecoder} {n : ℕ}

/-! ## Sizes of the fields -/

section

variable {value : List UInt8} {family : UInt8}

theorem length_of_validAddress (h : validAddress value family = true) :
    family = 4 ∧ value.length = 4 ∨ family = 6 ∧ value.length = 16 := by
  simp only [validAddress, is4, is6, decide_eq_true_eq] at h
  exact h.1

theorem length_of_validOptionalAddress (h : validOptionalAddress value family = true) :
    value = [] ∨ family = 4 ∧ value.length = 4 ∨ family = 6 ∧ value.length = 16 := by
  simp only [validOptionalAddress, decide_eq_true_eq] at h
  exact h.imp_right length_of_validAddress

end

theorem length_forFamilies {α : Type} (ipv4 ipv6 : List UInt8) (value4 value6 : α) :
    (forFamilies ipv4 ipv6 value4 value6).length ≤ 2 := by
  unfold forFamilies
  split_ifs <;> simp

theorem mem_forFamilies {α : Type} {ipv4 ipv6 : List UInt8} {value4 value6 value : α}
    (h : value ∈ forFamilies ipv4 ipv6 value4 value6) : value = value4 ∨ value = value6 := by
  unfold forFamilies at h
  split_ifs at h <;> simp_all

section Sizes

variable {p : PolicyV2} (h : ValidTransport p)

include h

theorem ValidTransport.readable_keyIDs :
    ReadableText True p.clientAuthKeyID ∧ ReadableText True p.relayAuthKeyID := by
  have hclient := h.clientAuthKeyID
  have hrelay := h.relayAuthKeyID
  simp only [keyIDMatches, relayKeyIDMatches, decide_eq_true_eq] at hclient hrelay
  rw [hclient, hrelay]
  constructor
  · refine readableText_of_ascii (n := 32) ?_ (by omega) (hexEncode_ascii _)
    simp
  · refine readableText_of_ascii (n := 22) ?_ (by omega) fun byte hbyte => ?_
    · simp [asciiBytes]
    · rcases mem_append.mp hbyte with hleft | hright
      · clear hbyte
        revert byte
        decide +kernel
      · exact hexEncode_ascii _ byte hright

theorem ValidTransport.endpoint_lengths : p.endpoints ≠ [] ∧ p.endpoints.length ≤ 4 ∧
    ∀ endpoint ∈ p.endpoints, endpoint.address.length ≤ 16 := by
  have haddresses := h.addresses
  simp only [validateAddresses, check_ok_iff, ensure_eq_ok] at haddresses
  obtain ⟨⟨hnonempty, hlength, -⟩, ⟨hendpoints, -⟩, -⟩ := haddresses
  refine ⟨hnonempty, hlength, fun endpoint hendpoint => ?_⟩
  have := length_of_validAddress (hendpoints endpoint hendpoint).2
  omega

theorem ValidTransport.slice_lengths :
    ∀ value ∈ [p.clientIPv4, p.dnsIPv4, p.clientIPv6, p.dnsIPv6],
      (sliceBytes value).length ≤ 16 := by
  have haddresses := h.addresses
  simp only [validateAddresses, check_ok_iff, ensure_eq_ok] at haddresses
  obtain ⟨-, -, ⟨hclient4, hdns4, hclient6, hdns6, -⟩, -⟩ := haddresses
  have hlength : ∀ {value : List UInt8} {family : UInt8},
      validOptionalAddress value family = true → value.length ≤ 16 := by
    intro value family hvalue
    rcases length_of_validOptionalAddress hvalue with rfl | hvalue
    · simp
    · omega
  simp only [forall_mem_cons, not_mem_nil, false_imp_iff, implies_true, and_true]
  exact ⟨hlength hclient4, hlength hdns4, hlength hclient6, hlength hdns6⟩

/-- Some family is authorized, so that there is a route. -/
theorem ValidTransport.families : sliceBytes p.clientIPv4 ≠ [] ∨ sliceBytes p.clientIPv6 ≠ [] := by
  have hmodes := h.modes
  simp only [validateModesAndProtocols, check_ok_iff, ensure_eq_ok] at hmodes
  obtain ⟨⟨hnonempty, hsorted, -⟩, ⟨hipv4, hipv6⟩, -⟩ := hmodes
  simp only [sortedUnique, decide_eq_true_eq] at hsorted
  obtain ⟨mode, hmode⟩ := exists_mem_of_ne_nil _ hnonempty
  obtain ⟨word, rfl⟩ := Choice.isKnown_iff.mp (hsorted.1 mode hmode)
  rw [hipv4, hipv6]
  simp only [authorizesIPv4, authorizesIPv6, decide_eq_true_eq]
  cases word with
  | dualStack => exact .inl (.inr hmode)
  | ipv4Only => exact .inl (.inl hmode)
  | ipv6Only => exact .inr (.inl hmode)

theorem ValidTransport.route_lengths : p.routes ≠ [] ∧ p.routes.length ≤ 2 ∧
    ∀ route ∈ p.routes, route.address.length ≤ 16 := by
  have haddresses := h.addresses
  simp only [validateAddresses, validateRoutes, check_ok_iff, ensure_eq_ok] at haddresses
  obtain ⟨-, -, -, hroutes, -⟩ := haddresses
  rw [hroutes]
  refine ⟨?_, length_forFamilies _ _ _ _, fun route hroute => ?_⟩
  · unfold forFamilies
    rcases h.families with hfamily | hfamily <;> simp [hfamily]
  · rcases mem_forFamilies hroute with rfl | rfl <;> decide

theorem ValidTransport.dns_lengths : p.dnsServers.length ≤ 2 ∧
    ∀ server ∈ p.dnsServers, server.length < 2 ^ 63 := by
  have hslices := h.slice_lengths
  have haddresses := h.addresses
  simp only [validateAddresses, validateDNS, check_ok_iff, ensure_eq_ok] at haddresses
  obtain ⟨-, -, -, -, -, hservers⟩ := haddresses
  rw [hservers]
  refine ⟨length_forFamilies _ _ _ _, fun server hserver => ?_⟩
  have hdns4 := hslices p.dnsIPv4 (by simp)
  have hdns6 := hslices p.dnsIPv6 (by simp)
  rcases mem_forFamilies hserver with rfl | rfl <;> omega

theorem ValidTransport.sorted_words :
    sortedUnique IPModeV2.lexicon p.allowedIPModes = true ∧
      sortedUnique PayloadProtocolV2.lexicon p.allowedProtocols = true := by
  have hmodes := h.modes
  simp only [validateModesAndProtocols, check_ok_iff, ensure_eq_ok] at hmodes
  exact ⟨hmodes.1.2.1, hmodes.1.2.2.2⟩

theorem ValidTransport.index_length : p.fallback.endpointIndexes.length ≤ 4 := by
  have hfallback := h.fallback
  have hlength := h.endpoint_lengths.2.1
  simp only [validateFallback, check_ok_iff, ensure_eq_ok] at hfallback
  omega

end Sizes

/-! ## Fields -/

section Fields

variable {p : PolicyV2} (h : ValidTransport p)

include h

theorem ValidTransport.readable_protocols :
    ReadableText True p.wireProtocol ∧ ReadableText True p.carrierFamily := by
  rw [h.wireProtocol, h.carrierFamily]
  exact ⟨readableText_of_ascii (n := 12) (by decide) (by omega) (by decide +kernel),
    readableText_of_ascii (n := 9) (by decide) (by omega) (by decide +kernel)⟩

variable (hd : ReadsPolicy lib decode)

include hd

theorem endpoints_back :
    ReadsBack True (n + 2) (.array (p.endpoints.map endpointMap)) (decodeEndpoints lib decode)
      p.endpoints := by
  obtain ⟨hnonempty, hlength, haddresses⟩ := h.endpoint_lengths
  refine (hd.on .rawMessages rfl).list (by omega)
    (fun endpoint hmem => endpoint_back hd (by have := haddresses endpoint hmem; omega)) ?_
  simpa using ⟨hnonempty, hlength⟩

theorem prefixes_back :
    ReadsBack True (n + 2) (.array (p.routes.map prefixMap)) (decodePrefixes lib decode)
      p.routes := by
  obtain ⟨hnonempty, hlength, haddresses⟩ := h.route_lengths
  refine (hd.on .rawMessages rfl).list (by omega)
    (fun route hmem => prefix_back hd (by have := haddresses route hmem; omega)) ?_
  simpa using ⟨hnonempty, hlength⟩

/-- The walk over the fields of an encoded policy returns the policy. -/
theorem policyFields_back (hversion : p.schemaVersion.toNat < 2 ^ 63) {others : List Item}
    (hothers : ∀ item ∈ others, ReadableItem True (n + 2) item) :
    let items := policyFields p ++ .bytes p.relayAdmissionDigest.toList :: others
    FieldsBack True (n + 2) items (decodePolicyFields lib decode (fieldAt items))
      { p with services := none } := by
  have hbytes := hd.on .byteString rfl
  have htext := hd.on .string rfl
  have hfixed : ∀ value : FixedBytes 32, ReadsBack True (n + 2) (.bytes value.toList)
      (decodeFixedBytes decode 32) value := hbytes.fixedBytes (by omega)
  have hslice : ∀ value ∈ [p.clientIPv4, p.dnsIPv4, p.clientIPv6, p.dnsIPv6],
      ReadsBack True (n + 2) (sliceItem value) (decode .byteSlice) value := fun value hvalue =>
    (hd.on .byteSlice rfl).byteSlice (by have := h.slice_lengths value hvalue; omega)
  have hprogram := h.liveProgram.2
  have hmax : maxLiveProgramBytes < 2 ^ 63 := by decide
  have hleaf := h.tlsLeafDER
  have hindexes := h.index_length
  have hdns := h.dns_lengths
  -- The fixed fields and the lists are read after the others.
  refine .cons ((hd.on .uint64 rfl).uint64 hversion) ?_
  refine .cons (htext.text h.readable_protocols.1) ?_
  refine .cons (htext.text h.readable_protocols.2) ?_
  refine .cons (hbytes.byteString (by omega)) (.skip (hfixed _).readable ?_)
  refine .cons (htext.text h.readable_keyIDs.1) (.skip (hfixed _).readable ?_)
  refine .cons (htext.text h.readable_keyIDs.2) (.skip (hfixed _).readable ?_)
  refine .cons (htext.text h.tlsServerName) ?_
  refine .cons (hbytes.byteString (by omega)) (.skip (hfixed _).readable ?_)
  refine .skip (endpoints_back h hd).readable ?_
  refine .cons (hslice p.clientIPv4 (by simp)) ?_
  refine .cons (hslice p.dnsIPv4 (by simp)) ?_
  refine .cons (hslice p.clientIPv6 (by simp)) ?_
  refine .cons (hslice p.dnsIPv6 (by simp)) (.skip (prefixes_back h hd).readable ?_)
  refine .cons ((hd.on .byteStrings rfl).byteStrings (by omega) hdns.2) ?_
  refine .cons ((hd.on .uint16 rfl).uint16 p.mtu) ?_
  have hmodes : ReadsBack True (n + 2) _ _ _ := words_back hd h.sorted_words.1 (by decide)
  have hprotocols : ReadsBack True (n + 2) _ _ _ := words_back hd h.sorted_words.2 (by decide)
  refine .skip hmodes.readable (.skip hprotocols.readable ?_)
  refine .skip (limits_back hd p.limits).readable ?_
  refine .skip (fallback_back hd (by omega)).readable (.skip (hfixed _).readable ?_)
  refine .step (hfixed p.liveProgramSHA256).back (.step (hfixed p.clientAuthPublic).back ?_)
  refine .step (hfixed p.relayAuthPublic).back (.step (hfixed p.tlsLeafSHA256).back ?_)
  refine .step (hfixed p.relayAdmissionDigest).back (.step (endpoints_back h hd).back ?_)
  refine .step (prefixes_back h hd).back (.step hmodes.back (.step hprotocols.back ?_))
  refine .step (limits_back hd p.limits).back (.step (fallback_back hd (by omega)).back ?_)
  exact ⟨hothers, fun _ => rfl⟩

end Fields

/-! ## Versions -/

/-- The encoded map of a policy. -/
def runtimeMap (p : PolicyV2) : Item :=
  match p.services with
  | none => policyMap p true
  | some s => policyMapV3 p s true

/-- What the decoder makes of an encoded policy: version 3 does not keep nil apart from
empty. -/
def PolicyV2.decoded (p : PolicyV2) : PolicyV2 :=
  match p.services with
  | none => p
  | some _ => p.filled

variable {libraries : Libraries} {p : PolicyV2} {now : Instant} {encoded : List UInt8}

theorem schemaVersionV3_ne : schemaVersionV3 ≠ schemaVersionV2 := by decide

theorem validatePolicyV2At_eq_ok :
    validatePolicyV2At libraries p now = .ok () ↔
      (p.schemaVersion = schemaVersionV2 ∧ p.services = none) ∧
      (∃ program, validateCommonPolicyAt libraries p now = .ok program) ∧
      ∃ encoded, libraries.cbor.marshal (policyMap p false) = some encoded ∧
        sha256 encoded = p.relayAdmissionDigest := by
  have hcontent : validateContentV2At libraries p now = .ok () ↔
      (p.schemaVersion = schemaVersionV2 ∧ p.services = none) ∧
        ∃ program, validateCommonPolicyAt libraries p now = .ok program := by
    simp [validateContentV2At, bind_ok_iff, ensure_ok_iff, pure, Except.pure]
  rw [validatePolicyV2At, check_ok_iff, ensure_eq_ok, relayAdmissionDigestV2At, check_ok_iff,
    hcontent]
  cases libraries.cbor.marshal (policyMap p false) with
  | none => simp
  | some encoded => simp [pure, Except.pure]; tauto

theorem validateV3At_eq_ok {s : ServicesV1} :
    validateV3At libraries p now = .ok s ↔
      p.schemaVersion = schemaVersionV3 ∧ p.services = some s ∧
      (∃ program, validateCommonPolicyAt libraries p now = .ok program ∧
        validateServices libraries s (sliceBytes p.clientIPv4 ≠ []) (sliceBytes p.clientIPv6 ≠ []) =
          .ok () ∧ carriesData p program = true ∧
        ∃ encoded, marshalPolicyV3 libraries p s true = .ok encoded) ∧
      ∃ encoded, marshalPolicyV3 libraries p s false = .ok encoded ∧
        sha256 encoded = p.relayAdmissionDigest := by
  rw [validateV3At, validateContentV3At]
  cases p.services with
  | none => simp [bind_ok_iff]
  | some services =>
    simp only [bind_ok_iff, ensure_ok_iff, exists_const]
    constructor
    · rintro ⟨_, ⟨hversion, program, hprogram, _, hs, hcarries, encoded, hencoded, ⟨⟩⟩, digested,
        hdigested, hdigest, ⟨⟩⟩
      exact ⟨hversion, rfl, ⟨program, hprogram, hs, hcarries, encoded, hencoded⟩, digested,
        hdigested, hdigest⟩
    · rintro ⟨hversion, ⟨⟩, ⟨program, hprogram, hs, hcarries, encoded, hencoded⟩, digested,
        hdigested, hdigest⟩
      exact ⟨s, ⟨hversion, program, hprogram, (), hs, hcarries, encoded, hencoded, rfl⟩, digested,
        hdigested, hdigest, rfl⟩

/-- A valid policy has one of the two versions, and services in the second only. -/
theorem validateRuntimeAt_eq_ok :
    validateRuntimeAt libraries p now = .ok () ↔
      (p.schemaVersion = schemaVersionV2 ∧ p.services = none ∧
        validatePolicyV2At libraries p now = .ok ()) ∨
      ∃ s, p.schemaVersion = schemaVersionV3 ∧ p.services = some s ∧
        validateV3At libraries p now = .ok s := by
  unfold validateRuntimeAt
  split_ifs with hv2 hv3
  · simp only [hv2, schemaVersionV3_ne.symm, true_and, false_and, exists_false, or_false]
    exact ⟨fun h => ⟨(validatePolicyV2At_eq_ok.mp h).1.2, h⟩, fun h => h.2⟩
  · simp only [hv3, schemaVersionV3_ne, true_and, false_and, false_or]
    constructor
    · intro h
      obtain ⟨s, hs, -⟩ := bind_ok_iff.mp h
      exact ⟨s, (validateV3At_eq_ok.mp hs).2.1, hs⟩
    · rintro ⟨s, -, hs⟩
      exact bind_ok_iff.mpr ⟨s, hs, rfl⟩
  · simp [hv2, hv3]

theorem validTransport_of_validV2 (h : validatePolicyV2At libraries p now = .ok ()) :
    ValidTransport p := by
  obtain ⟨-, ⟨program, hprogram⟩, -⟩ := validatePolicyV2At_eq_ok.mp h
  exact validTransport_of_valid hprogram

/-- What the validation of version 3 says about the encoding. -/
theorem readable_of_validV3 {s : ServicesV1} (h : validateV3At libraries p now = .ok s) :
    ValidTransport p ∧ ReadableServices s ∧
      (∃ encoded, libraries.cbor.marshal (servicesMap s) = some encoded ∧
        encoded.length ≤ maxServicesEncodedBytes) ∧
      ∃ encoded, marshalPolicyV3 libraries p s true = .ok encoded := by
  obtain ⟨-, -, ⟨program, hprogram, hs, -, encoded, hencoded⟩, -⟩ := validateV3At_eq_ok.mp h
  refine ⟨validTransport_of_valid hprogram, readableServices_of_valid hs, ?_, encoded, hencoded⟩
  simp only [validateServices, check_ok_iff] at hs
  obtain ⟨-, -, -, -, hs⟩ := hs
  cases hmarshal : libraries.cbor.marshal (servicesMap s) with
  | none => simp [hmarshal] at hs
  | some bytes => exact ⟨bytes, rfl, by simpa [hmarshal] using hs⟩

/-- An accepted encoding is the encoding of a policy which is valid at the time. -/
theorem encodeRuntimeAt_of_decodeRuntimeAt (h : decodeRuntimeAt libraries encoded now = .ok p) :
    encodeRuntimeAt libraries p now = .ok encoded := by
  obtain ⟨-, h⟩ := check_ok_iff.mp h
  obtain ⟨version, -, h⟩ := bind_ok_iff.mp h
  split_ifs at h
  · simp only [decodeV2At, bind_ok_iff, ensure_ok_iff, exists_const] at h
    obtain ⟨_, -, fields, -, policy, -, _, hvalid, hencode, ⟨⟩⟩ := h
    rw [encodeRuntimeAt, if_pos (validatePolicyV2At_eq_ok.mp hvalid).1.1]
    exact hencode
  · simp only [decodeV3At, bind_ok_iff, ensure_ok_iff, exists_const] at h
    obtain ⟨_, -, fields, -, transport, -, services, -, reencoded, hencode, rfl, ⟨⟩⟩ := h
    obtain ⟨s, hvalid, -⟩ := bind_ok_iff.mp hencode
    have hv3 := (validateV3At_eq_ok.mp hvalid).1
    rw [encodeRuntimeAt, if_neg (by rw [hv3]; exact schemaVersionV3_ne), if_pos hv3]
    exact hencode

theorem validateRuntimeAt_of_encodeRuntimeAt (h : encodeRuntimeAt libraries p now = .ok encoded) :
    validateRuntimeAt libraries p now = .ok () := by
  unfold encodeRuntimeAt at h
  unfold validateRuntimeAt
  split_ifs at h ⊢ with hv2 hv3
  · exact (check_ok_iff.mp h).1
  · obtain ⟨s, hs, -⟩ := bind_ok_iff.mp h
    exact bind_ok_iff.mpr ⟨s, hs, rfl⟩

section Correct

variable (hlib : libraries.cbor.Correct strictMode)

include hlib

theorem policyMap_back (h : ValidTransport p) (hversion : p.schemaVersion = schemaVersionV2) :
    let items := policyFields p ++ [.bytes p.relayAdmissionDigest.toList]
    FieldsBack True 6 items
      (decodePolicyFields libraries.cbor libraries.cbor.unmarshal (fieldAt items))
      { p with services := none } :=
  policyFields_back (n := 4) h (readsPolicy_unmarshal hlib) (by rw [hversion]; decide) (by simp)

theorem policyMapV3_back {s : ServicesV1} (h : ValidTransport p) (hs : ReadableServices s)
    (hversion : p.schemaVersion = schemaVersionV3) :
    let items := policyFields p.filled ++ [.bytes p.relayAdmissionDigest.toList, servicesMap s]
    FieldsBack True 6 items
      (decodePolicyFields libraries.cbor libraries.cbor.unmarshal (fieldAt items))
      { p.filled with services := none } :=
  have hfilled : ValidTransport p.filled := { h with }
  policyFields_back (n := 4) hfilled (readsPolicy_unmarshal hlib)
    (show p.schemaVersion.toNat < 2 ^ 63 by rw [hversion]; decide)
    (by simpa using (services_back (n := 0) hlib hs).readable)

/-- The map of a valid policy is read back by every correct library. -/
theorem readable_runtimeMap (h : validateRuntimeAt libraries p now = .ok ()) :
    ReadableItem True 7 (runtimeMap p) := by
  rcases validateRuntimeAt_eq_ok.mp h with
    ⟨hversion, hservices, hvalid⟩ | ⟨s, hversion, hservices, hvalid⟩
  · simp only [runtimeMap, hservices]
    have hfields := policyMap_back hlib (validTransport_of_validV2 hvalid) hversion
    exact readable_labelled (by simp [policyFields]) hfields.readable
  · simp only [runtimeMap, hservices]
    obtain ⟨htransport, hs, -⟩ := readable_of_validV3 hvalid
    have hfields := policyMapV3_back hlib htransport hs hversion
    exact readable_labelled (by simp [policyFields]) hfields.readable

/-- The encoder writes the map of a valid policy, at whatever time it is valid. -/
theorem encodeRuntimeAt_eq_ok :
    encodeRuntimeAt libraries p now = .ok encoded ↔
      validateRuntimeAt libraries p now = .ok () ∧ encoded = (runtimeMap p).encode ∧
        (runtimeMap p).encode.length ≤ maxPolicyBytes := by
  by_cases hvalid : validateRuntimeAt libraries p now = .ok ()
  · have hmarshal := hlib.marshal_eq (readable_runtimeMap hlib hvalid).encodable
    rcases validateRuntimeAt_eq_ok.mp hvalid with
      ⟨hversion, hservices, hv2⟩ | ⟨s, hversion, hservices, hv3⟩
    · simp only [runtimeMap, hservices] at hmarshal ⊢
      have hne := encode_ne_nil (policyMap p true)
      simp only [encodeRuntimeAt, hversion, if_true, encodeV2At, hmarshal, check_ok_iff,
        ensure_eq_ok, pure, Except.pure, Except.ok.injEq, hne, ne_eq, not_false_eq_true]
      tauto
    · simp only [runtimeMap, hservices] at hmarshal ⊢
      simp only [encodeRuntimeAt, hversion, schemaVersionV3_ne, if_false, if_true, encodeV3At, hv3,
        ok_bind, marshalPolicyV3, hmarshal, check_ok_iff, ensure_eq_ok, pure, Except.pure,
        Except.ok.injEq]
      tauto
  · simp only [hvalid, false_and, iff_false]
    exact fun hencode => hvalid (validateRuntimeAt_of_encodeRuntimeAt hencode)

theorem checkEncoded_encode {item : Item} {n : ℕ} (h : ReadableItem True n item) (hn : n ≤ 32)
    (hsize : item.encode.length ≤ maxPolicyBytes) :
    checkEncoded libraries item.encode = .ok () := by
  have hany := hlib.unmarshal_eq .any h.encodable ⟨h.depth.trans hn, h.admissible trivial⟩ rfl
  have hcore : validateCore libraries.cbor item.encode = true := by
    simp [validateCore, hany, hlib.marshal_eq h.encodable]
  exact check_ok_iff.mpr ⟨ensure_eq_ok.mpr ⟨encode_ne_nil item, hsize⟩, ensure_eq_ok.mpr hcore⟩

theorem encodedVersion_labelled {items : List Item} {version : UInt64}
    (hversion : version.toNat < 2 ^ 63) (hlength : items.length ≤ 25)
    (h : ReadableItem True 7 (labelled (natItem version.toNat :: items))) :
    encodedVersion libraries (labelled (natItem version.toNat :: items)).encode = some version := by
  have hdepth : 7 ≤ strictMode.maxNestedLevels := by decide
  have hread := hlib.unmarshal_eq .rawMap h.encodable ⟨h.depth.trans hdepth,
    h.admissible trivial⟩ rfl
  apply bind_some hread
  rw [if_pos (by simp; omega)]
  exact ((readsField_serviceField hlib rfl).uint64 (n := 0) hversion).back ⟨trivial, by omega⟩

theorem decodeV2At_policyMap (hversion : p.schemaVersion = schemaVersionV2)
    (hservices : p.services = none) (hvalid : validatePolicyV2At libraries p now = .ok ())
    (hencode : encodeV2At libraries p now = .ok (policyMap p true).encode)
    (hcheck : checkEncoded libraries (policyMap p true).encode = .ok ()) :
    decodeV2At libraries (policyMap p true).encode now = .ok p := by
  have hfields := policyMap_back hlib (validTransport_of_validV2 hvalid) hversion
  have hraw : rawMap libraries.cbor (policyMap p true).encode policyFieldCount = _ :=
    (rawMap_back hlib (by simp [policyFields]) hfields.readable).back ⟨trivial, by omega⟩
  have hsame : { p with services := none } = p := by rw [← hservices]
  rw [hsame] at hfields
  rw [decodeV2At, hcheck, ok_bind, hraw, orSchema, ok_bind, hfields.back ⟨trivial, by omega⟩,
    orSchema, ok_bind, hvalid, ok_bind]
  exact check_ok_iff.mpr ⟨ensure_eq_ok.mpr hencode, rfl⟩

theorem decodeV3At_policyMapV3 {s : ServicesV1} (hversion : p.schemaVersion = schemaVersionV3)
    (hservices : p.services = some s) (hvalid : validateV3At libraries p now = .ok s)
    (hencode : encodeV3At libraries p now = .ok (policyMapV3 p s true).encode)
    (hcheck : checkEncoded libraries (policyMapV3 p s true).encode = .ok ()) :
    decodeV3At libraries (policyMapV3 p s true).encode now = .ok p.filled := by
  obtain ⟨htransport, hs, ⟨bytes, hbytes, hshort⟩, -⟩ := readable_of_validV3 hvalid
  have hfields := policyMapV3_back hlib htransport hs hversion
  have hraw : rawMap libraries.cbor (policyMapV3 p s true).encode 26 = _ :=
    (rawMap_back hlib (by simp [policyFields]) hfields.readable).back ⟨trivial, by omega⟩
  have hback := services_back (n := 0) hlib hs
  obtain ⟨⟩ := (hlib.marshal_eq hback.readable.encodable).symm.trans hbytes
  have hdecoded : decodeServices libraries.cbor (servicesMap s).encode = .ok s := by
    rw [decodeServices, hback.back ⟨trivial, by omega⟩]
    exact check_ok_iff.mpr ⟨ensure_eq_ok.mpr hshort, rfl⟩
  have hsame : { p.filled with services := some s } = p.filled := by
    rw [← hservices]
    rfl
  have hreencode : encodeV3At libraries p.filled now = .ok (policyMapV3 p s true).encode := hencode
  rw [decodeV3At, hcheck, ok_bind, hraw, orSchema, ok_bind]
  refine bind_ok_iff.mpr ⟨_, congrArg orSchema (hfields.back ⟨trivial, by omega⟩), ?_⟩
  refine bind_ok_iff.mpr ⟨s, hdecoded, ?_⟩
  simp only [hsame]
  exact bind_ok_iff.mpr ⟨_, hreencode, check_ok_iff.mpr ⟨ensure_eq_ok.mpr rfl, rfl⟩⟩

/-- A policy which is valid at a time is read back at this time. -/
theorem decodeRuntimeAt_runtimeMap (hvalid : validateRuntimeAt libraries p now = .ok ())
    (hsize : (runtimeMap p).encode.length ≤ maxPolicyBytes) :
    decodeRuntimeAt libraries (runtimeMap p).encode now = .ok p.decoded := by
  have hencode := (encodeRuntimeAt_eq_ok hlib).mpr ⟨hvalid, rfl, hsize⟩
  have hreadable := readable_runtimeMap hlib hvalid
  have hcheck := checkEncoded_encode hlib hreadable (by omega) hsize
  unfold decodeRuntimeAt
  rw [hcheck, ok_bind]
  rcases validateRuntimeAt_eq_ok.mp hvalid with
    ⟨hversion, hservices, hv2⟩ | ⟨s, hversion, hservices, hv3⟩
  · simp only [runtimeMap, PolicyV2.decoded, hservices] at hencode hreadable hcheck ⊢
    simp only [encodeRuntimeAt, hversion] at hencode
    have hnumber : encodedVersion libraries (policyMap p true).encode = some p.schemaVersion :=
      encodedVersion_labelled hlib (by rw [hversion]; decide) (by simp) hreadable
    rw [hnumber, hversion, orSchema, ok_bind, if_pos rfl]
    exact decodeV2At_policyMap hlib hversion hservices hv2 hencode hcheck
  · have hlt : p.schemaVersion.toNat < 2 ^ 63 := by rw [hversion]; decide
    simp only [runtimeMap, PolicyV2.decoded, hservices] at hencode hreadable hcheck ⊢
    simp only [encodeRuntimeAt, hversion] at hencode
    have hnumber : encodedVersion libraries (policyMapV3 p s true).encode = some p.schemaVersion :=
      encodedVersion_labelled hlib hlt (by simp) hreadable
    rw [hnumber, hversion, orSchema, ok_bind, if_neg schemaVersionV3_ne, if_pos rfl]
    exact decodeV3At_policyMapV3 hlib hversion hservices hv3 hencode hcheck

end Correct

/-! ## Times -/

section Times

variable {later : Instant}

theorem validateTLSAt_eq_ok {name : Text} {der : List UInt8} {expected : FixedBytes 32} :
    validateTLSAt libraries name der expected now = .ok () ↔
      (validServerName libraries.parsers name = true ∧ der ≠ [] ∧ der.length ≤ 4096 ∧
        sha256 der = expected) ∧
      ∃ leaf, libraries.parseCertificate der = some leaf ∧ ¬ isZeroTime now = true ∧
        (leaf.notBefore ≤ now ∧ now ≤ leaf.notAfter) ∧
        (leaf.selfSigned = true ∧ leaf.verifiesHostname name = true) ∧
        name ∈ (if (libraries.parsers.ip name).isSome then leaf.ipAddresses else leaf.dnsNames) ∧
        leaf.serverAuth = true := by
  unfold validateTLSAt
  rw [check_ok_iff, ensure_eq_ok]
  cases libraries.parseCertificate der with
  | none => simp
  | some leaf =>
    simp only [check_ok_iff, ensure_eq_ok, Option.some.injEq, exists_eq_left']

/-- Time enters the validation through the certificate only. -/
theorem validateCommonPolicyAt_later {program : ProgramV1} {leaf : Leaf}
    (hleaf : libraries.parseCertificate p.tlsLeafDER = some leaf)
    (hzero : ¬ isZeroTime later = true) (hbefore : leaf.notBefore ≤ later)
    (hafter : later ≤ leaf.notAfter) (h : validateCommonPolicyAt libraries p now = .ok program) :
    validateCommonPolicyAt libraries p later = .ok program := by
  simp only [validateCommonPolicyAt, bind_ok_iff] at h ⊢
  obtain ⟨_, -, _, hprotocol, decoded, hprogram, _, hkeys, _, htls, h⟩ := h
  obtain ⟨hserver, other, hother, -, -, hrest⟩ := validateTLSAt_eq_ok.mp htls
  obtain ⟨⟩ := hleaf.symm.trans hother
  have htls' := validateTLSAt_eq_ok.mpr ⟨hserver, leaf, hleaf, hzero, ⟨hbefore, hafter⟩, hrest⟩
  exact ⟨(), ensure_eq_ok.mpr hzero, _, hprotocol, decoded, hprogram, _, hkeys, _, htls', h⟩

theorem leaf_of_validCommon {program : ProgramV1}
    (h : validateCommonPolicyAt libraries p now = .ok program) :
    ∃ leaf, libraries.parseCertificate p.tlsLeafDER = some leaf ∧ ¬ isZeroTime now = true ∧
      leaf.notBefore ≤ now ∧ now ≤ leaf.notAfter := by
  simp only [validateCommonPolicyAt, bind_ok_iff] at h
  obtain ⟨_, -, _, -, decoded, -, _, -, _, htls, -⟩ := h
  obtain ⟨-, leaf, hleaf, hzero, hwindow, -⟩ := validateTLSAt_eq_ok.mp htls
  exact ⟨leaf, hleaf, hzero, hwindow⟩

theorem validCommon_of_validRuntime (h : validateRuntimeAt libraries p now = .ok ()) :
    ∃ program, validateCommonPolicyAt libraries p now = .ok program := by
  rcases validateRuntimeAt_eq_ok.mp h with ⟨-, -, hv2⟩ | ⟨s, -, -, hv3⟩
  · exact (validatePolicyV2At_eq_ok.mp hv2).2.1
  · obtain ⟨-, -, ⟨program, hprogram, -⟩, -⟩ := validateV3At_eq_ok.mp hv3
    exact ⟨program, hprogram⟩

theorem validateRuntimeAt_later (h : validateRuntimeAt libraries p now = .ok ())
    {leaf : Leaf} (hleaf : libraries.parseCertificate p.tlsLeafDER = some leaf)
    (hzero : ¬ isZeroTime later = true) (hbefore : leaf.notBefore ≤ later)
    (hafter : later ≤ leaf.notAfter) : validateRuntimeAt libraries p later = .ok () := by
  have hcommon := fun program =>
    @validateCommonPolicyAt_later libraries p now later program leaf hleaf hzero hbefore hafter
  rcases validateRuntimeAt_eq_ok.mp h with
    ⟨hversion, hservices, hv2⟩ | ⟨s, hversion, hservices, hv3⟩
  · refine validateRuntimeAt_eq_ok.mpr (.inl ⟨hversion, hservices, ?_⟩)
    obtain ⟨hfields, ⟨program, hprogram⟩, hdigest⟩ := validatePolicyV2At_eq_ok.mp hv2
    exact validatePolicyV2At_eq_ok.mpr ⟨hfields, ⟨program, hcommon program hprogram⟩, hdigest⟩
  · refine validateRuntimeAt_eq_ok.mpr (.inr ⟨s, hversion, hservices, ?_⟩)
    obtain ⟨-, -, ⟨program, hprogram, hrest⟩, hdigest⟩ := validateV3At_eq_ok.mp hv3
    exact validateV3At_eq_ok.mpr
      ⟨hversion, hservices, ⟨program, hcommon program hprogram, hrest⟩, hdigest⟩

end Times

end Kurdistan.Product
