import Kurdistan.Product.PolicyCodec

/-!
# Reading an encoded policy back

The decoder of runtime policies takes back what the encoder writes, for every correct
library. A policy of version 3 comes back with empty in place of nil addresses.
-/

namespace Kurdistan.Product

open Support Support.Cbor List
open Protocol

variable {lib : Library} {decode : FieldDecoder} {utf8 : Prop} {n : ℕ}

/-! ## Fields -/

theorem as_uint8 (value : UInt8) : (natItem value.toNat).as .uint8 = some value := by
  have hlt := value.toNat_lt
  rw [natItem, Item.as, if_pos (by omega)]
  simp

theorem as_uint16 (value : UInt16) : (natItem value.toNat).as .uint16 = some value := by
  have hlt := value.toNat_lt
  rw [natItem, Item.as, if_pos (by omega)]
  simp

theorem as_uint64 (value : UInt64) : (natItem value.toNat).as .uint64 = some value := by
  have hlt := value.toNat_lt
  rw [natItem, Item.as, if_pos (by omega)]
  simp

theorem as_byteStrings (values : List (List UInt8)) :
    (Item.array (values.map Item.bytes)).as .byteStrings = some values := by
  simp only [Item.as]
  induction values with
  | nil => rfl
  | cons value rest ih => simp [Item.bytes?, ih]

end Kurdistan.Product

namespace Kurdistan.Protocol.ReadsField

open Support Support.Cbor Product

variable {decode : FieldDecoder} {utf8 : Prop} {n : ℕ}

theorem uint8 (hd : ReadsField decode .uint8) (value : UInt8) :
    ReadsBack utf8 n (natItem value.toNat) (decode .uint8) value := by
  have hlt := value.toNat_lt
  exact hd.back (readable_nat (by omega)) fun _ => as_uint8 value

theorem uint16 (hd : ReadsField decode .uint16) (value : UInt16) :
    ReadsBack utf8 n (natItem value.toNat) (decode .uint16) value := by
  have hlt := value.toNat_lt
  exact hd.back (readable_nat (by omega)) fun _ => as_uint16 value

theorem uint64 (hd : ReadsField decode .uint64) {value : UInt64} (h : value.toNat < 2 ^ 63) :
    ReadsBack utf8 n (natItem value.toNat) (decode .uint64) value :=
  hd.back (readable_nat h) fun _ => as_uint64 value

theorem byteSlice (hd : ReadsField decode .byteSlice) {value : Option (List UInt8)}
    (h : (sliceBytes value).length < 2 ^ 63) :
    ReadsBack utf8 n (sliceItem value) (decode .byteSlice) value := by
  cases value with
  | none => exact hd.back ⟨trivial, fun _ => trivial, n.zero_le⟩ fun _ => rfl
  | some value => exact hd.back (readable_bytes h) fun _ => rfl

theorem byteStrings (hd : ReadsField decode .byteStrings) {values : List (List UInt8)}
    (hlength : values.length ≤ 64) (h : ∀ value ∈ values, value.length < 2 ^ 63) :
    ReadsBack utf8 (n + 1) (.array (values.map Item.bytes)) (decode .byteStrings) values :=
  hd.back (readable_map hlength fun value hvalue => readable_bytes (h value hvalue))
    fun _ => as_byteStrings values

end Kurdistan.Protocol.ReadsField

namespace Kurdistan.Product

open Support Support.Cbor List
open Protocol

variable {lib : Library} {decode : FieldDecoder} {utf8 : Prop} {n : ℕ}

/-! ## Parts of a policy -/

/-- The types of the destinations which the walk over a policy fills. -/
def policyTargets : List Target :=
  [.byteString, .byteSlice, .string, .uint8, .uint16, .uint32, .uint64, .rawMessages,
    .strings, .byteStrings]

/-- A field decoder which reads the fields of every readable item of a policy. -/
structure ReadsPolicy (lib : Library) (decode : FieldDecoder) : Prop where
  correct : lib.Correct strictMode
  field : ∀ target ∈ policyTargets, ReadsField decode target

theorem readsPolicy_unmarshal (hlib : lib.Correct strictMode) : ReadsPolicy lib lib.unmarshal :=
  ⟨hlib, fun target _ => readsField_unmarshal hlib target⟩

theorem ReadsPolicy.on (hd : ReadsPolicy lib decode) (target : Target)
    (h : decide (target ∈ policyTargets) = true) : ReadsField decode target :=
  hd.field target (of_decide_eq_true h)

theorem endpoint_back (hd : ReadsPolicy lib decode) {endpoint : EndpointV2}
    (h : endpoint.address.length < 2 ^ 63) :
    ReadsBack utf8 (n + 1) (endpointMap endpoint) (decodeEndpoint lib decode) endpoint := by
  refine .labelled hd.correct (by simp) ?_
  refine .cons ((hd.on .uint8 rfl).uint8 _) ?_
  refine .cons ((hd.on .byteString rfl).byteString h) ?_
  refine .cons ((hd.on .uint8 rfl).uint8 _) ?_
  refine .cons ((hd.on .uint16 rfl).uint16 _) ?_
  exact .nil rfl

theorem prefix_back (hd : ReadsPolicy lib decode) {p : PrefixV2} (h : p.address.length < 2 ^ 63) :
    ReadsBack utf8 (n + 1) (prefixMap p) (decodePrefix lib decode) p := by
  refine .labelled hd.correct (by simp) ?_
  refine .cons ((hd.on .byteString rfl).byteString h) ?_
  refine .cons ((hd.on .uint8 rfl).uint8 _) ?_
  exact .nil rfl

theorem limits_back (hd : ReadsPolicy lib decode) (l : LimitsV2) :
    ReadsBack utf8 (n + 1) (limitsMap l) (decodeLimits lib decode) l := by
  refine .labelled hd.correct (by simp) ?_
  refine .cons ((hd.on .uint32 rfl).uint32 _) ?_
  refine .cons ((hd.on .uint32 rfl).uint32 _) ?_
  refine .cons ((hd.on .uint32 rfl).uint32 _) ?_
  refine .cons ((hd.on .uint32 rfl).uint32 _) ?_
  refine .cons ((hd.on .uint32 rfl).uint32 _) ?_
  refine .cons ((hd.on .uint32 rfl).uint32 _) ?_
  exact .nil rfl

theorem fallback_back (hd : ReadsPolicy lib decode) {f : FallbackV2}
    (h : f.endpointIndexes.length < 2 ^ 63) :
    ReadsBack utf8 (n + 1) (fallbackMap f) (decodeFallback lib decode) f := by
  refine .labelled hd.correct (by simp) ?_
  refine .cons ((hd.on .byteString rfl).byteString h) ?_
  refine .cons ((hd.on .uint32 rfl).uint32 _) ?_
  refine .cons ((hd.on .uint32 rfl).uint32 _) ?_
  refine .cons ((hd.on .uint32 rfl).uint32 _) ?_
  exact .nil rfl

variable {α : Type}

/-- Sorted words of a vocabulary are no more than the vocabulary has. -/
theorem length_sortedUnique {lexicon : Lexicon α} {values : List (Choice α)}
    (h : sortedUnique lexicon values = true) : values.length ≤ lexicon.values.length := by
  simp only [sortedUnique, decide_eq_true_eq] at h
  obtain ⟨hknown, hsorted⟩ := h
  have hnodup : values.Nodup := by
    refine hsorted.imp fun {a b} hlt heq => ?_
    rw [heq, wordBefore, decide_eq_true_eq] at hlt
    exact List.lt_irrefl _ hlt
  have hsubset : values ⊆ lexicon.values.map Choice.known := by
    intro value hvalue
    obtain ⟨word, rfl⟩ := Choice.isKnown_iff.mp (hknown value hvalue)
    exact mem_map_of_mem (lexicon.complete word)
  simpa using (subperm_of_subset hnodup hsubset).length_le

theorem wordItems_eq (lexicon : Lexicon α) (values : List (Choice α)) :
    wordItems lexicon values = capabilityItems (values.map fun value => value.text lexicon.word) :=
      by
  simp [wordItems, capabilityItems, choiceItem]

theorem length_word {lexicon : Lexicon α} {values : List (Choice α)}
    (h : sortedUnique lexicon values = true) :
    ∀ text ∈ values.map (fun value => value.text lexicon.word),
      (utf8Bytes text).length < 2 ^ 63 := by
  simp only [sortedUnique, decide_eq_true_eq] at h
  intro text htext
  obtain ⟨value, hvalue, rfl⟩ := mem_map.mp htext
  have hshort := lexicon.length_text_le (h.1 value hvalue)
  omega

theorem words_back (hd : ReadsPolicy lib decode) {lexicon : Lexicon α}
    {values : List (Choice α)} (h : sortedUnique lexicon values = true)
    (hsmall : lexicon.values.length ≤ 64) :
    ReadsBack utf8 (n + 1) (wordItems lexicon values) (decodeWords decode lexicon) values := by
  have hlength := length_sortedUnique h
  rw [wordItems_eq]
  have hstrings : ReadsBack utf8 (n + 1) _ _ _ :=
    (hd.on .strings rfl).strings (by rw [length_map]; omega) (length_word h)
  refine ⟨hstrings.readable, fun hok => ?_⟩
  rw [decodeWords, hstrings.back hok, Option.map_some, map_map]
  simp only [sortedUnique, decide_eq_true_eq] at h
  congr 1
  refine (map_congr_left fun value hvalue => ?_).trans (map_id values)
  exact lexicon.ofText_text (h.1 value hvalue)

/-! ## Services -/

/-- What validation says about a proxy, as far as its encoding is concerned. -/
structure ReadableProxy (p : ProxyV1) : Prop where
  addressKinds : 1 ≤ p.addressKinds.length ∧ p.addressKinds.length ≤ 3
  destinationCIDRs : 1 ≤ p.destinationCIDRs.length ∧ p.destinationCIDRs.length ≤ 64
  addresses : ∀ cidr ∈ p.destinationCIDRs, cidr.address.length < 2 ^ 63
  destinationPorts : 1 ≤ p.destinationPorts.length ∧ p.destinationPorts.length ≤ 16

theorem sortedServiceValues_length {values : List UInt8} {max : UInt8}
    (h : sortedServiceValues values max = true) :
    1 ≤ values.length ∧ values.length ≤ max.toNat := by
  simp only [sortedServiceValues, decide_eq_true_eq] at h
  exact ⟨length_pos_iff.mpr h.1, h.2.1⟩

theorem length_of_isAddress {address : List UInt8} (h : isAddress address = true) :
    address.length < 2 ^ 63 := by
  simp only [isAddress, decide_eq_true_eq] at h
  omega

variable {ipv4 ipv6 : Bool}

theorem readableProxy_of_valid {p : ProxyV1}
    (h : validateProxy p ipv4 ipv6 = true) : ReadableProxy p := by
  simp only [validateProxy, decide_eq_true_eq] at h
  obtain ⟨hkinds, hcidrMin, hcidrMax, hportMin, hportMax, -, -, -, -, -, -, -, -, -, -, -, hcidrs,
    -⟩ := h
  exact ⟨sortedServiceValues_length hkinds, ⟨hcidrMin, hcidrMax⟩,
    fun cidr hcidr => length_of_isAddress (hcidrs cidr hcidr).1, hportMin, hportMax⟩

/-- What validation says about a probe target, as far as its encoding is concerned. -/
structure ReadableTarget (t : ProbeTargetV1) : Prop where
  address : t.address.length < 2 ^ 63
  methods : t.methods = [1]
  modes : 1 ≤ t.modes.length ∧ t.modes.length ≤ 2

/-- What validation says about probes, as far as their encoding is concerned. -/
structure ReadableProbes (p : ProbesV1) : Prop where
  length : 1 ≤ p.targets.length ∧ p.targets.length ≤ 16
  targets : ∀ t ∈ p.targets, ReadableTarget t

theorem readableProbes_of_valid {p : ProbesV1}
    (h : validateProbes p ipv4 ipv6 = true) : ReadableProbes p := by
  simp only [validateProbes, decide_eq_true_eq] at h
  obtain ⟨hmin, hmax, -, -, -, -, -, -, -, -, -, -, htargets, -⟩ := h
  refine ⟨⟨hmin, hmax⟩, fun t ht => ?_⟩
  obtain ⟨-, haddress, -, -, -, hmethods, hmodes, -⟩ := htargets t ht
  simp only [isPublicServiceAddress, decide_eq_true_eq] at haddress
  exact ⟨length_of_isAddress haddress.1, hmethods, sortedServiceValues_length hmodes⟩

/-- What validation says about an update source, as far as its encoding is concerned. -/
structure ReadableUpdate (u : UpdateV1) : Prop where
  url : ReadableText True u.url
  profileID : ReadableText True u.profileID

theorem readableText_of_ascii {text : Text} {n : ℕ} (hlength : text.length ≤ n)
    (hn : n < 2 ^ 63) (h : ∀ byte ∈ text, byte < 128) : ReadableText True text :=
  ⟨by omega, fun _ => isSome_textOfBytes_of_ascii h⟩

theorem isCanonicalIDByte_ascii {byte : UInt8} (h : isCanonicalIDByte byte = true) :
    byte < 128 := by
  have hall : ∀ n < 256, isCanonicalIDByte (UInt8.ofNat n) = true → n < 128 := by decide +kernel
  refine UInt8.lt_iff_toNat_lt.mpr (hall byte.toNat byte.toNat_lt ?_)
  rwa [UInt8.ofNat_toNat]

theorem readableUpdate_of_valid {parsers : Parsers} {u : UpdateV1}
    (h : validateUpdate parsers u = true) : ReadableUpdate u := by
  simp only [validateUpdate, decide_eq_true_eq] at h
  obtain ⟨hurl, -, hlength, -, -, -, -, -, -, hbytes⟩ := h
  simp only [validUpdateURL, decide_eq_true_eq] at hurl
  obtain ⟨-, hurlLength, hurlBytes, -⟩ := hurl
  refine ⟨readableText_of_ascii hurlLength (by omega) fun byte hbyte => ?_,
    readableText_of_ascii hlength (by decide) fun byte hbyte =>
      isCanonicalIDByte_ascii (hbytes byte hbyte)⟩
  exact UInt8.lt_trans (hurlBytes byte hbyte).2 (by decide)

/-- What validation says about services, as far as their encoding is concerned. -/
structure ReadableServices (s : ServicesV1) : Prop where
  version : s.version = 1
  proxy : ∀ p ∈ s.proxy, ReadableProxy p
  probes : ∀ p ∈ s.probes, ReadableProbes p
  update : ∀ u ∈ s.update, ReadableUpdate u

theorem readableServices_of_valid {libraries : Libraries} {s : ServicesV1}
    (h : validateServices libraries s ipv4 ipv6 = .ok ()) : ReadableServices s := by
  simp only [validateServices, check_ok_iff, ensure_eq_ok] at h
  obtain ⟨⟨hversion, -⟩, hproxy, hprobes, hupdate, -⟩ := h
  exact ⟨hversion, fun p hp => readableProxy_of_valid (hproxy p hp),
    fun p hp => readableProbes_of_valid (hprobes p hp),
    fun u hu => readableUpdate_of_valid (hupdate u hu)⟩

section Services

theorem head_encode_ne_null {item : Item} (h : item ≠ .null) :
    item.encode ≠ [] ∧ item.encode.head? ≠ some 0xf6 ∧ item.encode.head? ≠ some 0xf7 := by
  obtain ⟨first, tail, hfirst, hmajor, hfloat⟩ := item.encode_eq_cons
  have hne : first ≠ 0xf6 ∧ first ≠ 0xf7 := by
    cases item with
    | bool value =>
      obtain rfl := (cons.inj hfirst).1
      cases value <;> decide
    | null => exact absurd rfl h
    | int value =>
      constructor <;> rintro rfl <;> simp only [Item.major] at hmajor <;>
        split_ifs at hmajor <;> revert hmajor <;> decide
    | float value => rcases hfloat value rfl with rfl | rfl | rfl <;> decide
    | bytes _ | text _ | array _ | map _ =>
      constructor <;> rintro rfl <;> revert hmajor <;> simp only [Item.major] <;> decide
  rw [hfirst]
  exact ⟨by simp, by simpa using hne⟩

theorem head_encode (item : Item) : item.encode.head?.map majorType = some item.major := by
  obtain ⟨first, tail, hfirst, hmajor, -⟩ := item.encode_eq_cons
  rw [hfirst, head?_cons, Option.map_some, hmajor]

/-- A destination of a service is filled from an item of its major type. -/
theorem major_of_as {item : Item} {target : Target} {value : target.Value}
    (htarget : (serviceMajor target).isSome) (h : item.as target = some value) :
    serviceMajor target = some item.major := by
  cases target with
  | uint8 | uint16 | uint32 | uint64 =>
    cases item with
    | int number =>
      rw [Item.as] at h
      split_ifs at h with hrange
      simp [serviceMajor, Item.major, hrange.1]
    | text _ | bytes _ | float _ | bool _ | null | array _ | map _ => cases h
  | byteString =>
    cases item with
    | bytes _ => rfl
    | text _ | int _ | float _ | bool _ | null | array _ | map _ => cases h
  | string =>
    cases item with
    | text _ => rfl
    | bytes _ | int _ | float _ | bool _ | null | array _ | map _ => cases h
  | any | byteSlice | int | float64 | bool | rawMessages | strings | byteStrings | rawMap =>
    cases htarget

theorem readsField_serviceField (hlib : lib.Correct strictMode) {target : Target}
    (htarget : (serviceMajor target).isSome) : ReadsField (serviceField lib) target := by
  intro item value hitem hvalue
  have hmajor := major_of_as htarget hvalue
  have hread := readsField_unmarshal hlib target item value hitem hvalue
  have hnonempty : item.encode ≠ [] := by
    obtain ⟨first, tail, hfirst, -⟩ := item.encode_eq_cons
    simp [hfirst]
  rw [serviceField, if_pos ⟨(head_encode item).trans hmajor.symm, hnonempty⟩, hread]

variable (hlib : lib.Correct strictMode)

include hlib

theorem serviceArray_back {write : α → Item} {values : List α} {min max : ℕ}
    (hmin : min ≤ values.length) (hmax : values.length ≤ max) (hsmall : max ≤ 64)
    (h : ∀ value ∈ values, ReadableItem utf8 n (write value)) :
    ReadsBack utf8 (n + 1) (.array (values.map write)) (serviceArray lib · min max)
      ((values.map write).map Item.encode) := by
  have hmajor : (Item.array (values.map write)).encode.head?.map majorType = some 4 := head_encode _
  have hraw := (readsField_unmarshal hlib .rawMessages).rawMessages (by omega) h
  refine ⟨hraw.readable, fun hok => ?_⟩
  rw [serviceArray, if_pos hmajor]
  apply bind_some (hraw.back hok)
  rw [if_pos (by simpa using ⟨hmin, hmax⟩)]

theorem serviceMap_back {items : List Item} {walk : (ℕ → List UInt8) → Option α} {value : α}
    (hlength : items.length ≤ 32) (hnull : ∀ item ∈ items, item ≠ .null)
    (h : FieldsBack utf8 n items (walk (fieldAt items)) value) :
    ReadsBack utf8 (n + 1) (labelled items)
      (fun raw => (serviceMap lib raw items.length).bind walk) value := by
  have hmajor : (labelled items).encode.head?.map majorType = some 5 := head_encode _
  have hraw := rawMap_back hlib hlength h.readable
  refine ⟨hraw.readable, fun hok => bind_some ?_ (h.back ⟨hok.1, by omega⟩)⟩
  rw [serviceMap, if_pos hmajor]
  apply bind_some (hraw.back hok)
  rw [if_pos]
  intro label hlabel
  obtain ⟨hlow, hhigh⟩ := mem_range'_1.mp hlabel
  obtain ⟨position, rfl⟩ : ∃ k, label = k + 1 := ⟨label - 1, by omega⟩
  have hlt : position < items.length := by omega
  rw [fieldAt, getElem?_eq_getElem hlt, Option.map_some, Option.getD_some]
  exact head_encode_ne_null (hnull _ (getElem_mem hlt))

theorem serviceValues_back {values : List UInt8} {max : ℕ} (hmin : 1 ≤ values.length)
    (hmax : values.length ≤ max) (hsmall : max ≤ 64) :
    ReadsBack utf8 (n + 1) (serviceValues values) (decodeServiceValues lib · max) values := by
  have hvalue : ∀ value ∈ values, ReadsBack utf8 n (natItem value.toNat)
      (serviceField lib .uint8) value := fun value _ => (readsField_serviceField hlib rfl).uint8
        value
  exact (serviceArray_back hlib hmin hmax hsmall fun value hmem => (hvalue value
    hmem).readable).bind
    (mapM_back hvalue)

theorem servicePrefix_back {p : PrefixV2} (h : p.address.length < 2 ^ 63) :
    ReadsBack utf8 (n + 1) (prefixMap p) (decodeServicePrefix lib) p := by
  refine serviceMap_back hlib (by simp) (by simp [natItem]) ?_
  refine .cons ((readsField_serviceField hlib rfl).byteString h) ?_
  refine .cons ((readsField_serviceField hlib rfl).uint8 _) ?_
  exact .nil rfl

theorem portRange_back (range : PortRangeV1) :
    ReadsBack utf8 (n + 1) (portRangeMap range) (decodePortRange lib) range := by
  refine serviceMap_back hlib (by simp) (by simp [natItem]) ?_
  refine .cons ((readsField_serviceField hlib rfl).uint16 _) ?_
  refine .cons ((readsField_serviceField hlib rfl).uint16 _) ?_
  exact .nil rfl

theorem proxy_back {p : ProxyV1} (h : ReadableProxy p) :
    ReadsBack utf8 (n + 3) (proxyMap p) (decodeProxy lib) p := by
  have hcidrs : ∀ cidr ∈ p.destinationCIDRs, ReadsBack utf8 (n + 1) (prefixMap cidr)
      (decodeServicePrefix lib) cidr := fun cidr hmem =>
    servicePrefix_back hlib (h.addresses cidr hmem)
  have hports : ∀ range ∈ p.destinationPorts, ReadsBack utf8 (n + 1) (portRangeMap range)
      (decodePortRange lib) range := fun range _ => portRange_back hlib range
  refine serviceMap_back hlib (by simp) (by simp [natItem, uint32Item, serviceValues]) ?_
  refine .cons (serviceValues_back hlib h.addressKinds.1 h.addressKinds.2 (by omega)) ?_
  refine .cons (serviceArray_back hlib h.destinationCIDRs.1 h.destinationCIDRs.2 le_rfl
    fun cidr hmem => (hcidrs cidr hmem).readable) (.step (mapM_back hcidrs) ?_)
  refine .cons (serviceArray_back hlib h.destinationPorts.1 h.destinationPorts.2 (by omega)
    fun range hmem => (hports range hmem).readable) (.step (mapM_back hports) ?_)
  refine .cons ((readsField_serviceField hlib rfl).uint8 _) ?_
  refine .cons ((readsField_serviceField hlib rfl).uint32 _) ?_
  refine .cons ((readsField_serviceField hlib rfl).uint32 _) ?_
  refine .cons ((readsField_serviceField hlib rfl).uint32 _) ?_
  refine .cons ((readsField_serviceField hlib rfl).uint32 _) ?_
  exact .nil rfl

theorem target_back {t : ProbeTargetV1} (h : ReadableTarget t) :
    ReadsBack utf8 (n + 2) (targetMap t) (decodeTarget lib) t := by
  have hmethods : ReadsBack utf8 (n + 1) (serviceValues t.methods) (decodeServiceValues lib · 1)
      t.methods :=
    serviceValues_back hlib (by simp [h.methods]) (by simp [h.methods]) (by omega)
  have hmodes : ReadsBack utf8 (n + 1) (serviceValues t.modes) (decodeServiceValues lib · 2)
      t.modes := serviceValues_back hlib h.modes.1 h.modes.2 (by omega)
  refine serviceMap_back hlib (by simp) (by simp [natItem, uint32Item, serviceValues]) ?_
  refine .cons ((readsField_serviceField hlib rfl).uint16 _) ?_
  refine .cons ((readsField_serviceField hlib rfl).byteString h.address) ?_
  refine .cons ((readsField_serviceField hlib rfl).uint16 _) ?_
  -- The two lists are read after the last field.
  refine .skip hmethods.readable (.skip hmodes.readable ?_)
  refine .cons ((readsField_serviceField hlib rfl).uint32 _) ?_
  exact .step hmethods.back (.step hmodes.back (.nil rfl))

theorem probes_back {p : ProbesV1} (h : ReadableProbes p) :
    ReadsBack utf8 (n + 4) (probesMap p) (decodeProbes lib) p := by
  have htargets : ∀ t ∈ p.targets, ReadsBack utf8 (n + 2) (targetMap t) (decodeTarget lib) t :=
    fun t hmem => target_back hlib (h.targets t hmem)
  refine serviceMap_back hlib (by simp) (by simp [natItem, uint32Item]) ?_
  refine .cons (serviceArray_back hlib h.length.1 h.length.2 (by omega)
    fun t hmem => (htargets t hmem).readable) (.step (mapM_back htargets) ?_)
  refine .cons ((readsField_serviceField hlib rfl).uint8 _) ?_
  refine .cons ((readsField_serviceField hlib rfl).uint8 _) ?_
  refine .cons ((readsField_serviceField hlib rfl).uint32 _) ?_
  refine .cons ((readsField_serviceField hlib rfl).uint8 _) ?_
  refine .cons ((readsField_serviceField hlib rfl).uint32 _) ?_
  exact .nil rfl

theorem update_back {u : UpdateV1} (h : ReadableUpdate u) :
    ReadsBack True (n + 1) (updateMap u) (decodeUpdate lib) u := by
  refine serviceMap_back hlib (by simp) (by simp [uint32Item]) ?_
  refine .cons ((readsField_serviceField hlib rfl).text h.url) ?_
  refine .cons ((readsField_serviceField hlib rfl).text h.profileID) ?_
  refine .cons ((readsField_serviceField hlib rfl).uint32 _) ?_
  refine .cons ((readsField_serviceField hlib rfl).uint32 _) ?_
  refine .cons ((readsField_serviceField hlib rfl).uint32 _) ?_
  exact .nil rfl

theorem optional_back {write : α → Item} {decodeOne : List UInt8 → Option α} {value : Option α}
    (h : ∀ x ∈ value, ReadsBack utf8 n (write x) decodeOne x) :
    ReadsBack utf8 (n + 1) (.array (value.toList.map write)) (decodeOptional lib decodeOne)
      value := by
  refine (serviceArray_back hlib (Nat.zero_le _) (by cases value <;> simp) (by omega)
    fun x hx => (h x (Option.mem_toList.mp hx)).readable).bind fun hok => ?_
  cases value with
  | none => rfl
  | some x =>
    have hx := (h x rfl).back ⟨hok.1, by omega⟩
    simp only [Option.toList_some, map_cons, hx, Option.map_some]

theorem services_back {s : ServicesV1} (h : ReadableServices s) :
    ReadsBack True (n + 6) (servicesMap s) (decodeServicesFields lib) s := by
  refine serviceMap_back hlib (by simp) (by simp [natItem]) ?_
  refine .cons ((readsField_serviceField hlib rfl).uint64 (by rw [h.version]; decide)) ?_
  refine .cons (optional_back hlib fun p hp => proxy_back hlib (h.proxy p hp)) ?_
  refine .cons (optional_back hlib fun p hp => probes_back hlib (h.probes p hp)) ?_
  refine .cons (optional_back hlib fun u hu => update_back hlib (h.update u hu)) ?_
  exact .nil rfl

end Services

/-! ## Valid policies -/

/-- What validation at some time says about a policy, apart from the validity of its
certificate. -/
structure ValidTransport (p : PolicyV2) : Prop where
  wireProtocol : p.wireProtocol = wireProtocolV1
  carrierFamily : p.carrierFamily = carrierFamilyTLS13TCP
  liveProgram : p.liveProgram ≠ [] ∧ p.liveProgram.length ≤ maxLiveProgramBytes
  clientAuthKeyID : keyIDMatches p.clientAuthKeyID p.clientAuthPublic = true
  relayAuthKeyID : relayKeyIDMatches p.relayAuthKeyID p.relayAuthPublic = true
  tlsServerName : ReadableText True p.tlsServerName
  tlsLeafDER : p.tlsLeafDER.length ≤ 4096
  addresses : validateAddresses p = .ok ()
  modes : validateModesAndProtocols p.allowedIPModes p.allowedProtocols
    (sliceBytes p.clientIPv4) (sliceBytes p.clientIPv6) = .ok ()
  limits : ∃ program, validateLimits p.limits program = .ok ()
  fallback : validateFallback p.fallback p.endpoints.length p.limits.maxReconnectAttempts = .ok ()

theorem isLabel_ascii {label : Text} (h : isLabel label = true) : ∀ byte ∈ label, byte < 128 := by
  have hall : ∀ n < 256, isLowerAlphanumeric (UInt8.ofNat n) = true → n < 128 := by decide +kernel
  simp only [isLabel, decide_eq_true_eq] at h
  intro byte hbyte
  rcases h.2.2.2.2 byte hbyte with rfl | hlower
  · decide
  · refine UInt8.lt_iff_toNat_lt.mpr (hall byte.toNat byte.toNat_lt ?_)
    rwa [UInt8.ofNat_toNat]

theorem mem_intercalate {separator byte : UInt8} {parts : List Text}
    (h : byte ∈ [separator].intercalate parts) :
    byte = separator ∨ ∃ part ∈ parts, byte ∈ part := by
  simp only [intercalate, mem_flatten] at h
  obtain ⟨piece, hpiece, hbyte⟩ := h
  induction parts with
  | nil => simp at hpiece
  | cons first rest ih =>
    cases rest with
    | nil => exact .inr ⟨piece, by simpa using hpiece, hbyte⟩
    | cons second rest =>
      rw [intersperse_cons_cons, mem_cons, mem_cons] at hpiece
      rcases hpiece with rfl | rfl | hpiece
      · exact .inr ⟨piece, mem_cons_self, hbyte⟩
      · exact .inl (mem_singleton.mp hbyte)
      · refine (ih hpiece).imp_right ?_
        rintro ⟨part, hpart, hmem⟩
        exact ⟨part, mem_cons_of_mem _ hpart, hmem⟩

theorem ascii_of_splitOn {text : Text} {separator : UInt8} (hseparator : separator < 128)
    (h : ∀ part ∈ text.splitOn separator, ∀ byte ∈ part, byte < 128) :
    ∀ byte ∈ text, byte < 128 := by
  intro byte hbyte
  have hjoin : [separator].intercalate (text.splitOn separator) = text :=
    intercalate_splitOn separator
  rw [← hjoin] at hbyte
  rcases mem_intercalate hbyte with rfl | ⟨part, hpart, hmem⟩
  · exact hseparator
  · exact h part hpart byte hmem

theorem readableText_serverName {parsers : Parsers} {name : Text}
    (h : validServerName parsers name = true) : ReadableText True name := by
  simp only [validServerName, Bool.and_eq_true, decide_eq_true_eq] at h
  obtain ⟨⟨-, hlength⟩, h⟩ := h
  refine readableText_of_ascii hlength (by omega) ?_
  cases hip : parsers.ip name with
  | some canonical => exact parsers.ip_ascii name (by simp [hip])
  | none =>
    simp only [hip, decide_eq_true_eq] at h
    exact ascii_of_splitOn (by decide) fun label hlabel => isLabel_ascii (h.2 label hlabel)

theorem validTransport_of_valid {libraries : Libraries} {p : PolicyV2} {now : Instant}
    {program : ProgramV1} (h : validateCommonPolicyAt libraries p now = .ok program) :
    ValidTransport p := by
  simp only [validateCommonPolicyAt, bind_ok_iff, ensure_ok_iff] at h
  obtain ⟨_, -, _, hprotocol, decoded, hprogram, _, hkeys, _, htls, _, haddresses, _, -, _, hmodes,
    _, hlimits, _, hfallback, -⟩ := h
  simp only [validateLiveProgram, check_ok_iff, ensure_eq_ok] at hprogram
  simp only [validateTLSAt, check_ok_iff, ensure_eq_ok] at htls
  exact ⟨hprotocol.1, hprotocol.2, ⟨hprogram.1.1, hprogram.1.2.1⟩, hkeys.2.2.1, hkeys.2.2.2,
    readableText_serverName htls.1.1, htls.1.2.2.1, haddresses, hmodes, ⟨decoded, hlimits⟩,
    hfallback⟩

end Kurdistan.Product
