import Kurdistan.Product.PlanNarrowing

/-!
# Reading a preface back

Every valid preface whose content identifier is UTF-8 is encoded, and the decoder returns
it, for every correct library.
-/

namespace Kurdistan.Product

open Support Support.Cbor PayloadProtocolV2
open Protocol hiding hexEncode

/-! ## Items of a preface -/

/-- The item has an encoding of at most `size` bytes, which the decoder takes within `n`
nested levels. -/
structure AdmissionItem (n size : ℕ) (item : Item) : Prop where
  encodable : item.Encodable
  admissible : item.Forall (AdmissibleNode admissionMode)
  depth : item.depth ≤ n
  length : item.encode.length ≤ size

theorem length_head_le (major argument : ℕ) : (head major argument).length ≤ 9 := by
  unfold head
  split_ifs <;> simp

variable {lib : Library} {n size : ℕ} {item : Item} {items : List Item}

/-- The item can be written, and the reader takes the value back from its encoding. -/
abbrev AdmissionBack {α : Type} (n size : ℕ) : Item → (List UInt8 → Option α) → α → Prop :=
  ItemBack (AdmissionItem n size) (n ≤ 8)

theorem AdmissionItem.read (h : AdmissionItem n size item) (hlib : lib.Correct admissionMode)
    {target : Target} {value : target.Value} (hvalue : item.as target = some value) :
    AdmissionBack n size item (lib.unmarshal target) value :=
  ⟨h, fun hn => hlib.unmarshal_eq target h.encodable ⟨h.depth.trans hn, h.admissible⟩ hvalue⟩

theorem admission_bytes {value : List UInt8} (h : value.length + 9 ≤ size) (hsize : size < 2 ^ 63) :
    AdmissionItem n size (.bytes value) := by
  have hhead := length_head_le 2 value.length
  refine ⟨show value.length < 2 ^ 64 by omega, trivial, n.zero_le, ?_⟩
  rw [Item.encode, List.length_append]
  omega

theorem admission_text {value : List UInt8} (h : value.length + 9 ≤ size) (hsize : size < 2 ^ 63)
    (hutf8 : (textOfBytes value).isSome) : AdmissionItem n size (.text value) := by
  have hhead := length_head_le 3 value.length
  refine ⟨show value.length < 2 ^ 64 by omega, hutf8, n.zero_le, ?_⟩
  rw [Item.encode, List.length_append]
  omega

theorem admission_nat {value : ℕ} (h : value < 2 ^ 64) (hsize : 9 ≤ size) :
    AdmissionItem n size (natItem value) := by
  refine ⟨show -2 ^ 64 ≤ (value : Int) ∧ (value : Int) < 2 ^ 64 by omega,
    show -2 ^ 63 ≤ (value : Int) by omega, n.zero_le, ?_⟩
  exact (length_head_le _ _).trans hsize

theorem admission_choice {α : Type} {lexicon : Lexicon α} {choice : Choice α}
    (h : choice.isKnown = true) (hlow : 73 ≤ size) (hsize : size < 2 ^ 63) :
    AdmissionItem n size (choiceItem lexicon choice) := by
  have hlength := lexicon.length_text_le h
  exact admission_text (by omega) hsize (by simp)

theorem length_encodeItems_le (h : ∀ item ∈ items, item.encode.length ≤ size) :
    (encodeItems items).length ≤ items.length * size := by
  induction items with
  | nil => simp [encodeItems]
  | cons item rest ih =>
    have hfirst := h item List.mem_cons_self
    have hrest := ih fun other hother => h other (List.mem_cons_of_mem _ hother)
    rw [encodeItems, List.length_append, List.length_cons, Nat.succ_mul]
    omega

theorem admission_array (inner : ℕ) {bound : ℕ} (hlength : items.length ≤ bound)
    (hbound : bound ≤ 32) (hsize : 9 + bound * inner ≤ size)
    (h : ∀ item ∈ items, AdmissionItem n inner item) :
    AdmissionItem (n + 1) size (.array items) := by
  refine ⟨⟨show items.length < 2 ^ 64 by omega, ?_⟩, ⟨show items.length ≤ 32 by omega, ?_⟩, ?_, ?_⟩
  · exact forallItems_iff.mpr fun item hitem => (h item hitem).encodable
  · exact forallItems_iff.mpr fun item hitem => (h item hitem).admissible
  · exact Nat.succ_le_succ (depthItems_le_iff.mpr fun item hitem => (h item hitem).depth)
  · have hhead := length_head_le 4 items.length
    have hitems := length_encodeItems_le fun item hitem => (h item hitem).length
    have hmul : items.length * inner ≤ bound * inner := Nat.mul_le_mul_right _ hlength
    rw [Item.encode, List.length_append]
    omega

theorem admission_map {α : Type} {write : α → Item} {values : List α} (inner : ℕ) {bound : ℕ}
    (hlength : values.length ≤ bound) (hbound : bound ≤ 32) (hsize : 9 + bound * inner ≤ size)
    (h : ∀ value ∈ values, AdmissionItem n inner (write value)) :
    AdmissionItem (n + 1) size (.array (values.map write)) := by
  refine admission_array inner (by rwa [List.length_map]) hbound hsize fun item hitem => ?_
  obtain ⟨value, hvalue, rfl⟩ := List.mem_map.mp hitem
  exact h value hvalue

section Read

variable (hlib : lib.Correct admissionMode)

include hlib

theorem text_back {value : List UInt8} (h : value.length + 9 ≤ size) (hsize : size < 2 ^ 63)
    (hutf8 : (textOfBytes value).isSome) :
    AdmissionBack n size (.text value) (decodeText lib.unmarshal) value := by
  obtain ⟨text, htext⟩ := Option.isSome_iff_exists.mp hutf8
  have hread := (admission_text (n := n) h hsize hutf8).read hlib
    (show (Item.text value).as .string = some text from htext)
  refine ⟨hread.readable, fun hn => ?_⟩
  rw [decodeText, hread.back hn, Option.map_some, textOfBytes_eq_some.mp htext]

theorem fixedBytes_back (hlow : 41 ≤ size) (hsize : size < 2 ^ 63) (value : FixedBytes 32) :
    AdmissionBack n size (.bytes value.toList) (decodeFixedBytes lib.unmarshal 32) value := by
  have hlength : value.toList.length = 32 := value.toList_length
  refine ((admission_bytes (by omega) hsize).read hlib rfl).bind fun _ => ?_
  rw [if_pos hlength, fixedBytes_toList]

/-- An array reads back when its elements do. -/
theorem rawArray_back {α : Type} {walk : (ℕ → List UInt8) → Option α} {value : α} (inner : ℕ)
    (hlength : items.length ≤ 32) (hsize : 9 + items.length * inner ≤ size)
    (h : WalkBack (AdmissionItem n inner) (n ≤ 8) items
      (walk fun index => (items.map Item.encode).getD index []) value) :
    AdmissionBack (n + 1) size (.array items)
      (fun raw => (rawArray lib raw items.length).bind walk) value := by
  have hread := (admission_array inner le_rfl hlength hsize h.readable).read hlib
    (show (Item.array items).as .rawMessages = _ from rfl)
  refine ⟨hread.readable, fun hn => bind_some ?_ (h.back (by omega))⟩
  apply bind_some (hread.back hn)
  exact guard_bind_eq_some.mpr ⟨List.length_map _, rfl⟩

end Read

/-! ## The fields -/

/-- What validation says about a preface, as far as its encoding is concerned. -/
structure ReadablePreface (preface : RelayAdmissionPrefaceV1) : Prop where
  version : preface.version = relayAdmissionPrefaceVersionV1
  contentID : preface.profileContentID.length ≤ 128
  contentText : (textOfBytes preface.profileContentID).isSome
  strategyID : preface.requested.strategyID = supportedStrategyTLS13TCP
  indexes : preface.requested.endpointIndexes.length ≤ 4
  ipMode : preface.requested.ipMode.isKnown = true
  routeCount : preface.requested.routes.length ≤ 2
  routes : ∀ route ∈ preface.requested.routes, route.address.length ≤ 16
  serverCount : preface.requested.dnsServers.length ≤ 2
  servers : ∀ server ∈ preface.requested.dnsServers, server.length ≤ 16
  protocolCount : preface.requested.payloadProtocols.length ≤ 4
  protocols : ∀ protocol ∈ preface.requested.payloadProtocols, protocol.isKnown = true

theorem readablePreface_of_valid {preface : RelayAdmissionPrefaceV1}
    (h : validateRelayAdmissionPrefaceV1 preface = true)
    (htext : (textOfBytes preface.profileContentID).isSome) : ReadablePreface preface := by
  rw [validateRelayAdmissionPrefaceV1, decide_eq_true_eq] at h
  obtain ⟨⟨hversion, hcontent, -, -, -, hstrategy, -, hindexes, -, hmode, -, hroutes, -, hservers,
    -, -, hprotocols, -⟩, hroute, hserver, hprotocol, -⟩ := h
  simp only [boundedV2, decide_eq_true_eq] at hcontent
  have haddress : ∀ {address : List UInt8}, isAddress address = true → address.length ≤ 16 := by
    intro address haddress
    simp only [isAddress, decide_eq_true_eq] at haddress
    omega
  exact ⟨hversion, hcontent.2, htext, hstrategy, hindexes, hmode, hroutes,
    fun route hmem => haddress (hroute route hmem), hservers,
    fun server hmem => haddress (hserver server hmem), hprotocols, hprotocol⟩

theorem length_version : relayAdmissionPrefaceVersionV1.length = 31 ∧
    supportedStrategyTLS13TCP.length = 23 := by
  decide

set_option maxRecDepth 4000 in
theorem isSome_version : (textOfBytes relayAdmissionPrefaceVersionV1).isSome ∧
    (textOfBytes supportedStrategyTLS13TCP).isSome :=
  ⟨isSome_textOfBytes_of_ascii (by decide), isSome_textOfBytes_of_ascii (by decide)⟩

theorem route_back (hlib : lib.Correct admissionMode) {route : PrefixV2}
    (h : route.address.length ≤ 16) :
    AdmissionBack (n + 1) 59 (relayAdmissionPrefixWireV1 route) (decodeAdmissionPrefix lib)
      route := by
  have hlen := route.prefixLen.toNat_lt
  refine rawArray_back hlib 25 (by simp) (by simp) ?_
  refine .cons ((admission_bytes (by omega) (by omega)).read hlib rfl) ?_
  refine .cons ((admission_nat (by omega) (by omega)).read hlib (as_uint8 _)) ?_
  exact .nil rfl

/-- The walk over the fields of an encoded preface returns the preface. -/
theorem preface_back (hlib : lib.Correct admissionMode) {preface : RelayAdmissionPrefaceV1}
    (h : ReadablePreface preface) :
    AdmissionBack 3 8192 (relayAdmissionPrefaceToWireV1 preface)
      (relayAdmissionPrefaceFromWireV1 lib) preface := by
  have hgeneration := preface.profileGeneration.toNat_lt
  have hmtu := preface.requested.mtu.toNat_lt
  have hqueue := preface.requested.maxQueuePackets.toNat_lt
  have hops := preface.requested.maxIncompleteOps.toNat_lt
  have hattempts := preface.requested.maxReconnectAttempts.toNat_lt
  have hcontent := h.contentID
  have hindexes := h.indexes
  have hroutes : ∀ route ∈ preface.requested.routes, AdmissionBack 1 59
      (relayAdmissionPrefixWireV1 route) (decodeAdmissionPrefix lib) route := fun route hmem =>
    route_back hlib (h.routes route hmem)
  have hservers : ∀ server ∈ preface.requested.dnsServers, AdmissionItem 1 25 (.bytes server) :=
    fun server hmem => admission_bytes (by have := h.servers server hmem; omega) (by omega)
  have hwords : (Item.array (preface.requested.payloadProtocols.map
      (choiceItem lexicon))).as .strings =
        some (preface.requested.payloadProtocols.map fun protocol =>
          protocol.text lexicon.word) := by
    rw [← mapM_text_textItem, List.map_map]
    rfl
  have hprotocols : (preface.requested.payloadProtocols.map fun protocol =>
      protocol.text lexicon.word).map lexicon.ofText =
        preface.requested.payloadProtocols := by
    rw [List.map_map]
    refine (List.map_congr_left fun protocol hprotocol => ?_).trans (List.map_id _)
    exact lexicon.ofText_text (h.protocols protocol hprotocol)
  refine rawArray_back hlib 500 (by simp) (by simp) ?_
  refine .cons (text_back hlib (by rw [h.version, length_version.1]; omega) (by omega)
    (by rw [h.version]; exact isSome_version.1)) ?_
  refine .cons (text_back hlib (by omega) (by omega) h.contentText) ?_
  refine .cons ((admission_nat hgeneration (by omega)).read hlib (as_uint64 _)) ?_
  refine .cons (fixedBytes_back hlib (by omega) (by omega) _) ?_
  refine .cons (fixedBytes_back hlib (by omega) (by omega) _) ?_
  refine .cons (text_back hlib (by rw [h.strategyID, length_version.2]; omega) (by omega)
    (by rw [h.strategyID]; exact isSome_version.2)) ?_
  refine .cons ((admission_bytes (by omega) (by omega)).read hlib rfl) ?_
  refine .cons ((admission_choice h.ipMode (by omega) (by omega)).read hlib
    (textOfBytes_utf8Bytes _)) ?_
  refine .cons ((admission_map 59 h.routeCount (by omega) (by omega) fun route hmem =>
    (hroutes route hmem).readable).read hlib rfl) ?_
  refine .step (fun _ => mapM_encode fun route hmem => (hroutes route hmem).back (by omega)) ?_
  refine .cons ((admission_map 25 h.serverCount (by omega) (by omega) hservers).read hlib
    (as_byteStrings _)) ?_
  refine .cons ((admission_nat (by omega) (by omega)).read hlib (as_uint16 _)) ?_
  refine .cons ((admission_map 73 h.protocolCount (by omega) (by omega) fun protocol hmem =>
    admission_choice (h.protocols protocol hmem) (by omega) (by omega)).read hlib hwords) ?_
  refine .cons ((admission_nat (by omega) (by omega)).read hlib (as_uint16 _)) ?_
  refine .cons ((admission_nat (by omega) (by omega)).read hlib (as_uint16 _)) ?_
  refine .cons ((admission_nat (by omega) (by omega)).read hlib (as_uint8 _)) ?_
  have hflag : AdmissionItem 2 500 (.bool preface.requested.allowLAN) :=
    ⟨trivial, trivial, Nat.zero_le _, by simp [Item.encode]⟩
  refine .cons (hflag.read hlib rfl) ?_
  refine .nil ?_
  simp only [Option.pure_def, hprotocols, IPModeV2.lexicon.ofText_text h.ipMode]

/-! ## Round trip -/

section RoundTrip

variable {preface : RelayAdmissionPrefaceV1} (hlib : lib.Correct admissionMode)
  (hvalid : validateRelayAdmissionPrefaceV1 preface = true)
  (htext : (textOfBytes preface.profileContentID).isSome)

include hlib hvalid htext

theorem encodeRelayAdmissionPrefaceV1_eq :
    encodeRelayAdmissionPrefaceV1 lib preface =
      some (relayAdmissionPrefaceToWireV1 preface).encode := by
  have hitem := (preface_back hlib (readablePreface_of_valid hvalid htext)).readable
  apply guard_bind_eq_some.mpr ⟨hvalid, ?_⟩
  apply bind_some (hlib.marshal_eq hitem.encodable)
  exact guard_bind_eq_some.mpr ⟨⟨encode_ne_nil _, hitem.length⟩, rfl⟩

theorem decodeRelayAdmissionPrefaceV1_encode :
    decodeRelayAdmissionPrefaceV1 lib (relayAdmissionPrefaceToWireV1 preface).encode =
      some preface := by
  have hback := preface_back hlib (readablePreface_of_valid hvalid htext)
  have hencode := encodeRelayAdmissionPrefaceV1_eq hlib hvalid htext
  apply guard_bind_eq_some.mpr ⟨⟨encode_ne_nil _, hback.readable.length⟩, ?_⟩
  apply bind_some (hback.back (by omega))
  exact guard_bind_eq_some.mpr ⟨hvalid, guard_bind_eq_some.mpr ⟨hencode, rfl⟩⟩

/-- A preface in front of a stream is read back, with the rest of the stream. -/
theorem readRelayAdmissionPrefaceV1_write (rest : List UInt8) :
    ∃ written, writeRelayAdmissionPrefaceV1 lib preface = some written ∧
      readRelayAdmissionPrefaceV1 lib (written ++ rest) = some (preface, rest) := by
  have hsize := (preface_back hlib (readablePreface_of_valid hvalid htext)).readable.length
  refine ⟨lengthPrefixed (relayAdmissionPrefaceToWireV1 preface).encode, ?_, ?_⟩
  · rw [writeRelayAdmissionPrefaceV1, encodeRelayAdmissionPrefaceV1_eq hlib hvalid htext]
    rfl
  · apply bind_some ((readPrefixed_eq_some (by decide)).mpr ⟨rfl, hsize⟩)
    apply bind_some (decodeRelayAdmissionPrefaceV1_encode hlib hvalid htext)
    rfl

end RoundTrip

end Kurdistan.Product
