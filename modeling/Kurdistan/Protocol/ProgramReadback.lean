import Kurdistan.Framing.ValidSpec
import Kurdistan.Protocol.ProgramFields

/-!
# Reading an encoded program back

The walk over the fields of an encoded live program returns the program, for every
valid program whose texts are UTF-8 and every field decoder which reads the items
of a correct library back. `ReadsBack` joins an item with its reader; a map reads back
when its fields do, in the order in which the walk takes them.
-/

namespace Kurdistan.Protocol

open Support Support.Cbor Security List

/-! ## Items a correct library reads back -/

/-- The item has an encoding, at most `n` nested levels, and the strict decoder
accepts it if `utf8` holds, which says that all texts are UTF-8. -/
structure ReadableItem (utf8 : Prop) (n : ℕ) (item : Item) : Prop where
  encodable : item.Encodable
  admissible : utf8 → item.Forall (AdmissibleNode strictMode)
  depth : item.depth ≤ n

/-- A text which a Go string can hold. -/
def ReadableText (utf8 : Prop) (bytes : List UInt8) : Prop :=
  bytes.length < 2 ^ 63 ∧ (utf8 → (textOfBytes bytes).isSome)

/-- The values of a Go `int`. -/
abbrev IsInt64 (value : Int) : Prop := -2 ^ 63 ≤ value ∧ value < 2 ^ 63

variable {utf8 : Prop} {n : ℕ} {items : List Item}

theorem readable_array (hlength : items.length ≤ 64)
    (h : ∀ item ∈ items, ReadableItem utf8 n item) : ReadableItem utf8 (n + 1) (.array items) := by
  refine ⟨⟨show items.length < 2 ^ 64 by omega, ?_⟩, fun hutf8 => ⟨hlength, ?_⟩, ?_⟩
  · exact forallItems_iff.mpr fun item hitem => (h item hitem).encodable
  · exact forallItems_iff.mpr fun item hitem => (h item hitem).admissible hutf8
  · exact Nat.succ_le_succ (depthItems_le_iff.mpr fun item hitem => (h item hitem).depth)

theorem mem_labelled {entry : ℕ × Item} (h : entry ∈ (items.zipIdx 1).map Prod.swap) :
    entry.2 ∈ items ∧ entry.1 ≤ items.length := by
  obtain ⟨⟨item, label⟩, hmem, rfl⟩ := mem_map.mp h
  obtain ⟨hlow, hhigh, hitem⟩ := mem_zipIdx hmem
  exact ⟨hitem ▸ getElem_mem _, show label ≤ items.length by omega⟩

theorem labels_labelled (items : List Item) :
    ((items.zipIdx 1).map Prod.swap).map Prod.fst = range' 1 items.length := by
  rw [map_map, ← zipIdx_map_snd 1 items]
  rfl

theorem readable_labelled (hlength : items.length ≤ 32)
    (h : ∀ item ∈ items, ReadableItem utf8 n item) :
    ReadableItem utf8 (n + 1) (labelled items) := by
  have hentry : ∀ entry ∈ (items.zipIdx 1).map Prod.swap,
      ReadableItem utf8 n entry.2 := fun entry hentry => h _ (mem_labelled hentry).1
  have hsize : ((items.zipIdx 1).map Prod.swap).length = items.length := by simp
  refine ⟨⟨⟨show _ < _ by rw [hsize]; omega, ?_, ?_⟩, ?_⟩, fun hutf8 => ⟨hsize.trans_le hlength,
    ?_⟩, ?_⟩
  · intro entry hmem
    have := (mem_labelled hmem).2
    omega
  · rw [labels_labelled]
    exact pairwise_lt_range'
  · exact forallEntries_iff.mpr fun entry hmem => (hentry entry hmem).encodable
  · exact forallEntries_iff.mpr fun entry hmem => (hentry entry hmem).admissible hutf8
  · exact Nat.succ_le_succ (depthEntries_le_iff.mpr fun entry hmem => (hentry entry hmem).depth)

/-! ## Reading a field back -/

/-- The decoder fills a destination of the type from every readable item. -/
def ReadsField (decode : FieldDecoder) (target : Target) : Prop :=
  ∀ (item : Item) (value : target.Value), ReadableItem True 32 item →
    item.as target = some value → decode target item.encode = some value

/-- The types of the destinations which the walk over a program fills. -/
def programTargets : List Target :=
  [.byteString, .string, .uint32, .int, .float64, .rawMessages, .strings]

/-- A field decoder which reads the fields of every readable item. -/
structure Reads (lib : Library) (decode : FieldDecoder) : Prop where
  correct : lib.Correct strictMode
  field : ∀ target ∈ programTargets, ReadsField decode target

/-- The fields of an encoded map. -/
def fieldAt (items : List Item) : ℕ → List UInt8
  | 0 => []
  | n + 1 => ((items[n]?).map Item.encode).getD []

theorem lookup_zipIdx_lt (items : List Item) {first label : ℕ} (h : label < first) :
    (((items.zipIdx first).map Prod.swap).map fun entry =>
      (entry.1, entry.2.encode)).lookup label = none := by
  induction items generalizing first with
  | nil => rfl
  | cons item rest ih =>
    simp only [zipIdx_cons, map_cons, Prod.swap_prod_mk, lookup_cons]
    rw [beq_eq_false_iff_ne.mpr h.ne]
    exact ih (by omega)

theorem lookup_labelled (items : List Item) (first : ℕ) {label : ℕ} (h : first ≤ label) :
    (((items.zipIdx first).map Prod.swap).map fun entry =>
      (entry.1, entry.2.encode)).lookup label = (items[label - first]?).map Item.encode := by
  induction items generalizing first with
  | nil => rfl
  | cons item rest ih =>
    simp only [zipIdx_cons, map_cons, Prod.swap_prod_mk, lookup_cons]
    by_cases heq : label = first
    · simp [heq]
    · have hsub : label - first = label - (first + 1) + 1 := by omega
      rw [beq_eq_false_iff_ne.mpr heq, hsub, getElem?_cons_succ]
      exact ih (first + 1) (by omega)

theorem rawMap_labelled {lib : Library} (hlib : lib.Correct strictMode)
    (h : ReadableItem True 32 (labelled items)) :
    rawMap lib (labelled items).encode items.length = some (fieldAt items) := by
  have hread := hlib.unmarshal_eq .rawMap h.encodable ⟨h.depth, h.admissible trivial⟩ rfl
  have hlabels := labels_labelled items
  simp only [rawMap, hread, Option.bind_eq_bind, Option.bind_some]
  rw [if_pos]
  · congr 1
    funext label
    cases label with
    | zero => rw [lookup_zipIdx_lt items (by omega)]; rfl
    | succ n => rw [lookup_labelled items 1 (by omega)]; rfl
  · refine ⟨by simp, fun label hlabel => ?_⟩
    rw [← hlabels] at hlabel
    simpa using hlabel

/-- The item can be written, and the reader takes the value back from its encoding. -/
abbrev ReadsBack {α : Type} (utf8 : Prop) (n : ℕ) :
    Item → (List UInt8 → Option α) → α → Prop :=
  ItemBack (ReadableItem utf8 n) (utf8 ∧ n ≤ 32)

/-- The items can be written, and the walk over their encodings returns the value. -/
abbrev FieldsBack {α : Type} (utf8 : Prop) (n : ℕ) : List Item → Option α → α → Prop :=
  WalkBack (ReadableItem utf8 n) (utf8 ∧ n ≤ 32)

variable {lib : Library} {decode : FieldDecoder}

theorem rawMap_back (hlib : lib.Correct strictMode) (hlength : items.length ≤ 32)
    (h : ∀ item ∈ items, ReadableItem utf8 n item) :
    ReadsBack utf8 (n + 1) (labelled items) (rawMap lib · items.length) (fieldAt items) := by
  have hread := readable_labelled hlength h
  exact ⟨hread, fun hok => rawMap_labelled hlib ⟨hread.encodable,
    fun _ => hread.admissible hok.1, hread.depth.trans hok.2⟩⟩

/-- A map reads back when its fields do. -/
theorem ReadsBack.labelled {α : Type} {walk : (ℕ → List UInt8) → Option α} {value : α}
    (hlib : lib.Correct strictMode) (hlength : items.length ≤ 32)
    (h : FieldsBack utf8 n items (walk (fieldAt items)) value) :
    ReadsBack utf8 (n + 1) (Protocol.labelled items)
      (fun raw => (rawMap lib raw items.length).bind walk) value :=
  (rawMap_back hlib hlength h.readable).bind fun hok => h.back ⟨hok.1, by omega⟩

/-- A list reads back when its elements do. -/
theorem mapM_back {α : Type} {write : α → Item} {reader : List UInt8 → Option α}
    {values : List α} (h : ∀ value ∈ values, ReadsBack utf8 n (write value) reader value)
    (hok : utf8 ∧ n + 1 ≤ 32) :
    ((values.map write).map Item.encode).mapM reader = some values :=
  mapM_encode fun value hvalue => (h value hvalue).back ⟨hok.1, by omega⟩

theorem mapM_text_textItem (values : List String) :
    (values.map textItem).mapM Item.text? = some values := by
  induction values with
  | nil => rfl
  | cons value rest ih => simp [textItem, Item.text?, ih]

theorem readable_text {bytes : List UInt8} (h : ReadableText utf8 bytes) :
    ReadableItem utf8 n (.text bytes) :=
  ⟨show bytes.length < 2 ^ 64 by have := h.1; omega, h.2, n.zero_le⟩

theorem readable_nat {value : ℕ} (h : value < 2 ^ 63) : ReadableItem utf8 n (.int value) :=
  ⟨show -2 ^ 64 ≤ (value : Int) ∧ (value : Int) < 2 ^ 64 by omega,
    fun _ => show -2 ^ 63 ≤ (value : Int) by omega, n.zero_le⟩

theorem readable_bytes {bytes : List UInt8} (h : bytes.length < 2 ^ 63) :
    ReadableItem utf8 n (.bytes bytes) :=
  ⟨show bytes.length < 2 ^ 64 by omega, fun _ => trivial, n.zero_le⟩

theorem readable_map {α : Type} {write : α → Item} {values : List α}
    (hlength : values.length ≤ 64) (h : ∀ value ∈ values, ReadableItem utf8 n (write value)) :
    ReadableItem utf8 (n + 1) (.array (values.map write)) := by
  refine readable_array (by rwa [length_map]) fun item hitem => ?_
  obtain ⟨value, hvalue, rfl⟩ := mem_map.mp hitem
  exact h value hvalue

namespace ReadsField

theorem back {target : Target} {item : Item} {value : target.Value}
    (hd : ReadsField decode target) (h : ReadableItem utf8 n item)
    (hvalue : utf8 → item.as target = some value) :
    ReadsBack utf8 n item (decode target) value :=
  ⟨h, fun hok => hd _ _ ⟨h.encodable, fun _ => h.admissible hok.1, h.depth.trans hok.2⟩
    (hvalue hok.1)⟩

theorem string (hd : ReadsField decode .string) {text : String}
    (h : (utf8Bytes text).length < 2 ^ 63) :
    ReadsBack utf8 n (textItem text) (decode .string) text :=
  hd.back (readable_text ⟨h, fun _ => by simp⟩) fun _ => textOfBytes_utf8Bytes text

theorem text (hd : ReadsField decode .string) {bytes : List UInt8} (h : ReadableText utf8 bytes) :
    ReadsBack utf8 n (.text bytes) (decodeText decode) bytes := by
  refine ⟨readable_text h, fun hok => ?_⟩
  obtain ⟨text, htext⟩ := Option.isSome_iff_exists.mp (h.2 hok.1)
  have hread := (hd.back (readable_text h) fun _ => htext).back hok
  rw [decodeText, hread, Option.map_some, textOfBytes_eq_some.mp htext]

theorem choice (hd : ReadsField decode .string) {α : Type} (lexicon : Lexicon α)
    {choice : Choice α} (h : choice.isKnown = true) :
    ReadsBack utf8 n (choiceItem lexicon choice) (decodeChoice decode lexicon) choice := by
  have hshort := lexicon.length_text_le h
  have hread : ReadsBack utf8 n (choiceItem lexicon choice) (decode .string)
      (choice.text lexicon.word) := hd.string (by omega)
  refine ⟨hread.readable, fun hok => ?_⟩
  rw [decodeChoice, hread.back hok, Option.map_some, lexicon.ofText_text h]

theorem int (hd : ReadsField decode .int) {value : Int} (h : IsInt64 value) :
    ReadsBack utf8 n (.int value) (decode .int) value :=
  hd.back ⟨show -2 ^ 64 ≤ value ∧ value < 2 ^ 64 by omega, fun _ => h.1, n.zero_le⟩
    fun _ => if_pos h

theorem uint32 (hd : ReadsField decode .uint32) (value : UInt32) :
    ReadsBack utf8 n (uint32Item value) (decode .uint32) value := by
  have hlt := value.toNat_lt
  refine hd.back (readable_nat (by omega)) fun _ => ?_
  rw [uint32Item, Item.as, if_pos (by omega)]
  simp

theorem byteString (hd : ReadsField decode .byteString) {bytes : List UInt8}
    (h : bytes.length < 2 ^ 63) : ReadsBack utf8 n (.bytes bytes) (decode .byteString) bytes :=
  hd.back (readable_bytes h) fun _ => rfl

theorem fixedBytes (hd : ReadsField decode .byteString) {m : ℕ} (hm : m < 2 ^ 63)
    (value : FixedBytes m) :
    ReadsBack utf8 n (.bytes value.toList) (decodeFixedBytes decode m) value := by
  have hlength : value.toList.length = m := value.toList_length
  refine (hd.byteString (by omega)).bind fun _ => ?_
  rw [if_pos hlength, fixedBytes_toList]

theorem float64 (hd : ReadsField decode .float64) {value : Float64} (h : value.IsDouble) :
    ReadsBack utf8 n (.float value) (decode .float64) value :=
  hd.back ⟨h, fun _ => trivial, n.zero_le⟩ fun _ => rfl

theorem strings (hd : ReadsField decode .strings) {values : List String}
    (hlength : values.length ≤ 64) (h : ∀ value ∈ values, (utf8Bytes value).length < 2 ^ 63) :
    ReadsBack utf8 (n + 1) (capabilityItems values) (decode .strings) values :=
  hd.back (readable_map hlength fun value hvalue => readable_text ⟨h value hvalue,
    fun _ => by simp⟩)
    fun _ => mapM_text_textItem values

theorem rawMessages {α : Type} {write : α → Item} {values : List α}
    (hd : ReadsField decode .rawMessages) (hlength : values.length ≤ 64)
    (h : ∀ value ∈ values, ReadableItem utf8 n (write value)) :
    ReadsBack utf8 (n + 1) (.array (values.map write)) (decode .rawMessages)
      ((values.map write).map Item.encode) :=
  hd.back (readable_map hlength h) fun _ => rfl

/-- A list which is read element by element if the number of its elements is right. -/
theorem list {α : Type} {write : α → Item} {reader : List UInt8 → Option α} {values : List α}
    (hd : ReadsField decode .rawMessages) {right : List (List UInt8) → Prop} [DecidablePred right]
    (hlength : values.length ≤ 64)
    (h : ∀ value ∈ values, ReadsBack utf8 n (write value) reader value)
    (hright : right ((values.map write).map Item.encode)) :
    ReadsBack utf8 (n + 1) (.array (values.map write)) (fun raw =>
      (decode .rawMessages raw).bind fun raws => if right raws then raws.mapM reader else none)
      values := by
  refine (hd.rawMessages hlength fun value hmem => (h value hmem).readable).bind fun hok => ?_
  rw [if_pos hright]
  exact mapM_back h hok

end ReadsField

theorem Reads.on (hd : Reads lib decode) (target : Target)
    (h : decide (target ∈ programTargets) = true) : ReadsField decode target :=
  hd.field target (of_decide_eq_true h)

/-! ## Sections of a program -/

section Messages

theorem validateMessagesV1_mem {maxPayloadBytes : Int} {seenWire : List (List UInt8)}
    {messages : List MessageV1}
    (h : validateMessagesV1 maxPayloadBytes seenWire messages = .ok ()) :
    ∀ message ∈ messages, isSafeWireSymbolV1 message.wireSymbol = true ∧
      message.direction = "bidirectional" ∧ 0 ≤ message.minPayloadBytes ∧
      message.minPayloadBytes ≤ message.maxPayloadBytes ∧
      message.maxPayloadBytes ≤ maxPayloadBytes := by
  induction messages generalizing seenWire with
  | nil => simp
  | cons message rest ih =>
    rw [validateMessagesV1, check_ok_iff, check_ok_iff, ensure_eq_ok] at h
    obtain ⟨hfirst, -, hrest⟩ := h
    exact forall_mem_cons.mpr ⟨hfirst, ih hrest⟩

theorem readableText_of_safe {symbol : List UInt8} (h : isSafeWireSymbolV1 symbol = true) :
    ReadableText utf8 symbol := by
  simp only [isSafeWireSymbolV1, safeToken, decide_eq_true_eq] at h
  obtain ⟨-, hlength, -, htoken⟩ := h
  refine ⟨by omega, fun _ => isSome_textOfBytes_of_ascii fun byte hbyte => ?_⟩
  have := htoken byte hbyte
  simp only [isTokenByte, decide_eq_true_eq] at this
  rw [UInt8.lt_iff_toNat_lt]
  rcases this with rfl | rfl | ⟨-, hhigh⟩ | ⟨-, hhigh⟩
  · decide
  · decide
  · exact (UInt8.le_iff_toNat_le.mp hhigh).trans_lt (by decide)
  · exact (UInt8.le_iff_toNat_le.mp hhigh).trans_lt (by decide)

/-- What validation says about a message, as far as its encoding is concerned. -/
structure ReadableMessage (message : MessageV1) : Prop where
  semantic : message.semantic.isKnown = true
  wireSymbol : isSafeWireSymbolV1 message.wireSymbol = true
  direction : message.direction = "bidirectional"
  minPayloadBytes : IsInt64 message.minPayloadBytes
  maxPayloadBytes : IsInt64 message.maxPayloadBytes

theorem message_back (hd : Reads lib decode) {message : MessageV1} (h : ReadableMessage message) :
    ReadsBack utf8 (n + 1) (messageMap message) (decodeMessage lib decode) message := by
  have hdirection : (utf8Bytes message.direction).length < 2 ^ 63 := by
    rw [h.direction]
    decide
  have htext := hd.on .string rfl
  have hint := hd.on .int rfl
  refine .labelled hd.correct (by simp) ?_
  refine .cons (htext.choice _ h.semantic) ?_
  refine .cons (htext.text (readableText_of_safe h.wireSymbol)) ?_
  refine .cons (htext.string hdirection) ?_
  refine .cons (hint.int h.minPayloadBytes) ?_
  refine .cons (hint.int h.maxPayloadBytes) ?_
  exact .nil rfl

end Messages

section Frames

variable {frame : FrameV1}

theorem compiled_back (hd : Reads lib decode) {compiled : CompiledFramingV1}
    (h : validTypeTagsV1 compiled = true) :
    ReadsBack utf8 (n + 1) (compiledMap compiled) (decodeCompiled lib decode) compiled := by
  simp only [validTypeTagsV1, decide_eq_true_eq] at h
  have hbytes := hd.on .byteString rfl
  have huint := hd.on .uint32 rfl
  refine .labelled hd.correct (by simp) ?_
  refine .cons (hbytes.byteString (by omega)) ?_
  refine .cons (hbytes.byteString (by omega)) ?_
  refine .cons (huint.uint32 _) ?_
  refine .cons (huint.uint32 _) ?_
  refine .cons (huint.uint32 _) ?_
  exact .nil rfl

/-- A valid header order lists four known fields. -/
theorem headerOrder_of_valid (h : validFrameModesV1 frame = true) :
    (∀ field ∈ frame.headerOrder, field.isKnown = true) ∧ frame.headerOrder.length = 4 := by
  simp only [validFrameModesV1, decide_eq_true_eq] at h
  have hperm := Framing.exactSet_perm h.2.2.2.2.2
  refine ⟨fun field hfield => ?_, hperm.length_eq⟩
  obtain ⟨value, -, rfl⟩ := mem_map.mp (hperm.mem_iff.mp hfield)
  rfl

theorem headerItems_eq (fields : List (Choice HeaderField)) :
    Item.array (fields.map (choiceItem HeaderField.lexicon)) =
      capabilityItems (fields.map fun field => field.text HeaderField.lexicon.word) := by
  rw [capabilityItems, map_map]
  rfl

theorem length_headerText (h : validFrameModesV1 frame = true) :
    ∀ text ∈ frame.headerOrder.map fun field => field.text HeaderField.lexicon.word,
      (utf8Bytes text).length < 2 ^ 63 := by
  intro text htext
  obtain ⟨field, hfield, rfl⟩ := mem_map.mp htext
  have := HeaderField.lexicon.length_text_le ((headerOrder_of_valid h).1 field hfield)
  omega

theorem frame_back (hd : Reads lib decode) (h : validFrameModesV1 frame = true)
    (htags : validTypeTagsV1 frame.compiled = true) :
    ReadsBack utf8 (n + 2) (frameMap frame) (decodeFrame lib decode) frame := by
  have horder := headerOrder_of_valid h
  have hstrings : ReadsBack utf8 (n + 1) _ _ _ :=
    (hd.on .strings rfl).strings (by rw [length_map]; omega) (length_headerText h)
  rw [← headerItems_eq] at hstrings
  have hback : (frame.headerOrder.map fun field => field.text HeaderField.lexicon.word).map
      HeaderField.lexicon.ofText = frame.headerOrder := by
    have hsame := map_congr_left fun field hfield =>
      HeaderField.lexicon.ofText_text (horder.1 field hfield)
    rw [map_map]
    exact hsame.trans (map_id _)
  have htext := hd.on .string rfl
  simp only [validFrameModesV1, decide_eq_true_eq] at h
  refine .labelled hd.correct (by simp) ?_
  refine .cons (htext.choice _ h.1) ?_
  refine .cons (htext.choice _ h.2.1) ?_
  refine .cons hstrings ?_
  refine .cons (htext.choice _ h.2.2.1) ?_
  refine .cons (htext.choice _ h.2.2.2.1) ?_
  refine .cons (htext.choice _ h.2.2.2.2.1) ?_
  refine .cons (compiled_back hd htags) (.nil ?_)
  rw [hback]
  rfl

end Frames

section Traffic

theorem scheduler_back (hd : Reads lib decode) {scheduler : SchedulerV1}
    (h : validSchedulerV1 scheduler = true) (htext : ReadableText utf8 scheduler.priorityMode) :
    ReadsBack utf8 (n + 1) (schedulerMap scheduler) (decodeScheduler lib decode) scheduler := by
  simp only [validSchedulerV1, decide_eq_true_eq, mem_cons, not_mem_nil, or_false] at h
  have hstring := hd.on .string rfl
  have hint := hd.on .int rfl
  refine .labelled hd.correct (by simp) ?_
  refine .cons (hstring.choice _ h.1) ?_
  refine .cons (hint.int (by omega)) ?_
  refine .cons (hint.int (by omega)) ?_
  refine .cons (hint.int (by omega)) ?_
  refine .cons (hstring.text htext) ?_
  exact .nil rfl

/-- What validation says about the stream section. -/
def ValidStream (stream : StreamV1) : Prop :=
  stream.idEncodingMode.isKnown = true ∧ stream.maxConcurrentStreams ∈ ([2, 4, 8, 16] : List Int)

theorem stream_back (hd : Reads lib decode) {stream : StreamV1} (h : ValidStream stream) :
    ReadsBack utf8 (n + 1) (streamMap stream) (decodeStream lib decode) stream := by
  simp only [ValidStream, mem_cons, not_mem_nil, or_false] at h
  refine .labelled hd.correct (by simp) ?_
  refine .cons ((hd.on .string rfl).choice _ h.1) ?_
  refine .cons ((hd.on .int rfl).int (by omega)) ?_
  exact .nil rfl

theorem padding_back (hd : Reads lib decode) {padding : PaddingPolicy} {maxFrameBytes : Int}
    (h : validPaddingV1 padding maxFrameBytes = true) (hmax : IsInt64 maxFrameBytes)
    (hdouble : padding.probability.IsDouble) :
    ReadsBack utf8 (n + 1) (paddingMap padding) (decodePadding lib decode) padding := by
  simp only [validPaddingV1, decide_eq_true_eq] at h
  have hint := hd.on .int rfl
  refine .labelled hd.correct (by simp) ?_
  refine .cons ((hd.on .string rfl).choice _ h.1) ?_
  refine .cons (hint.int (by omega)) ?_
  refine .cons (hint.int (by omega)) ?_
  refine .cons ((hd.on .float64 rfl).float64 hdouble) ?_
  exact .nil rfl

theorem limits_back (hd : Reads lib decode) {limits : LimitsV1} {policy : SecurityPolicyV1}
    (h : validLimitsV1 limits policy = true) (hmessages : policy.maxSessionMessages ≤ 2 ^ 24)
    (hmillis : limits.maxSessionMillis < 2 ^ 63) :
    ReadsBack utf8 (n + 1) (limitsMap limits) (decodeLimits lib decode) limits := by
  simp only [validLimitsV1, decide_eq_true_eq] at h
  have hint := hd.on .int rfl
  refine .labelled hd.correct (by simp) ?_
  refine .cons (hint.int (by omega)) ?_
  refine .cons (hint.int (by omega)) ?_
  refine .cons (hint.int (by omega)) ?_
  refine .cons (hint.int (by omega)) ?_
  refine .cons (hint.int (by omega)) ?_
  exact .nil rfl

end Traffic

section Security

theorem length_capability {values : List String} (h : canonicalCapabilities values = true) :
    values.length ≤ 64 ∧ ∀ value ∈ values, (utf8Bytes value).length < 2 ^ 63 := by
  simp only [canonicalCapabilities, decide_eq_true_eq] at h
  refine ⟨by omega, fun value hvalue => ?_⟩
  have hknown : ∀ (previous : Option String) (values : List String),
      ascendingCapabilities previous values = true → ∀ value ∈ values,
        value ∈ knownCapabilities := by
    intro previous values
    induction values generalizing previous with
    | nil => simp
    | cons first rest ih =>
      intro h
      simp only [ascendingCapabilities, decide_eq_true_eq] at h
      exact forall_mem_cons.mpr ⟨h.1, ih _ h.2.2⟩
  have hshort : ∀ value ∈ knownCapabilities, (utf8Bytes value).length ≤ 64 := by decide
  have := hshort value (hknown none values h.2.2 value hvalue)
  omega

variable {security : SecurityV1}

theorem securityPolicy_back (hd : Reads lib decode) (h : validateSecurityV1 security = .ok ())
    (htext : ReadableText utf8 security.policy.securityVersion) :
    ReadsBack utf8 (n + 1) (securityPolicyMap security.policy) (decodeSecurityPolicy lib decode)
      security.policy := by
  simp only [validateSecurityV1, check_ok_iff, ensure_eq_ok] at h
  obtain ⟨⟨-, -, -, htranscript, hkdf, haead, hmac, hnonce, hreplay, hlow, hhigh, hdowngrade,
    hnegotiation, hcompatibility, hrotation, hconfig, henvelope, hmessages, hmessagesHigh,
    hlifetime, hlifetimeHigh⟩, -⟩ := h
  have hstring := hd.on .string rfl
  have hint := hd.on .int rfl
  refine .labelled hd.correct (by simp) ?_
  refine .cons (hstring.text htext) ?_
  refine .cons (hstring.choice _ htranscript) ?_
  refine .cons (hstring.choice _ (by rw [hkdf]; rfl)) ?_
  refine .cons (hstring.choice _ (by rw [haead]; rfl)) ?_
  refine .cons (hstring.choice _ (by rw [hmac]; rfl)) ?_
  refine .cons (hstring.choice _ hnonce) ?_
  refine .cons (hstring.choice _ hreplay) ?_
  refine .cons (hint.int (by omega)) ?_
  refine .cons (hstring.choice _ hdowngrade) ?_
  refine .cons (hstring.choice _ hnegotiation) ?_
  refine .cons (hstring.choice _ hcompatibility) ?_
  refine .cons (hstring.choice _ hrotation) ?_
  refine .cons (hstring.choice _ hconfig) ?_
  refine .cons (hstring.choice _ henvelope) ?_
  refine .cons (hint.int (by omega)) ?_
  refine .cons (hint.int (by omega)) ?_
  exact .nil rfl

theorem security_back (hd : Reads lib decode) (h : validateSecurityV1 security = .ok ())
    (hcompiler : ReadableText utf8 security.compilerSecurityVersion)
    (hruntime : ReadableText utf8 security.minimumRuntimeVersion)
    (htext : ReadableText utf8 security.policy.securityVersion) :
    ReadsBack utf8 (n + 2) (securityMap security) (decodeSecurity lib decode) security := by
  have hpolicy : ReadsBack utf8 (n + 1) _ _ _ := securityPolicy_back hd h htext
  simp only [validateSecurityV1, check_ok_iff, ensure_eq_ok] at h
  obtain ⟨-, ⟨hclient, hrelay, hselected⟩, -⟩ := h
  have hstrings {values : List String} (hvalues : canonicalCapabilities values = true) :
      ReadsBack utf8 (n + 1) (capabilityItems values) (decode .strings) values :=
    (hd.on .strings rfl).strings (length_capability hvalues).1 (length_capability hvalues).2
  refine .labelled hd.correct (by simp) ?_
  refine .cons ((hd.on .string rfl).text hcompiler) ?_
  refine .cons ((hd.on .string rfl).text hruntime) ?_
  refine .skip hpolicy.readable ?_
  refine .cons (hstrings hclient) ?_
  refine .cons (hstrings hrelay) ?_
  refine .cons (hstrings hselected) ?_
  exact .step hpolicy.back (.nil rfl)

end Security

/-! ## Programs -/

/-- The texts which validation only requires to be present. -/
def ProgramV1.freeTexts (p : ProgramV1) : List (List UInt8) :=
  [p.sourceSchemaVersion, p.scheduler.priorityMode, p.security.compilerSecurityVersion,
    p.security.minimumRuntimeVersion, p.security.policy.securityVersion]

/-- The free texts of the program are UTF-8. -/
def ProgramV1.HasUTF8Texts (p : ProgramV1) : Prop :=
  ∀ text ∈ p.freeTexts, (textOfBytes text).isSome

/-- Fields which validation leaves unbounded hold values of their Go types: texts have
a length, the session time is an `int`, and the probability is a `float64`. -/
structure ProgramV1.IsGoValue (p : ProgramV1) : Prop where
  texts : ∀ text ∈ p.freeTexts, text.length < 2 ^ 63
  maxSessionMillis : p.limits.maxSessionMillis < 2 ^ 63
  probability : p.padding.probability.IsDouble

section Programs

variable {p : ProgramV1}

theorem readableMessage_of_valid (hvalid : validateV1 p = .ok ()) :
    ∀ message ∈ p.messages, ReadableMessage message := by
  obtain ⟨-, hsemantics, hmessages, -, -, -, -, -, -, hlimits⟩ := Framing.validateV1_eq_ok.mp hvalid
  simp only [validLimitsV1, decide_eq_true_eq] at hlimits
  intro message hmessage
  obtain ⟨hsafe, hdirection, hlow, hordered, hhigh⟩ :=
    validateMessagesV1_mem hmessages message hmessage
  refine ⟨?_, hsafe, hdirection, by omega, by omega⟩
  have hmem : message.semantic ∈ p.messages.map (·.semantic) := mem_map_of_mem hmessage
  rw [hsemantics] at hmem
  simp only [mem_cons, not_mem_nil, or_false] at hmem
  rcases hmem with h | h <;> rw [h] <;> rfl

theorem length_messages_of_valid (hvalid : validateV1 p = .ok ()) : p.messages.length = 2 := by
  obtain ⟨-, hsemantics, -⟩ := Framing.validateV1_eq_ok.mp hvalid
  simpa using congrArg length hsemantics

theorem maxSessionMessages_le (h : validateSecurityV1 p.security = .ok ()) :
    p.security.policy.maxSessionMessages ≤ 2 ^ 24 := by
  simp only [validateSecurityV1, check_ok_iff, ensure_eq_ok] at h
  omega

theorem messages_back (hd : Reads lib decode) {messages : List MessageV1}
    (h : ∀ message ∈ messages, ReadableMessage message) (hlength : messages.length = 2) :
    ReadsBack utf8 (n + 2) (.array (messages.map messageMap)) (decodeMessages lib decode)
      messages := by
  refine (hd.on .rawMessages rfl).list (by omega)
    (fun message hmem => message_back hd (h message hmem)) ?_
  simpa using hlength

/-- The walk over the fields of an encoded program returns the program. -/
theorem program_back (hd : Reads lib decode) (hvalid : validateV1 p = .ok ()) (hgo : p.IsGoValue)
    (hutf8 : utf8 → p.HasUTF8Texts) :
    ReadsBack utf8 4 (programMap p) (decodeProgramFieldsWithDecoderV1 lib decode) p := by
  obtain ⟨⟨hschema, -⟩, -, -, hmodes, htags, hscheduler, hstream, hpadding, hsecurity, hlimits⟩ :=
    Framing.validateV1_eq_ok.mp hvalid
  have hschemaBack : ReadsBack utf8 3 (textItem p.schema) (decodeSchema decode) p.schema := by
    have hread : ReadsBack utf8 3 _ _ p.schema :=
      (hd.on .string rfl).string (by rw [hschema]; decide)
    exact hread.bind fun _ => if_pos hschema
  have hframeBytes : IsInt64 p.limits.maxFrameBytes := by
    simp only [validLimitsV1, decide_eq_true_eq] at hlimits
    omega
  have htext : ∀ text ∈ p.freeTexts, ReadableText utf8 text :=
    fun text h => ⟨hgo.texts text h, fun h8 => hutf8 h8 text h⟩
  simp only [ProgramV1.freeTexts, forall_mem_cons, not_mem_nil, false_imp_iff,
    implies_true, and_true] at htext
  obtain ⟨hversion, hpriority, hcompiler, hruntime, hsecurityVersion⟩ := htext
  have hbytes := hd.on .byteString rfl
  refine .labelled hd.correct (by simp) ?_
  refine .cons hschemaBack ?_
  refine .cons (hbytes.fixedBytes (by omega) p.programID) ?_
  refine .cons ((hd.on .string rfl).text hversion) ?_
  refine .cons (hbytes.fixedBytes (by omega) p.sourceGenerationHash) ?_
  refine .cons (messages_back hd (readableMessage_of_valid hvalid)
    (length_messages_of_valid hvalid)) ?_
  refine .cons (frame_back hd hmodes htags) ?_
  refine .cons (scheduler_back hd hscheduler hpriority) ?_
  refine .cons (stream_back hd hstream) ?_
  refine .cons (padding_back hd hpadding hframeBytes hgo.probability) ?_
  refine .cons (security_back hd hsecurity hcompiler hruntime hsecurityVersion) ?_
  refine .cons (limits_back hd hlimits (maxSessionMessages_le hsecurity) hgo.maxSessionMillis) ?_
  exact .nil rfl

end Programs

end Kurdistan.Protocol
