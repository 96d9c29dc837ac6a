import Kurdistan.Support.Float
import Kurdistan.Support.Framed
import Kurdistan.Support.Text

/-!
# Concise binary object representation

Data items with unsigned map labels, their core deterministic encoding, and what
a strict decoder reads from such an encoding into a typed destination. A library
is given by its encoder and its decoder; `Library.Correct` says that they do this.
`reference` is an executable library.
-/

namespace Kurdistan.Support.Cbor

open List

/-! ## Data items -/

/-- A data item. Texts are the bytes of a text string, which need not be UTF-8;
the entries of a map are listed in the order of their labels. -/
inductive Item where
  | int (value : Int)
  | bytes (value : List UInt8)
  | text (value : List UInt8)
  | float (value : Float64)
  | bool (value : Bool)
  | null
  | array (items : List Item)
  | map (entries : List (ℕ × Item))

/-- The initial byte of a head, with its major type and additional information. -/
def initialByte (major info : ℕ) : UInt8 := UInt8.ofNat (32 * major + info)

/-- The major type of the item which starts with the byte. -/
def majorType (byte : UInt8) : ℕ := byte.toNat / 32

/-- The shortest head with the given argument. -/
def head (major argument : ℕ) : List UInt8 :=
  if argument < 24 then [initialByte major argument]
  else if argument < 2 ^ 8 then initialByte major 24 :: bigEndian 1 argument
  else if argument < 2 ^ 16 then initialByte major 25 :: bigEndian 2 argument
  else if argument < 2 ^ 32 then initialByte major 26 :: bigEndian 4 argument
  else initialByte major 27 :: bigEndian 8 argument

/-- The head of a float, whose argument are the bits of its shortest format. -/
def floatHead (value : Float64) : List UInt8 :=
  let bits := value.shortest.2
  if value.shortest.1 = .half then initialByte 7 25 :: bigEndian 2 bits
  else if value.shortest.1 = .single then initialByte 7 26 :: bigEndian 4 bits
  else initialByte 7 27 :: bigEndian 8 bits

mutual

/-- The core deterministic encoding. -/
def Item.encode : Item → List UInt8
  | .int value =>
    if 0 ≤ value then head 0 value.toNat else head 1 (-1 - value).toNat
  | .bytes value => head 2 value.length ++ value
  | .text value => head 3 value.length ++ value
  | .float value => floatHead value
  | .bool value => [initialByte 7 (if value then 21 else 20)]
  | .null => [initialByte 7 22]
  | .array items => head 4 items.length ++ encodeItems items
  | .map entries => head 5 entries.length ++ encodeEntries entries

def encodeItems : List Item → List UInt8
  | [] => []
  | item :: rest => item.encode ++ encodeItems rest

def encodeEntries : List (ℕ × Item) → List UInt8
  | [] => []
  | (label, item) :: rest => head 0 label ++ item.encode ++ encodeEntries rest

end

mutual

/-- The number of nested arrays and maps. -/
def Item.depth : Item → ℕ
  | .array items => depthItems items + 1
  | .map entries => depthEntries entries + 1
  | _ => 0

def depthItems : List Item → ℕ
  | [] => 0
  | item :: rest => max item.depth (depthItems rest)

def depthEntries : List (ℕ × Item) → ℕ
  | [] => 0
  | (_, item) :: rest => max item.depth (depthEntries rest)

end

mutual

/-- A predicate holds of the item and of every item inside it. -/
def Item.Forall (P : Item → Prop) : Item → Prop
  | .array items => P (.array items) ∧ forallItems P items
  | .map entries => P (.map entries) ∧ forallEntries P entries
  | .int value => P (.int value)
  | .bytes value => P (.bytes value)
  | .text value => P (.text value)
  | .float value => P (.float value)
  | .bool value => P (.bool value)
  | .null => P .null

def forallItems (P : Item → Prop) : List Item → Prop
  | [] => True
  | item :: rest => item.Forall P ∧ forallItems P rest

def forallEntries (P : Item → Prop) : List (ℕ × Item) → Prop
  | [] => True
  | (_, item) :: rest => item.Forall P ∧ forallEntries P rest

end

theorem forallItems_iff {P : Item → Prop} {items : List Item} :
    forallItems P items ↔ ∀ item ∈ items, item.Forall P := by
  induction items with
  | nil => simp [forallItems]
  | cons item rest ih => simp [forallItems, ih]

theorem forallEntries_iff {P : Item → Prop} {entries : List (ℕ × Item)} :
    forallEntries P entries ↔ ∀ entry ∈ entries, entry.2.Forall P := by
  induction entries with
  | nil => simp [forallEntries]
  | cons entry rest ih => simp [forallEntries, ih]

theorem encodeItems_eq (items : List Item) :
    encodeItems items = (items.map Item.encode).flatten := by
  induction items with
  | nil => rfl
  | cons item rest ih => simp [encodeItems, ih]

theorem encodeEntries_eq (entries : List (ℕ × Item)) :
    encodeEntries entries =
      (entries.map fun entry => head 0 entry.1 ++ entry.2.encode).flatten := by
  induction entries with
  | nil => rfl
  | cons entry rest ih => simp [encodeEntries, ih]

theorem depthItems_le_iff {items : List Item} {n : ℕ} :
    depthItems items ≤ n ↔ ∀ item ∈ items, item.depth ≤ n := by
  induction items with
  | nil => simp [depthItems]
  | cons item rest ih => simp [depthItems, ih]

theorem depthEntries_le_iff {entries : List (ℕ × Item)} {n : ℕ} :
    depthEntries entries ≤ n ↔ ∀ entry ∈ entries, entry.2.depth ≤ n := by
  induction entries with
  | nil => simp [depthEntries]
  | cons entry rest ih => simp [depthEntries, ih]

/-! ## Heads -/

theorem majorType_initialByte {major info : ℕ} (hmajor : major < 8) (hinfo : info < 32) :
    majorType (initialByte major info) = major := by
  rw [majorType, initialByte, UInt8.toNat_ofNat']
  omega

theorem head_eq_cons {major : ℕ} (hmajor : major < 8) (argument : ℕ) :
    ∃ first rest, head major argument = first :: rest ∧ majorType first = major := by
  unfold head
  split_ifs
  · exact ⟨_, _, rfl, majorType_initialByte hmajor (by omega)⟩
  all_goals exact ⟨_, _, rfl, majorType_initialByte hmajor (by decide)⟩

/-- Major type, additional information and argument of the head in front. -/
def readHead : List UInt8 → Option (ℕ × ℕ × ℕ × List UInt8)
  | [] => none
  | first :: rest =>
    let info := first.toNat % 32
    if info < 24 then some (majorType first, info, info, rest)
    else if info < 28 then
      (readExactly (2 ^ (info - 24)) rest).map fun (value, rest) =>
        (majorType first, info, bigEndianValue value, rest)
    else none

theorem readHead_short {major argument : ℕ} (hmajor : major < 8) (h : argument < 24)
    (rest : List UInt8) :
    readHead (initialByte major argument :: rest) = some (major, argument, argument, rest) := by
  have hinfo : (initialByte major argument).toNat % 32 = argument := by
    rw [initialByte, UInt8.toNat_ofNat']
    omega
  rw [readHead]
  dsimp only
  rw [hinfo, if_pos h, majorType_initialByte hmajor (by omega)]

theorem readHead_long {major info argument : ℕ} (hmajor : major < 8) (hlow : 24 ≤ info)
    (hhigh : info < 28) (h : argument < 256 ^ 2 ^ (info - 24)) (rest : List UInt8) :
    readHead (initialByte major info :: bigEndian (2 ^ (info - 24)) argument ++ rest) =
      some (major, info, argument, rest) := by
  have hinfo : (initialByte major info).toNat % 32 = info := by
    rw [initialByte, UInt8.toNat_ofNat']
    omega
  have hread : readExactly (2 ^ (info - 24)) (bigEndian (2 ^ (info - 24)) argument ++ rest) =
      some (bigEndian (2 ^ (info - 24)) argument, rest) :=
    readExactly_eq_some.mpr ⟨rfl, length_bigEndian _ _⟩
  rw [cons_append, readHead]
  dsimp only
  rw [hinfo, if_neg (by omega), if_pos hhigh, majorType_initialByte hmajor (by omega), hread,
    Option.map_some, bigEndianValue_bigEndian_of_lt h]

theorem readHead_head {major argument : ℕ} (hmajor : major < 8) (h : argument < 2 ^ 64)
    (rest : List UInt8) :
    ∃ info, readHead (head major argument ++ rest) = some (major, info, argument, rest) := by
  unfold head
  split_ifs with h0 h1 h2 h3
  · exact ⟨_, readHead_short hmajor h0 rest⟩
  · exact ⟨24, readHead_long hmajor le_rfl (by omega) h1 rest⟩
  · exact ⟨25, readHead_long hmajor (by omega) (by omega) h2 rest⟩
  · exact ⟨26, readHead_long hmajor (by omega) (by omega) h3 rest⟩
  · exact ⟨27, readHead_long hmajor (by omega) (by omega) h rest⟩

/-- The format of the float whose head has the given additional information. -/
def floatFormat (info : ℕ) : Option FloatFormat :=
  if info = 25 then some .half
  else if info = 26 then some .single
  else if info = 27 then some .double
  else none

theorem floatHead_eq (value : Float64) :
    ∃ info, 25 ≤ info ∧ info < 28 ∧ floatFormat info = some value.shortest.1 ∧
      value.shortest.2 < 256 ^ 2 ^ (info - 24) ∧
      floatHead value = initialByte 7 info :: bigEndian (2 ^ (info - 24)) value.shortest.2 := by
  have hbits := value.shortest_lt
  have hformat := value.shortest_format
  simp only [mem_cons, not_mem_nil, or_false] at hformat
  rcases hformat with h | h | h <;> rw [h] at hbits <;> unfold floatHead <;> rw [h]
  · exact ⟨25, by omega, by omega, rfl, hbits, rfl⟩
  · exact ⟨26, by omega, by omega, rfl, hbits, rfl⟩
  · exact ⟨27, by omega, by omega, rfl, hbits, rfl⟩

/-- The major type of an item. -/
def Item.major : Item → ℕ
  | .int value => if 0 ≤ value then 0 else 1
  | .bytes _ => 2
  | .text _ => 3
  | .array _ => 4
  | .map _ => 5
  | .float _ | .bool _ | .null => 7

/-- The first byte of an encoding tells the major type, and a float from the other
items of its major type. -/
theorem Item.encode_eq_cons (item : Item) :
    ∃ first tail, item.encode = first :: tail ∧ majorType first = item.major ∧
      ∀ value, item = .float value → first = 0xf9 ∨ first = 0xfa ∨ first = 0xfb := by
  have hhead (argument : ℕ) (rest : List UInt8) (hmajor : item.major < 8)
      (hencode : item.encode = head item.major argument ++ rest)
      (hfloat : ∀ value, item ≠ .float value) :
      ∃ first tail, item.encode = first :: tail ∧ majorType first = item.major ∧
        ∀ value, item = .float value → first = 0xf9 ∨ first = 0xfa ∨ first = 0xfb := by
    obtain ⟨first, tail, hfirst, hmajor⟩ := head_eq_cons hmajor argument
    exact ⟨first, tail ++ rest, by rw [hencode, hfirst, cons_append], hmajor,
      fun value h => absurd h (hfloat value)⟩
  cases item with
  | int value =>
    by_cases hsign : 0 ≤ value
    · exact hhead value.toNat [] (by simp [Item.major, hsign])
        (by simp [Item.encode, Item.major, hsign]) (by simp)
    · exact hhead (-1 - value).toNat [] (by simp [Item.major, hsign])
        (by simp [Item.encode, Item.major, hsign]) (by simp)
  | bytes value => exact hhead value.length value (by simp [Item.major]) rfl (by simp)
  | text value => exact hhead value.length value (by simp [Item.major]) rfl (by simp)
  | array items => exact hhead items.length (encodeItems items) (by simp [Item.major]) rfl (by simp)
  | map entries =>
    exact hhead entries.length (encodeEntries entries) (by simp [Item.major]) rfl (by simp)
  | bool value =>
    refine ⟨_, [], rfl, majorType_initialByte (by omega) ?_, by simp⟩
    split_ifs <;> omega
  | null => exact ⟨_, [], rfl, majorType_initialByte (by omega) (by omega), by simp⟩
  | float value =>
    obtain ⟨info, hlow, hhigh, -, -, hfirst⟩ := floatHead_eq value
    refine ⟨_, _, hfirst, majorType_initialByte (by omega) (by omega), fun _ _ => ?_⟩
    obtain rfl | rfl | rfl : info = 25 ∨ info = 26 ∨ info = 27 := by omega
    · exact .inl rfl
    · exact .inr (.inl rfl)
    · exact .inr (.inr rfl)

theorem encode_ne_nil (item : Item) : item.encode ≠ [] := by
  obtain ⟨first, tail, hfirst, -⟩ := item.encode_eq_cons
  simp [hfirst]

/-! ## Libraries -/

/-- The item itself is one which the encoder has an encoding for. -/
def EncodableNode : Item → Prop
  | .int value => -2 ^ 64 ≤ value ∧ value < 2 ^ 64
  | .bytes value => value.length < 2 ^ 64
  | .text value => value.length < 2 ^ 64
  | .float value => value.IsDouble
  | .bool _ | .null => True
  | .array items => items.length < 2 ^ 64
  | .map entries => entries.length < 2 ^ 64 ∧ (∀ entry ∈ entries, entry.1 < 2 ^ 64) ∧
      (entries.map Prod.fst).Pairwise (· < ·)

def Item.Encodable (item : Item) : Prop := item.Forall EncodableNode

/-- The bounds of a strict decoder. -/
structure Limits where
  maxNestedLevels : ℕ
  maxArrayElements : ℕ
  maxMapPairs : ℕ

variable (limits : Limits)

/-- The item itself respects the bounds, its text is UTF-8, and its integer is one
of the 64-bit types. -/
def AdmissibleNode : Item → Prop
  | .int value => -2 ^ 63 ≤ value
  | .text value => (textOfBytes value).isSome
  | .array items => items.length ≤ limits.maxArrayElements
  | .map entries => entries.length ≤ limits.maxMapPairs
  | _ => True

def Item.Admissible (item : Item) : Prop :=
  item.depth ≤ limits.maxNestedLevels ∧ item.Forall (AdmissibleNode limits)

/-- The types of the destinations which a decoder fills. -/
inductive Target where
  | any
  | byteString
  | byteSlice
  | string
  | uint8
  | uint16
  | uint32
  | uint64
  | int
  | float64
  | bool
  | rawMessages
  | strings
  | byteStrings
  | rawMap
  deriving DecidableEq

/-- What a destination holds. A decoded text is UTF-8, and a raw message is the
encoding of an item. A byte slice is a byte string which may be nil. -/
abbrev Target.Value : Target → Type
  | .any => Item
  | .byteString => List UInt8
  | .byteSlice => Option (List UInt8)
  | .string => String
  | .uint8 => UInt8
  | .uint16 => UInt16
  | .uint32 => UInt32
  | .uint64 => UInt64
  | .int => Int
  | .float64 => Float64
  | .bool => Bool
  | .rawMessages => List (List UInt8)
  | .strings => List String
  | .byteStrings => List (List UInt8)
  | .rawMap => List (ℕ × List UInt8)

def Item.text? : Item → Option String
  | .text value => textOfBytes value
  | _ => none

def Item.bytes? : Item → Option (List UInt8)
  | .bytes value => some value
  | _ => none

/-- The value of a destination which is filled from an item of the matching kind. -/
def Item.as : (target : Target) → Item → Option target.Value
  | .any, item => some item
  | .byteString, .bytes value => some value
  | .byteSlice, .bytes value => some (some value)
  | .byteSlice, .null => some none
  | .string, item => item.text?
  | .uint8, .int value =>
    if 0 ≤ value ∧ value < 2 ^ 8 then some (UInt8.ofNat value.toNat) else none
  | .uint16, .int value =>
    if 0 ≤ value ∧ value < 2 ^ 16 then some (UInt16.ofNat value.toNat) else none
  | .uint32, .int value =>
    if 0 ≤ value ∧ value < 2 ^ 32 then some (UInt32.ofNat value.toNat) else none
  | .uint64, .int value =>
    if 0 ≤ value ∧ value < 2 ^ 64 then some (UInt64.ofNat value.toNat) else none
  | .int, .int value => if -2 ^ 63 ≤ value ∧ value < 2 ^ 63 then some value else none
  | .float64, .float value => some value
  | .bool, .bool value => some value
  | .rawMessages, .array items => some (items.map Item.encode)
  | .strings, .array items => items.mapM Item.text?
  | .byteStrings, .array items => items.mapM Item.bytes?
  | .rawMap, .map entries => some (entries.map fun entry => (entry.1, entry.2.encode))
  | _, _ => none

structure Library where
  marshal : Item → Option (List UInt8)
  unmarshal : (target : Target) → List UInt8 → Option target.Value

/-- The encoder writes the deterministic encoding, and the decoder fills a
destination of the matching kind from the encoding of every item within its bounds.
Nothing is said about other byte strings. -/
structure Library.Correct (limits : Limits) (lib : Library) : Prop where
  marshal_eq : ∀ {item : Item}, item.Encodable → lib.marshal item = some item.encode
  unmarshal_eq : ∀ {item : Item} (target : Target) {value : target.Value}, item.Encodable →
    item.Admissible limits → item.as target = some value →
    lib.unmarshal target item.encode = some value

/-! ## An executable library -/

/-- Read `n` values one after the other. -/
def readMany {α : Type} (read : List UInt8 → Option (α × List UInt8)) :
    ℕ → List UInt8 → Option (List α × List UInt8)
  | 0, bytes => some ([], bytes)
  | n + 1, bytes =>
    (read bytes).bind fun (value, rest) =>
      (readMany read n rest).map fun (values, rest) => (value :: values, rest)

theorem readMany_flatten {α : Type} {read : List UInt8 → Option (α × List UInt8)}
    {write : α → List UInt8} {values : List α} {rest : List UInt8}
    (h : ∀ value ∈ values, ∀ rest, read (write value ++ rest) = some (value, rest)) :
    readMany read values.length ((values.map write).flatten ++ rest) = some (values, rest) := by
  induction values with
  | nil => rfl
  | cons value values ih =>
    have hfirst := h value mem_cons_self
    have hrest := ih fun other hother => h other (mem_cons_of_mem _ hother)
    simp [readMany, hfirst, hrest]

/-- Read one item with fewer than `fuel` nested levels. -/
def parse (limits : Limits) : ℕ → List UInt8 → Option (Item × List UInt8)
  | 0, _ => none
  | fuel + 1, bytes => (readHead bytes).bind fun (major, info, argument, rest) =>
      match major with
      | 0 => some (.int argument, rest)
      | 1 => some (.int (-1 - argument), rest)
      | 2 => (readExactly argument rest).map fun (value, rest) => (.bytes value, rest)
      | 3 => (readExactly argument rest).bind fun (value, rest) =>
        if (textOfBytes value).isSome then some (.text value, rest) else none
      | 4 =>
        if limits.maxArrayElements < argument then none
        else (readMany (parse limits fuel) argument rest).map fun (items, rest) =>
          (.array items, rest)
      | 5 =>
        if limits.maxMapPairs < argument then none
        else (readMany (parseEntry (parse limits fuel)) argument rest).map
          fun (entries, rest) => (.map entries, rest)
      | 7 =>
        if info = 20 then some (.bool false, rest)
        else if info = 21 then some (.bool true, rest)
        else if info = 22 then some (.null, rest)
        else (floatFormat info).map fun format => (.float (format.read argument), rest)
      | _ => none
where
  /-- A label and the item behind it. -/
  parseEntry (parseItem : List UInt8 → Option (Item × List UInt8)) (bytes : List UInt8) :
      Option ((ℕ × Item) × List UInt8) :=
    (readHead bytes).bind fun (major, _, label, rest) =>
      if major = 0 then (parseItem rest).map fun (item, rest) => ((label, item), rest)
      else none

theorem parse_encode {limits : Limits} {fuel : ℕ} {item : Item} (rest : List UInt8)
    (hencodable : item.Encodable) (hadmissible : item.Forall (AdmissibleNode limits))
    (hdepth : item.depth < fuel) : parse limits fuel (item.encode ++ rest) = some (item, rest) := by
  induction fuel generalizing item rest with
  | zero => omega
  | succ fuel ih =>
    rw [parse]
    cases item with
    | int value =>
      obtain ⟨hlow, hhigh⟩ : -2 ^ 64 ≤ value ∧ value < 2 ^ 64 := hencodable
      by_cases hsign : 0 ≤ value
      · obtain ⟨info, hhead⟩ := @readHead_head 0 value.toNat (by omega) (by omega) rest
        simp [Item.encode, hsign, hhead]
      · obtain ⟨info, hhead⟩ := @readHead_head 1 (-1 - value).toNat (by omega) (by omega) rest
        have hvalue : (-1 : Int) - ((-1 - value).toNat : Int) = value := by omega
        rw [Item.encode, if_neg hsign, hhead]
        simp only [Option.bind_some, hvalue]
    | bytes value =>
      obtain ⟨info, hhead⟩ := @readHead_head 2 value.length (by omega) hencodable (value ++ rest)
      have hread : readExactly value.length (value ++ rest) = some (value, rest) :=
        readExactly_eq_some.mpr ⟨rfl, rfl⟩
      simp only [Item.encode, append_assoc, hhead, Option.bind_some, hread, Option.map_some]
    | text value =>
      obtain ⟨info, hhead⟩ := @readHead_head 3 value.length (by omega) hencodable (value ++ rest)
      have hread : readExactly value.length (value ++ rest) = some (value, rest) :=
        readExactly_eq_some.mpr ⟨rfl, rfl⟩
      have htext : (textOfBytes value).isSome := hadmissible
      simp only [Item.encode, append_assoc, hhead, Option.bind_some, hread, htext, if_true]
    | float value =>
      obtain ⟨info, hlow, hhigh, hformat, hbits, hhead⟩ := floatHead_eq value
      have hread := Float64.read_shortest hencodable
      obtain ⟨hfalse, htrue, hnull⟩ : info ≠ 20 ∧ info ≠ 21 ∧ info ≠ 22 := by omega
      simp only [Item.encode, hhead,
        readHead_long (by omega : 7 < 8) (by omega) hhigh hbits rest, Option.bind_some,
        hfalse, htrue, hnull, if_false, hformat, Option.map_some, hread]
    | bool value =>
      have hfalse := @readHead_short 7 20 (by omega) (by omega) rest
      have htrue := @readHead_short 7 21 (by omega) (by omega) rest
      cases value <;> simp [Item.encode, hfalse, htrue]
    | null =>
      have hhead := @readHead_short 7 22 (by omega) (by omega) rest
      simp [Item.encode, hhead]
    | array items =>
      obtain ⟨hlength, hitems⟩ := hencodable
      obtain ⟨hlimit, hadmitted⟩ := hadmissible
      rw [forallItems_iff] at hitems hadmitted
      have hlimit : ¬ limits.maxArrayElements < items.length := not_lt.mpr hlimit
      obtain ⟨info, hhead⟩ :=
        @readHead_head 4 items.length (by omega) hlength (encodeItems items ++ rest)
      have hmany : readMany (parse limits fuel) items.length (encodeItems items ++ rest) =
          some (items, rest) := by
        rw [encodeItems_eq]
        refine readMany_flatten fun item hitem rest => ?_
        have := depthItems_le_iff.mp le_rfl item hitem
        rw [Item.depth] at hdepth
        exact ih rest (hitems item hitem) (hadmitted item hitem) (by omega)
      simp only [Item.encode, append_assoc, hhead, Option.bind_some, hlimit, if_false,
        hmany, Option.map_some]
    | map entries =>
      obtain ⟨⟨hlength, hlabels, -⟩, hitems⟩ := hencodable
      obtain ⟨hlimit, hadmitted⟩ := hadmissible
      rw [forallEntries_iff] at hitems hadmitted
      have hlimit : ¬ limits.maxMapPairs < entries.length := not_lt.mpr hlimit
      obtain ⟨info, hhead⟩ :=
        @readHead_head 5 entries.length (by omega) hlength (encodeEntries entries ++ rest)
      have hmany : readMany (parse.parseEntry (parse limits fuel)) entries.length
          (encodeEntries entries ++ rest) = some (entries, rest) := by
        rw [encodeEntries_eq]
        refine readMany_flatten fun entry hentry rest => ?_
        have := depthEntries_le_iff.mp le_rfl entry hentry
        rw [Item.depth] at hdepth
        have hitem := ih rest (hitems entry hentry) (hadmitted entry hentry) (by omega)
        obtain ⟨info, hlabel⟩ :=
          @readHead_head 0 entry.1 (by omega) (hlabels entry hentry) (entry.2.encode ++ rest)
        simp only [parse.parseEntry, append_assoc, hlabel, Option.bind_some, if_true,
          hitem, Option.map_some]
      simp only [Item.encode, append_assoc, hhead, Option.bind_some, hlimit, if_false,
        hmany, Option.map_some]

/-- A library which reads nothing but deterministic encodings. -/
def reference : Library where
  marshal item := some item.encode
  unmarshal target bytes :=
    (parse limits (limits.maxNestedLevels + 1) bytes).bind fun (item, rest) =>
      if rest = [] ∧ item.encode = bytes then item.as target else none

theorem correct_reference : (reference limits).Correct limits where
  marshal_eq _ := rfl
  unmarshal_eq := by
    intro item target value hencodable hadmissible hvalue
    have hparse := parse_encode [] hencodable hadmissible.2 (Nat.lt_succ_of_le hadmissible.1)
    rw [append_nil] at hparse
    simp only [reference, hparse, Option.bind_some, and_self, if_true, hvalue]

/-! ## Reading back -/

theorem bind_some {α β : Type} {first : Option α} {rest : α → Option β} {value : α}
    {result : β} (hfirst : first = some value) (hrest : rest value = some result) :
    first.bind rest = some result := by
  rw [hfirst, Option.bind_some, hrest]

/-- The item is good, and its reader takes the value back from its encoding, given the
assumption. -/
structure ItemBack {α : Type} (good : Item → Prop) (given : Prop) (item : Item)
    (reader : List UInt8 → Option α) (value : α) : Prop where
  readable : good item
  back : given → reader item.encode = some value

/-- The items are good, and the walk over their encodings returns the value. -/
structure WalkBack {α : Type} (good : Item → Prop) (given : Prop) (items : List Item)
    (walk : Option α) (value : α) : Prop where
  readable : ∀ item ∈ items, good item
  back : given → walk = some value

section ReadingBack

variable {α β : Type} {good : Item → Prop} {given : Prop} {item : Item} {items : List Item}
  {reader : List UInt8 → Option β} {field : β} {rest : β → Option α} {walk : Option α} {value : α}

theorem ItemBack.bind (h : ItemBack good given item reader field)
    (hrest : given → rest field = some value) :
    ItemBack good given item (fun raw => (reader raw).bind rest) value :=
  ⟨h.readable, fun hgiven => bind_some (h.back hgiven) (hrest hgiven)⟩

namespace WalkBack

theorem nil (h : walk = some value) : WalkBack good given [] walk value :=
  ⟨by simp, fun _ => h⟩

/-- A field which the walk does not take at its place. -/
theorem skip (h : good item) (hrest : WalkBack good given items walk value) :
    WalkBack good given (item :: items) walk value :=
  ⟨forall_mem_cons.mpr ⟨h, hrest.readable⟩, hrest.back⟩

theorem step {first : Option β} (h : given → first = some field)
    (hrest : WalkBack good given items (rest field) value) :
    WalkBack good given items (first.bind rest) value :=
  ⟨hrest.readable, fun hgiven => bind_some (h hgiven) (hrest.back hgiven)⟩

theorem cons (h : ItemBack good given item reader field)
    (hrest : WalkBack good given items (rest field) value) :
    WalkBack good given (item :: items) ((reader item.encode).bind rest) value :=
  .skip h.readable (.step h.back hrest)

end WalkBack

theorem mapM_encode {write : β → Item} {values : List β}
    (h : ∀ value ∈ values, reader (write value).encode = some value) :
    ((values.map write).map Item.encode).mapM reader = some values := by
  induction values with
  | nil => rfl
  | cons value rest ih =>
    have hrest := ih fun other hother => h other (mem_cons_of_mem _ hother)
    rw [map_cons, map_cons, mapM_cons]
    apply bind_some (h value mem_cons_self)
    apply bind_some hrest
    rfl

end ReadingBack

end Kurdistan.Support.Cbor
