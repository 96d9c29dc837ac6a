import Kurdistan.Support.Text

/-!
# Text fields with a closed vocabulary

Configuration records hold text fields whose accepted values form a small
fixed vocabulary. `Choice α` is such a field: either one of the known values
`α`, or some other text, which validation is expected to reject. A `Lexicon`
gives the texts of the values.
-/

namespace Kurdistan.Support

/-- A text field which should hold one of the values `α`. -/
inductive Choice (α : Type) where
  | known (value : α)
  | other (text : String)
  deriving DecidableEq

instance {α : Type} [DecidableEq α] : LawfulBEq (Choice α) := inferInstance

/-- The zero value of a text field is the empty text. -/
instance {α : Type} : Inhabited (Choice α) := ⟨.other ""⟩

namespace Choice

variable {α : Type}

/-- The text of a field, given the text of every known value. -/
def text (word : α → String) : Choice α → String
  | known value => word value
  | other text => text

/-- The field holds a value of its vocabulary. -/
def isKnown : Choice α → Bool
  | known _ => true
  | other _ => false

theorem isKnown_iff {c : Choice α} : c.isKnown = true ↔ ∃ value, c = known value := by
  cases c <;> simp [isKnown]

end Choice

/-- The words of a vocabulary, which tell its values apart. -/
structure Lexicon (α : Type) where
  word : α → String
  values : List α
  complete : ∀ value, value ∈ values := by intro value; cases value <;> decide
  distinct : (values.map word).Nodup := by decide
  short : ∀ value ∈ values, (utf8Bytes (word value)).length ≤ 64 := by decide

namespace Lexicon

variable {α : Type} (lexicon : Lexicon α)

/-- The field which holds a text. -/
def ofText (text : String) : Choice α :=
  match lexicon.values.find? fun value => lexicon.word value = text with
  | some value => .known value
  | none => .other text

@[simp]
theorem ofText_word (value : α) : lexicon.ofText (lexicon.word value) = .known value := by
  have hinj := List.inj_on_of_nodup_map lexicon.distinct
  have hfind : lexicon.values.find? (fun other => lexicon.word other = lexicon.word value) =
      some value := by
    rcases hfound : lexicon.values.find? _ with _ | other
    · have := List.find?_eq_none.mp hfound value (lexicon.complete value)
      simp at this
    · have hword := List.find?_some hfound
      rw [hinj (List.mem_of_find?_eq_some hfound) (lexicon.complete value) (by simpa using hword)]
  rw [ofText, hfind]

theorem ofText_text {choice : Choice α} (h : choice.isKnown = true) :
    lexicon.ofText (choice.text lexicon.word) = choice := by
  obtain ⟨value, rfl⟩ := Choice.isKnown_iff.mp h
  exact lexicon.ofText_word value

/-- On known values, the text determines the field. -/
theorem eq_of_text_eq {a b : Choice α} (ha : a.isKnown = true) (hb : b.isKnown = true)
    (h : a.text lexicon.word = b.text lexicon.word) : a = b := by
  rw [← lexicon.ofText_text ha, h, lexicon.ofText_text hb]

theorem length_text_le {choice : Choice α} (h : choice.isKnown = true) :
    (utf8Bytes (choice.text lexicon.word)).length ≤ 64 := by
  obtain ⟨value, rfl⟩ := Choice.isKnown_iff.mp h
  exact lexicon.short value (lexicon.complete value)

end Lexicon

end Kurdistan.Support
