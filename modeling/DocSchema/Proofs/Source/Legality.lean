import DocSchema.Proofs.Source.Identifiers
import DocSchema.Proofs.Text.IdentifierCharacters

/-!
# Which names give legal identifiers

Neither the name of a field nor that of a type is a keyword, is empty or begins with a digit of
ASCII, and that of a type is not reserved (`notMem_keywords_fieldName`, `needsLetter_fieldName`,
`notMem_keywords_typeName`, `notMem_reservedTypes_typeName`, `needsLetter_typeName`). Nothing else
is seen to: the letters and numerals of a name may have no place in an identifier, or begin with a
digit of another script or with a mark, before which no letter is put. `legal_iff` says of every
name when its field and its type are legal, and `legal_of_ascii` that they are if no character
stands beyond ASCII.
-/

namespace DocSchema.Source

open Text

/-- An identifier: a character that may begin one, and characters that may go on in one. -/
def IsIdentifier (text : String) : Prop :=
  ∃ first rest, text.toList = first :: rest ∧ begins first = true ∧ rest.all continues = true

instance (text : String) : Decidable (IsIdentifier text) :=
  match htext : text.toList with
  | [] => isFalse (by simp [IsIdentifier, htext])
  | first :: rest =>
    decidable_of_iff (begins first = true ∧ rest.all continues = true)
      (by simp [IsIdentifier, htext])

/-- The keywords. -/
def keywords : List String := rawKeywords ++ pathKeywords

/-- A field may have the name: an identifier that is no keyword, or a keyword written raw. -/
def LegalField (text : String) : Prop :=
  IsIdentifier text ∧ text ∉ keywords ∨ ∃ word ∈ rawKeywords, text = "r#" ++ word

instance (text : String) : Decidable (LegalField text) :=
  inferInstanceAs (Decidable
    (IsIdentifier text ∧ text ∉ keywords ∨ ∃ word ∈ rawKeywords, text = "r#" ++ word))

/-- A type may have the name: an identifier that is neither a keyword nor reserved. -/
def LegalType (text : String) : Prop :=
  IsIdentifier text ∧ text ∉ keywords ∧ text ∉ reservedTypes

instance (text : String) : Decidable (LegalType text) :=
  inferInstanceAs (Decidable (IsIdentifier text ∧ text ∉ keywords ∧ text ∉ reservedTypes))

/-- An identifier can be made of the characters: all may go on in one, and the first has the
property `lead` or is a digit of ASCII, before which a letter is put. -/
def Suits (lead : Char → Bool) (cs : List Char) : Prop :=
  cs.all continues = true ∧ ∀ c ∈ cs.head?, lead c = true ∨ c.isDigit = true

section Characters

/-- An identifier can be made of a word if and only if one can be made of it in another case. -/
theorem suits_iff_of_fits {lead : Char → Bool} {word image : List Char}
    (h : Fits lead word image) : Suits lead word ↔ Suits begins image := by
  rw [Suits, Suits, h.all]
  refine and_congr_right fun _ => ?_
  have hhead := h.head
  cases hword : word.head? with
  | none =>
    have himage : image.head? = none := by simpa [hword] using hhead
    simp [himage]
  | some c =>
    obtain ⟨d, himage, hd⟩ : ∃ d, image.head? = some d ∧
        (begins d, d.isDigit) = (lead c, c.isDigit) := by
      simpa [hword] using hhead
    obtain ⟨hbegins, hdigit⟩ := Prod.mk.inj hd
    simp [himage, hbegins, hdigit]

/-- A text that needs no letter is an identifier if and only if one can be made of it. -/
theorem isIdentifier_iff {text : String} (h : needsLetter text = false) :
    IsIdentifier text ↔ Suits begins text.toList := by
  rw [needsLetter] at h
  rw [IsIdentifier, Suits]
  cases htext : text.toList with
  | nil => simp [htext] at h
  | cons c rest =>
    have hdigit : c.isDigit = false := by simpa [htext] using h
    constructor
    · rintro ⟨first, others, heq, hbegins, hall⟩
      obtain ⟨rfl, rfl⟩ := List.cons.inj heq
      rw [List.all_cons, continues_of_begins hbegins, hall]
      simp [hbegins]
    · rintro ⟨hall, hhead⟩
      rw [List.all_cons, Bool.and_eq_true] at hall
      have hbegins := hhead c rfl
      rw [hdigit] at hbegins
      exact ⟨c, rest, rfl, by simpa using hbegins, hall.2⟩

/-- With an identifier before it, a text that needs a letter is one if and only if one can be made
of it. -/
theorem isIdentifier_marked {front text : String} (hfront : IsIdentifier front)
    (htext : needsLetter text = true) :
    IsIdentifier (front ++ text) ↔ Suits begins text.toList := by
  obtain ⟨first, rest, heq, hbegins, hall⟩ := hfront
  have hdigit : ∀ c ∈ text.toList.head?, begins c = true ∨ c.isDigit = true := fun c hc =>
    .inr (needsLetter_iff.1 htext c hc)
  calc IsIdentifier (front ++ text) ↔ (rest ++ text.toList).all continues = true := by
        rw [IsIdentifier, String.toList_append, heq]
        simp [hbegins, or_imp, forall_and]
    _ ↔ text.toList.all continues = true := by rw [List.all_append, hall, Bool.true_and]
    _ ↔ Suits begins text.toList := (and_iff_left hdigit).symm

/-- By its characters, a keyword is an identifier. -/
theorem suits_of_mem_keywords {word : String} (h : word ∈ keywords) :
    Suits begins word.toList := by
  have hall : ∀ word ∈ keywords, needsLetter word = false ∧ IsIdentifier word := by decide +kernel
  exact (isIdentifier_iff (hall word h).1).1 (hall word h).2

end Characters

section Fields

/-- What the name of a field is made of. -/
theorem fieldName_cases (name : String) :
    needsLetter (snakeCase name) = true ∧ fieldName name = "f_" ++ snakeCase name ∨
      snakeCase name ∈ pathKeywords ∧ fieldName name = snakeCase name ++ "_" ∨
      snakeCase name ∈ rawKeywords ∧ fieldName name = "r#" ++ snakeCase name ∨
      needsLetter (snakeCase name) = false ∧ snakeCase name ∉ keywords ∧
        fieldName name = snakeCase name := by
  rw [fieldName, keywords]
  by_cases hletter : needsLetter (snakeCase name) = true
  · simp [hletter]
  · by_cases hpath : snakeCase name ∈ pathKeywords
    · simp [hletter, hpath]
    · by_cases hraw : snakeCase name ∈ rawKeywords <;> simp [hletter, hpath, hraw]

/-- The name of a field is no keyword. -/
theorem notMem_keywords_fieldName (name : String) : fieldName name ∉ keywords := by
  have hsecond : ∀ word ∈ keywords, word.toList[1]? ≠ some '_' ∧ word.toList[1]? ≠ some '#' := by
    decide
  have hpath : ∀ word ∈ pathKeywords, word ++ "_" ∉ keywords := by decide
  rcases fieldName_cases name with ⟨-, h⟩ | ⟨hword, h⟩ | ⟨-, h⟩ | ⟨-, hnone, h⟩ <;> rw [h]
  · exact fun hmem => (hsecond _ hmem).1 (by simp)
  · exact hpath _ hword
  · exact fun hmem => (hsecond _ hmem).2 (by simp)
  · exact hnone

/-- The name of a field is not empty and begins with no digit of ASCII. -/
theorem needsLetter_fieldName (name : String) : needsLetter (fieldName name) = false := by
  have hpath : ∀ word ∈ pathKeywords, needsLetter (word ++ "_") = false := by decide
  rcases fieldName_cases name with ⟨-, h⟩ | ⟨hword, h⟩ | ⟨-, h⟩ | ⟨hletter, -, h⟩ <;> rw [h]
  · simp [needsLetter]
  · exact hpath _ hword
  · simp [needsLetter]
  · exact hletter

/-- Without the sign of raw identifiers, a text that is no keyword is the name of a field if it is
an identifier. -/
theorem legalField_iff_isIdentifier {text : String} (hkeyword : text ∉ keywords)
    (hsign : '#' ∉ text.toList) : LegalField text ↔ IsIdentifier text := by
  have hraw : ¬ ∃ word ∈ rawKeywords, text = "r#" ++ word := by
    rintro ⟨word, -, rfl⟩
    exact hsign (by simp)
  rw [LegalField, or_iff_left hraw, and_iff_left hkeyword]

/-- The field of a name is legal if and only if an identifier can be made of the letters and
numerals of the name. -/
theorem legalField_iff (name : String) :
    LegalField (fieldName name) ↔ Suits begins (letters name) := by
  have hfront : IsIdentifier "f_" := by decide +kernel
  have hpath : ∀ word ∈ pathKeywords, LegalField (word ++ "_") := by decide +kernel
  have hkeyword := notMem_keywords_fieldName name
  have hsign : '#' ∉ (snakeCase name).toList := fun hc =>
    (wordChar_or_of_mem_snakeCase hc).elim (by decide) (by decide)
  rw [suits_iff_of_fits (fits_snakeCase name)]
  rcases fieldName_cases name with ⟨hletter, h⟩ | ⟨hword, h⟩ | ⟨hword, h⟩ | ⟨hletter, -, h⟩
  · rw [h] at hkeyword ⊢
    rw [legalField_iff_isIdentifier hkeyword (by simp [hsign]), isIdentifier_marked hfront hletter]
  · rw [h]
    exact iff_of_true (hpath _ hword) (suits_of_mem_keywords (List.mem_append_right _ hword))
  · rw [h]
    exact iff_of_true (.inr ⟨_, hword, rfl⟩)
      (suits_of_mem_keywords (List.mem_append_left _ hword))
  · rw [h] at hkeyword ⊢
    rw [legalField_iff_isIdentifier hkeyword hsign, isIdentifier_iff hletter]

end Fields

section Types

/-- The name of a type is no keyword. -/
theorem notMem_keywords_typeName (name : String) : typeName name ∉ keywords := by
  have hfirst : ∀ word ∈ keywords, word.toList.head? ≠ some 'C' := by decide
  have hreserved : ∀ word ∈ reservedTypes, word ++ "Class" ∉ keywords := by decide
  have hsmall : ∀ word ∈ keywords, word ∈ reservedTypes ∨
      (word.toList.head?.any fun c => 97 ≤ c.toNat && c.toNat ≤ 122) = true := by decide +kernel
  rcases typeName_cases name with ⟨-, h⟩ | ⟨hword, h⟩ | ⟨-, hnone, h⟩ <;> rw [h]
  · exact fun hmem => hfirst _ hmem (by simp)
  · exact hreserved _ hword
  · intro hmem
    rcases hsmall _ hmem with hword | hhead
    · exact hnone hword
    · obtain ⟨c, hc, hrange⟩ := (Option.any_eq_true _ _).1 hhead
      exact not_small_of_head?_camelCase hc (by simpa using hrange)

/-- The name of a type is not reserved. -/
theorem notMem_reservedTypes_typeName (name : String) : typeName name ∉ reservedTypes := by
  have hclass : ∀ word ∈ reservedTypes, word ++ "Class" ∉ reservedTypes := by decide
  rcases typeName_cases name with ⟨hletter, h⟩ | ⟨hword, h⟩ | ⟨-, hnone, h⟩ <;> rw [h]
  · exact fun hmem => marked_ne_reserved hletter hmem (String.append_empty).symm
  · exact hclass _ hword
  · exact hnone

/-- The name of a type is not empty and begins with no digit of ASCII. -/
theorem needsLetter_typeName (name : String) : needsLetter (typeName name) = false := by
  have hclass : ∀ word ∈ reservedTypes, needsLetter (word ++ "Class") = false := by decide
  rcases typeName_cases name with ⟨-, h⟩ | ⟨hword, h⟩ | ⟨hletter, -, h⟩ <;> rw [h]
  · simp [needsLetter]
  · exact hclass _ hword
  · exact hletter

/-- The type of a name is legal if and only if an identifier can be made of the letters and numerals
of the name, where the first may be the mark that becomes a capital. -/
theorem legalType_iff (name : String) :
    LegalType (typeName name) ↔ Suits capitalBegins (letters name) := by
  have hfront : IsIdentifier "C" := by decide +kernel
  have hreserved : ∀ word ∈ reservedTypes, needsLetter word = false ∧ IsIdentifier word ∧
      IsIdentifier (word ++ "Class") := by decide +kernel
  rw [LegalType, and_iff_left ⟨notMem_keywords_typeName name, notMem_reservedTypes_typeName name⟩,
    suits_iff_of_fits (fits_camelCase name)]
  rcases typeName_cases name with ⟨hletter, h⟩ | ⟨hword, h⟩ | ⟨hletter, -, h⟩ <;> rw [h]
  · exact isIdentifier_marked hfront hletter
  · obtain ⟨hletter, hidentifier, hclass⟩ := hreserved _ hword
    exact iff_of_true hclass ((isIdentifier_iff hletter).1 hidentifier)
  · exact isIdentifier_iff hletter

end Types

/-- Of every name, the field and the type are no keywords, not reserved and not empty, and begin
with no digit of ASCII; and each is legal if and only if all letters and numerals of the name may go
on in an identifier, and the first of them may begin one or is a digit of ASCII, where that of a
type may be the mark that becomes a capital. -/
theorem legal_iff (name : String) :
    (fieldName name ∉ keywords ∧ needsLetter (fieldName name) = false) ∧
      (typeName name ∉ keywords ∧ typeName name ∉ reservedTypes ∧
        needsLetter (typeName name) = false) ∧
      (LegalField (fieldName name) ↔ Suits begins (letters name)) ∧
      (LegalType (typeName name) ↔ Suits capitalBegins (letters name)) :=
  ⟨⟨notMem_keywords_fieldName name, needsLetter_fieldName name⟩,
    ⟨notMem_keywords_typeName name, notMem_reservedTypes_typeName name, needsLetter_typeName name⟩,
    legalField_iff name, legalType_iff name⟩

/-- No letter is put before a digit of another script, and no identifier may begin with one. -/
theorem not_legal_arabicDigit :
    ¬ LegalField (fieldName "\u0663a") ∧ ¬ LegalType (typeName "\u0663a") := by
  decide +kernel

/-- Names without characters beyond ASCII give legal identifiers. -/
theorem legal_of_ascii {name : String} (h : ∀ c ∈ name.toList, c.toNat < 128) :
    LegalField (fieldName name) ∧ LegalType (typeName name) := by
  have hcodes : ∀ n < 128, 48 ≤ n ∧ n ≤ 57 ∨ 65 ≤ n ∧ n ≤ 90 ∨ 97 ≤ n ∧ n ≤ 122 →
      goesOnAt n = true ∧ (startsAt n = true ∨ 48 ≤ n ∧ n ≤ 57) := by decide +kernel
  have hletters : ∀ c ∈ letters name,
      continues c = true ∧ (begins c = true ∨ c.isDigit = true) := by
    intro c hc
    obtain ⟨hmem, halpha⟩ := List.mem_filter.1 hc
    have hlt := h c hmem
    have hplace := nameChar_of_isAlphanumeric halpha
    obtain ⟨hgoesOn, hstarts⟩ := hcodes c.toNat hlt (by rw [NameChar] at hplace; omega)
    exact ⟨hgoesOn, hstarts.imp_right (by simp [isDigit_eq])⟩
  have hall : (letters name).all continues = true :=
    List.all_eq_true.2 fun c hc => (hletters c hc).1
  have hhead : ∀ c ∈ (letters name).head?, begins c = true ∨ c.isDigit = true := fun c hc =>
    (hletters c (List.mem_of_head? hc)).2
  refine ⟨(legalField_iff name).2 ⟨hall, hhead⟩, (legalType_iff name).2 ⟨hall, fun c hc => ?_⟩⟩
  exact (hhead c hc).imp_left (Bool.or_eq_true_iff.2 <| .inl ·)

end DocSchema.Source
