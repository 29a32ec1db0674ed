import DocSchema.Proofs.Text.Words
import DocSchema.Source.Identifier

/-!
# Names that meet in generated code

Different names of a document may have one identifier in generated code. Two names have one bare
name if they agree in snake case, or one of them begins with a digit there and the other one with
the letter that is put before it (`bareName_eq_iff`); fields and modules meet where bare names do
(`fieldName_eq_iff`), as the mark of a raw identifier follows from the bare name. Types meet in
camel case in the same way, or where one is another one with the ending of reserved types
(`typeName_eq_iff`).
-/

namespace DocSchema.Source

open Text

/-- A text needs a letter if it has no first character or that is a digit. -/
theorem needsLetter_iff {text : String} :
    needsLetter text = true ↔ ∀ c, text.toList.head? = some c → c.isDigit = true := by
  rw [needsLetter]
  cases text.toList <;> simp

/-- What a bare name is made of. -/
theorem bareName_cases (name : String) :
    needsLetter (snakeCase name) = true ∧ bareName name = "f_" ++ snakeCase name ∨
      snakeCase name ∈ pathKeywords ∧ bareName name = snakeCase name ++ "_" ∨
      needsLetter (snakeCase name) = false ∧ snakeCase name ∉ pathKeywords ∧
        bareName name = snakeCase name := by
  rw [bareName]
  by_cases hletter : needsLetter (snakeCase name) = true
  · exact .inl ⟨hletter, if_pos hletter⟩
  · by_cases hpath : snakeCase name ∈ pathKeywords
    · simp [hletter, hpath]
    · simp [hletter, hpath]

/-- What the name of a type is made of. -/
theorem typeName_cases (name : String) :
    needsLetter (camelCase name) = true ∧ typeName name = "C" ++ camelCase name ∨
      camelCase name ∈ reservedTypes ∧ typeName name = camelCase name ++ "Class" ∨
      needsLetter (camelCase name) = false ∧ camelCase name ∉ reservedTypes ∧
        typeName name = camelCase name := by
  rw [typeName]
  by_cases hletter : needsLetter (camelCase name) = true
  · exact .inl ⟨hletter, if_pos hletter⟩
  · by_cases hreserved : camelCase name ∈ reservedTypes
    · simp [hletter, hreserved]
    · simp [hletter, hreserved]

section BareNames

/-- A bare name holds word characters and underscores. -/
theorem wordChar_or_of_mem_bareName {name : String} {c : Char} (hc : c ∈ (bareName name).toList) :
    WordChar c ∨ c = '_' := by
  rcases bareName_cases name with ⟨-, h⟩ | ⟨-, h⟩ | ⟨-, -, h⟩
  · rw [h, String.toList_append, List.mem_append] at hc
    rcases hc with hc | hc
    · simp only [List.mem_cons, List.not_mem_nil, or_false, String.reduceToList] at hc
      rcases hc with rfl | rfl
      · exact .inl (by decide)
      · exact .inr rfl
    · exact wordChar_or_of_mem_snakeCase hc
  · rw [h, String.toList_append, List.mem_append] at hc
    rcases hc with hc | hc
    · exact wordChar_or_of_mem_snakeCase hc
    · exact .inr (by simpa using hc)
  · exact wordChar_or_of_mem_snakeCase (h ▸ hc)

/-- A bare name holds no other character. -/
theorem notMem_bareName {name : String} {c : Char} (hword : ¬ WordChar c) (hc : c ≠ '_') :
    c ∉ (bareName name).toList := fun hmem =>
  (wordChar_or_of_mem_bareName hmem).elim hword hc

/-- A text with the letter that is put before digits needs no letter and is no keyword. -/
theorem bareName_of_marked {name text : String} (h : snakeCase name = "f_" ++ text) :
    bareName name = snakeCase name := by
  have hpaths : ∀ word ∈ pathKeywords, word.toList.head? ≠ some 'f' := by decide
  have hhead : (snakeCase name).toList.head? = some 'f' := by simp [h]
  rcases bareName_cases name with ⟨hletter, -⟩ | ⟨hpath, -⟩ | ⟨-, -, heq⟩
  · exact absurd (needsLetter_iff.1 hletter _ hhead) (by decide)
  · exact absurd hhead (hpaths _ hpath)
  · exact heq

/-- A name that has, in snake case, the letter that another one needs there. -/
def SnakeExtends (longer name : String) : Prop :=
  needsLetter (snakeCase name) = true ∧ snakeCase longer = "f_" ++ snakeCase name

/-- A name that has the letter another one needs has the bare name of that one. -/
theorem bareName_of_extends {longer name : String} (h : SnakeExtends longer name) :
    bareName name = bareName longer := by
  rw [bareName_of_marked h.2, h.2, bareName]
  exact if_pos h.1

/-- Names have one bare name if and only if they agree in snake case, or one of them has the letter
that the other one needs. -/
theorem bareName_eq_iff {a b : String} :
    bareName a = bareName b ↔ snakeCase a = snakeCase b ∨ SnakeExtends b a ∨ SnakeExtends a b := by
  have hpaths : ∀ word ∈ pathKeywords, word.toList.head? ≠ some 'f' := by decide
  -- A name in snake case ends in no underscore, a keyword with a mark does.
  have hend : ∀ x y : String, snakeCase x ≠ y ++ "_" := by
    intro x y h
    have hlast : (snakeCase x).toList.getLast? = some '_' := by simp [h]
    exact absurd (wordChar_of_getLast?_snakeCase hlast) (by decide)
  have hmarked : ∀ x word : String, word ∈ pathKeywords → "f_" ++ x ≠ word ++ "_" := by
    intro x word hword h
    have hchars := congrArg String.toList h
    have hne : word.toList ≠ [] := by
      have : ∀ word ∈ pathKeywords, word.toList ≠ [] := by decide
      exact this word hword
    obtain ⟨c, rest, hcons⟩ := List.exists_cons_of_ne_nil hne
    refine hpaths word hword ?_
    rw [String.toList_append, String.toList_append, hcons] at hchars
    rw [hcons]
    have hfirst := congrArg List.head? hchars
    simpa [eq_comm] using hfirst
  constructor
  · intro h
    rcases bareName_cases a with ⟨ha, ha'⟩ | ⟨ha, ha'⟩ | ⟨-, -, ha'⟩ <;>
      rcases bareName_cases b with ⟨hb, hb'⟩ | ⟨hb, hb'⟩ | ⟨-, -, hb'⟩ <;> rw [ha', hb'] at h
    · exact .inl (by simpa using h)
    · exact absurd h (hmarked _ _ hb)
    · exact .inr (.inl ⟨ha, h.symm⟩)
    · exact absurd h.symm (hmarked _ _ ha)
    · exact .inl (by simpa using h)
    · exact absurd h.symm (hend b _)
    · exact .inr (.inr ⟨hb, h⟩)
    · exact absurd h (hend a _)
    · exact .inl h
  · rintro (h | h | h)
    · rw [bareName, bareName, h]
    · exact bareName_of_extends h
    · exact (bareName_of_extends h).symm

/-- A class has the bare name of the module file if and only if it has that in snake case. -/
theorem bareName_eq_mod_iff {name : String} : bareName name = "mod" ↔ snakeCase name = "mod" := by
  have hbare : bareName "mod" = "mod" := by decide +kernel
  have hsnake : snakeCase "mod" = "mod" := by decide +kernel
  have hmarked : "mod" ≠ "f_" ++ snakeCase name := by
    intro h
    have hhead := congrArg (fun text : String => text.toList.head?) h
    simp at hhead
  have hletter : needsLetter "mod" = false := by decide
  calc bareName name = "mod" ↔ bareName name = bareName "mod" := by rw [hbare]
    _ ↔ snakeCase name = "mod" := by
      rw [bareName_eq_iff, SnakeExtends, SnakeExtends, hsnake]
      simp [hmarked, hletter]

/-- A field or module has its bare name, marked where that is a keyword that may be written raw. -/
theorem fieldName_eq (name : String) :
    fieldName name =
      if bareName name ∈ rawKeywords then "r#" ++ bareName name else bareName name := by
  have hraw : ∀ word ∈ rawKeywords, word.toList[1]? ≠ some '_' := by decide
  have hpath : ∀ word ∈ pathKeywords, needsLetter word = false ∧ word ++ "_" ∉ rawKeywords := by
    decide
  rw [fieldName]
  rcases bareName_cases name with ⟨hletter, h⟩ | ⟨hword, h⟩ | ⟨hletter, hword, h⟩
  · have hnone : "f_" ++ snakeCase name ∉ rawKeywords := fun hmem => hraw _ hmem (by simp)
    rw [h, if_neg hnone]
    exact if_pos hletter
  · rw [h, if_neg (hpath _ hword).2]
    simp [(hpath _ hword).1, hword]
  · simp [h, hletter, hword]

/-- Fields and modules have one name if and only if the bare names are one. -/
theorem fieldName_eq_iff {a b : String} : fieldName a = fieldName b ↔ bareName a = bareName b := by
  -- No bare name holds the sign that marks a raw identifier.
  have hmark : ∀ x y : String, "r#" ++ x ≠ bareName y := by
    intro x y h
    exact notMem_bareName (by decide) (by decide) (show '#' ∈ (bareName y).toList by simp [← h])
  constructor
  · intro h
    rw [fieldName_eq, fieldName_eq] at h
    split at h <;> split at h
    · simpa using h
    · exact absurd h (hmark _ b)
    · exact absurd h.symm (hmark _ a)
    · exact h
  · intro h
    rw [fieldName_eq, fieldName_eq, h]

/-- The name of a field or module holds no other character but the sign of raw identifiers. -/
theorem notMem_fieldName {name : String} {c : Char} (hword : ¬ WordChar c) (hc : c ≠ '_')
    (hraw : c ≠ '#') : c ∉ (fieldName name).toList := by
  have hr : c ≠ 'r' := fun h => hword (h ▸ by decide)
  rw [fieldName_eq]
  split
  · simp [hr, hraw, notMem_bareName hword hc]
  · exact notMem_bareName hword hc

end BareNames

section TypeNames

/-- A type holds name characters. -/
theorem nameChar_of_mem_typeName {name : String} {c : Char} (hc : c ∈ (typeName name).toList) :
    NameChar c := by
  have hclass : ("Class".toList.all fun d => decide (NameChar d)) = true := by decide
  rcases typeName_cases name with ⟨-, h⟩ | ⟨-, h⟩ | ⟨-, -, h⟩
  · rw [h, String.toList_append, List.mem_append] at hc
    rcases hc with hc | hc
    · rw [show c = 'C' by simpa using hc]
      decide
    · exact nameChar_of_mem_camelCase hc
  · rw [h, String.toList_append, List.mem_append] at hc
    rcases hc with hc | hc
    · exact nameChar_of_mem_camelCase hc
    · exact of_decide_eq_true (List.all_eq_true.1 hclass c hc)
  · exact nameChar_of_mem_camelCase (h ▸ hc)

/-- A type holds no sign. -/
theorem notMem_typeName {name : String} {c : Char} (hc : ¬ NameChar c) :
    c ∉ (typeName name).toList := fun hmem => hc (nameChar_of_mem_typeName hmem)

/-- A reserved type begins with a letter, and with another letter behind that. -/
theorem letters_of_mem_reservedTypes {word : String} (h : word ∈ reservedTypes) :
    ∃ c d rest, word.toList = c :: d :: rest ∧ c.isDigit = false ∧ d.isDigit = false := by
  have hall : ∀ word ∈ reservedTypes, (word.toList.take 2).map Char.isDigit = [false, false] := by
    decide
  have hword := hall word h
  match hchars : word.toList with
  | [] => simp [hchars] at hword
  | [c] => simp [hchars] at hword
  | c :: d :: rest => exact ⟨c, d, rest, rfl, by simpa [hchars] using hword⟩

/-- A text that needs a letter does not become that of a reserved type by it, with any ending. -/
theorem marked_ne_reserved {text word ending : String} (htext : needsLetter text = true)
    (hword : word ∈ reservedTypes) : "C" ++ text ≠ word ++ ending := by
  intro h
  obtain ⟨c, d, rest, hchars, -, hd⟩ := letters_of_mem_reservedTypes hword
  have hsame := congrArg String.toList h
  simp only [String.toList_append, hchars, List.cons_append, String.reduceToList, List.nil_append,
    List.cons.injEq] at hsame
  have hdigit := needsLetter_iff.1 htext d (by rw [hsame.2]; rfl)
  exact absurd hdigit (by simp [hd])

/-- A name that has, in camel case, the letter that another one needs there, or the ending that
another one gets because it is reserved. -/
def CamelExtends (longer name : String) : Prop :=
  needsLetter (camelCase name) = true ∧ camelCase longer = "C" ++ camelCase name ∨
    camelCase name ∈ reservedTypes ∧ camelCase longer = camelCase name ++ "Class"

/-- A name that has what another one gets has the type of that one. -/
theorem typeName_of_extends {longer name : String} (h : CamelExtends longer name) :
    typeName name = typeName longer := by
  have hself : ∀ word ∈ reservedTypes, word ++ "Class" ∉ reservedTypes := by decide
  rcases h with ⟨hletter, hlonger⟩ | ⟨hreserved, hlonger⟩
  · have hname : typeName name = camelCase longer := by
      rw [hlonger, typeName]
      exact if_pos hletter
    rcases typeName_cases longer with ⟨hl, -⟩ | ⟨hl, -⟩ | ⟨-, -, hl⟩
    · exact absurd (needsLetter_iff.1 hl 'C' (by simp [hlonger])) (by decide)
    · exact absurd (by rw [hlonger, String.append_empty]) (marked_ne_reserved hletter hl)
    · rw [hname, hl]
  · obtain ⟨c, d, rest, hchars, hc, -⟩ := letters_of_mem_reservedTypes hreserved
    have hnone : ∀ ending, needsLetter (camelCase name ++ ending) = false := by
      intro ending
      rw [Bool.eq_false_iff]
      intro hl
      have hdigit := needsLetter_iff.1 hl c (by simp [hchars])
      simp [hc] at hdigit
    have hname : typeName name = camelCase longer := by
      rcases typeName_cases name with ⟨hl, -⟩ | ⟨-, hl⟩ | ⟨-, hl, -⟩
      · have := hnone ""
        rw [String.append_empty, hl] at this
        exact absurd this (by decide)
      · rw [hl, hlonger]
      · exact absurd hreserved hl
    rcases typeName_cases longer with ⟨hl, -⟩ | ⟨hl, -⟩ | ⟨-, -, hl⟩
    · rw [hlonger, hnone] at hl
      exact absurd hl (by decide)
    · exact absurd (hlonger ▸ hl) (hself _ hreserved)
    · rw [hname, hl]

/-- Names have one type if and only if they agree in camel case, or one of them has what the other
one gets. -/
theorem typeName_eq_iff {a b : String} :
    typeName a = typeName b ↔ camelCase a = camelCase b ∨ CamelExtends b a ∨ CamelExtends a b := by
  constructor
  · intro h
    rcases typeName_cases a with ⟨ha, ha'⟩ | ⟨ha, ha'⟩ | ⟨-, -, ha'⟩ <;>
      rcases typeName_cases b with ⟨hb, hb'⟩ | ⟨hb, hb'⟩ | ⟨-, -, hb'⟩ <;> rw [ha', hb'] at h
    · exact .inl (by simpa using h)
    · exact absurd h (marked_ne_reserved ha hb)
    · exact .inr (.inl (.inl ⟨ha, h.symm⟩))
    · exact absurd h.symm (marked_ne_reserved hb ha)
    · exact .inl (by simpa using h)
    · exact .inr (.inl (.inr ⟨ha, h.symm⟩))
    · exact .inr (.inr (.inl ⟨hb, h⟩))
    · exact .inr (.inr (.inr ⟨hb, h⟩))
    · exact .inl h
  · rintro (h | h | h)
    · rw [typeName, typeName, h]
    · exact typeName_of_extends h
    · exact (typeName_of_extends h).symm

end TypeNames

end DocSchema.Source
