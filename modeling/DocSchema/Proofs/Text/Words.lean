import DocSchema.Proofs.Lists
import DocSchema.Text.Words

/-!
# What names in snake case and camel case are made of

The words of a name hold letters and numerals, and in lower case each of their characters is a small
letter or a digit of ASCII or stands beyond ASCII (`WordChar`). A name in snake case holds nothing
else but the underscores between words (`wordChar_or_of_mem_snakeCase`), so that it does not end in
one (`wordChar_of_getLast?_snakeCase`). A name in camel case may hold capitals as well, and nothing
else (`nameChar_of_mem_camelCase`). The words hold all letters and numerals of the name
(`flatten_words`).
-/

namespace DocSchema.Text

/-- A character that words in lower case may hold. -/
def WordChar (c : Char) : Prop :=
  48 ≤ c.toNat ∧ c.toNat ≤ 57 ∨ 97 ≤ c.toNat ∧ c.toNat ≤ 122 ∨ 128 ≤ c.toNat

instance (c : Char) : Decidable (WordChar c) :=
  inferInstanceAs (Decidable
    (48 ≤ c.toNat ∧ c.toNat ≤ 57 ∨ 97 ≤ c.toNat ∧ c.toNat ≤ 122 ∨ 128 ≤ c.toNat))

/-- A character that names in camel case may hold. -/
def NameChar (c : Char) : Prop :=
  48 ≤ c.toNat ∧ c.toNat ≤ 57 ∨ 65 ≤ c.toNat ∧ c.toNat ≤ 90 ∨ 97 ≤ c.toNat ∧ c.toNat ≤ 122 ∨
    128 ≤ c.toNat

instance (c : Char) : Decidable (NameChar c) :=
  inferInstanceAs (Decidable
    (48 ≤ c.toNat ∧ c.toNat ≤ 57 ∨ 65 ≤ c.toNat ∧ c.toNat ≤ 90 ∨ 97 ≤ c.toNat ∧ c.toNat ≤ 122 ∨
      128 ≤ c.toNat))

section Characters

/-- A code point in a run is between its ends. -/
theorem Run.le_of_contains {r : Run} {n : Nat} (h : r.contains n = true) :
    r.first ≤ n ∧ n ≤ r.last := by
  simp only [Run.contains, Bool.and_eq_true, decide_eq_true_eq] at h
  exact h.1

/-- Letters and numerals are name characters. -/
theorem nameChar_of_isAlphanumeric {c : Char} (h : isAlphanumeric c = true) : NameChar c := by
  have hruns : ∀ r ∈ alphanumericRuns, r = ⟨48, 57, 1⟩ ∨ r = ⟨65, 90, 1⟩ ∨ r = ⟨97, 122, 1⟩ ∨
      128 ≤ r.first := by decide +kernel
  obtain ⟨r, hr, hc⟩ := exists_run_of_memRuns h
  have hle := Run.le_of_contains hc
  rcases hruns r hr with rfl | rfl | rfl | hfirst
  · exact .inl hle
  · exact .inr (.inl hle)
  · exact .inr (.inr (.inl hle))
  · exact .inr (.inr (.inr (Nat.le_trans hfirst hle.1)))

/-- A case map leaves a code point as it is or moves it along with its run. -/
theorem moveCase_cases (runs : List CaseRun) (n : Nat) :
    (∃ r ∈ runs, r.source.contains n = true ∧
      moveCase runs n = r.target + (n - r.source.first)) ∨
      ((∀ r ∈ runs, r.source.contains n = false) ∧ moveCase runs n = n) := by
  induction runs with
  | nil => exact .inr ⟨by simp, rfl⟩
  | cons r rest ih =>
    rw [moveCase]
    cases hr : r.source.contains n with
    | true => exact .inl ⟨r, by simp, hr, rfl⟩
    | false =>
      rcases ih with ⟨s, hs, hn, heq⟩ | ⟨hnone, heq⟩
      · exact .inl ⟨s, by simp [hs], hn, heq⟩
      · exact .inr ⟨List.forall_mem_cons.2 ⟨hr, hnone⟩, heq⟩

/-- A code point that is no surrogate is that of its character. -/
theorem toNat_ofNat_of_valid {n : Nat} (h : n < 0xD800 ∨ 0xDFFF < n ∧ n < 0x110000) :
    (Char.ofNat n).toNat = n := by
  rw [Char.ofNat, dif_pos h]
  rfl

/-- The images of a run are no surrogates. -/
def CaseRun.valid (r : CaseRun) : Bool :=
  r.target + (r.source.last - r.source.first) < 0xD800 ||
    0xDFFF < r.target && r.target + (r.source.last - r.source.first) < 0x110000

/-- A character is moved to the character of the image of its code point. -/
theorem toNat_moveCase {runs : List CaseRun} (hruns : ∀ r ∈ runs, r.valid = true) (c : Char) :
    (Char.ofNat (moveCase runs c.toNat)).toNat = moveCase runs c.toNat := by
  rcases moveCase_cases runs c.toNat with ⟨r, hr, hcontains, heq⟩ | ⟨-, heq⟩
  · obtain ⟨hfirst, hlast⟩ := Run.le_of_contains hcontains
    have hvalid := hruns r hr
    simp only [CaseRun.valid, Bool.or_eq_true, Bool.and_eq_true, decide_eq_true_eq] at hvalid
    apply toNat_ofNat_of_valid
    rw [heq]
    omega
  · rw [heq, Char.ofNat_toNat]

/-- Lower case leads to no surrogate. -/
theorem valid_lowerRuns : ∀ r ∈ lowerRuns, r.valid = true := by decide +kernel

/-- Upper case leads to no surrogate. -/
theorem valid_upperRuns : ∀ r ∈ upperRuns, r.valid = true := by decide +kernel

/-- Small letters are word characters. -/
theorem wordChar_of_mem_toLower {c d : Char} (hc : isAlphanumeric c = true) (hd : d ∈ toLower c) :
    WordChar d := by
  -- The capitals of ASCII go to its small letters, all other runs to places beyond ASCII.
  have hruns : ∀ r ∈ lowerRuns,
      97 ≤ r.target ∧ r.target + (r.source.last - r.source.first) ≤ 122 ∨ 128 ≤ r.target := by
    decide +kernel
  have hcapitals : ⟨⟨65, 90, 1⟩, 97⟩ ∈ lowerRuns := by decide +kernel
  rw [toLower] at hd
  split at hd
  · simp only [List.mem_cons, List.not_mem_nil, or_false] at hd
    rcases hd with rfl | rfl <;> decide
  · obtain rfl := List.mem_singleton.1 hd
    rw [WordChar, toNat_moveCase valid_lowerRuns]
    rcases moveCase_cases lowerRuns c.toNat with ⟨r, hr, hcontains, heq⟩ | ⟨hnone, heq⟩
    · obtain ⟨hfirst, hlast⟩ := Run.le_of_contains hcontains
      rw [heq]
      rcases hruns r hr with h | h
      · exact .inr (.inl (by omega))
      · exact .inr (.inr (by omega))
    · rw [heq]
      rcases nameChar_of_isAlphanumeric hc with h | h | h | h
      · exact .inl h
      · have hcontains : (⟨65, 90, 1⟩ : Run).contains c.toNat = true := by
          simp [Run.contains, h, Nat.mod_one]
        exact absurd (hnone _ hcapitals) (by simp [hcontains])
      · exact .inr (.inl h)
      · exact .inr (.inr h)

/-- Small letters and digits are name characters. -/
theorem WordChar.nameChar {c : Char} (h : WordChar c) : NameChar c := by
  rcases h with h | h | h
  · exact .inl h
  · exact .inr (.inr (.inl h))
  · exact .inr (.inr (.inr h))

/-- What takes the place of a character in upper case is a capital of ASCII or stands beyond ASCII,
unless it is that character and no small letter of ASCII. -/
theorem mem_toUpper_cases {c d : Char} (hd : d ∈ toUpper c) :
    65 ≤ d.toNat ∧ d.toNat ≤ 90 ∨ 128 ≤ d.toNat ∨ d = c ∧ ¬ (97 ≤ c.toNat ∧ c.toNat ≤ 122) := by
  have hexpansions : ∀ entry ∈ upperExpansions, ∀ n ∈ entry.2,
      (65 ≤ n ∧ n ≤ 90 ∨ 128 ≤ n) ∧ n < 0xD800 := by
    decide +kernel
  -- Whatever goes to a place in ASCII goes to its capitals.
  have hruns : ∀ r ∈ upperRuns,
      65 ≤ r.target ∧ r.target + (r.source.last - r.source.first) ≤ 90 ∨ 128 ≤ r.target := by
    decide +kernel
  have hsmall : ⟨⟨97, 122, 1⟩, 65⟩ ∈ upperRuns := by decide +kernel
  rw [toUpper] at hd
  split at hd
  · next image hlookup =>
    obtain ⟨n, hn, rfl⟩ := List.mem_map.1 hd
    obtain ⟨hplace, hlt⟩ := hexpansions _ (mem_of_lookup_eq_some hlookup) n hn
    rw [toNat_ofNat_of_valid (.inl hlt)]
    omega
  · obtain rfl := List.mem_singleton.1 hd
    rw [toNat_moveCase valid_upperRuns]
    rcases moveCase_cases upperRuns c.toNat with ⟨r, hr, hcontains, heq⟩ | ⟨hnone, heq⟩
    · obtain ⟨hfirst, hlast⟩ := Run.le_of_contains hcontains
      rw [heq]
      rcases hruns r hr with h | h <;> omega
    · refine .inr (.inr ⟨by rw [heq, Char.ofNat_toNat], fun hc => ?_⟩)
      have hcontains : (⟨97, 122, 1⟩ : Run).contains c.toNat = true := by
        simp [Run.contains, hc, Nat.mod_one]
      exact absurd (hnone _ hsmall) (by simp [hcontains])

/-- Capitals are name characters. -/
theorem nameChar_of_mem_toUpper {c d : Char} (hc : isAlphanumeric c = true) (hd : d ∈ toUpper c) :
    NameChar d := by
  rcases mem_toUpper_cases hd with h | h | ⟨rfl, -⟩
  · exact .inr (.inl h)
  · exact .inr (.inr (.inr h))
  · exact nameChar_of_isAlphanumeric hc

end Characters

section Words

/-- The letters of a word that is put in lower case are word characters. -/
theorem wordChar_of_mem_lowerWord {word : List Char} {c : Char}
    (hword : ∀ d ∈ word, isAlphanumeric d = true) (hc : c ∈ lowerWord word) : WordChar c := by
  fun_induction lowerWord word with
  | case1 => simp at hc
  | case2 d hd =>
    obtain rfl := List.mem_singleton.1 hc
    decide
  | case3 d hd => exact wordChar_of_mem_toLower (hword d (by simp)) hc
  | case4 d rest hrest ih =>
    rcases List.mem_append.1 hc with hc | hc
    · exact wordChar_of_mem_toLower (hword d (by simp)) hc
    · exact ih (fun e he => hword e (by simp [he])) hc

/-- A word does not vanish in lower case. -/
theorem lowerWord_ne_nil {word : List Char} (h : word ≠ []) : lowerWord word ≠ [] := by
  have htoLower : ∀ c, toLower c ≠ [] := by
    intro c
    rw [toLower]
    split <;> simp
  fun_cases lowerWord word with
  | case1 => exact absurd rfl h
  | case2 => simp
  | case3 => exact htoLower _
  | case4 c rest => exact List.append_ne_nil_of_left_ne_nil (htoLower c) _

/-- Cutting a piece gives words, if a word with a capital has one. -/
theorem ne_nil_of_mem_cutByCase {mode : LetterMode} {word cs w : List Char}
    (hmode : mode = .upper → word ≠ []) (hw : w ∈ cutByCase mode word cs) : w ≠ [] := by
  fun_induction cutByCase mode word cs with
  | case1 => simp at hw
  | case2 mode word c => simp_all
  | case3 mode word c d rest _ ih =>
    rcases List.mem_cons.1 hw with rfl | hw
    · simp
    · exact ih (by simp) hw
  | case4 mode word c d rest _ hcut ih =>
    rcases List.mem_cons.1 hw with rfl | hw
    · simp only [Bool.and_eq_true, decide_eq_true_eq] at hcut
      simpa using hmode hcut.1.1
    · exact ih (by simp) hw
  | case5 mode word c d rest _ _ ih => exact ih (by simp) hw

/-- The words of a name are not empty. -/
theorem ne_nil_of_mem_words {name : String} {w : List Char} (hw : w ∈ words name) : w ≠ [] := by
  obtain ⟨piece, -, hw⟩ := List.mem_flatMap.1 hw
  exact ne_nil_of_mem_cutByCase (by simp) hw

/-- The words of a name hold letters and numerals. -/
theorem isAlphanumeric_of_mem_words {name : String} {w : List Char} {c : Char}
    (hw : w ∈ words name) (hc : c ∈ w) : isAlphanumeric c = true := by
  obtain ⟨piece, hpiece, hw⟩ := List.mem_flatMap.1 hw
  have hne : piece ≠ [] := by
    rintro rfl
    simp [cutByCase] at hw
  have hmem : c ∈ (cutByCase .fresh [] piece).flatten := List.mem_flatten.2 ⟨w, hw, hc⟩
  rw [flatten_cutByCase _ _ _ hne] at hmem
  exact isAlphanumeric_of_mem_pieces hpiece (by simpa using hmem)

/-- The pieces of a text hold all of its letters and numerals in order. -/
theorem flatten_pieces (cs : List Char) : (pieces cs).flatten = cs.filter isAlphanumeric := by
  induction cs with
  | nil => rfl
  | cons c rest ih =>
    rw [pieces]
    split
    · next hc =>
      rw [List.filter_cons_of_pos hc, ← ih]
      split
      · next hnone => simp [hnone]
      · next piece others hsome => simp [hsome]
    · next hc => rw [List.filter_cons_of_neg hc, ← ih, List.flatten_cons, List.nil_append]

/-- The letters and numerals of a name. -/
def letters (name : String) : List Char := name.toList.filter isAlphanumeric

/-- The words of a name hold all of its letters and numerals in order. -/
theorem flatten_words (name : String) : (words name).flatten = letters name := by
  have hcut : ∀ piece, (cutByCase .fresh [] piece).flatten = piece := by
    intro piece
    by_cases hpiece : piece = []
    · simp [hpiece, cutByCase]
    · simp [flatten_cutByCase _ _ _ hpiece]
  rw [letters, ← flatten_pieces, words]
  generalize pieces name.toList = parts
  induction parts with
  | nil => rfl
  | cons piece rest ih => rw [List.flatMap_cons, List.flatten_append, hcut, ih, List.flatten_cons]

end Words

/-- A name in snake case holds word characters and underscores. -/
theorem wordChar_or_of_mem_snakeCase {name : String} {c : Char}
    (hc : c ∈ (snakeCase name).toList) : WordChar c ∨ c = '_' := by
  rw [snakeCase, String.toList_ofList] at hc
  rcases mem_of_mem_intercalate hc with hc | ⟨w, hw, hc⟩
  · exact .inr (List.mem_singleton.1 hc)
  · obtain ⟨word, hword, rfl⟩ := List.mem_map.1 hw
    exact .inl (wordChar_of_mem_lowerWord (fun d => isAlphanumeric_of_mem_words hword) hc)

/-- A name in snake case ends in a word character. -/
theorem wordChar_of_getLast?_snakeCase {name : String} {c : Char}
    (hc : (snakeCase name).toList.getLast? = some c) : WordChar c := by
  rw [snakeCase, String.toList_ofList] at hc
  have hne : ∀ l ∈ (words name).map lowerWord, l ≠ [] := by
    intro l hl
    obtain ⟨word, hword, rfl⟩ := List.mem_map.1 hl
    exact lowerWord_ne_nil (ne_nil_of_mem_words hword)
  obtain ⟨l, hl, hc⟩ := mem_of_getLast?_intercalate hne hc
  obtain ⟨word, hword, rfl⟩ := List.mem_map.1 hl
  exact wordChar_of_mem_lowerWord (fun d => isAlphanumeric_of_mem_words hword) hc

/-- A name in camel case holds name characters. -/
theorem nameChar_of_mem_camelCase {name : String} {c : Char} (hc : c ∈ (camelCase name).toList) :
    NameChar c := by
  rw [camelCase, String.toList_ofList] at hc
  obtain ⟨word, hword, hc⟩ := List.mem_flatMap.1 hc
  have halpha : ∀ d ∈ word, isAlphanumeric d = true := fun d => isAlphanumeric_of_mem_words hword
  match word with
  | [] => simp [capitalWord] at hc
  | first :: rest =>
    rw [capitalWord, List.mem_append] at hc
    rcases hc with hc | hc
    · exact nameChar_of_mem_toUpper (halpha first (by simp)) hc
    · exact (wordChar_of_mem_lowerWord (fun d hd => halpha d (by simp [hd])) hc).nameChar

end DocSchema.Text
