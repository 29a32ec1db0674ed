import DocSchema.Proofs.Source.Spelling

/-!
# Tokens of generated code

A line of code is read as a list of tokens: words, signs and string literals. `scan` reads it
character by character, and what is read goes with a state, so that a name is one word wherever it
stands (`IsWord.scan_word`) and a label never leaves the literal that it stands in (`scan_label`).
Indentation is no token, so that the tokens of code do not depend on its level
(`map_tokens_linesOf`).
-/

namespace DocSchema.Source

open Text Code

/-- A token of code. -/
inductive Token where
  /-- An identifier or a keyword. -/
  | word (text : String)
  /-- A sign. -/
  | sign (c : Char)
  /-- A string literal. -/
  | literal
deriving DecidableEq, Repr

/-- What a reader of code is in. -/
inductive Reading where
  /-- Code, behind the characters of a word. -/
  | code (word : List Char)
  /-- A string literal. -/
  | literal
  /-- A string literal, behind a backslash. -/
  | escaped

/-- A character that is a token by itself. The sign of raw identifiers belongs to their words. -/
def isSign (c : Char) : Bool :=
  decide (c.toNat < 128) && !c.isAlphanum && !(c == '_' || c == '#' || c == ' ' || c == '"')

/-- The token of a word, if there is one. -/
def wordToken (word : List Char) : List Token :=
  if word = [] then [] else [.word (String.ofList word)]

namespace Reading

/-- What a character leads to, and the tokens that it ends. -/
def next : Reading → Char → Reading × List Token
  | code word, c =>
    if c = '"' then (literal, wordToken word)
    else if c = ' ' then (code [], wordToken word)
    else if isSign c then (code [], wordToken word ++ [.sign c])
    else (code (word ++ [c]), [])
  | literal, c =>
    if c = '"' then (code [], [.literal])
    else if c = '\\' then (escaped, [])
    else (literal, [])
  | escaped, _ => (literal, [])

/-- The tokens that the end of a line ends. -/
def ending : Reading → List Token
  | code word => wordToken word
  | _ => []

end Reading

/-- The tokens of characters that a reader comes to. -/
def scan (r : Reading) : List Char → List Token
  | [] => r.ending
  | c :: rest => (r.next c).2 ++ scan (r.next c).1 rest

/-- The tokens of a line. -/
def tokens (line : String) : List Token := scan (.code []) line.toList

/-- A text that is one word of code. -/
structure IsWord (text : String) : Prop where
  /-- It is not empty. -/
  ne : text ≠ ""
  /-- None of its characters ends a word. -/
  plain : ∀ c ∈ text.toList, c ≠ '"' ∧ c ≠ ' ' ∧ isSign c = false

/-- The end of a line ends what is open. -/
@[simp] theorem scan_nil (r : Reading) : scan r [] = r.ending := rfl

/-- A reader goes on character by character. -/
@[simp] theorem scan_cons (r : Reading) (c : Char) (rest : List Char) :
    scan r (c :: rest) = (r.next c).2 ++ scan (r.next c).1 rest := rfl

/-- Behind a word that is not begun there is no token. -/
@[simp] theorem wordToken_nil : wordToken [] = [] := rfl

/-- A word that is begun is a token. -/
@[simp] theorem wordToken_cons (c : Char) (word : List Char) :
    wordToken (c :: word) = [.word (String.ofList (c :: word))] := rfl

section Words

/-- A word goes on with the characters of a word. -/
@[simp] theorem IsWord.scan_word {text : String} (h : IsWord text) (word rest : List Char) :
    scan (.code word) (text.toList ++ rest) = scan (.code (word ++ text.toList)) rest := by
  -- By induction on what is left of the word, behind any part of it that has been read.
  have hplain := h.plain
  generalize text.toList = chars at hplain ⊢
  induction chars generalizing word with
  | nil => simp
  | cons c chars ih =>
    obtain ⟨⟨hquote, hblank, hsign⟩, hrest⟩ := List.forall_mem_cons.1 hplain
    have hnext : Reading.next (.code word) c = (.code (word ++ [c]), []) := by
      simp [Reading.next, hquote, hblank, hsign]
    rw [List.cons_append, scan_cons, hnext, List.nil_append, ih _ hrest, List.append_assoc,
      List.singleton_append]

/-- The token of a word is that word. -/
@[simp] theorem IsWord.wordToken {text : String} (h : IsWord text) :
    wordToken text.toList = [.word text] := by
  have hne : text.toList ≠ [] := by simpa using h.ne
  rw [Source.wordToken, if_neg hne, String.ofList_toList]

/-- A text is a word if none of its characters is seen to end one. -/
theorem isWord_of_all {text : String} (hne : text ≠ "")
    (hall : (text.toList.all fun c => c ≠ '"' && c ≠ ' ' && !isSign c) = true) : IsWord text where
  ne := hne
  plain := by
    intro c hc
    have hplain := List.all_eq_true.1 hall c hc
    simpa [and_assoc] using hplain

/-- Words may be joined. -/
theorem IsWord.append {front back : String} (hfront : IsWord front) (hback : IsWord back) :
    IsWord (front ++ back) where
  ne := by simp [hfront.ne]
  plain := by
    intro c hc
    rw [String.toList_append, List.mem_append] at hc
    exact hc.elim (hfront.plain c) (hback.plain c)

/-- A word at the start of a line is its first token. -/
theorem tokens_word_append {w : String} (h : IsWord w) (text : String) :
    tokens (w ++ " " ++ text) = .word w :: tokens text := by
  simp [tokens, Reading.next, h]

/-- Name characters, underscores and the sign of raw identifiers end no word. -/
theorem plain_of_nameChar {c : Char} (h : NameChar c ∨ c = '_' ∨ c = '#') :
    c ≠ '"' ∧ c ≠ ' ' ∧ isSign c = false := by
  rcases h with h | rfl | rfl
  · have hquote : ¬ NameChar '"' := by decide
    have hblank : ¬ NameChar ' ' := by decide
    -- Within ASCII every place can be looked at, and beyond it there are no signs.
    have hascii : ∀ n < 128, NameChar (Char.ofNat n) → isSign (Char.ofNat n) = false := by decide
    have hsign : isSign c = false := by
      by_cases hlt : c.toNat < 128
      · have hplace := hascii c.toNat hlt
        rw [Char.ofNat_toNat] at hplace
        exact hplace h
      · simp [isSign, hlt]
    exact ⟨fun heq => hquote (heq ▸ h), fun heq => hblank (heq ▸ h), hsign⟩
  · decide
  · decide

/-- A text that needs no letter is not empty. -/
theorem ne_empty_of_needsLetter {text : String} (h : needsLetter text = false) : text ≠ "" := by
  rintro rfl
  exact absurd h (by decide)

/-- A bare name is one word. -/
theorem isWord_bareName (name : String) : IsWord (bareName name) where
  ne := by
    rcases bareName_cases name with ⟨-, h⟩ | ⟨-, h⟩ | ⟨hletter, -, h⟩
    · simp [h]
    · simp [h]
    · exact h ▸ ne_empty_of_needsLetter hletter
  plain := fun _ hc =>
    plain_of_nameChar ((wordChar_or_of_mem_bareName hc).imp WordChar.nameChar .inl)

/-- The name of a field or module is one word. -/
theorem isWord_fieldName (name : String) : IsWord (fieldName name) := by
  rw [fieldName_eq]
  split
  · exact IsWord.append (isWord_of_all (by decide) (by decide)) (isWord_bareName name)
  · exact isWord_bareName name

/-- The name of a type is one word. -/
theorem isWord_typeName (name : String) : IsWord (typeName name) where
  ne := by
    rcases typeName_cases name with ⟨-, h⟩ | ⟨-, h⟩ | ⟨hletter, -, h⟩
    · simp [h]
    · simp [h]
    · exact h ▸ ne_empty_of_needsLetter hletter
  plain := fun _ hc => plain_of_nameChar (.inl (nameChar_of_mem_typeName hc))

end Words

section Literals

/-- Hexadecimal digits hold nothing but digits. -/
theorem notMem_toDigits {c : Char} (hc : ∀ d, d < 16 → c ≠ Nat.digitChar d) (n : Nat) :
    c ∉ Nat.toDigits 16 n := by
  induction n using Nat.strongRecOn with
  | ind n ih =>
    rw [Nat.toDigits_eq_if (by decide)]
    split
    · next hlt => simp [hc n hlt]
    · next hle =>
      have hfront := ih (n / 16) (by omega)
      have hlast := hc (n % 16) (by omega)
      simp [hfront, hlast]

/-- The digits of a code point stay in a literal. -/
theorem scan_toDigits (n : Nat) (rest : List Char) :
    scan .literal (Nat.toDigits 16 n ++ rest) = scan .literal rest := by
  have hplain : ∀ c ∈ Nat.toDigits 16 n, c ≠ '"' ∧ c ≠ '\\' := by
    intro c hc
    constructor <;> rintro rfl
    · exact notMem_toDigits (by decide) n hc
    · exact notMem_toDigits (by decide) n hc
  generalize Nat.toDigits 16 n = digits at hplain ⊢
  induction digits with
  | nil => rfl
  | cons c digits ih =>
    obtain ⟨⟨hquote, hslash⟩, hrest⟩ := List.forall_mem_cons.1 hplain
    rw [List.cons_append, scan_cons, ← ih hrest]
    simp [Reading.next, hquote, hslash]

/-- A character of a label stays in a literal. -/
theorem scan_labelChar (c : Char) (rest : List Char) :
    scan .literal (labelChar c ++ rest) = scan .literal rest := by
  rw [labelChar]
  split
  -- A brace is doubled, any other character is spelled as in a literal.
  · next hbrace =>
    have hc : c ≠ '"' ∧ c ≠ '\\' := by grind
    simp [Reading.next, hc]
  · rw [escapeChar]
    split
    · simp [Reading.next]
    · next hnone =>
      have hc : c ≠ '"' ∧ c ≠ '\\' := by
        rw [escapeLetter] at hnone
        grind
      split
      · simp [Reading.next, hc]
      · simp [escapeCodePoint, Reading.next, scan_toDigits]

/-- A label stays in the literal that it stands in. -/
@[simp] theorem scan_label (name : String) (rest : List Char) :
    scan .literal ((label name).toList ++ rest) = scan .literal rest := by
  rw [label, String.toList_ofList]
  induction name.toList with
  | nil => rfl
  | cons c chars ih => rw [List.flatMap_cons, List.append_assoc, scan_labelChar, ih]

end Literals

section Lines

attribute [simp] isSign Reading.next Reading.ending

/-- Blanks are no tokens. -/
@[simp] theorem tokens_indentation (level : Nat) (text : String) :
    tokens (indentation level ++ text) = tokens text := by
  rw [tokens, tokens, String.toList_append, indentation, String.toList_ofList]
  induction 4 * level with
  | zero => rfl
  | succ n ih =>
    rw [List.replicate_succ, List.cons_append, scan_cons, ← ih]
    simp

/-- An empty line has no tokens. -/
@[simp] theorem tokens_empty : tokens "" = [] := rfl

/-- The tokens of the lines of code, line by line. -/
def lexed (codes : List Code) : List (List Token) := (linesOf 0 codes).map tokens

mutual

/-- The tokens of a piece of code do not depend on its level. -/
theorem map_tokens_linesAt (level : Nat) (code : Code) :
    (linesAt level code).map tokens = lexed [code] := by
  match code with
  | line text => simp [lexed, linesAt]
  | blank => simp [lexed, linesAt]
  | block head body =>
    have hbody := map_tokens_linesOf (level + 1) body
    have hfirst := map_tokens_linesOf 1 body
    simp [lexed, linesAt, hbody, hfirst]

/-- The tokens of pieces of code do not depend on their level. -/
theorem map_tokens_linesOf (level : Nat) (codes : List Code) :
    (linesOf level codes).map tokens = lexed codes := by
  match codes with
  | [] => rfl
  | code :: rest =>
    have hcode := map_tokens_linesAt level code
    have hrest := map_tokens_linesOf level rest
    simp [hcode, hrest, lexed]

end

/-- No code has no tokens. -/
@[simp] theorem lexed_nil : lexed [] = [] := rfl

/-- The tokens of code in two parts. -/
@[simp] theorem lexed_append (front back : List Code) :
    lexed (front ++ back) = lexed front ++ lexed back := by
  simp [lexed]

/-- The tokens of a line come first. -/
@[simp] theorem lexed_line (text : String) (rest : List Code) :
    lexed (line text :: rest) = tokens text :: lexed rest := by
  simp [lexed, linesAt]

/-- An empty line comes first. -/
@[simp] theorem lexed_blank (rest : List Code) : lexed (blank :: rest) = [] :: lexed rest := by
  simp [lexed, linesAt]

/-- The tokens of a block come first, its closing brace on a line of its own. -/
@[simp] theorem lexed_block (head : String) (body rest : List Code) :
    lexed (block head body :: rest) =
      tokens (head ++ " \x7b") :: (lexed body ++ [.sign '\x7d'] :: lexed rest) := by
  have hbody : (linesOf 1 body).map tokens = lexed body := map_tokens_linesOf 1 body
  have hend : tokens "\x7d" = [.sign '\x7d'] := by decide
  simp [lexed, linesAt, hbody, hend]

/-- The tokens of lines that are made one for each item. -/
@[simp] theorem lexed_map_line {α : Type} (items : List α) (text : α → String) :
    lexed (items.map fun a => line (text a)) = items.map fun a => tokens (text a) := by
  induction items with
  | nil => rfl
  | cons a items ih => rw [List.map_cons, lexed_line, ih, List.map_cons]

/-- The tokens of pieces of code that are made for each item. -/
theorem lexed_flatMap {α : Type} (items : List α) (code : α → List Code) :
    lexed (items.flatMap code) = items.flatMap fun a => lexed (code a) := by
  induction items with
  | nil => rfl
  | cons a items ih => rw [List.flatMap_cons, lexed_append, ih, List.flatMap_cons]

end Lines

end DocSchema.Source
