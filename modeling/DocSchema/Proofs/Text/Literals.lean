import DocSchema.Json.Reader
import DocSchema.Text.Printable
import Mathlib.Data.List.Basic

/-!
# Readers of string literals and of format strings

Text between quotes is read character by character, and what is read goes with a state: behind a
backslash a letter stands for a character, behind `\u` the digits in braces do. A quote, a line
break or a malformed escape is refused, and so is an end behind a backslash (`unescape`). The
characters of a format string are read in the same manner: a doubled brace stands for itself, a
single one begins a placeholder (`formatPieces`).

A character that is escaped for a literal reads back as that character alone, wherever whole
characters end (`readAll_escapeChar`), and so does a doubled brace (`readAll_bracedChar`).
-/

namespace DocSchema.Text

section Reading

variable {σ α : Type}

/-- What a reader that goes character by character makes of a text: the state that it ends in and
the items that it has read, unless it refuses a character. -/
def readAll (next : σ → Char → Option (σ × List α)) (s : σ) : List Char → Option (σ × List α)
  | [] => some (s, [])
  | c :: rest => do
    let (s', items) ← next s c
    let (last, more) ← readAll next s' rest
    return (last, items ++ more)

variable {next : σ → Char → Option (σ × List α)} {s t : σ}

/-- One character is read by one step. -/
theorem readAll_singleton (c : Char) : readAll next s [c] = next s c := by
  cases hnext : next s c <;> simp [readAll, hnext]

/-- A text is read part by part. -/
theorem readAll_append {front : List Char} {items : List α}
    (hfront : readAll next s front = some (t, items)) (back : List Char) :
    readAll next s (front ++ back) =
      (readAll next t back).map fun (last, more) => (last, items ++ more) := by
  induction front generalizing s items with
  | nil =>
    obtain ⟨rfl, rfl⟩ : s = t ∧ [] = items := by simpa [readAll] using hfront
    simp
  | cons c front ih =>
    obtain ⟨⟨s', first⟩, hnext, hfirst⟩ := Option.bind_eq_some_iff.1 hfront
    obtain ⟨⟨t', between⟩, hrest, hbetween⟩ := Option.bind_eq_some_iff.1 hfirst
    obtain ⟨rfl, rfl⟩ : t' = t ∧ first ++ between = items := by simpa using hbetween
    cases hback : readAll next t' back <;> simp [readAll, hnext, ih hrest, hback]

/-- If what is written for a character reads back from a state to the same state, all that is
written for a text does. -/
theorem readAll_flatMap {spell : Char → List Char} {meant : Char → List α}
    (hspell : ∀ c, readAll next s (spell c) = some (s, meant c)) (chars : List Char) :
    readAll next s (chars.flatMap spell) = some (s, chars.flatMap meant) := by
  induction chars with
  | nil => rfl
  | cons c chars ih =>
    rw [List.flatMap_cons, readAll_append (hspell c), ih]
    rfl

/-- What a reader makes of a text that ends where it begins, between whole items. -/
def readWhole [DecidableEq σ] (next : σ → Char → Option (σ × List α)) (home : σ)
    (text : List Char) : Option (List α) := do
  let (last, items) ← readAll next home text
  if last = home then some items else none

/-- A front that is read whole goes before what is read of the rest. -/
theorem readWhole_append [DecidableEq σ] {front : List Char} {items : List α}
    (hfront : readAll next s front = some (s, items)) (back : List Char) :
    readWhole next s (front ++ back) = (readWhole next s back).map (items ++ ·) := by
  rw [readWhole, readWhole, readAll_append hfront]
  cases readAll next s back with
  | none => rfl
  | some result =>
    obtain ⟨last, more⟩ := result
    by_cases hlast : last = s <;> simp [hlast]

/-- A character that is refused in every state is in no text that is read. -/
theorem notMem_of_readAll {c : Char} (hc : ∀ s, next s c = none) {chars : List Char}
    {items : List α} (h : readAll next s chars = some (t, items)) : c ∉ chars := by
  induction chars generalizing s items with
  | nil => exact List.not_mem_nil
  | cons d chars ih =>
    obtain ⟨⟨s', first⟩, hnext, hfirst⟩ := Option.bind_eq_some_iff.1 h
    obtain ⟨⟨t', more⟩, hrest, hmore⟩ := Option.bind_eq_some_iff.1 hfirst
    obtain ⟨rfl, -⟩ : t' = t ∧ first ++ more = items := by simpa using hmore
    rintro (_ | ⟨_, hmem⟩)
    · simp [hc s] at hnext
    · exact ih hrest hmem

end Reading

section Literals

/-- What a reader of a string literal has behind it since the last whole character. -/
inductive Inside where
  /-- Nothing. -/
  | between
  /-- A backslash. -/
  | slash
  /-- A backslash and the letter `u`. -/
  | code
  /-- The opening brace of a code point and its digits so far, by their number and value. -/
  | digits (count value : Nat)
deriving DecidableEq, Repr

/-- The character that a letter after a backslash stands for. -/
def letterChar (letter : Char) : Option Char :=
  if letter = '0' then some '\x00'
  else if letter = 't' then some '\t'
  else if letter = 'r' then some '\r'
  else if letter = 'n' then some '\n'
  else if letter = '\\' || letter = '"' || letter = '\'' then some letter
  else none

/-- What a character of a literal leads to and the character that it completes, unless it may not
stand there. A code point has one to six digits. -/
def Inside.next : Inside → Char → Option (Inside × List Char)
  | between, c =>
    if c = '"' ∨ c = '\r' ∨ c = '\n' then none
    else if c = '\\' then some (slash, [])
    else some (between, [c])
  | slash, c =>
    if c = 'u' then some (code, []) else (letterChar c).map fun meant => (between, [meant])
  | code, c => if c = '\x7b' then some (digits 0 0, []) else none
  | digits count value, c =>
    if c = '\x7d' then
      if 0 < count ∧ value.isValidChar then some (between, [Char.ofNat value]) else none
    else if count < 6 then
      (Reader.hexDigit? c).map fun digit => (digits (count + 1) (16 * value + digit), [])
    else none

/-- The characters that the text between the quotes of a literal stands for. `none` means that it
holds a quote or line break, that an escape is malformed or that the last one is not complete. -/
def unescape : List Char → Option (List Char) := readWhole Inside.next .between

/-- A line break is refused everywhere in a literal. -/
theorem lineBreak_notMem_of_readAll {s t : Inside} {text chars : List Char}
    (h : readAll Inside.next s text = some (t, chars)) : '\n' ∉ text ∧ '\r' ∉ text := by
  have hrefused : ∀ c, c = '\n' ∨ c = '\r' → ∀ s, Inside.next s c = none := by
    rintro c (rfl | rfl) (_ | _ | _ | ⟨count, value⟩) <;>
      simp [Inside.next, letterChar, Reader.hexDigit?]
  exact ⟨notMem_of_readAll (hrefused _ (.inl rfl)) h, notMem_of_readAll (hrefused _ (.inr rfl)) h⟩

/-- A letter is read as the character that has it. -/
theorem letterChar_of_escapeLetter {c letter : Char} (h : escapeLetter c = some letter) :
    letter ≠ 'u' ∧ letterChar letter = some c := by
  rw [escapeLetter] at h
  split_ifs at h with hzero htab hreturn hfeed hself
  all_goals obtain rfl := Option.some.inj h
  · exact ⟨by decide, hzero ▸ by decide⟩
  · exact ⟨by decide, htab ▸ by decide⟩
  · exact ⟨by decide, hreturn ▸ by decide⟩
  · exact ⟨by decide, hfeed ▸ by decide⟩
  · have hcases : c = '\\' ∨ c = '"' ∨ c = '\'' := by simpa [or_assoc] using hself
    rcases hcases with rfl | rfl | rfl <;> decide

/-- The digits of a number are read as the number. -/
theorem readAll_toDigits {n : Nat} (h : (Nat.toDigits 16 n).length ≤ 6) :
    readAll Inside.next (.digits 0 0) (Nat.toDigits 16 n) =
      some (.digits (Nat.toDigits 16 n).length n, []) := by
  have hdigit : ∀ d < 16, Nat.digitChar d ≠ '\x7d' ∧
      Reader.hexDigit? (Nat.digitChar d) = some d := by decide
  have hstep : ∀ {count value d : Nat}, count < 6 → d < 16 →
      Inside.next (.digits count value) (Nat.digitChar d) =
        some (.digits (count + 1) (16 * value + d), []) := by
    intro count value d hcount hd
    simp [Inside.next, hdigit d hd, hcount]
  -- By induction on the number, which loses its last digit.
  induction n using Nat.strongRecOn with
  | ind n ih =>
    by_cases hlt : n < 16
    · rw [Nat.toDigits_of_lt_base hlt, readAll_singleton, hstep (by decide) hlt]
      simp
    · have hsplit : Nat.toDigits 16 n = Nat.toDigits 16 (n / 16) ++ [Nat.digitChar (n % 16)] := by
        rw [Nat.toDigits_eq_if (by decide), if_neg hlt]
      rw [hsplit, List.length_append, List.length_singleton] at h ⊢
      have hfront := ih (n / 16) (by omega) (by omega)
      have hlast : readAll Inside.next (.digits (Nat.toDigits 16 (n / 16)).length (n / 16))
          [Nat.digitChar (n % 16)] =
            some (.digits ((Nat.toDigits 16 (n / 16)).length + 1) n, []) := by
        rw [readAll_singleton, hstep h (Nat.mod_lt n (by decide)), Nat.div_add_mod]
      rw [readAll_append hfront, hlast]
      rfl

/-- A code point in digits is read as its character. -/
theorem readAll_escapeCodePoint (c : Char) :
    readAll Inside.next .between (escapeCodePoint c) = some (.between, [c]) := by
  have hbound : c.toNat < 16 ^ 6 := by
    have hvalid : c.toNat.isValidChar := c.valid
    rw [Nat.isValidChar] at hvalid
    omega
  have hlength := (Nat.length_toDigits_le_iff (by decide) (by decide)).2 hbound
  have hopen : readAll Inside.next .between ['\\', 'u', '\x7b'] = some (.digits 0 0, []) := by decide
  have hclose : readAll Inside.next (.digits (Nat.toDigits 16 c.toNat).length c.toNat) ['\x7d'] =
      some (.between, [c]) := by
    have hvalid : c.toNat.isValidChar := c.valid
    simp [readAll_singleton, Inside.next, Nat.length_toDigits_pos, hvalid]
  rw [escapeCodePoint, List.append_assoc, readAll_append hopen,
    readAll_append (readAll_toDigits hlength), hclose]
  rfl

/-- An escaped character is read as the character. -/
theorem readAll_escapeChar (c : Char) :
    readAll Inside.next .between (escapeChar c) = some (.between, [c]) := by
  rw [escapeChar]
  split
  · next letter hletter =>
    obtain ⟨hcode, hmeant⟩ := letterChar_of_escapeLetter hletter
    simp [readAll, Inside.next, hcode, hmeant]
  · next hnone =>
    split
    -- A character that needs no escape is none of those that the reader refuses.
    · have hplain : (c ≠ '"' ∧ c ≠ '\r' ∧ c ≠ '\n') ∧ c ≠ '\\' := by
        rw [escapeLetter] at hnone
        grind
      simp [readAll_singleton, Inside.next, hplain]
    · exact readAll_escapeCodePoint c

end Literals

section Formats

/-- A piece of a format string. -/
inductive Piece where
  /-- A character that is printed as it is. -/
  | char (c : Char)
  /-- A placeholder, with what stands between its braces. -/
  | placeholder (argument : List Char)
deriving DecidableEq, Repr

/-- What a reader of a format string has behind it since the last whole piece. -/
inductive Around where
  /-- Nothing. -/
  | between
  /-- An opening brace. -/
  | opened
  /-- A closing brace that ends no placeholder. -/
  | closed
  /-- The opening brace of a placeholder and some of what it holds. -/
  | argument (text : List Char)
deriving DecidableEq, Repr

/-- What a character of a format string leads to and the piece that it completes, unless it may not
stand there. -/
def Around.next : Around → Char → Option (Around × List Piece)
  | between, c =>
    if c = '\x7b' then some (opened, [])
    else if c = '\x7d' then some (closed, [])
    else some (between, [.char c])
  | opened, c =>
    if c = '\x7b' then some (between, [.char c])
    else if c = '\x7d' then some (between, [.placeholder []])
    else some (argument [c], [])
  | closed, c => if c = '\x7d' then some (between, [.char c]) else none
  | argument text, c =>
    if c = '\x7d' then some (between, [.placeholder text])
    else if c = '\x7b' then none
    else some (argument (text ++ [c]), [])

/-- The pieces of a format string. `none` means that a brace is neither doubled nor one of a
placeholder. -/
def formatPieces : List Char → Option (List Piece) := readWhole Around.next .between

/-- A character as it is written in a format string: a brace twice, any other once. -/
def bracedChar (c : Char) : List Char := if c = '\x7b' ∨ c = '\x7d' then [c, c] else [c]

/-- A character of a format string is read as the character. -/
theorem readAll_bracedChar (c : Char) :
    readAll Around.next .between (bracedChar c) = some (.between, [.char c]) := by
  rw [bracedChar]
  split
  · next hbrace => rcases hbrace with rfl | rfl <;> decide
  · next hplain =>
    obtain ⟨hopen, hclose⟩ := not_or.1 hplain
    simp [readAll_singleton, Around.next, hopen, hclose]

end Formats

end DocSchema.Text
