import DocSchema.Text.Alphanumeric
import DocSchema.Text.LetterCase

/-!
# The words of a name

A name is cut into words at every character that is neither letter nor numeral, and inside such a
piece where the case turns: after a lower-case letter that an upper-case one follows, and before
the last upper-case letter of several when a lower-case one follows. `snakeCase` and `camelCase`
join the words again.
-/

namespace DocSchema.Text

/-- The case of the letters read last inside a word. -/
inductive LetterMode where
  /-- No letter with a case since the word began. -/
  | fresh
  /-- The last letter with a case was a lower-case one. -/
  | lower
  /-- The last letter with a case was an upper-case one. -/
  | upper
deriving Repr, DecidableEq

/-- The mode after one more character; characters without a case keep it. -/
def LetterMode.next (mode : LetterMode) (c : Char) : LetterMode :=
  if isLower c then .lower else if isUpper c then .upper else mode

/-- Cuts a piece of letters and numerals where the case turns. `word` holds the characters of the
current word, the last one first. -/
def cutByCase (mode : LetterMode) (word : List Char) : List Char → List (List Char)
  | [] => []
  | [c] => [(c :: word).reverse]
  | c :: d :: rest =>
    if mode.next c = .lower && isUpper d then
      (c :: word).reverse :: cutByCase .fresh [] (d :: rest)
    -- The capital before a lower-case letter begins a word: `HTTPServer` gives `HTTP`, `Server`.
    else if mode = .upper && isUpper c && isLower d then
      word.reverse :: cutByCase .fresh [c] (d :: rest)
    else
      cutByCase (mode.next c) (c :: word) (d :: rest)

/-- The longest pieces that hold letters and numerals only, empty ones included. -/
def pieces : List Char → List (List Char)
  | [] => [[]]
  | c :: rest =>
    if isAlphanumeric c then
      match pieces rest with
      | [] => [[c]]
      | piece :: others => (c :: piece) :: others
    else [] :: pieces rest

/-- No character of a piece is lost by cutting it. -/
theorem flatten_cutByCase (mode : LetterMode) (word : List Char) (cs : List Char) (hcs : cs ≠ []) :
    (cutByCase mode word cs).flatten = word.reverse ++ cs := by
  fun_induction cutByCase mode word cs with
  | case1 => exact absurd rfl hcs
  | case2 => simp
  | case3 mode word c d rest _ ih => simp [ih]
  | case4 mode word c d rest _ _ ih => simp [ih]
  | case5 mode word c d rest _ _ ih => simp [ih]

/-- The pieces hold letters and numerals only. -/
theorem isAlphanumeric_of_mem_pieces {cs piece : List Char} {c : Char}
    (hpiece : piece ∈ pieces cs) (hc : c ∈ piece) : isAlphanumeric c = true := by
  induction cs generalizing piece with
  | nil =>
    simp only [pieces, List.mem_singleton] at hpiece
    simp [hpiece] at hc
  | cons d rest ih =>
    rw [pieces] at hpiece
    split at hpiece
    · next hd =>
      split at hpiece
      · simp only [List.mem_singleton] at hpiece
        grind
      · grind
    · grind

/-- The words of a name. -/
def words (name : String) : List (List Char) := (pieces name.toList).flatMap (cutByCase .fresh [])

/-- A word in lower case. A capital sigma that ends the word takes its final form. -/
def lowerWord : List Char → List Char
  | [] => []
  | [c] => if c.toNat = 0x3A3 then [Char.ofNat 0x3C2] else toLower c
  | c :: rest => toLower c ++ lowerWord rest

/-- A word with its first letter in upper case and the others in lower case. -/
def capitalWord : List Char → List Char
  | [] => []
  | c :: rest => toUpper c ++ lowerWord rest

/-- The words of a name in lower case, joined by underscores. -/
def snakeCase (name : String) : String :=
  String.ofList (['_'].intercalate ((words name).map lowerWord))

/-- The words of a name, each with a capital, run together. -/
def camelCase (name : String) : String := String.ofList ((words name).flatMap capitalWord)

end DocSchema.Text
