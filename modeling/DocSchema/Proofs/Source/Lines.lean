import DocSchema.Proofs.Lists
import DocSchema.Source.Code

/-!
# The lines of code

The text of code is its lines, each of them ended (`Code.textsAt_eq_ended`). The lines that a reader
finds in it (`textLines`) are those of the code where none of them holds a line break; a line that
does falls into pieces (`textLines_ended`). A plain line is one piece and no comment; plain code has
no other lines (`Code.plainLine_of_mem_linesOf`).
-/

namespace DocSchema.Source

/-- A text of lines, each of them ended. -/
def ended (lines : List String) : String := String.join (lines.map (· ++ "\n"))

/-- The lines of a text whose lines are ended. -/
def textLines (text : String) : List String :=
  (text.toList.splitOn '\n').dropLast.map String.ofList

/-- What a reader finds in place of a line. -/
def pieces (line : String) : List String := (line.toList.splitOn '\n').map String.ofList

/-- A line is a comment if it begins with two slashes, behind blanks. -/
def isComment (line : String) : Bool :=
  "//".toList.isPrefixOf (line.toList.dropWhile (· = ' '))

/-- A line of code: one line in the text, and no comment. -/
structure PlainLine (line : String) : Prop where
  /-- It holds no line break. -/
  whole : '\n' ∉ line.toList
  /-- It is no comment. -/
  code : isComment line = false

section Reading

/-- The text of no lines is empty. -/
@[simp] theorem ended_nil : ended [] = "" := rfl

/-- The first line stands first, and a line break ends it. -/
@[simp] theorem ended_cons (line : String) (rest : List String) :
    ended (line :: rest) = line ++ "\n" ++ ended rest := by
  simp [ended]

/-- The text of lines in two parts. -/
@[simp] theorem ended_append (front back : List String) :
    ended (front ++ back) = ended front ++ ended back := by
  simp [ended]

/-- A line without a line break is found as it is. -/
theorem pieces_of_notMem {line : String} (h : '\n' ∉ line.toList) : pieces line = [line] := by
  rw [pieces, List.splitOn_eq_singleton h, List.map_singleton, String.ofList_toList]

/-- The lines of a text are the pieces of the lines that it was made of. -/
theorem textLines_ended (lines : List String) : textLines (ended lines) = lines.flatMap pieces := by
  induction lines with
  | nil => rfl
  | cons line rest ih =>
    have hchars : (ended (line :: rest)).toList = line.toList ++ '\n' :: (ended rest).toList := by
      simp
    rw [textLines, hchars, List.splitOn_append_cons_self,
      List.dropLast_append_of_ne_nil (List.splitOn_ne_nil _ _), List.map_append, List.flatMap_cons,
      ← ih]
    rfl

/-- No line of a text holds a line break. -/
theorem notMem_of_mem_textLines {text line : String} (h : line ∈ textLines text) :
    '\n' ∉ line.toList := by
  obtain ⟨piece, hpiece, rfl⟩ := List.mem_map.1 h
  rw [String.toList_ofList]
  exact notMem_of_mem_splitOn (List.dropLast_subset _ hpiece)

/-- Lines without line breaks are the lines of their text. -/
theorem textLines_ended_of_whole {lines : List String} (h : ∀ l ∈ lines, '\n' ∉ l.toList) :
    textLines (ended lines) = lines := by
  rw [textLines_ended, List.flatMap_congr fun l hl => pieces_of_notMem (h l hl),
    List.flatMap_singleton']

end Reading

namespace PlainLine

variable {line : String}

/-- A line that begins with no blank and no slash is no comment. -/
theorem of_first (hwhole : '\n' ∉ line.toList)
    (hfirst : ∀ c, line.toList.head? = some c → c ≠ ' ' ∧ c ≠ '/') : PlainLine line where
  whole := hwhole
  code := by
    rw [isComment]
    match hchars : line.toList with
    | [] => rfl
    | c :: rest =>
      obtain ⟨hblank, hslash⟩ := hfirst c (by simp [hchars])
      rw [List.dropWhile_cons_of_neg (by simpa using hblank)]
      simp [List.isPrefixOf, hslash.symm]

/-- A plain line may be indented. -/
theorem indent (h : PlainLine line) (n : Nat) :
    PlainLine (String.ofList (List.replicate n ' ') ++ line) where
  whole := by simp [h.whole]
  code := by
    have hdrop : (List.replicate n ' ' ++ line.toList).dropWhile (· = ' ') =
        line.toList.dropWhile (· = ' ') :=
      List.dropWhile_append_of_pos (by simp)
    simp only [← h.code, isComment, String.toList_append, String.toList_ofList, hdrop]

end PlainLine

namespace Code

/-- The blanks at the front of a line. -/
def indentation (level : Nat) : String := String.ofList (List.replicate (4 * level) ' ')

mutual

/-- The lines of a piece of code at a level of indentation. -/
def linesAt (level : Nat) : Code → List String
  | line text => [indentation level ++ text]
  | blank => [""]
  | block head body =>
    (indentation level ++ (head ++ " \x7b")) ::
      (linesOf (level + 1) body ++ [indentation level ++ "\x7d"])
termination_by structural code => code

/-- The lines of pieces of code at a level of indentation. -/
def linesOf (level : Nat) : List Code → List String
  | [] => []
  | code :: rest => linesAt level code ++ linesOf level rest
termination_by structural codes => codes

end

/-- No code has no lines. -/
@[simp] theorem linesOf_nil (level : Nat) : linesOf level [] = [] := rfl

/-- The lines of the first piece of code come first. -/
@[simp] theorem linesOf_cons (level : Nat) (code : Code) (rest : List Code) :
    linesOf level (code :: rest) = linesAt level code ++ linesOf level rest := rfl

/-- The lines of pieces of code are those of each. -/
theorem linesOf_eq_flatMap (level : Nat) (codes : List Code) :
    linesOf level codes = codes.flatMap (linesAt level) := by
  induction codes with
  | nil => rfl
  | cons code rest ih => rw [linesOf_cons, ih, List.flatMap_cons]

/-- The lines of code in two parts. -/
@[simp] theorem linesOf_append (level : Nat) (front back : List Code) :
    linesOf level (front ++ back) = linesOf level front ++ linesOf level back := by
  simp [linesOf_eq_flatMap]

mutual

/-- The text of a piece of code is its lines, each ended. -/
theorem textAt_eq_ended (level : Nat) (code : Code) :
    textAt level code = ended (linesAt level code) := by
  match code with
  | line text => simp [textAt, linesAt, indentation]
  | blank => simp [textAt, linesAt]
  | block head body =>
    have hbody := textsAt_eq_ended (level + 1) body
    have hend : " \x7b\n" = " \x7b" ++ "\n" ∧ "\x7d\n" = "\x7d" ++ "\n" := by decide
    rw [textAt, linesAt, hbody, hend.1, hend.2]
    simp [indentation, String.append_assoc]

/-- The text of pieces of code is their lines, each ended. -/
theorem textsAt_eq_ended (level : Nat) (codes : List Code) :
    textsAt level codes = ended (linesOf level codes) := by
  match codes with
  | [] => rfl
  | code :: rest =>
    rw [textsAt, linesOf_cons, ended_append, textAt_eq_ended level code,
      textsAt_eq_ended level rest]

end

/-- The lines of a piece of code are plain at every level. -/
def Plain (code : Code) : Prop := ∀ level, ∀ l ∈ linesAt level code, PlainLine l

/-- A plain line is plain code. -/
theorem plain_line {text : String} (h : PlainLine text) : Plain (line text) := by
  intro level l hl
  obtain rfl := List.mem_singleton.1 hl
  exact h.indent _

/-- An empty line is plain code. -/
theorem plain_blank : Plain blank := by
  intro level l hl
  obtain rfl := List.mem_singleton.1 hl
  exact .of_first (by simp) (by simp)

/-- A block with a plain head is as plain as its body. -/
theorem plain_block {head : String} {body : List Code} (hhead : PlainLine (head ++ " \x7b"))
    (hbody : ∀ code ∈ body, Plain code) : Plain (block head body) := by
  intro level l hl
  have hend : PlainLine "\x7d" := .of_first (by decide) (by simp)
  rw [linesAt, List.mem_cons, List.mem_append, List.mem_singleton, linesOf_eq_flatMap,
    List.mem_flatMap] at hl
  rcases hl with rfl | ⟨code, hcode, hl⟩ | rfl
  · exact hhead.indent _
  · exact hbody code hcode _ l hl
  · exact hend.indent _

/-- The lines of plain pieces of code are plain. -/
theorem plainLine_of_mem_linesOf {codes : List Code} (h : ∀ code ∈ codes, Plain code)
    {level : Nat} {l : String} (hl : l ∈ linesOf level codes) : PlainLine l := by
  rw [linesOf_eq_flatMap, List.mem_flatMap] at hl
  obtain ⟨code, hcode, hl⟩ := hl
  exact h code hcode level l hl

end Code

end DocSchema.Source
