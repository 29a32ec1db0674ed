import DocSchema.Proofs.Text.Literals
import DocSchema.Source.Printer
import Mathlib.Data.List.Forall2

/-!
# What labels print

Generated code prints a name through a format string in a string literal. The literal of a label
stands for the name with its braces doubled (`readAll_label`), and that text read as a format string
is the name, character by character and without a placeholder (`label_reads_back`). Both readers
come back to where they began, so that a label shows the same name whatever follows it in the
literal; in a dump this is a colon and the placeholder of a value (`prints_dump`).
-/

namespace DocSchema.Source

open Text Code

/-- The pieces of the format string that the text of a literal stands for. -/
def literalPieces (text : String) : Option (List Piece) :=
  (unescape text.toList).bind formatPieces

/-- The pieces that print a name. -/
def namePieces (name : String) : List Piece := name.toList.map .char

/-- A character of a label stands for what a format string has for the character. -/
theorem readAll_labelChar (c : Char) :
    readAll Inside.next .between (labelChar c) = some (.between, bracedChar c) := by
  rw [labelChar, bracedChar]
  split
  · next hbrace =>
    have hcases : c = '\x7b' ∨ c = '\x7d' := by simpa using hbrace
    rcases hcases with rfl | rfl <;> decide
  · next hplain =>
    have hcases : ¬ (c = '\x7b' ∨ c = '\x7d') := by simpa using hplain
    rw [if_neg hcases]
    exact readAll_escapeChar c

/-- A label stands for the name with its braces doubled. -/
theorem readAll_label (name : String) :
    readAll Inside.next .between (label name).toList =
      some (.between, name.toList.flatMap bracedChar) := by
  rw [label, String.toList_ofList]
  exact readAll_flatMap readAll_labelChar name.toList

/-- A name with its braces doubled is read as the name. -/
theorem readAll_braced (name : String) :
    readAll Around.next .between (name.toList.flatMap bracedChar) =
      some (.between, namePieces name) := by
  rw [readAll_flatMap readAll_bracedChar, namePieces, List.map_eq_flatMap]

/-- A label holds neither of the characters that break lines. -/
theorem lineBreaks_notMem_label (name : String) :
    '\n' ∉ (label name).toList ∧ '\r' ∉ (label name).toList :=
  lineBreak_notMem_of_readAll (readAll_label name)

/-- A label prints its name before anything that follows it in the literal. -/
theorem literalPieces_label_append (name ending : String) :
    literalPieces (label name ++ ending) = (literalPieces ending).map (namePieces name ++ ·) := by
  have hliteral : unescape ((label name).toList ++ ending.toList) =
      (unescape ending.toList).map (name.toList.flatMap bracedChar ++ ·) :=
    readWhole_append (readAll_label name) _
  have hformat : ∀ text, formatPieces (name.toList.flatMap bracedChar ++ text) =
      (formatPieces text).map (namePieces name ++ ·) := readWhole_append (readAll_braced name)
  rw [literalPieces, literalPieces, String.toList_append, hliteral, Option.bind_map,
    Option.map_bind]
  exact congrArg _ (funext hformat)

/-- A statement adds a text to a dump: the format string of the text prints a name, goes on and has
one placeholder. -/
def Pushes (name text : String) : Prop :=
  ∃ format arguments front argument back,
    text = "parts.push(format!(\"" ++ format ++ "\"" ++ arguments ∧
      literalPieces format =
        some (namePieces name ++ namePieces front ++ [.placeholder argument] ++ namePieces back)

/-- A label and an ending with one placeholder print the name and what goes on. -/
theorem pushes_label {ending front back : String} {argument : List Char}
    (hending : literalPieces ending =
      some (namePieces front ++ [.placeholder argument] ++ namePieces back))
    (name arguments : String) :
    Pushes name ("parts.push(format!(\"" ++ label name ++ (ending ++ "\"" ++ arguments)) := by
  refine ⟨label name ++ ending, arguments, front, argument, back, ?_, ?_⟩
  · simp only [String.append_assoc]
  · rw [literalPieces_label_append, hending, Option.map_some]
    simp only [List.append_assoc]

/-- The last statement for a part of a dump prints the name of the part. -/
def DumpPart.Prints (name : String) (part : DumpPart) : Prop :=
  ∃ before head text, part.code = before ++ [block head [line text]] ∧ Pushes name text

/-- The part of an attribute prints its name. -/
theorem prints_attributePart (a : Attribute) : (attributePart a).Prints a.name := by
  rw [attributePart]
  split
  · have hending : literalPieces ": \x7b\x7d" =
        some (namePieces ": " ++ [.placeholder []] ++ namePieces "") := by decide
    exact ⟨[], _, _, rfl, pushes_label hending a.name ", render_value(value)));"⟩
  · have hending : literalPieces ": \x7bvalue\x7d" =
        some (namePieces ": " ++ [.placeholder "value".toList] ++ namePieces "") := by decide
    exact ⟨[], _, _, rfl, pushes_label hending a.name "));"⟩

/-- The part of a relationship prints its name. -/
theorem prints_relationshipPart (r : Relationship) : (relationshipPart r).Prints r.name := by
  have hending : literalPieces ": [\x7b\x7d]" =
      some (namePieces ": [" ++ [.placeholder []] ++ namePieces "]") := by decide
  exact ⟨[_], _, _, rfl, pushes_label hending r.name ", items.join(\", \")));"⟩

/-- The dump of a class prints the names of its attributes and then of its relationships. -/
theorem prints_dump (reg : Registry) (c : EntityClass) :
    List.Forall₂ DumpPart.Prints
      (c.shape.attributes.map Attribute.name ++ c.shape.relationships.map Relationship.name)
      (Module.ofClass reg c).dump := by
  refine List.rel_append ?_ ?_
  · simp [List.forall₂_map_left_iff, List.forall₂_map_right_iff, prints_attributePart,
      List.forall₂_same]
  · simp [List.forall₂_map_left_iff, List.forall₂_map_right_iff, prints_relationshipPart,
      List.forall₂_same]

/-- A label may stand in a literal, where it holds neither a quote nor a line break nor the
beginning of an escape, and what it stands for there is a format string that prints the name and has
no placeholder. So it is in front of anything else in the literal. -/
theorem label_reads_back (name : String) :
    ('\n' ∉ (label name).toList ∧ '\r' ∉ (label name).toList) ∧
      literalPieces (label name) = some (namePieces name) ∧
      ∀ ending, literalPieces (label name ++ ending) =
        (literalPieces ending).map (namePieces name ++ ·) := by
  have halone := literalPieces_label_append name ""
  have hempty : literalPieces "" = some [] := by decide
  rw [String.append_empty, hempty, Option.map_some, List.append_nil] at halone
  exact ⟨lineBreaks_notMem_label name, halone, literalPieces_label_append name⟩

end DocSchema.Source
