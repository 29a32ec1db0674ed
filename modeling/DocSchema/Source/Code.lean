/-!
# Lines and blocks of code

Code is a list of lines and of blocks in braces. `Code.text` lays it out, four spaces to a level and
every line ended; an empty line gets no indentation.
-/

namespace DocSchema.Source

/-- A piece of code. -/
inductive Code where
  /-- A line. -/
  | line (text : String)
  /-- An empty line. -/
  | blank
  /-- A block in braces, the first after the head. -/
  | block (head : String) (body : List Code)

namespace Code

mutual

/-- A piece of code at a level of indentation. -/
def textAt (level : Nat) : Code → String
  | line text => String.ofList (List.replicate (4 * level) ' ') ++ text ++ "\n"
  | blank => "\n"
  | block head body =>
    let indent := String.ofList (List.replicate (4 * level) ' ')
    indent ++ head ++ " \x7b\n" ++ textsAt (level + 1) body ++ indent ++ "\x7d\n"
termination_by structural code => code

/-- Pieces of code at a level of indentation. -/
def textsAt (level : Nat) : List Code → String
  | [] => ""
  | code :: rest => textAt level code ++ textsAt level rest
termination_by structural codes => codes

end

/-- The text of pieces of code. -/
def text (codes : List Code) : String := textsAt 0 codes

end Code

end DocSchema.Source
