import DocSchema.Json.Value
import DocSchema.Numeric.Layout

/-!
# Writing JSON

`Json.compact` writes a value without any space, `Json.pretty` one item or member to a line,
indented by two spaces a level. Both escape the quote, the backslash and the controls of a string
and leave every other character as it is.
-/

namespace DocSchema

open Numeric

/-- A character as it is written inside a JSON string. -/
def Json.escapeChar (c : Char) : List Char :=
  if c = '"' then ['\\', '"']
  else if c = '\\' then ['\\', '\\']
  else if c = '\x08' then ['\\', 'b']
  else if c = '\x0c' then ['\\', 'f']
  else if c = '\n' then ['\\', 'n']
  else if c = '\r' then ['\\', 'r']
  else if c = '\t' then ['\\', 't']
  else if c.toNat < 0x20 then
    ['\\', 'u', '0', '0', Nat.digitChar (c.toNat / 16), Nat.digitChar (c.toNat % 16)]
  else [c]

/-- A string between quotes. -/
def Json.quote (s : String) : String :=
  String.ofList ('"' :: s.toList.flatMap Json.escapeChar ++ ['"'])

/-- The text of a number. -/
def Number.text : Number → String
  | .integer value _ => toString value
  | .real value => jsonLayout.text value

namespace Json

mutual

/-- The text of a value without spaces. -/
def compact : Json → String
  | null => "null"
  | bool true => "true"
  | bool false => "false"
  | number n => n.text
  | string s => quote s
  | array items => "[" ++ ",".intercalate (compactItems items) ++ "]"
  | object members => "\x7b" ++ ",".intercalate (compactMembers members) ++ "\x7d"
termination_by structural a => a

/-- The texts of the items. -/
def compactItems : List Json → List String
  | [] => []
  | a :: rest => compact a :: compactItems rest
termination_by structural as => as

/-- The texts of the members. -/
def compactMembers : Members → List String
  | [] => []
  | (key, a) :: rest => (quote key ++ ":" ++ compact a) :: compactMembers rest
termination_by structural as => as

end

/-- The start of a line at an indentation level. -/
def newLine (level : Nat) : String := "\n" ++ String.ofList (List.replicate (2 * level) ' ')

/-- The parts of an array or object between its brackets, each on a line of its own. -/
def bracketed (opening closing : String) (level : Nat) (parts : List String) : String :=
  if parts.isEmpty then opening ++ closing
  else
    opening ++ newLine (level + 1) ++ ("," ++ newLine (level + 1)).intercalate parts ++
      newLine level ++ closing

mutual

/-- The text of a value at an indentation level. -/
def prettyAt (level : Nat) : Json → String
  | array items => bracketed "[" "]" level (prettyItems (level + 1) items)
  | object members => bracketed "\x7b" "\x7d" level (prettyMembers (level + 1) members)
  | scalar => compact scalar
termination_by structural a => a

/-- The texts of the items at an indentation level. -/
def prettyItems (level : Nat) : List Json → List String
  | [] => []
  | a :: rest => prettyAt level a :: prettyItems level rest
termination_by structural as => as

/-- The texts of the members at an indentation level. -/
def prettyMembers (level : Nat) : Members → List String
  | [] => []
  | (key, a) :: rest => (quote key ++ ": " ++ prettyAt level a) :: prettyMembers level rest
termination_by structural as => as

end

/-- The text of a value over several lines. -/
def pretty (a : Json) : String := prettyAt 0 a

end Json

end DocSchema
