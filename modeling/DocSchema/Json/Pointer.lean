import DocSchema.Json.Value

/-!
# Pointers into a document

A pointer is the list of steps from the root of a document to a fragment. Its text has a slash
before every step, with the tilde and the slash of a key escaped, so `Pointer.tokens` reads the
steps back from the text; `Json.at?` follows them.
-/

namespace DocSchema

/-- A step from a value to a part of it. -/
inductive Pointer.Step where
  /-- To the member of an object with this key. -/
  | key (name : String)
  /-- To the item of an array with this position, from zero. -/
  | index (position : Nat)
deriving DecidableEq, Repr

/-- The steps from the root of a document to a fragment. -/
structure Pointer where
  /-- The steps, the first one first. -/
  steps : List Pointer.Step
deriving DecidableEq, Repr

namespace Pointer

/-- The pointer to the whole document. -/
def root : Pointer where
  steps := []

/-- The pointer to a member of the object pointed to. -/
def key (p : Pointer) (name : String) : Pointer where
  steps := p.steps ++ [.key name]

/-- The pointer to an item of the array pointed to. -/
def index (p : Pointer) (position : Nat) : Pointer where
  steps := p.steps ++ [.index position]

/-- What a step is called: the key, or the position in decimal digits. -/
def Step.token : Step → String
  | .key name => name
  | .index position => toString position

/-- A token with its tildes and slashes escaped. -/
def escapeToken : List Char → List Char
  | [] => []
  | c :: rest =>
    if c = '~' then '~' :: '0' :: escapeToken rest
    else if c = '/' then '~' :: '1' :: escapeToken rest
    else c :: escapeToken rest

/-- The text of the steps, each after a slash. -/
def stepsText : List Step → List Char
  | [] => []
  | s :: rest => '/' :: escapeToken s.token.toList ++ stepsText rest

/-- The text of a pointer; that of the root is empty. -/
def text (p : Pointer) : String := String.ofList (stepsText p.steps)

/-- The text of a pointer in a message, where the root has a name. -/
def shown (p : Pointer) : String :=
  match p.steps with
  | [] => "(root)"
  | _ => p.text

/-- An escaped token has no slash. -/
theorem slash_not_mem_escapeToken (token : List Char) : '/' ∉ escapeToken token := by
  induction token with
  | nil => simp [escapeToken]
  | cons c rest ih =>
    by_cases htilde : c = '~'
    · simp [escapeToken, htilde, ih]
    · by_cases hslash : c = '/'
      · simp [escapeToken, hslash, ih]
      · simp [escapeToken, htilde, hslash, ih, Ne.symm hslash]

/-- A token with its escapes undone. -/
def unescapeToken : List Char → List Char
  | '~' :: '0' :: rest => '~' :: unescapeToken rest
  | '~' :: '1' :: rest => '/' :: unescapeToken rest
  | c :: rest => c :: unescapeToken rest
  | [] => []

/-- Undoing the escapes of an escaped token gives the token. -/
theorem unescapeToken_escapeToken (token : List Char) :
    unescapeToken (escapeToken token) = token := by
  induction token with
  | nil => rfl
  | cons c rest ih =>
    by_cases htilde : c = '~'
    · simp [escapeToken, unescapeToken, htilde, ih]
    · by_cases hslash : c = '/'
      · simp [escapeToken, unescapeToken, hslash, ih]
      · simp [escapeToken, unescapeToken, htilde, hslash, ih]

/-- The tokens of a pointer text: what stands after each slash, unescaped. A text that begins with
no slash and is not empty is no pointer. -/
def tokens (text : List Char) : Option (List (List Char)) :=
  match text with
  | [] => some []
  | c :: rest => if c = '/' then some ((rest.splitOn '/').map unescapeToken) else none

end Pointer

/-- The item of an array that a token names by its position. -/
def Json.item? (items : List Json) (token : String) : Option Json :=
  (items.zipIdx.find? fun (_, position) => toString position == token).map Prod.fst

/-- The part of a value that the tokens lead to. -/
def Json.at? : List String → Json → Option Json
  | [], a => some a
  | token :: rest, .object members => (members.lookup token).bind (Json.at? rest)
  | token :: rest, .array items => (Json.item? items token).bind (Json.at? rest)
  | _, _ => none

end DocSchema
