import DocSchema.Json.NumberText

/-!
# Reading JSON

A text is read in one pass, character by character. The state holds the arrays and objects that are
open, innermost first, and what is expected next (`Reader.Mode`); `Reader.step` is total, so reading
is a fold over the text. An error says what is wrong and how many bytes had been read, the
offending one included; its message gives the place as a line and a column of bytes.

At most 127 arrays and objects may be open at once. A key that comes again keeps its place among
the members and takes the later value.
-/

namespace DocSchema

/-- What is wrong with a text that is no JSON. -/
inductive Json.Fault where
  | endInValue
  | endInList
  | endInObject
  | endInString
  | expectedValue
  | expectedWord
  | expectedColon
  | expectedListEnd
  | expectedObjectEnd
  | keyNotString
  | trailingComma
  | trailingCharacters
  | invalidNumber
  | numberOutOfRange
  | invalidEscape
  | controlCharacter
  | loneSurrogate
  | endOfHexEscape
  | tooDeep
deriving DecidableEq, Repr

/-- The text of a fault. -/
def Json.Fault.text : Json.Fault → String
  | .endInValue => "EOF while parsing a value"
  | .endInList => "EOF while parsing a list"
  | .endInObject => "EOF while parsing an object"
  | .endInString => "EOF while parsing a string"
  | .expectedValue => "expected value"
  | .expectedWord => "expected ident"
  | .expectedColon => "expected `:`"
  | .expectedListEnd => "expected `,` or `]`"
  | .expectedObjectEnd => "expected `,` or `\x7d`"
  | .keyNotString => "key must be a string"
  | .trailingComma => "trailing comma"
  | .trailingCharacters => "trailing characters"
  | .invalidNumber => "invalid number"
  | .numberOutOfRange => "number out of range"
  | .invalidEscape => "invalid escape"
  | .controlCharacter =>
    "control character (\\u0000-\\u001F) found while parsing a string"
  | .loneSurrogate => "lone leading surrogate in hex escape"
  | .endOfHexEscape => "unexpected end of hex escape"
  | .tooDeep => "recursion limit exceeded"

/-- A fault and its place in the text. -/
structure Json.ReadError where
  /-- What is wrong. -/
  fault : Json.Fault
  /-- The line, from one. -/
  line : Nat
  /-- The number of bytes of the line that had been read. -/
  column : Nat
deriving DecidableEq, Repr

/-- The message of a reading error. -/
def Json.ReadError.message (e : Json.ReadError) : String :=
  s!"{e.fault.text} at line {e.line} column {e.column}"

namespace Reader

/-- The value of a hexadecimal digit. -/
def hexDigit? (c : Char) : Option Nat :=
  if c.isDigit then some (c.toNat - '0'.toNat)
  else if 'a'.toNat ≤ c.toNat && c.toNat ≤ 'f'.toNat then some (c.toNat - 'a'.toNat + 10)
  else if 'A'.toNat ≤ c.toNat && c.toNat ≤ 'F'.toNat then some (c.toNat - 'A'.toNat + 10)
  else none

/-- How far an escape inside a string has been read. -/
inductive Escape where
  /-- No escape is open. -/
  | plain
  /-- A backslash. -/
  | backslash
  /-- The four bytes of a code unit: how many are read, the value of their digits unless one is
  not a digit, and the leading surrogate before them. -/
  | hex (bytes : Nat) (value : Option Nat) (leading : Option Nat)
  /-- A leading surrogate, which a backslash must follow. -/
  | surrogate (leading : Nat)
  /-- A leading surrogate and a backslash, which the letter of a code unit must follow. -/
  | surrogateBackslash (leading : Nat)
deriving Repr

/-- A string, as far as it has been read. -/
structure StringText where
  /-- The characters, the last one first. -/
  characters : List Char
  /-- The open escape. -/
  escape : Escape
deriving Repr

/-- What a character does to a string. -/
inductive StringOutcome where
  /-- The string goes on. -/
  | more (s : StringText)
  /-- The string ends. -/
  | closed (value : String)
  /-- A fault, after this many bytes of the character. -/
  | failed (fault : Json.Fault) (bytes : Nat)

/-- The character that a letter after a backslash stands for. -/
def escaped? (c : Char) : Option Char :=
  if c = '"' || c = '\\' || c = '/' then some c
  else if c = 'b' then some '\x08'
  else if c = 'f' then some '\x0c'
  else if c = 'n' then some '\n'
  else if c = 'r' then some '\r'
  else if c = 't' then some '\t'
  else none

/-- The character of two surrogates. -/
def joinSurrogates (leading trailing : Nat) : Char :=
  Char.ofNat ((leading - 0xD800) * 0x400 + (trailing - 0xDC00) + 0x10000)

/-- Takes a code unit whose digits are complete after `bytes` bytes of the current character. -/
def StringText.takeUnit (s : StringText) (value : Option Nat) (leading : Option Nat)
    (bytes : Nat) : StringOutcome :=
  match value, leading with
  | none, _ => .failed .invalidEscape bytes
  | some unit, none =>
    if 0xDC00 ≤ unit && unit ≤ 0xDFFF then .failed .loneSurrogate bytes
    else if 0xD800 ≤ unit && unit ≤ 0xDBFF then .more { s with escape := .surrogate unit }
    else .more ⟨Char.ofNat unit :: s.characters, .plain⟩
  | some unit, some first =>
    if 0xDC00 ≤ unit && unit ≤ 0xDFFF then
      .more ⟨joinSurrogates first unit :: s.characters, .plain⟩
    else .failed .loneSurrogate bytes

/-- Reads a character of a string. -/
def StringText.step (s : StringText) (c : Char) : StringOutcome :=
  match s.escape with
  | .plain =>
    if c = '"' then .closed (String.ofList s.characters.reverse)
    else if c = '\\' then .more { s with escape := .backslash }
    else if c.toNat < 0x20 then .failed .controlCharacter 1
    else .more { s with characters := c :: s.characters }
  | .backslash =>
    if c = 'u' then .more { s with escape := .hex 0 (some 0) none }
    else
      match escaped? c with
      | some d => .more ⟨d :: s.characters, .plain⟩
      | none => .failed .invalidEscape 1
  | .hex bytes value leading =>
    -- The unit is four bytes long whatever they are; a wide character may end beyond them.
    let value := value.bind fun v => (hexDigit? c).map (v * 16 + ·)
    if bytes + c.utf8Size < 4 then .more { s with escape := .hex (bytes + c.utf8Size) value leading }
    else s.takeUnit value leading (4 - bytes)
  | .surrogate leading =>
    if c = '\\' then .more { s with escape := .surrogateBackslash leading }
    else .failed .endOfHexEscape 1
  | .surrogateBackslash leading =>
    if c = 'u' then .more { s with escape := .hex 0 (some 0) (some leading) }
    else .failed .endOfHexEscape 1

/-- An open array or object. -/
inductive Frame where
  /-- An array with its items, the last one first. -/
  | list (items : List Json)
  /-- An object with its members and the key that waits for a value. -/
  | object (members : Members) (key : String)

/-- What is expected next. -/
inductive Mode where
  /-- A value. -/
  | value
  /-- The first item of an array, or its end. -/
  | firstItem
  /-- An item after a comma. -/
  | nextItem
  /-- A comma or the end of an array. -/
  | afterItem
  /-- The first key of an object, or its end. -/
  | firstKey
  /-- A key after a comma. -/
  | nextKey
  /-- The colon after a key. -/
  | colon
  /-- A comma or the end of an object. -/
  | afterMember
  /-- Nothing but blanks. -/
  | blanks (document : Json)
  /-- The rest of a word that stands for a value. -/
  | word (rest : List Char) (value : Json)
  /-- The rest of a string that is a value. -/
  | string (s : StringText)
  /-- The rest of a string that is a key. -/
  | keyString (s : StringText)
  /-- The rest of a number. -/
  | number (n : NumberText)

/-- The state between two characters. -/
structure State where
  /-- The open arrays and objects, innermost first. -/
  frames : List Frame
  /-- What is expected next. -/
  mode : Mode

/-- The state before the first character. -/
def State.start : State where
  frames := []
  mode := .value

/-- A fault, after this many bytes of the current character. -/
structure Failed where
  /-- What is wrong. -/
  fault : Json.Fault
  /-- How many bytes of the character had been read. -/
  bytes : Nat

/-- The blanks of JSON. -/
def isBlank (c : Char) : Bool := c = ' ' || c = '\n' || c = '\t' || c = '\r'

/-- Hands a complete value to the innermost open array or object. -/
def State.give (frames : List Frame) (value : Json) : State :=
  match frames with
  | [] => ⟨[], .blanks value⟩
  | .list items :: outer => ⟨.list (value :: items) :: outer, .afterItem⟩
  | .object members key :: outer => ⟨.object (members.put key value) "" :: outer, .afterMember⟩

/-- Opens an array or object, unless too many are open. -/
def State.descend (frames : List Frame) (frame : Frame) (mode : Mode) : Except Failed State :=
  if frames.length < 127 then .ok ⟨frame :: frames, mode⟩ else .error ⟨.tooDeep, 1⟩

/-- Begins a value with its first character. -/
def State.begin (frames : List Frame) (c : Char) : Except Failed State :=
  if c = 'n' then .ok ⟨frames, .word ['u', 'l', 'l'] .null⟩
  else if c = 't' then .ok ⟨frames, .word ['r', 'u', 'e'] (.bool true)⟩
  else if c = 'f' then .ok ⟨frames, .word ['a', 'l', 's', 'e'] (.bool false)⟩
  else if c = '"' then .ok ⟨frames, .string ⟨[], .plain⟩⟩
  else if c = '[' then State.descend frames (.list []) .firstItem
  else if c = '\x7b' then State.descend frames (.object [] "") .firstKey
  else if c = '-' then .ok ⟨frames, .number .afterMinus⟩
  else
    match NumberText.digit? c with
    | some digit => .ok ⟨frames, .number ({ NumberText.afterMinus with negative := false }.first digit)⟩
    | none => .error ⟨.expectedValue, 1⟩

/-- Ends the innermost array or object. -/
def State.close : List Frame → State
  | .list items :: outer => State.give outer (.array items.reverse)
  | .object members _ :: outer => State.give outer (.object members)
  | [] => ⟨[], .value⟩

/-- Sets the key that waits for a value. -/
def State.withKey (frames : List Frame) (key : String) : List Frame :=
  match frames with
  | .object members _ :: outer => .object members key :: outer
  | other => other

/-- Reads a character after a complete value. -/
def State.afterValue (s : State) (c : Char) : Except Failed State :=
  if isBlank c then .ok s
  else
    match s.mode with
    | .afterItem =>
      if c = ',' then .ok { s with mode := .nextItem }
      else if c = ']' then .ok (State.close s.frames)
      else .error ⟨.expectedListEnd, 1⟩
    | .afterMember =>
      if c = ',' then .ok { s with mode := .nextKey }
      else if c = '\x7d' then .ok (State.close s.frames)
      else .error ⟨.expectedObjectEnd, 1⟩
    | _ => .error ⟨.trailingCharacters, 1⟩

/-- Reads a character. -/
def State.step (s : State) (c : Char) : Except Failed State :=
  match s.mode with
  | .value => if isBlank c then .ok s else State.begin s.frames c
  | .firstItem =>
    if isBlank c then .ok s
    else if c = ']' then .ok (State.close s.frames)
    else State.begin s.frames c
  | .nextItem =>
    if isBlank c then .ok s
    else if c = ']' then .error ⟨.trailingComma, 1⟩
    else State.begin s.frames c
  | .firstKey =>
    if isBlank c then .ok s
    else if c = '"' then .ok { s with mode := .keyString ⟨[], .plain⟩ }
    else if c = '\x7d' then .ok (State.close s.frames)
    else .error ⟨.keyNotString, 1⟩
  | .nextKey =>
    if isBlank c then .ok s
    else if c = '"' then .ok { s with mode := .keyString ⟨[], .plain⟩ }
    else if c = '\x7d' then .error ⟨.trailingComma, 1⟩
    else .error ⟨.keyNotString, 1⟩
  | .colon =>
    if isBlank c then .ok s
    else if c = ':' then .ok { s with mode := .value }
    else .error ⟨.expectedColon, 1⟩
  | .afterItem | .afterMember | .blanks _ => s.afterValue c
  | .word rest value =>
    match rest with
    | [] => (State.give s.frames value).afterValue c
    | [d] => if c = d then .ok (State.give s.frames value) else .error ⟨.expectedWord, 1⟩
    | d :: more =>
      if c = d then .ok { s with mode := .word more value } else .error ⟨.expectedWord, 1⟩
  | .string text =>
    match text.step c with
    | .more text => .ok { s with mode := .string text }
    | .closed value => .ok (State.give s.frames (.string value))
    | .failed fault bytes => .error ⟨fault, bytes⟩
  | .keyString text =>
    match text.step c with
    | .more text => .ok { s with mode := .keyString text }
    | .closed key => .ok ⟨State.withKey s.frames key, .colon⟩
    | .failed fault bytes => .error ⟨fault, bytes⟩
  | .number n =>
    match n.step c with
    | .more n => .ok { s with mode := .number n }
    | .invalid => .error ⟨.invalidNumber, 1⟩
    | .outOfRange => .error ⟨.numberOutOfRange, 1⟩
    | .ended =>
      -- The character that ends the number has not been read when its value is found too great.
      match n.value? with
      | some value => (State.give s.frames (.number value)).afterValue c
      | none => .error ⟨.numberOutOfRange, 0⟩

/-- What is wrong if the text ends in this state with no value complete. -/
def State.endFault (s : State) : Json.Fault :=
  match s.mode with
  | .firstItem | .afterItem => .endInList
  | .firstKey | .colon | .afterMember => .endInObject
  | .string _ | .keyString _ => .endInString
  | _ => .endInValue

/-- The document, if the text ends in this state. -/
def State.finish (s : State) : Except Json.Fault Json :=
  match s.mode with
  | .blanks document => .ok document
  | .number n =>
    if !n.isComplete then .error .endInValue
    else
      -- A number that ends the text is complete; inside an array or object its end is missing.
      match n.value?, s.frames with
      | none, _ => .error .numberOutOfRange
      | some value, [] => .ok (.number value)
      | some value, frames => .error (State.give frames (.number value)).endFault
  | _ => .error s.endFault

/-- Reads the characters of a text from a state, after `offset` bytes. -/
def readFrom (s : State) (offset : Nat) : List Char → Except (Json.Fault × Nat) Json
  | [] => s.finish.mapError (·, offset)
  | c :: rest =>
    match s.step c with
    | .ok s => readFrom s (offset + c.utf8Size) rest
    | .error failed => .error (failed.fault, offset + failed.bytes)

/-- The line and the column after `bytes` bytes of a text. -/
def place (line column : Nat) : (bytes : Nat) → List Char → Nat × Nat
  | _, [] => (line, column)
  | bytes, c :: rest =>
    if bytes = 0 then (line, column)
    else if c = '\n' then place (line + 1) 0 (bytes - 1) rest
    else place line (column + min bytes c.utf8Size) (bytes - c.utf8Size) rest

end Reader

/-- The value that a text denotes. -/
def Json.read (text : String) : Except Json.ReadError Json :=
  let characters := text.toList
  (Reader.readFrom .start 0 characters).mapError fun (fault, bytes) =>
    let (line, column) := Reader.place 1 0 bytes characters
    ⟨fault, line, column⟩

end DocSchema
