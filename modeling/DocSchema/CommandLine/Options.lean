import DocSchema.Pipeline

/-!
# Command line arguments

The arguments are read from left to right. An option takes its value from the same argument, after
an equals sign, or from the next one, which then must not begin with a dash. No option may come
twice, only the count of `-v` may grow. After a double dash every argument is the document.
-/

namespace DocSchema.CommandLine

/-- What a command line asks for, as far as it has been read. -/
structure Options where
  /-- The file with the document. -/
  input : Option String := none
  /-- The directory for the generated code. -/
  outDir : Option String := none
  /-- The namespace of the classes. -/
  classNamespace : Option String := none
  /-- The name of the root class. -/
  rootName : Option String := none
  /-- Shapes of one class are united. -/
  unionShapes : Bool := false
  /-- Issues of the registry end the run. -/
  denyIssues : Bool := false
  /-- The registry is printed as JSON. -/
  emitSchema : Bool := false
deriving DecidableEq, Repr

/-- What a command line comes to. -/
inductive Request where
  /-- The work on a document. -/
  | run (input : String) (options : Options)
  /-- The version. -/
  | version
  /-- The summary of the options. -/
  | help
  /-- Nothing: the arguments are not as they should be. -/
  | invalid
deriving DecidableEq, Repr

/-- An option that takes a value. -/
inductive Valued where
  | outDir
  | classNamespace
  | rootName
deriving DecidableEq, Repr

/-- An option without a value. -/
inductive Flag where
  | unionShapes
  | denyIssues
  | emitSchema
  | verbose
  | version
  | help
deriving DecidableEq, Repr

/-- The option with a value that has this long name. -/
def valued? (name : String) : Option Valued :=
  if name = "out-dir" then some .outDir
  else if name = "namespace" then some .classNamespace
  else if name = "root" then some .rootName
  else none

/-- The option without a value that has this long name. -/
def flag? (name : String) : Option Flag :=
  if name = "union-shapes" then some .unionShapes
  else if name = "deny-schema-issues" then some .denyIssues
  else if name = "emit-schema" then some .emitSchema
  else if name = "verbose" then some .verbose
  else if name = "version" then some .version
  else if name = "help" then some .help
  else none

/-- The option without a value that has this letter. -/
def shortFlag? (letter : Char) : Option Flag :=
  if letter = 'v' then some .verbose
  else if letter = 'V' then some .version
  else if letter = 'h' then some .help
  else none

/-- An argument as it may be meant. -/
inductive Argument where
  /-- A double dash alone. -/
  | stop
  /-- A long name, with what follows an equals sign. -/
  | long (name : String) (value : Option String)
  /-- Letters after a dash. -/
  | short (letters : List Char)
  /-- Anything else, a dash alone included. -/
  | plain (text : String)
deriving Repr

/-- Sorts an argument. -/
def Argument.of (text : String) : Argument :=
  match text.toList with
  | '-' :: '-' :: [] => .stop
  | '-' :: '-' :: rest =>
    .long (String.ofList (rest.takeWhile (· ≠ '=')))
      ((rest.dropWhile (· ≠ '=')).tail?.map String.ofList)
  | '-' :: c :: rest => .short (c :: rest)
  | _ => .plain text

namespace Options

/-- Sets the value of an option; a directory must have a name. -/
def setValue (o : Options) (option : Valued) (value : String) : Except Request Options :=
  match option with
  | .outDir =>
    if o.outDir.isSome || value.isEmpty then .error .invalid else .ok { o with outDir := some value }
  | .classNamespace =>
    if o.classNamespace.isSome then .error .invalid
    else .ok { o with classNamespace := some value }
  | .rootName =>
    if o.rootName.isSome then .error .invalid else .ok { o with rootName := some value }

/-- Sets a flag. -/
def setFlag (o : Options) : Flag → Except Request Options
  | .unionShapes => if o.unionShapes then .error .invalid else .ok { o with unionShapes := true }
  | .denyIssues => if o.denyIssues then .error .invalid else .ok { o with denyIssues := true }
  | .emitSchema => if o.emitSchema then .error .invalid else .ok { o with emitSchema := true }
  | .verbose => .ok o
  | .version => .error .version
  | .help => .error .help

/-- Sets the flags of letters, one after the other. -/
def setLetters (o : Options) : List Char → Except Request Options
  | [] => .ok o
  | c :: rest =>
    match shortFlag? c with
    | some flag => do
      let o ← o.setFlag flag
      o.setLetters rest
    | none => .error .invalid

/-- Sets the file with the document, which must have a name. -/
def setInput (o : Options) (path : String) : Except Request Options :=
  if o.input.isSome || path.isEmpty then .error .invalid else .ok { o with input := some path }

/-- Reads arguments that follow a double dash. -/
def readPlain (o : Options) : List String → Except Request Options
  | [] => .ok o
  | text :: rest => do
    let o ← o.setInput text
    o.readPlain rest

/-- Reads arguments; the first of them is the value of an option that waits for one. -/
def readFrom (o : Options) (waiting : Option Valued) : List String → Except Request Options
  | [] => if waiting.isSome then .error .invalid else .ok o
  | text :: rest =>
    match waiting, Argument.of text with
    | some option, .plain value => do
      let o ← o.setValue option value
      o.readFrom none rest
    -- A double dash is no value either, even if plain arguments follow it.
    | some _, _ => .error .invalid
    | none, .stop => o.readPlain rest
    | none, .long name value =>
      match valued? name, flag? name, value with
      | some option, _, some value => do
        let o ← o.setValue option value
        o.readFrom none rest
      | some option, _, none => o.readFrom (some option) rest
      | none, some flag, none => do
        let o ← o.setFlag flag
        o.readFrom none rest
      | _, _, _ => .error .invalid
    | none, .short letters => do
      let o ← o.setLetters letters
      o.readFrom none rest
    | none, .plain path => do
      let o ← o.setInput path
      o.readFrom none rest

/-- The choices for a run. -/
def settings (o : Options) : Settings where
  merge := if o.unionShapes then .union else .overwrite
  denyIssues := o.denyIssues

end Options

/-- What a list of arguments asks for. -/
def Request.ofArguments (arguments : List String) : Request :=
  match ({} : Options).readFrom none arguments with
  | .error request => request
  | .ok o =>
    match o.input with
    | some input => .run input o
    | none => .invalid

end DocSchema.CommandLine
