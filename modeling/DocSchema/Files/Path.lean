/-!
# Paths and the names they give

A path is read as a list of components; repeated and final slashes and all but a leading dot mean
nothing. The root class of a document is named after its file, and the namespace of generated code
after the directory it is written to.
-/

namespace DocSchema.Files

/-- A part of a path. -/
inductive Component where
  /-- The slash that an absolute path begins with. -/
  | root
  /-- The dot that a path may begin with. -/
  | current
  /-- Two dots. -/
  | parent
  /-- A name. -/
  | normal (name : String)
deriving DecidableEq, Repr

/-- The name of a component that is a name. -/
def Component.name? : Component → Option String
  | normal name => some name
  | _ => none

/-- The parts of a path between its slashes. -/
def segments (path : String) : List String := (path.toList.splitOn '/').map String.ofList

/-- The segment names no component after another one. -/
def isIdle (segment : String) : Bool := segment = "" || segment = "."

/-- A segment that is not the first one as a component; an empty one and a dot are none. -/
def laterComponent (segment : String) : Option Component :=
  if isIdle segment then none
  else if segment = ".." then some .parent
  else some (.normal segment)

/-- The components of a path. -/
def components (path : String) : List Component :=
  match segments path with
  | [] => []
  | first :: rest =>
    let start : List Component :=
      if first = "" then (if rest.isEmpty then [] else [.root])
      else if first = "." then [.current]
      else (laterComponent first).toList
    start ++ rest.filterMap laterComponent

/-- The last segment of a path, its final slashes apart, is a dot. -/
def endsInDot (path : String) : Bool := ((segments path).filter (· ≠ "")).getLast? = some "."

/-- The path without its last component and what follows it. -/
def front (path : String) : String :=
  "/".intercalate ((segments path).reverse.dropWhile isIdle).tail.reverse

/-- The name that a path ends in, if it ends in one. -/
def fileName? (path : String) : Option String := (components path).getLast?.bind Component.name?

/-- The name of the root class of the document in a file: the name of the file up to its first
dot. -/
def rootName? (path : String) : Option String := do
  let name ← fileName? path
  let stem := name.toList.takeWhile (· ≠ '.')
  if stem.isEmpty then none else some (String.ofList stem)

/-- The items after the last one that is equal to `x`, if there is one. -/
def afterLast (x : String) : List String → Option (List String)
  | [] => none
  | y :: rest =>
    match afterLast x rest with
    | some later => some later
    | none => if y = x then some rest else none

/-- The namespace of the code in a directory: the names after the last `src`, or the last name
where there is no such directory. -/
def namespaceOf (path : String) : String :=
  let names := (components path).filterMap Component.name?
  match afterLast "src" names with
  | some later => "::".intercalate later
  | none => names.getLast?.getD ""

/-- The directory to make, with those above it, when a path is asked for. A dot at the end stands in
the directory before it, which must be there already, so only those above that one are made. -/
def directoryToMake (path : String) : String := if endsInDot path then front path else path

/-- The path of a file in a directory. -/
def join (directory file : String) : String :=
  if directory = "" || directory.toList.getLast? = some '/' then directory ++ file
  else directory ++ "/" ++ file

end DocSchema.Files
