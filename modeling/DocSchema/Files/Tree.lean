import DocSchema.Files.Path

/-!
# File trees

A file system is a tree of directories and files, with a current directory. Paths are followed
component by component: every directory on the way must exist, so two dots lead from where the path
has got to. What fails has no message; it is input or output that failed.
-/

namespace DocSchema.Files

/-- A file or a directory. -/
inductive Node where
  /-- A file with its bytes. -/
  | file (bytes : ByteArray)
  /-- A directory with its entries. -/
  | directory (entries : List (String × Node))

/-- The names from the root to a file or directory. -/
abbrev Location := List String

namespace Node

/-- The node at a location below a node. -/
def get? : Node → Location → Option Node
  | node, [] => some node
  | directory entries, name :: rest => (entries.lookup name).bind (·.get? rest)
  | file _, _ :: _ => none
termination_by structural _ location => location

/-- The entries with one of them set. -/
def putEntry (name : String) (node : Node) : List (String × Node) → List (String × Node)
  | [] => [(name, node)]
  | (n, old) :: rest => if n = name then (n, node) :: rest else (n, old) :: putEntry name node rest

/-- The node with the node at a location set; where a directory on the way is missing, nothing
changes. -/
def put (node : Node) (new : Node) : Location → Node
  | [] => new
  | name :: rest =>
    match node with
    | file _ => node
    | directory entries =>
      match rest, entries.lookup name with
      | [], _ => directory (putEntry name new entries)
      | _, some child => directory (putEntry name (child.put new rest) entries)
      | _, none => node

mutual

/-- The files below a node with the text of their paths, given the path of the node. -/
def filesAt (path : String) : Node → List (String × ByteArray)
  | file bytes => [(path, bytes)]
  | directory entries => filesIn path entries
termination_by structural node => node

/-- The files below the entries of a directory. -/
def filesIn (path : String) : List (String × Node) → List (String × ByteArray)
  | [] => []
  | (name, node) :: rest => filesAt (join path name) node ++ filesIn path rest
termination_by structural entries => entries

end

/-- The files below a directory, sorted by their paths. -/
def files (node : Node) : List (String × ByteArray) :=
  (filesAt "" node).mergeSort fun a b => a.1 ≤ b.1

end Node

/-- A file system. -/
structure FileSystem where
  /-- The root directory. -/
  root : Node
  /-- The current directory. -/
  current : Location

namespace FileSystem

/-- A file system with one empty directory, which is the current one. -/
def empty : FileSystem where
  root := .directory [("home", .directory [("work", .directory [])])]
  current := ["home", "work"]

/-- The node at a location. -/
def get? (fs : FileSystem) (location : Location) : Option Node := fs.root.get? location

/-- A directory is at the location. -/
def isDirectory (fs : FileSystem) (location : Location) : Bool :=
  match fs.get? location with
  | some (.directory _) => true
  | _ => false

/-- A name that a file may have: no longer than 255 bytes. -/
def nameFits (name : String) : Bool := name.utf8ByteSize ≤ 255

/-- A path that may be asked for: no NUL in it, and shorter than 4096 bytes. -/
def pathFits (path : String) : Bool := path.utf8ByteSize < 4096 && !path.toList.contains '\x00'

/-- The location that components lead to from a directory. Everything but the last name must be
a directory. -/
def follow (fs : FileSystem) (here : Location) : List Component → Option Location
  | [] => some here
  | c :: rest =>
    -- Two dots are followed in the tree, so a missing directory before them is missed.
    if !fs.isDirectory here then none
    else
      match c with
      | .root => fs.follow [] rest
      | .current => fs.follow here rest
      | .parent => fs.follow here.dropLast rest
      | .normal name => if nameFits name then fs.follow (here ++ [name]) rest else none

/-- The location of a path. -/
def locate (fs : FileSystem) (path : String) : Option Location :=
  if pathFits path then fs.follow fs.current (components path) else none

/-- The path can only be that of a directory. -/
def endsAsDirectory (path : String) : Bool :=
  match (segments path).getLast? with
  | some last => last = "" || last = "."
  | none => true

/-- The bytes of a file. -/
def read (fs : FileSystem) (path : String) : Option ByteArray :=
  if endsAsDirectory path then none
  else
    match (fs.locate path).bind fs.get? with
    | some (.file bytes) => some bytes
    | _ => none

/-- The text of a file. -/
def readText (fs : FileSystem) (path : String) : Option String :=
  (fs.read path).bind String.fromUTF8?

/-- Writes a file in a directory that exists. -/
def write (fs : FileSystem) (path : String) (bytes : ByteArray) : Option FileSystem :=
  if endsAsDirectory path then none
  else do
    let location ← fs.locate path
    if location.isEmpty || fs.isDirectory location || !fs.isDirectory location.dropLast then none
    else some { fs with root := fs.root.put (.file bytes) location }

/-- Makes the directories that components lead through, from a directory on, up to the first that
cannot be made. -/
def makeFrom (fs : FileSystem) (here : Location) : List Component → FileSystem
  | [] => fs
  | c :: rest =>
    if !fs.isDirectory here then fs
    else
      match c with
      | .root => fs.makeFrom [] rest
      | .current => fs.makeFrom here rest
      | .parent => fs.makeFrom here.dropLast rest
      | .normal name =>
        if !nameFits name then fs
        else
          let next := here ++ [name]
          match fs.get? next with
          | some _ => fs.makeFrom next rest
          | none =>
            makeFrom { fs with root := fs.root.put (.directory []) next } next rest

/-- The path is that of a directory that is there. -/
def hasDirectory (fs : FileSystem) (path : String) : Bool := (fs.locate path).any fs.isDirectory

/-- Makes a directory and those above it, and says whether it is there now. -/
def makeDirectory (fs : FileSystem) (path : String) : FileSystem × Bool :=
  if pathFits path then
    let made := fs.makeFrom fs.current (components (directoryToMake path))
    (made, made.hasDirectory path)
  else (fs, false)

/-- Writes files in order, up to the first that cannot be written, and says whether all were. -/
def writeAll (fs : FileSystem) : List (String × String) → FileSystem × Bool
  | [] => (fs, true)
  | (path, text) :: rest =>
    match fs.write path text.toUTF8 with
    | some fs => fs.writeAll rest
    | none => (fs, false)

end FileSystem

end DocSchema.Files
