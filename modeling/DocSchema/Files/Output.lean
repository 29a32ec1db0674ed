import DocSchema.Files.Tree
import DocSchema.Pipeline

/-!
# Generated files

The files of a run are one for each artifact and the module file last, all in one directory. They
are written after every stage that can fail for another reason than input or output.
-/

namespace DocSchema.Files

open Source

/-- The files of artifacts in a directory with their texts, the module file last. -/
def outputs (directory namespaceName : String) (artifacts : List Artifact) :
    List (String × String) :=
  artifacts.map (fun a => (join directory a.fileName, a.source)) ++
    [(join directory moduleFileName, moduleFile namespaceName artifacts)]

/-- Writes artifacts into a directory, which is made if it is missing, and gives the paths of the
files. -/
def writeArtifacts (fs : FileSystem) (directory namespaceName : String)
    (artifacts : List Artifact) : FileSystem × Except Failure (List String) :=
  let (fs, made) := fs.makeDirectory directory
  if !made then (fs, .error .io)
  else
    let files := outputs directory namespaceName artifacts
    let (fs, written) := fs.writeAll files
    (fs, if written then .ok (files.map Prod.fst) else .error .io)

/-- Reads a document from a file. -/
def readDocument (fs : FileSystem) (path : String) : Except Failure Json :=
  match fs.readText path with
  | none => .error .io
  | some text => (Json.read text).mapError Failure.json

/-- What the generation from a file gives. -/
structure Generated where
  /-- The name of the root class. -/
  rootName : String
  /-- The namespace of the classes. -/
  classNamespace : String
  /-- The run. -/
  pipeline : Pipeline
  /-- The paths of the files, in order. -/
  written : List String

/-- Takes the document in a file through the pipeline, named after the file and the directory for
the output. -/
def runOnFile (fs : FileSystem) (input directory : String) (settings : Settings) :
    Except Failure (String × Pipeline) := do
  let rootName ←
    match rootName? input with
    | some name => .ok name
    | none => .error (.noRootName input)
  let document ← readDocument fs input
  let pipeline ← Pipeline.run rootName document (namespaceOf directory) settings
  .ok (rootName, pipeline)

/-- Generates the code for the document in a file and writes it into a directory. -/
def generate (fs : FileSystem) (input directory : String) (settings : Settings) :
    FileSystem × Except Failure Generated :=
  match runOnFile fs input directory settings with
  | .error failure => (fs, .error failure)
  | .ok (rootName, pipeline) =>
    let classNamespace := namespaceOf directory
    let (fs, written) := writeArtifacts fs directory classNamespace pipeline.artifacts
    (fs, written.map fun paths => ⟨rootName, classNamespace, pipeline, paths⟩)

end DocSchema.Files
