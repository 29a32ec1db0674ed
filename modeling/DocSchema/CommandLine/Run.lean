import DocSchema.CommandLine.Options
import DocSchema.Files.Output

/-!
# Running a command line

The work between reading the document and writing the files is pure: `Job.ofOptions` fixes the
names, `Job.work` goes from the text of the document to the run, and `Job.printed` is what is
printed at the end. `run` does the whole of it on a file tree, and `execute` starts from the
arguments and puts what `run` comes to into words.

Two kinds of text are left out of an `Outcome`: the log lines, which go to standard error between
the others (by default the warnings alone: one for each issue of a schema that is not refused and
one for each member that does not fit its relationship), and the texts of help and usage. Neither
has a part in the exit code or in the files.
-/

namespace DocSchema.CommandLine

/-- The work on a document, with its names. -/
structure Job where
  /-- The file with the document. -/
  input : String
  /-- The name of the root class. -/
  rootName : String
  /-- The namespace of the classes. -/
  classNamespace : String
  /-- The directory for the generated code. -/
  outDir : Option String
  /-- The choices for the run. -/
  settings : Settings
  /-- The registry is printed as JSON. -/
  emitSchema : Bool
deriving Repr

/-- The namespace that options give: their own, or that of the directory. -/
def Options.namespaceName (o : Options) : String :=
  match o.classNamespace, o.outDir with
  | some name, _ => name
  | none, some directory => Files.namespaceOf directory
  | none, none => ""

/-- The name of the root class that options give: their own, or that of the file. -/
def Options.root (o : Options) (input : String) : Except Failure String :=
  match o.rootName, Files.rootName? input with
  | some name, _ => .ok name
  | none, some name => .ok name
  | none, none => .error (.noRootName input)

namespace Job

/-- The work that options ask for. -/
def ofOptions (input : String) (o : Options) : Except Failure Job := do
  let rootName ← o.root input
  .ok {
    input, rootName
    classNamespace := o.namespaceName
    outDir := o.outDir
    settings := o.settings
    emitSchema := o.emitSchema }

/-- Takes the text of the document through the pipeline. -/
def work (job : Job) (text : String) : Except Failure Pipeline := do
  let document ← (Json.read text).mapError Failure.json
  Pipeline.run job.rootName document job.classNamespace job.settings

/-- What is printed at the end: the registry and the document as an entity. -/
def printed (job : Job) (pipeline : Pipeline) : String :=
  (if job.emitSchema then pipeline.registry.toJson.pretty ++ "\n" else pipeline.registry.describe) ++
    "Top object: " ++ pipeline.root.dump ++ "\n"

end Job

/-- A failure as the command line tells it, with the option that helps where there is one. -/
def failureText (failure : Failure) : String :=
  match failure with
  | .noRootName _ => failure.message ++ "; pass --root"
  | _ => failure.message

/-- The name and the number of this version. -/
def versionText : String := "jsonclassgen 0.1.0"

/-- The note about a file that was written. -/
def wroteText (path : String) : String := "wrote " ++ path ++ "\n"

/-- What a command leaves behind. -/
structure Outcome where
  /-- The exit code. -/
  code : Nat
  /-- What was printed, without the text of help. -/
  stdout : String
  /-- What was reported, without log lines and without the text of usage. -/
  stderr : String
  /-- The files. -/
  files : Files.FileSystem

/-- Writes the artifacts of a run, if there is a directory for them. -/
def writeOutput (fs : Files.FileSystem) (job : Job) (pipeline : Pipeline) :
    Files.FileSystem × Except Failure (List String) :=
  match job.outDir with
  | none => (fs, .ok [])
  | some directory => Files.writeArtifacts fs directory job.classNamespace pipeline.artifacts

/-- Takes a job through the pipeline, with the document in a file. -/
def runJob (fs : Files.FileSystem) (input : String) (o : Options) :
    Except Failure (Job × Pipeline) := do
  let job ← Job.ofOptions input o
  match fs.readText job.input with
  | none => .error .io
  | some text =>
    let pipeline ← job.work text
    .ok (job, pipeline)

/-- What the work that options ask for gives. -/
structure Done where
  /-- The job. -/
  job : Job
  /-- The run. -/
  pipeline : Pipeline
  /-- The paths of the files, in order. -/
  written : List String

/-- Does the work that options ask for on a file tree. -/
def run (fs : Files.FileSystem) (input : String) (o : Options) :
    Files.FileSystem × Except Failure Done :=
  match runJob fs input o with
  | .error failure => (fs, .error failure)
  | .ok (job, pipeline) =>
    let (fs, written) := writeOutput fs job pipeline
    (fs, written.map fun paths => ⟨job, pipeline, paths⟩)

/-- The end of a command that failed: nothing is printed, and the failure is reported behind the log
lines, which are left out. -/
def failed (fs : Files.FileSystem) (failure : Failure) : Outcome :=
  ⟨1, "", "Error: " ++ failureText failure ++ "\n", fs⟩

/-- The end of a command whose work is done: the files that were written are reported behind the log
lines, which are left out. -/
def succeeded (fs : Files.FileSystem) (done : Done) : Outcome :=
  ⟨0, done.job.printed done.pipeline, String.join (done.written.map wroteText), fs⟩

/-- Executes a command on a file tree. -/
def execute (fs : Files.FileSystem) (arguments : List String) : Outcome :=
  match Request.ofArguments arguments with
  | .invalid => ⟨2, "", "", fs⟩
  | .version => ⟨0, versionText ++ "\n", "", fs⟩
  | .help => ⟨0, "", "", fs⟩
  | .run input o =>
    match run fs input o with
    | (fs, .error failure) => failed fs failure
    | (fs, .ok done) => succeeded fs done

end DocSchema.CommandLine
