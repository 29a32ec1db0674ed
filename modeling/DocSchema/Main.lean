import DocSchema.CommandLine.Run

/-!
# The command

Reads the document, hands it to the pure part of the work, and writes the files.
-/

namespace DocSchema.CommandLine

/-- Reports what stopped the command. -/
def report (message : String) : IO UInt32 := do
  IO.eprintln ("Error: " ++ message)
  return 1

/-- Writes the artifacts of a run, if there is a directory for them. -/
def writeFiles (job : Job) (pipeline : Pipeline) : IO Unit :=
  match job.outDir with
  | none => return ()
  | some directory => do
    let made := Files.directoryToMake directory
    if !made.isEmpty then IO.FS.createDirAll made
    let files := Files.outputs directory job.classNamespace pipeline.artifacts
    for (path, text) in files do
      IO.FS.writeFile path text
    for (path, _) in files do
      IO.eprint (wroteText path)

/-- Does the work that options ask for. -/
def perform (input : String) (o : Options) : IO UInt32 := do
  match Job.ofOptions input o with
  | .error failure => report (failureText failure)
  | .ok job =>
    let text ← IO.FS.readFile job.input
    match job.work text with
    | .error failure => report (failureText failure)
    | .ok pipeline =>
      writeFiles job pipeline
      IO.print (job.printed pipeline)
      return 0

/-- The summary of the options. -/
def usage : String :=
  "Usage: jsonclassgen [OPTIONS] <INPUT>\n\n" ++
  "  --out-dir <DIR>       write the generated modules into this directory\n" ++
  "  --namespace <NS>      the namespace of the generated classes\n" ++
  "  --root <NAME>         the name of the root class\n" ++
  "  --union-shapes        unite the shapes of repeated fragments\n" ++
  "  --deny-schema-issues  fail when the inferred schema has issues\n" ++
  "  --emit-schema         print the inferred schema as JSON\n" ++
  "  -v, --verbose         accepted for scripts; nothing more is reported\n" ++
  "  -V, --version         print the version\n"

/-- Runs a command line. -/
def runArguments (arguments : List String) : IO UInt32 := do
  match Request.ofArguments arguments with
  | .invalid => do
    IO.eprint usage
    return 2
  | .help => do
    IO.print usage
    return 0
  | .version => do
    IO.println versionText
    return 0
  | .run input o =>
    try perform input o
    catch e => report (toString e)

end DocSchema.CommandLine

/-- The entry point. -/
def main (arguments : List String) : IO UInt32 :=
  DocSchema.CommandLine.runArguments arguments
