import DocSchema.CommandLine.Run
import DocSchema.Proofs.Chain

/-!
# The command line and the generation from a file

With a directory for the output and no names of its own, a command does what the generation from a
file does: both take the name of the root class from the file and the namespace from the directory,
read, parse, run and write in the same order. `run_eq_generate` says so in one equation, which adds
to the result only the job that the command keeps for its report. Writing is the last stage of both,
and it fails with nothing but `Failure.io` (`writeArtifacts_error`), so every other failure leaves
the files alone.
-/

namespace DocSchema.CommandLine

/-- Options for the output into a directory that leave the names to the paths. -/
structure Options.NamedByPaths (o : Options) (directory : String) (settings : Settings) :
    Prop where
  /-- The code goes into the directory. -/
  outDir_eq : o.outDir = some directory
  /-- The root class has no name of its own. -/
  rootName_eq : o.rootName = none
  /-- The classes have no namespace of their own. -/
  classNamespace_eq : o.classNamespace = none
  /-- The choices for the run are the settings. -/
  settings_eq : o.settings = settings

/-- The job of options that leave the names to the paths. -/
def pathJob (input directory rootName : String) (settings : Settings) (emitSchema : Bool) :
    Job where
  input := input
  rootName := rootName
  classNamespace := Files.namespaceOf directory
  outDir := some directory
  settings := settings
  emitSchema := emitSchema

/-- What a command leaves behind tells what the generation from a file gives. Log lines, such as the
warnings of the run, are no part of it. -/
structure Outcome.Tells (outcome : Outcome)
    (generated : Files.FileSystem × Except Failure Files.Generated) : Prop where
  /-- The files are the same. -/
  files_eq : outcome.files = generated.1
  /-- Each path that is written is reported, in order, and nothing else but log lines. -/
  reports : ∀ g, generated.2 = .ok g →
    outcome.code = 0 ∧ outcome.stderr = String.join (g.written.map wroteText)
  /-- A failure is all that is reported, log lines apart. -/
  fails : ∀ failure, generated.2 = .error failure →
    outcome.code = 1 ∧ outcome.stdout = "" ∧
      outcome.stderr = "Error: " ++ failureText failure ++ "\n"

/-- Writing artifacts fails with nothing but input or output. -/
theorem writeArtifacts_error {fs : Files.FileSystem} {directory namespaceName : String}
    {artifacts : List Source.Artifact} {failure : Failure}
    (h : (Files.writeArtifacts fs directory namespaceName artifacts).2 = .error failure) :
    failure = .io := by
  unfold Files.writeArtifacts at h
  split at h
  split at h
  · exact (Except.error.inj h).symm
  · dsimp only at h
    split at h
    · cases h
    · exact (Except.error.inj h).symm

/-- A generation that fails with anything but input or output has written nothing. -/
theorem generate_of_ne_io {fs : Files.FileSystem} {input directory : String} {settings : Settings}
    {failure : Failure} (h : (Files.generate fs input directory settings).2 = .error failure)
    (hio : failure ≠ .io) : (Files.generate fs input directory settings).1 = fs := by
  unfold Files.generate at h ⊢
  cases hrun : Files.runOnFile fs input directory settings with
  | error other => rfl
  | ok result =>
    obtain ⟨rootName, pipeline⟩ := result
    simp only [hrun] at h
    exact absurd (writeArtifacts_error (Chain.map_eq_error_iff.1 h)) hio

section Agreement

variable {o : Options} {directory : String} {settings : Settings}

/-- The job is named after the file and the directory. -/
theorem ofOptions_eq (h : o.NamedByPaths directory settings) (input : String) :
    Job.ofOptions input o =
      match Files.rootName? input with
      | some rootName => .ok (pathJob input directory rootName settings o.emitSchema)
      | none => .error (.noRootName input) := by
  have hspace : o.namespaceName = Files.namespaceOf directory := by
    rw [Options.namespaceName, h.classNamespace_eq, h.outDir_eq]
  rw [Job.ofOptions, Options.root, h.rootName_eq, hspace, h.outDir_eq, h.settings_eq]
  cases Files.rootName? input <;> rfl

/-- Up to the writing, a command takes the document through the same stages. -/
theorem runJob_eq (h : o.NamedByPaths directory settings) (fs : Files.FileSystem)
    (input : String) :
    runJob fs input o = (Files.runOnFile fs input directory settings).map fun result =>
      (pathJob input directory result.1 settings o.emitSchema, result.2) := by
  rw [runJob, ofOptions_eq h, Files.runOnFile]
  -- The stages at which both may fail, in their order: the name, the file, the document, the run.
  cases hname : Files.rootName? input with
  | none => rfl
  | some rootName =>
    have hinput : (pathJob input directory rootName settings o.emitSchema).input = input := rfl
    cases htext : fs.readText input with
    | none => simp [Files.readDocument, hinput, htext, bind, Except.bind, Except.map]
    | some text =>
      cases hread : Json.read text with
      | error error =>
        simp [Files.readDocument, hinput, htext, hread, Job.work, bind, Except.bind, Except.map,
          Except.mapError]
      | ok document =>
        have hwork : (pathJob input directory rootName settings o.emitSchema).work text =
            Pipeline.run rootName document (Files.namespaceOf directory) settings := by
          simp [Job.work, hread, pathJob, bind, Except.bind, Except.mapError]
        simp only [hinput, hwork, Files.readDocument, htext, hread, bind, Except.bind, Except.map,
          Except.mapError]
        cases Pipeline.run rootName document (Files.namespaceOf directory) settings <;> rfl

/-- A command does what the generation from a file does. -/
theorem run_eq_generate (h : o.NamedByPaths directory settings) (fs : Files.FileSystem)
    (input : String) :
    run fs input o =
      ((Files.generate fs input directory settings).1,
        (Files.generate fs input directory settings).2.map fun g =>
          ⟨pathJob input directory g.rootName settings o.emitSchema, g.pipeline, g.written⟩) := by
  rw [run, runJob_eq h, Files.generate]
  -- Both write what the stages before have given, and nothing if they have failed.
  cases Files.runOnFile fs input directory settings with
  | error failure => rfl
  | ok result =>
    obtain ⟨rootName, pipeline⟩ := result
    show ((Files.writeArtifacts fs directory (Files.namespaceOf directory) pipeline.artifacts).1,
      _) = (_, _)
    dsimp only [Except.map, writeOutput, pathJob]
    cases (Files.writeArtifacts fs directory (Files.namespaceOf directory) pipeline.artifacts).2 <;>
      rfl

/-- A command executes with the report of the generation from a file. -/
theorem execute_tells (h : o.NamedByPaths directory settings) (fs : Files.FileSystem)
    {input : String} {arguments : List String}
    (hrequest : Request.ofArguments arguments = .run input o) :
    (execute fs arguments).Tells (Files.generate fs input directory settings) := by
  simp only [execute, hrequest, run_eq_generate h]
  obtain ⟨after, result⟩ := Files.generate fs input directory settings
  cases result with
  | error failure =>
    refine ⟨rfl, fun g hg => (by cases hg), fun other hother => ?_⟩
    obtain rfl := Except.error.inj hother
    exact ⟨rfl, rfl, rfl⟩
  | ok generated =>
    refine ⟨rfl, fun g hg => ?_, fun other hother => by cases hother⟩
    obtain rfl := Except.ok.inj hg
    exact ⟨rfl, rfl⟩

/-- With a directory for the output and the names left to the paths, a command leaves the files that
the generation from a file leaves, gives the same run and the same paths in the same order, and
fails exactly if that fails, in the same way. It tells as much when it is executed. In both, nothing
but a failure of input or output changes a file. -/
theorem run_agrees_generate (h : o.NamedByPaths directory settings) (fs : Files.FileSystem)
    (input : String) :
    (run fs input o).1 = (Files.generate fs input directory settings).1 ∧
      (run fs input o).2.map (fun done => (done.pipeline, done.written)) =
        (Files.generate fs input directory settings).2.map (fun g => (g.pipeline, g.written)) ∧
      (∀ failure, (run fs input o).2 = .error failure ↔
        (Files.generate fs input directory settings).2 = .error failure) ∧
      (∀ failure, failure ≠ .io →
        ((run fs input o).2 = .error failure → (run fs input o).1 = fs) ∧
          ((Files.generate fs input directory settings).2 = .error failure →
            (Files.generate fs input directory settings).1 = fs)) ∧
      ∀ arguments, Request.ofArguments arguments = .run input o →
        (execute fs arguments).Tells (Files.generate fs input directory settings) := by
  have hrun := run_eq_generate h fs input
  have hfailure : ∀ failure, (run fs input o).2 = .error failure ↔
      (Files.generate fs input directory settings).2 = .error failure := fun failure => by
    rw [hrun, Chain.map_eq_error_iff]
  have hkept : ∀ failure, failure ≠ .io →
      (Files.generate fs input directory settings).2 = .error failure →
        (Files.generate fs input directory settings).1 = fs :=
    fun failure hio herror => generate_of_ne_io herror hio
  refine ⟨by rw [hrun], ?_, hfailure, fun failure hio => ⟨fun herror => ?_, hkept failure hio⟩,
    fun arguments hrequest => execute_tells h fs hrequest⟩
  · rw [hrun]
    cases (Files.generate fs input directory settings).2 <;> rfl
  · rw [hrun]
    exact hkept failure hio ((hfailure failure).1 herror)

end Agreement

/-- A file system with a document in a file. -/
def withOrder : Files.FileSystem where
  root := .directory [("order.json",
    .file "\x7b\"id\":\"a\",\"lines\":[\x7b\"n\":1\x7d]\x7d".toUTF8)]
  current := []

/-- The options for uniting the shapes of the document and for the output into a directory. -/
def orderOptions : Options :=
  { input := some "order.json", outDir := some "out", unionShapes := true }

/-- The code for the document is written, and the report has its paths. -/
theorem run_agrees_generate_order :
    orderOptions.NamedByPaths "out" ⟨.union, false⟩ ∧
      Request.ofArguments ["--out-dir", "out", "--union-shapes", "order.json"] =
        .run "order.json" orderOptions ∧
      ∃ g, (Files.generate withOrder "order.json" "out" ⟨.union, false⟩).2 = .ok g ∧
        g.written = ["out/order.rs", "out/line.rs", "out/mod.rs"] ∧
        (run withOrder "order.json" orderOptions).2.map Done.written = .ok g.written ∧
        (execute withOrder ["--out-dir", "out", "--union-shapes", "order.json"]).stderr =
          String.join (g.written.map wroteText) := by
  have hnamed : orderOptions.NamedByPaths "out" ⟨.union, false⟩ := ⟨rfl, rfl, rfl, rfl⟩
  have hrequest : Request.ofArguments ["--out-dir", "out", "--union-shapes", "order.json"] =
      .run "order.json" orderOptions := by decide +kernel
  have hcheck : (Files.generate withOrder "order.json" "out" ⟨.union, false⟩).2.toOption.any
      (fun g => decide (g.written = ["out/order.rs", "out/line.rs", "out/mod.rs"])) = true := by
    decide +kernel
  obtain ⟨g, hg, hwritten⟩ := Chain.exists_of_any hcheck
  obtain ⟨-, hresult, -, -, htells⟩ := run_agrees_generate hnamed withOrder "order.json"
  have hpaths := congrArg (Except.map Prod.snd) hresult
  rw [hg] at hpaths
  refine ⟨hnamed, hrequest, g, hg, of_decide_eq_true hwritten, ?_,
    ((htells _ hrequest).reports g hg).2⟩
  obtain ⟨done, hdone, heq⟩ := Chain.map_eq_ok_iff.1 hpaths
  obtain ⟨d, hd, rfl⟩ := Chain.map_eq_ok_iff.1 hdone
  rw [hd]
  exact congrArg Except.ok heq

end DocSchema.CommandLine
