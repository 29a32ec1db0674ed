import DocSchema.Files.Output
import DocSchema.Proofs.Chain
import DocSchema.Proofs.Files.Writing
import DocSchema.Proofs.Source.Identifiers

/-!
# Files of artifacts

The artifacts of a registry have distinct files, modules and types if and only if the names of its
classes are apart in snake case and in camel case (`FilesApart`, `ModulesApart`, `TypesApart`).
Written into an empty directory, all of them can be found there with the module file exactly if the
files are apart (`writeArtifacts_keeps_iff`). Nothing else decides it: the issues of a registry are
about the members of classes, not about their names.
-/

namespace DocSchema.Files

open Source Text

/-- Classes that have modules of their own. -/
def ModulesApart (names : List String) : Prop :=
  names.Pairwise fun a b => snakeCase a ≠ snakeCase b ∧ ¬ SnakeExtends b a ∧ ¬ SnakeExtends a b

/-- Classes that have types of their own. -/
def TypesApart (names : List String) : Prop :=
  names.Pairwise fun a b => camelCase a ≠ camelCase b ∧ ¬ CamelExtends b a ∧ ¬ CamelExtends a b

/-- Classes that have files of their own. -/
structure FilesApart (names : List String) : Prop where
  /-- They have modules of their own. -/
  modules : ModulesApart names
  /-- None has the name of the module file. -/
  moduleFile : ∀ name ∈ names, snakeCase name ≠ "mod"

section Names

/-- The bare names of classes are distinct if and only if these have modules of their own. -/
theorem nodup_map_bareName_iff {names : List String} :
    (names.map bareName).Nodup ↔ ModulesApart names := by
  rw [List.Nodup, List.pairwise_map, ModulesApart]
  simp only [ne_eq, bareName_eq_iff, not_or]

/-- The modules of artifacts are distinct if and only if the classes have modules of their own. -/
theorem nodup_moduleName_iff {reg : Registry} :
    ((artifactsOf reg).map Artifact.moduleName).Nodup ↔ ModulesApart reg.classNames := by
  have hnames : (artifactsOf reg).map Artifact.moduleName = reg.classNames.map fieldName := by
    simp only [artifactsOf, Registry.classNames, List.map_map, Function.comp_def, artifactOf]
  rw [hnames, List.Nodup, List.pairwise_map, ModulesApart]
  simp only [ne_eq, fieldName_eq_iff, bareName_eq_iff, not_or]

/-- The types of artifacts are distinct if and only if the classes have types of their own. -/
theorem nodup_typeName_iff {reg : Registry} :
    ((artifactsOf reg).map Artifact.typeName).Nodup ↔ TypesApart reg.classNames := by
  have hnames : (artifactsOf reg).map Artifact.typeName = reg.classNames.map typeName := by
    simp only [artifactsOf, Registry.classNames, List.map_map, Function.comp_def, artifactOf]
  rw [hnames, List.Nodup, List.pairwise_map, TypesApart]
  simp only [ne_eq, typeName_eq_iff, not_or]

/-- The files of artifacts are named after the classes. -/
theorem map_fileName_artifactsOf (reg : Registry) :
    (artifactsOf reg).map Artifact.fileName =
      (reg.classNames.map bareName).map fun name => name ++ ".rs" := by
  simp only [artifactsOf, Registry.classNames, List.map_map, Function.comp_def, artifactOf]

/-- The files of artifacts are distinct and none is the module file if and only if the classes have
files of their own. -/
theorem nodup_fileName_iff {reg : Registry} :
    ((artifactsOf reg).map Artifact.fileName).Nodup ∧
        moduleFileName ∉ (artifactsOf reg).map Artifact.fileName ↔
      FilesApart reg.classNames := by
  have hinjective : Function.Injective fun name : String => name ++ ".rs" := by
    intro a b h
    simpa using h
  have hmod : moduleFileName ∈ (artifactsOf reg).map Artifact.fileName ↔
      ∃ name ∈ reg.classNames, snakeCase name = "mod" := by
    have hsplit : moduleFileName = "mod" ++ ".rs" := by decide
    rw [map_fileName_artifactsOf, hsplit, List.mem_map_of_injective hinjective, List.mem_map]
    simp only [bareName_eq_mod_iff]
  rw [hmod, map_fileName_artifactsOf, List.nodup_map_iff hinjective, nodup_map_bareName_iff]
  constructor
  · rintro ⟨hmodules, hnone⟩
    exact ⟨hmodules, fun name hname heq => hnone ⟨name, hname, heq⟩⟩
  · rintro ⟨hmodules, hnone⟩
    exact ⟨hmodules, fun ⟨name, hname, heq⟩ => hnone name hname heq⟩

/-- The file of an artifact has the name of a file. -/
theorem fileName_artifactOf (reg : Registry) (c : EntityClass) :
    FileName (artifactOf reg c).fileName := by
  have hname : (artifactOf reg c).fileName = bareName c.name ++ ".rs" := by rw [artifactOf]
  have hne : ∀ text : String, 'r' ∉ text.toList → bareName c.name ++ ".rs" ≠ text := by
    rintro _ hr rfl
    simp at hr
  rw [hname]
  refine ⟨?_, hne _ (by decide), hne _ (by decide), hne _ (by decide)⟩
  have hslash : '/' ∉ (bareName c.name).toList := notMem_bareName (by decide) (by decide)
  simp [hslash]

/-- The module file has the name of a file. -/
theorem fileName_moduleFile : FileName moduleFileName := by
  refine ⟨?_, ?_, ?_, ?_⟩ <;> decide

end Names

/-- Files in one directory have one path only if they have one name. -/
theorem join_injective (directory : String) : Function.Injective (join directory) := by
  intro a b h
  simp only [join] at h
  split at h <;> simpa using h

/-- The artifacts with the module file, by their names. -/
def namedFiles (namespaceName : String) (artifacts : List Artifact) : List (String × String) :=
  artifacts.map (fun a => (a.fileName, a.source)) ++
    [(moduleFileName, moduleFile namespaceName artifacts)]

/-- The outputs are the named files in the directory. -/
theorem outputs_eq_map (directory namespaceName : String) (artifacts : List Artifact) :
    outputs directory namespaceName artifacts =
      (namedFiles namespaceName artifacts).map fun file => (join directory file.1, file.2) := by
  simp [outputs, namedFiles]

/-- The names of the named files. -/
theorem map_fst_namedFiles (namespaceName : String) (artifacts : List Artifact) :
    (namedFiles namespaceName artifacts).map Prod.fst =
      artifacts.map Artifact.fileName ++ [moduleFileName] := by
  simp [namedFiles]

/-- The entries of the named files. -/
theorem map_namedFiles (namespaceName : String) (artifacts : List Artifact) :
    (namedFiles namespaceName artifacts).map (fun file => (file.1, Node.file file.2.toUTF8)) =
      artifacts.map (fun a => (a.fileName, .file a.source.toUTF8)) ++
        [(moduleFileName, .file (moduleFile namespaceName artifacts).toUTF8)] := by
  simp [namedFiles]

/-- Artifacts of any registry can be written into an empty directory where their names are not too
long. The paths that are told are distinct, and the directory holds each artifact and the module
file under its name, if and only if the classes have files of their own. -/
theorem writeArtifacts_keeps_iff {reg : Registry} {fs : FileSystem}
    {directory namespaceName : String} {here : Location}
    (hdirectory : fs.locate directory = some here)
    (hempty : fs.get? here = some (.directory []))
    (hshort : ∀ a ∈ (generateAll reg).2, FileSystem.nameFits a.fileName = true)
    (hpaths : ∀ file ∈ outputs directory namespaceName (generateAll reg).2,
      FileSystem.pathFits file.1 = true) :
    (((generateAll reg).2.map Artifact.fileName).Nodup ∧
        moduleFileName ∉ (generateAll reg).2.map Artifact.fileName ↔ FilesApart reg.classNames) ∧
    (((generateAll reg).2.map Artifact.moduleName).Nodup ↔ ModulesApart reg.classNames) ∧
    (((generateAll reg).2.map Artifact.typeName).Nodup ↔ TypesApart reg.classNames) ∧
    ∃ fs' paths, writeArtifacts fs directory namespaceName (generateAll reg).2 = (fs', .ok paths) ∧
      (paths.Nodup ↔ FilesApart reg.classNames) ∧
      (fs'.get? here = some (.directory
          ((generateAll reg).2.map (fun a => (a.fileName, .file a.source.toUTF8)) ++
            [(moduleFileName, .file (moduleFile namespaceName (generateAll reg).2).toUTF8)])) ↔
        FilesApart reg.classNames) := by
  refine ⟨nodup_fileName_iff, nodup_moduleName_iff, nodup_typeName_iff, ?_⟩
  have hall : (generateAll reg).2 = artifactsOf reg := rfl
  rw [hall] at hshort hpaths ⊢
  have hfits : ∀ file ∈ namedFiles namespaceName (artifactsOf reg), Fits directory file := by
    intro file hfile
    have hpath := hpaths _ (outputs_eq_map directory .. ▸ List.mem_map_of_mem hfile)
    rcases List.mem_append.1 hfile with hfile | hfile
    · obtain ⟨a, ha, rfl⟩ := List.mem_map.1 hfile
      obtain ⟨c, -, rfl⟩ := List.mem_map.1 ha
      exact ⟨fileName_artifactOf reg c, hshort _ ha, hpath⟩
    · obtain rfl := List.mem_singleton.1 hfile
      exact ⟨fileName_moduleFile, show FileSystem.nameFits moduleFileName = true by decide, hpath⟩
  have hnodup : ((namedFiles namespaceName (artifactsOf reg)).map Prod.fst).Nodup ↔
      FilesApart reg.classNames := by
    rw [← nodup_fileName_iff, map_fst_namedFiles, List.nodup_append_comm, List.singleton_append,
      List.nodup_cons, and_comm]
  have hholds : Holds fs directory here [] := ⟨hdirectory, hempty, by simp⟩
  obtain ⟨fs', hwrite, hafter⟩ := writeAll_join hholds hfits
  have hmade : fs.makeDirectory directory = (fs, true) :=
    makeDirectory_of_locate hdirectory (isDirectory_iff.2 ⟨[], hempty⟩)
  refine ⟨fs', (outputs directory namespaceName (artifactsOf reg)).map Prod.fst, ?_, ?_, ?_⟩
  · simp [writeArtifacts, hmade, outputs_eq_map, hwrite]
  · have hpath : (outputs directory namespaceName (artifactsOf reg)).map Prod.fst =
        ((namedFiles namespaceName (artifactsOf reg)).map Prod.fst).map (join directory) := by
      simp [outputs_eq_map]
    rw [← hnodup, hpath, List.nodup_map_iff (join_injective directory)]
  · rw [← hnodup, ← entriesAfter_eq_iff, hafter.get, Option.some.injEq, Node.directory.injEq,
      map_namedFiles]

/-- A file system with an empty directory for generated files. -/
def emptyOut : FileSystem where
  root := .directory [("out", .directory [])]
  current := []

/-- A document with a class inside another one. -/
def orderWithLines : Json :=
  .object [("id", .string "a"), ("liste_lines", .array [.object [("text", .string "b")]])]

/-- The artifacts of the document are written and kept exactly if they have files of their own. -/
theorem writeArtifacts_keeps_iff_orderWithLines :
    ∃ reg, Registry.inferDocument "order" orderWithLines "" .union = .ok reg ∧ reg.issues = [] ∧
      ∃ fs' paths, writeArtifacts emptyOut "out" "" (generateAll reg).2 = (fs', .ok paths) ∧
        (paths.Nodup ↔ FilesApart reg.classNames) := by
  have hcheck : (Registry.inferDocument "order" orderWithLines "" .union).toOption.any
      (fun reg => decide (reg.issues = [] ∧
        (∀ a ∈ (generateAll reg).2, FileSystem.nameFits a.fileName = true) ∧
        ∀ file ∈ outputs "out" "" (generateAll reg).2, FileSystem.pathFits file.1 = true)) =
      true := by decide +kernel
  obtain ⟨reg, hinfer, htest⟩ := Chain.exists_of_any hcheck
  obtain ⟨hissues, hshort, hpaths⟩ := of_decide_eq_true htest
  have hlocate : emptyOut.locate "out" = some ["out"] := by decide +kernel
  have hempty : emptyOut.get? ["out"] = some (.directory []) := rfl
  obtain ⟨-, -, -, fs', paths, hwrite, hkept, -⟩ :=
    writeArtifacts_keeps_iff hlocate hempty hshort hpaths
  exact ⟨reg, hinfer, hissues, fs', paths, hwrite, hkept⟩

/-- A document with a class that has the name of the module file. -/
def classNamedMod : Json := .object [("mod", .object [("id", .string "a")])]

/-- A registry has no issues, but the file of one of its classes is the module file, which is
written over it. -/
theorem not_nodup_paths_classNamedMod :
    ∃ reg, Registry.inferDocument "root" classNamedMod "" .union = .ok reg ∧ reg.issues = [] ∧
      moduleFileName ∈ (generateAll reg).2.map Artifact.fileName ∧
      ∃ paths, (writeArtifacts emptyOut "out" "" (generateAll reg).2).2 = .ok paths ∧
        ¬ paths.Nodup := by
  have hcheck : (Registry.inferDocument "root" classNamedMod "" .union).toOption.any
      (fun reg => decide (reg.issues = [] ∧
          moduleFileName ∈ (generateAll reg).2.map Artifact.fileName) &&
        (writeArtifacts emptyOut "out" "" (generateAll reg).2).2.toOption.any
          (fun paths => decide (¬ paths.Nodup))) = true := by decide +kernel
  obtain ⟨reg, hinfer, htest⟩ := Chain.exists_of_any hcheck
  obtain ⟨hclass, hwritten⟩ := Bool.and_eq_true_iff.1 htest
  obtain ⟨hissues, hmod⟩ := of_decide_eq_true hclass
  obtain ⟨paths, hwrite, hpaths⟩ := Chain.exists_of_any hwritten
  exact ⟨reg, hinfer, hissues, hmod, paths, hwrite, of_decide_eq_true hpaths⟩

end DocSchema.Files
