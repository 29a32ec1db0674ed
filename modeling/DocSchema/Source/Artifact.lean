import DocSchema.Source.Printer

/-!
# Artifacts

The generated code of a class with its names: the type, the module and its file. `generateAll` makes
the artifacts of a registry, one for each class in order, and notes them on the classes;
`moduleFile` is the file that declares all modules.
-/

namespace DocSchema.Source

/-- The generated code of a class. -/
structure Artifact where
  /-- The name of the class. -/
  className : String
  /-- The type of the class. -/
  typeName : String
  /-- The module of the class. -/
  moduleName : String
  /-- The module, with its namespace. -/
  modulePath : String
  /-- The file of the module. -/
  fileName : String
  /-- The text of the module. -/
  source : String
deriving DecidableEq, Repr

/-- Where an artifact is. -/
def Artifact.ref (a : Artifact) : ArtifactRef := ⟨a.modulePath, a.fileName⟩

/-- The artifact of a class. -/
def artifactOf (reg : Registry) (c : EntityClass) : Artifact where
  className := c.name
  typeName := typeName c.name
  moduleName := fieldName c.name
  modulePath := modulePath c.classNamespace (fieldName c.name)
  fileName := bareName c.name ++ ".rs"
  source := (Module.ofClass reg c).text

/-- The artifacts of the classes, in order. -/
def artifactsOf (reg : Registry) : List Artifact := reg.classes.map (artifactOf reg)

/-- The class with a note of where its code is. -/
def withArtifact (reg : Registry) (c : EntityClass) : EntityClass :=
  { c with artifact := some (artifactOf reg c).ref }

/-- Freezes a registry, generates the code of its classes and notes where it is. -/
def generateAll (reg : Registry) : Registry × List Artifact :=
  ({ reg.freeze with classes := reg.classes.map (withArtifact reg) }, artifactsOf reg)

/-- Generating code changes no name. -/
theorem classNames_generateAll (reg : Registry) :
    (generateAll reg).1.classNames = reg.classNames := by
  simp [generateAll, withArtifact, Registry.classNames, Registry.freeze]

/-- There is one artifact for each class, in order. -/
theorem className_artifactsOf (reg : Registry) :
    (artifactsOf reg).map Artifact.className = reg.classNames := by
  simp [artifactsOf, artifactOf, Registry.classNames]

/-- The name of the file that declares all modules. -/
def moduleFileName : String := "mod.rs"

/-- The file that declares all modules and exports their types. -/
def moduleFile (namespaceName : String) (artifacts : List Artifact) : String :=
  Code.text <|
    [.line generatedNotice, .line "//!", .line ("//! Namespace `" ++ namespaceName ++ "`."),
      .blank] ++
    artifacts.map (fun a => .line s!"pub mod {a.moduleName};") ++ [.blank] ++
    artifacts.map fun a => .line s!"pub use {a.moduleName}::{a.typeName};"

end DocSchema.Source
