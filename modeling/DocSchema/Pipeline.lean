import DocSchema.Entity.Loader
import DocSchema.Entity.Materialize
import DocSchema.Schema.Inference
import DocSchema.Schema.Validation
import DocSchema.Source.Artifact

/-!
# From a document to its entities

`Pipeline.run` takes a document through all stages: its classes are inferred and the registry is
frozen and checked, code is generated, the classes are loaded, and the document becomes an entity
of its root class. The first stage that fails ends the run; issues of the registry end it only if
the settings deny them.
-/

namespace DocSchema

/-- What a run may choose. -/
structure Settings where
  /-- How shapes of one class are combined. -/
  merge : Merge
  /-- Issues of the registry end the run. -/
  denyIssues : Bool
deriving DecidableEq, Repr

/-- What a run gives. -/
structure Pipeline where
  /-- The registry, frozen, with its artifacts and bindings noted. -/
  registry : Registry
  /-- The loader with the bindings of all classes. -/
  loader : Loader
  /-- The generated code. -/
  artifacts : List Source.Artifact
  /-- The document as an entity of the root class. -/
  root : Entity

namespace Pipeline

/-- Fails with the issues of a registry if there are any and they are denied. -/
def checkIssues (settings : Settings) (reg : Registry) : Except Failure Unit :=
  if settings.denyIssues && !reg.issues.isEmpty then .error (.schemaIssues reg.issues) else .ok ()

/-- Takes a document through all stages. -/
def run (rootName : String) (document : Json) (classNamespace : String) (settings : Settings) :
    Except Failure Pipeline := do
  let inferred ← Registry.inferDocument rootName document classNamespace settings.merge
  let frozen := inferred.freeze
  checkIssues settings frozen
  let (generated, artifacts) := Source.generateAll frozen
  let (loaded, outcome) := (Loader.new 0).loadAll generated
  outcome
  let root ← loaded.registry.materializeDocument document
  .ok { registry := loaded.registry, loader := loaded.loader, artifacts, root }

end Pipeline

end DocSchema
