import DocSchema.Entity.Access
import DocSchema.Schema.Registry

/-!
# Loading classes

A loader binds classes whose code has been generated, one binding for each class name, and notes
the binding on the class of the registry. A class that the loader has bound before gets the same
binding again, whatever registry it is asked for, and then nothing is noted.
-/

namespace DocSchema

/-- The bindings made by one loader. -/
structure Loader where
  /-- The number that tells this loader from others. -/
  stamp : Nat
  /-- The bindings, in the order in which they were made. -/
  bindings : List Binding
deriving DecidableEq, Repr

namespace Loader

/-- A loader without bindings. -/
def new (stamp : Nat) : Loader where
  stamp
  bindings := []

/-- The binding of a class name. -/
def find? (loader : Loader) (className : String) : Option Binding :=
  loader.bindings.find? (·.className == className)

/-- The binding of a class to its generated code. -/
def bind (loader : Loader) (c : EntityClass) (artifact : ArtifactRef) : Binding where
  loader := loader.stamp
  className := c.name
  classNamespace := c.classNamespace
  artifact
  parameters := c.shape.attributes
  relationships := c.shape.relationships

/-- A loader and the registry it works on. -/
structure Loaded where
  /-- The loader. -/
  loader : Loader
  /-- The registry. -/
  registry : Registry
deriving DecidableEq, Repr

/-- Loads a class. -/
def load (loader : Loader) (reg : Registry) (className : String) :
    Except Failure (Loaded × Binding) :=
  match loader.find? className with
  -- A binding is given again even if the registry has changed or lacks the class.
  | some b => .ok (⟨loader, reg⟩, b)
  | none => do
    let c ← reg.require className
    match c.artifact with
    | none => .error (.notGenerated className)
    | some artifact =>
      let b := loader.bind c artifact
      .ok (⟨{ loader with bindings := loader.bindings ++ [b] }, reg.setBinding className b⟩, b)

/-- Loads classes in order, up to the first that cannot be loaded. -/
def loadNames (loaded : Loaded) : List String → Loaded × Except Failure Unit
  | [] => (loaded, .ok ())
  | name :: rest =>
    match loaded.loader.load loaded.registry name with
    | .ok (loaded, _) => loadNames loaded rest
    | .error failure => (loaded, .error failure)

/-- Loads every class of a registry, up to the first that cannot be loaded. -/
def loadAll (loader : Loader) (reg : Registry) : Loaded × Except Failure Unit :=
  loadNames ⟨loader, reg⟩ reg.classNames

/-- A new entity of a class that the loader has bound. -/
def construct (loader : Loader) (className : String) (parameters : Parameters) :
    Except Failure Entity :=
  match loader.find? className with
  | some b => b.construct parameters
  | none => .error (.typeNotLoaded className)

end Loader

end DocSchema
