import DocSchema.Json.Pointer
import DocSchema.Json.Reader
import DocSchema.Schema.Issue
import DocSchema.Schema.Kind
import DocSchema.Schema.Relationship

/-!
# Failures

Everything that can stop the work on a document, as causes. `Failure.message` is the one place
where they are put into words.
-/

namespace DocSchema

/-- Why two shapes of one class do not go together. -/
inductive Conflict where
  /-- A member name comes twice. -/
  | declaredTwice (name : String)
  /-- An attribute changes its kind. -/
  | kindChange (name : String) (earlier later : Kind)
  /-- A relationship changes. -/
  | relationshipChange (earlier later : Relationship)
deriving DecidableEq, Repr

/-- A conflict in words. -/
def Conflict.message : Conflict → String
  | declaredTwice name => s!"'{name}' is declared twice"
  | kindChange name earlier later =>
    s!"attribute '{name}' is {earlier.name} in one fragment and {later.name} in another"
  | relationshipChange earlier later =>
    s!"relationship '{earlier.describe}' conflicts with '{later.describe}'"

/-- What stopped the work. -/
inductive Failure where
  /-- The registry has no root class yet. -/
  | noRoot
  /-- The file name gives no name for the root class. -/
  | noRootName (path : String)
  /-- A file could not be read or written. -/
  | io
  /-- The text is no JSON. -/
  | json (error : Json.ReadError)
  /-- The shapes of a class do not go together. -/
  | schemaConflict (className : String) (conflict : Conflict)
  /-- The class has no such attribute. -/
  | unknownAttribute (className name : String)
  /-- The class has no such relationship. -/
  | unknownRelationship (className name : String)
  /-- A look-up by key in a relationship that is no table. -/
  | notIndexed (className relationship : String)
  /-- An object of another class than the one that the relationship leads to. -/
  | typeMismatch (className relationship expected found : String)
  /-- The registry has no such class; the relationship that leads to it, if there is one. -/
  | classNotFound (className : String) (relationship : Option String)
  /-- No code has been generated for the class. -/
  | notGenerated (className : String)
  /-- The class has not been loaded. -/
  | typeNotLoaded (className : String)
  /-- A fragment that should be an object is of another kind. -/
  | unsupportedFragment (className : String) (place : Pointer) (found : String)
  /-- The registry no longer takes shapes. -/
  | registryFrozen (className : String)
  /-- The registry has issues, and none were to be allowed. -/
  | schemaIssues (issues : List Issue)
deriving DecidableEq, Repr

/-- A failure in words. A failure of input or output has none of its own. -/
def Failure.message : Failure → String
  | noRoot => "registry has no root class; run inference first"
  | noRootName path => s!"cannot derive a root class name from '{path}'"
  | io => "IoError"
  | json error => error.message
  | schemaConflict className conflict =>
    s!"schema conflict in class '{className}': {conflict.message}"
  | unknownAttribute className name => s!"attribute '{name}' does not exist in class '{className}'"
  | unknownRelationship className name =>
    s!"relationship '{name}' does not exist in class '{className}'"
  | notIndexed className relationship =>
    s!"relationship '{relationship}' of class '{className}' is not indexed"
  | typeMismatch className relationship expected found =>
    s!"relationship '{relationship}' of class '{className}' expects '{expected}', got '{found}'"
  | classNotFound className (some relationship) =>
    s!"class '{className}' targeted by relationship '{relationship}' is not in the registry"
  | classNotFound className none => s!"class '{className}' is not in the registry"
  | notGenerated className => s!"no code has been generated for class '{className}'"
  | typeNotLoaded className => s!"type for class '{className}' has not been loaded"
  | unsupportedFragment className place found =>
    s!"class '{className}' expects an object at '{place.shown}', found {found}"
  | registryFrozen className =>
    s!"registry is frozen; cannot change the shape of class '{className}'"
  | schemaIssues issues => Issue.report issues

end DocSchema
