import DocSchema.Schema.Shape

/-!
# Classes

A class has a name, a namespace and a shape. Code that was generated for it is noted by a reference,
and a loaded class by its binding: the constructor signature and the relationships that the
generated code has. A binding belongs to the loader that made it, and a loader makes one for each
class name at most.
-/

namespace DocSchema

/-- Where the generated code of a class is. -/
structure ArtifactRef where
  /-- The module, with its namespace. -/
  modulePath : String
  /-- The file of the module. -/
  fileName : String
deriving DecidableEq, Repr

/-- A class as its generated code has it. -/
structure Binding where
  /-- The loader that made the binding. -/
  loader : Nat
  /-- The name of the class. -/
  className : String
  /-- The namespace of the class. -/
  classNamespace : String
  /-- The generated code. -/
  artifact : ArtifactRef
  /-- The parameters of the constructor, in order. -/
  parameters : List Attribute
  /-- The relationships that an object starts with, in order. -/
  relationships : List Relationship
deriving DecidableEq, Repr

/-- A class of objects. -/
structure EntityClass where
  /-- The name. -/
  name : String
  /-- The namespace of the generated code. -/
  classNamespace : String
  /-- The members. -/
  shape : Shape
  /-- The generated code, once there is some. -/
  artifact : Option ArtifactRef
  /-- The binding, once the class is loaded. -/
  binding : Option Binding
deriving DecidableEq, Repr

namespace EntityClass

/-- A class without members. -/
def new (name classNamespace : String) : EntityClass where
  name
  classNamespace
  shape := .empty
  artifact := none
  binding := none

/-- The name after the namespace, if there is one. -/
def qualifiedName (c : EntityClass) : String :=
  if c.classNamespace.isEmpty then c.name else c.classNamespace ++ "::" ++ c.name

/-- Adds an attribute. -/
def addAttribute (c : EntityClass) (a : Attribute) : Except Failure EntityClass :=
  match c.shape.addAttribute a with
  | .ok shape => .ok { c with shape }
  | .error conflict => .error (.schemaConflict c.name conflict)

/-- Adds a relationship. -/
def addRelationship (c : EntityClass) (r : Relationship) : Except Failure EntityClass :=
  match c.shape.addRelationship r with
  | .ok shape => .ok { c with shape }
  | .error conflict => .error (.schemaConflict c.name conflict)

/-- A class and its members, one to a line. -/
def describe (c : EntityClass) : String :=
  c.qualifiedName ++ "\n  attributes:\n" ++
    String.join (c.shape.attributes.map fun a => s!"    {a.name}: {a.kind.name}\n") ++
    "  relationships:\n" ++
    String.join (c.shape.relationships.map fun r => s!"    {r.describe}\n")

/-- An attribute as a JSON value. -/
def attributeJson (a : Attribute) : Json := .array [.string a.name, .string a.kind.name]

/-- A reference as a JSON value. -/
def artifactJson (ref : ArtifactRef) : Json :=
  .object [("module_path", .string ref.modulePath), ("file_name", .string ref.fileName)]

/-- A class as a JSON value; the reference to generated code stands last, if there is one. -/
def toJson (c : EntityClass) : Json :=
  .object <|
    [("name", .string c.name), ("namespace", .string c.classNamespace),
      ("attributes", .array (c.shape.attributes.map attributeJson)),
      ("relationships", .array (c.shape.relationships.map Relationship.toJson))] ++
    (match c.artifact with
      | some ref => [("generated_artifact", artifactJson ref)]
      | none => [])

end EntityClass

end DocSchema
