import DocSchema.Schema.Registry
import DocSchema.Source.Identifier

/-!
# Validation

The issues of a registry, class by class: first the relationships that lead nowhere or whose index
field the target lacks, then the members that share a generated identifier with an earlier one.
-/

namespace DocSchema

namespace Validation

/-- The issues of a relationship. -/
def relationshipIssues (reg : Registry) (c : EntityClass) (r : Relationship) : List Issue :=
  match reg.find? r.target, r.storage.indexField? with
  | none, _ => [⟨c.name, r.name, .unresolvedTarget r.target⟩]
  | some target, some field =>
    if (target.shape.kind? field).isSome then []
    else [⟨c.name, r.name, .indexFieldNotAttribute target.name field⟩]
  | some _, none => []

/-- The names by which the members of a class are stored, attributes first. -/
def storedNames (c : EntityClass) : List String :=
  c.shape.attributes.map Attribute.name ++ c.shape.relationships.map Relationship.storageKey

/-- The collisions among names, given the earliest name of each identifier before them. -/
def collisionsAfter (className : String) (seen : List (String × String)) :
    List String → List Issue
  | [] => []
  | member :: rest =>
    let identifier := Source.fieldName member
    match seen.lookup identifier with
    | some other =>
      ⟨className, member, .identifierCollision other identifier⟩ ::
        collisionsAfter className seen rest
    | none => collisionsAfter className (seen ++ [(identifier, member)]) rest

/-- The issues of a class. -/
def classIssues (reg : Registry) (c : EntityClass) : List Issue :=
  c.shape.relationships.flatMap (relationshipIssues reg c) ++
    collisionsAfter c.name [] (storedNames c)

end Validation

/-- The issues of a registry, in the order of its classes. -/
def Registry.issues (reg : Registry) : List Issue :=
  reg.classes.flatMap (Validation.classIssues reg)

end DocSchema
