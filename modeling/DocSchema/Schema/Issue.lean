/-!
# Issues of a registry

What can be wrong with a member of a class once the registry is complete, and how it is told.
-/

namespace DocSchema

/-- What is wrong with a member. -/
inductive IssueKind where
  /-- The relationship leads to no class of the registry. -/
  | unresolvedTarget (target : String)
  /-- The index field is no attribute of the class that the table holds. -/
  | indexFieldNotAttribute (target field : String)
  /-- The member has the generated identifier of another one. -/
  | identifierCollision (other identifier : String)
deriving DecidableEq, Repr

/-- A member with a fault. -/
structure Issue where
  /-- The class of the member. -/
  className : String
  /-- The name of the member. -/
  member : String
  /-- What is wrong with it. -/
  kind : IssueKind
deriving DecidableEq, Repr

/-- An issue in one line. -/
def Issue.message (issue : Issue) : String :=
  let place := s!"{issue.className}.{issue.member}: "
  match issue.kind with
  | .unresolvedTarget target => place ++ s!"target class '{target}' is not in the registry"
  | .indexFieldNotAttribute target field =>
    place ++ s!"index field '{field}' is not an attribute of '{target}'"
  | .identifierCollision other identifier =>
    place ++ s!"generated identifier '{identifier}' collides with '{other}'"

/-- The issues of a registry, one to a line after their number. -/
def Issue.report (issues : List Issue) : String :=
  s!"{issues.length} schema issue(s)" ++
    String.join (issues.map fun issue => "\n  " ++ issue.message)

end DocSchema
