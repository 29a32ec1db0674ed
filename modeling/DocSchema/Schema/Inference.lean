import DocSchema.Schema.Registry

/-!
# Inference

The classes of a document are inferred by visiting its objects. A visit of a fragment under a class
name enters the class, builds the shape of the fragment member by member, visits the parts of each
member as it comes to it, and last merges the shape into the class. A scalar member is an
attribute. An array is a sequence of the class that its key speaks of; an object under a key that
begins like a table is a table of such a class; any other object is a single object of the class
named by the key.

A visit that fails keeps what the registry had taken in until then (`Interrupted`).
-/

namespace DocSchema

/-- A failure, with the registry as it was then. -/
structure Interrupted where
  /-- What stopped the inference. -/
  failure : Failure
  /-- The registry with everything inferred before. -/
  registry : Registry
deriving Repr

namespace Registry

/-- Fails with the registry as it is. -/
def interruptedBy {α : Type} (reg : Registry) (step : Except Failure α) : Except Interrupted α :=
  step.mapError (⟨·, reg⟩)

/-- Fails with the conflict of a class. -/
def interruptedByConflict {α : Type} (reg : Registry) (className : String)
    (step : Except Conflict α) : Except Interrupted α :=
  step.mapError fun conflict => ⟨.schemaConflict className conflict, reg⟩

/-- Merges a later shape into the class of a name. A union that a conflict stops leaves what it had
reached. -/
def mergeShape (reg : Registry) (name : String) (later : Shape) (mode : Merge) :
    Except Interrupted Registry := do
  let c ← reg.interruptedBy (reg.require name)
  match c.shape.merge mode later with
  | .ok shape => .ok (reg.setShape name shape)
  | .error stopped =>
    .error ⟨.schemaConflict name stopped.conflict, reg.setShape name stopped.reached⟩

end Registry

namespace Inference

/-- The index field of a table: the first key of its first entry that begins like an identifier, or
one named after the class of the entries. -/
def indexField (related : String) (entries : Members) : String :=
  let candidate :=
    match entries with
    | (_, .object sample) :: _ => (sample.map Prod.fst).find? (Text.startsWith "id")
    | _ => none
  candidate.getD ("id_" ++ related)

/-- The relationship that an array stands for. -/
def listRelationship (owner key : String) : Relationship :=
  let related := relatedClassName listStart key
  ⟨related, owner, related, .sequence, key⟩

/-- The relationship that a table stands for. -/
def tableRelationship (owner key : String) (entries : Members) : Relationship :=
  let related := relatedClassName tableStart key
  ⟨related, owner, related, .indexed (indexField related entries), key⟩

/-- The relationship that any other object stands for. -/
def nestedRelationship (owner key : String) : Relationship := ⟨key, owner, key, .single, key⟩

/-- Adds the attribute that a scalar member stands for. -/
def addScalar (shape : Shape) (key : String) (value : Json) : Except Conflict Shape :=
  match Kind.of? value with
  | some kind => shape.addAttribute ⟨key, kind⟩
  | none => .ok shape

mutual

/-- Visits a fragment under a class name. -/
def visit (mode : Merge) (name : String) (here : Pointer) (reg : Registry) :
    Json → Except Interrupted Registry
  | .object members => do
    let reg ← reg.interruptedBy (reg.touch name)
    let (shape, reg) ← visitMembers mode name here .empty reg members
    -- The class may have been met inside itself: its shape is merged after those of its parts.
    reg.mergeShape name shape mode
  | other => .error ⟨.unsupportedFragment name here other.kindName, reg⟩
termination_by structural fragment => fragment

/-- Visits the members of an object, adding to the shape that the members before them gave. -/
def visitMembers (mode : Merge) (owner : String) (here : Pointer) (shape : Shape)
    (reg : Registry) : Members → Except Interrupted (Shape × Registry)
  | [] => .ok (shape, reg)
  | (key, value) :: rest =>
    match value with
    | .array items => do
      -- A member whose name is taken stops the visit before its own parts are visited.
      let r := listRelationship owner key
      let shape ← reg.interruptedByConflict owner (shape.addRelationship r)
      let reg ← visitItems mode r.target (here.key key) 0 reg items
      visitMembers mode owner here shape reg rest
    | .object entries =>
      if Text.startsWith tableStart key then do
        let r := tableRelationship owner key entries
        let shape ← reg.interruptedByConflict owner (shape.addRelationship r)
        let reg ← visitEntries mode r.target (here.key key) reg entries
        visitMembers mode owner here shape reg rest
      else do
        let r := nestedRelationship owner key
        let shape ← reg.interruptedByConflict owner (shape.addRelationship r)
        let reg ← visit mode r.target (here.key key) reg (.object entries)
        visitMembers mode owner here shape reg rest
    | scalar => do
      let shape ← reg.interruptedByConflict owner (addScalar shape key scalar)
      visitMembers mode owner here shape reg rest
termination_by structural members => members

/-- Visits the items of an array, the first of them at a position. -/
def visitItems (mode : Merge) (name : String) (here : Pointer) (position : Nat)
    (reg : Registry) : List Json → Except Interrupted Registry
  | [] => .ok reg
  | item :: rest => do
    let reg ← visit mode name (here.index position) reg item
    visitItems mode name here (position + 1) reg rest
termination_by structural items => items

/-- Visits the entries of a table. -/
def visitEntries (mode : Merge) (name : String) (here : Pointer) (reg : Registry) :
    Members → Except Interrupted Registry
  | [] => .ok reg
  | (key, value) :: rest => do
    let reg ← visit mode name (here.key key) reg value
    visitEntries mode name here reg rest
termination_by structural entries => entries

end

end Inference

/-- Infers a class and every class inside it from a fragment, into a registry. -/
def Registry.inferClass (reg : Registry) (mode : Merge) (name : String) (fragment : Json) :
    Except Interrupted Registry :=
  Inference.visit mode name .root reg fragment

/-- Infers the registry of a whole document, whose own class has the root name. -/
def Registry.inferDocument (rootName : String) (document : Json) (classNamespace : String)
    (mode : Merge) : Except Failure Registry :=
  ({ Registry.new classNamespace with rootName := some rootName }.inferClass mode rootName
    document).mapError Interrupted.failure

end DocSchema
