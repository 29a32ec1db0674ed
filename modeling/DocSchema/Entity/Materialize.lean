import DocSchema.Entity.Access
import DocSchema.Schema.Registry

/-!
# Materialising documents

A fragment becomes an entity of a loaded class: the attributes of the class take the members of
the same name, and each relationship the entities that its member holds, in the order of the
document. The member of a relationship stands under its own key or else under the name of its
store. A member that is missing, null or of a kind that does not fit the storage holds none.
-/

namespace DocSchema

namespace Materialize

/-- The key under which the members hold a relationship, if they do. -/
def memberKey? (r : Relationship) (members : Members) : Option String :=
  if (members.lookup r.jsonKey).isSome then some r.jsonKey
  else if (members.lookup r.storageKey).isSome then some r.storageKey
  else none

/-- The parameters that the members give for the attributes of a class. -/
def parametersOf (c : EntityClass) (members : Members) : Parameters :=
  c.shape.attributes.map fun a => (a.name, members.lookup a.name)

/-- The class that a relationship with entities leads to must exist. -/
def requireTarget (reg : Registry) (r : Relationship) : Except Failure Unit :=
  if reg.contains r.target then .ok () else .error (.classNotFound r.target (some r.name))

mutual

/-- The entity of a class that a fragment describes. -/
def build (reg : Registry) (className : String) (here : Pointer) :
    Json → Except Failure Entity
  | .object members => do
    let c ← reg.require className
    match c.binding with
    | none => .error (.typeNotLoaded className)
    | some binding => do
      let e ← binding.construct (parametersOf c members)
      c.shape.relationships.foldlM (fun e r =>
        match memberKey? r members with
        | none => .ok e
        | some key => attach reg r key here e members) e
  | other => do
    let c ← reg.require className
    match c.binding with
    | none => .error (.typeNotLoaded className)
    | some _ => .error (.unsupportedFragment className here other.kindName)
termination_by structural fragment => fragment

/-- Adds the entities that the member under a key holds for a relationship. -/
def attach (reg : Registry) (r : Relationship) (key : String) (here : Pointer) (e : Entity) :
    Members → Except Failure Entity
  | [] => .ok e
  | (k, value) :: rest =>
    -- No key comes twice among the members, so there is nothing more to look for behind it.
    if k = key then
      match value, r.storage with
      | .array items, .sequence =>
        if items.isEmpty then .ok e
        else do
          requireTarget reg r
          attachItems reg r (here.key key) 0 e items
      | .object entries, .indexed _ =>
        if entries.isEmpty then .ok e
        else do
          requireTarget reg r
          attachEntries reg r (here.key key) e entries
      | .object inner, .single => do
        requireTarget reg r
        let item ← build reg r.target (here.key key) (.object inner)
        e.add r.name item
      | _, _ => .ok e
    else attach reg r key here e rest
termination_by structural members => members

/-- Adds the entities of the items of an array, the first of them at a position. -/
def attachItems (reg : Registry) (r : Relationship) (here : Pointer) (position : Nat)
    (e : Entity) : List Json → Except Failure Entity
  | [] => .ok e
  | item :: rest => do
    let d ← build reg r.target (here.index position) item
    let e ← e.add r.name d
    attachItems reg r here (position + 1) e rest
termination_by structural items => items

/-- Adds the entities of the entries of a table. -/
def attachEntries (reg : Registry) (r : Relationship) (here : Pointer) (e : Entity) :
    Members → Except Failure Entity
  | [] => .ok e
  | (key, value) :: rest => do
    let d ← build reg r.target (here.key key) value
    let e ← e.add r.name d
    attachEntries reg r here e rest
termination_by structural entries => entries

end

end Materialize

/-- The entity of a class that a fragment describes. -/
def Registry.materialize (reg : Registry) (className : String) (fragment : Json) :
    Except Failure Entity :=
  Materialize.build reg className .root fragment

/-- The entity of the root class that a document describes. -/
def Registry.materializeDocument (reg : Registry) (document : Json) : Except Failure Entity := do
  let root ← reg.root
  reg.materialize root.name document

end DocSchema
