import DocSchema.Entity.Basic

/-!
# Reading and changing entities

Attributes are read and set by name, and a slot is changed through its relationship. Adding to a
sequence puts an entity at the end, adding to a single slot replaces what it held, and adding to a
table replaces the entity with the same key where it stands. Removing takes the first equal entity
away, or the one with the same key from a table.
-/

namespace DocSchema

namespace Slot

/-- Puts an entity into a table: in the place of the one with its key, or at the end. -/
def putEntry (field : String) (item : Entity) : List Entity → List Entity
  | [] => [item]
  | e :: rest =>
    if e.keyOf field = item.keyOf field then item :: rest else e :: putEntry field item rest

/-- Takes the first entity away that is equal to another one. -/
def removeEqual (item : Entity) : List Entity → List Entity
  | [] => []
  | e :: rest => if e.same item then rest else e :: removeEqual item rest

/-- Takes the entity with a key away. -/
def removeKey (field key : String) : List Entity → List Entity
  | [] => []
  | e :: rest => if e.keyOf field = key then rest else e :: removeKey field key rest

/-- The slot with one more entity. -/
def insert (s : Slot) (item : Entity) : Slot :=
  match s.storage with
  | .single => s.withItems [item]
  | .sequence => s.withItems (s.items ++ [item])
  | .indexed field => s.withItems (putEntry field item s.items)

/-- The slot without an entity. -/
def erase (s : Slot) (item : Entity) : Slot :=
  match s.storage with
  | .indexed field => s.withItems (removeKey field (item.keyOf field) s.items)
  | _ => s.withItems (removeEqual item s.items)

end Slot

namespace Entity

/-- The slot of a relationship. -/
def slot? (e : Entity) (name : String) : Option Slot := e.slots.find? (·.name == name)

/-- The slot of a relationship that must exist. -/
def slot (e : Entity) (name : String) : Except Failure Slot :=
  match e.slot? name with
  | some s => .ok s
  | none => .error (.unknownRelationship e.className name)

/-- Replaces the first slot of a name. -/
def replaceSlot (name : String) (s : Slot) : List Slot → List Slot
  | [] => []
  | t :: rest => if t.name = name then s :: rest else t :: replaceSlot name s rest

/-- The entity with another slot for a relationship. -/
def withSlot : Entity → String → Slot → Entity
  | mk className attributes slots, name, s => mk className attributes (replaceSlot name s slots)

/-- The value of an attribute, if it is present. -/
def value (e : Entity) (name : String) : Except Failure (Option Json) :=
  match e.attributes.lookup name with
  | some value => .ok value
  | none => .error (.unknownAttribute e.className name)

/-- Replaces the value of the first attribute of a name. -/
def replaceValue (name : String) (value : Option Json) :
    List (String × Option Json) → List (String × Option Json)
  | [] => []
  | (n, v) :: rest => if n = name then (n, value) :: rest else (n, v) :: replaceValue name value rest

/-- Sets an attribute; null makes it absent. -/
def setAttribute : Entity → String → Option Json → Except Failure Entity
  | mk className attributes slots, name, value =>
    if (attributes.lookup name).isSome then
      .ok (mk className (replaceValue name (value.filter fun v => !v.isNull) attributes) slots)
    else .error (.unknownAttribute className name)

/-- Adds an entity of the class that a relationship leads to. -/
def add (e : Entity) (relationship : String) (item : Entity) : Except Failure Entity := do
  let s ← e.slot relationship
  if item.className = s.target then .ok (e.withSlot relationship (s.insert item))
  else .error (.typeMismatch e.className relationship s.target item.className)

/-- Removes an entity from a relationship, if it is there. -/
def remove (e : Entity) (relationship : String) (item : Entity) : Except Failure Entity := do
  let s ← e.slot relationship
  .ok (e.withSlot relationship (s.erase item))

/-- The entities of a relationship, in order. -/
def iter (e : Entity) (relationship : String) : Except Failure (List Entity) := do
  let s ← e.slot relationship
  .ok s.items

/-- The entity of a table under the key that a value gives. -/
def get (e : Entity) (relationship : String) (key : Json) : Except Failure (Option Entity) := do
  let s ← e.slot relationship
  match s.storage with
  | .indexed field => .ok (s.items.find? fun item => item.keyOf field == renderValue key)
  | _ => .error (.notIndexed e.className relationship)

end Entity

/-- The values that a constructor is given, by attribute; an absent one may be named too. -/
abbrev Parameters := List (String × Option Json)

namespace Binding

/-- Sets attributes, one after the other. -/
def setAll (e : Entity) : Parameters → Except Failure Entity
  | [] => .ok e
  | (name, value) :: rest => do
    let e ← e.setAttribute name value
    setAll e rest

/-- A new entity of a loaded class, with the values of the parameters. -/
def construct (b : Binding) (parameters : Parameters) : Except Failure Entity :=
  setAll (.empty b.className (b.parameters.map Attribute.name) b.relationships) parameters

end Binding

end DocSchema
