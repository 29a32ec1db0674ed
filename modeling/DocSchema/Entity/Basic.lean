import DocSchema.Json.Writer
import DocSchema.Schema.Class

/-!
# Entities

An entity is an object of a class: the values of its attributes and, for each relationship, a slot
with the entities at its end. The storage of a slot decides how an entity is added, removed and
found; a table keeps its entities under the value of their index field, which an entity in a slot
never changes, so the key of an entity is always read off the entity.
-/

namespace DocSchema

mutual

/-- An object of a class. -/
inductive Entity where
  /-- The class, the attributes with the values that are present, and the slots, in order. -/
  | mk (className : String) (attributes : List (String × Option Json)) (slots : List Slot)

/-- The entities at the end of a relationship. -/
inductive Slot where
  /-- The relationship, the class it leads to, how its entities are kept, and the entities in
  order: one at most in a single slot, no two with one key in a table. -/
  | mk (name target : String) (storage : Storage) (items : List Entity)

end

/-- A number in plain notation, as the nearest binary64 number. Up to `2 ^ 53` that is the integer
itself, and no shorter decimal is as near to it. -/
def renderNumber : Number → String
  | .integer value inRange =>
    if value.natAbs ≤ Numeric.twoTo 53 then toString value
    else Numeric.plainLayout.text (Number.integer value inRange).toBinary64
  | .real value => Numeric.plainLayout.text value

/-- A value in a dump: a string without quotes, a number in plain notation, and anything else as
JSON. -/
def renderValue : Json → String
  | .string s => s
  | .number n => renderNumber n
  | other => other.compact

/-- The key of an entity whose index field has a value; without one the key is empty. -/
def indexKey (value : Option Json) : String := (value.map renderValue).getD ""

namespace Slot

/-- The name of the relationship. -/
def name : Slot → String
  | mk name _ _ _ => name

/-- The class that the relationship leads to. -/
def target : Slot → String
  | mk _ target _ _ => target

/-- How the entities are kept. -/
def storage : Slot → Storage
  | mk _ _ storage _ => storage

/-- The entities, in order. -/
def items : Slot → List Entity
  | mk _ _ _ items => items

/-- The same slot with other entities. -/
def withItems : Slot → List Entity → Slot
  | mk name target storage _, items => mk name target storage items

/-- The slot of a relationship in a new entity. -/
def ofRelationship (r : Relationship) : Slot := mk r.name r.target r.storage []

/-- A slot with other entities has these. -/
@[simp]
theorem items_withItems (s : Slot) (items : List Entity) : (s.withItems items).items = items := by
  cases s
  rfl

/-- A slot with other entities keeps its name. -/
@[simp]
theorem name_withItems (s : Slot) (items : List Entity) : (s.withItems items).name = s.name := by
  cases s
  rfl

/-- A slot with other entities leads to the same class. -/
@[simp]
theorem target_withItems (s : Slot) (items : List Entity) :
    (s.withItems items).target = s.target := by
  cases s
  rfl

/-- A slot with other entities keeps them in the same way. -/
@[simp]
theorem storage_withItems (s : Slot) (items : List Entity) :
    (s.withItems items).storage = s.storage := by
  cases s
  rfl

end Slot

namespace Entity

/-- The name of the class. -/
def className : Entity → String
  | mk className _ _ => className

/-- The attributes with the values that are present, in order. -/
def attributes : Entity → List (String × Option Json)
  | mk _ attributes _ => attributes

/-- The slots, in order. -/
def slots : Entity → List Slot
  | mk _ _ slots => slots

/-- An entity with no value and no other entity. -/
def empty (className : String) (attributes : List String) (relationships : List Relationship) :
    Entity :=
  mk className (attributes.map (·, none)) (relationships.map Slot.ofRelationship)

/-- The key of an entity in a table with an index field. A class without that attribute gives the
empty key. -/
def keyOf (field : String) (e : Entity) : String := indexKey ((e.attributes.lookup field).join)

/-- Equality of attribute values, present or not. -/
def sameValue : Option Json → Option Json → Bool
  | none, none => true
  | some a, some b => a.same b
  | _, _ => false

/-- Equality of attributes, in order. -/
def sameAttributes : List (String × Option Json) → List (String × Option Json) → Bool
  | [], [] => true
  | (name, a) :: as, (other, b) :: bs => name == other && sameValue a b && sameAttributes as bs
  | _, _ => false

mutual

/-- Equality of entities: class, attributes and slots, in order. -/
def same : Entity → Entity → Bool
  | mk className attributes slots, mk otherName otherAttributes otherSlots =>
    className == otherName && sameAttributes attributes otherAttributes &&
      sameSlots slots otherSlots
termination_by structural e => e

/-- Equality of slots, in order. -/
def sameSlots : List Slot → List Slot → Bool
  | [], [] => true
  | s :: rest, t :: others => sameSlot s t && sameSlots rest others
  | _, _ => false
termination_by structural slots => slots

/-- Equality of two slots; the order of the entities of a table does not matter. -/
def sameSlot : Slot → Slot → Bool
  | .mk name target storage items, .mk otherName otherTarget otherStorage others =>
    name == otherName && target == otherTarget && storage == otherStorage &&
      -- No two entities of a table have one key, so equal sizes make the inclusion an equality.
      (match storage with
        | .indexed field => items.length == others.length && sameEntries field items others
        | _ => sameItems items others)
termination_by structural s => s

/-- Equality of entities in order. -/
def sameItems : List Entity → List Entity → Bool
  | [], [] => true
  | e :: rest, d :: others => same e d && sameItems rest others
  | _, _ => false
termination_by structural items => items

/-- Every entity of the first table has an equal one under the same key in the second. -/
def sameEntries (field : String) : List Entity → List Entity → Bool
  | [], _ => true
  | e :: rest, others =>
    (match others.find? fun d => keyOf field d == keyOf field e with
      | some d => same e d
      | none => false) && sameEntries field rest others
termination_by structural items => items

end

/-- The dump of an entity that has nothing to show. -/
def emptyDump : String := "Empty JSONClass Object"

/-- The attributes that are present, as parts of a dump. -/
def dumpAttributes (attributes : List (String × Option Json)) : List String :=
  attributes.filterMap fun (name, value) => value.map fun v => name ++ ": " ++ renderValue v

/-- The parts of a dump, or the words for none. -/
def joinParts (parts : List String) : String :=
  if parts.isEmpty then emptyDump else ", ".intercalate parts

mutual

/-- The text of an entity: its attributes, then the entities of each slot in brackets. -/
def dump : Entity → String
  | mk _ attributes slots => joinParts (dumpAttributes attributes ++ dumpSlots slots)
termination_by structural e => e

/-- The slots that hold something, as parts of a dump. -/
def dumpSlots : List Slot → List String
  | [] => []
  | s :: rest => dumpSlot s ++ dumpSlots rest
termination_by structural slots => slots

/-- A slot as a part of a dump, if it holds something. -/
def dumpSlot : Slot → List String
  | .mk name _ _ items =>
    if items.isEmpty then [] else [name ++ ": [" ++ ", ".intercalate (dumpItems items) ++ "]"]
termination_by structural s => s

/-- The texts of entities, each in braces. -/
def dumpItems : List Entity → List String
  | [] => []
  | e :: rest => ("\x7b" ++ dump e ++ "\x7d") :: dumpItems rest
termination_by structural items => items

end

end Entity

end DocSchema
