import DocSchema.Entity.Basic
import DocSchema.Source.Module

/-!
# Values of generated structs

What a generated module means when it runs. A `Record` is a value of its struct: the contents of the
fields of attributes, typed by kind, and the stores of the fields of relationships. `Module.create`
is the constructor, `Accessors.add` and `Accessors.remove` are the accessors of a relationship, and
`Record.equal` is the derived equality, which compares field by field and takes a table as a map
whose order does not matter. Fields are found by their identifiers, as in the code.
-/

namespace DocSchema

open Numeric Source

/-- What the field of an attribute holds. -/
inductive Content where
  /-- A string. -/
  | text (value : String)
  /-- A binary64 number. -/
  | number (value : Binary64)
  /-- A truth value. -/
  | boolean (value : Bool)
  /-- An untyped value. -/
  | json (value : Json)

namespace Content

/-- A value of a kind as the field of an attribute of that kind holds it. -/
def ofJson : Kind → Json → Content
  | .string, .string s => text s
  | .number, .number n => number n.toBinary64
  | .boolean, .bool b => boolean b
  | _, value => json value

/-- The kind of the attributes whose fields hold such contents. -/
def kind : Content → Kind
  | text _ => .string
  | number _ => .number
  | boolean _ => .boolean
  | json _ => .any

/-- Equality of contents. -/
def same : Content → Content → Bool
  | text a, text b => a == b
  | number a, number b => a.sameValue b
  | boolean a, boolean b => a == b
  | json a, json b => a.same b
  | _, _ => false

/-- Equality of contents that may be absent. -/
def sameOption : Option Content → Option Content → Bool
  | none, none => true
  | some a, some b => a.same b
  | _, _ => false

/-- The display of contents. -/
def shown : Content → String
  | text s => s
  | number x => plainLayout.text x
  | boolean b => toString b
  | json value => renderValue value

end Content

mutual

/-- A value of a generated struct. -/
inductive Record where
  /-- The fields of attributes and those of relationships, by their identifiers. -/
  | mk (values : List (String × Option Content)) (stores : List (String × Store))

/-- What the field of a relationship holds. -/
inductive Store where
  /-- One object at most. -/
  | single (item : Option Record)
  /-- Objects in order. -/
  | sequence (items : List Record)
  /-- Objects under keys. -/
  | table (entries : List (String × Record))

end

namespace Record

/-- The fields of attributes. -/
def values : Record → List (String × Option Content)
  | mk values _ => values

/-- The fields of relationships. -/
def stores : Record → List (String × Store)
  | mk _ stores => stores

/-- What the field of an attribute holds. -/
def content? (x : Record) (field : String) : Option Content := (x.values.lookup field).join

/-- Equality of the fields of attributes. -/
def equalValues : List (String × Option Content) → List (String × Option Content) → Bool
  | [], [] => true
  | (_, a) :: as, (_, b) :: bs => Content.sameOption a b && equalValues as bs
  | _, _ => false

mutual

/-- Equality of two values of one struct, field by field. -/
def equal : Record → Record → Bool
  | mk values stores, mk others otherStores =>
    equalValues values others && equalStores stores otherStores
termination_by structural x => x

/-- Equality of the fields of relationships. -/
def equalStores : List (String × Store) → List (String × Store) → Bool
  | [], [] => true
  | (_, s) :: rest, (_, t) :: others => equalStore s t && equalStores rest others
  | _, _ => false
termination_by structural stores => stores

/-- Equality of two stores; the order of a table does not matter. -/
def equalStore : Store → Store → Bool
  | .single x, .single y => equalOption x y
  | .sequence xs, .sequence ys => equalItems xs ys
  | .table xs, .table ys => xs.length == ys.length && equalEntries xs ys
  | _, _ => false
termination_by structural s => s

/-- Equality of values that may be absent. -/
def equalOption : Option Record → Option Record → Bool
  | none, none => true
  | some x, some y => equal x y
  | _, _ => false
termination_by structural x => x

/-- Equality of values in order. -/
def equalItems : List Record → List Record → Bool
  | [], [] => true
  | x :: xs, y :: ys => equal x y && equalItems xs ys
  | _, _ => false
termination_by structural xs => xs

/-- Every entry of the first table has an equal one under its key in the second. -/
def equalEntries : List (String × Record) → List (String × Record) → Bool
  | [], _ => true
  | (key, x) :: rest, others =>
    (match others.lookup key with
      | some y => equal x y
      | none => false) && equalEntries rest others
termination_by structural xs => xs

end

/-- Changes the store of a field. -/
def modify (field : String) (change : Store → Store) : List (String × Store) → List (String × Store)
  | [] => []
  | (name, s) :: rest =>
    if name = field then (name, change s) :: rest else (name, s) :: modify field change rest

/-- The value with another store in a field. -/
def modifyStore (x : Record) (field : String) (change : Store → Store) : Record :=
  mk x.values (modify field change x.stores)

end Record

namespace Store

/-- Puts an object into a table: in the place of the one with its key, or at the end. -/
def insertEntry (key : String) (item : Record) : List (String × Record) → List (String × Record)
  | [] => [(key, item)]
  | (k, x) :: rest => if k = key then (key, item) :: rest else (k, x) :: insertEntry key item rest

/-- Takes the first object away that is equal to another one. -/
def removeFirst (item : Record) : List Record → List Record
  | [] => []
  | x :: rest => if x.equal item then rest else x :: removeFirst item rest

/-- Takes the object under a key away. -/
def removeEntry (key : String) : List (String × Record) → List (String × Record)
  | [] => []
  | (k, x) :: rest => if k = key then rest else (k, x) :: removeEntry key rest

/-- The objects of a store, in order. -/
def items : Store → List Record
  | single item => item.toList
  | sequence items => items
  | table entries => entries.map Prod.snd

end Store

namespace Source

/-- What the field of a relationship holds in a new object. -/
def FieldType.emptyStore : FieldType → Store
  | value _ => .single none
  | single _ => .single none
  | sequence _ => .sequence []
  | table _ => .table []

/-- The key that an item has in a table. -/
def IndexKey.of (item : Record) : IndexKey → String
  | none => ""
  | text field | shown field | rendered field => ((item.content? field).map Content.shown).getD ""

/-- The constructor, with an argument for each attribute. -/
def Module.create (m : Module) (arguments : List (Option Content)) : Record :=
  .mk ((m.values.map Field.name).zip arguments) (m.stores.map fun f => (f.name, f.type.emptyStore))

/-- No two fields of the struct have one identifier, which the language demands. -/
def Module.IsStruct (m : Module) : Prop := ((m.values ++ m.stores).map Field.name).Nodup

instance (m : Module) : Decidable m.IsStruct := inferInstanceAs (Decidable (List.Nodup _))

namespace Access

/-- What a store holds after an object has been added. -/
def insert (item : Record) : Access → Store → Store
  | single, _ => .single (some item)
  | sequence, .sequence items => .sequence (items ++ [item])
  | table _ key, .table entries => .table (Store.insertEntry (key.of item) item entries)
  | _, s => s

/-- What a store holds after an object has been removed. -/
def erase (item : Record) : Access → Store → Store
  | single, .single (some held) => .single (if held.equal item then none else some held)
  | sequence, .sequence items => .sequence (Store.removeFirst item items)
  | table _ key, .table entries => .table (Store.removeEntry (key.of item) entries)
  | _, s => s

end Access

namespace Accessors

/-- The accessor that adds an object. -/
def add (a : Accessors) (x item : Record) : Record := x.modifyStore a.field (a.access.insert item)

/-- The accessor that removes an object. -/
def remove (a : Accessors) (x item : Record) : Record := x.modifyStore a.field (a.access.erase item)

/-- The accessor that iterates over the objects. -/
def iter (a : Accessors) (x : Record) : List Record :=
  ((x.stores.lookup a.field).map Store.items).getD []

end Accessors

end Source

/-- The accessors of a relationship in the module of the class that declares it. -/
abbrev Relationship.accessors (r : Relationship) (reg : Registry) : Accessors :=
  accessorsOf r (indexKind? reg r)

end DocSchema
