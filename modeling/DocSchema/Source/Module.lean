import DocSchema.Schema.Registry
import DocSchema.Source.Identifier
import DocSchema.Text.Printable

/-!
# Generated modules

What the generated module of a class declares, before it is text: the types it imports, the fields
of its struct, the accessors of its relationships and the parts of its dump. Everything is read off
the class; of the registry only the kinds of the index fields matter (`indexKind?`).

A name that generated code prints stands in a format string inside a string literal, so its `label`
is written twice over: braces are doubled for the format string, every other character is escaped
for the literal.
-/

namespace DocSchema.Source

/-- A character of a label. -/
def labelChar (c : Char) : List Char :=
  if c = '\x7b' || c = '\x7d' then [c, c] else Text.escapeChar c

/-- A name as the text of a format string. -/
def label (name : String) : String := String.ofList (name.toList.flatMap labelChar)

/-- The type of a field. -/
inductive FieldType where
  /-- The value of an attribute, which may be absent. -/
  | value (kind : Kind)
  /-- One object of a type at most. -/
  | single (target : String)
  /-- Objects of a type in order. -/
  | sequence (target : String)
  /-- Objects of a type under their index keys. -/
  | table (target : String)
deriving DecidableEq, Repr

/-- A field of a struct. -/
structure Field where
  /-- The identifier. -/
  name : String
  /-- The type. -/
  type : FieldType
deriving DecidableEq, Repr

/-- An import of the type of another class. -/
structure Import where
  /-- The module of the class. -/
  moduleName : String
  /-- The type of the class. -/
  typeName : String
deriving DecidableEq, Repr

/-- How the key of an item is found. -/
inductive IndexKey where
  /-- The class of the items has no such field: every key is empty. -/
  | none
  /-- The field holds the key. -/
  | text (field : String)
  /-- The field holds a value whose display is the key. -/
  | shown (field : String)
  /-- The field holds an untyped value, which the helper renders. -/
  | rendered (field : String)
deriving DecidableEq, Repr

/-- What the accessors of a relationship work on. -/
inductive Access where
  /-- One object at most. -/
  | single
  /-- Objects in order. -/
  | sequence
  /-- Objects under keys; the look-up is named after the index field. -/
  | table (lookupName : String) (key : IndexKey)
deriving DecidableEq, Repr

/-- The accessors of a relationship. -/
structure Accessors where
  /-- The name that the accessors share. -/
  name : String
  /-- The field of the relationship. -/
  field : String
  /-- The type of the objects. -/
  target : String
  /-- What they work on. -/
  access : Access
deriving DecidableEq, Repr

/-- A part of the dump of an object. -/
inductive DumpPart where
  /-- The value of an attribute. -/
  | value (label field : String)
  /-- The untyped value of an attribute, which the helper renders. -/
  | rendered (label field : String)
  /-- The objects of a relationship; those of a table are values of a map. -/
  | objects (label field : String) (table : Bool)
deriving DecidableEq, Repr

/-- The generated module of a class. -/
structure Module where
  /-- The name of the class. -/
  className : String
  /-- The name of the class with its namespace. -/
  qualifiedName : String
  /-- The type of the class. -/
  typeName : String
  /-- Some relationship is a table. -/
  usesTables : Bool
  /-- Some value is untyped, an attribute or the index field of a table. -/
  usesHelper : Bool
  /-- The types of other classes. -/
  imports : List Import
  /-- The fields of attributes. -/
  values : List Field
  /-- The fields of relationships. -/
  stores : List Field
  /-- The accessors, relationship by relationship. -/
  accessors : List Accessors
  /-- The dump, part by part. -/
  dump : List DumpPart
deriving DecidableEq, Repr

/-- The kind of the index field of a table, if the class of its entries has it. -/
def indexKind? (reg : Registry) (r : Relationship) : Option Kind := do
  let field ← r.storage.indexField?
  let target ← reg.find? r.target
  target.shape.kind? field

/-- How the keys of a table are found, given the kind of its index field. -/
def indexKey (field : String) : Option Kind → IndexKey
  | some .string => .text (fieldName field)
  | some .number => .shown (fieldName field)
  | some .boolean => .shown (fieldName field)
  | some .any => .rendered (fieldName field)
  | none => .none

/-- The field of an attribute. -/
def attributeField (a : Attribute) : Field := ⟨fieldName a.name, .value a.kind⟩

/-- The field of a relationship. -/
def storeField (r : Relationship) : Field where
  name := fieldName r.storageKey
  type :=
    match r.storage with
    | .single => .single (typeName r.target)
    | .sequence => .sequence (typeName r.target)
    | .indexed _ => .table (typeName r.target)

/-- The accessors of a relationship, given the kind of its index field. -/
def accessorsOf (r : Relationship) (kind : Option Kind) : Accessors where
  name := bareName r.name
  field := fieldName r.storageKey
  target := typeName r.target
  access :=
    match r.storage with
    | .single => .single
    | .sequence => .sequence
    | .indexed field => .table (bareName field) (indexKey field kind)

/-- The part of a dump that shows an attribute. -/
def attributePart (a : Attribute) : DumpPart :=
  if a.kind = .any then .rendered (label a.name) (fieldName a.name)
  else .value (label a.name) (fieldName a.name)

/-- The part of a dump that shows a relationship. -/
def relationshipPart (r : Relationship) : DumpPart :=
  .objects (label r.name) (fieldName r.storageKey) r.storage.indexField?.isSome

/-- The items without those that came before. -/
def firstOccurrences (seen : List String) : List String → List String
  | [] => []
  | name :: rest =>
    if seen.contains name then firstOccurrences seen rest
    else name :: firstOccurrences (seen ++ [name]) rest

/-- The names that are kept are those that have not come before, without repetition. -/
theorem firstOccurrences_eq (seen names : List String) :
    firstOccurrences seen names = (names.filter (· ∉ seen)).eraseDups := by
  induction names generalizing seen with
  | nil => rfl
  | cons name names ih =>
    rw [firstOccurrences]
    split
    · next hseen => rw [ih, List.filter_cons_of_neg (by simpa using hseen)]
    · next hseen =>
      have hfilter : names.filter (· ∉ seen ++ [name]) =
          (names.filter (· ∉ seen)).filter (! · == name) := by
        rw [List.filter_filter]
        refine List.filter_congr fun other _ => ?_
        rw [Bool.eq_iff_iff]
        simp [and_comm]
      rw [ih, List.filter_cons_of_pos (by simpa using hseen), List.eraseDups_cons, hfilter]

/-- The other classes that a class speaks of, each once, in the order of the relationships. -/
def otherClasses (c : EntityClass) : List String :=
  firstOccurrences [c.name] (c.shape.relationships.map Relationship.target)

/-- The generated module of a class. -/
def Module.ofClass (reg : Registry) (c : EntityClass) : Module where
  className := c.name
  qualifiedName := c.qualifiedName
  typeName := Source.typeName c.name
  usesTables := c.shape.relationships.any fun r => r.storage.indexField?.isSome
  usesHelper := (c.shape.attributes.any fun a => a.kind = .any) ||
    c.shape.relationships.any fun r => indexKind? reg r = some .any
  imports := (otherClasses c).map fun name => ⟨fieldName name, Source.typeName name⟩
  values := c.shape.attributes.map attributeField
  stores := c.shape.relationships.map storeField
  accessors := c.shape.relationships.map fun r => accessorsOf r (indexKind? reg r)
  dump := c.shape.attributes.map attributePart ++ c.shape.relationships.map relationshipPart

end DocSchema.Source
