import DocSchema.Json.Value

/-!
# Relationships

A relationship links the objects of one class to objects of another. Its storage says how many and
how they are found: one at most, a sequence, or a table under the value of an index field, so only
a table has an index field. The class at the other end is named after the document key, without the
start and the end that tell of the kind (`relatedClassName`), and the store of the relationship
after the relationship (`storageKey`).
-/

namespace DocSchema

namespace Text

/-- The characters after a known start, or all of them if they do not begin with it. -/
def withoutStart (start name : List Char) : List Char :=
  if start.isPrefixOf name then name.drop start.length else name

/-- The characters without one final `s`. -/
def withoutPlural (name : List Char) : List Char :=
  if name.getLast? = some 's' then name.dropLast else name

/-- The name begins with a known start. -/
def startsWith (start name : String) : Bool := start.toList.isPrefixOf name.toList

/-- A start that is put before a name can be taken off. -/
theorem withoutStart_append (start name : List Char) : withoutStart start (start ++ name) = name := by
  simp [withoutStart]

/-- A final `s` that is put behind a name can be taken off. -/
theorem withoutPlural_append (name : List Char) : withoutPlural (name ++ ['s']) = name := by
  simp [withoutPlural]

end Text

/-- How the objects of a relationship are kept. -/
inductive Storage where
  /-- One object at most. -/
  | single
  /-- Any number of objects in order. -/
  | sequence
  /-- Objects under the value of their index field. -/
  | indexed (field : String)
deriving DecidableEq, Repr

namespace Storage

/-- The index field of a table. -/
def indexField? : Storage → Option String
  | indexed field => some field
  | _ => none

/-- How many objects there may be, in words. -/
def multiplicity : Storage → String
  | single => "one-to-one"
  | _ => "one-to-many"

/-- How many objects there may be, as a JSON name. -/
def multiplicityKey : Storage → String
  | single => "one_to_one"
  | _ => "one_to_many"

end Storage

/-- A link from the objects of one class to those of another. -/
structure Relationship where
  /-- The name of the link. -/
  name : String
  /-- The class it starts from. -/
  owner : String
  /-- The class it leads to. -/
  target : String
  /-- How the objects at its end are kept. -/
  storage : Storage
  /-- The document key it was seen under. -/
  jsonKey : String
deriving DecidableEq, Repr

/-- How the key of an array may begin. -/
def listStart : String := "liste_"

/-- How the key of a table begins. -/
def tableStart : String := "table_"

/-- The class that a key speaks of: the key without the start of its kind and without one final
`s`. -/
def relatedClassName (start key : String) : String :=
  String.ofList (Text.withoutPlural (Text.withoutStart start.toList key.toList))

namespace Relationship

/-- The name of the store: that of the relationship itself, or a plural with the start of its
kind. -/
def storageKey (r : Relationship) : String :=
  match r.storage with
  | .single => r.name
  | .sequence => listStart ++ r.name ++ "s"
  | .indexed _ => tableStart ++ r.name ++ "s"

/-- A relationship in one line. -/
def describe (r : Relationship) : String :=
  let index :=
    match r.storage.indexField? with
    | some field => s!", indexed by {field}"
    | none => ""
  s!"{r.name}: {r.owner} -> {r.target} ({r.storage.multiplicity}{index})"

/-- A relationship as a JSON value; only a table has an index field. -/
def toJson (r : Relationship) : Json :=
  .object <|
    [("name", .string r.name), ("owner_class", .string r.owner),
      ("target_class", .string r.target), ("multiplicity", .string r.storage.multiplicityKey)] ++
    (match r.storage.indexField? with
      | some field => [("index_field", .string field)]
      | none => []) ++
    [("json_key", .string r.jsonKey)]

end Relationship

end DocSchema
