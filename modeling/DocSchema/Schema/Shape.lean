import DocSchema.Failure

/-!
# Shapes of classes

A shape is the attributes and the relationships of a class, in the order in which they were
declared. No member name comes twice, in either list or across them (`Shape.Distinct`), because a
member is added only under a name that is free. Two shapes of one class are combined by a merge:
the later one replaces the earlier, or it is united with it member by member.
-/

namespace DocSchema

/-- The members of a class. -/
structure Shape where
  /-- The attributes, in order. -/
  attributes : List Attribute
  /-- The relationships, in order. -/
  relationships : List Relationship
deriving DecidableEq, Repr

/-- How a later shape of a class is combined with an earlier one. -/
inductive Merge where
  /-- The later shape replaces the earlier one. -/
  | overwrite
  /-- The later shape is united with the earlier one. -/
  | union
deriving DecidableEq, Repr

namespace Shape

/-- The shape without members. -/
def empty : Shape where
  attributes := []
  relationships := []

/-- The shape has no members. -/
def isEmpty (s : Shape) : Bool := s.attributes.isEmpty && s.relationships.isEmpty

/-- The kind of an attribute. -/
def kind? (s : Shape) (name : String) : Option Kind :=
  (s.attributes.find? (·.name == name)).map Attribute.kind

/-- A relationship by its name. -/
def relationship? (s : Shape) (name : String) : Option Relationship :=
  s.relationships.find? (·.name == name)

/-- A member has the name. -/
def declares (s : Shape) (name : String) : Bool :=
  (s.kind? name).isSome || (s.relationship? name).isSome

/-- The names of the members, attributes first. -/
def memberNames (s : Shape) : List String :=
  s.attributes.map Attribute.name ++ s.relationships.map Relationship.name

/-- No two members have one name. -/
def Distinct (s : Shape) : Prop := s.memberNames.Nodup

/-- Adds an attribute under a name that is free. -/
def addAttribute (s : Shape) (a : Attribute) : Except Conflict Shape :=
  if s.declares a.name then .error (.declaredTwice a.name)
  else .ok { s with attributes := s.attributes ++ [a] }

/-- Adds a relationship under a name that is free. -/
def addRelationship (s : Shape) (r : Relationship) : Except Conflict Shape :=
  if s.declares r.name then .error (.declaredTwice r.name)
  else .ok { s with relationships := s.relationships ++ [r] }

/-- A name is declared if and only if it is among the member names. -/
theorem declares_eq_true_iff (s : Shape) (name : String) :
    s.declares name = true ↔ name ∈ s.memberNames := by
  simp [declares, kind?, relationship?, memberNames]

/-- An attribute that was added is the last one, and its name was free. -/
theorem addAttribute_eq_ok_iff (s added : Shape) (a : Attribute) :
    s.addAttribute a = .ok added ↔
      a.name ∉ s.memberNames ∧ added = { s with attributes := s.attributes ++ [a] } := by
  rw [← declares_eq_true_iff]
  cases h : s.declares a.name <;> simp [addAttribute, h, eq_comm]

/-- A relationship that was added is the last one, and its name was free. -/
theorem addRelationship_eq_ok_iff (s added : Shape) (r : Relationship) :
    s.addRelationship r = .ok added ↔
      r.name ∉ s.memberNames ∧ added = { s with relationships := s.relationships ++ [r] } := by
  rw [← declares_eq_true_iff]
  cases h : s.declares r.name <;> simp [addRelationship, h, eq_comm]

/-- Adding an attribute keeps the names distinct. -/
theorem distinct_of_addAttribute {s added : Shape} {a : Attribute} (hs : s.Distinct)
    (h : s.addAttribute a = .ok added) : added.Distinct := by
  obtain ⟨hfree, rfl⟩ := (addAttribute_eq_ok_iff s added a).1 h
  simp only [Distinct, memberNames, List.map_append, List.nodup_append, List.mem_append,
    List.mem_map] at hs hfree ⊢
  grind

/-- Adding a relationship keeps the names distinct. -/
theorem distinct_of_addRelationship {s added : Shape} {r : Relationship} (hs : s.Distinct)
    (h : s.addRelationship r = .ok added) : added.Distinct := by
  obtain ⟨hfree, rfl⟩ := (addRelationship_eq_ok_iff s added r).1 h
  simp only [Distinct, memberNames, List.map_append, List.nodup_append, List.mem_append,
    List.mem_map] at hs hfree ⊢
  grind

/-- Gives the attributes of a name another kind. -/
def setKind (name : String) (kind : Kind) : List Attribute → List Attribute
  | [] => []
  | a :: rest => if a.name = name then { a with kind } :: rest else a :: setKind name kind rest

/-- Unites a shape with one more attribute. An attribute of unknown kind takes the kind of a later
one, and keeps its place. -/
def uniteAttribute (s : Shape) (a : Attribute) : Except Conflict Shape :=
  match s.kind? a.name with
  | none => s.addAttribute a
  | some earlier =>
    -- Null fits every kind, so it neither changes a kind nor is kept once there is another.
    if earlier = a.kind ∨ a.kind = .any then .ok s
    else if earlier = .any then .ok { s with attributes := setKind a.name a.kind s.attributes }
    else .error (.kindChange a.name earlier a.kind)

/-- Unites a shape with one more relationship. -/
def uniteRelationship (s : Shape) (r : Relationship) : Except Conflict Shape :=
  match s.relationship? r.name with
  | none => s.addRelationship r
  | some earlier => if earlier = r then .ok s else .error (.relationshipChange earlier r)

/-- A union that a conflict stopped, with what it had reached. -/
structure Stopped where
  /-- Why it stopped. -/
  conflict : Conflict
  /-- The shape with the members united so far. -/
  reached : Shape
deriving DecidableEq, Repr

/-- One step of a union. -/
def stoppedAt (s : Shape) (step : Except Conflict Shape) : Except Stopped Shape :=
  step.mapError (⟨·, s⟩)

/-- Unites a shape with attributes, one after the other. -/
def uniteAttributes (s : Shape) : List Attribute → Except Stopped Shape
  | [] => .ok s
  | a :: rest => do
    let s ← s.stoppedAt (s.uniteAttribute a)
    s.uniteAttributes rest

/-- Unites a shape with relationships, one after the other. -/
def uniteRelationships (s : Shape) : List Relationship → Except Stopped Shape
  | [] => .ok s
  | r :: rest => do
    let s ← s.stoppedAt (s.uniteRelationship r)
    s.uniteRelationships rest

/-- Unites a shape with a later one: first the attributes, then the relationships. -/
def unite (s later : Shape) : Except Stopped Shape := do
  let s ← s.uniteAttributes later.attributes
  s.uniteRelationships later.relationships

/-- Combines a shape with a later one. -/
def merge (mode : Merge) (s later : Shape) : Except Stopped Shape :=
  match mode with
  | .overwrite => .ok later
  | .union => s.unite later

end Shape

end DocSchema
