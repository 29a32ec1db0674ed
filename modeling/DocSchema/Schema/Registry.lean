import DocSchema.Schema.Class

/-!
# Registries

A registry holds the classes of a document in the order in which they were first met, each name
once. Inference fills it. Once it is frozen no shape changes any more; only generated code and
bindings are noted on its classes.
-/

namespace DocSchema

/-- The classes of a document. -/
structure Registry where
  /-- The namespace of new classes. -/
  classNamespace : String
  /-- The name of the class of the whole document, once known. -/
  rootName : Option String
  /-- The classes, in the order in which they were first met. -/
  classes : List EntityClass
  /-- No shape changes any more. -/
  frozen : Bool
deriving DecidableEq, Repr

namespace Registry

/-- A registry without classes. -/
def new (classNamespace : String) : Registry where
  classNamespace
  rootName := none
  classes := []
  frozen := false

/-- The names of the classes, in order. -/
def classNames (reg : Registry) : List String := reg.classes.map EntityClass.name

/-- A class by its name. -/
def find? (reg : Registry) (name : String) : Option EntityClass :=
  reg.classes.find? (·.name == name)

/-- The registry has a class of the name. -/
def contains (reg : Registry) (name : String) : Bool := (reg.find? name).isSome

/-- A class that must exist. -/
def require (reg : Registry) (name : String) : Except Failure EntityClass :=
  match reg.find? name with
  | some c => .ok c
  | none => .error (.classNotFound name none)

/-- The class of the whole document. -/
def root (reg : Registry) : Except Failure EntityClass :=
  match reg.rootName with
  | some name => reg.require name
  | none => .error .noRoot

/-- Ends the changes of shapes. -/
def freeze (reg : Registry) : Registry := { reg with frozen := true }

/-- Changes the class of a name. -/
def update (reg : Registry) (name : String) (change : EntityClass → EntityClass) : Registry :=
  { reg with classes := reg.classes.map fun c => if c.name = name then change c else c }

/-- Enters a class under a name that is not there yet. -/
def touch (reg : Registry) (name : String) : Except Failure Registry :=
  if reg.frozen then .error (.registryFrozen name)
  else if reg.contains name then .ok reg
  else .ok { reg with classes := reg.classes ++ [.new name reg.classNamespace] }

/-- Gives the class of a name another shape. -/
def setShape (reg : Registry) (name : String) (shape : Shape) : Registry :=
  reg.update name fun c => { c with shape }

/-- Notes the binding of a class. -/
def setBinding (reg : Registry) (name : String) (binding : Binding) : Registry :=
  reg.update name fun c => { c with binding := some binding }

/-- A class that is found has the name it was sought by. -/
theorem name_of_find? {reg : Registry} {name : String} {c : EntityClass}
    (h : reg.find? name = some c) : c.name = name := by
  have hname := List.find?_some h
  simpa using hname

/-- A class that is found is in the registry. -/
theorem mem_of_find? {reg : Registry} {name : String} {c : EntityClass}
    (h : reg.find? name = some c) : c ∈ reg.classes := List.mem_of_find?_eq_some h

/-- A change that keeps names keeps their order. -/
theorem classNames_update {reg : Registry} {name : String} {change : EntityClass → EntityClass}
    (h : ∀ c, (change c).name = c.name) : (reg.update name change).classNames = reg.classNames := by
  simp only [update, classNames, List.map_map]
  refine List.map_congr_left fun c _ => ?_
  by_cases hc : c.name = name <;> simp [hc, h]

/-- A changed class is found changed, and the others as they were. -/
theorem find?_update {reg : Registry} {name : String} {change : EntityClass → EntityClass}
    (h : ∀ c, (change c).name = c.name) (other : String) :
    (reg.update name change).find? other =
      (reg.find? other).map fun c => if c.name = name then change c else c := by
  simp only [find?, update]
  rw [List.find?_map]
  congr 2
  funext c
  by_cases hc : c.name = name <;> simp [hc, h]

/-- A new class goes to the end of the names, and only a name that is new does. -/
theorem classNames_touch {reg touched : Registry} {name : String}
    (h : reg.touch name = .ok touched) :
    touched.classNames = if reg.contains name then reg.classNames else reg.classNames ++ [name] := by
  unfold touch at h
  split at h
  · simp at h
  · split at h
    · next hc =>
      cases h
      simp [hc]
    · next hc =>
      cases h
      simp [hc, classNames, EntityClass.new]

/-- The classes, one after the other. -/
def describe (reg : Registry) : String := String.join (reg.classes.map EntityClass.describe)

/-- A registry as a JSON value. -/
def toJson (reg : Registry) : Json :=
  .object [("namespace", .string reg.classNamespace),
    ("root", match reg.rootName with
      | some name => .string name
      | none => .null),
    ("classes", .array (reg.classes.map EntityClass.toJson))]

end Registry

end DocSchema
