import DocSchema.Json.Value

/-!
# Attribute kinds

The kind of an attribute is the kind of the scalar it was seen with. Arrays and objects have none:
they become relationships.
-/

namespace DocSchema

/-- The kind of an attribute. -/
inductive Kind where
  /-- Strings. -/
  | string
  /-- Numbers. -/
  | number
  /-- Truth values. -/
  | boolean
  /-- Only null has been seen. -/
  | any
deriving DecidableEq, Repr

namespace Kind

/-- The kind of a scalar value. -/
def of? : Json → Option Kind
  | .string _ => some string
  | .number _ => some number
  | .bool _ => some boolean
  | .null => some any
  | .array _ | .object _ => none

/-- The name of a kind. -/
def name : Kind → String
  | string => "string"
  | number => "number"
  | boolean => "boolean"
  | any => "any"

end Kind

/-- An attribute of a class. -/
structure Attribute where
  /-- The name, a key of the document. -/
  name : String
  /-- The kind of its values. -/
  kind : Kind
deriving DecidableEq, Repr

end DocSchema
