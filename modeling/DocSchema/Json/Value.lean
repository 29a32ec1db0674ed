import DocSchema.Numeric.Binary64

/-!
# JSON values

A JSON value, with the members of an object in the order of its text. `Json.same` is equality of
values: the order of members does not matter, and two numbers are equal only if both are integers
or both are not. `Distinct` says that no object has one key twice, which holds of every value that
is read from a text.
-/

namespace DocSchema

open Numeric

/-- The integer fits 64 bits, with a sign or without. -/
def Number.InRange (value : Int) : Prop :=
  -0x8000000000000000 ≤ value ∧ value < 0x10000000000000000

instance (value : Int) : Decidable (Number.InRange value) :=
  inferInstanceAs (Decidable (_ ∧ _))

/-- A JSON number: an integer of 64 bits, or a binary64 number. -/
inductive Number where
  /-- An integer that fits 64 bits, with a sign or without. -/
  | integer (value : Int) (inRange : Number.InRange value)
  /-- Any other number, also one with a fraction of zero. -/
  | real (value : Binary64)
deriving DecidableEq, Repr

namespace Number

/-- Equality of numbers of one sort; an integer differs from every binary64 number. -/
def same : Number → Number → Bool
  | integer a _, integer b _ => a == b
  | real a, real b => a.sameValue b
  | _, _ => false

/-- The binary64 number nearest to a number. -/
def toBinary64 : Number → Binary64
  | integer value _ => ⟨value < 0, (Magnitude.ofNat value.natAbs).getD .zero⟩
  | real value => value

end Number

/-- A JSON value. -/
inductive Json where
  | null
  | bool (value : Bool)
  | number (value : Number)
  | string (value : String)
  | array (items : List Json)
  | object (members : List (String × Json))
deriving Repr

/-- The members of an object, in order. -/
abbrev Members := List (String × Json)

/-- Puts a member: a new key goes to the end, a known one keeps its place. -/
def Members.put (key : String) (value : Json) : Members → Members
  | [] => [(key, value)]
  | (k, v) :: rest => if k = key then (k, value) :: rest else (k, v) :: Members.put key value rest

namespace Members

/-- A member that was put is found with its value, and the others as they were. -/
theorem lookup_put (key : String) (value : Json) (members : Members) (other : String) :
    (put key value members).lookup other =
      if other = key then some value else members.lookup other := by
  induction members with
  | nil => grind [put]
  | cons m rest ih => grind [put]

/-- A new key goes to the end of the keys, and only a key that is new does. -/
theorem keys_put (key : String) (value : Json) (members : Members) :
    (put key value members).map Prod.fst =
      if key ∈ members.map Prod.fst then members.map Prod.fst
      else members.map Prod.fst ++ [key] := by
  induction members with
  | nil => simp [put]
  | cons m rest ih =>
    obtain ⟨k, v⟩ := m
    by_cases hk : k = key
    · simp [put, hk]
    · have hk' : key ≠ k := Ne.symm hk
      simp only [put, hk, if_false, List.map_cons, ih, List.mem_cons, hk', false_or]
      split <;> simp

end Members

namespace Json

mutual

/-- Equality of JSON values, the order of members aside. -/
def same : Json → Json → Bool
  | null, null => true
  | bool a, bool b => a == b
  | number a, number b => a.same b
  | string a, string b => a == b
  | array a, array b => sameItems a b
  | object a, object b => a.length == b.length && sameMembers a b
  | _, _ => false
termination_by structural a => a

/-- Equality of arrays, item by item. -/
def sameItems : List Json → List Json → Bool
  | [], [] => true
  | a :: as, b :: bs => same a b && sameItems as bs
  | _, _ => false
termination_by structural as => as

/-- Every member of the first object has an equal one in the second. -/
def sameMembers : Members → Members → Bool
  | [], _ => true
  | (key, a) :: rest, other =>
    (match other.lookup key with
      | some b => same a b
      | none => false) && sameMembers rest other
termination_by structural as => as

end

mutual

/-- No object in the value has one key twice. -/
def Distinct : Json → Prop
  | array items => DistinctItems items
  | object members => (members.map Prod.fst).Nodup ∧ DistinctMembers members
  | _ => True
termination_by structural a => a

/-- No object in the items has one key twice. -/
def DistinctItems : List Json → Prop
  | [] => True
  | a :: rest => Distinct a ∧ DistinctItems rest
termination_by structural as => as

/-- No object in the values of the members has one key twice. -/
def DistinctMembers : Members → Prop
  | [] => True
  | (_, a) :: rest => Distinct a ∧ DistinctMembers rest
termination_by structural as => as

end

/-- The value is null. -/
def isNull : Json → Bool
  | null => true
  | _ => false

/-- The kind of a value, with its article. -/
def kindName : Json → String
  | null => "null"
  | bool _ => "a boolean"
  | number _ => "a number"
  | string _ => "a string"
  | array _ => "an array"
  | object _ => "an object"

end Json

end DocSchema
