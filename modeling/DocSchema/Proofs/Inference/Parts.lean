import DocSchema.Proofs.Json.Part
import DocSchema.Schema.Inference

/-!
# What a member stands for

A member of an object stands for a relationship of the class of the object, or for an attribute,
and it has parts that are visited in their turn (`parts`): the items of an array, the entries of a
table, or the object itself. Every relationship that a member stands for is `Relationship.Inferred`:
its names follow from its key. `visit_induction` is the induction on a fragment along its parts.
-/

namespace DocSchema

/-- The names of a relationship of a class follow from the key that it was seen under. -/
structure Relationship.Inferred (owner : String) (r : Relationship) : Prop where
  /-- It starts from the class. -/
  owner_eq : r.owner = owner
  /-- It is named after the class that it leads to. -/
  target_eq : r.target = r.name
  /-- A single object is named by its key, which does not begin like a table. -/
  of_single : r.storage = .single →
    r.jsonKey = r.name ∧ Text.startsWith tableStart r.jsonKey = false
  /-- A sequence is named by the class that its key speaks of. -/
  of_sequence : r.storage = .sequence → r.name = relatedClassName listStart r.jsonKey
  /-- A table is named by the class that its key speaks of, and the key begins like a table. -/
  of_indexed : ∀ field, r.storage = .indexed field →
    Text.startsWith tableStart r.jsonKey = true ∧ r.name = relatedClassName tableStart r.jsonKey

namespace Inference

/-- A fragment that is visited under a class name. -/
structure Visit where
  /-- The name of the class. -/
  name : String
  /-- The place of the fragment. -/
  place : Pointer
  /-- The fragment. -/
  fragment : Json

/-- The relationship that a member stands for. A scalar member stands for an attribute. -/
def relationshipOf (owner key : String) : Json → Option Relationship
  | .array _ => some (listRelationship owner key)
  | .object entries =>
    if Text.startsWith tableStart key then some (tableRelationship owner key entries)
    else some (nestedRelationship owner key)
  | _ => none

/-- The parts of a member of the object at a place, in order. -/
def parts (here : Pointer) (key : String) : Json → List Visit
  | .array items =>
    items.zipIdx.map fun (item, position) =>
      ⟨relatedClassName listStart key, (here.key key).index position, item⟩
  | .object entries =>
    if Text.startsWith tableStart key then
      entries.map fun (entry, value) =>
        ⟨relatedClassName tableStart key, (here.key key).key entry, value⟩
    else [⟨key, here.key key, .object entries⟩]
  | _ => []

/-- A member stands for a relationship whose names follow from its key. -/
theorem inferred_of_relationshipOf {owner key : String} {value : Json} {r : Relationship}
    (h : relationshipOf owner key value = some r) : r.Inferred owner := by
  cases value with
  | array items =>
    obtain rfl := Option.some.inj h
    exact ⟨rfl, rfl, nofun, fun _ => rfl, nofun⟩
  | object entries =>
    rw [relationshipOf] at h
    split at h
    · next hkey =>
      obtain rfl := Option.some.inj h
      exact ⟨rfl, rfl, nofun, nofun, fun _ _ => ⟨hkey, rfl⟩⟩
    · next hkey =>
      obtain rfl := Option.some.inj h
      exact ⟨rfl, rfl, fun _ => ⟨rfl, Bool.eq_false_iff.2 hkey⟩, nofun, nofun⟩
  | _ => simp [relationshipOf] at h

/-- A member stands for a relationship that was seen under its key. -/
theorem jsonKey_of_relationshipOf {owner key : String} {value : Json} {r : Relationship}
    (h : relationshipOf owner key value = some r) : r.jsonKey = key := by
  cases value with
  | array items => exact Option.some.inj h ▸ rfl
  | object entries =>
    rw [relationshipOf] at h
    split at h <;> exact Option.some.inj h ▸ rfl
  | _ => simp [relationshipOf] at h

/-- The parts of a distinct member are distinct. -/
theorem distinct_of_mem_parts {here : Pointer} {key : String} {value : Json} {v : Visit}
    (hvalue : value.Distinct) (hv : v ∈ parts here key value) : v.fragment.Distinct := by
  cases value with
  | array items =>
    obtain ⟨⟨item, position⟩, hitem, rfl⟩ := List.mem_map.1 hv
    exact Json.distinct_array_iff.1 hvalue item (List.fst_mem_of_mem_zipIdx hitem)
  | object entries =>
    rw [parts] at hv
    split at hv
    · obtain ⟨⟨entry, inner⟩, hentry, rfl⟩ := List.mem_map.1 hv
      exact (Json.distinct_object_iff.1 hvalue).2 _ hentry
    · obtain rfl := List.mem_singleton.1 hv
      exact hvalue
  | _ => simp [parts] at hv

/-- A part of a member is smaller than the object. -/
theorem sizeOf_part_lt {here : Pointer} {members : Members} {key : String} {value : Json}
    {v : Visit} (hm : (key, value) ∈ members) (hv : v ∈ parts here key value) :
    sizeOf v.fragment < sizeOf (Json.object members) := by
  have hvalue : sizeOf value < sizeOf members := by
    have := List.sizeOf_lt_of_mem hm
    simp only [Prod.mk.sizeOf_spec] at this
    omega
  have hpart : sizeOf v.fragment ≤ sizeOf value := by
    cases value with
    | array items =>
      obtain ⟨⟨item, position⟩, hitem, rfl⟩ := List.mem_map.1 hv
      have : sizeOf item < sizeOf items :=
        List.sizeOf_lt_of_mem (List.fst_mem_of_mem_zipIdx hitem)
      simp only [Json.array.sizeOf_spec]
      omega
    | object entries =>
      rw [parts] at hv
      split at hv
      · obtain ⟨⟨entry, inner⟩, hentry, rfl⟩ := List.mem_map.1 hv
        have := List.sizeOf_lt_of_mem hentry
        simp only [Prod.mk.sizeOf_spec] at this
        simp only [Json.object.sizeOf_spec]
        omega
      · obtain rfl := List.mem_singleton.1 hv
        exact Nat.le_refl _
    | _ => simp [parts] at hv
  simp only [Json.object.sizeOf_spec]
  omega

/-- What holds of every fragment that is no object, and of an object if it holds of the parts of
its members, holds of every fragment under every name and at every place. -/
theorem visit_induction {P : Visit → Prop}
    (other : ∀ v : Visit, (∀ members, v.fragment ≠ .object members) → P v)
    (object : ∀ name here members,
      (∀ key value, (key, value) ∈ members → ∀ v ∈ parts here key value, P v) →
        P ⟨name, here, .object members⟩) (v : Visit) : P v := by
  obtain ⟨name, here, fragment⟩ := v
  cases fragment with
  | object members =>
    exact object name here members fun key value hm v hv => visit_induction other object v
  | _ => exact other _ fun members h => by simp at h
termination_by sizeOf v.fragment
decreasing_by exact sizeOf_part_lt hm hv

end Inference

end DocSchema
