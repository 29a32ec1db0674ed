import DocSchema.Json.Pointer
import DocSchema.Proofs.Lists

/-!
# The parts of a value

`Json.part?` follows the steps of a pointer: a key leads into an object and a position into an
array, never the other way round. A value is distinct exactly if its own keys are and its parts are
(`distinct_array_iff`, `distinct_object_iff`), and then every member is the one that its key leads
to (`Members.lookup_eq_some_of_mem`).
-/

namespace DocSchema

namespace Members

/-- Where no key comes twice, every member is the one that its key leads to. -/
theorem lookup_eq_some_of_mem {members : Members} {key : String} {value : Json}
    (hkeys : (members.map Prod.fst).Nodup) (h : (key, value) ∈ members) :
    members.lookup key = some value := by
  induction members with
  | nil => simp at h
  | cons m rest ih =>
    obtain ⟨k, v⟩ := m
    rw [List.map_cons, List.nodup_cons] at hkeys
    rcases List.mem_cons.1 h with heq | hrest
    · obtain ⟨rfl, rfl⟩ := Prod.mk.inj heq
      exact List.lookup_cons_self
    · have hk : key ≠ k := by
        rintro rfl
        exact hkeys.1 (List.mem_map.2 ⟨_, hrest, rfl⟩)
      rw [List.lookup_cons, beq_false_of_ne hk]
      exact ih hkeys.2 hrest

/-- Where no key comes twice, members of one key are the same. -/
theorem eq_of_mem {members : Members} {key : String} {value value' : Json}
    (hkeys : (members.map Prod.fst).Nodup) (h : (key, value) ∈ members)
    (h' : (key, value') ∈ members) : value = value' := by
  have hlookup := lookup_eq_some_of_mem hkeys h
  rw [lookup_eq_some_of_mem hkeys h'] at hlookup
  exact (Option.some.inj hlookup).symm

/-- Putting a member brings no key in twice. -/
theorem nodup_keys_put {members : Members} (hkeys : (members.map Prod.fst).Nodup) (key : String)
    (value : Json) : ((put key value members).map Prod.fst).Nodup := by
  rw [keys_put]
  split
  · exact hkeys
  · next hnew => exact List.nodup_append.2 ⟨hkeys, by simp, by grind⟩

end Members

namespace Json

/-- The part of a value that the steps of a pointer lead to. -/
def part? : List Pointer.Step → Json → Option Json
  | [], a => some a
  | .key name :: rest, .object members => (members.lookup name).bind (part? rest)
  | .index position :: rest, .array items => items[position]?.bind (part? rest)
  | _, _ => none

/-- A longer pointer goes on where the shorter one leads. -/
theorem part?_append (front back : List Pointer.Step) (a : Json) :
    part? (front ++ back) a = (part? front a).bind (part? back) := by
  induction front generalizing a with
  | nil => rfl
  | cons s rest ih =>
    cases s with
    | key name =>
      cases a with
      | object members =>
        simp only [List.cons_append, part?, Option.bind_assoc]
        exact Option.bind_congr fun b _ => ih b
      | _ => rfl
    | index position =>
      cases a with
      | array items =>
        simp only [List.cons_append, part?, Option.bind_assoc]
        exact Option.bind_congr fun b _ => ih b
      | _ => rfl

/-- A value counts as null only if it is null. -/
theorem isNull_eq_false_iff {a : Json} : a.isNull = false ↔ a ≠ .null := by
  cases a <;> simp [isNull]

/-- The items of an array are distinct if and only if each of them is. -/
theorem distinctItems_iff {items : List Json} : DistinctItems items ↔ ∀ a ∈ items, a.Distinct := by
  induction items with
  | nil => simp [DistinctItems]
  | cons a rest ih => simp [DistinctItems, ih]

/-- The values of the members are distinct if and only if each of them is. -/
theorem distinctMembers_iff {members : Members} :
    DistinctMembers members ↔ ∀ m ∈ members, m.2.Distinct := by
  induction members with
  | nil => simp [DistinctMembers]
  | cons m rest ih => simp [DistinctMembers, ih]

/-- An array is distinct if and only if its items are. -/
theorem distinct_array_iff {items : List Json} :
    (array items).Distinct ↔ ∀ a ∈ items, a.Distinct := by
  rw [Distinct, distinctItems_iff]

/-- An object is distinct if and only if its keys and the values of its members are. -/
theorem distinct_object_iff {members : Members} :
    (object members).Distinct ↔
      (members.map Prod.fst).Nodup ∧ ∀ m ∈ members, m.2.Distinct := by
  rw [Distinct, distinctMembers_iff]

/-- What holds of an array and of an object if it holds of their parts, and of all scalars, holds of
every value. -/
@[elab_as_elim]
theorem parts_induction {P : Json → Prop} (array : ∀ items, (∀ a ∈ items, P a) → P (.array items))
    (object : ∀ members : Members, (∀ m ∈ members, P m.2) → P (.object members))
    (scalar : ∀ a, (∀ items, a ≠ .array items) → (∀ members, a ≠ .object members) → P a) :
    ∀ a, P a
  | .array items => array items fun a _ => parts_induction array object scalar a
  | .object members => object members fun m _ => parts_induction array object scalar m.2
  | .null | .bool _ | .number _ | .string _ => scalar _ (by simp) (by simp)
termination_by a => sizeOf a
decreasing_by
  · have := List.sizeOf_lt_of_mem (by assumption : a ∈ items)
    simp only [Json.array.sizeOf_spec]
    omega
  · have := List.sizeOf_lt_of_mem (by assumption : m ∈ members)
    obtain ⟨key, value⟩ := m
    simp only [Prod.mk.sizeOf_spec] at this
    simp only [Json.object.sizeOf_spec]
    omega

end Json

end DocSchema
