import DocSchema.Proofs.Chain
import DocSchema.Proofs.Entity.Loading
import DocSchema.Entity.Materialize
import Mathlib.Data.List.Perm.Subperm

/-!
# Filling entities

A new entity of a bound class has the attributes of the class, each with the value that the
parameters give (`construct_eq`), and an empty slot for each relationship. Adding entities to a slot
one after the other leaves the others as they are (`add_append`), and a slot holds in the end what
`items_fill_single`, `items_fill_sequence` and `subperm_items_fill` say: the entity that was added,
all of them in order, or some of them.
-/

namespace DocSchema

namespace Slot

/-- One more entity keeps the name of a slot. -/
@[simp]
theorem name_insert (s : Slot) (item : Entity) : (s.insert item).name = s.name := by
  unfold insert
  split <;> exact name_withItems s _

/-- One more entity keeps the class that a slot leads to. -/
@[simp]
theorem target_insert (s : Slot) (item : Entity) : (s.insert item).target = s.target := by
  unfold insert
  split <;> exact target_withItems s _

/-- One more entity keeps the storage of a slot. -/
@[simp]
theorem storage_insert (s : Slot) (item : Entity) : (s.insert item).storage = s.storage := by
  unfold insert
  split <;> exact storage_withItems s _

section Insert

variable {s : Slot} (item : Entity)

/-- A single slot holds the entity that is added. -/
theorem items_insert_single (hs : s.storage = .single) : (s.insert item).items = [item] := by
  rw [insert, hs]
  exact items_withItems s _

/-- A sequence holds the entity that is added behind those it held. -/
theorem items_insert_sequence (hs : s.storage = .sequence) :
    (s.insert item).items = s.items ++ [item] := by
  rw [insert, hs]
  exact items_withItems s _

/-- A table holds the entity that is added under its key. -/
theorem items_insert_indexed {field : String} (hs : s.storage = .indexed field) :
    (s.insert item).items = putEntry field item s.items := by
  rw [insert, hs]
  exact items_withItems s _

end Insert

/-- The slot of a relationship with entities added in order. -/
def fill (s : Slot) (entities : List Entity) : Slot := entities.foldl insert s

/-- Filling a slot keeps its name. -/
@[simp]
theorem name_fill (s : Slot) (entities : List Entity) : (s.fill entities).name = s.name := by
  induction entities generalizing s with
  | nil => rfl
  | cons item rest ih => exact (ih (s.insert item)).trans (name_insert s item)

/-- Filling a slot keeps its storage. -/
@[simp]
theorem storage_fill (s : Slot) (entities : List Entity) :
    (s.fill entities).storage = s.storage := by
  induction entities generalizing s with
  | nil => rfl
  | cons item rest ih => exact (ih (s.insert item)).trans (storage_insert s item)

/-- A single slot holds the entity that was added. -/
theorem items_fill_single {s : Slot} (hs : s.storage = .single) (item : Entity) :
    (s.fill [item]).items = [item] := items_insert_single item hs

/-- A sequence holds the entities that were added, behind those it held. -/
theorem items_fill_sequence {s : Slot} (hs : s.storage = .sequence) (entities : List Entity) :
    (s.fill entities).items = s.items ++ entities := by
  induction entities generalizing s with
  | nil => exact (List.append_nil _).symm
  | cons item rest ih =>
    show ((s.insert item).fill rest).items = _
    rw [ih ((storage_insert s item).trans hs), items_insert_sequence item hs, List.append_assoc]
    rfl

/-- An entity that is put into a table goes to the end or replaces another one. -/
theorem subperm_putEntry (field : String) (item : Entity) (items : List Entity) :
    (putEntry field item items).Subperm (item :: items) := by
  induction items with
  | nil => exact List.Subperm.refl _
  | cons e rest ih =>
    rw [putEntry]
    split
    · exact ((List.sublist_cons_self e rest).cons_cons item).subperm
    · exact ((List.subperm_cons e).2 ih).trans (List.Perm.swap item e rest).subperm

/-- A table holds some of the entities that were added and of those it held. -/
theorem subperm_items_fill {s : Slot} {field : String} (hs : s.storage = .indexed field)
    (entities : List Entity) : (s.fill entities).items.Subperm (entities ++ s.items) := by
  induction entities generalizing s with
  | nil => exact List.Subperm.refl _
  | cons item rest ih =>
    have hrest := ih ((storage_insert s item).trans hs)
    rw [items_insert_indexed item hs] at hrest
    -- The first entity may replace one that the table held, and be replaced by one of the rest.
    have hput : (rest ++ putEntry field item s.items).Subperm (rest ++ item :: s.items) :=
      (List.subperm_append_left rest).2 (subperm_putEntry field item s.items)
    exact (hrest.trans hput).trans List.perm_middle.subperm

end Slot

namespace Entity

/-- The slot of a name that no slot before it has is found. -/
theorem slot?_append {className : String} {attributes : List (String × Option Json)}
    {front back : List Slot} {s : Slot} (hfront : ∀ t ∈ front, t.name ≠ s.name) :
    (mk className attributes (front ++ s :: back)).slot? s.name = some s := by
  have hnone : front.find? (fun t => t.name == s.name) = none := by
    rw [List.find?_eq_none]
    intro t ht
    simpa using hfront t ht
  show (front ++ s :: back).find? (fun t => t.name == s.name) = some s
  simp [List.find?_append, hnone]

/-- The slot of a name that no slot before it has is replaced. -/
theorem withSlot_append {className : String} {attributes : List (String × Option Json)}
    {front back : List Slot} {s t : Slot} (hfront : ∀ t ∈ front, t.name ≠ s.name) :
    (mk className attributes (front ++ s :: back)).withSlot s.name t =
      mk className attributes (front ++ t :: back) := by
  have hreplace : replaceSlot s.name t (front ++ s :: back) = front ++ t :: back := by
    induction front with
    | nil => exact if_pos rfl
    | cons u rest ih =>
      rw [List.cons_append, replaceSlot, if_neg (hfront u (by simp)),
        ih fun t ht => hfront t (by simp [ht])]
      rfl
  rw [withSlot, hreplace]

/-- An entity of the class that a slot leads to is added to it, and the others stay. -/
theorem add_append {className : String} {attributes : List (String × Option Json)}
    {front back : List Slot} {s : Slot} {item : Entity} (hfront : ∀ t ∈ front, t.name ≠ s.name)
    (hitem : item.className = s.target) :
    (mk className attributes (front ++ s :: back)).add s.name item =
      .ok (mk className attributes (front ++ s.insert item :: back)) := by
  have hslot : (mk className attributes (front ++ s :: back)).slot s.name = .ok s := by
    rw [slot, slot?_append hfront]
  rw [add, hslot]
  refine (if_pos hitem).trans ?_
  rw [withSlot_append hfront]

/-- Adding an entity keeps the class of an entity. -/
theorem className_of_add {e added : Entity} {name : String} {item : Entity}
    (h : e.add name item = .ok added) : added.className = e.className := by
  obtain ⟨s, -, hadd⟩ := Chain.bind_eq_ok_iff.1 h
  split at hadd
  · obtain rfl := Except.ok.inj hadd
    cases e
    rfl
  · simp at hadd

end Entity

/-- The attributes of a class with the values that parameters give; null makes one absent. -/
def Shape.attributesFrom (s : Shape) (members : Members) : List (String × Option Json) :=
  s.attributes.map fun a => (a.name, (members.lookup a.name).filter fun v => !v.isNull)

/-- An attribute is present with the member of its name, if that is not null. -/
theorem Shape.mem_attributesFrom_iff {s : Shape} {members : Members} {name : String}
    {value : Json} :
    (name, some value) ∈ s.attributesFrom members ↔
      name ∈ s.attributes.map Attribute.name ∧ members.lookup name = some value ∧
        value.isNull = false := by
  rw [attributesFrom, List.mem_map, List.mem_map]
  constructor
  · rintro ⟨a, ha, heq⟩
    obtain ⟨rfl, hvalue⟩ := Prod.mk.inj heq
    obtain ⟨hlookup, hnull⟩ := Option.filter_eq_some_iff.1 hvalue
    exact ⟨⟨a, ha, rfl⟩, hlookup, by simpa using hnull⟩
  · rintro ⟨⟨a, ha, rfl⟩, hlookup, hnull⟩
    refine ⟨a, ha, ?_⟩
    rw [hlookup]
    simp [Option.filter, hnull]

/-- An attribute is absent only if the member of its name is missing or null. -/
theorem Shape.isNull_of_mem_attributesFrom {s : Shape} {members : Members} {name : String}
    {value : Json} (h : (name, none) ∈ s.attributesFrom members)
    (hvalue : members.lookup name = some value) : value.isNull = true := by
  obtain ⟨a, -, heq⟩ := List.mem_map.1 h
  obtain ⟨rfl, hnone⟩ := Prod.mk.inj heq
  rw [hvalue] at hnone
  cases hnull : value.isNull with
  | true => rfl
  | false => simp [Option.filter, hnull] at hnone

namespace Entity

/-- An attribute that none before it shares its name with is given a value. -/
theorem replaceValue_append {name : String} (old value : Option Json)
    {front : List (String × Option Json)} (back : List (String × Option Json))
    (hfront : name ∉ front.map Prod.fst) :
    replaceValue name value (front ++ (name, old) :: back) = front ++ (name, value) :: back := by
  induction front with
  | nil => exact if_pos rfl
  | cons p rest ih =>
    obtain ⟨other, held⟩ := p
    rw [List.map_cons, List.mem_cons, not_or] at hfront
    rw [List.cons_append, replaceValue, if_neg (Ne.symm hfront.1), ih hfront.2]
    rfl

/-- Setting an attribute that none before it shares its name with gives it the value, and the others
stay. Null makes it absent. -/
theorem setAttribute_append {className name : String} {slots : List Slot} (old value : Option Json)
    {front : List (String × Option Json)} (back : List (String × Option Json))
    (hfront : name ∉ front.map Prod.fst) :
    (mk className (front ++ (name, old) :: back) slots).setAttribute name value =
      .ok (mk className (front ++ (name, value.filter fun v => !v.isNull) :: back) slots) := by
  have hnone : front.lookup name = none := by
    rw [List.lookup_eq_none_iff]
    intro p hp
    rw [bne_iff_ne]
    rintro rfl
    exact hfront (List.mem_map.2 ⟨p, hp, rfl⟩)
  have hlookup : (front ++ (name, old) :: back).lookup name = some old := by
    simp [List.lookup_append, hnone]
  rw [setAttribute, hlookup, replaceValue_append old _ back hfront]
  rfl

end Entity

namespace Binding

/-- Setting attributes in order gives each of them its value. -/
theorem setAll_append {className : String} {slots : List Slot}
    (front : List (String × Option Json)) {attributes : List Attribute}
    (value : String → Option Json) (hnodup : (attributes.map Attribute.name).Nodup)
    (hfront : ∀ a ∈ attributes, a.name ∉ front.map Prod.fst) :
    setAll (.mk className (front ++ (attributes.map Attribute.name).map (·, none)) slots)
        (attributes.map fun a => (a.name, value a.name)) =
      .ok (.mk className (front ++ attributes.map fun a =>
        (a.name, (value a.name).filter fun v => !v.isNull)) slots) := by
  induction attributes generalizing front with
  | nil => rfl
  | cons a rest ih =>
    rw [List.map_cons, List.nodup_cons] at hnodup
    have hset : (Entity.mk className
        (front ++ (a.name, none) :: (rest.map Attribute.name).map (·, none)) slots).setAttribute
          a.name (value a.name) = _ :=
      Entity.setAttribute_append none (value a.name) _ (hfront a (by simp))
    generalize hv : (value a.name).filter (fun v => !v.isNull) = v at hset
    -- The attributes up to this one are set, and the names of the others are still free.
    have hrest : ∀ b ∈ rest, b.name ∉ (front ++ [(a.name, v)]).map Prod.fst := by
      intro b hb hmem
      rw [List.map_append, List.mem_append] at hmem
      rcases hmem with hold | hlast
      · exact hfront b (by simp [hb]) hold
      · rw [List.map_singleton, List.mem_singleton] at hlast
        exact hnodup.1 (List.mem_map.2 ⟨b, hb, hlast⟩)
    calc setAll (.mk className
          (front ++ (a.name, none) :: (rest.map Attribute.name).map (·, none)) slots)
          ((a.name, value a.name) :: rest.map fun a => (a.name, value a.name))
      _ = setAll (.mk className (front ++ (a.name, v) :: (rest.map Attribute.name).map (·, none))
            slots) (rest.map fun a => (a.name, value a.name)) := by
        rw [setAll, hset]
        rfl
      _ = .ok (.mk className ((front ++ [(a.name, v)]) ++ rest.map fun a =>
            (a.name, (value a.name).filter fun v => !v.isNull)) slots) := by
        rw [List.append_cons, ih _ hnodup.2 hrest]
      _ = .ok (.mk className (front ++ (a :: rest).map fun a =>
            (a.name, (value a.name).filter fun v => !v.isNull)) slots) := by
        rw [List.append_assoc, List.map_cons, hv]
        rfl

/-- A new entity of a bound class has an attribute for each of the class, with the value that the
members give, and an empty slot for each relationship. -/
theorem construct_eq {c : EntityClass} {b : Binding} (hb : c.Bound b)
    (hnodup : (c.shape.attributes.map Attribute.name).Nodup) (members : Members) :
    b.construct (Materialize.parametersOf c members) =
      .ok (.mk c.name (c.shape.attributesFrom members)
        (c.shape.relationships.map Slot.ofRelationship)) := by
  rw [construct, hb.className_eq, hb.parameters_eq, hb.relationships_eq]
  exact setAll_append [] (fun name => members.lookup name) hnodup (by simp)

end Binding

end DocSchema
