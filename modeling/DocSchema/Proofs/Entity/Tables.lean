import DocSchema.Proofs.Entity.Building
import DocSchema.Proofs.Lists
import DocSchema.Proofs.Numeric.Integers

/-!
# Tables of entities

A table keeps entities of different keys apart: what is put into it goes to the end
(`items_fill_indexed`). The key of an entity is that of the member which its object has under the
index field (`keyOf_of_entityOf`), and identifiers that are `Apart` have different keys
(`Apart.nodup_renderValue`).
-/

namespace DocSchema

/-- Identifiers that keep the entries of a table apart: different strings, or numbers whose nearest
binary64 numbers are different. -/
inductive Apart : List Json → Prop where
  /-- Different strings. -/
  | strings (names : List String) (h : names.Nodup) : Apart (names.map .string)
  /-- Numbers with different nearest binary64 numbers. -/
  | numbers (numbers : List Number) (h : (numbers.map Number.toBinary64).Nodup) :
    Apart (numbers.map .number)

namespace Slot

/-- An entity whose key is new goes to the end of a table. -/
theorem putEntry_of_notMem {field : String} {item : Entity} {items : List Entity}
    (h : item.keyOf field ∉ items.map (Entity.keyOf field)) :
    putEntry field item items = items ++ [item] := by
  induction items with
  | nil => rfl
  | cons e rest ih =>
    rw [List.map_cons, List.mem_cons, not_or] at h
    rw [putEntry, if_neg (Ne.symm h.1), ih h.2, List.cons_append]

/-- A table holds all entities that were added, behind those it held, if no two have one key. -/
theorem items_fill_indexed {s : Slot} {field : String} (hs : s.storage = .indexed field)
    {entities : List Entity} (h : ((s.items ++ entities).map (Entity.keyOf field)).Nodup) :
    (s.fill entities).items = s.items ++ entities := by
  induction entities generalizing s with
  | nil => exact (List.append_nil _).symm
  | cons item rest ih =>
    have hnew : item.keyOf field ∉ s.items.map (Entity.keyOf field) := by
      rw [List.map_append, List.nodup_append] at h
      exact fun hmem => h.2.2 _ hmem _ (by simp) rfl
    have hitems : (s.insert item).items = s.items ++ [item] :=
      (items_insert_indexed item hs).trans (putEntry_of_notMem hnew)
    have hrest := ih (s := s.insert item) ((storage_insert s item).trans hs)
      (by simpa [hitems] using h)
    show ((s.insert item).fill rest).items = _
    rw [hrest, hitems, List.append_assoc]
    rfl

end Slot

/-- A look-up in a table is for the entity with the key that a value gives. -/
theorem Entity.get_eq {e : Entity} {relationship field : String} {s : Slot}
    (hslot : e.slot relationship = .ok s) (hs : s.storage = .indexed field) (key : Json) :
    e.get relationship key =
      .ok (s.items.find? fun item => item.keyOf field == renderValue key) := by
  simp [get, hslot, hs, bind, Except.bind]

/-- Identifiers that are apart have different keys. -/
theorem Apart.nodup_renderValue {ids : List Json} (h : Apart ids) : (ids.map renderValue).Nodup := by
  cases h with
  | strings names h =>
    rw [List.map_map]
    exact h.map fun a b heq => heq
  | numbers numbers h =>
    rw [List.map_map]
    rw [List.Nodup, List.pairwise_map] at h ⊢
    exact h.imp fun hne heq => hne (renderNumber_eq_iff.1 heq)

/-- A table that is filled with entities whose keys are identifiers that are apart holds all of them
in order, and each identifier finds its entity. -/
theorem Entity.iter_and_get_of_fill {e : Entity} {r : Relationship} {field : String}
    {items : List Entity} {ids : List Json}
    (hslot : e.slot r.name = .ok ((Slot.ofRelationship r).fill items))
    (hstorage : r.storage = .indexed field)
    (hkeys : List.Forall₂ (fun id item => item.keyOf field = renderValue id) ids items)
    (hapart : Apart ids) :
    e.iter r.name = .ok items ∧
      List.Forall₂ (fun id item => e.get r.name id = .ok (some item)) ids items := by
  have hrendered : items.map (keyOf field) = ids.map renderValue := Chain.map_eq_of_forall₂ hkeys
  have hnodup : (items.map (keyOf field)).Nodup := hrendered ▸ hapart.nodup_renderValue
  have hheld : ((Slot.ofRelationship r).fill items).items = items :=
    Slot.items_fill_indexed (s := Slot.ofRelationship r) hstorage hnodup
  have hkept : ((Slot.ofRelationship r).fill items).storage = .indexed field :=
    (Slot.storage_fill _ items).trans hstorage
  constructor
  · rw [iter, hslot]
    exact congrArg Except.ok hheld
  · have hsame : List.Forall₂ (fun item id => item ∈ items ∧ item.keyOf field = renderValue id)
        items ids := (List.forall₂_and_left _ _).2 ⟨fun item hitem => hitem, hkeys.flip⟩
    refine (hsame.imp ?_).flip
    rintro item id ⟨hitem, hkey⟩
    show e.get r.name id = .ok (some item)
    rw [get_eq hslot hkept, hheld, ← hkey]
    exact congrArg Except.ok (find?_of_nodup_map hnodup hitem)

/-- Different integers up to `2 ^ 53` are apart. -/
theorem Apart.of_small {numbers : List Number} (h : numbers.Nodup)
    (hsmall : ∀ n ∈ numbers, ∃ value inRange, n = .integer value inRange ∧
      value.natAbs ≤ Numeric.twoTo 53) : Apart (numbers.map .number) := by
  refine .numbers numbers (h.map_on fun n hn m hm heq => ?_)
  obtain ⟨a, ha, rfl, hasmall⟩ := hsmall n hn
  obtain ⟨b, hb, rfl, hbsmall⟩ := hsmall m hm
  obtain rfl := Number.eq_of_toBinary64_eq hasmall hbsmall heq
  rfl

/-- Identifiers that are apart are scalars, and not null. -/
theorem Apart.isNull_eq_false {ids : List Json} (h : Apart ids) {id : Json} (hid : id ∈ ids) :
    id.isNull = false ∧ (Kind.of? id).isSome = true := by
  cases h with
  | strings names h =>
    obtain ⟨name, -, rfl⟩ := List.mem_map.1 hid
    exact ⟨rfl, rfl⟩
  | numbers numbers h =>
    obtain ⟨n, -, rfl⟩ := List.mem_map.1 hid
    exact ⟨rfl, rfl⟩

/-- An attribute of a class has the value of the member of its name. -/
theorem Shape.lookup_attributesFrom {s : Shape} {members : Members} {name : String}
    (h : name ∈ s.attributes.map Attribute.name) :
    (s.attributesFrom members).lookup name =
      some ((members.lookup name).filter fun v => !v.isNull) := by
  have hnames : s.attributesFrom members = (s.attributes.map Attribute.name).map fun n =>
      (n, (members.lookup n).filter fun v => !v.isNull) := by
    rw [attributesFrom, List.map_map]
    rfl
  rw [hnames, lookup_map_of_mem _ h]

namespace Materialize

open Inference

variable {reg : Registry}

/-- The key of an entity is that of the member which its object has under the index field, if its
class has an attribute of that name. -/
theorem keyOf_of_entityOf (hreg : reg.Ready) {name field : String} {here : Pointer}
    {members : Members} {c : EntityClass} (hc : reg.find? name = some c)
    (hfield : field ∈ c.shape.attributes.map Attribute.name) {e : Entity}
    (he : entityOf reg ⟨name, here, .object members⟩ = .ok e) :
    e.keyOf field = indexKey ((members.lookup field).filter fun v => !v.isNull) := by
  obtain ⟨slots, -, rfl⟩ := (build_eq_ok_iff hreg hc).1 he
  show indexKey ((c.shape.attributesFrom members).lookup field).join = _
  rw [Shape.lookup_attributesFrom hfield]
  rfl

/-- The slot of a relationship is found by its name. -/
theorem exists_slot_of_filled {here : Pointer} {members : Members}
    {relationships : List Relationship} {slots : List Slot}
    (hslots : List.Forall₂ (Filled reg here members) relationships slots)
    (hnodup : (relationships.map Relationship.name).Nodup) {r : Relationship}
    (hr : r ∈ relationships) :
    ∃ s, Filled reg here members r s ∧ slots.find? (·.name == r.name) = some s := by
  induction hslots with
  | nil => simp at hr
  | @cons q s rest slots hfilled _ ih =>
    rw [List.map_cons, List.nodup_cons] at hnodup
    have hname : s.name = q.name := by
      obtain ⟨entities, -, rfl⟩ := hfilled
      exact Slot.name_fill _ entities
    rcases List.mem_cons.1 hr with rfl | hr
    · exact ⟨s, hfilled, List.find?_cons_of_pos (by simpa using hname)⟩
    · have hne : s.name ≠ r.name :=
        fun h => hnodup.1 (List.mem_map.2 ⟨r, hr, h.symm.trans hname⟩)
      rw [List.find?_cons_of_neg (by simpa using hne)]
      exact ih hnodup.2 hr

/-- The slot of a relationship of an entity is filled with the entities that its object has for the
relationship. -/
theorem exists_slot_of_entityOf (hreg : reg.Ready) {name : String} {here : Pointer}
    {members : Members} {c : EntityClass} (hc : reg.find? name = some c) {r : Relationship}
    (hr : r ∈ c.shape.relationships) {e : Entity}
    (he : entityOf reg ⟨name, here, .object members⟩ = .ok e) :
    ∃ entities,
      List.Forall₂ (fun v d => entityOf reg v = .ok d) (elements r here members) entities ∧
        e.slot r.name = .ok ((Slot.ofRelationship r).fill entities) := by
  obtain ⟨slots, hslots, rfl⟩ := (build_eq_ok_iff hreg hc).1 he
  have hdistinct := (hreg.wellFormed.shapes c (Registry.mem_of_find? hc)).distinct
  obtain ⟨s, ⟨entities, hentities, rfl⟩, hfind⟩ :=
    exists_slot_of_filled hslots hdistinct.of_append_right hr
  refine ⟨entities, hentities, ?_⟩
  have hslot : (Entity.mk name (c.shape.attributesFrom members) slots).slot? r.name =
      some ((Slot.ofRelationship r).fill entities) := hfind
  rw [Entity.slot, hslot]

end Materialize

end DocSchema
