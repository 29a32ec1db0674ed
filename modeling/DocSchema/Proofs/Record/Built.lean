import DocSchema.Proofs.Record.Mirror
import DocSchema.Proofs.Session.Registries

/-!
# Entities and struct values built side by side

`Built` builds an entity and a value of the generated struct of its class in the same way: by the
binding of a class and the constructor of its module, with arguments of the declared kinds, and by
adding such objects to a relationship. Whatever is built so, the entity is regular and the struct
value is its record (`regular_of_built`).
-/

namespace DocSchema

open Source

/-- The value that parameters give for a name in the end; null gives none. -/
def Parameters.given (parameters : Parameters) (name : String) : Option Json :=
  ((parameters.reverse.lookup name).join).filter fun v => !v.isNull

/-- The parameters have the kinds that a shape declares; null counts as absent. -/
def Shape.Admits (s : Shape) (parameters : Parameters) : Prop :=
  ∀ name value, (name, some value) ∈ parameters → value.isNull = false →
    ∃ kind, s.kind? name = some kind ∧ kind.Admits value

/-- The arguments of a generated constructor that parameters give. -/
def Shape.arguments (s : Shape) (parameters : Parameters) : List (Option Content) :=
  s.attributes.map fun a => (parameters.given a.name).map (Content.ofJson a.kind)

/-- An entity and a value of the generated struct of its class, built in the same way. -/
inductive Built (reg : Registry) : Entity → Record → Prop where
  /-- Both are constructed from parameters of the declared kinds. -/
  | construct {c : EntityClass} {b : Binding} {parameters : Parameters} {e : Entity}
    (hc : c ∈ reg.classes) (hb : c.binding = some b) (hstruct : (Module.ofClass reg c).IsStruct)
    (hkinds : c.shape.Admits parameters) (he : b.construct parameters = .ok e) :
    Built reg e ((Module.ofClass reg c).create (c.shape.arguments parameters))
  /-- An object is added to a relationship of both. -/
  | add {e d added : Entity} {x y : Record} {c : EntityClass} {r : Relationship}
    (he : Built reg e x) (hd : Built reg d y) (hc : reg.find? e.className = some c)
    (hr : r ∈ c.shape.relationships) (hadd : e.add r.name d = .ok added) :
    Built reg added ((r.accessors reg).add x y)

namespace Entity

/-- Replacing a value changes the attribute of the name and no other. -/
theorem replaceValue_eq_map {name : String} {value : Option Json}
    {attributes : List (String × Option Json)} (hnodup : (attributes.map Prod.fst).Nodup) :
    replaceValue name value attributes =
      attributes.map fun p => (p.1, if p.1 = name then value else p.2) := by
  induction attributes with
  | nil => rfl
  | cons p rest ih =>
    obtain ⟨n, v⟩ := p
    rw [List.map_cons, List.nodup_cons] at hnodup
    rw [replaceValue, List.map_cons]
    by_cases hn : n = name
    · have hrest : rest.map (fun p => (p.1, if p.1 = name then value else p.2)) = rest := by
        refine (List.map_congr_left fun p hp => ?_).trans (List.map_id rest)
        have hne : p.1 ≠ name := fun h => hnodup.1 (List.mem_map.2 ⟨p, hp, h.trans hn.symm⟩)
        simp [hne]
      rw [if_pos hn, if_pos hn, hrest]
    · rw [if_neg hn, if_neg hn, ih hnodup.2]

/-- Setting an attribute gives it the value, and null makes it absent. -/
theorem setAttribute_eq_ok {className name : String} {value : Option Json}
    {attributes : List (String × Option Json)} {slots : List Slot} {e : Entity}
    (h : (mk className attributes slots).setAttribute name value = .ok e) :
    e = mk className (replaceValue name (value.filter fun v => !v.isNull) attributes) slots := by
  rw [setAttribute] at h
  split at h
  · exact (Except.ok.inj h).symm
  · simp at h

end Entity

namespace Binding

/-- Setting attributes gives each of them the last value that is set. -/
theorem setAll_eq_ok {className : String} {attributes : List (String × Option Json)}
    {slots : List Slot} (hnodup : (attributes.map Prod.fst).Nodup) {parameters : Parameters}
    {e : Entity} (h : setAll (.mk className attributes slots) parameters = .ok e) :
    e = .mk className (attributes.map fun p => (p.1, (parameters.reverse.lookup p.1).elim p.2
      fun value => value.filter fun v => !v.isNull)) slots := by
  induction parameters generalizing attributes with
  | nil =>
    rw [setAll] at h
    simpa using (Except.ok.inj h).symm
  | cons p rest ih =>
    obtain ⟨name, value⟩ := p
    obtain ⟨next, hset, hrest⟩ := Chain.bind_eq_ok_iff.1 h
    obtain rfl := Entity.setAttribute_eq_ok hset
    rw [Entity.replaceValue_eq_map hnodup] at hrest
    rw [ih (by simpa [Function.comp_def] using hnodup) hrest, List.map_map]
    congr 1
    refine List.map_congr_left fun p _ => ?_
    rw [Function.comp_apply, List.reverse_cons, List.lookup_append]
    cases rest.reverse.lookup p.1 with
    | some last => rfl
    | none =>
      by_cases hp : p.1 = name
      · simp [hp]
      · have hlast : [(name, value)].lookup p.1 = none := by
          rw [List.lookup_cons, beq_false_of_ne hp]
          rfl
        simp [hp, hlast]

/-- A new entity of a bound class has for each attribute the value that is given, and an empty slot
for each relationship. -/
theorem construct_eq_ok {c : EntityClass} {b : Binding} (hb : c.Bound b)
    (hnodup : (c.shape.attributes.map Attribute.name).Nodup) {parameters : Parameters} {e : Entity}
    (h : b.construct parameters = .ok e) :
    e = .mk c.name (c.shape.attributes.map fun a => (a.name, parameters.given a.name))
      (c.shape.relationships.map Slot.ofRelationship) := by
  rw [construct, hb.className_eq, hb.parameters_eq, hb.relationships_eq] at h
  have hnames : (((c.shape.attributes.map Attribute.name).map fun n =>
      (n, (none : Option Json))).map Prod.fst).Nodup := by
    simpa [Function.comp_def] using hnodup
  rw [setAll_eq_ok hnames h, List.map_map, List.map_map]
  congr 1
  refine List.map_congr_left fun a _ => ?_
  simp only [Function.comp_apply, Parameters.given]
  cases parameters.reverse.lookup a.name <;> rfl

end Binding

section Built

variable {reg : Registry}

/-- The last value that parameters give for a name is among them, and not null. -/
theorem Parameters.mem_of_given {parameters : Parameters} {name : String} {value : Json}
    (h : parameters.given name = some value) :
    (name, some value) ∈ parameters ∧ value.isNull = false := by
  obtain ⟨hlookup, hnull⟩ := Option.filter_eq_some_iff.1 h
  have hmem := mem_of_lookup_eq_some (Option.join_eq_some_iff.1 hlookup)
  exact ⟨List.mem_reverse.1 hmem, by simpa using hnull⟩

/-- The slot of a relationship in a new entity is mirrored by what a new struct value holds. -/
theorem recordSlot_empty (reg : Registry) (r : Relationship) :
    Entity.recordSlot reg (.ofRelationship r) = (storeField r).type.emptyStore := by
  cases hr : r.storage with
  | single =>
    rw [Entity.recordSlot_of_single reg (s := .ofRelationship r) hr]
    simp only [storeField, hr]
    rfl
  | sequence =>
    rw [Entity.recordSlot_of_sequence reg (s := .ofRelationship r) hr]
    simp only [storeField, hr]
    rfl
  | indexed field =>
    rw [Entity.recordSlot_of_indexed reg (s := .ofRelationship r) hr]
    simp only [storeField, hr]
    rfl

/-- A new entity of a class is regular, and its struct value is what the constructor makes. -/
theorem regular_construct {c : EntityClass} (hc : reg.find? c.name = some c)
    (hdistinct : c.shape.Distinct) (hstruct : (Module.ofClass reg c).IsStruct)
    {parameters : Parameters} (hkinds : c.shape.Admits parameters) {b : Binding} (hb : c.Bound b)
    {e : Entity} (he : b.construct parameters = .ok e) :
    Regular reg e ∧
      (Module.ofClass reg c).create (c.shape.arguments parameters) = e.record reg := by
  obtain rfl := Binding.construct_eq_ok hb hdistinct.of_append_left he
  constructor
  · refine .mk hc hdistinct hstruct ?_ ?_ ?_
    · rw [List.forall₂_map_right_iff, List.forall₂_same]
      refine fun a ha => ⟨rfl, fun value hvalue => ?_⟩
      obtain ⟨hmem, hnull⟩ := Parameters.mem_of_given hvalue
      obtain ⟨kind, hkind, hadmits⟩ := hkinds a.name value hmem hnull
      rw [Shape.kind?_of_mem hdistinct ha] at hkind
      exact ⟨hnull, Option.some.inj hkind ▸ hadmits⟩
    · rw [List.forall₂_map_right_iff, List.forall₂_same]
      exact fun r _ => .empty r
    · intro s hs item hitem
      obtain ⟨r, -, rfl⟩ := List.mem_map.1 hs
      simp [Slot.ofRelationship, Slot.items] at hitem
  · rw [Entity.record, hc, Module.create, Entity.recordValues, Entity.recordSlots_eq_map]
    congr 1
    · simp only [Module.ofClass, Shape.arguments, List.map_map, List.zip_map']
      refine List.map_congr_left fun a ha => ?_
      simp only [Function.comp_apply, name_attributeField, Option.bind_some,
        Shape.kind?_of_mem hdistinct ha, Option.getD_some]
    · simp only [Module.ofClass, List.map_map]
      refine List.map_congr_left fun r _ => ?_
      simp only [Function.comp_apply, name_storeField, (FitsRelationship.empty r).field_eq,
        recordSlot_empty]

/-- Whatever is built side by side, the entity is regular and the struct value is its record. -/
theorem regular_of_built (hreg : reg.Sound) {e : Entity} {x : Record} (h : Built reg e x) :
    Regular reg e ∧ x = e.record reg := by
  induction h with
  | @construct c b parameters e hc hb hstruct hkinds he =>
    obtain ⟨hregular, hrecord⟩ := regular_construct
      (Registry.find?_eq_some_of_mem hreg.wellFormed.nodup hc)
      (hreg.wellFormed.shapes c hc).distinct hstruct hkinds (hreg.bound c hc b hb).1 he
    exact ⟨hregular, hrecord⟩
  | @add e d added x y c r _ _ hc hr hadd ihe ihd =>
    obtain ⟨hregular, hrecord⟩ := ihe.1.add ihd.1 hc hr hadd
    exact ⟨hregular, by rw [ihe.2, ihd.2, hrecord]⟩

end Built

end DocSchema
