import DocSchema.Proofs.Entity.OrderHistory
import DocSchema.Proofs.Record.Built

/-!
# Constructing entities from parameters

The parameters of a constructor are set one after the other, and the first that names no attribute
stops it. What is set before keeps the names of the attributes, so it decides nothing about the
parameters behind it: they can all be set if and only if each of them names an attribute
(`Binding.exists_setAll_iff`), and otherwise the first that does not is told
(`Binding.setAll_unknown`). Of several values for one name only the last one is left
(`Parameters.Last`), so the order of the parameters does not matter beyond that.
`Binding.constructs_of_describes` says this of every constructor of a class.
-/

namespace DocSchema

/-- A value is what the last parameter of a name leaves, null being no value; and no value is what
is left where there is no such parameter. -/
def Parameters.Last (parameters : Parameters) (name : String) (value : Option Json) : Prop :=
  (∃ before given behind, parameters = before ++ (name, given) :: behind ∧
    name ∉ behind.map Prod.fst ∧ value = given.filter fun v => !v.isNull) ∨
  name ∉ parameters.map Prod.fst ∧ value = none

/-- Two lists of parameters leave equal values for every name. -/
def Parameters.Alike (parameters others : Parameters) : Prop :=
  ∀ name value other, parameters.Last name value → others.Last name other →
    Entity.sameValue value other = true

/-- A binding is to a class as it is: it makes objects of the class with all its members. -/
structure Binding.Describes (b : Binding) (c : EntityClass) : Prop where
  /-- The objects are of the class. -/
  className_eq : b.className = c.name
  /-- The parameters are the attributes. -/
  parameters_eq : b.parameters = c.shape.attributes
  /-- The relationships are those of the class. -/
  relationships_eq : b.relationships = c.shape.relationships

/-- A binding constructs objects of a class exactly as the parameters say. -/
structure Binding.Constructs (b : Binding) (c : EntityClass) : Prop where
  /-- An object is made if and only if every parameter names an attribute. -/
  exists_iff : ∀ parameters, (∃ e, b.construct parameters = .ok e) ↔
    ∀ p ∈ parameters, p.1 ∈ c.shape.attributes.map Attribute.name
  /-- Otherwise the first name of no attribute is told. -/
  unknown : ∀ before p behind, (∀ q ∈ before, q.1 ∈ c.shape.attributes.map Attribute.name) →
    p.1 ∉ c.shape.attributes.map Attribute.name →
      b.construct (before ++ p :: behind) = .error (.unknownAttribute c.name p.1)
  /-- The object is of the class. -/
  className_eq : ∀ parameters e, b.construct parameters = .ok e → e.className = c.name
  /-- It has the attributes of the class in order, and no others. -/
  names_eq : ∀ parameters e, b.construct parameters = .ok e →
    e.attributes.map Prod.fst = c.shape.attributes.map Attribute.name
  /-- Each of them has the value that the last parameter of its name leaves. -/
  value_iff : ∀ parameters e, b.construct parameters = .ok e → ∀ a ∈ c.shape.attributes,
    ∀ value, e.value a.name = .ok value ↔ parameters.Last a.name value
  /-- It has an empty slot for each relationship, in order. -/
  slots_eq : ∀ parameters e, b.construct parameters = .ok e →
    e.slots = c.shape.relationships.map Slot.ofRelationship
  /-- So there is nothing to iterate over. -/
  iter_eq : ∀ parameters e, b.construct parameters = .ok e → ∀ r ∈ c.shape.relationships,
    e.iter r.name = .ok []
  /-- Parameters that leave equal values make equal objects, if they name attributes only. -/
  alike : ∀ parameters e, b.construct parameters = .ok e → ∀ others, parameters.Alike others →
    (∀ q ∈ others, q.1 ∈ c.shape.attributes.map Attribute.name) →
      ∃ d, b.construct others = .ok d ∧ e.same d = true
  /-- Parameters that leave the same values make the same object. -/
  determined : ∀ parameters e, b.construct parameters = .ok e → ∀ others d,
    b.construct others = .ok d →
      (∀ name value, parameters.Last name value ↔ others.Last name value) → e = d

namespace Parameters

variable {parameters others : Parameters} {name : String} {value : Option Json}

/-- What the last parameter of a name leaves is the value that is given for the name. -/
theorem last_iff : parameters.Last name value ↔ parameters.given name = value := by
  rw [Last, given]
  cases hlookup : parameters.reverse.lookup name with
  | none =>
    have hfree : name ∉ parameters.map Prod.fst := by
      rw [← List.mem_reverse, ← List.map_reverse]
      exact lookup_eq_none_iff_notMem.1 hlookup
    constructor
    · rintro (⟨before, given, behind, rfl, -⟩ | ⟨-, rfl⟩)
      · simp at hfree
      · rfl
    · rintro rfl
      exact .inr ⟨hfree, rfl⟩
  | some given =>
    obtain ⟨before, behind, heq, hbehind⟩ := lookup_reverse_eq_some_iff.1 hlookup
    constructor
    · rintro (⟨before', given', behind', heq', hbehind', rfl⟩ | ⟨hfree, -⟩)
      · have hlast := lookup_reverse_eq_some_iff.2 ⟨before', behind', heq', hbehind'⟩
        rw [Option.some.inj (hlookup.symm.trans hlast)]
        rfl
      · simp [heq] at hfree
    · rintro rfl
      exact .inl ⟨before, given, behind, heq, hbehind, rfl⟩

end Parameters

namespace Entity

variable {e d : Entity} {name : String} {value : Option Json}

/-- Replacing a value changes no name. -/
theorem map_fst_replaceValue (name : String) (value : Option Json)
    (attributes : List (String × Option Json)) :
    (replaceValue name value attributes).map Prod.fst = attributes.map Prod.fst := by
  induction attributes with
  | nil => rfl
  | cons p rest ih =>
    rw [replaceValue]
    split
    · rfl
    · rw [List.map_cons, ih, List.map_cons]

/-- Setting an attribute changes no name. -/
theorem map_fst_of_setAttribute (h : e.setAttribute name value = .ok d) :
    d.attributes.map Prod.fst = e.attributes.map Prod.fst := by
  obtain ⟨className, attributes, slots⟩ := e
  obtain rfl := setAttribute_eq_ok h
  exact map_fst_replaceValue name _ attributes

/-- An attribute that is there can be set. -/
theorem exists_setAttribute (h : name ∈ e.attributes.map Prod.fst) (value : Option Json) :
    ∃ d, e.setAttribute name value = .ok d := by
  obtain ⟨className, attributes, slots⟩ := e
  have hthere : (attributes.lookup name).isSome = true := by
    rw [Option.isSome_iff_ne_none]
    exact fun hnone => lookup_eq_none_iff_notMem.1 hnone h
  exact ⟨_, if_pos hthere⟩

/-- One that is not there is unknown. -/
theorem setAttribute_unknown (h : name ∉ e.attributes.map Prod.fst) (value : Option Json) :
    e.setAttribute name value = .error (.unknownAttribute e.className name) := by
  obtain ⟨className, attributes, slots⟩ := e
  have hnone : attributes.lookup name = none := lookup_eq_none_iff_notMem.2 h
  rw [setAttribute, hnone]
  rfl

end Entity

namespace Binding

variable {e d : Entity} {b : Binding} {c : EntityClass} {parameters others : Parameters}

/-- Attributes can be set one after the other if and only if all of them are there. -/
theorem exists_setAll_iff : (∃ d, setAll e parameters = .ok d) ↔
    ∀ p ∈ parameters, p.1 ∈ e.attributes.map Prod.fst := by
  induction parameters generalizing e with
  | nil => exact ⟨fun _ => nofun, fun _ => ⟨e, rfl⟩⟩
  | cons p rest ih =>
    rw [List.forall_mem_cons]
    constructor
    · rintro ⟨d, hall⟩
      obtain ⟨next, hnext, hrest⟩ := Chain.bind_eq_ok_iff.1 hall
      refine ⟨?_, ?_⟩
      · by_contra hfree
        rw [Entity.setAttribute_unknown hfree] at hnext
        cases hnext
      · rw [← Entity.map_fst_of_setAttribute hnext]
        exact ih.1 ⟨d, hrest⟩
    · -- The first parameter changes no name, so the others find the names that were there.
      rintro ⟨hfirst, hrest⟩
      obtain ⟨next, hnext⟩ := Entity.exists_setAttribute hfirst p.2
      rw [← Entity.map_fst_of_setAttribute hnext] at hrest
      obtain ⟨d, hd⟩ := ih.2 hrest
      exact ⟨d, Chain.bind_eq_ok_iff.2 ⟨next, hnext, hd⟩⟩

/-- The first attribute that is not there stops the others. -/
theorem setAll_unknown {before : Parameters} {p : String × Option Json} (behind : Parameters)
    (hbefore : ∀ q ∈ before, q.1 ∈ e.attributes.map Prod.fst)
    (hp : p.1 ∉ e.attributes.map Prod.fst) :
    setAll e (before ++ p :: behind) = .error (.unknownAttribute e.className p.1) := by
  induction before generalizing e with
  | nil => exact Chain.bind_eq_error_iff.2 (.inl (Entity.setAttribute_unknown hp p.2))
  | cons q rest ih =>
    obtain ⟨hq, hrest⟩ := List.forall_mem_cons.1 hbefore
    obtain ⟨next, hnext⟩ := Entity.exists_setAttribute hq q.2
    rw [← Entity.map_fst_of_setAttribute hnext] at hp hrest
    rw [← Entity.className_of_setAttribute hnext]
    exact Chain.bind_eq_error_iff.2 (.inr ⟨next, hnext, ih hrest hp⟩)

section Describes

variable (hb : b.Describes c)
include hb

/-- A new object begins with the attributes of its class. -/
theorem Describes.construct_eq (parameters : Parameters) : b.construct parameters =
    setAll (.empty c.name (c.shape.attributes.map Attribute.name) c.shape.relationships)
      parameters := by
  rw [construct, hb.className_eq, hb.parameters_eq, hb.relationships_eq]

/-- A new object has the given values and empty slots. -/
theorem Describes.eq_of_construct (hnodup : (c.shape.attributes.map Attribute.name).Nodup)
    (h : b.construct parameters = .ok e) :
    e = .mk c.name (c.shape.attributes.map fun a => (a.name, parameters.given a.name))
      (c.shape.relationships.map Slot.ofRelationship) :=
  construct_eq_ok (c := { c with binding := some b })
    ⟨rfl, hb.className_eq, hb.parameters_eq, hb.relationships_eq⟩ hnodup h

/-- An attribute of a new object has the given value. -/
theorem Describes.value_of_construct (hnodup : (c.shape.attributes.map Attribute.name).Nodup)
    (h : b.construct parameters = .ok e) {a : Attribute} (ha : a ∈ c.shape.attributes) :
    e.value a.name = .ok (parameters.given a.name) := by
  have hlookup : e.attributes.lookup a.name = some (parameters.given a.name) := by
    rw [hb.eq_of_construct hnodup h]
    show (c.shape.attributes.map _).lookup a.name = _
    rw [lookup_map_pair Attribute.name fun a => parameters.given a.name,
      find?_of_nodup_map hnodup ha, Option.map_some]
  rw [Entity.value, hlookup]

end Describes

/-- There is nothing at the end of a relationship of a new object. -/
theorem iter_of_construct (h : b.construct parameters = .ok e) {r : Relationship}
    (hr : r ∈ b.relationships) : e.iter r.name = .ok [] := by
  have hthere : (b.relationships.find? fun s => s.name == r.name).isSome = true :=
    List.find?_isSome.2 ⟨r, hr, beq_self_eq_true r.name⟩
  obtain ⟨s, hs⟩ := Option.isSome_iff_exists.1 hthere
  have hslot : e.slot? r.name = some (.ofRelationship s) := by
    rw [slot?_of_construct h, hs, Option.map_some]
  exact Entity.iter_of_slot (Entity.slot_eq_ok_iff.2 hslot)

/-- A new object begins with the attributes that it is given names for. -/
theorem map_fst_empty (className : String) (names : List String)
    (relationships : List Relationship) :
    (Entity.empty className names relationships).attributes.map Prod.fst = names := by
  show (names.map (·, none)).map Prod.fst = names
  rw [List.map_map]
  exact List.map_id names

/-- Objects of one class with equal values and empty slots are equal. -/
theorem same_of_values {attributes : List Attribute} {relationships : List Relationship}
    {className : String} {value other : String → Option Json}
    (h : ∀ name, Entity.sameValue (value name) (other name) = true) :
    (Entity.mk className (attributes.map fun a => (a.name, value a.name))
      (relationships.map Slot.ofRelationship)).same
      (.mk className (attributes.map fun a => (a.name, other a.name))
        (relationships.map Slot.ofRelationship)) = true := by
  refine Entity.same_iff.2 ⟨rfl, Entity.sameAttributes_iff.2 ?_, Entity.sameSlots_iff.2 ?_⟩
  · show List.Forall₂ _ (attributes.map _) (attributes.map _)
    rw [List.forall₂_map_left_iff, List.forall₂_map_right_iff, List.forall₂_same]
    exact fun a _ => ⟨rfl, h a.name⟩
  · refine List.forall₂_same.2 fun s hs => ?_
    obtain ⟨r, -, rfl⟩ := List.mem_map.1 hs
    exact Entity.sameSlot_refl (.empty r) nofun

/-- The constructor of a class without two attributes of one name does exactly what the parameters
say. -/
theorem constructs_of_describes (hb : b.Describes c)
    (hnodup : (c.shape.attributes.map Attribute.name).Nodup) : b.Constructs c := by
  have hexists : ∀ parameters, (∃ e, b.construct parameters = .ok e) ↔
      ∀ p ∈ parameters, p.1 ∈ c.shape.attributes.map Attribute.name := by
    intro parameters
    rw [hb.construct_eq, exists_setAll_iff, map_fst_empty]
  have heq := fun (parameters : Parameters) (e : Entity)
    (h : b.construct parameters = .ok e) => hb.eq_of_construct hnodup h
  refine
    { exists_iff := hexists
      unknown := fun before p behind hbefore hp => ?_
      className_eq := fun parameters e h => ?_
      names_eq := fun parameters e h => ?_
      value_iff := fun parameters e h a ha value => ?_
      slots_eq := fun parameters e h => ?_
      iter_eq := fun parameters e h r hr => ?_
      alike := fun parameters e h others halike hothers => ?_
      determined := fun parameters e h others d hd hlast => ?_ }
  · rw [hb.construct_eq]
    exact setAll_unknown behind (by rwa [map_fst_empty]) (by rwa [map_fst_empty])
  · rw [heq parameters e h]
    rfl
  · rw [heq parameters e h]
    show (c.shape.attributes.map _).map Prod.fst = _
    rw [List.map_map]
    rfl
  · rw [hb.value_of_construct hnodup h ha, Parameters.last_iff, Except.ok.injEq]
  · rw [heq parameters e h]
    rfl
  · exact iter_of_construct h (hb.relationships_eq ▸ hr)
  · obtain ⟨d, hd⟩ := (hexists others).2 hothers
    refine ⟨d, hd, ?_⟩
    rw [heq parameters e h, heq others d hd]
    exact same_of_values fun name =>
      halike name _ _ (Parameters.last_iff.2 rfl) (Parameters.last_iff.2 rfl)
  · have hgiven : parameters.given = others.given := funext fun name =>
      (Parameters.last_iff.1 ((hlast name _).1 (Parameters.last_iff.2 rfl))).symm
    rw [heq parameters e h, heq others d hd, hgiven]

end Binding

end DocSchema
