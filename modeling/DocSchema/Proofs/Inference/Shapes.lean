import DocSchema.Proofs.Inference.Course
import DocSchema.Proofs.Schema.Union
import Mathlib.Data.List.Nodup

/-!
# The shapes of objects

The shape of an object has an attribute for every scalar member, a relationship for every other
one, and no name twice (`shapeFrom_eq_ok`). Such a shape is `Shape.WellFormed`, and a merge of
well-formed shapes is (`wellFormed_of_merge`).
-/

namespace DocSchema

/-- No member name comes twice, and the names of the relationships follow from their keys. -/
structure Shape.WellFormed (owner : String) (s : Shape) : Prop where
  /-- No two members have one name. -/
  distinct : s.Distinct
  /-- The names of a relationship follow from its key. -/
  inferred : ∀ r ∈ s.relationships, r.Inferred owner

/-- The empty shape is well-formed. -/
theorem Shape.wellFormed_empty (owner : String) : Shape.empty.WellFormed owner where
  distinct := List.nodup_nil
  inferred _ h := by simp [Shape.empty] at h

/-- Merging well-formed shapes gives a well-formed one. -/
theorem Shape.wellFormed_of_merge {owner : String} {mode : Merge} {s later merged : Shape}
    (hs : s.WellFormed owner) (hlater : later.WellFormed owner)
    (h : s.merge mode later = .ok merged) : merged.WellFormed owner := by
  cases mode with
  | overwrite => exact Except.ok.inj h ▸ hlater
  | union =>
    refine ⟨distinct_of_unite hs.distinct h, fun r hr => ?_⟩
    rcases mem_relationships_of_unite h hr with hr | hr
    · exact hs.inferred r hr
    · exact hlater.inferred r hr

/-- A scalar is of a kind. That of null is unknown; arrays and objects are of none. -/
inductive Json.OfKind : Json → Kind → Prop where
  /-- A text is a string. -/
  | string (value : String) : OfKind (.string value) .string
  /-- A number, an integer or not, is a number. -/
  | number (value : Number) : OfKind (.number value) .number
  /-- A truth value is a boolean. -/
  | bool (value : Bool) : OfKind (.bool value) .boolean
  /-- Null may be anything. -/
  | null : OfKind .null .any

/-- The kind of a scalar is unknown if and only if the scalar is null. -/
theorem Json.OfKind.eq_any_iff {value : Json} {kind : Kind} (h : value.OfKind kind) :
    kind = .any ↔ value = .null := by
  cases h <;> simp

/-- A value gives an attribute a kind if and only if it is of the kind. -/
theorem Kind.of?_eq_some_iff {value : Json} {kind : Kind} :
    Kind.of? value = some kind ↔ value.OfKind kind := by
  constructor
  · intro h
    cases value with
    | null => exact Option.some.inj h ▸ .null
    | bool value => exact Option.some.inj h ▸ .bool value
    | number value => exact Option.some.inj h ▸ .number value
    | string value => exact Option.some.inj h ▸ .string value
    | _ => cases h
  · rintro (_ | _ | _ | _) <;> rfl

namespace Inference

/-- The attribute that a member stands for. -/
def attributeOf (key : String) (value : Json) : Option Attribute :=
  (Kind.of? value).map fun kind => ⟨key, kind⟩

/-- A member stands for an attribute if and only if it stands for no relationship. -/
theorem relationshipOf_eq_none_iff {owner key : String} {value : Json} :
    relationshipOf owner key value = none ↔ ∃ a, attributeOf key value = some a := by
  cases value with
  | object entries =>
    rw [relationshipOf]
    split <;> simp [attributeOf, Kind.of?]
  | _ => simp [relationshipOf, attributeOf, Kind.of?]

/-- A member that is added is the last attribute or the last relationship. -/
theorem addMember_eq_ok {owner key : String} {shape added : Shape} {value : Json}
    (h : addMember owner shape key value = .ok added) :
    added.attributes = shape.attributes ++ (attributeOf key value).toList ∧
      added.relationships = shape.relationships ++ (relationshipOf owner key value).toList ∧
      (shape.Distinct → added.Distinct) := by
  rw [addMember] at h
  cases hr : relationshipOf owner key value with
  | some r =>
    rw [hr] at h
    have hnone : attributeOf key value = none := by
      rw [Option.eq_none_iff_forall_ne_some]
      intro a ha
      simp [relationshipOf_eq_none_iff.2 ⟨a, ha⟩] at hr
    obtain ⟨-, hadded⟩ := (Shape.addRelationship_eq_ok_iff shape added r).1 h
    refine ⟨?_, ?_, fun hs => Shape.distinct_of_addRelationship hs h⟩
    · simp [hadded, hnone]
    · simp [hadded]
  | none =>
    rw [hr] at h
    obtain ⟨a, ha⟩ := relationshipOf_eq_none_iff.1 hr
    obtain ⟨kind, hkind, rfl⟩ := Option.map_eq_some_iff.1 ha
    simp only [addScalar, hkind] at h
    obtain ⟨-, hadded⟩ := (Shape.addAttribute_eq_ok_iff shape added ⟨key, kind⟩).1 h
    refine ⟨?_, ?_, fun hs => Shape.distinct_of_addAttribute hs h⟩
    · simp [hadded, ha]
    · simp [hadded]

/-- The members of an object are added in order, each as an attribute or as a relationship. -/
theorem shapeFrom_eq_ok {owner : String} {shape added : Shape} {members : Members}
    (h : shapeFrom owner shape members = .ok added) :
    added.attributes =
        shape.attributes ++ members.filterMap (fun (key, value) => attributeOf key value) ∧
      added.relationships =
        shape.relationships ++
          members.filterMap (fun (key, value) => relationshipOf owner key value) ∧
      (shape.Distinct → added.Distinct) := by
  induction members generalizing shape with
  | nil =>
    obtain rfl := Except.ok.inj h
    simp
  | cons m rest ih =>
    obtain ⟨key, value⟩ := m
    rw [shapeFrom_cons] at h
    obtain ⟨next, hstep, hrest⟩ := Chain.bind_eq_ok_iff.1 h
    obtain ⟨hattributes, hrelationships, hdistinct⟩ := addMember_eq_ok hstep
    obtain ⟨hattributes', hrelationships', hdistinct'⟩ := ih hrest
    refine ⟨?_, ?_, fun hs => hdistinct' (hdistinct hs)⟩
    · rw [hattributes', hattributes]
      cases ha : attributeOf key value <;> simp [ha]
    · rw [hrelationships', hrelationships]
      cases hr : relationshipOf owner key value <;> simp [hr]

/-- The shape of an object is well-formed. -/
theorem wellFormed_of_shapeFrom {owner : String} {s : Shape} {members : Members}
    (h : shapeFrom owner .empty members = .ok s) : s.WellFormed owner := by
  obtain ⟨-, hrelationships, hdistinct⟩ := shapeFrom_eq_ok h
  refine ⟨hdistinct List.nodup_nil, fun r hr => ?_⟩
  rw [hrelationships, Shape.empty, List.nil_append] at hr
  obtain ⟨⟨key, value⟩, -, hmember⟩ := List.mem_filterMap.1 hr
  exact inferred_of_relationshipOf hmember

/-- A member of an object stands for a relationship of its shape. -/
theorem mem_shape_of_relationshipOf {name key : String} {members : Members} {shape : Shape}
    (hshape : shapeFrom name .empty members = .ok shape) {value : Json} {r : Relationship}
    (hm : (key, value) ∈ members) (hr : relationshipOf name key value = some r) :
    r ∈ shape.relationships := by
  obtain ⟨-, hrelationships, -⟩ := shapeFrom_eq_ok hshape
  rw [hrelationships, Shape.empty, List.nil_append]
  exact List.mem_filterMap.2 ⟨_, hm, hr⟩

/-- A member of an object that stands for no relationship is an attribute of its shape. -/
theorem mem_names_of_relationshipOf {name key : String} {members : Members} {shape : Shape}
    (hshape : shapeFrom name .empty members = .ok shape) {value : Json}
    (hm : (key, value) ∈ members) (hr : relationshipOf name key value = none) :
    key ∈ shape.attributes.map Attribute.name := by
  obtain ⟨hattributes, -, -⟩ := shapeFrom_eq_ok hshape
  obtain ⟨a, ha⟩ := relationshipOf_eq_none_iff.1 hr
  rw [hattributes, Shape.empty, List.nil_append]
  refine List.mem_map.2 ⟨a, List.mem_filterMap.2 ⟨_, hm, ha⟩, ?_⟩
  obtain ⟨kind, -, rfl⟩ := Option.map_eq_some_iff.1 ha
  rfl

/-- A scalar member of an object is an attribute of its shape, with its kind. -/
theorem kind?_of_shapeFrom {owner name : String} {members : Members} {shape : Shape}
    (hshape : shapeFrom owner .empty members = .ok shape) {value : Json} {kind : Kind}
    (hm : (name, value) ∈ members) (hkind : Kind.of? value = some kind) :
    shape.kind? name = some kind := by
  obtain ⟨hattributes, -, hdistinct⟩ := shapeFrom_eq_ok hshape
  have hattribute : attributeOf name value = some ⟨name, kind⟩ := by
    rw [attributeOf, hkind]
    rfl
  have hmem : (⟨name, kind⟩ : Attribute) ∈ shape.attributes := by
    rw [hattributes]
    exact List.mem_append_right _ (List.mem_filterMap.2 ⟨_, hm, hattribute⟩)
  have hnodup : (shape.attributes.map Attribute.name).Nodup :=
    (hdistinct List.nodup_nil).of_append_left
  -- The attribute that is found under the name is this one, as no other has the name.
  have hsome : (shape.kind? name).isSome = true :=
    Shape.isSome_kind?_iff.2 (List.mem_map_of_mem hmem)
  obtain ⟨k, hk⟩ := Option.isSome_iff_exists.1 hsome
  obtain ⟨a, ha, rfl⟩ := Option.map_eq_some_iff.1 hk
  have hname : a.name = name := by simpa using List.find?_some ha
  obtain rfl := List.inj_on_of_nodup_map hnodup (List.mem_of_find?_eq_some ha) hmem hname
  exact hk

/-- An attribute of the shape of an object is a scalar member of the object. -/
theorem exists_scalar_of_shapeFrom {owner name : String} {members : Members} {shape : Shape}
    (hshape : shapeFrom owner .empty members = .ok shape)
    (hname : name ∈ shape.attributes.map Attribute.name) :
    ∃ value, (name, value) ∈ members ∧ (Kind.of? value).isSome = true := by
  obtain ⟨hattributes, -, -⟩ := shapeFrom_eq_ok hshape
  rw [hattributes, Shape.empty, List.nil_append] at hname
  obtain ⟨a, ha, rfl⟩ := List.mem_map.1 hname
  obtain ⟨⟨key, value⟩, hm, hattribute⟩ := List.mem_filterMap.1 ha
  obtain ⟨kind, hkind, rfl⟩ := Option.map_eq_some_iff.1 hattribute
  exact ⟨value, hm, Option.isSome_of_eq_some hkind⟩

end Inference

end DocSchema
