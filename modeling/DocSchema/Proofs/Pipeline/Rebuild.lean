import DocSchema.Proofs.Pipeline.Outcome
import DocSchema.Proofs.Json.Same

/-!
# Rebuilding documents

`Entity.rebuild` makes a JSON value of an entity: an object with its attributes that are present
and, for each relationship of its class that holds elements, a member with the rebuilt elements
under the key that the relationship was seen under. In a union nothing is lost on the way: by
`elements_eq_parts_of_extends` a relationship with elements was seen under the very key of the
member that they come from, and by `restores_rebuild` an entity gives back the fragment that it
describes, if that is `Json.Plain`.
-/

namespace DocSchema

/-- The relationships of the class of a name; none if there is no such class. -/
def Registry.relationshipsOf (reg : Registry) (className : String) : List Relationship :=
  (reg.find? className).elim [] fun c => c.shape.relationships

namespace Entity

/-- The attributes that are present, as members of an object. -/
def presentMembers (attributes : List (String × Option Json)) : Members :=
  attributes.filterMap fun (name, value) => value.map fun v => (name, v)

/-- The member that a relationship gives, if it holds elements: one element of a single object, and
else an array of them. -/
def relationshipMember? (rebuilt : List (String × List Json)) (r : Relationship) :
    Option (String × Json) :=
  match (rebuilt.lookup r.name).getD [], r.storage with
  | [], _ => none
  | element :: _, .single => some (r.jsonKey, element)
  | elements, _ => some (r.jsonKey, .array elements)

mutual

/-- The JSON value of an entity. A relationship replaces an attribute of the same key. -/
def rebuild (reg : Registry) : Entity → Json
  | mk className attributes slots =>
    .object (Members.putAll
      ((reg.relationshipsOf className).filterMap (relationshipMember? (rebuildSlots reg slots)))
      (presentMembers attributes))
termination_by structural e => e

/-- The names of slots with the JSON values of their entities. -/
def rebuildSlots (reg : Registry) : List Slot → List (String × List Json)
  | [] => []
  | s :: rest => rebuildSlot reg s :: rebuildSlots reg rest
termination_by structural slots => slots

/-- The name of a slot with the JSON values of its entities. -/
def rebuildSlot (reg : Registry) : Slot → String × List Json
  | .mk name _ _ items => (name, rebuildItems reg items)
termination_by structural s => s

/-- The JSON values of entities, in order. -/
def rebuildItems (reg : Registry) : List Entity → List Json
  | [] => []
  | e :: rest => rebuild reg e :: rebuildItems reg rest
termination_by structural items => items

end

/-- Entities are rebuilt one by one. -/
theorem rebuildItems_eq_map (reg : Registry) (items : List Entity) :
    rebuildItems reg items = items.map (rebuild reg) := by
  induction items with
  | nil => rfl
  | cons e rest ih => rw [rebuildItems, ih, List.map_cons]

/-- A slot is rebuilt from its entities. -/
theorem rebuildSlot_eq (reg : Registry) (s : Slot) :
    rebuildSlot reg s = (s.name, s.items.map (rebuild reg)) := by
  cases s
  rw [rebuildSlot, rebuildItems_eq_map]
  rfl

end Entity

mutual

/-- No member is null, no array is empty, and no object is the value of a member whose key begins
like a table. -/
def Json.Plain : Json → Prop
  | .array items => items ≠ [] ∧ PlainItems items
  | .object members => PlainMembers members
  | _ => True
termination_by structural a => a

/-- The items are plain. -/
def Json.PlainItems : List Json → Prop
  | [] => True
  | a :: rest => Plain a ∧ PlainItems rest
termination_by structural items => items

/-- The members are neither null nor tables, and their values are plain. -/
def Json.PlainMembers : Members → Prop
  | [] => True
  | (key, value) :: rest =>
    value ≠ .null ∧ (∀ entries, value = .object entries → Text.startsWith tableStart key = false) ∧
      Plain value ∧ PlainMembers rest
termination_by structural members => members

end

namespace Json

/-- The items of an array are plain if and only if each of them is. -/
theorem plainItems_iff {items : List Json} : PlainItems items ↔ ∀ a ∈ items, a.Plain := by
  induction items with
  | nil => simp [PlainItems]
  | cons a rest ih => simp [PlainItems, ih]

/-- The members of an object are plain if and only if each of them is. -/
theorem plainMembers_iff {members : Members} :
    PlainMembers members ↔ ∀ m ∈ members, m.2 ≠ .null ∧
      (∀ entries, m.2 = .object entries → Text.startsWith tableStart m.1 = false) ∧ m.2.Plain := by
  induction members with
  | nil => simp [PlainMembers]
  | cons m rest ih =>
    obtain ⟨key, value⟩ := m
    rw [PlainMembers, ih, List.forall_mem_cons, and_assoc, and_assoc]

end Json

namespace Materialize

open Inference Entity

/-- The slot of each relationship of a class gives its entities when it is rebuilt. -/
theorem lookup_rebuildSlots {reg : Registry} {here : Pointer} {members : Members}
    {relationships : List Relationship} {slots : List Slot}
    (hslots : List.Forall₂ (Filled reg here members) relationships slots)
    (hnodup : (relationships.map Relationship.name).Nodup) {r : Relationship}
    (hr : r ∈ relationships) :
    ∃ s, Filled reg here members r s ∧
      (rebuildSlots reg slots).lookup r.name = some (s.items.map (rebuild reg)) := by
  induction hslots with
  | nil => simp at hr
  | @cons q s rest slots hfilled _ ih =>
    rw [List.map_cons, List.nodup_cons] at hnodup
    have hname : s.name = q.name := by
      obtain ⟨entities, -, rfl⟩ := hfilled
      exact Slot.name_fill _ entities
    rw [rebuildSlots, rebuildSlot_eq, hname]
    rcases List.mem_cons.1 hr with rfl | hr
    · exact ⟨s, hfilled, List.lookup_cons_self⟩
    · have hne : r.name ≠ q.name := fun h => hnodup.1 (List.mem_map.2 ⟨r, hr, h⟩)
      rw [List.lookup_cons, beq_false_of_ne hne]
      exact ih hnodup.2 hr

/-- Where the shape of a class extends that of an object, a relationship with elements was seen
under the key of the member that they come from. -/
theorem elements_eq_parts_of_extends {name : String} {here : Pointer} {members : Members}
    {c shape : Shape} (hwell : c.WellFormed name)
    (hshape : shapeFrom name .empty members = .ok shape) (hextends : c.Extends shape)
    {r : Relationship} (hr : r ∈ c.relationships) (h : elements r here members ≠ []) :
    ∃ value, members.lookup r.jsonKey = some value ∧
      relationshipOf name r.jsonKey value = some r ∧
      elements r here members = parts here r.jsonKey value := by
  obtain ⟨key, value, s, hvalue, hs, hname, -, hparts⟩ :=
    elements_eq_parts (hwell.inferred r hr) h
  -- The class has the relationship of this object too, and only one of the name.
  have hmem : s ∈ c.relationships := hextends.relationships
    (mem_shape_of_relationshipOf hshape (mem_of_lookup_eq_some hvalue) hs)
  obtain rfl := List.inj_on_of_nodup_map hwell.distinct.of_append_right hmem hr hname
  obtain rfl := jsonKey_of_relationshipOf hs
  exact ⟨value, hvalue, hs, hparts⟩

/-- A member that stands for a relationship holds its parts as the elements of it. -/
theorem elements_eq_of_relationshipOf {name key : String} {here : Pointer} {members : Members}
    {value : Json} {r : Relationship} (hvalue : members.lookup key = some value)
    (hr : relationshipOf name key value = some r) :
    elements r here members = parts here key value := by
  have hkey : memberKey? r members = some key := by
    rw [memberKey?, jsonKey_of_relationshipOf hr, hvalue]
    rfl
  rw [elements, hkey]
  show (members.lookup key).elim [] (held r (here.key key)) = _
  rw [hvalue]
  cases value with
  | array items =>
    obtain rfl := Option.some.inj hr
    rfl
  | object entries =>
    rw [relationshipOf] at hr
    rw [parts]
    split at hr
    · next hstart =>
      obtain rfl := Option.some.inj hr
      rw [if_pos hstart]
      rfl
    · next hstart =>
      obtain rfl := Option.some.inj hr
      rw [if_neg hstart]
      rfl
  | _ => simp [relationshipOf] at hr

/-- The items of an array are the fragments of its parts. -/
theorem map_fragment_parts (here : Pointer) (key : String) (items : List Json) :
    (parts here key (.array items)).map Visit.fragment = items := by
  rw [parts, List.map_map]
  exact List.zipIdx_map_fst 0 items

/-- A slot with the entities of a plain member gives the member when it is rebuilt. -/
theorem exists_relationshipMember {reg : Registry} {name key : String} {here : Pointer}
    {value : Json} {r : Relationship} {entities : List Entity}
    {rebuilt : List (String × List Json)} (hr : relationshipOf name key value = some r)
    (htable : ∀ entries, value = .object entries → Text.startsWith tableStart key = false)
    (hplain : value.Plain)
    (hentities : List.Forall₂ (fun (v : Visit) d => (d.rebuild reg).Restores v.fragment)
      (parts here key value) entities)
    (hrebuilt : rebuilt.lookup r.name =
      some ((((Slot.ofRelationship r).fill entities).items).map (rebuild reg))) :
    ∃ w, relationshipMember? rebuilt r = some (key, w) ∧ w.Restores value := by
  cases value with
  | array items =>
    obtain rfl := Option.some.inj hr
    have hitems : List.Forall₂ Json.Restores (entities.map (rebuild reg)) items := by
      rw [List.forall₂_map_left_iff, ← map_fragment_parts here key items,
        List.forall₂_map_right_iff]
      exact hentities.flip
    rw [Slot.items_fill_sequence rfl] at hrebuilt
    change _ = some (entities.map (rebuild reg)) at hrebuilt
    refine ⟨.array (entities.map (rebuild reg)), ?_, ?_⟩
    · rw [relationshipMember?, hrebuilt]
      cases entities with
      | nil =>
        -- An empty array would be lost, as a relationship without elements gives no member.
        rw [List.map_nil, List.forall₂_nil_left_iff] at hitems
        exact absurd hitems hplain.1
      | cons d rest => rfl
    · exact Json.restores_array hitems
  | object entries =>
    have hnested : ¬ Text.startsWith tableStart key = true := by
      rw [htable entries rfl]
      exact Bool.false_ne_true
    rw [relationshipOf, if_neg hnested] at hr
    obtain rfl := Option.some.inj hr
    rw [parts, if_neg hnested] at hentities
    obtain ⟨d, rest, hd, hrest, rfl⟩ := List.forall₂_cons_left_iff.1 hentities
    rw [List.forall₂_nil_left_iff] at hrest
    subst hrest
    rw [Slot.items_fill_single rfl] at hrebuilt
    refine ⟨d.rebuild reg, ?_, hd⟩
    rw [relationshipMember?, hrebuilt]
    rfl
  | _ => simp [relationshipOf] at hr

/-- The attributes of an entity that are present are members of the object. -/
theorem mem_presentMembers_iff {s : Shape} {members : Members} {key : String} {value : Json} :
    (key, value) ∈ presentMembers (s.attributesFrom members) ↔
      key ∈ s.attributes.map Attribute.name ∧ members.lookup key = some value ∧
        value.isNull = false := by
  rw [← Shape.mem_attributesFrom_iff, presentMembers, List.mem_filterMap]
  constructor
  · rintro ⟨⟨name, v⟩, hmem, hvalue⟩
    obtain ⟨v, rfl, heq⟩ := Option.map_eq_some_iff.1 hvalue
    obtain ⟨rfl, rfl⟩ := Prod.mk.inj heq
    exact hmem
  · intro h
    exact ⟨_, h, rfl⟩

/-- No attribute of an entity is present twice. -/
theorem nodup_keys_presentMembers {s : Shape} (hs : s.Distinct) (members : Members) :
    ((presentMembers (s.attributesFrom members)).map Prod.fst).Nodup := by
  have hnames : ((s.attributesFrom members).map Prod.fst).Nodup := by
    rw [Shape.attributesFrom, List.map_map]
    exact hs.of_append_left
  refine List.Nodup.sublist ?_ hnames
  rw [presentMembers]
  induction s.attributesFrom members with
  | nil => exact List.Sublist.refl _
  | cons p rest ih =>
    obtain ⟨name, value⟩ := p
    cases value with
    | none => exact (ih).cons name
    | some v => exact ih.cons_cons name

/-- The parts of a plain member are plain. -/
theorem plain_of_mem_parts {here : Pointer} {key : String} {value : Json} {v : Visit}
    (hvalue : value.Plain) (hv : v ∈ parts here key value) : v.fragment.Plain := by
  cases value with
  | array items =>
    obtain ⟨⟨item, position⟩, hitem, rfl⟩ := List.mem_map.1 hv
    exact Json.plainItems_iff.1 hvalue.2 item (List.fst_mem_of_mem_zipIdx hitem)
  | object entries =>
    rw [parts] at hv
    split at hv
    · obtain ⟨⟨entry, inner⟩, hentry, rfl⟩ := List.mem_map.1 hv
      exact (Json.plainMembers_iff.1 hvalue _ hentry).2.2
    · obtain rfl := List.mem_singleton.1 hv
      exact hvalue
  | _ => simp [parts] at hv

section Filled

variable {reg : Registry} {here : Pointer} {members : Members}
  {relationships : List Relationship} {slots : List Slot}
  (hslots : List.Forall₂ (Filled reg here members) relationships slots)
  (hnodup : (relationships.map Relationship.name).Nodup) {r : Relationship}
  (hr : r ∈ relationships)
include hslots hnodup hr

/-- A relationship gives a member of the rebuilt object only if it has elements. -/
theorem elements_ne_nil_of_relationshipMember {m : String × Json}
    (h : relationshipMember? (rebuildSlots reg slots) r = some m) :
    elements r here members ≠ [] := by
  intro hnil
  obtain ⟨s, ⟨entities, hentities, rfl⟩, hrebuilt⟩ := lookup_rebuildSlots hslots hnodup hr
  rw [hnil, List.forall₂_nil_left_iff] at hentities
  subst hentities
  rw [relationshipMember?, hrebuilt] at h
  simp [Slot.fill, Slot.ofRelationship, Slot.items] at h

/-- A relationship that a plain member stands for gives the member back, if the entities of the
parts give the parts back. -/
theorem exists_relationshipMember_of_lookup {name key : String} {value : Json}
    (hvalue : members.lookup key = some value) (hmember : relationshipOf name key value = some r)
    (htable : ∀ entries, value = .object entries → Text.startsWith tableStart key = false)
    (hplain : value.Plain)
    (hparts : ∀ w ∈ parts here key value, ∀ d, entityOf reg w = .ok d →
      (d.rebuild reg).Restores w.fragment) :
    ∃ w, relationshipMember? (rebuildSlots reg slots) r = some (key, w) ∧ w.Restores value := by
  obtain ⟨s, ⟨entities, hentities, rfl⟩, hrebuilt⟩ := lookup_rebuildSlots hslots hnodup hr
  rw [elements_eq_of_relationshipOf hvalue hmember] at hentities
  have hrestores : List.Forall₂ (fun (w : Visit) d => (d.rebuild reg).Restores w.fragment)
      (parts here key value) entities :=
    ((List.forall₂_and_left _ _).2 ⟨fun w hw => hw, hentities⟩).imp
      fun w d hd => hparts w hd.1 d hd.2
  exact exists_relationshipMember hmember htable hplain hrestores hrebuilt

end Filled

/-- In a union the entity of a plain fragment gives the fragment back when it is rebuilt. -/
theorem restores_rebuild {rootName : String} {document : Json} {reg : Registry} (hreg : reg.Ready)
    (hyields : Yields rootName document .union reg) (v : Visit)
    (hv : v.course ⊆ course rootName .root document) (hdistinct : v.fragment.Distinct)
    (hplain : v.fragment.Plain) {e : Entity} (he : entityOf reg v = .ok e) :
    (e.rebuild reg).Restores v.fragment := by
  refine visited_induction (P := fun v => v.fragment.Distinct → v.fragment.Plain →
    ∀ e, entityOf reg v = .ok e → (e.rebuild reg).Restores v.fragment) hyields
      (fun name here members hv ih hdistinct hplain e he => ?_) v hv hdistinct hplain e he
  obtain ⟨_, c, shape, hobject, hc, hwell, hshape, hextends⟩ := exists_class hyields hv
  obtain rfl := Json.object.inj hobject
  obtain ⟨slots, hslots, rfl⟩ := (build_eq_ok_iff hreg hc).1 he
  obtain ⟨hkeys, hvalues⟩ := Json.distinct_object_iff.1 hdistinct
  have hmembers := Json.plainMembers_iff.1 hplain
  have hnodup := hwell.distinct.of_append_right
  have hrelated : reg.relationshipsOf name = c.shape.relationships := by
    rw [Registry.relationshipsOf, hc]
    rfl
  have hgives : ∀ r ∈ c.shape.relationships, ∀ key value, members.lookup key = some value →
      relationshipOf name key value = some r →
        ∃ w, relationshipMember? (rebuildSlots reg slots) r = some (key, w) ∧
          w.Restores value := by
    intro r hr key value hvalue hmember
    have hm : (key, value) ∈ members := mem_of_lookup_eq_some hvalue
    obtain ⟨-, htable, hplain⟩ := hmembers _ hm
    exact exists_relationshipMember_of_lookup hslots hnodup hr hvalue hmember htable hplain
      fun w hw d hd => ih key value hm w hw (distinct_of_mem_parts (hvalues _ hm) hw)
        (plain_of_mem_parts hplain hw) d hd
  rw [rebuild, hrelated]
  refine Json.restores_object
    (Members.nodup_keys_putAll (nodup_keys_presentMembers hwell.distinct _)) hkeys
    (fun key hkey => ?_) (fun key w hw => ?_)
  · -- No member is lost: it stands for a relationship or an attribute of its own object, and the
    -- class has these too.
    obtain ⟨⟨key, value⟩, hm, rfl⟩ := List.mem_map.1 hkey
    have hvalue := Members.lookup_eq_some_of_mem hkeys hm
    rw [Members.mem_keys_putAll]
    cases hmember : relationshipOf name key value with
    | some r =>
      have hr := (hextends rfl).relationships (mem_shape_of_relationshipOf hshape hm hmember)
      obtain ⟨w, hw, -⟩ := hgives r hr key value hvalue hmember
      exact .inr (List.mem_map.2 ⟨_, List.mem_filterMap.2 ⟨r, hr, hw⟩, rfl⟩)
    | none =>
      have ha := (hextends rfl).attributeNames (mem_names_of_relationshipOf hshape hm hmember)
      have hnull := Json.isNull_eq_false_iff.2 (hmembers _ hm).1
      exact .inl (List.mem_map.2 ⟨_, mem_presentMembers_iff.2 ⟨ha, hvalue, hnull⟩, rfl⟩)
  · -- No member is invented: what another object gave the class has no elements here unless this
    -- object has the member too.
    rcases Members.mem_of_lookup_putAll hw with hentry | hpresent
    · obtain ⟨r, hr, hentry⟩ := List.mem_filterMap.1 hentry
      have hne := elements_ne_nil_of_relationshipMember hslots hnodup hr hentry
      obtain ⟨value, hvalue, hmember, -⟩ :=
        elements_eq_parts_of_extends hwell hshape (hextends rfl) hr hne
      obtain ⟨w', hw', hrestores⟩ := hgives r hr _ value hvalue hmember
      obtain ⟨rfl, rfl⟩ := Prod.mk.inj (Option.some.inj (hentry.symm.trans hw'))
      exact ⟨value, hvalue, hrestores⟩
    · have hpresent := mem_of_lookup_eq_some hpresent
      obtain ⟨-, hvalue, -⟩ := mem_presentMembers_iff.1 hpresent
      have hw := hvalues _ (mem_of_lookup_eq_some hvalue)
      exact ⟨w, hvalue, hw, Json.same_refl hw⟩

end Materialize

namespace Pipeline

/-- A union loses nothing: where a run with unions succeeds on a plain document, the entity of the
document gives the document back when it is rebuilt. Documents that are read are distinct
(`Json.distinct_of_read`). -/
theorem rebuild_of_run {rootName classNamespace : String} {document : Json} {denyIssues : Bool}
    {p : Pipeline} (hdistinct : document.Distinct) (hplain : document.Plain)
    (h : run rootName document classNamespace ⟨.union, denyIssues⟩ = .ok p) :
    (p.root.rebuild p.registry).Distinct ∧ (p.root.rebuild p.registry).same document = true := by
  have hrests := rests_of_run h
  have hrestores := Materialize.restores_rebuild hrests.ready hrests.yields
    ⟨rootName, .root, document⟩ (List.Subset.refl _) hdistinct hplain hrests.entity_eq
  exact ⟨hrestores.distinct, hrestores.same_eq⟩

/-- A document whose items have items in their turn, and different members. -/
def nestedItems : Json :=
  .object [("flag", .bool true),
    ("items", .array [
      .object [("title", .string "a"), ("items", .array [.object [("title", .string "b")]])],
      .object [("owner", .object [("title", .string "c"), ("list", .string "d")])]])]

/-- Nested items are not lost. -/
theorem rebuild_of_run_nestedItems :
    nestedItems.Distinct ∧ nestedItems.Plain ∧
      ∃ p, run "root" nestedItems "" ⟨.union, true⟩ = .ok p ∧
        (p.root.rebuild p.registry).Distinct ∧
          (p.root.rebuild p.registry).same nestedItems = true := by
  have hdistinct : nestedItems.Distinct := by
    simp [nestedItems, Json.Distinct, Json.DistinctItems, Json.DistinctMembers]
  have hplain : nestedItems.Plain := by
    simp [nestedItems, Json.Plain, Json.PlainItems, Json.PlainMembers]
    decide
  have hok : (run "root" nestedItems "" ⟨.union, true⟩).isOk = true := by decide +kernel
  obtain ⟨p, hp⟩ := Chain.exists_of_isOk hok
  exact ⟨hdistinct, hplain, p, hp, rebuild_of_run hdistinct hplain hp⟩

end Pipeline

end DocSchema
