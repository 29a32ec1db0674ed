import DocSchema.Proofs.Entity.Building
import DocSchema.Proofs.Inference.WellFormed

/-!
# Elements and parts

The member of a relationship is looked up by the key that the relationship was seen under and then
by the name of its store, while inference went by the keys of the document. `elements_eq_parts`
brings the two together: the elements of an inferred relationship are the parts of one member, which
inference visited under the class that the relationship leads to. So every fragment that becomes an
entity has been visited under its class, whatever shape the class was given in the end.
-/

namespace DocSchema.Materialize

open Inference

/-- The name of the store of a table or a sequence speaks of the class of its name. -/
theorem relatedClassName_storageKey (start name : String) :
    relatedClassName start (start ++ name ++ "s") = name := by
  have hkey : (start ++ name ++ "s").toList = start.toList ++ (name.toList ++ ['s']) := by
    rw [String.toList_append, String.toList_append, List.append_assoc]
    rfl
  rw [relatedClassName, hkey, Text.withoutStart_append, Text.withoutPlural_append]
  exact String.ofList_toList

/-- The name of the store of a table begins like a table. -/
theorem startsWith_storageKey (start name : String) :
    Text.startsWith start (start ++ name ++ "s") = true := by
  rw [Text.startsWith, List.isPrefixOf_iff_prefix, String.toList_append, String.toList_append,
    List.append_assoc]
  exact List.prefix_append _ _

/-- What a member under one of its keys holds for an inferred relationship are the parts of the
member. -/
theorem held_eq_parts {owner : String} {r : Relationship} (hr : r.Inferred owner) {key : String}
    {value : Json} {here : Pointer} (hkey : key = r.jsonKey ∨ key = r.storageKey)
    (h : held r (here.key key) value ≠ []) :
    ∃ s, relationshipOf owner key value = some s ∧ s.name = r.name ∧
      held r (here.key key) value = parts here key value := by
  rw [held.eq_def] at h ⊢
  cases value <;> cases hstorage : r.storage <;> simp only [hstorage, ne_eq, not_true] at h ⊢
  -- The name of the store leads back to the name of the class, as the keys of the document do.
  case array.sequence items =>
    have hname : relatedClassName listStart key = r.name := by
      rcases hkey with rfl | rfl
      · exact (hr.of_sequence hstorage).symm
      · rw [Relationship.storageKey, hstorage]
        exact relatedClassName_storageKey listStart r.name
    refine ⟨listRelationship owner key, rfl, hname, ?_⟩
    rw [parts, hname, hr.target_eq]
  case object.indexed entries field =>
    obtain ⟨hstart, hrelated⟩ := hr.of_indexed field hstorage
    have hname : relatedClassName tableStart key = r.name := by
      rcases hkey with rfl | rfl
      · exact hrelated.symm
      · rw [Relationship.storageKey, hstorage]
        exact relatedClassName_storageKey tableStart r.name
    have htable : Text.startsWith tableStart key = true := by
      rcases hkey with rfl | rfl
      · exact hstart
      · rw [Relationship.storageKey, hstorage]
        exact startsWith_storageKey tableStart r.name
    refine ⟨tableRelationship owner key entries, if_pos htable, hname, ?_⟩
    rw [parts, if_pos htable, hname, hr.target_eq]
  case object.single inner =>
    obtain ⟨hjson, hplain⟩ := hr.of_single hstorage
    have hname : key = r.name := by
      rcases hkey with rfl | rfl
      · exact hjson
      · rw [Relationship.storageKey, hstorage]
    have hnested : ¬ Text.startsWith tableStart key = true := by
      rw [hname, ← hjson, hplain]
      exact Bool.false_ne_true
    refine ⟨nestedRelationship owner key, if_neg hnested, hname, ?_⟩
    rw [parts, if_neg hnested, hr.target_eq, hname]

/-- The elements of an inferred relationship are the parts of one member of the object, which stands
for a relationship of the same name. -/
theorem elements_eq_parts {owner : String} {r : Relationship} (hr : r.Inferred owner)
    {here : Pointer} {members : Members} (h : elements r here members ≠ []) :
    ∃ key value s, members.lookup key = some value ∧ relationshipOf owner key value = some s ∧
      s.name = r.name ∧ elements r here members = held r (here.key key) value ∧
      elements r here members = parts here key value := by
  obtain ⟨key, value, hkey, hvalue, hheld⟩ := exists_held_of_elements_ne_nil h
  obtain ⟨s, hs, hname, hparts⟩ := held_eq_parts hr hkey (hheld ▸ h)
  exact ⟨key, value, s, hvalue, hs, hname, hheld, hheld.trans hparts⟩

/-- An element of an inferred relationship is a part of a member of the object. -/
theorem mem_parts_of_mem_elements {owner : String} {r : Relationship} (hr : r.Inferred owner)
    {here : Pointer} {members : Members} {v : Visit} (hv : v ∈ elements r here members) :
    ∃ key value, (key, value) ∈ members ∧ v ∈ parts here key value := by
  obtain ⟨key, value, _, hvalue, -, -, -, hparts⟩ :=
    elements_eq_parts hr (List.ne_nil_of_mem hv)
  exact ⟨key, value, mem_of_lookup_eq_some hvalue, hparts ▸ hv⟩

/-- A single object is held at the place of its member. -/
theorem held_of_single {r : Relationship} (hr : r.storage = .single) {here : Pointer} {value : Json}
    (h : held r here value ≠ []) : ∃ v, held r here value = [v] ∧ v.place = here := by
  rw [held.eq_def, hr] at h ⊢
  cases value <;> simp only [ne_eq, not_true] at h ⊢
  exact ⟨_, rfl, rfl⟩

/-- The items of an array are held at their places in it. -/
theorem held_of_sequence {r : Relationship} (hr : r.storage = .sequence) {here : Pointer}
    {value : Json} (h : held r here value ≠ []) :
    ∃ items, value = .array items ∧ held r here value =
      items.zipIdx.map fun (item, position) => ⟨r.target, here.index position, item⟩ := by
  rw [held.eq_def, hr] at h ⊢
  cases value <;> simp only [ne_eq, not_true] at h ⊢
  exact ⟨_, rfl, rfl⟩

/-- The entries of a table are held at their places in it. -/
theorem held_of_indexed {r : Relationship} {field : String} (hr : r.storage = .indexed field)
    {here : Pointer} {value : Json} {v : Visit} (hv : v ∈ held r here value) :
    ∃ entry, v.place = here.key entry := by
  rw [held.eq_def, hr] at hv
  cases value <;> simp only [List.not_mem_nil] at hv
  obtain ⟨⟨entry, _⟩, _, rfl⟩ := List.mem_map.1 hv
  exact ⟨entry, rfl⟩

section Visited

variable {rootName : String} {document : Json} {mode : Merge} {reg : Registry}

/-- A visit of the course of a document is of an object. -/
theorem smooth_of_subset (hyields : Yields rootName document mode reg) {v : Visit}
    (hv : v.course ⊆ course rootName .root document) : Smooth v.course :=
  fun failure hfailure => hyields.smooth failure (hv hfailure)

/-- The parts of an object that inference visited have been visited too. -/
theorem part_subset (hyields : Yields rootName document mode reg) {name : String} {here : Pointer}
    {members : Members}
    (hv : (⟨name, here, .object members⟩ : Visit).course ⊆ course rootName .root document)
    {key : String} {value : Json} (hm : (key, value) ∈ members) {w : Visit}
    (hw : w ∈ parts here key value) : w.course ⊆ course rootName .root document :=
  List.Subset.trans (Visit.course_part_subset (smooth_of_subset hyields hv) rfl hm hw) hv

/-- A fragment that inference visited is an object with a shape, and its class is in the registry.
In a union the shape of the class extends that of the object. -/
theorem exists_class (hyields : Yields rootName document mode reg) {name : String} {here : Pointer}
    {fragment : Json}
    (hv : (⟨name, here, fragment⟩ : Visit).course ⊆ course rootName .root document) :
    ∃ members c shape, fragment = .object members ∧ reg.find? name = some c ∧
      c.shape.WellFormed name ∧ shapeFrom name .empty members = .ok shape ∧
      (mode = .union → c.shape.Extends shape) := by
  obtain ⟨members, shape, hobject, hshape, hcourse⟩ :=
    Visit.course_of_smooth (smooth_of_subset hyields hv)
  have henter : .enter name here members ∈ course rootName .root document :=
    hv (hcourse ▸ List.mem_cons_self)
  have hmerge : .merge name shape ∈ course rootName .root document :=
    hv (hcourse ▸ by simp)
  obtain ⟨c, hc⟩ := Registry.contains_iff_exists.1 (hyields.contains _ _ _ henter)
  have hwell := hyields.wellFormed.shapes c (Registry.mem_of_find? hc)
  rw [Registry.name_of_find? hc] at hwell
  refine ⟨members, c, shape, hobject, hc, hwell, hshape, fun hmode => ?_⟩
  obtain ⟨d, hd, hextends⟩ := hyields.union_extends hmode _ _ hmerge
  obtain rfl := Option.some.inj (hc.symm.trans hd)
  exact hextends

/-- What holds of an object that inference visited if it holds of the parts of its members, holds of
every fragment that inference visited. -/
theorem visited_induction (hyields : Yields rootName document mode reg) {P : Visit → Prop}
    (object : ∀ name here members,
      (⟨name, here, .object members⟩ : Visit).course ⊆ course rootName .root document →
      (∀ key value, (key, value) ∈ members → ∀ w ∈ parts here key value, P w) →
        P ⟨name, here, .object members⟩) (v : Visit)
    (hv : v.course ⊆ course rootName .root document) : P v := by
  induction v using visit_induction with
  | other v hobject =>
    obtain ⟨members, _, _, hfragment, -⟩ := exists_class hyields hv
    exact absurd hfragment (hobject members)
  | object name here members ih =>
    exact object name here members hv fun key value hm w hw =>
      ih key value hm w hw (part_subset hyields hv hm hw)

/-- Every fragment that inference visited has an entity in a ready registry of the document. -/
theorem exists_entityOf (hreg : reg.Ready) (hyields : Yields rootName document mode reg)
    (v : Visit) (hv : v.course ⊆ course rootName .root document) :
    ∃ e, entityOf reg v = .ok e := by
  refine visited_induction (P := fun v => ∃ e, entityOf reg v = .ok e) hyields
    (fun name here members hv ih => ?_) v hv
  obtain ⟨_, c, _, hobject, hc, hwell, -⟩ := exists_class hyields hv
  obtain rfl := Json.object.inj hobject
  -- The slots can be filled, because all that they hold are parts of members.
  have hslot : ∀ r ∈ c.shape.relationships, ∃ s, Filled reg here members r s := by
    intro r hr
    have hpart : ∀ w ∈ elements r here members, ∃ d, entityOf reg w = .ok d := by
      intro w hw
      obtain ⟨key, value, hm, hw⟩ := mem_parts_of_mem_elements (hwell.inferred r hr) hw
      exact ih key value hm w hw
    obtain ⟨entities, hentities⟩ := Chain.exists_forall₂ hpart
    exact ⟨_, entities, hentities, rfl⟩
  obtain ⟨slots, hslots⟩ := Chain.exists_forall₂ hslot
  exact ⟨_, (build_eq_ok_iff hreg hc).2 ⟨slots, hslots, rfl⟩⟩

end Visited

end DocSchema.Materialize
