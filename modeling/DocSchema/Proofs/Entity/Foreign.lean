import DocSchema.Proofs.Entity.Changes
import DocSchema.Proofs.Entity.Failing
import DocSchema.Proofs.Inference.Reference

/-!
# Foreign fragments

An inferred registry whose classes are loaded makes entities of any fragment, not of its document
alone, and only two things stop it (`Obstacle`): what is to become an entity, the fragment itself or
an element of an array or table, is no object, or an array or table has elements of a class that was
never inferred. `materialize_foreign` says that every failure is that of an obstacle and that an
entity is made exactly where there is none.

That nothing else stops it rests on what is known of the registry. Every class is loaded, an entity
has a slot for each relationship of its class while it is built (`Entity.Slotted`), and the class of
a single object is always there (`Registry.SinglesKnown`), since such a relationship is inferred
from an object.
-/

namespace DocSchema

/-- An entity has a slot for each of some relationships. -/
def Entity.Slotted (relationships : List Relationship) (e : Entity) : Prop :=
  ∀ r ∈ relationships, ∃ s, e.slot? r.name = some s ∧ s.target = r.target

namespace Entity.Slotted

variable {relationships : List Relationship} {e : Entity}

/-- A new entity of a bound class has the slots of the class. -/
theorem of_construct {c : EntityClass} {b : Binding} {parameters : Parameters} (hb : c.Bound b)
    (hnodup : (c.shape.relationships.map Relationship.name).Nodup)
    (h : b.construct parameters = .ok e) : e.Slotted c.shape.relationships := by
  intro r hr
  refine ⟨.ofRelationship r, ?_, rfl⟩
  have hfind : c.shape.relationships.find? (·.name == r.name) = some r :=
    find?_of_nodup_map hnodup hr
  rw [Binding.slot?_of_construct h, hb.relationships_eq, hfind]
  rfl

/-- An entity that has been added to leaves the slots where they are. -/
theorem add (h : e.Slotted relationships) {name : String} {item added : Entity}
    (hadd : e.add name item = .ok added) : added.Slotted relationships := by
  intro r hr
  obtain ⟨s, hs, htarget⟩ := h r hr
  obtain ⟨t, ht, hput⟩ := Chain.bind_eq_ok_iff.1 hadd
  have hslot := slot_eq_ok_iff.1 ht
  split at hput
  · obtain rfl := Except.ok.inj hput
    have hname : (t.insert item).name = name :=
      (Slot.name_insert t item).trans (name_of_slot? hslot)
    rw [slot?_withSlot hslot hname]
    split
    · next heq =>
      obtain rfl : t = s := Option.some.inj (hslot.symm.trans (heq ▸ hs))
      exact ⟨_, rfl, (Slot.target_insert t item).trans htarget⟩
    · exact ⟨s, hs, htarget⟩
  · cases hput

/-- An entity with the slot of a relationship takes an entity of the class that it leads to. -/
theorem exists_add (h : e.Slotted relationships) {r : Relationship} (hr : r ∈ relationships)
    {item : Entity} (hitem : item.className = r.target) :
    ∃ added, e.add r.name item = .ok added := by
  obtain ⟨s, hs, htarget⟩ := h r hr
  exact ⟨_, Chain.bind_eq_ok_iff.2
    ⟨s, slot_eq_ok_iff.2 hs, if_pos (hitem.trans htarget.symm)⟩⟩

end Entity.Slotted

namespace Materialize

open Inference

/-- The member of a relationship is an array or a table, as the relationship has it, and not
empty. -/
inductive HoldsMany (r : Relationship) (members : Members) : Prop where
  /-- An array. -/
  | items {key : String} {items : List Json} (hstorage : r.storage = .sequence)
    (hkey : memberKey? r members = some key) (hvalue : members.lookup key = some (.array items))
    (hne : items ≠ [])
  /-- A table. -/
  | entries {field key : String} {entries : Members} (hstorage : r.storage = .indexed field)
    (hkey : memberKey? r members = some key) (hvalue : members.lookup key = some (.object entries))
    (hne : entries ≠ [])

/-- A member holds many if and only if it has elements, of a relationship that is not single. -/
theorem holdsMany_iff {r : Relationship} {here : Pointer} {members : Members} :
    HoldsMany r members ↔ r.storage ≠ .single ∧ elements r here members ≠ [] := by
  constructor
  · rintro (⟨hstorage, hkey, hvalue, hne⟩ | ⟨hstorage, hkey, hvalue, hne⟩)
    · simpa [hstorage, elements, hkey, hvalue, held] using hne
    · simpa [hstorage, elements, hkey, hvalue, held] using hne
  · rintro ⟨hmany, hne⟩
    rw [elements] at hne
    cases hkey : memberKey? r members with
    | none => simp [hkey] at hne
    | some key =>
      cases hvalue : members.lookup key with
      | none => simp [hkey, hvalue] at hne
      | some value =>
        simp only [hkey, hvalue, Option.elim_some, held.eq_def] at hne
        split at hne
        · next hstorage => exact .items hstorage hkey hvalue (by simpa using hne)
        · next hstorage => exact .entries hstorage hkey hvalue (by simpa using hne)
        · next hstorage => exact absurd hstorage hmany
        · exact absurd rfl hne

/-- The element of a single relationship is an object. -/
theorem exists_object_of_single {r : Relationship} {here : Pointer} {members : Members} {w : Visit}
    (hsingle : r.storage = .single) (hw : w ∈ elements r here members) :
    ∃ inner, w.fragment = .object inner := by
  obtain ⟨key, value, -, -, heq⟩ := exists_held_of_elements_ne_nil (List.ne_nil_of_mem hw)
  rw [heq, held.eq_def, hsingle] at hw
  cases value with
  | object inner =>
    obtain rfl := List.mem_singleton.1 hw
    exact ⟨inner, rfl⟩
  | _ => cases hw

/-- What stops the building of the entity of a fragment where all classes are loaded. -/
inductive Obstacle (reg : Registry) (v : Visit) : Failure → Prop where
  /-- The fragment itself is no object. -/
  | whole (hkind : ∀ members, v.fragment ≠ .object members) :
    Obstacle reg v (.unsupportedFragment v.name v.place v.fragment.kindName)
  /-- An element of an array or table that the building comes to is no object. -/
  | element {u w : Visit} {members : Members} {c : EntityClass} {r : Relationship}
    (hu : Reaches reg v u) (hobject : u.fragment = .object members)
    (hc : reg.find? u.name = some c) (hr : r ∈ c.shape.relationships)
    (htarget : reg.contains r.target = true) (hmany : HoldsMany r members)
    (hw : w ∈ elements r u.place members) (hkind : ∀ inner, w.fragment ≠ .object inner) :
    Obstacle reg v (.unsupportedFragment w.name w.place w.fragment.kindName)
  /-- The class of the elements of an array or table that the building comes to is missing. -/
  | target {u : Visit} {members : Members} {c : EntityClass} {r : Relationship}
    (hu : Reaches reg v u) (hobject : u.fragment = .object members)
    (hc : reg.find? u.name = some c) (hr : r ∈ c.shape.relationships)
    (hmissing : reg.contains r.target = false) (hmany : HoldsMany r members) :
    Obstacle reg v (.classNotFound r.target (some r.name))

variable {reg : Registry}

/-- An obstacle that an element of a relationship comes to is one of the object. -/
theorem Obstacle.of_element {v w : Visit} {members : Members} {c : EntityClass} {r : Relationship}
    {failure : Failure} (hobject : v.fragment = .object members) (hc : reg.find? v.name = some c)
    (hr : r ∈ c.shape.relationships) (htarget : reg.contains r.target = true)
    (hw : w ∈ elements r v.place members) (h : Obstacle reg w failure) :
    Obstacle reg v failure := by
  cases h with
  | whole hkind =>
    -- The element is no object, so that the relationship is not single.
    have hmany : r.storage ≠ .single := by
      intro hsingle
      obtain ⟨inner, hinner⟩ := exists_object_of_single hsingle hw
      exact hkind inner hinner
    exact .element (.self v) hobject hc hr htarget
      (holdsMany_iff.2 ⟨hmany, List.ne_nil_of_mem hw⟩) hw hkind
  | element hu hobject' hc' hr' htarget' hmany' hw' hkind' =>
    exact .element (.element hobject hc hr hw hu) hobject' hc' hr' htarget' hmany' hw' hkind'
  | target hu hobject' hc' hr' hmissing hmany' =>
    exact .target (.element hobject hc hr hw hu) hobject' hc' hr' hmissing hmany'

/-- In a ready registry, adding the entities of elements to an entity with their slot fails because
their class is missing or because one of them has no entity. -/
theorem gather_eq_error_of_slotted (hreg : reg.Ready) {r : Relationship}
    {relationships : List Relationship} (hr : r ∈ relationships) {e : Entity}
    (he : e.Slotted relationships) {here : Pointer} {members : Members} {failure : Failure}
    (h : gather reg r e (elements r here members) = .error failure) :
    (reg.contains r.target = false ∧ elements r here members ≠ [] ∧
        failure = .classNotFound r.target (some r.name)) ∨
      (reg.contains r.target = true ∧
        ∃ w ∈ elements r here members, entityOf reg w = .error failure) := by
  rw [gather] at h
  split at h
  · cases h
  · next hne =>
    rcases Chain.bind_eq_error_iff.1 h with htarget | ⟨_, htarget, hadd⟩
    · rw [requireTarget] at htarget
      split at htarget
      · cases htarget
      · next hmissing =>
        exact .inl ⟨by simpa using hmissing, by simpa using hne, (Except.error.inj htarget).symm⟩
    · have hthere : reg.contains r.target = true := by
        rw [requireTarget] at htarget
        by_contra hmissing
        rw [if_neg hmissing] at htarget
        cases htarget
      -- An entity of the class is taken, so only the entity itself can fail.
      obtain ⟨d, hd, w, hw, hstep⟩ := Chain.exists_error_of_invariant
        (P := fun d : Entity => d.Slotted relationships) (fun d w d' _ hd hstep => by
          obtain ⟨item, -, hitem⟩ := Chain.bind_eq_ok_iff.1 hstep
          exact hd.add hitem) he hadd
      rcases Chain.bind_eq_error_iff.1 hstep with hentity | ⟨item, hitem, hfail⟩
      · exact .inr ⟨hthere, w, hw, hentity⟩
      · have hclass : item.className = r.target :=
          (className_of_entityOf hreg hitem).trans (name_of_mem_elements hw)
        obtain ⟨added, hadded⟩ := hd.exists_add hr hclass
        cases hadded.symm.trans hfail

/-- Adding entities to a relationship leaves the slots where they are. -/
theorem slotted_of_gather {r : Relationship} {relationships : List Relationship}
    {e gathered : Entity} (he : e.Slotted relationships) {visits : List Visit}
    (h : gather reg r e visits = .ok gathered) : gathered.Slotted relationships := by
  rw [gather] at h
  split at h
  · exact Except.ok.inj h ▸ he
  · obtain ⟨_, -, hadd⟩ := Chain.bind_eq_ok_iff.1 h
    refine Chain.foldlM_invariant (P := fun d : Entity => d.Slotted relationships)
      (fun d v d' _ hd hstep => ?_) he hadd
    obtain ⟨item, -, hitem⟩ := Chain.bind_eq_ok_iff.1 hstep
    exact hd.add hitem

/-- The class of every single object is in a registry. -/
def SinglesKnown (reg : Registry) : Prop :=
  ∀ c ∈ reg.classes, ∀ r ∈ c.shape.relationships, r.storage = .single →
    reg.contains r.target = true

/-- In a ready registry with the classes of single objects, building fails because of an
obstacle. -/
theorem obstacle_of_entityOf (hreg : reg.Ready) (hsingles : SinglesKnown reg) {v : Visit}
    (hv : reg.contains v.name = true) {failure : Failure}
    (h : entityOf reg v = .error failure) : Obstacle reg v failure := by
  induction v using elements_induction with
  | step v ih =>
    obtain ⟨c, hc⟩ := Registry.contains_iff_exists.1 hv
    have hmem := Registry.mem_of_find? hc
    obtain ⟨b, hb⟩ := hreg.bound c hmem
    by_cases hobject : ∃ members, v.fragment = .object members
    · obtain ⟨members, hobject⟩ := hobject
      have hdistinct := (hreg.wellFormed.shapes c hmem).distinct
      have hconstruct := Binding.construct_eq hb hdistinct.of_append_left members
      rw [entityOf_object hc hb.binding_eq hobject] at h
      rcases Chain.bind_eq_error_iff.1 h with hfail | ⟨e, he, hgather⟩
      · cases hconstruct.symm.trans hfail
      · obtain ⟨d, hd, r, hr, hstep⟩ := Chain.exists_error_of_invariant
          (P := fun e : Entity => e.Slotted c.shape.relationships)
          (fun e r e' _ he hstep => slotted_of_gather he hstep)
          (Entity.Slotted.of_construct hb hdistinct.of_append_right he) hgather
        rcases gather_eq_error_of_slotted hreg hr hd hstep with
          ⟨hmissing, hne, rfl⟩ | ⟨htarget, w, hw, hentity⟩
        · have hmany : r.storage ≠ .single := by
            intro hsingle
            cases hmissing.symm.trans (hsingles c hmem r hr hsingle)
          exact .target (.self v) hobject hc hr hmissing (holdsMany_iff.2 ⟨hmany, hne⟩)
        · have hname : reg.contains w.name = true := by rwa [name_of_mem_elements hw]
          exact (ih members r hobject w hw hname hentity).of_element hobject hc hr htarget hw
    · have hkind := not_exists.1 hobject
      rw [entityOf_of_not_object hc hb.binding_eq hkind] at h
      exact Except.error.inj h ▸ .whole hkind

/-- Where an object has an entity, every element of its relationships has one. -/
theorem exists_entityOf_of_element (hreg : reg.Ready) {v w : Visit} {members : Members}
    {c : EntityClass} {r : Relationship} (hobject : v.fragment = .object members)
    (hc : reg.find? v.name = some c) (hr : r ∈ c.shape.relationships)
    (hw : w ∈ elements r v.place members) {e : Entity} (h : entityOf reg v = .ok e) :
    ∃ d, entityOf reg w = .ok d := by
  rw [entityOf, hobject, build_eq_ok_iff hreg hc] at h
  obtain ⟨slots, hslots, -⟩ := h
  obtain ⟨s, -, entities, hentities, -⟩ := Chain.exists_of_mem_right hslots.flip hr
  obtain ⟨d, -, hd⟩ := Chain.exists_of_mem_right hentities.flip hw
  exact ⟨d, hd⟩

/-- Where a fragment has an entity, every fragment that the building comes to has one. -/
theorem exists_entityOf_of_reaches (hreg : reg.Ready) {v u : Visit} (hu : Reaches reg v u)
    {e : Entity} (h : entityOf reg v = .ok e) : ∃ d, entityOf reg u = .ok d := by
  induction hu generalizing e with
  | self v => exact ⟨e, h⟩
  | element hobject hc hr hw _ ih =>
    obtain ⟨d, hd⟩ := exists_entityOf_of_element hreg hobject hc hr hw h
    exact ih hd

/-- Where there is an obstacle no entity is made. -/
theorem Obstacle.entityOf_ne_ok (hreg : reg.Ready) {v : Visit} {failure : Failure}
    (hobstacle : Obstacle reg v failure) (e : Entity) : entityOf reg v ≠ .ok e := by
  intro h
  cases hobstacle with
  | whole hkind => exact Materialize.entityOf_ne_ok hkind e h
  | element hu hobject hc hr _ _ hw hkind =>
    obtain ⟨d, hd⟩ := exists_entityOf_of_reaches hreg hu h
    obtain ⟨item, hitem⟩ := exists_entityOf_of_element hreg hobject hc hr hw hd
    exact Materialize.entityOf_ne_ok hkind item hitem
  | target hu hobject hc hr hmissing hmany =>
    obtain ⟨d, hd⟩ := exists_entityOf_of_reaches hreg hu h
    obtain ⟨w, hw⟩ := List.exists_mem_of_ne_nil _ (holdsMany_iff.1 hmany).2
    obtain ⟨item, hitem⟩ := exists_entityOf_of_element hreg hobject hc hr hw hd
    have hthere := contains_of_entityOf hitem
    rw [name_of_mem_elements hw, hmissing] at hthere
    cases hthere

/-- An inferred registry that is loaded has the class of every single object. -/
theorem singlesKnown_of_shapes_eq {rootName classNamespace : String} {document : Json}
    {mode : Merge} {inferred : Registry}
    (h : Registry.inferDocument rootName document classNamespace mode = .ok inferred)
    (hreg : reg.WellFormed) (hshapes : ∀ name, (reg.find? name).map EntityClass.shape =
      (inferred.find? name).map EntityClass.shape) : SinglesKnown reg := by
  have hnames : ∀ name, inferred.contains name = reg.contains name := by
    intro name
    have hsame := congrArg Option.isSome (hshapes name)
    simpa [Registry.contains] using hsame.symm
  intro c hc r hr hsingle
  have hfind := hshapes c.name
  rw [Registry.find?_eq_some_of_mem hreg.nodup hc, Option.map_some, eq_comm,
    Option.map_eq_some_iff] at hfind
  obtain ⟨d, hd, hshape⟩ := hfind
  rw [← hnames]
  exact contains_of_single h (Registry.mem_of_find? hd) (hshape ▸ hr) hsingle

/-- In the registry of a document, with the code of all classes generated and loaded by a new
loader, every class takes any fragment. What fails is stopped by an obstacle, and an entity is made
if and only if there is none: no class that is not loaded, no unknown attribute or relationship and
no entity of another class stops it. -/
theorem materialize_foreign {rootName classNamespace : String} {document : Json} {mode : Merge}
    {inferred : Registry}
    (h : Registry.inferDocument rootName document classNamespace mode = .ok inferred) (stamp : ℕ) :
    ∃ loaded, (Loader.new stamp).loadAll (Source.generateAll inferred).1 = (loaded, .ok ()) ∧
      ∀ name, inferred.contains name = true → ∀ fragment,
        (∀ failure, loaded.registry.materialize name fragment = .error failure →
          Obstacle loaded.registry (.whole name fragment) failure) ∧
        ((∃ e, loaded.registry.materialize name fragment = .ok e) ↔
          ∀ failure, ¬ Obstacle loaded.registry (.whole name fragment) failure) := by
  have hyields := yields_of_inferDocument h
  obtain ⟨loaded, hload, hready, -, hshapes⟩ := Loader.ready_of_loadAll stamp hyields.wellFormed
  have hsingles := singlesKnown_of_shapes_eq h hready.wellFormed hshapes
  refine ⟨loaded, hload, fun name hname fragment => ?_⟩
  have hthere : loaded.registry.contains (Visit.whole name fragment).name = true := by
    rw [← hname]
    have hsame := congrArg Option.isSome (hshapes name)
    simpa [Registry.contains, Visit.whole] using hsame
  have herror : ∀ failure, loaded.registry.materialize name fragment = .error failure →
      Obstacle loaded.registry (.whole name fragment) failure :=
    fun failure => obstacle_of_entityOf (v := .whole name fragment) hready hsingles hthere
  refine ⟨herror, ?_, ?_⟩
  · rintro ⟨e, he⟩ failure hobstacle
    exact hobstacle.entityOf_ne_ok hready e he
  · intro hnone
    cases hbuild : loaded.registry.materialize name fragment with
    | ok e => exact ⟨e, rfl⟩
    | error failure => exact absurd (herror failure hbuild) (hnone failure)

/-- A document with an array that says nothing of its items and with one that does. -/
def sparseLists : Json :=
  .object [("nodes", .array []), ("kinds", .array [.object [("id", .null)]])]

/-- An object that has items for the first array, under the key of its store. -/
def storedNodes : Json := .object [("id", .null), ("liste_nodes", .array [.null])]

/-- An object with an item of the second array that is no object. -/
def bareKind : Json := .object [("kinds", .array [.object [], .bool true]), ("nodes", .array [])]

/-- An object whose members fit nothing. -/
def otherMembers : Json := .object [("kinds", .string "x"), ("nodes", .object [("a", .null)])]

/-- The first object is stopped by the class that was not inferred, the second by the item that is
no object, and nothing stops the third. -/
theorem materialize_foreign_sparseLists : ∃ inferred loaded,
    Registry.inferDocument "root" sparseLists "" .union = .ok inferred ∧
      (Loader.new 0).loadAll (Source.generateAll inferred).1 = (loaded, .ok ()) ∧
      Obstacle loaded.registry (.whole "root" storedNodes) (.classNotFound "node" (some "node")) ∧
      Obstacle loaded.registry (.whole "root" bareKind)
        (.unsupportedFragment "kind" ((Pointer.root.key "kinds").index 1) "a boolean") ∧
      ∀ failure, ¬ Obstacle loaded.registry (.whole "root" otherMembers) failure := by
  have hcheck : (Registry.inferDocument "root" sparseLists "" .union).toOption.any (fun inferred =>
      let reg := ((Loader.new 0).loadAll (Source.generateAll inferred).1).1.registry
      decide (inferred.contains "root" = true ∧
        Chain.failure? (reg.materialize "root" storedNodes) =
          some (.classNotFound "node" (some "node")) ∧
        Chain.failure? (reg.materialize "root" bareKind) =
          some (.unsupportedFragment "kind" ((Pointer.root.key "kinds").index 1) "a boolean") ∧
        (reg.materialize "root" otherMembers).isOk = true)) = true := by
    decide +kernel
  obtain ⟨inferred, hinferred, htest⟩ := Chain.exists_of_any hcheck
  obtain ⟨hroot, hnodes, hkind, hother⟩ := of_decide_eq_true htest
  obtain ⟨loaded, hload, hforeign⟩ := materialize_foreign hinferred 0
  rw [hload] at hnodes hkind hother
  refine ⟨inferred, loaded, hinferred, hload, ?_, ?_, ?_⟩
  · exact (hforeign "root" hroot storedNodes).1 _ (Chain.failure?_eq_some_iff.1 hnodes)
  · exact (hforeign "root" hroot bareKind).1 _ (Chain.failure?_eq_some_iff.1 hkind)
  · exact (hforeign "root" hroot otherMembers).2.1 (Chain.exists_of_isOk hother)

end Materialize

end DocSchema
