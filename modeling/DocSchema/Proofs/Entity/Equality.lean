import DocSchema.Proofs.Entity.Changes
import DocSchema.Proofs.Json.Same

/-!
# Equal entities

Entities are compared attribute by attribute and slot by slot, the entities of a slot in order and
those of a table key by key (`Entity.same_iff`, `Entity.sameSlot_iff_items`,
`Entity.sameSlot_iff_entries`). The comparison goes from one side to the other, so that it is an
equivalence only where no key comes twice, neither in a table nor in an object of a value. That is
so in `Tidy` entities (`Tidy.same_refl`, `Tidy.same_symm`, `Tidy.same_trans`). All that the
operations on entities make is tidy (`Made.tidy`), and they make what becomes of fragments
(`Materialize.made_of_materialize`).
-/

namespace DocSchema

namespace Entity

/-- Attributes are equal if and only if their names and values are, one by one. -/
theorem sameAttributes_iff {attributes others : List (String × Option Json)} :
    sameAttributes attributes others = true ↔
      List.Forall₂ (fun p q => p.1 = q.1 ∧ sameValue p.2 q.2 = true) attributes others := by
  induction attributes generalizing others with
  | nil => cases others <;> simp [sameAttributes]
  | cons p rest ih => cases others <;> simp [sameAttributes, ih]

/-- Entities in order are equal if and only if they are, one by one. -/
theorem sameItems_iff {items others : List Entity} :
    sameItems items others = true ↔ List.Forall₂ (fun e d => e.same d = true) items others := by
  induction items generalizing others with
  | nil => cases others <;> simp [sameItems]
  | cons e rest ih => cases others <;> simp [sameItems, ih]

/-- Slots in order are equal if and only if they are, one by one. -/
theorem sameSlots_iff {slots others : List Slot} :
    sameSlots slots others = true ↔ List.Forall₂ (fun s t => sameSlot s t = true) slots others := by
  induction slots generalizing others with
  | nil => cases others <;> simp [sameSlots]
  | cons s rest ih => cases others <;> simp [sameSlots, ih]

/-- The entities of a table are among those of another one if and only if each of them is equal to
the one under its key. -/
theorem sameEntries_iff {field : String} {items others : List Entity} :
    sameEntries field items others = true ↔
      ∀ e ∈ items, ∃ d, others.find? (fun d => d.keyOf field == e.keyOf field) = some d ∧
        e.same d = true := by
  induction items with
  | nil => simp [sameEntries]
  | cons e rest ih =>
    rw [sameEntries, Bool.and_eq_true, ih, List.forall_mem_cons]
    refine and_congr_left fun _ => ?_
    cases others.find? fun d => d.keyOf field == e.keyOf field <;> simp

/-- Entities are equal if and only if their classes, attributes and slots are. -/
theorem same_iff {e d : Entity} : e.same d = true ↔ e.className = d.className ∧
    sameAttributes e.attributes d.attributes = true ∧ sameSlots e.slots d.slots = true := by
  cases e
  cases d
  simp [same, className, attributes, slots, and_assoc]

/-- Two slots that are no tables are equal if and only if they are slots of one relationship with
equal entities in order. -/
theorem sameSlot_iff_items {s t : Slot} (hs : s.storage.indexField? = none) :
    sameSlot s t = true ↔ s.name = t.name ∧ s.target = t.target ∧ s.storage = t.storage ∧
      sameItems s.items t.items = true := by
  obtain ⟨name, target, storage, items⟩ := s
  obtain ⟨otherName, otherTarget, otherStorage, others⟩ := t
  cases storage with
  | indexed field => cases hs
  | _ => simp [sameSlot, Slot.name, Slot.target, Slot.storage, Slot.items, and_assoc]

/-- Two tables are equal if and only if they are slots of one relationship and of one size, and the
entities of the first are among those of the second. -/
theorem sameSlot_iff_entries {s t : Slot} {field : String} (hs : s.storage = .indexed field) :
    sameSlot s t = true ↔ s.name = t.name ∧ s.target = t.target ∧ s.storage = t.storage ∧
      s.items.length = t.items.length ∧ sameEntries field s.items t.items = true := by
  obtain ⟨name, target, storage, items⟩ := s
  obtain ⟨otherName, otherTarget, otherStorage, others⟩ := t
  obtain rfl : storage = .indexed field := hs
  simp [sameSlot, Slot.name, Slot.target, Slot.storage, Slot.items, and_assoc]

/-- Equal slots have one name. -/
theorem name_eq_of_sameSlot {s t : Slot} (h : sameSlot s t = true) : s.name = t.name := by
  cases hs : s.storage with
  | indexed field => exact ((sameSlot_iff_entries hs).1 h).1
  | _ => exact ((sameSlot_iff_items (by rw [hs]; rfl)).1 h).1

end Entity

/-- An entity whose values have no key twice, and whose slots fit relationships and hold such
entities. -/
inductive Entity.Tidy : Entity → Prop where
  /-- The values and slots are in order, and so are the entities in the slots. -/
  | intro {e : Entity} (hvalues : ∀ name v, (name, some v) ∈ e.attributes → v.Distinct)
    (hslots : ∀ s ∈ e.slots, ∃ r, FitsRelationship r s)
    (hitems : ∀ s ∈ e.slots, ∀ item ∈ s.items, Entity.Tidy item) : Entity.Tidy e

namespace Entity

section Value

variable {a b c : Option Json}

/-- A value that may be absent is equal to itself. -/
theorem sameValue_refl (ha : ∀ v, a = some v → v.Distinct) : sameValue a a = true := by
  cases a with
  | none => rfl
  | some v => exact Json.same_refl (ha v rfl)

/-- A value that may be absent is equal to those that are equal to it. -/
theorem sameValue_symm (ha : ∀ v, a = some v → v.Distinct) (h : sameValue a b = true) :
    sameValue b a = true := by
  cases a with
  | none => cases b with
    | none => rfl
    | some w => cases h
  | some v => cases b with
    | none => cases h
    | some w => exact Json.same_symm (ha v rfl) h

/-- Values that may be absent are equal if they are equal to one. -/
theorem sameValue_trans (h : sameValue a b = true) (hc : sameValue b c = true) :
    sameValue a c = true := by
  cases a with
  | none => cases b with
    | none => exact hc
    | some w => cases h
  | some v => cases b with
    | none => cases h
    | some w => cases c with
      | none => cases hc
      | some x => exact Json.same_trans h hc

end Value

section Slots

variable {s t u : Slot}

/-- A slot that fits a relationship is equal to itself, if its entities are. -/
theorem sameSlot_refl {r : Relationship} (hs : FitsRelationship r s)
    (h : ∀ e ∈ s.items, e.same e = true) : sameSlot s s = true := by
  cases hr : s.storage with
  | indexed field =>
    have hkeys := hs.indexed field (hs.storage_eq.symm.trans hr)
    refine (sameSlot_iff_entries hr).2 ⟨rfl, rfl, rfl, rfl, sameEntries_iff.2 fun e he => ?_⟩
    exact ⟨e, find?_of_nodup_map hkeys he, h e he⟩
  | _ =>
    refine (sameSlot_iff_items (by rw [hr]; rfl)).2 ⟨rfl, rfl, rfl, ?_⟩
    exact sameItems_iff.2 (List.forall₂_same.2 h)

/-- A slot that fits a relationship is equal to those that are equal to it, if that holds of its
entities. -/
theorem sameSlot_symm {r : Relationship} (hs : FitsRelationship r s)
    (h : ∀ e ∈ s.items, ∀ d, e.same d = true → d.same e = true) (hst : sameSlot s t = true) :
    sameSlot t s = true := by
  cases hr : s.storage with
  | indexed field =>
    have hkeys := hs.indexed field (hs.storage_eq.symm.trans hr)
    obtain ⟨hname, htarget, hstorage, hlength, hentries⟩ := (sameSlot_iff_entries hr).1 hst
    have hpartners : ∀ e ∈ s.items, ∃ d ∈ t.items, d.keyOf field = e.keyOf field ∧
        e.same d = true := by
      intro e he
      obtain ⟨d, hd, hsame⟩ := sameEntries_iff.1 hentries e he
      exact ⟨d, List.mem_of_find?_eq_some hd, by simpa using List.find?_some hd, hsame⟩
    obtain ⟨-, hback⟩ := exists_partner_of_nodup_map hkeys hlength.symm.le hpartners
    refine (sameSlot_iff_entries (hstorage.symm.trans hr)).2
      ⟨hname.symm, htarget.symm, hstorage.symm, hlength.symm, sameEntries_iff.2 fun d hd => ?_⟩
    obtain ⟨e, he, hkey, hsame⟩ := hback d hd
    exact ⟨e, hkey ▸ find?_of_nodup_map hkeys he, h e he d hsame⟩
  | _ =>
    have hnone : s.storage.indexField? = none := by rw [hr]; rfl
    obtain ⟨hname, htarget, hstorage, hitems⟩ := (sameSlot_iff_items hnone).1 hst
    refine (sameSlot_iff_items (hstorage ▸ hnone)).2
      ⟨hname.symm, htarget.symm, hstorage.symm, sameItems_iff.2 ?_⟩
    exact Chain.forall₂_flip_of_mem (sameItems_iff.1 hitems) h

/-- Slots that are equal to one slot are equal, if that holds of the entities of the first. -/
theorem sameSlot_trans
    (h : ∀ e ∈ s.items, ∀ d f, e.same d = true → d.same f = true → e.same f = true)
    (hst : sameSlot s t = true) (htu : sameSlot t u = true) : sameSlot s u = true := by
  cases hr : s.storage with
  | indexed field =>
    obtain ⟨hname, htarget, hstorage, hlength, hentries⟩ := (sameSlot_iff_entries hr).1 hst
    obtain ⟨hname', htarget', hstorage', hlength', hentries'⟩ :=
      (sameSlot_iff_entries (hstorage.symm.trans hr)).1 htu
    refine (sameSlot_iff_entries hr).2 ⟨hname.trans hname', htarget.trans htarget',
      hstorage.trans hstorage', hlength.trans hlength', sameEntries_iff.2 fun e he => ?_⟩
    obtain ⟨d, hd, hed⟩ := sameEntries_iff.1 hentries e he
    obtain ⟨f, hf, hdf⟩ := sameEntries_iff.1 hentries' d (List.mem_of_find?_eq_some hd)
    have hkey : d.keyOf field = e.keyOf field := by simpa using List.find?_some hd
    exact ⟨f, hkey ▸ hf, h e he d f hed hdf⟩
  | _ =>
    have hnone : s.storage.indexField? = none := by rw [hr]; rfl
    obtain ⟨hname, htarget, hstorage, hitems⟩ := (sameSlot_iff_items hnone).1 hst
    obtain ⟨hname', htarget', hstorage', hitems'⟩ := (sameSlot_iff_items (hstorage ▸ hnone)).1 htu
    refine (sameSlot_iff_items hnone).2 ⟨hname.trans hname', htarget.trans htarget',
      hstorage.trans hstorage', sameItems_iff.2 ?_⟩
    exact Chain.forall₂_trans_of_mem (sameItems_iff.1 hitems) (sameItems_iff.1 hitems') h

end Slots

namespace Tidy

variable {e d f : Entity}

/-- A tidy entity is equal to itself. -/
theorem same_refl (he : e.Tidy) : e.same e = true := by
  induction he with
  | @intro e hvalues hslots hitems ih =>
    refine same_iff.2 ⟨rfl, sameAttributes_iff.2 (List.forall₂_same.2 fun p hp => ?_),
      sameSlots_iff.2 (List.forall₂_same.2 fun s hs => ?_)⟩
    · exact ⟨rfl, sameValue_refl fun v hv => hvalues p.1 v (hv ▸ hp)⟩
    · obtain ⟨r, hr⟩ := hslots s hs
      exact sameSlot_refl hr (ih s hs)

/-- A tidy entity is equal to those that are equal to it. -/
theorem same_symm (he : e.Tidy) (h : e.same d = true) : d.same e = true := by
  induction he generalizing d with
  | @intro e hvalues hslots hitems ih =>
    obtain ⟨hclass, hattributes, hsame⟩ := same_iff.1 h
    refine same_iff.2 ⟨hclass.symm, sameAttributes_iff.2 ?_, sameSlots_iff.2 ?_⟩
    · refine Chain.forall₂_flip_of_mem (sameAttributes_iff.1 hattributes) ?_
      rintro p hp q ⟨hname, hvalue⟩
      exact ⟨hname.symm, sameValue_symm (fun v hv => hvalues p.1 v (hv ▸ hp)) hvalue⟩
    · refine Chain.forall₂_flip_of_mem (sameSlots_iff.1 hsame) fun s hs t hst => ?_
      obtain ⟨r, hr⟩ := hslots s hs
      exact sameSlot_symm hr (fun item hitem d => ih s hs item hitem) hst

/-- A tidy entity is equal to what an entity that is equal to it is equal to. -/
theorem same_trans (he : e.Tidy) (h : e.same d = true) (hf : d.same f = true) :
    e.same f = true := by
  induction he generalizing d f with
  | @intro e hvalues hslots hitems ih =>
    obtain ⟨hclass, hattributes, hsame⟩ := same_iff.1 h
    obtain ⟨hclass', hattributes', hsame'⟩ := same_iff.1 hf
    refine same_iff.2 ⟨hclass.trans hclass', sameAttributes_iff.2 ?_, sameSlots_iff.2 ?_⟩
    · refine Chain.forall₂_trans_of_mem (sameAttributes_iff.1 hattributes)
        (sameAttributes_iff.1 hattributes') ?_
      rintro p - q q' ⟨hname, hvalue⟩ ⟨hname', hvalue'⟩
      exact ⟨hname.trans hname', sameValue_trans hvalue hvalue'⟩
    · refine Chain.forall₂_trans_of_mem (sameSlots_iff.1 hsame) (sameSlots_iff.1 hsame') ?_
      intro s hs t u hst htu
      exact sameSlot_trans (fun item hitem d f => ih s hs item hitem) hst htu

end Tidy

/-- An entity that the operations make: it is constructed and changed by adding entities that are
made so, by removing some and by setting attributes. No value that is given has a key twice. -/
inductive Made : Entity → Prop where
  /-- It is new. -/
  | construct {b : Binding} {parameters : Parameters} {e : Entity}
    (hvalues : ∀ name v, (name, some v) ∈ parameters → v.Distinct)
    (h : b.construct parameters = .ok e) : Made e
  /-- An entity was added to a relationship. -/
  | add {e item changed : Entity} {name : String} (he : Made e) (hitem : Made item)
    (h : e.add name item = .ok changed) : Made changed
  /-- An entity was removed from a relationship. -/
  | remove {e item changed : Entity} {name : String} (he : Made e)
    (h : e.remove name item = .ok changed) : Made changed
  /-- An attribute was set. -/
  | setAttribute {e changed : Entity} {name : String} {value : Option Json} (he : Made e)
    (hvalue : ∀ v, value = some v → v.Distinct) (h : e.setAttribute name value = .ok changed) :
    Made changed

/-- After a slot has been replaced, the slots are those of before and the new one. -/
theorem mem_replaceSlot {name : String} {s t : Slot} {slots : List Slot}
    (h : t ∈ replaceSlot name s slots) : t = s ∨ t ∈ slots := by
  induction slots with
  | nil => cases h
  | cons u rest ih =>
    rw [replaceSlot] at h
    split at h
    · exact (List.mem_cons.1 h).imp id (List.mem_cons_of_mem u)
    · rcases List.mem_cons.1 h with rfl | h
      · exact .inr List.mem_cons_self
      · exact (ih h).imp id (List.mem_cons_of_mem u)

/-- After a value has been replaced, the attributes are those of before and one with the value. -/
theorem mem_replaceValue {name : String} {value : Option Json}
    {attributes : List (String × Option Json)} {p : String × Option Json}
    (h : p ∈ replaceValue name value attributes) : p.2 = value ∨ p ∈ attributes := by
  induction attributes with
  | nil => cases h
  | cons q rest ih =>
    rw [replaceValue] at h
    split at h
    · rcases List.mem_cons.1 h with rfl | h
      · exact .inl rfl
      · exact .inr (List.mem_cons_of_mem q h)
    · rcases List.mem_cons.1 h with rfl | h
      · exact .inr List.mem_cons_self
      · exact (ih h).imp id (List.mem_cons_of_mem q)

namespace Tidy

variable {e item changed : Entity} {name : String}

/-- A tidy entity with another slot that fits a relationship and holds tidy entities is tidy. -/
theorem withSlot (he : e.Tidy) {s : Slot} (hs : ∃ r, FitsRelationship r s)
    (hitems : ∀ item ∈ s.items, item.Tidy) : (e.withSlot name s).Tidy := by
  cases he with
  | intro hvalues hslots hold =>
    obtain ⟨className, attributes, slots⟩ := e
    refine .intro hvalues (fun t ht => ?_) fun t ht => ?_
    · rcases mem_replaceSlot ht with rfl | ht
      · exact hs
      · exact hslots t ht
    · rcases mem_replaceSlot ht with rfl | ht
      · exact hitems
      · exact hold t ht

/-- The slot of a tidy entity fits a relationship and holds tidy entities. -/
theorem exists_fitsRelationship (he : e.Tidy) {s : Slot} (hs : e.slot name = .ok s) :
    (∃ r, FitsRelationship r s) ∧ ∀ item ∈ s.items, item.Tidy := by
  cases he with
  | intro hvalues hslots hitems =>
    have hmem : s ∈ e.slots := List.mem_of_find?_eq_some (slot_eq_ok_iff.1 hs)
    exact ⟨hslots s hmem, hitems s hmem⟩

/-- Adding a tidy entity leaves an entity tidy. -/
theorem add (he : e.Tidy) (hitem : item.Tidy) (h : e.add name item = .ok changed) :
    changed.Tidy := by
  obtain ⟨s, hs, hadd⟩ := Chain.bind_eq_ok_iff.1 h
  obtain ⟨⟨r, hr⟩, hitems⟩ := he.exists_fitsRelationship hs
  split at hadd
  · next hclass =>
    obtain rfl := Except.ok.inj hadd
    refine he.withSlot ⟨r, hr.insert (hclass.trans hr.target_eq)⟩ fun d hd => ?_
    rcases Slot.mem_items_insert hd with rfl | hd
    · exact hitem
    · exact hitems d hd
  · cases hadd

/-- Removing an entity leaves an entity tidy. -/
theorem remove (he : e.Tidy) (h : e.remove name item = .ok changed) : changed.Tidy := by
  obtain ⟨s, hs, hremove⟩ := Chain.bind_eq_ok_iff.1 h
  obtain ⟨⟨r, hr⟩, hitems⟩ := he.exists_fitsRelationship hs
  obtain rfl := Except.ok.inj hremove
  obtain ⟨items, heq, hsub⟩ := s.exists_erase_eq item
  refine he.withSlot ⟨r, hr.erase item⟩ fun d hd => hitems d ?_
  rw [heq, Slot.items_withItems] at hd
  exact hsub.subset hd

/-- Setting an attribute to a value without a key that comes twice leaves an entity tidy. -/
theorem setAttribute (he : e.Tidy) {value : Option Json} (hvalue : ∀ v, value = some v → v.Distinct)
    (h : e.setAttribute name value = .ok changed) : changed.Tidy := by
  have hsame := slots_of_setAttribute h
  cases he with
  | intro hvalues hslots hitems =>
    refine .intro (fun key v hv => ?_) (hsame ▸ hslots) (hsame ▸ hitems)
    obtain ⟨className, attributes, slots⟩ := e
    rw [Entity.setAttribute] at h
    split at h
    · obtain rfl := Except.ok.inj h
      rcases mem_replaceValue hv with hnew | hold
      · exact hvalue v (Option.filter_eq_some_iff.1 hnew.symm).1
      · exact hvalues key v hold
    · cases h

end Tidy

/-- A new entity is tidy. -/
theorem tidy_of_construct {b : Binding} {parameters : Parameters} {e : Entity}
    (hvalues : ∀ name v, (name, some v) ∈ parameters → v.Distinct)
    (h : b.construct parameters = .ok e) : e.Tidy := by
  refine Binding.setAll_invariant (P := Tidy) (fun p hp e changed he hset => ?_)
    (.intro (fun name v hv => ?_) (fun s hs => ?_) fun s hs => ?_) h
  · exact he.setAttribute (fun v hv => hvalues p.1 v (hv ▸ hp)) hset
  · obtain ⟨_, -, heq⟩ := List.mem_map.1 hv
    cases heq
  · obtain ⟨r, -, rfl⟩ := List.mem_map.1 hs
    exact ⟨r, .empty r⟩
  · obtain ⟨r, -, rfl⟩ := List.mem_map.1 hs
    exact nofun

/-- What the operations make is tidy. -/
theorem Made.tidy {e : Entity} (h : e.Made) : e.Tidy := by
  induction h with
  | construct hvalues h => exact tidy_of_construct hvalues h
  | add _ _ h he hitem => exact he.add hitem h
  | remove _ h he => exact he.remove h
  | setAttribute _ hvalue h he => exact he.setAttribute hvalue h

end Entity

namespace Materialize

open Inference

variable {reg : Registry}

/-- Adding what the operations make to a relationship is one of the operations. -/
theorem made_of_gather {r : Relationship} {e gathered : Entity} {visits : List Visit}
    (hvisits : ∀ v ∈ visits, ∀ d, entityOf reg v = .ok d → d.Made) (he : e.Made)
    (h : gather reg r e visits = .ok gathered) : gathered.Made := by
  rw [gather] at h
  split at h
  · exact Except.ok.inj h ▸ he
  · obtain ⟨_, -, hadd⟩ := Chain.bind_eq_ok_iff.1 h
    refine Chain.foldlM_invariant (P := Entity.Made) (fun d v d' hv hd hstep => ?_) he hadd
    obtain ⟨item, hitem, hadded⟩ := Chain.bind_eq_ok_iff.1 hstep
    exact hd.add (hvisits v hv item hitem) hadded

/-- The operations make the entity of a value without a key that comes twice, and those of what it
holds for a relationship. -/
theorem made_of_entityOf {a : Json} (ha : a.Distinct) :
    (∀ name here e, entityOf reg ⟨name, here, a⟩ = .ok e → e.Made) ∧
      ∀ r here, ∀ v ∈ held r here a, ∀ e, entityOf reg v = .ok e → e.Made := by
  induction a using Json.parts_induction with
  | array items ih =>
    refine ⟨fun name here e he => absurd he (entityOf_ne_ok (by simp) e), fun r here v hv => ?_⟩
    rw [held.eq_def] at hv
    cases hstorage : r.storage <;> simp only [hstorage, List.not_mem_nil] at hv
    obtain ⟨⟨item, position⟩, hitem, rfl⟩ := List.mem_map.1 hv
    have hmem : item ∈ items := List.fst_mem_of_mem_zipIdx hitem
    exact (ih item hmem (Json.distinct_array_iff.1 ha item hmem)).1 _ _
  | object members ih =>
    obtain ⟨-, hvalues⟩ := Json.distinct_object_iff.1 ha
    have hwhole : ∀ name here e, entityOf reg ⟨name, here, .object members⟩ = .ok e → e.Made := by
      intro name here e he
      rw [entityOf, build_object] at he
      obtain ⟨c, -, he⟩ := Chain.bind_eq_ok_iff.1 he
      cases hbinding : c.binding with
      | none => simp [hbinding] at he
      | some binding =>
        rw [hbinding] at he
        obtain ⟨start, hstart, hfold⟩ := Chain.bind_eq_ok_iff.1 he
        have hparameters : ∀ name v, (name, some v) ∈ parametersOf c members → v.Distinct := by
          intro name v hv
          obtain ⟨declared, -, heq⟩ := List.mem_map.1 hv
          obtain ⟨-, hlookup⟩ := Prod.mk.inj heq
          exact hvalues _ (mem_of_lookup_eq_some hlookup)
        refine Chain.foldlM_invariant (P := Entity.Made) (fun d r d' _ hd hstep => ?_)
          (.construct hparameters hstart) hfold
        refine made_of_gather (fun v hv => ?_) hd hstep
        obtain ⟨key, value, -, hvalue, heq⟩ :=
          exists_held_of_elements_ne_nil (List.ne_nil_of_mem hv)
        have hmem := mem_of_lookup_eq_some hvalue
        exact (ih _ hmem (hvalues _ hmem)).2 r (here.key key) v (heq ▸ hv)
    refine ⟨hwhole, fun r here v hv => ?_⟩
    rw [held.eq_def] at hv
    cases hstorage : r.storage <;> simp only [hstorage, List.not_mem_nil] at hv
    · obtain rfl := List.mem_singleton.1 hv
      exact hwhole _ _
    · obtain ⟨⟨entry, value⟩, hentry, rfl⟩ := List.mem_map.1 hv
      exact (ih (entry, value) hentry (hvalues _ hentry)).1 _ _
  | scalar a harray hobject =>
    refine ⟨fun name here e he => absurd he (entityOf_ne_ok hobject e), fun r here v hv => ?_⟩
    cases a with
    | array items => exact absurd rfl (harray items)
    | object members => exact absurd rfl (hobject members)
    | _ => cases hstorage : r.storage <;> simp [held] at hv

/-- The operations make every entity that a fragment without a key that comes twice becomes. -/
theorem made_of_materialize {name : String} {fragment : Json} {e : Entity}
    (hfragment : fragment.Distinct) (h : reg.materialize name fragment = .ok e) : e.Made :=
  (made_of_entityOf hfragment).1 name .root e h

end Materialize

end DocSchema
