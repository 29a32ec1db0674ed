import DocSchema.Proofs.Entity.Changes
import DocSchema.Proofs.Record.Basic
import DocSchema.Proofs.Schema.Coherence
import DocSchema.Proofs.Source.Members
import Mathlib.Data.List.Forall2

/-!
# Entities as values of generated structs

The `record` of an entity is the value of the struct of its class with the same contents. An entity
is `Regular` if its attributes and slots are those that its class declares, and so are those of the
entities in its slots. The record of a regular entity has contents of the declared kinds
(`Regular.kind_of_content?`), and the keys of its tables are those of the entity
(`Regular.of_indexKey`); adding a regular entity to a relationship adds its record to the record
(`Regular.add`).
-/

namespace DocSchema

open Source

/-- The kind admits a value. -/
def Kind.Admits (kind : Kind) (value : Json) : Prop := kind = .any ∨ Kind.of? value = some kind

namespace Content

/-- The contents that a value of a kind gives are of the kind. -/
theorem kind_ofJson {kind : Kind} {value : Json} (h : kind.Admits value) :
    (ofJson kind value).kind = kind := by
  rcases h with rfl | h
  · cases value <;> rfl
  · cases value with
    | array items => cases h
    | object members => cases h
    | _ =>
      obtain rfl := Option.some.inj h
      rfl

/-- Contents are shown like the value that gives them. -/
theorem shown_ofJson (kind : Kind) (value : Json) :
    (ofJson kind value).shown = renderValue value := by
  cases value with
  | number n =>
    cases kind with
    | number => exact (renderNumber_eq n).symm
    | _ => rfl
  | bool b => cases kind <;> cases b <;> rfl
  | _ => cases kind <;> rfl

end Content

/-- The field of the relationship of a slot. -/
def Slot.field (s : Slot) : String :=
  fieldName (Relationship.storageKey ⟨s.name, "", s.target, s.storage, ""⟩)

namespace Entity

/-- The fields of the attributes of an entity of a class. -/
def recordValues (c? : Option EntityClass) (attributes : List (String × Option Json)) :
    List (String × Option Content) :=
  attributes.map fun p =>
    (fieldName p.1, p.2.map (Content.ofJson ((c?.bind fun c => c.shape.kind? p.1).getD .any)))

mutual

/-- The value of the generated struct that an entity mirrors. -/
def record (reg : Registry) : Entity → Record
  | mk className attributes slots =>
    .mk (recordValues (reg.find? className) attributes) (recordSlots reg slots)
termination_by structural e => e

/-- The fields of the relationships of an entity. -/
def recordSlots (reg : Registry) : List Slot → List (String × Store)
  | [] => []
  | s :: rest => (s.field, recordSlot reg s) :: recordSlots reg rest
termination_by structural slots => slots

/-- What the field of a relationship holds. -/
def recordSlot (reg : Registry) : Slot → Store
  | .mk _ _ storage items =>
    match storage with
    | .single => .single (recordItems reg items).head?
    | .sequence => .sequence (recordItems reg items)
    | .indexed field => .table (recordEntries reg field items)
termination_by structural s => s

/-- The values that entities mirror, in order. -/
def recordItems (reg : Registry) : List Entity → List Record
  | [] => []
  | e :: rest => record reg e :: recordItems reg rest
termination_by structural items => items

/-- The values that entities mirror, under their keys. -/
def recordEntries (reg : Registry) (field : String) : List Entity → List (String × Record)
  | [] => []
  | e :: rest => (e.keyOf field, record reg e) :: recordEntries reg field rest
termination_by structural items => items

end

end Entity

/-- An attribute of an entity has the name that the class declares and a value of its kind. -/
def HoldsAttribute (a : Attribute) (p : String × Option Json) : Prop :=
  p.1 = a.name ∧ ∀ value, p.2 = some value → value.isNull = false ∧ a.kind.Admits value

/-- An entity has the attributes and slots that its class declares, and so have the entities in its
slots. -/
inductive Regular (reg : Registry) : Entity → Prop where
  /-- The attributes and slots are those of the class, which has a struct. -/
  | mk {c : EntityClass} {attributes : List (String × Option Json)} {slots : List Slot}
    (hc : reg.find? c.name = some c) (hdistinct : c.shape.Distinct)
    (hstruct : (Module.ofClass reg c).IsStruct)
    (hattributes : List.Forall₂ HoldsAttribute c.shape.attributes attributes)
    (hslots : List.Forall₂ FitsRelationship c.shape.relationships slots)
    (hitems : ∀ s ∈ slots, ∀ item ∈ s.items, Regular reg item) :
    Regular reg (.mk c.name attributes slots)

namespace FitsRelationship

variable {r : Relationship} {s : Slot}

/-- The field of a slot is that of the relationship. -/
theorem field_eq (h : FitsRelationship r s) : s.field = fieldName r.storageKey := by
  rw [Slot.field, h.name_eq, h.storage_eq]
  rfl

end FitsRelationship

namespace Entity

/-- The entities of a slot are mirrored one by one. -/
theorem recordItems_eq_map (reg : Registry) (items : List Entity) :
    recordItems reg items = items.map (record reg) := by
  induction items with
  | nil => rfl
  | cons e rest ih => rw [recordItems, ih, List.map_cons]

/-- The entities of a table are mirrored one by one, under their keys. -/
theorem recordEntries_eq_map (reg : Registry) (field : String) (items : List Entity) :
    recordEntries reg field items = items.map fun e => (e.keyOf field, record reg e) := by
  induction items with
  | nil => rfl
  | cons e rest ih => rw [recordEntries, ih, List.map_cons]

/-- The slots of an entity are mirrored one by one. -/
theorem recordSlots_eq_map (reg : Registry) (slots : List Slot) :
    recordSlots reg slots = slots.map fun s => (s.field, recordSlot reg s) := by
  induction slots with
  | nil => rfl
  | cons s rest ih => rw [recordSlots, ih, List.map_cons]

section Stores

variable (reg : Registry) {s : Slot}

/-- The field of a single slot holds what mirrors its entity. -/
theorem recordSlot_of_single (hs : s.storage = .single) :
    recordSlot reg s = .single (s.items.map (record reg)).head? := by
  obtain ⟨name, target, storage, items⟩ := s
  obtain rfl : storage = .single := hs
  rw [recordSlot, recordItems_eq_map]
  rfl

/-- The field of a sequence holds what mirrors its entities. -/
theorem recordSlot_of_sequence (hs : s.storage = .sequence) :
    recordSlot reg s = .sequence (s.items.map (record reg)) := by
  obtain ⟨name, target, storage, items⟩ := s
  obtain rfl : storage = .sequence := hs
  rw [recordSlot, recordItems_eq_map]
  rfl

/-- The field of a table holds what mirrors its entities, under their keys. -/
theorem recordSlot_of_indexed {field : String} (hs : s.storage = .indexed field) :
    recordSlot reg s = .table (s.items.map fun e => (e.keyOf field, record reg e)) := by
  obtain ⟨name, target, storage, items⟩ := s
  obtain rfl : storage = .indexed field := hs
  rw [recordSlot, recordEntries_eq_map]
  rfl

end Stores

/-- The entry of a name is looked up under the identifier of the name, if no other name has it. -/
theorem lookup_map_fieldName {β γ : Type} (value : String → β → γ) {entries : List (String × β)}
    {name : String} (h : ∀ p ∈ entries, fieldName p.1 = fieldName name → p.1 = name) :
    (entries.map fun p => (fieldName p.1, value p.1 p.2)).lookup (fieldName name) =
      (entries.lookup name).map (value name) := by
  induction entries with
  | nil => rfl
  | cons p rest ih =>
    obtain ⟨n, v⟩ := p
    rw [List.map_cons, List.lookup_cons, List.lookup_cons]
    by_cases hn : name = n
    · subst hn
      simp
    · have hne : fieldName name ≠ fieldName n := fun heq => hn (h (n, v) (by simp) heq.symm).symm
      rw [beq_false_of_ne hn, beq_false_of_ne hne]
      exact ih fun q hq => h q (by simp [hq])

end Entity

namespace Regular

variable {reg : Registry} {e : Entity}

/-- The names of the attributes of an entity are those of its class. -/
theorem map_fst_attributes {attributes : List Attribute} {held : List (String × Option Json)}
    (h : List.Forall₂ HoldsAttribute attributes held) :
    held.map Prod.fst = attributes.map Attribute.name :=
  Chain.map_eq_of_forall₂ (h.imp fun _ _ hp => hp.1)

/-- The members of a class whose module has a struct have different identifiers. -/
theorem nodup_storedNames {c : EntityClass} (h : (Module.ofClass reg c).IsStruct) :
    ((c.shape.attributes.map Attribute.name).map fieldName).Nodup ∧
      ((c.shape.relationships.map Relationship.storageKey).map fieldName).Nodup := by
  rw [Module.IsStruct, map_name_ofClass, Validation.storedNames, List.map_append] at h
  exact ⟨h.of_append_left, h.of_append_right⟩

/-- No two attributes of a regular entity have one name. -/
theorem nodup_attributes (he : Regular reg e) : (e.attributes.map Prod.fst).Nodup := by
  cases he with
  | mk _ hdistinct _ hattributes _ _ =>
    exact map_fst_attributes hattributes ▸ hdistinct.of_append_left

/-- No two slots of a regular entity have one name. -/
theorem nodup_slots (he : Regular reg e) : (e.slots.map Slot.name).Nodup := by
  cases he with
  | @mk c _ slots _ hdistinct _ _ hslots _ =>
    have hnames : slots.map Slot.name = c.shape.relationships.map Relationship.name :=
      Chain.map_eq_of_forall₂ (hslots.imp fun _ _ hs => hs.name_eq)
    exact hnames ▸ hdistinct.of_append_right

/-- A slot of a regular entity is that of a relationship. -/
theorem exists_relationship (he : Regular reg e) {s : Slot} (hs : s ∈ e.slots) :
    ∃ r, FitsRelationship r s := by
  cases he with
  | mk _ _ _ _ hslots _ =>
    obtain ⟨r, -, hr⟩ := Chain.exists_of_mem_right hslots hs
    exact ⟨r, hr⟩

/-- The entities in the slots of a regular entity are regular. -/
theorem of_mem_items (he : Regular reg e) {s : Slot} (hs : s ∈ e.slots) {item : Entity}
    (hitem : item ∈ s.items) : Regular reg item := by
  cases he with
  | mk _ _ _ _ _ hitems => exact hitems s hs item hitem

/-- What the field of an attribute of a mirrored entity holds. -/
theorem content?_record (he : Regular reg e) {c : EntityClass}
    (hc : reg.find? e.className = some c) {name : String} {kind : Kind}
    (hkind : c.shape.kind? name = some kind) :
    (e.record reg).content? (fieldName name) =
      ((e.attributes.lookup name).join).map (Content.ofJson kind) := by
  cases he with
  | @mk d attributes slots hd hdistinct hstruct hattributes hslots hitems =>
    obtain rfl := Option.some.inj (hd.symm.trans hc)
    have hname : name ∈ d.shape.attributes.map Attribute.name :=
      Shape.isSome_kind?_iff.1 (Option.isSome_of_eq_some hkind)
    have hinjective : ∀ p ∈ attributes, fieldName p.1 = fieldName name → p.1 = name := by
      intro p hp heq
      have hmem : p.1 ∈ d.shape.attributes.map Attribute.name :=
        map_fst_attributes hattributes ▸ List.mem_map_of_mem hp
      exact List.inj_on_of_nodup_map (nodup_storedNames hstruct).1 hmem hname heq
    have hlookup := Entity.lookup_map_fieldName (fun n v =>
      Option.map (Content.ofJson (((some d).bind fun c => c.shape.kind? n).getD .any)) v) hinjective
    rw [Option.bind_some, hkind] at hlookup
    show ((Entity.recordValues (reg.find? d.name) attributes).lookup (fieldName name)).join = _
    rw [hd, Entity.recordValues, hlookup, Option.getD_some, Entity.attributes]
    cases attributes.lookup name <;> rfl

/-- A slot of a regular entity, with the slots before and behind it. Its name and its field are
those of no slot before it, and another slot of the relationship in its place keeps the entity
regular. -/
theorem exists_slot (he : Regular reg e) {c : EntityClass} (hc : reg.find? e.className = some c)
    {r : Relationship} (hr : r ∈ c.shape.relationships) :
    ∃ attributes front s back, e = .mk c.name attributes (front ++ s :: back) ∧
      FitsRelationship r s ∧ (∀ item ∈ s.items, Regular reg item) ∧
      (∀ t ∈ front, t.name ≠ r.name) ∧ (∀ t ∈ front, t.field ≠ fieldName r.storageKey) ∧
      ∀ t, FitsRelationship r t → (∀ item ∈ t.items, Regular reg item) →
        Regular reg (.mk c.name attributes (front ++ t :: back)) := by
  cases he with
  | @mk d attributes slots hd hdistinct hstruct hattributes hslots hitems =>
    obtain rfl := Option.some.inj (hd.symm.trans hc)
    obtain ⟨before, behind, hsplit⟩ := List.append_of_mem hr
    rw [hsplit] at hslots
    obtain ⟨front, s, back, rfl, hfront, hs, hback⟩ := Chain.forall₂_split hslots
    have hnames : ((before ++ r :: behind).map Relationship.name).Nodup :=
      hsplit ▸ hdistinct.of_append_right
    have hfields : ((before ++ r :: behind).map fun q => fieldName q.storageKey).Nodup := by
      rw [← hsplit]
      simpa [Function.comp_def] using (nodup_storedNames hstruct).2
    refine ⟨attributes, front, s, back, rfl, hs, hitems s (by simp), fun t ht heq => ?_,
      fun t ht heq => ?_, fun t ht htitems => ?_⟩
    · obtain ⟨q, hq, hqt⟩ := Chain.exists_of_mem_right hfront ht
      exact ne_of_nodup_map hnames hq (hqt.name_eq.symm.trans heq)
    · obtain ⟨q, hq, hqt⟩ := Chain.exists_of_mem_right hfront ht
      exact ne_of_nodup_map hfields hq (hqt.field_eq.symm.trans heq)
    -- The class stays, so only the slot that took the place of the old one has to fit.
    · refine .mk hd hdistinct hstruct hattributes ?_ fun u hu => ?_
      · rw [hsplit]
        exact List.rel_append hfront (.cons ht hback)
      · rcases List.mem_append.1 hu with hu | hu
        · exact hitems u (by simp [hu])
        · rcases List.mem_cons.1 hu with rfl | hu
          · exact htitems
          · exact hitems u (by simp [hu])

/-- Each field of the struct value holds contents of the kind that the class declares. -/
theorem kind_of_content? (he : Regular reg e) {c : EntityClass}
    (hc : reg.find? e.className = some c) {name : String} {kind : Kind}
    (hkind : c.shape.kind? name = some kind) {content : Content}
    (h : (e.record reg).content? (fieldName name) = some content) : content.kind = kind := by
  rw [content?_record he hc hkind, Option.map_eq_some_iff] at h
  obtain ⟨value, hvalue, rfl⟩ := h
  cases he with
  | @mk d attributes slots hd hdistinct hstruct hattributes hslots hitems =>
    obtain rfl := Option.some.inj (hd.symm.trans hc)
    have hmem : (name, some value) ∈ attributes :=
      mem_of_lookup_eq_some (Option.join_eq_some_iff.1 hvalue)
    obtain ⟨a, ha, hname, hholds⟩ := Chain.exists_of_mem_right hattributes hmem
    obtain rfl : name = a.name := hname
    obtain rfl : a.kind = kind :=
      Option.some.inj ((Shape.kind?_of_mem hdistinct ha).symm.trans hkind)
    exact Content.kind_ofJson (hholds value rfl).2

/-- The key of an entity in a table is that of the struct value. -/
theorem of_indexKey {d : Entity} (hd : Regular reg d) {r : Relationship} {field : String}
    (hr : r.storage = .indexed field) (htarget : d.className = r.target) :
    (Source.indexKey field (indexKind? reg r)).of (d.record reg) = d.keyOf field := by
  obtain ⟨c, hc, hfield⟩ : ∃ c, reg.find? d.className = some c ∧
      d.attributes.map Prod.fst = c.shape.attributes.map Attribute.name := by
    cases hd with
    | mk hc _ _ hattributes => exact ⟨_, hc, map_fst_attributes hattributes⟩
  have hkind : indexKind? reg r = c.shape.kind? field := by
    rw [indexKind?, hr, ← htarget, hc]
    rfl
  rw [hkind, Entity.keyOf, DocSchema.indexKey]
  -- Without an attribute of that name both keys are empty; otherwise the field shows its value.
  cases h : c.shape.kind? field with
  | none =>
    have hnone : d.attributes.lookup field = none := by
      rw [List.lookup_eq_none_iff]
      intro p hp
      rw [bne_iff_ne]
      rintro rfl
      have hmem : p.1 ∈ c.shape.attributes.map Attribute.name :=
        hfield ▸ List.mem_map_of_mem hp
      simp [← Shape.isSome_kind?_iff, h] at hmem
    rw [hnone]
    rfl
  | some kind =>
    have hof : (Source.indexKey field (some kind)).of (d.record reg) =
        (((d.record reg).content? (fieldName field)).map Content.shown).getD "" := by
      cases kind <;> rfl
    rw [hof, content?_record hd hc h, Option.map_map]
    congr 2
    funext value
    exact Content.shown_ofJson kind value

/-- An entity that is put into a table of struct values goes where the entity itself goes. -/
theorem insertEntry_record (reg : Registry) (field : String) (d : Entity) (items : List Entity) :
    Store.insertEntry (d.keyOf field) (d.record reg)
        (items.map fun e => (e.keyOf field, e.record reg)) =
      (Slot.putEntry field d items).map fun e => (e.keyOf field, e.record reg) := by
  induction items with
  | nil => rfl
  | cons e rest ih =>
    rw [List.map_cons, Store.insertEntry, Slot.putEntry]
    split
    · rfl
    · rw [ih, List.map_cons]

/-- The accessors of a relationship work on its field. -/
theorem field_accessorsOf (r : Relationship) (kind : Option Kind) :
    (accessorsOf r kind).field = fieldName r.storageKey := by
  rw [accessorsOf]

/-- An entity is added to a slot as its struct value is to the field of the slot. -/
theorem insert_recordSlot {d : Entity} (hd : Regular reg d) {r : Relationship} {s : Slot}
    (hs : FitsRelationship r s) (htarget : d.className = r.target) :
    (r.accessors reg).access.insert (d.record reg) (Entity.recordSlot reg s) =
      Entity.recordSlot reg (s.insert d) := by
  have hstorage := (Slot.storage_insert s d).trans hs.storage_eq
  cases hr : r.storage with
  | single =>
    rw [Entity.recordSlot_of_single reg (hstorage.trans hr),
      Slot.items_insert_single d (hs.storage_eq.trans hr)]
    simp only [accessorsOf, hr]
    rfl
  | sequence =>
    rw [Entity.recordSlot_of_sequence reg (hstorage.trans hr),
      Entity.recordSlot_of_sequence reg (hs.storage_eq.trans hr),
      Slot.items_insert_sequence d (hs.storage_eq.trans hr), List.map_append]
    simp only [accessorsOf, hr]
    rfl
  | indexed field =>
    rw [Entity.recordSlot_of_indexed reg (hstorage.trans hr),
      Entity.recordSlot_of_indexed reg (hs.storage_eq.trans hr),
      Slot.items_insert_indexed d (hs.storage_eq.trans hr), ← insertEntry_record,
      ← of_indexKey hd hr htarget]
    simp only [accessorsOf, hr]
    rfl

end Regular

namespace Record

/-- The store of a field that no field before it has the name of is changed, and the others stay. -/
theorem modifyStore_append {values : List (String × Option Content)} {field : String}
    {change : Store → Store} {s : Store} {front back : List (String × Store)}
    (hfront : ∀ p ∈ front, p.1 ≠ field) :
    (mk values (front ++ (field, s) :: back)).modifyStore field change =
      mk values (front ++ (field, change s) :: back) := by
  have hmodify : modify field change (front ++ (field, s) :: back) =
      front ++ (field, change s) :: back := by
    induction front with
    | nil => exact if_pos rfl
    | cons p rest ih =>
      rw [List.cons_append, modify, if_neg (hfront p (by simp)),
        ih fun q hq => hfront q (by simp [hq])]
      rfl
  rw [modifyStore, Record.stores, Record.values, hmodify]

end Record

namespace Entity

/-- The struct value of an entity has a field for each slot. -/
theorem record_append (reg : Registry) (className : String)
    (attributes : List (String × Option Json)) (front back : List Slot) (s : Slot) :
    (mk className attributes (front ++ s :: back)).record reg =
      .mk (recordValues (reg.find? className) attributes)
        (recordSlots reg front ++ (s.field, recordSlot reg s) :: recordSlots reg back) := by
  rw [record]
  simp only [recordSlots_eq_map, List.map_append, List.map_cons]

/-- A field that no slot has is no field of a relationship. -/
theorem ne_of_mem_recordSlots (reg : Registry) {slots : List Slot} {field : String}
    (h : ∀ s ∈ slots, s.field ≠ field) : ∀ p ∈ recordSlots reg slots, p.1 ≠ field := by
  simpa only [recordSlots_eq_map, List.forall_mem_map] using h

end Entity

namespace Regular

variable {reg : Registry} {e : Entity}

/-- A regular entity that is added to a relationship of another one leaves it regular, and its
struct value is added to that of the other. -/
theorem add (he : Regular reg e) {d added : Entity} (hd : Regular reg d) {c : EntityClass}
    (hc : reg.find? e.className = some c) {r : Relationship} (hr : r ∈ c.shape.relationships)
    (hadd : e.add r.name d = .ok added) :
    Regular reg added ∧
      (r.accessors reg).add (e.record reg) (d.record reg) = added.record reg := by
  obtain ⟨attributes, front, s, back, rfl, hs, hitems, hname, hfield, hreplace⟩ :=
    exists_slot he hc hr
  have hfront : ∀ t ∈ front, t.name ≠ s.name := fun t ht => hs.name_eq ▸ hname t ht
  obtain ⟨t, ht, hinsert⟩ := Chain.bind_eq_ok_iff.1 hadd
  rw [← hs.name_eq, Entity.slot, Entity.slot?_append hfront] at ht
  obtain rfl := Except.ok.inj ht
  split at hinsert
  · next htarget =>
    rw [← hs.name_eq, Entity.withSlot_append hfront] at hinsert
    obtain rfl := Except.ok.inj hinsert
    have hclass : d.className = r.target := htarget.trans hs.target_eq
    refine ⟨hreplace _ (hs.insert hclass) fun item hitem => ?_, ?_⟩
    · rcases Slot.mem_items_insert hitem with rfl | hitem
      · exact hd
      · exact hitems item hitem
    · rw [Accessors.add, field_accessorsOf, Entity.record_append, hs.field_eq,
        Record.modifyStore_append (Entity.ne_of_mem_recordSlots reg hfield),
        insert_recordSlot hd hs hclass, Entity.record_append, (hs.insert hclass).field_eq]
  · simp at hinsert

end Regular

end DocSchema
