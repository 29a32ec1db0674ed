import DocSchema.Proofs.Record.Equality
import DocSchema.Proofs.Session.Histories

/-!
# Removing from entities and from struct values

Removing an entity from a slot that is no table takes the first equal one away (`removeEqual_eq`),
and so does the accessor of the struct value. Where the entities of the slot agree with the one to
remove, both take away what stands at one position (`Regular.dropsAlike`). With the equalities of
both, `Session.same_iff_equal` says how far an entity mirrors a value of its generated struct.
-/

namespace DocSchema

open Source

/-- What is removed from a relationship of an entity stands at the same position as what the
accessor removes from the struct value, or nothing is removed from either. -/
def DropsAlike (r : Relationship) (a : Accessors) (e : Entity) (x : Record) (f : Entity)
    (z : Record) : Prop :=
  ∃ s k, e.slot r.name = .ok s ∧
    e.remove r.name f = .ok (e.withSlot r.name (s.withItems (s.items.eraseIdx k))) ∧
    (a.iter x).length = s.items.length ∧ a.iter (a.remove x z) = (a.iter x).eraseIdx k

/-- Removing an equal entity takes the first one away. -/
theorem Slot.removeEqual_eq (item : Entity) (items : List Entity) :
    removeEqual item items = items.eraseIdx (items.findIdx fun e => e.same item) := by
  induction items with
  | nil => rfl
  | cons e rest ih =>
    rw [removeEqual, List.findIdx_cons]
    cases e.same item with
    | true => rfl
    | false => exact congrArg (e :: ·) ih

namespace Source.Accessors

variable (a : Accessors) {values : List (String × Option Content)} {s : Store}
  {front back : List (String × Store)}

/-- The accessor iterates over the objects of its field. -/
theorem iter_append (hfront : ∀ p ∈ front, p.1 ≠ a.field) :
    a.iter (.mk values (front ++ (a.field, s) :: back)) = s.items := by
  have hnone : front.lookup a.field = none := by
    rw [List.lookup_eq_none_iff]
    exact fun p hp => bne_iff_ne.2 (hfront p hp).symm
  rw [iter, Record.stores, List.lookup_append, hnone, List.lookup_cons, beq_self_eq_true]
  rfl

/-- After the accessor has removed an object, it iterates over the others. -/
theorem iter_remove_append (hfront : ∀ p ∈ front, p.1 ≠ a.field) (z : Record) :
    a.iter (a.remove (.mk values (front ++ (a.field, s) :: back)) z) =
      (a.access.erase z s).items := by
  rw [remove, Record.modifyStore_append hfront, iter_append a hfront]

end Source.Accessors

/-- The accessor of a field for one object takes it away if it is equal. -/
theorem Store.items_erase_single {z : Record} {items : List Record} (h : items.length ≤ 1) :
    (Access.single.erase z (.single items.head?)).items = removeFirst z items := by
  cases items with
  | nil => rfl
  | cons x rest =>
    obtain rfl : rest = [] := by simpa using h
    rw [List.head?_cons, Access.erase, removeFirst, Store.items]
    cases x.equal z <;> rfl

namespace FitsRelationship

variable (reg : Registry) {r : Relationship} {s : Slot}

/-- The objects of the field of a slot are the struct values of its entities. -/
theorem items_recordSlot (hs : FitsRelationship r s) :
    (Entity.recordSlot reg s).items = s.items.map (Entity.record reg) := by
  cases hr : r.storage with
  | single =>
    have hone : (s.items.map (Entity.record reg)).length ≤ 1 := by simpa using hs.single hr
    rw [Entity.recordSlot_of_single reg (hs.storage_eq.trans hr), Store.items, ← List.take_one,
      List.take_of_length_le hone]
  | sequence =>
    rw [Entity.recordSlot_of_sequence reg (hs.storage_eq.trans hr), Store.items]
  | indexed field =>
    rw [Entity.recordSlot_of_indexed reg (hs.storage_eq.trans hr), Store.items, List.map_map]
    rfl

/-- The accessor takes the first equal struct value away from a field that is no table. -/
theorem items_erase_recordSlot (hs : FitsRelationship r s) (hr : r.storage.indexField? = none)
    (kind : Option Kind) (z : Record) :
    ((accessorsOf r kind).access.erase z (Entity.recordSlot reg s)).items =
      Store.removeFirst z (s.items.map (Entity.record reg)) := by
  cases hstorage : r.storage with
  | single =>
    have hone : (s.items.map (Entity.record reg)).length ≤ 1 := by simpa using hs.single hstorage
    rw [Entity.recordSlot_of_single reg (hs.storage_eq.trans hstorage)]
    simp only [accessorsOf, hstorage]
    exact Store.items_erase_single hone
  | sequence =>
    rw [Entity.recordSlot_of_sequence reg (hs.storage_eq.trans hstorage)]
    simp only [accessorsOf, hstorage]
    rfl
  | indexed field =>
    rw [hstorage] at hr
    cases hr

end FitsRelationship

/-- Removing takes the entities away that mirror what is removed from the struct values, if those
are equal as the entities are. -/
theorem Store.removeFirst_map {reg : Registry} {d : Entity} {items : List Entity}
    (h : ∀ e ∈ items, e.same d = (e.record reg).equal (d.record reg)) :
    removeFirst (d.record reg) (items.map (Entity.record reg)) =
      (Slot.removeEqual d items).map (Entity.record reg) := by
  induction items with
  | nil => rfl
  | cons e rest ih =>
    rw [List.map_cons, removeFirst, Slot.removeEqual, h e (by simp)]
    split
    · rfl
    · rw [ih fun e he => h e (by simp [he]), List.map_cons]

/-- Removing an entity from a slot that no slot before it shares its name with takes the first equal
one away, if the slot is no table. -/
theorem Entity.remove_append {className : String} {attributes : List (String × Option Json)}
    {front back : List Slot} {s : Slot} (hfront : ∀ t ∈ front, t.name ≠ s.name)
    (hs : s.storage.indexField? = none) (d : Entity) :
    (mk className attributes (front ++ s :: back)).remove s.name d =
      .ok ((mk className attributes (front ++ s :: back)).withSlot s.name
        (s.withItems (Slot.removeEqual d s.items))) := by
  have herase : s.erase d = s.withItems (Slot.removeEqual d s.items) := by
    unfold Slot.erase
    split
    · next field hfield =>
      rw [hfield] at hs
      cases hs
    · rfl
  rw [remove, slot, slot?_append hfront, ← herase]
  rfl

/-- The entities of a relationship of a regular entity are regular. -/
theorem Regular.of_mem_iter {reg : Registry} {e : Entity} (he : Regular reg e) {name : String}
    {items : List Entity} (h : e.iter name = .ok items) {item : Entity} (hitem : item ∈ items) :
    Regular reg item := by
  obtain ⟨s, hslot, hiter⟩ := Chain.bind_eq_ok_iff.1 h
  obtain rfl := Except.ok.inj hiter
  rw [Entity.slot] at hslot
  split at hslot
  · next t ht =>
    obtain rfl := Except.ok.inj hslot
    exact he.of_mem_items (List.mem_of_find?_eq_some ht) hitem
  · simp at hslot

/-- Where the entities of a slot that is no table agree with a regular entity of their class, it is
removed from the slot as its struct value is from the field. -/
theorem Regular.dropsAlike {reg : Registry} {e : Entity} (he : Regular reg e) {c : EntityClass}
    (hc : reg.find? e.className = some c) {r : Relationship} (hr : r ∈ c.shape.relationships)
    (hindex : r.storage.indexField? = none) {d : Entity} (hd : Regular reg d)
    (hclass : d.className = r.target)
    (hagree : ∀ items, e.iter r.name = .ok items → ∀ item ∈ items, item.Agree d) :
    DropsAlike r (r.accessors reg) e (e.record reg) d (d.record reg) := by
  obtain ⟨attributes, front, s, back, rfl, hs, hitems, hname, hfield, -⟩ := exists_slot he hc hr
  have hfront : ∀ t ∈ front, t.name ≠ s.name := fun t ht => hs.name_eq ▸ hname t ht
  have hslot : (Entity.mk c.name attributes (front ++ s :: back)).slot r.name = .ok s := by
    rw [← hs.name_eq, Entity.slot, Entity.slot?_append hfront]
  have hsame : ∀ item ∈ s.items, item.same d = (item.record reg).equal (d.record reg) := by
    refine fun item hitem => (hitems item hitem).same_eq_equal hd
      ((hs.className_eq item hitem).trans hclass.symm) (hagree s.items ?_ item hitem)
    rw [Entity.iter, hslot]
    rfl
  have hbefore : ∀ p ∈ Entity.recordSlots reg front,
      p.1 ≠ (r.accessors reg).field := by
    rw [field_accessorsOf]
    exact Entity.ne_of_mem_recordSlots reg hfield
  refine ⟨s, s.items.findIdx fun item => item.same d, hslot, ?_, ?_, ?_⟩
  · rw [← Slot.removeEqual_eq, ← hs.name_eq,
      Entity.remove_append hfront (hs.storage_eq.symm ▸ hindex)]
  · rw [Entity.record_append, hs.field_eq, ← field_accessorsOf r (indexKind? reg r),
      Accessors.iter_append _ hbefore, hs.items_recordSlot, List.length_map]
  · rw [Entity.record_append, hs.field_eq, ← field_accessorsOf r (indexKind? reg r),
      Accessors.iter_append _ hbefore, Accessors.iter_remove_append _ hbefore, hs.items_recordSlot,
      hs.items_erase_recordSlot reg hindex, Store.removeFirst_map hsame, Slot.removeEqual_eq,
      List.eraseIdx_map]

namespace Session

/-- Whatever the history of a registry, take two entities of one class that are built side by side
with values of its generated struct. They are equal if and only if the struct values are and the
entities agree, and what is removed from a relationship that is no table is removed from both alike,
if the entities there agree with it. -/
theorem same_iff_equal {history : List Step} {reg : Registry}
    (hreg : reg ∈ (run history).registries) {e d : Entity} {x y : Record} (he : Built reg e x)
    (hd : Built reg d y) (hclass : e.className = d.className) :
    (e.same d = true ↔ x.equal y = true ∧ e.Agree d) ∧
    ∀ c r f z, reg.find? e.className = some c → r ∈ c.shape.relationships →
      r.storage.indexField? = none → Built reg f z → f.className = r.target →
      (∀ items, e.iter r.name = .ok items → ∀ item ∈ items, item.Agree f) →
        DropsAlike r (r.accessors reg) e x f z := by
  have hsound : reg.Sound := sound_run history reg hreg
  obtain ⟨hregular, rfl⟩ := regular_of_built hsound he
  obtain ⟨hother, rfl⟩ := regular_of_built hsound hd
  refine ⟨hregular.same_iff hother hclass, fun c r f z hc hr hindex hf htarget hagree => ?_⟩
  obtain ⟨hremoved, rfl⟩ := regular_of_built hsound hf
  exact hregular.dropsAlike hc hr hindex hremoved htarget hagree

/-- A document with a number in an item. -/
def itemDocument : Json :=
  .object [("xs", .array [.object [("a", .number (.real ⟨false, .zero⟩))]])]

/-- The document is inferred, its code is generated and its classes are loaded. -/
def itemLoaded : List Step :=
  [.inferDocument "root" itemDocument "" .union, .generateAll 0, .newLoader, .loadAll 0 0]

/-- The number zero, as an integer and with a fraction. -/
def zeros : Number × Number := ⟨.integer 0 (by decide), .real ⟨false, .zero⟩⟩

/-- The parameters that give a number. -/
def numberParameters (n : Number) : Parameters := [("a", some (.number n))]

/-- What the two zeros give: an entity that holds an item with the first, and another item with the
second. -/
structure Zeros (reg : Registry) (r : Relationship) (e : Entity) (x : Record) (f : Entity)
    (z : Record) (g : Entity) (y : Record) : Prop where
  /-- The entity has its struct value. -/
  owner : Built reg e x
  /-- So has the item that it holds. -/
  item : Built reg f z
  /-- So has the other item. -/
  other : Built reg g y
  /-- The relationship is one of the class of the entity. -/
  declared : ∃ c, reg.find? e.className = some c ∧ r ∈ c.shape.relationships
  /-- It is a sequence. -/
  sequence : r.storage = .sequence
  /-- It leads to the class of the items. -/
  target : f.className = r.target ∧ g.className = r.target
  /-- The first item is equal to itself and to those that the entity holds. -/
  held : f.same f = true ∧ ∀ items, e.iter r.name = .ok items → ∀ item ∈ items, item.same f = true
  /-- The items are different. -/
  different : f.same g = false
  /-- Their struct values are equal. -/
  equal : z.equal y = true
  /-- The entity keeps what it holds when the other item is removed. -/
  kept : ∃ removed items, e.remove r.name g = .ok removed ∧ removed.iter r.name = .ok items ∧
    items ≠ []
  /-- The struct value does not. -/
  dropped : (r.accessors reg).iter ((r.accessors reg).remove x y) = []

/-- The struct value that parameters give. -/
def created (reg : Registry) (c : EntityClass) (parameters : Parameters) : Record :=
  (Module.ofClass reg c).create (c.shape.arguments parameters)

/-- The two zeros give entities and struct values of a class with a number. -/
theorem exists_zeros :
    ∃ reg ∈ (run itemLoaded).registries, ∃ r e x f z g y, Zeros reg r e x f z g y := by
  have hcheck : ((run itemLoaded).registries.any fun reg =>
      reg.classes.any fun c => reg.classes.any fun d => c.binding.any fun b => d.binding.any fun k =>
        (b.construct []).toOption.any fun new =>
        (k.construct (numberParameters zeros.1)).toOption.any fun f =>
        (k.construct (numberParameters zeros.2)).toOption.any fun g =>
        c.shape.relationships.any fun r => (new.add r.name f).toOption.any fun e =>
        (e.iter r.name).toOption.any fun items => (e.remove r.name g).toOption.any fun removed =>
        (removed.iter r.name).toOption.any fun rest =>
          decide ((Module.ofClass reg c).IsStruct ∧ (Module.ofClass reg d).IsStruct ∧
            d.shape.kind? "a" = some .number ∧ reg.find? new.className = some c ∧
            reg.find? e.className = some c ∧ r.storage = .sequence ∧ f.className = r.target ∧
            g.className = r.target ∧ f.same f = true ∧
            items.all (fun item => item.same f) = true ∧ f.same g = false ∧
            (created reg d (numberParameters zeros.1)).equal
              (created reg d (numberParameters zeros.2)) = true ∧ rest.length ≠ 0 ∧
            ((r.accessors reg).iter ((r.accessors reg).remove
              ((r.accessors reg).add (created reg c []) (created reg d (numberParameters zeros.1)))
              (created reg d (numberParameters zeros.2)))).length = 0)) = true := by
    decide +kernel
  obtain ⟨reg, hreg, htest⟩ := List.any_eq_true.1 hcheck
  obtain ⟨c, hc, htest⟩ := List.any_eq_true.1 htest
  obtain ⟨d, hd, htest⟩ := List.any_eq_true.1 htest
  obtain ⟨b, hb, htest⟩ := (Option.any_eq_true _ _).1 htest
  obtain ⟨k, hk, htest⟩ := (Option.any_eq_true _ _).1 htest
  obtain ⟨new, hnew, htest⟩ := Chain.exists_of_any htest
  obtain ⟨f, hf, htest⟩ := Chain.exists_of_any htest
  obtain ⟨g, hg, htest⟩ := Chain.exists_of_any htest
  obtain ⟨r, hr, htest⟩ := List.any_eq_true.1 htest
  obtain ⟨e, he, htest⟩ := Chain.exists_of_any htest
  obtain ⟨items, hiter, htest⟩ := Chain.exists_of_any htest
  obtain ⟨removed, hremove, htest⟩ := Chain.exists_of_any htest
  obtain ⟨rest, hrest, htest⟩ := Chain.exists_of_any htest
  obtain ⟨hstruct, hitemStruct, hkind, hnewClass, hclass, hsequence, htarget, hotherTarget, hself,
    hheld, hdifferent, hequal, hkept, hdropped⟩ := of_decide_eq_true htest
  have hkinds : ∀ n, d.shape.Admits (numberParameters n) := by
    intro n name value hmem _
    obtain ⟨rfl, rfl⟩ : name = "a" ∧ value = .number n := by simpa [numberParameters] using hmem
    exact ⟨.number, hkind, .inr rfl⟩
  have hnone : c.shape.Admits [] := fun name value hmem _ => by simp at hmem
  have hitem := Built.construct hd hk hitemStruct (hkinds zeros.1) hf
  exact ⟨reg, hreg, r, e, _, f, _, g, _,
    { owner := .add (.construct hc hb hstruct hnone hnew) hitem hnewClass hr he
      item := hitem
      other := .construct hd hk hitemStruct (hkinds zeros.2) hg
      declared := ⟨c, hclass, hr⟩
      sequence := hsequence
      target := ⟨htarget, hotherTarget⟩
      held := by
        refine ⟨hself, fun others hothers => ?_⟩
        obtain rfl := Except.ok.inj (hiter.symm.trans hothers)
        exact List.all_eq_true.1 hheld
      different := hdifferent
      equal := hequal
      kept := ⟨removed, rest, hremove, hrest, mt List.length_eq_zero_iff.2 hkept⟩
      dropped := List.length_eq_zero_iff.1 hdropped }⟩

/-- An item with a zero agrees with itself, so removing it removes its struct value as well. It does
not agree with an item that has the other zero. -/
theorem agree_zeros :
    ∃ reg ∈ (run itemLoaded).registries, ∃ r e x f z g y, Zeros reg r e x f z g y ∧
      f.Agree f ∧ ¬ f.Agree g ∧ DropsAlike r (r.accessors reg) e x f z := by
  obtain ⟨reg, hreg, r, e, x, f, z, g, y, h⟩ := exists_zeros
  obtain ⟨c, hc, hr⟩ := h.declared
  have hagree : f.Agree f := ((same_iff_equal hreg h.item h.item rfl).1.1 h.held.1).2
  have hother : ¬ f.Agree g := fun hfg => by
    have hclass : f.className = g.className := h.target.1.trans h.target.2.symm
    have hsame := (same_iff_equal hreg h.item h.other hclass).1.2 ⟨h.equal, hfg⟩
    rw [h.different] at hsame
    cases hsame
  refine ⟨reg, hreg, r, e, x, f, z, g, y, h, hagree, hother, ?_⟩
  refine (same_iff_equal hreg h.owner h.owner rfl).2 c r f z hc hr (by rw [h.sequence]; rfl) h.item
    h.target.1 fun items hitems item hitem => ?_
  have hsound : reg.Sound := sound_run itemLoaded reg hreg
  have hregular := (regular_of_built hsound h.owner).1.of_mem_iter hitems hitem
  exact hregular.agree_of_same (regular_of_built hsound h.item).1 (h.held.2 items hitems item hitem)

/-- Two items are different, but the values of the generated struct with the same contents are
equal. So an entity keeps the first when the second is removed, and its struct value does not. -/
theorem equal_and_not_same_zeros :
    ∃ reg ∈ (run itemLoaded).registries, ∃ (r : Relationship) (e : Entity) (x : Record) (f : Entity)
      (z : Record) (g : Entity) (y : Record), Built reg e x ∧ Built reg f z ∧ Built reg g y ∧
      f.className = g.className ∧ ¬ (f.same g = true ↔ z.equal y = true) ∧
      (∃ removed items, e.remove r.name g = .ok removed ∧ removed.iter r.name = .ok items ∧
        items ≠ []) ∧
      (r.accessors reg).iter ((r.accessors reg).remove x y) = [] := by
  obtain ⟨reg, hreg, r, e, x, f, z, g, y, h⟩ := exists_zeros
  refine ⟨reg, hreg, r, e, x, f, z, g, y, h.owner, h.item, h.other,
    h.target.1.trans h.target.2.symm, fun hiff => ?_, h.kept, h.dropped⟩
  have hsame := hiff.2 h.equal
  rw [h.different] at hsame
  cases hsame

end Session

end DocSchema
