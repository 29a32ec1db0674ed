import DocSchema.Proofs.Entity.Tables

/-!
# Changes of an entity

An entity is changed by adding an entity to a relationship, removing one, or setting an attribute
(`Entity.Step`); a change that fails leaves it as it was. `Entity.slot?_after` says all that a
change does to the slots: it changes the slot of its own relationship, and only if an entity that it
adds is of the class the slot leads to. So after a history of changes each slot is what its own
history made of it (`Entity.slot?_run`), and it still fits its relationship
(`FitsRelationship.run`).
-/

namespace DocSchema

namespace Slot

variable {s : Slot} {item d : Entity}

/-- An entity that is put into a table brings its key in, if that is new, at the end. -/
theorem map_keyOf_putEntry (field : String) (item : Entity) (items : List Entity) :
    (putEntry field item items).map (Entity.keyOf field) =
      if item.keyOf field ∈ items.map (Entity.keyOf field) then items.map (Entity.keyOf field)
      else items.map (Entity.keyOf field) ++ [item.keyOf field] := by
  induction items with
  | nil => simp [putEntry]
  | cons e rest ih =>
    by_cases he : e.keyOf field = item.keyOf field
    · simp [putEntry, he]
    · have hne : item.keyOf field ≠ e.keyOf field := Ne.symm he
      simp only [putEntry, he, if_false, List.map_cons, ih, List.mem_cons, hne, false_or]
      split <;> simp

/-- A slot with one more entity holds that one and those that it held. -/
theorem mem_items_insert (h : item ∈ (s.insert d).items) : item = d ∨ item ∈ s.items := by
  unfold insert at h
  split at h
  · rw [items_withItems, List.mem_singleton] at h
    exact .inl h
  · rw [items_withItems, List.mem_append, List.mem_singleton] at h
    exact h.symm
  · next field _ =>
    rw [items_withItems] at h
    exact List.mem_cons.1 ((subperm_putEntry field d s.items).subset h)

/-- Taking an equal entity away leaves the others in order. -/
theorem removeEqual_sublist (item : Entity) (items : List Entity) :
    (removeEqual item items).Sublist items := by
  induction items with
  | nil => exact .slnil
  | cons e rest ih =>
    rw [removeEqual]
    split
    · exact List.sublist_cons_self e rest
    · exact ih.cons_cons e

/-- Taking the entity with a key away leaves the others in order. -/
theorem removeKey_sublist (field key : String) (items : List Entity) :
    (removeKey field key items).Sublist items := by
  induction items with
  | nil => exact .slnil
  | cons e rest ih =>
    rw [removeKey]
    split
    · exact List.sublist_cons_self e rest
    · exact ih.cons_cons e

/-- Removing an entity leaves a slot as it was but for the entities that it holds. -/
theorem exists_erase_eq (s : Slot) (item : Entity) :
    ∃ items, s.erase item = s.withItems items ∧ items.Sublist s.items := by
  unfold erase
  split
  · exact ⟨_, rfl, removeKey_sublist _ _ _⟩
  · exact ⟨_, rfl, removeEqual_sublist _ _⟩

end Slot

/-- A slot of an entity is that of a relationship and holds entities of its class: one at most in a
single slot, no two of one key in a table. -/
structure FitsRelationship (r : Relationship) (s : Slot) : Prop where
  /-- The slot has the name of the relationship. -/
  name_eq : s.name = r.name
  /-- It leads to the same class. -/
  target_eq : s.target = r.target
  /-- It keeps entities in the same way. -/
  storage_eq : s.storage = r.storage
  /-- The entities are of that class. -/
  className_eq : ∀ item ∈ s.items, item.className = r.target
  /-- A single slot holds one at most. -/
  single : r.storage = .single → s.items.length ≤ 1
  /-- A table holds no two of one key. -/
  indexed : ∀ field, r.storage = .indexed field → (s.items.map (Entity.keyOf field)).Nodup

namespace FitsRelationship

variable {r : Relationship} {s : Slot}

/-- The slot of a relationship in a new entity fits it. -/
theorem empty (r : Relationship) : FitsRelationship r (.ofRelationship r) where
  name_eq := rfl
  target_eq := rfl
  storage_eq := rfl
  className_eq item h := by simp [Slot.ofRelationship, Slot.items] at h
  single _ := Nat.zero_le 1
  indexed _ _ := List.nodup_nil

/-- A slot that fits a relationship does so with one more entity of the class it leads to. -/
theorem insert (h : FitsRelationship r s) {item : Entity} (hitem : item.className = r.target) :
    FitsRelationship r (s.insert item) where
  name_eq := (Slot.name_insert s item).trans h.name_eq
  target_eq := (Slot.target_insert s item).trans h.target_eq
  storage_eq := (Slot.storage_insert s item).trans h.storage_eq
  className_eq d hd := by
    rcases Slot.mem_items_insert hd with rfl | hd
    · exact hitem
    · exact h.className_eq d hd
  single hr := by
    rw [Slot.insert, h.storage_eq, hr]
    exact (Slot.items_withItems s _).symm ▸ le_rfl
  indexed field hr := by
    have hkeys := h.indexed field hr
    rw [Slot.insert, h.storage_eq, hr]
    show ((s.withItems _).items.map _).Nodup
    rw [Slot.items_withItems, Slot.map_keyOf_putEntry]
    split
    · exact hkeys
    · next hnew => exact List.nodup_append.2 ⟨hkeys, List.nodup_singleton _, by grind⟩

/-- A slot that fits a relationship does so with some of its entities. -/
theorem withItems (h : FitsRelationship r s) {items : List Entity}
    (hitems : items.Sublist s.items) :
    FitsRelationship r (s.withItems items) where
  name_eq := (Slot.name_withItems s items).trans h.name_eq
  target_eq := (Slot.target_withItems s items).trans h.target_eq
  storage_eq := (Slot.storage_withItems s items).trans h.storage_eq
  className_eq d hd := h.className_eq d (hitems.subset (Slot.items_withItems s items ▸ hd))
  single hr := by
    rw [Slot.items_withItems]
    exact hitems.length_le.trans (h.single hr)
  indexed field hr := by
    rw [Slot.items_withItems]
    exact (h.indexed field hr).sublist (hitems.map _)

/-- A slot that fits a relationship does so without an entity. -/
theorem erase (h : FitsRelationship r s) (item : Entity) : FitsRelationship r (s.erase item) := by
  obtain ⟨items, heq, hitems⟩ := s.exists_erase_eq item
  rw [heq]
  exact h.withItems hitems

end FitsRelationship

namespace Entity

/-- A change of an entity. -/
inductive Step where
  /-- Adds an entity to a relationship. -/
  | add (relationship : String) (item : Entity)
  /-- Removes an entity from a relationship. -/
  | remove (relationship : String) (item : Entity)
  /-- Sets an attribute. -/
  | setAttribute (name : String) (value : Option Json)

/-- The relationship that a change is about, if it is about one. -/
def Step.relationship? : Step → Option String
  | add relationship _ => some relationship
  | remove relationship _ => some relationship
  | setAttribute _ _ => none

/-- Makes a change. -/
def perform (e : Entity) : Step → Except Failure Entity
  | .add relationship item => e.add relationship item
  | .remove relationship item => e.remove relationship item
  | .setAttribute name value => e.setAttribute name value

/-- The entity after a change; a change that fails leaves it as it was. -/
def after (e : Entity) (step : Step) : Entity :=
  match e.perform step with
  | .ok changed => changed
  | .error _ => e

/-- The entity after a history of changes. -/
def run (e : Entity) (history : List Step) : Entity := history.foldl after e

end Entity

/-- The slot after a change of its entity. -/
def Slot.after (s : Slot) : Entity.Step → Slot
  | .add relationship item =>
    if relationship = s.name ∧ item.className = s.target then s.insert item else s
  | .remove relationship item => if relationship = s.name then s.erase item else s
  | .setAttribute _ _ => s

/-- A change of another relationship leaves a slot as it is. -/
theorem Slot.after_of_ne {s : Slot} {step : Entity.Step}
    (h : step.relationship? ≠ some s.name) : s.after step = s := by
  cases step with
  | add relationship item =>
    rw [Slot.after, if_neg fun hname => h (congrArg some hname.1)]
  | remove relationship item =>
    rw [Slot.after, if_neg fun hname => h (congrArg some hname)]
  | setAttribute name value => rfl

/-- A change keeps the name of a slot. -/
theorem Slot.name_after (s : Slot) (step : Entity.Step) : (s.after step).name = s.name := by
  cases step with
  | add relationship item =>
    rw [Slot.after]
    split
    · exact Slot.name_insert s item
    · rfl
  | remove relationship item =>
    rw [Slot.after]
    split
    · obtain ⟨items, heq, -⟩ := s.exists_erase_eq item
      rw [heq, Slot.name_withItems]
    · rfl
  | setAttribute name value => rfl

/-- A slot that fits a relationship does so after a change. -/
theorem FitsRelationship.after {r : Relationship} {s : Slot} (h : FitsRelationship r s)
    (step : Entity.Step) : FitsRelationship r (s.after step) := by
  cases step with
  | add relationship item =>
    rw [Slot.after]
    split
    · next hitem => exact h.insert (hitem.2.trans h.target_eq)
    · exact h
  | remove relationship item =>
    rw [Slot.after]
    split
    · exact h.erase item
    · exact h
  | setAttribute name value => exact h

/-- A slot that fits a relationship does so after a history. -/
theorem FitsRelationship.run {r : Relationship} {s : Slot} (h : FitsRelationship r s)
    (history : List Entity.Step) : FitsRelationship r (history.foldl Slot.after s) := by
  induction history generalizing s with
  | nil => exact h
  | cons step rest ih => exact ih (h.after step)

namespace Entity

/-- The slot that is found under a name has it. -/
theorem name_of_slot? {e : Entity} {name : String} {s : Slot} (h : e.slot? name = some s) :
    s.name = name := by
  have hname := List.find?_some h
  simpa using hname

/-- A slot is there if it is found. -/
theorem slot_eq_ok_iff {e : Entity} {name : String} {s : Slot} :
    e.slot name = .ok s ↔ e.slot? name = some s := by
  rw [slot]
  cases e.slot? name <;> simp

/-- After a slot has been replaced by another one of the name, this is found, and the others are
found as they were. -/
theorem slot?_withSlot {e : Entity} {name : String} {s t : Slot} (hs : e.slot? name = some s)
    (ht : t.name = name) (other : String) :
    (e.withSlot name t).slot? other = if other = name then some t else e.slot? other := by
  obtain ⟨className, attributes, slots⟩ := e
  replace hs : slots.find? (·.name == name) = some s := hs
  show (replaceSlot name t slots).find? (·.name == other) =
    if other = name then some t else slots.find? (·.name == other)
  induction slots with
  | nil => simp at hs
  | cons u rest ih =>
    rw [replaceSlot]
    by_cases hu : u.name = name
    · by_cases hother : other = name
      · simp [hu, hother, ht]
      · simp [hu, ht, hother, Ne.symm hother]
    · rw [List.find?_cons_of_neg (by simpa using hu)] at hs
      rw [if_neg hu, List.find?_cons, List.find?_cons, ih hs]
      by_cases hother : other = name
      · simp [hother, beq_false_of_ne hu]
      · simp [hother]

/-- Setting an attribute changes no slot. -/
theorem slots_of_setAttribute {e changed : Entity} {name : String} {value : Option Json}
    (h : e.setAttribute name value = .ok changed) : changed.slots = e.slots := by
  obtain ⟨className, attributes, slots⟩ := e
  rw [setAttribute] at h
  split at h
  · obtain rfl := Except.ok.inj h
    rfl
  · simp at h

/-- Setting an attribute keeps the class of an entity. -/
theorem className_of_setAttribute {e changed : Entity} {name : String} {value : Option Json}
    (h : e.setAttribute name value = .ok changed) : changed.className = e.className := by
  obtain ⟨className, attributes, slots⟩ := e
  rw [setAttribute] at h
  split at h
  · obtain rfl := Except.ok.inj h
    rfl
  · simp at h

/-- A history of changes keeps the class of an entity. -/
theorem className_run (e : Entity) (history : List Step) :
    (e.run history).className = e.className := by
  have hstep : ∀ (e : Entity) (step : Step), (e.after step).className = e.className := by
    intro e step
    rw [after]
    split
    · next changed h =>
      cases step with
      | add relationship item => exact className_of_add h
      | remove relationship item =>
        obtain ⟨s, -, hremove⟩ := Chain.bind_eq_ok_iff.1 h
        obtain rfl := Except.ok.inj hremove
        cases e
        rfl
      | setAttribute name value => exact className_of_setAttribute h
    · rfl
  induction history generalizing e with
  | nil => rfl
  | cons step rest ih => exact (ih (e.after step)).trans (hstep e step)

section After

variable {e : Entity} {step : Step} {relationship : String}
  (hstep : step.relationship? = some relationship)
include hstep

/-- Slots of other names than that of the relationship stay. -/
theorem map_after_of_ne {name : String} (hname : name ≠ relationship) :
    (e.slot? name).map (fun s => s.after step) = e.slot? name := by
  cases hs : e.slot? name with
  | none => rfl
  | some s =>
    have hne : step.relationship? ≠ some s.name := by
      rw [hstep, name_of_slot? hs]
      exact fun h => hname (Option.some.inj h).symm
    rw [Option.map_some, Slot.after_of_ne hne]

/-- A change that leaves the slot of its relationship as it is leaves all slots. -/
theorem map_after_of_eq (h : ∀ s, e.slot? relationship = some s → s.after step = s)
    (name : String) : (e.slot? name).map (fun s => s.after step) = e.slot? name := by
  by_cases hname : name = relationship
  · subst hname
    cases hs : e.slot? name with
    | none => rfl
    | some s => rw [Option.map_some, h s hs]
  · exact map_after_of_ne hstep hname

/-- Replacing the slot of the relationship is a change of this slot alone. -/
theorem slot?_withSlot_after {s : Slot} (hs : e.slot? relationship = some s) (name : String) :
    (e.withSlot relationship (s.after step)).slot? name =
      (e.slot? name).map fun s => s.after step := by
  rw [slot?_withSlot hs ((s.name_after step).trans (name_of_slot? hs))]
  split
  · next heq => rw [heq, hs, Option.map_some]
  · next hne => exact (map_after_of_ne hstep hne).symm

/-- A change of a relationship that the entity has not leaves the entity as it is. -/
theorem after_of_slot?_eq_none (hs : e.slot? relationship = none) : e.after step = e := by
  cases step with
  | add other item =>
    obtain rfl := Option.some.inj hstep
    simp [after, perform, add, slot, hs, bind, Except.bind]
  | remove other item =>
    obtain rfl := Option.some.inj hstep
    simp [after, perform, remove, slot, hs, bind, Except.bind]
  | setAttribute name value => cases hstep

/-- A change of a relationship replaces its slot, or leaves the entity and the slot as they are. -/
theorem after_of_slot?_eq_some {s : Slot} (hs : e.slot? relationship = some s) :
    e.after step = e.withSlot relationship (s.after step) ∨
      e.after step = e ∧ s.after step = s := by
  have hname := name_of_slot? hs
  cases step with
  | add other item =>
    obtain rfl := Option.some.inj hstep
    by_cases hitem : item.className = s.target
    · rw [Slot.after, if_pos ⟨hname.symm, hitem⟩]
      exact .inl (by simp [after, perform, add, slot, hs, bind, Except.bind, hitem])
    · rw [Slot.after, if_neg fun h => hitem h.2]
      exact .inr ⟨by simp [after, perform, add, slot, hs, bind, Except.bind, hitem], rfl⟩
  | remove other item =>
    obtain rfl := Option.some.inj hstep
    rw [Slot.after, if_pos hname.symm]
    exact .inl (by simp [after, perform, remove, slot, hs, bind, Except.bind])
  | setAttribute name value => cases hstep

end After

/-- A change that is about no relationship changes no slot. -/
theorem slots_after {step : Step} (hstep : step.relationship? = none) (e : Entity) :
    (e.after step).slots = e.slots ∧ ∀ s : Slot, s.after step = s := by
  cases step with
  | setAttribute name value =>
    refine ⟨?_, fun s => rfl⟩
    rw [after]
    split
    · next h => exact slots_of_setAttribute h
    · rfl
  | _ => cases hstep

/-- A change changes the slot of its relationship and no other. -/
theorem slot?_after (e : Entity) (step : Step) (name : String) :
    (e.after step).slot? name = (e.slot? name).map fun s => s.after step := by
  cases hstep : step.relationship? with
  | none =>
    obtain ⟨hslots, hsame⟩ := slots_after hstep e
    simp only [slot?, hslots, hsame, Option.map_id']
  | some relationship =>
    cases hs : e.slot? relationship with
    | none =>
      rw [after_of_slot?_eq_none hstep hs, map_after_of_eq hstep fun s h => by simp [hs] at h]
    | some s =>
      rcases after_of_slot?_eq_some hstep hs with hreplaced | ⟨hkept, hsame⟩
      · rw [hreplaced, slot?_withSlot_after hstep hs]
      · rw [hkept, map_after_of_eq hstep fun t ht => ?_]
        obtain rfl := Option.some.inj (hs.symm.trans ht)
        exact hsame

/-- After a history the slot of a name is what the history made of it. -/
theorem slot?_run (e : Entity) (history : List Step) (name : String) :
    (e.run history).slot? name = (e.slot? name).map fun s => history.foldl Slot.after s := by
  induction history generalizing e with
  | nil =>
    show e.slot? name = (e.slot? name).map id
    rw [Option.map_id, id]
  | cons step rest ih =>
    show ((e.after step).run rest).slot? name = _
    rw [ih, slot?_after, Option.map_map]
    rfl

end Entity

/-- What setting each attribute keeps, setting all of them keeps. -/
theorem Binding.setAll_invariant {P : Entity → Prop} {parameters : Parameters} {start e : Entity}
    (hset : ∀ p ∈ parameters, ∀ e changed : Entity, P e → e.setAttribute p.1 p.2 = .ok changed →
      P changed)
    (hstart : P start) (h : setAll start parameters = .ok e) : P e := by
  induction parameters generalizing start with
  | nil => exact Except.ok.inj h ▸ hstart
  | cons p rest ih =>
    obtain ⟨next, hnext, hrest⟩ := Chain.bind_eq_ok_iff.1 h
    exact ih (fun q hq => hset q (List.mem_cons_of_mem p hq))
      (hset p List.mem_cons_self _ _ hstart hnext) hrest

/-- Setting attributes changes no slot. -/
theorem Binding.slots_of_setAll {e changed : Entity} {parameters : Parameters}
    (h : setAll e parameters = .ok changed) : changed.slots = e.slots :=
  setAll_invariant (P := fun d => d.slots = e.slots)
    (fun _ _ _ _ hslots hset => (Entity.slots_of_setAttribute hset).trans hslots) rfl h

/-- A new entity has the class that it is bound to. -/
theorem Binding.className_of_construct {b : Binding} {parameters : Parameters} {e : Entity}
    (h : b.construct parameters = .ok e) : e.className = b.className :=
  setAll_invariant (P := fun d => d.className = b.className)
    (fun _ _ _ _ hclass hset => (Entity.className_of_setAttribute hset).trans hclass) rfl h

/-- The slots of a new entity are the empty slots of the relationships that it is bound to. -/
theorem Binding.slot?_of_construct {b : Binding} {parameters : Parameters} {e : Entity}
    (h : b.construct parameters = .ok e) (name : String) :
    e.slot? name = (b.relationships.find? (·.name == name)).map Slot.ofRelationship := by
  have hslots : e.slots = b.relationships.map Slot.ofRelationship := slots_of_setAll h
  rw [Entity.slot?, hslots, List.find?_map]
  rfl

end DocSchema
