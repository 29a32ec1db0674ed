import DocSchema.Proofs.Entity.Equality

/-!
# What sequences and single slots hold after a history

Equal entities may stand in a sequence more than once. `SequenceOf` goes through a history: what is
added comes last, and a removal takes away the earliest entity that is equal to the one it names.
So the entities that are equal to some entity are as many as a count along the history says
(`SequenceOf.countP_eq`), where a removal counts only if something is left; that rests on equality
being an equivalence, which it is on entities that the operations make. A single slot holds what was
last added unless an equal entity has been removed since (`LastAdded`). `Entity.keepsOrder_run` says
this of every sequence and every single slot of a new entity after any history.
-/

namespace DocSchema

namespace Slot

variable {item d : Entity} {items : List Entity}

/-- What removing an equal entity does: nothing, if there is none, or it takes the earliest away. -/
theorem removeEqual_cases (item : Entity) (items : List Entity) :
    (∀ e ∈ items, e.same item = false) ∧ removeEqual item items = items ∨
      ∃ front d back, items = front ++ d :: back ∧ d.same item = true ∧
        (∀ e ∈ front, e.same item = false) ∧ removeEqual item items = front ++ back := by
  induction items with
  | nil => exact .inl ⟨nofun, rfl⟩
  | cons e rest ih =>
    rw [removeEqual]
    cases he : e.same item with
    | true => exact .inr ⟨[], e, rest, rfl, he, nofun, rfl⟩
    | false =>
      rcases ih with ⟨hnone, hsame⟩ | ⟨front, d, back, rfl, hequal, hfront, hsame⟩
      · exact .inl ⟨List.forall_mem_cons.2 ⟨he, hnone⟩, congrArg (e :: ·) hsame⟩
      · exact .inr ⟨e :: front, d, back, rfl, hequal, List.forall_mem_cons.2 ⟨he, hfront⟩,
          congrArg (e :: ·) hsame⟩

/-- Removing an entity from a slot that is no table takes the earliest equal one away. -/
theorem items_erase {s : Slot} (hs : s.storage.indexField? = none) (item : Entity) :
    (s.erase item).items = removeEqual item s.items := by
  rw [erase]
  cases hstorage : s.storage with
  | indexed field => simp [hstorage, Storage.indexField?] at hs
  | _ => exact items_withItems s _

end Slot

namespace Entity

/-- The entity that a change adds or removes, if it does. -/
def Step.item? : Step → Option Entity
  | add _ item => some item
  | remove _ item => some item
  | setAttribute _ _ => none

/-- The entities that a history names are made by the operations. -/
def NamesMade (history : List Step) : Prop :=
  ∀ step ∈ history, ∀ item, step.item? = some item → item.Made

/-- The second list holds entities that are equal to those of the first, in some order. -/
def SameBag (items others : List Entity) : Prop :=
  ∃ rearranged, rearranged.Perm others ∧
    List.Forall₂ (fun d f => d.same f = true) items rearranged

section History

variable (r : Relationship)

/-- A change adds an entity to a relationship: the entity is of the class that this leads to. -/
def Step.Adds (step : Step) (item : Entity) : Prop :=
  step = .add r.name item ∧ item.className = r.target

/-- A change names an entity that is to be removed from a relationship. -/
def Step.Removes (step : Step) (item : Entity) : Prop := step = .remove r.name item

/-- The entities of a sequence as a history leaves them. -/
inductive SequenceOf : List Step → List Entity → Prop where
  /-- Nothing is there without a history. -/
  | nil : SequenceOf [] []
  /-- What is added comes last. -/
  | added {history : List Step} {items : List Entity} {step : Step} {item : Entity}
    (h : SequenceOf history items) (hadd : step.Adds r item) :
    SequenceOf (history ++ [step]) (items ++ [item])
  /-- A removal takes the earliest equal entity away. -/
  | removed {history : List Step} {front back : List Entity} {d : Entity} {step : Step}
    {item : Entity} (h : SequenceOf history (front ++ d :: back)) (hremove : step.Removes r item)
    (hequal : d.same item = true) (hearliest : ∀ e ∈ front, e.same item = false) :
    SequenceOf (history ++ [step]) (front ++ back)
  /-- It changes nothing if there is none. -/
  | absent {history : List Step} {items : List Entity} {step : Step} {item : Entity}
    (h : SequenceOf history items) (hremove : step.Removes r item)
    (hnone : ∀ e ∈ items, e.same item = false) : SequenceOf (history ++ [step]) items
  /-- Nor does any other change. -/
  | other {history : List Step} {items : List Entity} {step : Step} (h : SequenceOf history items)
    (hadd : ∀ item, ¬ step.Adds r item) (hremove : ∀ item, ¬ step.Removes r item) :
    SequenceOf (history ++ [step]) items

/-- An entity was added, nothing has been added since, and no equal entity removed. -/
def LastAdded (history : List Step) (item : Entity) : Prop :=
  ∃ before step since, history = before ++ step :: since ∧ step.Adds r item ∧
    ∀ later ∈ since, (∀ d, ¬ later.Adds r d) ∧ ∀ d, later.Removes r d → item.same d = false

/-- How many entities equal to some entity there are after one more change: one more, if one is
added, and one less, if one is removed while there are some. -/
def tally (x : Entity) (count : ℕ) : Step → ℕ
  | .add name item =>
    if name = r.name ∧ item.className = r.target ∧ item.same x = true then count + 1 else count
  | .remove name item => if name = r.name ∧ item.same x = true then count - 1 else count
  | .setAttribute _ _ => count

end History

variable {r : Relationship} {history : List Step} {step : Step} {items : List Entity}
  {item d : Entity} {s : Slot}

/-- A change of the slot of a relationship: it adds an entity, removes one, or leaves the slot as it
is. -/
theorem slot_after_cases (hs : FitsRelationship r s) (step : Step) :
    (∃ item, step.Adds r item ∧ s.after step = s.insert item) ∨
    (∃ item, step.Removes r item ∧ s.after step = s.erase item) ∨
    (∀ item, ¬ step.Adds r item) ∧ (∀ item, ¬ step.Removes r item) ∧ s.after step = s := by
  cases step with
  | add relationship item =>
    rw [Slot.after, hs.name_eq, hs.target_eq]
    split
    · next h => exact .inl ⟨item, ⟨congrArg (Step.add · item) h.1, h.2⟩, rfl⟩
    · next h =>
      refine .inr (.inr ⟨fun d hadd => h ?_, fun d hremove => ?_, rfl⟩)
      · obtain ⟨rfl, rfl⟩ := Step.add.inj hadd.1
        exact ⟨rfl, hadd.2⟩
      · cases hremove
  | remove relationship item =>
    rw [Slot.after, hs.name_eq]
    split
    · next h => exact .inr (.inl ⟨item, congrArg (Step.remove · item) h, rfl⟩)
    · next h =>
      refine .inr (.inr ⟨fun d hadd => ?_, fun d hd => h (Step.remove.inj hd).1, rfl⟩)
      cases hadd.1
  | setAttribute name value =>
    refine .inr (.inr ⟨fun d hadd => ?_, fun d hremove => ?_, rfl⟩)
    · cases hadd.1
    · cases hremove

/-- So do the changes before the last one. -/
theorem NamesMade.front (h : NamesMade (history ++ [step])) : NamesMade history :=
  fun step hstep => h step (List.mem_append_left _ hstep)

/-- The entity that the last change names is tidy. -/
theorem NamesMade.tidy_last (h : NamesMade (history ++ [step])) (hitem : step.item? = some item) :
    item.Tidy :=
  (h step (List.mem_append_right _ (List.mem_singleton_self _)) item hitem).tidy

namespace SequenceOf

/-- A sequence is as its history leaves it, one change further. -/
theorem after (h : SequenceOf r history s.items) (hs : FitsRelationship r s)
    (hr : r.storage = .sequence) (step : Step) :
    SequenceOf r (history ++ [step]) (s.after step).items := by
  have hsequence : s.storage = .sequence := hs.storage_eq.trans hr
  rcases slot_after_cases hs step with ⟨item, hadd, heq⟩ | ⟨item, hremove, heq⟩ |
    ⟨hadd, hremove, heq⟩ <;> rw [heq]
  · rw [Slot.items_insert_sequence item hsequence]
    exact h.added hadd
  · rw [Slot.items_erase (by rw [hsequence]; rfl)]
    rcases Slot.removeEqual_cases item s.items with ⟨hnone, hsame⟩ |
      ⟨front, d, back, hitems, hequal, hfront, hsame⟩ <;> rw [hsame]
    · exact h.absent hremove hnone
    · exact (hitems ▸ h).removed hremove hequal hfront
  · exact h.other hadd hremove

/-- A sequence of a new entity is as every history leaves it. -/
theorem run (hr : r.storage = .sequence) (history : List Step) :
    SequenceOf r history (history.foldl Slot.after (.ofRelationship r)).items := by
  induction history using List.reverseRecOn with
  | nil => exact nil
  | append_singleton front step ih =>
    rw [List.foldl_append]
    exact ih.after ((FitsRelationship.empty r).run front) hr step

/-- What a sequence holds was added to it. -/
theorem exists_adds (h : SequenceOf r history items) (hitem : item ∈ items) :
    ∃ step ∈ history, step.Adds r item := by
  induction h with
  | nil => cases hitem
  | added _ hadd ih =>
    rcases List.mem_append.1 hitem with hold | hnew
    · obtain ⟨step, hstep, hadds⟩ := ih hold
      exact ⟨step, List.mem_append_left _ hstep, hadds⟩
    · obtain rfl := List.mem_singleton.1 hnew
      exact ⟨_, List.mem_append_right _ (List.mem_singleton_self _), hadd⟩
  | removed _ _ _ _ ih =>
    obtain ⟨step, hstep, hadds⟩ := ih (by grind)
    exact ⟨step, List.mem_append_left _ hstep, hadds⟩
  | absent _ _ _ ih | other _ _ _ ih =>
    obtain ⟨step, hstep, hadds⟩ := ih hitem
    exact ⟨step, List.mem_append_left _ hstep, hadds⟩

/-- What a sequence holds is tidy, if the operations make what the history names. -/
theorem tidy (h : SequenceOf r history items) (hmade : NamesMade history) :
    ∀ item ∈ items, item.Tidy := by
  intro item hitem
  obtain ⟨step, hstep, hadds⟩ := h.exists_adds hitem
  exact (hmade step hstep item (by rw [hadds.1]; rfl)).tidy

/-- The entities of a sequence that are equal to some entity are as many as the count along the
history says. -/
theorem countP_eq (h : SequenceOf r history items) (hmade : NamesMade history) (x : Entity) :
    (items.countP fun d => d.same x) = history.foldl (tally r x) 0 := by
  induction h with
  | nil => rfl
  | @added history items step item h hadd ih =>
    obtain ⟨rfl, hclass⟩ := hadd
    rw [List.foldl_append, ← ih hmade.front, List.countP_append, List.countP_singleton]
    simp only [List.foldl_cons, List.foldl_nil, tally, true_and, hclass]
    split <;> rfl
  | @removed history front back d step item h hremove hequal hearliest ih =>
    obtain rfl : step = .remove r.name item := hremove
    have hitem : item.Tidy := hmade.tidy_last rfl
    have hd : d.Tidy := h.tidy hmade.front d (by simp)
    -- The entity that goes is equal to `x` if and only if the one that is named is.
    have hiff : d.same x = item.same x := by
      rw [Bool.eq_iff_iff]
      exact ⟨hitem.same_trans (hd.same_symm hequal), hd.same_trans hequal⟩
    have hcount := ih hmade.front
    rw [List.countP_append, List.countP_cons, hiff] at hcount
    rw [List.foldl_append, ← hcount, List.countP_append]
    simp only [List.foldl_cons, List.foldl_nil, tally, true_and]
    split <;> omega
  | @absent history items step item h hremove hnone ih =>
    obtain rfl : step = .remove r.name item := hremove
    have hitem : item.Tidy := hmade.tidy_last rfl
    rw [List.foldl_append, ← ih hmade.front]
    simp only [List.foldl_cons, List.foldl_nil, tally, true_and]
    split
    · next hx =>
      have hzero : (items.countP fun d => d.same x) = 0 := by
        refine List.countP_eq_zero.2 fun e he hex => ?_
        have hsame := (h.tidy hmade.front e he).same_trans hex (hitem.same_symm hx)
        rw [hnone e he] at hsame
        cases hsame
      rw [hzero]
    · rfl
  | @other history items step h hadd hremove ih =>
    rw [List.foldl_append, ← ih hmade.front]
    cases step with
    | add name item =>
      have hnot : ¬ (name = r.name ∧ item.className = r.target ∧ item.same x = true) :=
        fun hall => hadd item ⟨congrArg (Step.add · item) hall.1, hall.2.1⟩
      exact (if_neg hnot).symm
    | remove name item =>
      have hnot : ¬ (name = r.name ∧ item.same x = true) :=
        fun hall => hremove item (congrArg (Step.remove · item) hall.1)
      exact (if_neg hnot).symm
    | setAttribute name value => rfl

end SequenceOf

/-- What is added to a sequence and removed again leaves the entities as they were, up to equality
and order. -/
theorem sameBag_removeEqual {x : Entity} (hx : x.Tidy) (hitems : ∀ item ∈ items, item.Tidy) :
    SameBag items (Slot.removeEqual x (items ++ [x])) := by
  have hself : ∀ {some : List Entity}, (∀ item ∈ some, item.Tidy) →
      List.Forall₂ (fun d f => d.same f = true) some some :=
    fun h => List.forall₂_same.2 fun item hitem => (h item hitem).same_refl
  rcases Slot.removeEqual_cases x (items ++ [x]) with ⟨hnone, -⟩ |
    ⟨front, d, back, heq, hequal, -, hremoved⟩
  · have hdiffers := hnone x (List.mem_append_right _ (List.mem_singleton_self x))
    rw [hx.same_refl] at hdiffers
    cases hdiffers
  · rw [hremoved]
    rcases List.eq_nil_or_concat' back with rfl | ⟨middle, last, rfl⟩
    · -- The new entity itself goes.
      obtain ⟨rfl, -⟩ := List.append_inj' heq rfl
      rw [List.append_nil]
      exact ⟨items, .refl items, hself hitems⟩
    · -- An earlier one goes, and the new one is there instead of it.
      rw [← List.cons_append, ← List.append_assoc] at heq
      obtain ⟨rfl, hlast⟩ := List.append_inj' heq rfl
      obtain rfl := List.head_eq_of_cons_eq hlast
      refine ⟨front ++ x :: middle, ?_, ?_⟩
      · rw [← List.append_assoc]
        exact List.perm_middle.trans (List.perm_append_singleton x (front ++ middle)).symm
      · have hfront := hself fun item hitem => hitems item (List.mem_append_left _ hitem)
        have hmiddle := hself fun item hitem =>
          hitems item (List.mem_append_right _ (List.mem_cons_of_mem d hitem))
        exact List.rel_append hfront (.cons hequal hmiddle)

/-- One more change adds an entity to a single slot itself, or leaves the one that was last added,
unless it adds another one or removes an equal one. -/
theorem lastAdded_concat_iff : LastAdded r (history ++ [step]) item ↔ step.Adds r item ∨
    LastAdded r history item ∧ (∀ d, ¬ step.Adds r d) ∧
      ∀ d, step.Removes r d → item.same d = false := by
  constructor
  · rintro ⟨before, adding, since, heq, hadd, hsince⟩
    rcases List.eq_nil_or_concat' since with rfl | ⟨since, last, rfl⟩
    · obtain ⟨-, hlast⟩ := List.append_inj' heq rfl
      obtain rfl := List.head_eq_of_cons_eq hlast
      exact .inl hadd
    · rw [← List.cons_append, ← List.append_assoc] at heq
      obtain ⟨hhistory, hlast⟩ := List.append_inj' heq rfl
      obtain rfl := List.head_eq_of_cons_eq hlast
      rw [List.forall_mem_append, List.forall_mem_singleton] at hsince
      exact .inr ⟨⟨before, adding, since, hhistory, hadd, hsince.1⟩, hsince.2⟩
  · rintro (hadd | ⟨⟨before, adding, since, rfl, hadd, hsince⟩, hstep⟩)
    · exact ⟨history, step, [], rfl, hadd, nofun⟩
    · refine ⟨before, adding, since ++ [step], by simp, hadd, ?_⟩
      rw [List.forall_mem_append, List.forall_mem_singleton]
      exact ⟨hsince, hstep⟩

/-- A change keeps a single slot in step with its history. -/
theorem mem_after_iff (h : ∀ item, item ∈ s.items ↔ LastAdded r history item)
    (hs : FitsRelationship r s) (hr : r.storage = .single) (step : Step) (item : Entity) :
    item ∈ (s.after step).items ↔ LastAdded r (history ++ [step]) item := by
  have hsingle : s.storage = .single := hs.storage_eq.trans hr
  rw [lastAdded_concat_iff, ← h]
  rcases slot_after_cases hs step with ⟨d, hadd, heq⟩ | ⟨d, hremove, heq⟩ |
    ⟨hadd, hremove, heq⟩ <;> rw [heq]
  · rw [Slot.items_insert_single d hsingle, List.mem_singleton]
    constructor
    · rintro rfl
      exact .inl hadd
    · rintro (hitem | ⟨-, hnone, -⟩)
      · exact (Step.add.inj (hitem.1.symm.trans hadd.1)).2
      · exact absurd hadd (hnone d)
  · obtain rfl : step = .remove r.name d := hremove
    have hadds : ∀ f, ¬ (Step.remove r.name d).Adds r f := fun f hf => nomatch hf.1
    have hremoves : ∀ f, (Step.remove r.name d).Removes r f ↔ f = d := by
      intro f
      simp [Step.Removes, eq_comm]
    rw [Slot.items_erase (by rw [hsingle]; rfl)]
    simp only [hadds, hremoves, false_or, not_false_eq_true, implies_true, true_and, forall_eq]
    have hlength := hs.single hr
    generalize s.items = items at hlength
    match items with
    | [] => simp [Slot.removeEqual]
    | [e] =>
      rw [Slot.removeEqual, Slot.removeEqual, List.mem_singleton]
      cases he : e.same d with
      | true =>
        simp only [if_true, List.not_mem_nil, false_iff, not_and, Bool.not_eq_false]
        rintro rfl
        exact he
      | false =>
        simp only [Bool.false_eq_true, if_false, List.mem_singleton, iff_self_and]
        rintro rfl
        exact he
    | _ :: _ :: _ => simp at hlength
  · simp [hadd, hremove]

/-- A single slot of a new entity holds what a history added last. -/
theorem mem_run_iff (hr : r.storage = .single) (history : List Step) (item : Entity) :
    item ∈ (history.foldl Slot.after (.ofRelationship r)).items ↔ LastAdded r history item := by
  induction history using List.reverseRecOn generalizing item with
  | nil => simp [LastAdded, Slot.ofRelationship, Slot.items]
  | append_singleton front step ih =>
    rw [List.foldl_append]
    exact mem_after_iff ih ((FitsRelationship.empty r).run front) hr step item

section Operations

variable {e : Entity} {name : String}

/-- The iteration of a relationship gives what its slot holds. -/
theorem iter_of_slot (hslot : e.slot name = .ok s) : e.iter name = .ok s.items := by
  simp [iter, hslot, bind, Except.bind]

/-- An entity of the class that a relationship leads to is added to its slot; no other one is. -/
theorem add_of_slot (hslot : e.slot name = .ok s) (item : Entity) : e.add name item =
    if item.className = s.target then .ok (e.withSlot name (s.insert item))
    else .error (.typeMismatch e.className name s.target item.className) := by
  simp [add, hslot, bind, Except.bind]

/-- An entity is removed from the slot of a relationship. -/
theorem remove_of_slot (hslot : e.slot name = .ok s) (item : Entity) :
    e.remove name item = .ok (e.withSlot name (s.erase item)) := by
  simp [remove, hslot, bind, Except.bind]

/-- A slot that is put in the place of another one is that of the relationship from then on. -/
theorem slot_withSlot {t : Slot} (hslot : e.slot name = .ok s) (ht : t.name = name) :
    (e.withSlot name t).slot name = .ok t := by
  rw [slot_eq_ok_iff, slot?_withSlot (slot_eq_ok_iff.1 hslot) ht, if_pos rfl]

/-- An entity can be added to a sequence and removed again; equal entities are left. -/
theorem exists_add_remove (hslot : e.slot name = .ok s) (hsequence : s.storage = .sequence)
    (hitems : ∀ item ∈ s.items, item.Tidy) {x : Entity} (hx : x.Tidy)
    (hclass : x.className = s.target) : ∃ added removed others, e.add name x = .ok added ∧
      added.remove name x = .ok removed ∧ removed.iter name = .ok others ∧
        SameBag s.items others := by
  have hname : (s.insert x).name = name :=
    (Slot.name_insert s x).trans (name_of_slot? (slot_eq_ok_iff.1 hslot))
  have hinserted : (s.insert x).storage = .sequence := (Slot.storage_insert s x).trans hsequence
  have herased : ((s.insert x).erase x).name = name := by
    obtain ⟨items, heq, -⟩ := (s.insert x).exists_erase_eq x
    rw [heq, Slot.name_withItems, hname]
  have hadded := slot_withSlot hslot hname
  refine ⟨_, _, _, (add_of_slot hslot x).trans (if_pos hclass), remove_of_slot hadded x,
    iter_of_slot (slot_withSlot hadded herased), ?_⟩
  rw [Slot.items_erase (by rw [hinserted]; rfl), Slot.items_insert_sequence x hsequence]
  exact sameBag_removeEqual hx hitems

/-- The slots of a new entity after a history are those of its class, each after the history. -/
theorem slot?_run_of_construct {b : Binding} {parameters : Parameters} {start : Entity}
    (hstart : b.construct parameters = .ok start) (history : List Step) (name : String) :
    (start.run history).slot? name = (b.relationships.find? (·.name == name)).map fun r =>
      history.foldl Slot.after (.ofRelationship r) := by
  rw [slot?_run, Binding.slot?_of_construct hstart, Option.map_map]
  rfl

end Operations

/-- A sequence or a single slot of an entity of a class is as the changes of the entity ask. -/
structure KeepsOrder (b : Binding) (r : Relationship) (history : List Step) (e : Entity) :
    Prop where
  /-- The iteration of a sequence gives what the history leaves, in order. -/
  sequence : r.storage = .sequence → ∃ items, e.iter r.name = .ok items ∧ SequenceOf r history items
  /-- As many of them are equal to some entity as the count along the history says. -/
  count : r.storage = .sequence → ∀ items, e.iter r.name = .ok items →
    ∀ x, (items.countP fun d => d.same x) = history.foldl (tally r x) 0
  /-- What is added and removed again leaves equal entities. -/
  add_remove : r.storage = .sequence → ∀ items, e.iter r.name = .ok items →
    ∀ x : Entity, x.Made → x.className = r.target → ∃ added removed others,
      e.add r.name x = .ok added ∧ added.remove r.name x = .ok removed ∧
        removed.iter r.name = .ok others ∧ SameBag items others
  /-- The iteration of a single slot gives what was last added, if no equal entity was removed. -/
  single : r.storage = .single → ∃ found : Option Entity, e.iter r.name = .ok found.toList ∧
    ∀ item, found = some item ↔ LastAdded r history item
  /-- What is held is of the class that the relationship leads to. -/
  stored : ∀ items, e.iter r.name = .ok items → ∀ item ∈ items, item.className = r.target
  /-- An entity of this class can be added. -/
  add_ok : ∀ item, item.className = r.target → ∃ changed, e.add r.name item = .ok changed
  /-- One of another class is refused. -/
  mismatch : ∀ item, item.className ≠ r.target → e.add r.name item =
    .error (.typeMismatch b.className r.name r.target item.className)
  /-- So is any for a relationship that the class does not have. -/
  unknown : ∀ name, b.relationships.find? (·.name == name) = none → ∀ item, e.add name item =
    .error (.unknownRelationship b.className name)

/-- The sequences and single slots of a new entity are as its changes ask, whatever they are. -/
theorem keepsOrder_run {b : Binding} {parameters : Parameters} {start : Entity}
    (hstart : b.construct parameters = .ok start) {r : Relationship}
    (hr : b.relationships.find? (·.name == r.name) = some r) {history : List Step}
    (hmade : NamesMade history) : KeepsOrder b r history (start.run history) := by
  have hfits : FitsRelationship r (history.foldl Slot.after (.ofRelationship r)) :=
    (FitsRelationship.empty r).run history
  have hsequence := fun h => SequenceOf.run (r := r) h history
  have hsingle := fun h => mem_run_iff (r := r) h history
  have hslot? := slot?_run_of_construct hstart history
  have hslot : (start.run history).slot r.name =
      .ok (history.foldl Slot.after (.ofRelationship r)) := by
    rw [slot_eq_ok_iff, hslot?, hr]
    rfl
  have hclass : (start.run history).className = b.className :=
    (className_run start history).trans (Binding.className_of_construct hstart)
  generalize history.foldl Slot.after (.ofRelationship r) = s at hfits hsequence hsingle hslot
  generalize start.run history = e at hslot? hslot hclass
  have hiter : e.iter r.name = .ok s.items := iter_of_slot hslot
  refine
    { sequence := fun h => ⟨s.items, hiter, hsequence h⟩
      count := fun h items hitems x => ?_
      add_remove := fun h items hitems x hx hxclass => ?_
      single := fun h => ⟨s.items.head?, ?_, fun item => ?_⟩
      stored := fun items hitems => ?_
      add_ok := fun item hitem => ⟨_, (add_of_slot hslot item).trans (if_pos ?_)⟩
      mismatch := fun item hitem => ?_
      unknown := fun name hname item => ?_ }
  · obtain rfl := Except.ok.inj (hiter.symm.trans hitems)
    exact (hsequence h).countP_eq hmade x
  · obtain rfl := Except.ok.inj (hiter.symm.trans hitems)
    exact exists_add_remove hslot (hfits.storage_eq.trans h) ((hsequence h).tidy hmade) hx.tidy
      (hxclass.trans hfits.target_eq.symm)
  · rw [hiter, (head?_of_length_le_one (hfits.single h)).1]
  · exact ((head?_of_length_le_one (hfits.single h)).2 item).trans (hsingle h item)
  · obtain rfl := Except.ok.inj (hiter.symm.trans hitems)
    exact hfits.className_eq
  · exact hitem.trans hfits.target_eq.symm
  · rw [add_of_slot hslot, hfits.target_eq, if_neg hitem, hclass]
  · have hnone : e.slot? name = none := by rw [hslot?, hname]; rfl
    simp [add, slot, hnone, hclass, bind, Except.bind]

/-- The toys in a box, which are kept in order. -/
def toyList : Relationship := ⟨"toy", "box", "toy", .sequence, "toys"⟩

/-- The lid of a box. -/
def boxLid : Relationship := ⟨"lid", "box", "lid", .single, "lid"⟩

/-- The class of boxes. -/
def boxBinding : Binding := ⟨0, "box", "", ⟨"box", "box.rs"⟩, [], [toyList, boxLid]⟩

/-- The class of toys or of lids. -/
def thingBinding (className : String) : Binding :=
  ⟨0, className, "", ⟨className, className ++ ".rs"⟩, [⟨"kind", .any⟩], []⟩

/-- A toy or a lid of a kind. -/
def thing (className kind : String) : Entity := .mk className [("kind", some (.string kind))] []

/-- Two equal toys are put into a box with another one between them, and one of the kind is removed.
The first lid is replaced, so that removing it changes nothing, and neither do a toy as a lid and a
toy that is not there. -/
def boxHistory : List Step :=
  [.add "toy" (thing "toy" "ball"), .add "toy" (thing "toy" "car"), .add "lid" (thing "lid" "red"),
    .add "toy" (thing "toy" "ball"), .remove "toy" (thing "toy" "ball"),
    .add "lid" (thing "lid" "blue"), .remove "lid" (thing "lid" "red"),
    .add "lid" (thing "toy" "car"), .remove "toy" (thing "toy" "kite")]

/-- The operations make the toys and lids. -/
theorem namesMade_boxHistory : NamesMade boxHistory := by
  have hthing : ∀ className kind, (thing className kind).Made := by
    intro className kind
    have hconstruct : (thingBinding className).construct [("kind", some (.string kind))] =
        .ok (thing className kind) := rfl
    exact .construct (by simp [Json.Distinct]) hconstruct
  simp [NamesMade, boxHistory, Step.item?, hthing]

/-- The later ball stays behind the car, and the blue lid on the box. -/
theorem keepsOrder_run_boxHistory : ∃ start, boxBinding.construct [] = .ok start ∧
    KeepsOrder boxBinding toyList boxHistory (start.run boxHistory) ∧
    (start.run boxHistory).iter "toy" = .ok [thing "toy" "car", thing "toy" "ball"] ∧
    boxHistory.foldl (tally toyList (thing "toy" "ball")) 0 = 1 ∧
    KeepsOrder boxBinding boxLid boxHistory (start.run boxHistory) ∧
    (start.run boxHistory).iter "lid" = .ok [thing "lid" "blue"] := by
  have hstart : boxBinding.construct [] = .ok (.empty "box" [] [toyList, boxLid]) := rfl
  exact ⟨_, hstart, keepsOrder_run hstart rfl namesMade_boxHistory, by rfl, by rfl,
    keepsOrder_run hstart rfl namesMade_boxHistory, by rfl⟩

end Entity

end DocSchema
