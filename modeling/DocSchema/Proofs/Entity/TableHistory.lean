import DocSchema.Proofs.Entity.Changes

/-!
# What a table holds after a history

An entity enters a table under its key by an addition, and a removal takes away what is under the
key of the entity that it names, whichever entity that is. `PutAt` says of a position in a history
that an entity was put under a key there, and that the key has not been removed since. Of these
entities the last one is held (`Held`), and a key stands before another one if its first entity was
put there before any of the other (`Before`): replacing an entity keeps the place of its key,
removing it gives the place up. `Entity.keepsTable_run` says that every table of a new entity is
just this after any history of changes.
-/

namespace DocSchema

namespace Slot

variable {field key : String} {item d : Entity} {items : List Entity}

/-- A table into which an entity is put holds it and those of other keys. -/
theorem mem_putEntry_iff (h : (items.map (Entity.keyOf field)).Nodup) :
    d ∈ putEntry field item items ↔ d = item ∨ d ∈ items ∧ d.keyOf field ≠ item.keyOf field := by
  induction items with
  | nil => simp [putEntry]
  | cons e rest ih =>
    rw [List.map_cons, List.nodup_cons] at h
    rw [putEntry]
    split
    · next he =>
      have hrest : d ∈ rest → d.keyOf field ≠ item.keyOf field :=
        fun hd heq => h.1 (List.mem_map.2 ⟨d, hd, heq.trans he.symm⟩)
      grind
    · next he =>
      rw [List.mem_cons, ih h.2]
      grind

/-- A table from which a key is removed holds the entities of other keys. -/
theorem mem_removeKey_iff (h : (items.map (Entity.keyOf field)).Nodup) :
    d ∈ removeKey field key items ↔ d ∈ items ∧ d.keyOf field ≠ key := by
  induction items with
  | nil => simp [removeKey]
  | cons e rest ih =>
    rw [List.map_cons, List.nodup_cons] at h
    rw [removeKey]
    split
    · next he =>
      have hrest : d ∈ rest → d.keyOf field ≠ key :=
        fun hd heq => h.1 (List.mem_map.2 ⟨d, hd, heq.trans he.symm⟩)
      grind
    · next he =>
      rw [List.mem_cons, ih h.2]
      grind

end Slot

namespace Entity

section History

variable (r : Relationship) (field : String)

/-- A change puts an entity into the table of a relationship under a key: it adds the entity, which
is of the class of the table and has the key. -/
def Step.Puts (step : Step) (key : String) (item : Entity) : Prop :=
  step = .add r.name item ∧ item.className = r.target ∧ item.keyOf field = key

/-- A change removes a key from the table of a relationship: it names an entity with the key. -/
def Step.Drops (step : Step) (key : String) : Prop :=
  ∃ item, step = .remove r.name item ∧ item.keyOf field = key

/-- The change at a position of a history put an entity under a key, and no later one removed the
key. -/
def PutAt (history : List Step) (key : String) (position : ℕ) (item : Entity) : Prop :=
  (∃ step, history[position]? = some step ∧ step.Puts r field key item) ∧
    ∀ step ∈ history.drop (position + 1), ¬step.Drops r field key

/-- An entity is the last one that was put under a key since the key was last removed. -/
def Held (history : List Step) (key : String) (item : Entity) : Prop :=
  ∃ position, PutAt r field history key position item ∧
    ∀ later other, PutAt r field history key later other → later ≤ position

/-- Since both were last removed, a key was put into a table before another one was. -/
def Before (history : List Step) (key other : String) : Prop :=
  ∃ position item, PutAt r field history key position item ∧
    ∀ later d, PutAt r field history other later d → position < later

/-- A table as its history made it. -/
structure Follows (history : List Step) (items : List Entity) : Prop where
  /-- It holds the entities that were last put under their keys. -/
  mem_iff : ∀ item, item ∈ items ↔ Held r field history (item.keyOf field) item
  /-- They stand in the order in which their keys came in. -/
  ordered : (items.map (keyOf field)).Pairwise (Before r field history)

end History

variable {r : Relationship} {field key other : String} {history : List Step} {step : Step}
  {position : ℕ} {item d : Entity} {items : List Entity}

/-- A change that puts an entity under a key removes none. -/
theorem Step.Puts.not_drops (h : step.Puts r field key item) : ¬step.Drops r field other := by
  rintro ⟨d, hd, -⟩
  simp [h.1] at hd

/-- A change puts one entity under one key. -/
theorem Step.Puts.unique (h : step.Puts r field key item) (hd : step.Puts r field other d) :
    item = d ∧ key = other := by
  obtain ⟨hstep, -, hkey⟩ := h
  obtain ⟨hother, -, hdkey⟩ := hd
  obtain ⟨-, rfl⟩ := Step.add.inj (hstep.symm.trans hother)
  exact ⟨rfl, hkey.symm.trans hdkey⟩

/-- What was put into a table was put there during the history. -/
theorem PutAt.lt_length (h : PutAt r field history key position item) :
    position < history.length := by
  obtain ⟨⟨step, hstep, -⟩, -⟩ := h
  exact (List.getElem?_eq_some_iff.1 hstep).1

/-- What was put under a key has the key. -/
theorem PutAt.keyOf_eq (h : PutAt r field history key position item) : item.keyOf field = key := by
  obtain ⟨⟨step, -, hputs⟩, -⟩ := h
  exact hputs.2.2

/-- One more change leaves what was put under a key unless it removes the key, and it may put an
entity there itself. -/
theorem putAt_concat_iff :
    PutAt r field (history ++ [step]) key position item ↔
      PutAt r field history key position item ∧ ¬step.Drops r field key ∨
        position = history.length ∧ step.Puts r field key item := by
  rcases lt_trichotomy position history.length with hlt | rfl | hgt
  · have hdrop : (history ++ [step]).drop (position + 1) = history.drop (position + 1) ++ [step] :=
      List.drop_append_of_le_length hlt
    simp only [PutAt, List.getElem?_append_left hlt, hdrop, List.forall_mem_append,
      List.forall_mem_singleton, hlt.ne, false_and, or_false, and_assoc]
  · simp only [PutAt, List.getElem?_concat_length, Option.some.injEq, exists_eq_left']
    simp
  · have hold : ¬PutAt r field history key position item :=
      fun h => absurd h.lt_length (Nat.lt_asymm hgt)
    have hnew : ¬PutAt r field (history ++ [step]) key position item := fun h => by
      have hlt := h.lt_length
      simp only [List.length_append, List.length_singleton] at hlt
      omega
    simp [hold, hnew, hgt.ne']

/-- One more change leaves what a table holds under a key unless it removes the key or puts an
entity there, which is then the one that is held. -/
theorem held_concat_iff :
    Held r field (history ++ [step]) key item ↔
      step.Puts r field key item ∨ Held r field history key item ∧ ¬step.Drops r field key ∧
        ∀ d, ¬step.Puts r field key d := by
  constructor
  · rintro ⟨position, hput, hlast⟩
    rcases putAt_concat_iff.1 hput with ⟨hold, hkept⟩ | ⟨-, hnew⟩
    · refine .inr ⟨⟨position, hold, fun later d hd => ?_⟩, hkept, fun d hd => ?_⟩
      · exact hlast later d (putAt_concat_iff.2 (.inl ⟨hd, hkept⟩))
      · have hle := hlast _ d (putAt_concat_iff.2 (.inr ⟨rfl, hd⟩))
        exact absurd hold.lt_length (by omega)
    · exact .inl hnew
  · rintro (hnew | ⟨⟨position, hold, hlast⟩, hkept, hnone⟩)
    · refine ⟨history.length, putAt_concat_iff.2 (.inr ⟨rfl, hnew⟩), fun later d hd => ?_⟩
      have hlt := hd.lt_length
      simp only [List.length_append, List.length_singleton] at hlt
      omega
    · refine ⟨position, putAt_concat_iff.2 (.inl ⟨hold, hkept⟩), fun later d hd => ?_⟩
      rcases putAt_concat_iff.1 hd with ⟨hd, -⟩ | ⟨-, hd⟩
      · exact hlast later d hd
      · exact absurd hd (hnone d)

/-- A key keeps its place before another one until it is removed. -/
theorem Before.concat (h : Before r field history key other) (hstep : ¬step.Drops r field key) :
    Before r field (history ++ [step]) key other := by
  obtain ⟨position, item, hput, hfirst⟩ := h
  refine ⟨position, item, putAt_concat_iff.2 (.inl ⟨hput, hstep⟩), fun later d hd => ?_⟩
  rcases putAt_concat_iff.1 hd with ⟨hd, -⟩ | ⟨rfl, -⟩
  · exact hfirst later d hd
  · exact hput.lt_length

/-- A key that a table does not hold comes in behind those that it holds. -/
theorem Before.of_new (h : Held r field history key item)
    (hnew : ∀ position d, ¬PutAt r field history other position d)
    (hstep : step.Puts r field other d) : Before r field (history ++ [step]) key other := by
  obtain ⟨position, hput, -⟩ := h
  refine ⟨position, item, putAt_concat_iff.2 (.inl ⟨hput, hstep.not_drops⟩), fun later e he => ?_⟩
  rcases putAt_concat_iff.1 he with ⟨he, -⟩ | ⟨rfl, -⟩
  · exact absurd he (hnew later e)
  · exact hput.lt_length

/-- No key stands before itself. -/
theorem Before.ne (h : Before r field history key other) : key ≠ other := by
  rintro rfl
  obtain ⟨position, item, hput, hfirst⟩ := h
  exact lt_irrefl _ (hfirst position item hput)

/-- Where an entity was put under a key, one is held. -/
theorem PutAt.exists_held (h : PutAt r field history key position item) :
    ∃ d, Held r field history key d := by
  induction history using List.reverseRecOn generalizing position item with
  | nil => exact absurd h.lt_length (Nat.not_lt_zero _)
  | append_singleton front step ih =>
    by_cases hnew : ∃ d, step.Puts r field key d
    · obtain ⟨d, hd⟩ := hnew
      exact ⟨d, held_concat_iff.2 (.inl hd)⟩
    · rcases putAt_concat_iff.1 h with ⟨hold, hkept⟩ | ⟨-, hput⟩
      · obtain ⟨d, hd⟩ := ih hold
        exact ⟨d, held_concat_iff.2 (.inr ⟨hd, hkept, not_exists.1 hnew⟩)⟩
      · exact absurd ⟨item, hput⟩ hnew

/-- What is held under a key has the key. -/
theorem Held.keyOf_eq (h : Held r field history key item) : item.keyOf field = key := by
  obtain ⟨position, hput, -⟩ := h
  exact hput.keyOf_eq

namespace Follows

/-- A table is empty before any change. -/
theorem nil : Follows r field [] [] where
  mem_iff item := by
    refine iff_of_false (by simp) ?_
    rintro ⟨position, hput, -⟩
    exact absurd hput.lt_length (Nat.not_lt_zero _)
  ordered := .nil

/-- No two entities of a table have one key. -/
theorem nodup (h : Follows r field history items) : (items.map (keyOf field)).Nodup :=
  h.ordered.imp Before.ne

/-- A key that a table does not show has not been put there since it was last removed. -/
theorem not_putAt (h : Follows r field history items) (hkey : key ∉ items.map (keyOf field))
    (position : ℕ) (item : Entity) : ¬PutAt r field history key position item := by
  intro hput
  obtain ⟨d, hd⟩ := hput.exists_held
  have hmem : d ∈ items := (h.mem_iff d).2 (hd.keyOf_eq.symm ▸ hd)
  exact hkey (List.mem_map.2 ⟨d, hmem, hd.keyOf_eq⟩)

/-- An addition puts its entity in the place of the one with its key, or at the end. -/
theorem put (h : Follows r field history items) (hstep : step.Puts r field key item) :
    Follows r field (history ++ [step]) (Slot.putEntry field item items) where
  mem_iff d := by
    obtain rfl := hstep.2.2
    rw [Slot.mem_putEntry_iff h.nodup, held_concat_iff, h.mem_iff]
    constructor
    · rintro (rfl | ⟨hd, hne⟩)
      · exact .inl hstep
      · exact .inr ⟨hd, hstep.not_drops, fun e he => hne (hstep.unique he).2.symm⟩
    · rintro (hd | ⟨hd, -, hnone⟩)
      · exact .inl (hstep.unique hd).1.symm
      · exact .inr ⟨hd, fun heq => hnone item (heq ▸ hstep)⟩
  ordered := by
    obtain rfl := hstep.2.2
    have hold : (items.map (keyOf field)).Pairwise (Before r field (history ++ [step])) :=
      h.ordered.imp fun hbefore => hbefore.concat hstep.not_drops
    rw [Slot.map_keyOf_putEntry]
    split
    · exact hold
    · next hnew =>
      refine List.pairwise_append.2 ⟨hold, List.pairwise_singleton _ _, fun key hkey other ho => ?_⟩
      obtain rfl := List.mem_singleton.1 ho
      obtain ⟨d, hd, rfl⟩ := List.mem_map.1 hkey
      exact .of_new ((h.mem_iff d).1 hd) (h.not_putAt hnew) hstep

/-- A removal takes the entity with its key away. -/
theorem drop (h : Follows r field history items) (hstep : step.Drops r field key) :
    Follows r field (history ++ [step]) (Slot.removeKey field key items) where
  mem_iff d := by
    have hnone : ∀ other e, ¬step.Puts r field other e := fun other e he => he.not_drops hstep
    have hdrops : step.Drops r field (d.keyOf field) ↔ d.keyOf field = key := by
      obtain ⟨item, rfl, rfl⟩ := hstep
      simp [Step.Drops, eq_comm]
    rw [Slot.mem_removeKey_iff h.nodup, held_concat_iff, h.mem_iff, hdrops]
    simp [hnone]
  ordered := by
    have hkept := h.ordered.sublist ((Slot.removeKey_sublist field key items).map (keyOf field))
    refine (List.pairwise_map.1 hkept).imp_of_mem ?_ |> List.pairwise_map.2
    intro d e hd he hbefore
    have hne := ((Slot.mem_removeKey_iff h.nodup).1 hd).2
    refine hbefore.concat fun hdrops => hne ?_
    obtain ⟨item, rfl, rfl⟩ := hstep
    obtain ⟨other, hother, hkey⟩ := hdrops
    obtain ⟨-, rfl⟩ := Step.remove.inj hother
    exact hkey.symm

/-- Any other change leaves a table as it is. -/
theorem keep (h : Follows r field history items) (hput : ∀ key d, ¬step.Puts r field key d)
    (hdrop : ∀ key, ¬step.Drops r field key) : Follows r field (history ++ [step]) items where
  mem_iff d := by
    rw [held_concat_iff, h.mem_iff]
    simp [hput, hdrop]
  ordered := h.ordered.imp fun hbefore => hbefore.concat (hdrop _)

/-- A table follows its history through a change. -/
theorem after {s : Slot} (h : Follows r field history s.items) (hs : FitsRelationship r s)
    (hr : r.storage = .indexed field) (step : Step) :
    Follows r field (history ++ [step]) (s.after step).items := by
  have hstorage : s.storage = .indexed field := hs.storage_eq.trans hr
  cases step with
  | add relationship item =>
    rw [Slot.after, hs.name_eq, hs.target_eq]
    split
    · next hadd =>
      rw [Slot.items_insert_indexed item hstorage]
      exact h.put ⟨congrArg (Step.add · item) hadd.1, hadd.2, rfl⟩
    · next hadd =>
      refine h.keep (fun key d hd => hadd ?_) (fun key hd => ?_)
      · obtain ⟨hstep, hclass, -⟩ := hd
        obtain ⟨rfl, rfl⟩ := Step.add.inj hstep
        exact ⟨rfl, hclass⟩
      · obtain ⟨d, hstep, -⟩ := hd
        cases hstep
  | remove relationship item =>
    rw [Slot.after, hs.name_eq]
    split
    · next hname =>
      have hitems : (s.erase item).items = Slot.removeKey field (item.keyOf field) s.items := by
        rw [Slot.erase, hstorage]
        exact Slot.items_withItems s _
      rw [hitems]
      exact h.drop ⟨item, congrArg (Step.remove · item) hname, rfl⟩
    · next hname =>
      refine h.keep (fun key d hd => ?_) (fun key hd => hname ?_)
      · cases hd.1
      · obtain ⟨d, hstep, -⟩ := hd
        exact (Step.remove.inj hstep).1
  | setAttribute name value =>
    refine h.keep (fun key d hd => ?_) (fun key hd => ?_)
    · cases hd.1
    · obtain ⟨d, hstep, -⟩ := hd
      cases hstep

/-- A table of a new entity follows every history. -/
theorem run (hr : r.storage = .indexed field) (history : List Step) :
    Follows r field history (history.foldl Slot.after (.ofRelationship r)).items := by
  induction history using List.reverseRecOn with
  | nil => exact nil
  | append_singleton front step ih =>
    rw [List.foldl_append]
    exact ih.after ((FitsRelationship.empty r).run front) hr step

/-- A look-up in a table is for the entity that is held under the key. -/
theorem find?_eq_some_iff (h : Follows r field history items) :
    (items.find? fun d => d.keyOf field == key) = some item ↔ Held r field history key item := by
  constructor
  · intro hfind
    obtain rfl : item.keyOf field = key := by simpa using List.find?_some hfind
    exact (h.mem_iff item).1 (List.mem_of_find?_eq_some hfind)
  · intro hheld
    obtain rfl := hheld.keyOf_eq
    exact find?_of_nodup_map h.nodup ((h.mem_iff item).2 hheld)

end Follows

/-- The value under which a table finds an entity: that of its index attribute, or the empty text if
it has no value there or no such attribute. -/
def indexValue (field : String) (item : Entity) : Json :=
  match item.value field with
  | .ok (some v) => v
  | _ => .string ""

/-- An entity has the key of its index value. -/
theorem renderValue_indexValue (field : String) (item : Entity) :
    renderValue (item.indexValue field) = item.keyOf field := by
  rw [indexValue, value, keyOf]
  rcases item.attributes.lookup field with _ | _ | v <;> rfl

/-- A table of an entity is as the changes of the entity ask. -/
structure KeepsTable (r : Relationship) (field : String) (history : List Step) (e : Entity) :
    Prop where
  /-- Entities of the class that the table is for can be added, and no others. -/
  add_ok_iff : ∀ item, (∃ changed, e.add r.name item = .ok changed) ↔ item.className = r.target
  /-- Every entity can be removed. -/
  remove_ok : ∀ item, ∃ changed, e.remove r.name item = .ok changed
  /-- A value finds the entity that is held under its key, and nothing if none is. -/
  get_eq : ∀ v, ∃ found, e.get r.name v = .ok found ∧
    ∀ item, found = some item ↔ Held r field history (renderValue v) item
  /-- The iteration goes through the entities that are held, each key once, as the keys came in. -/
  iter_eq : ∃ items, e.iter r.name = .ok items ∧
    (∀ item, item ∈ items ↔ Held r field history (item.keyOf field) item) ∧
    (items.map (keyOf field)).Nodup ∧ (items.map (keyOf field)).Pairwise (Before r field history)
  /-- They are of the class of the table, and each is found by its own index value. -/
  stored : ∀ items, e.iter r.name = .ok items → ∀ item ∈ items,
    item.className = r.target ∧ e.get r.name (item.indexValue field) = .ok (some item)
  /-- A change of one relationship leaves all others as they are. -/
  frame : ∀ step other, step.relationship? ≠ some other →
    (e.after step).slot? other = e.slot? other

/-- The tables of a new entity are as its changes ask, whatever they are. -/
theorem keepsTable_run {b : Binding} {parameters : Parameters} {start : Entity}
    (hstart : b.construct parameters = .ok start) {r : Relationship}
    (hr : b.relationships.find? (·.name == r.name) = some r) {field : String}
    (hfield : r.storage = .indexed field) (history : List Step) :
    KeepsTable r field history (start.run history) := by
  have hfits : FitsRelationship r (history.foldl Slot.after (.ofRelationship r)) :=
    (FitsRelationship.empty r).run history
  have hfollows := Follows.run hfield history
  have hslot : (start.run history).slot r.name =
      .ok (history.foldl Slot.after (.ofRelationship r)) := by
    rw [slot_eq_ok_iff, slot?_run, Binding.slot?_of_construct hstart, hr]
    rfl
  generalize history.foldl Slot.after (.ofRelationship r) = s at hfits hfollows hslot
  generalize start.run history = e at hslot
  have hget := get_eq hslot (hfits.storage_eq.trans hfield)
  have hiter : e.iter r.name = .ok s.items := by simp [iter, hslot, bind, Except.bind]
  refine
    { add_ok_iff := fun item => ?_
      remove_ok := fun item => ?_
      get_eq := fun v => ⟨_, hget v, fun item => hfollows.find?_eq_some_iff⟩
      iter_eq := ⟨s.items, hiter, hfollows.mem_iff, hfollows.nodup, hfollows.ordered⟩
      stored := fun items hitems item hitem => ?_
      frame := fun step other hother => ?_ }
  · by_cases hclass : item.className = r.target <;>
      simp [add, hslot, hfits.target_eq, hclass, bind, Except.bind]
  · simp [remove, hslot, bind, Except.bind]
  · obtain rfl := Except.ok.inj (hiter.symm.trans hitems)
    refine ⟨hfits.className_eq item hitem, ?_⟩
    rw [hget, renderValue_indexValue, find?_of_nodup_map hfollows.nodup hitem]
  · rw [slot?_after]
    cases hs : e.slot? other with
    | none => rfl
    | some t =>
      rw [Option.map_some, Slot.after_of_ne (by rwa [name_of_slot? hs])]

/-- A table of lines under their identifiers. -/
def lineTable : Relationship := ⟨"line", "order", "line", .indexed "id", "table_lines"⟩

/-- The class of the orders that have the table, and a note. -/
def orderBinding : Binding :=
  ⟨0, "order", "", ⟨"order", "order.rs"⟩, [⟨"note", .string⟩], [lineTable]⟩

/-- A line with an identifier and a text. -/
def line (id text : String) : Entity :=
  .mk "line" [("id", some (.string id)), ("text", some (.string text))] []

/-- Two lines are put into the table and the first is replaced. The second is removed by an entity
of another class with its key, and comes back behind a line without an identifier. -/
def lineHistory : List Step :=
  [.add "line" (line "a" "first"), .add "line" (line "b" "second"), .setAttribute "note" none,
    .add "line" (line "a" "third"), .remove "line" (.mk "other" [("id", some (.string "b"))] []),
    .add "line" (.mk "other" [] []), .add "line" (.mk "line" [] []), .add "line" (line "b" "last")]

/-- The replaced line keeps its place, the removed one comes back last. -/
theorem keepsTable_run_replacedLine :
    ∃ start, orderBinding.construct [] = .ok start ∧
      KeepsTable lineTable "id" lineHistory (start.run lineHistory) ∧
      (start.run lineHistory).iter "line" =
        .ok [line "a" "third", .mk "line" [] [], line "b" "last"] := by
  have hstart : orderBinding.construct [] =
      .ok (.empty "order" ["note"] [lineTable]) := rfl
  exact ⟨_, hstart, keepsTable_run hstart rfl rfl lineHistory, by rfl⟩

end Entity

end DocSchema
