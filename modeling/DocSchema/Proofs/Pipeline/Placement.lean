import DocSchema.Proofs.Inference.Places
import DocSchema.Proofs.Pipeline.Outcome

/-!
# The places of entities

The entities that a document becomes are found from its root entity by trails (`Entity.at?`). A
`Placement` gives each of them a place in the document, no two the same one: that of the object that
it was made of, one member below the object of its owner and, in a sequence or a table, one item or
entry below that. `exists_placement` finds a placement for every run that succeeds. It is put
together from placements of the elements of an object, which do not overlap because no two
relationships of a class read the same member (`placed_apart`).
-/

namespace DocSchema

/-- The positions of a slot and of an entity in it, for each step from an entity to another one. -/
abbrev Trail := List (Nat × Nat)

/-- The entity at the end of a trail. -/
def Entity.at? : Trail → Entity → Option Entity
  | [], e => some e
  | (j, i) :: rest, e => e.slots[j]?.bind fun s => s.items[i]?.bind (Entity.at? rest)

namespace Pipeline

open Inference Materialize

/-- The entities of a slot, whose owner was made of the object at a place, are at the places of the
parts of one member of the object: an entity of a single slot at the member itself, those of a
sequence at all the items of an array, in order, and those of a table at entries of the member. -/
def SlotPlaced (document : Json) (owner : Pointer) (s : Slot) (place : Nat → Pointer) : Prop :=
  ∃ key, match s.storage with
    | .single => ∀ i < s.items.length, place i = owner.key key
    | .sequence => ∃ items, document.part? (owner.key key).steps = some (.array items) ∧
        items.length = s.items.length ∧ ∀ i < s.items.length, place i = (owner.key key).index i
    | .indexed _ => ∀ i < s.items.length, ∃ entry, place i = (owner.key key).key entry

/-- Every entity that is reached from one of them is at a place of the document. -/
structure Placement (rootName : String) (document : Json) (start : Pointer) (e : Entity)
    (place : Trail → Pointer) : Prop where
  /-- The entity itself is at the place where the placement starts. -/
  start_eq : place [] = start
  /-- All others are below. -/
  below : ∀ t d, e.at? t = some d → start.steps <+: (place t).steps
  /-- No two entities are at one place. -/
  injective : ∀ t u d d', e.at? t = some d → e.at? u = some d' → place t = place u → t = u
  /-- At the place of an entity is an object that was visited under its class, and the attributes
  that are present are members of the object that are not null. -/
  object : ∀ t d, e.at? t = some d → ∃ members,
    document.part? (place t).steps = some (.object members) ∧
      .enter d.className (place t) members ∈ course rootName .root document ∧
      ∀ name value, (name, some value) ∈ d.attributes →
        members.lookup name = some value ∧ value.isNull = false
  /-- The attributes that are absent are members that are missing or null. -/
  absent : ∀ t d members name value, e.at? t = some d →
    document.part? (place t).steps = some (.object members) → (name, none) ∈ d.attributes →
      members.lookup name = some value → value.isNull = true
  /-- The entities of a slot that holds some are at parts of one member of the object. -/
  slots : ∀ t d j s, e.at? t = some d → d.slots[j]? = some s → s.items ≠ [] →
    SlotPlaced document (place t) s fun i => place (t ++ [(j, i)])

/-- The entities of a slot were made of elements of its relationship, those of a sequence of all of
them in order. -/
theorem exists_origins {reg : Registry} {here : Pointer} {members : Members} {r : Relationship}
    {s : Slot} (hs : Filled reg here members r s) :
    ∃ origins, List.Forall₂ (fun v d => entityOf reg v = .ok d) origins s.items ∧
      origins.Subperm (elements r here members) ∧
      (r.storage = .sequence → origins = elements r here members) := by
  obtain ⟨entities, hentities, rfl⟩ := hs
  cases hstorage : r.storage with
  | single =>
    have hslot : (Slot.ofRelationship r).storage = .single := hstorage
    have hitems : ((Slot.ofRelationship r).fill entities).items = entities := by
      by_cases hnil : elements r here members = []
      · rw [hnil, List.forall₂_nil_left_iff] at hentities
        subst hentities
        rfl
      · obtain ⟨key, value, -, -, hheld⟩ := exists_held_of_elements_ne_nil hnil
        obtain ⟨v, hv, -⟩ := held_of_single hstorage (hheld ▸ hnil)
        rw [hheld, hv] at hentities
        obtain ⟨d, rest, -, hrest, rfl⟩ := List.forall₂_cons_left_iff.1 hentities
        rw [List.forall₂_nil_left_iff] at hrest
        subst hrest
        exact Slot.items_fill_single hslot d
    rw [hitems]
    exact ⟨_, hentities, List.Subperm.refl _, nofun⟩
  | sequence =>
    have hslot : (Slot.ofRelationship r).storage = .sequence := hstorage
    have hitems : ((Slot.ofRelationship r).fill entities).items = entities :=
      Slot.items_fill_sequence hslot entities
    rw [hitems]
    exact ⟨_, hentities, List.Subperm.refl _, fun _ => rfl⟩
  | indexed field =>
    -- An entry with the index of an earlier one has replaced it.
    have hslot : (Slot.ofRelationship r).storage = .indexed field := hstorage
    have hitems : ((Slot.ofRelationship r).fill entities).items.Subperm (entities ++ []) :=
      Slot.subperm_items_fill hslot entities
    rw [List.append_nil] at hitems
    obtain ⟨origins, hsub, horigins⟩ := Chain.exists_subperm_of_forall₂ hentities hitems
    exact ⟨origins, horigins, hsub, nofun⟩

/-- Placements of the entities in the slots of an entity that do not overlap. -/
structure Branches (rootName : String) (document : Json) (here : Pointer) (slots : List Slot)
    (origin : Nat → Nat → Option Visit) (placeOf : Visit → Trail → Pointer) : Prop where
  /-- The entities have placements that start where the fragments they were made of are. -/
  placement : ∀ j i s d, slots[j]? = some s → s.items[i]? = some d →
    ∃ w, origin j i = some w ∧ Placement rootName document w.place d (placeOf w)
  /-- The fragments are below the object of the entity. -/
  below : ∀ j i w, origin j i = some w →
    ∃ step rest, w.place.steps = here.steps ++ step :: rest
  /-- Nothing is below two of them. -/
  apart : ∀ j i j' i' w w' steps, origin j i = some w → origin j' i' = some w' →
    w.place.steps <+: steps → w'.place.steps <+: steps → j = j' ∧ i = i'

/-- The placement that is put together from those of the entities in slots. -/
def placeAll (here : Pointer) (origin : Nat → Nat → Option Visit)
    (placeOf : Visit → Trail → Pointer) : Trail → Pointer
  | [] => here
  | (j, i) :: rest => (origin j i).elim here fun w => placeOf w rest

section Branches

variable {rootName : String} {document : Json} {here : Pointer} {slots : List Slot}
  {origin : Nat → Nat → Option Visit} {placeOf : Visit → Trail → Pointer}

/-- What is found behind a first step is found from an entity of a slot, and has its placement. -/
theorem Branches.exists_of_cons (h : Branches rootName document here slots origin placeOf)
    {className : String} {attributes : List (String × Option Json)} {j i : Nat} {rest : Trail}
    {d : Entity} (hd : (Entity.mk className attributes slots).at? ((j, i) :: rest) = some d) :
    ∃ w item, origin j i = some w ∧ slots[j]?.bind (·.items[i]?) = some item ∧
      item.at? rest = some d ∧ Placement rootName document w.place item (placeOf w) ∧
      ∀ more, placeAll here origin placeOf ((j, i) :: more) = placeOf w more := by
  obtain ⟨s, hs, hd⟩ := Option.bind_eq_some_iff.1 hd
  obtain ⟨item, hitem, hd⟩ := Option.bind_eq_some_iff.1 hd
  obtain ⟨w, hw, hplacement⟩ := h.placement j i s item hs hitem
  refine ⟨w, item, hw, Option.bind_eq_some_iff.2 ⟨s, hs, hitem⟩, hd, hplacement, fun more => ?_⟩
  rw [placeAll, hw]
  rfl

/-- The place of an entity in a slot is longer than that of its owner. -/
theorem Branches.ne_placeAll (h : Branches rootName document here slots origin placeOf)
    {className : String} {attributes : List (String × Option Json)} {p : Nat × Nat} {rest : Trail}
    {d : Entity} (hd : (Entity.mk className attributes slots).at? (p :: rest) = some d) :
    here ≠ placeAll here origin placeOf (p :: rest) := by
  intro hhere
  obtain ⟨w, item, hw, -, hitem, hplacement, hplace⟩ := h.exists_of_cons hd
  obtain ⟨step, steps, hsteps⟩ := h.below _ _ _ hw
  have hbelow := (hplacement.below rest d hitem).length_le
  rw [← hplace, ← hhere, hsteps, List.length_append, List.length_cons] at hbelow
  omega

/-- No two entities that are found from an entity are at one place. -/
theorem Branches.placeAll_injective (h : Branches rootName document here slots origin placeOf)
    {className : String} {attributes : List (String × Option Json)} {t u : Trail} {d d' : Entity}
    (hd : (Entity.mk className attributes slots).at? t = some d)
    (hd' : (Entity.mk className attributes slots).at? u = some d')
    (heq : placeAll here origin placeOf t = placeAll here origin placeOf u) : t = u := by
  cases t with
  | nil =>
    cases u with
    | nil => rfl
    | cons p rest => exact absurd heq (h.ne_placeAll hd')
  | cons p rest =>
    cases u with
    | nil => exact absurd heq.symm (h.ne_placeAll hd)
    | cons q rest' =>
      obtain ⟨w, item, hw, hfound, hitem, hplacement, hplace⟩ := h.exists_of_cons hd
      obtain ⟨w', item', hw', hfound', hitem', hplacement', hplace'⟩ := h.exists_of_cons hd'
      rw [hplace, hplace'] at heq
      have hbelow := hplacement.below rest d hitem
      have hbelow' := hplacement'.below rest' d' hitem'
      rw [heq] at hbelow
      -- One place is below both fragments, so both entities are found through the same one.
      obtain ⟨hj, hi⟩ := h.apart _ _ _ _ _ _ _ hw hw' hbelow hbelow'
      obtain rfl : p = q := Prod.ext hj hi
      obtain rfl := Option.some.inj (hw.symm.trans hw')
      obtain rfl := Option.some.inj (hfound.symm.trans hfound')
      rw [hplacement.injective rest rest' d d' hitem hitem' heq]

/-- Placements that do not overlap are put together to one of the entity. -/
theorem placed_apart (h : Branches rootName document here slots origin placeOf)
    {className : String} {members : Members} {attributes : List (String × Option Json)}
    (hpart : document.part? here.steps = some (.object members))
    (henter : .enter className here members ∈ course rootName .root document)
    (hattributes : ∀ name value, (name, some value) ∈ attributes →
      members.lookup name = some value ∧ value.isNull = false)
    (habsent : ∀ name value, (name, none) ∈ attributes → members.lookup name = some value →
      value.isNull = true)
    (hslots : ∀ j s, slots[j]? = some s → s.items ≠ [] →
      SlotPlaced document here s fun i => placeAll here origin placeOf [(j, i)]) :
    Placement rootName document here (.mk className attributes slots)
      (placeAll here origin placeOf) where
  start_eq := rfl
  below t d hd := by
    cases t with
    | nil => exact List.prefix_refl _
    | cons p rest =>
      obtain ⟨w, item, hw, -, hitem, hplacement, hplace⟩ := h.exists_of_cons hd
      obtain ⟨step, steps, hsteps⟩ := h.below _ _ _ hw
      have hbelow := hplacement.below rest d hitem
      rw [hsteps] at hbelow
      rw [hplace]
      exact (List.prefix_append _ _).trans hbelow
  injective t u d d' hd hd' heq := h.placeAll_injective hd hd' heq
  object t d hd := by
    cases t with
    | nil =>
      obtain rfl := Option.some.inj hd
      exact ⟨members, hpart, henter, hattributes⟩
    | cons p rest =>
      obtain ⟨w, item, -, -, hitem, hplacement, hplace⟩ := h.exists_of_cons hd
      rw [hplace]
      exact hplacement.object rest d hitem
  absent t d inner name value hd hinner hname hvalue := by
    cases t with
    | nil =>
      obtain rfl := Option.some.inj hd
      obtain rfl := Json.object.inj (Option.some.inj (hpart.symm.trans hinner))
      exact habsent name value hname hvalue
    | cons p rest =>
      obtain ⟨w, item, -, -, hitem, hplacement, hplace⟩ := h.exists_of_cons hd
      rw [hplace] at hinner
      exact hplacement.absent rest d inner name value hitem hinner hname hvalue
  slots t d j s hd hs hitems := by
    cases t with
    | nil =>
      obtain rfl := Option.some.inj hd
      exact hslots j s hs hitems
    | cons p rest =>
      obtain ⟨w, item, -, -, hitem, hplacement, hplace⟩ := h.exists_of_cons hd
      have hslot := hplacement.slots rest d j s hitem hs hitems
      simp only [List.cons_append, hplace]
      exact hslot

end Branches

/-- The fragments that the entities of a slot were made of, for the slots of an object in order. -/
structure Origins (reg : Registry) (here : Pointer) (members : Members)
    (relationships : List Relationship) (slots : List Slot) (j : Nat) (origins : List Visit) : Prop
    where
  /-- There are none where there is no slot. -/
  slot : origins ≠ [] → ∃ s, slots[j]? = some s
  /-- They are elements of the relationship of the slot, and all of them in a sequence. -/
  elements : ∀ s, slots[j]? = some s → ∃ r, relationships[j]? = some r ∧ s.storage = r.storage ∧
    List.Forall₂ (fun v d => entityOf reg v = .ok d) origins s.items ∧
    origins.Subperm (elements r here members) ∧
    (r.storage = .sequence → origins = Materialize.elements r here members)

/-- Every filled slot has its origins. -/
theorem exists_origins_of_filled {reg : Registry} {here : Pointer} {members : Members}
    {relationships : List Relationship} {slots : List Slot}
    (hslots : List.Forall₂ (Filled reg here members) relationships slots) (j : Nat) :
    ∃ origins, Origins reg here members relationships slots j origins := by
  cases hs : slots[j]? with
  | none => exact ⟨[], ⟨fun h => absurd rfl h, fun s h => by simp [hs] at h⟩⟩
  | some s =>
    obtain ⟨hj, hget⟩ := List.getElem?_eq_some_iff.1 hs
    have hj' : j < relationships.length := hslots.length_eq ▸ hj
    have hfilled : Filled reg here members relationships[j] s := hget ▸ hslots.get hj' hj
    have hstorage : s.storage = relationships[j].storage := by
      obtain ⟨entities, -, rfl⟩ := hfilled
      exact Slot.storage_fill _ entities
    obtain ⟨origins, horigins, hsub, hall⟩ := exists_origins hfilled
    refine ⟨origins, ⟨fun _ => ⟨s, hs⟩, fun t ht => ?_⟩⟩
    obtain rfl := Option.some.inj (hs.symm.trans ht)
    exact ⟨_, List.getElem?_eq_getElem hj', hstorage, horigins, hsub, hall⟩

section Origins

variable {reg : Registry} {document : Json} {here : Pointer} {members : Members} {c : Shape}
  {name : String} {slots : List Slot}

/-- The origins of the entities of a slot are parts of one member of the object. -/
theorem Origins.exists_parts (hwell : c.WellFormed name) {j : Nat} {origins : List Visit}
    (h : Origins reg here members c.relationships slots j origins) {w : Visit} (hw : w ∈ origins) :
    ∃ r key value s, c.relationships[j]? = some r ∧ origins.Subperm (parts here key value) ∧
      (key, value) ∈ members ∧ relationshipOf name key value = some s ∧ s.name = r.name := by
  obtain ⟨t, ht⟩ := h.slot (List.ne_nil_of_mem hw)
  obtain ⟨r, hr, -, -, hsub, -⟩ := h.elements t ht
  have hne := List.ne_nil_of_mem (hsub.subset hw)
  obtain ⟨key, value, s, hvalue, hs, hname, -, hparts⟩ :=
    elements_eq_parts (hwell.inferred r (List.mem_of_getElem? hr)) hne
  exact ⟨r, key, value, s, hr, hparts ▸ hsub, mem_of_lookup_eq_some hvalue, hs, hname⟩

/-- An entity in a slot was made of its origin, which is a part of a member of the object. -/
theorem Origins.exists_of_item (hwell : c.WellFormed name) {j : Nat} {origins : List Visit}
    (h : Origins reg here members c.relationships slots j origins) {s : Slot}
    (hs : slots[j]? = some s) {i : Nat} {d : Entity} (hd : s.items[i]? = some d) :
    ∃ w key value, origins[i]? = some w ∧ (key, value) ∈ members ∧ w ∈ parts here key value ∧
      entityOf reg w = .ok d := by
  obtain ⟨r, -, -, hmade, -⟩ := h.elements s hs
  obtain ⟨hi, hget⟩ := List.getElem?_eq_some_iff.1 hd
  have hi' : i < origins.length := hmade.length_eq ▸ hi
  have hentity : entityOf reg origins[i] = .ok d := hget ▸ hmade.get hi' hi
  have hmem := List.getElem_mem hi'
  obtain ⟨_, key, value, _, -, hsub, hm, -⟩ := h.exists_parts hwell hmem
  exact ⟨origins[i], key, value, List.getElem?_eq_getElem hi', hm, hsub.subset hmem, hentity⟩

/-- No member is read for two relationships, so nothing is below the origins of two entities. -/
theorem origins_apart (hwell : c.WellFormed name) (hmembers : (Json.object members).Distinct)
    {originsOf : Nat → List Visit}
    (h : ∀ j, Origins reg here members c.relationships slots j (originsOf j)) {j i j' i' : Nat}
    {w w' : Visit} {steps : List Pointer.Step} (hw : (originsOf j)[i]? = some w)
    (hw' : (originsOf j')[i']? = some w') (hbelow : w.place.steps <+: steps)
    (hbelow' : w'.place.steps <+: steps) : j = j' ∧ i = i' := by
  obtain ⟨hkeys, hvalues⟩ := Json.distinct_object_iff.1 hmembers
  have hmem := List.mem_of_getElem? hw
  have hmem' := List.mem_of_getElem? hw'
  obtain ⟨r, key, value, s, hr, hsub, hm, hs, hname⟩ := (h j).exists_parts hwell hmem
  obtain ⟨r', key', value', s', hr', hsub', hm', hs', hname'⟩ := (h j').exists_parts hwell hmem'
  -- Both origins are at one place in one member of the object.
  obtain ⟨rfl, hplace⟩ := place_eq_of_below hkeys hm hm' (hvalues _ hm) (hvalues _ hm')
    (hsub.subset hmem) (hsub'.subset hmem') hbelow hbelow'
  obtain rfl := Members.eq_of_mem hkeys hm hm'
  obtain rfl := Option.some.inj (hs.symm.trans hs')
  -- A member gives one relationship its name, so both slots are that of this relationship.
  have hj : j = j' := by
    obtain ⟨hlt, -⟩ := List.getElem?_eq_some_iff.1 hr
    have hnames : (c.relationships.map Relationship.name)[j]? =
        (c.relationships.map Relationship.name)[j']? := by
      rw [List.getElem?_map, List.getElem?_map, hr, hr', Option.map_some, Option.map_some, ← hname,
        hname']
    exact (List.getElem?_inj (by simpa using hlt) hwell.distinct.of_append_right).1 hnames
  subst hj
  -- The origins of one slot are at different places.
  have hnodup : ((originsOf j).map Visit.place).Nodup := by
    obtain ⟨ordered, hperm, hordered⟩ := hsub
    rw [← (hperm.map Visit.place).nodup_iff]
    exact (nodup_places_parts (hvalues _ hm)).sublist (hordered.map Visit.place)
  obtain ⟨hlt, -⟩ := List.getElem?_eq_some_iff.1 hw
  have hplaces : ((originsOf j).map Visit.place)[i]? = ((originsOf j).map Visit.place)[i']? := by
    rw [List.getElem?_map, List.getElem?_map, hw, hw', Option.map_some, Option.map_some, hplace]
  exact ⟨rfl, (List.getElem?_inj (by simpa using hlt) hnodup).1 hplaces⟩

/-- The entities of a slot are at the places of their origins. -/
theorem slotPlaced_of_origins (hwell : c.WellFormed name)
    (hpart : document.part? here.steps = some (.object members)) {j : Nat} {origins : List Visit}
    (h : Origins reg here members c.relationships slots j origins) {s : Slot}
    (hs : slots[j]? = some s) (hitems : s.items ≠ []) {place : Nat → Pointer}
    (hplace : ∀ i w, origins[i]? = some w → place i = w.place) :
    SlotPlaced document here s place := by
  obtain ⟨r, hr, hstorage, horigins, hsub, hall⟩ := h.elements s hs
  have hlength := horigins.length_eq
  have hne : elements r here members ≠ [] := by
    intro hnil
    rw [hnil, List.subperm_nil] at hsub
    subst hsub
    exact hitems (List.forall₂_nil_left_iff.1 horigins)
  obtain ⟨key, value, _, hvalue, -, -, hheld, -⟩ :=
    elements_eq_parts (hwell.inferred r (List.mem_of_getElem? hr)) hne
  rw [hheld] at hsub hne
  have hat : ∀ i < s.items.length, ∃ w, origins[i]? = some w ∧ w ∈ held r (here.key key) value := by
    intro i hi
    have hi' : i < origins.length := hlength ▸ hi
    exact ⟨origins[i], List.getElem?_eq_getElem hi', hsub.subset (List.getElem_mem hi')⟩
  refine ⟨key, ?_⟩
  rw [hstorage]
  cases hr : r.storage with
  | single =>
    intro i hi
    obtain ⟨w, hw, hmem⟩ := hat i hi
    obtain ⟨v, hv, hvplace⟩ := held_of_single hr hne
    rw [hv, List.mem_singleton] at hmem
    rw [hplace i w hw, hmem, hvplace]
  | sequence =>
    obtain ⟨items, rfl, hseq⟩ := held_of_sequence hr hne
    rw [hall hr, hheld, hseq] at hlength hplace
    rw [List.length_map, List.length_zipIdx] at hlength
    refine ⟨items, ?_, hlength, fun i hi => ?_⟩
    · show document.part? (here.steps ++ [.key key]) = _
      rw [Json.part?_append, hpart]
      show (members.lookup key).bind (Json.part? []) = _
      rw [hvalue]
      rfl
    · have hi' : i < items.length := hlength ▸ hi
      refine hplace i ⟨r.target, (here.key key).index i, items[i]⟩ ?_
      rw [List.getElem?_map, List.getElem?_zipIdx, List.getElem?_eq_getElem hi']
      simp
  | indexed field =>
    intro i hi
    obtain ⟨w, hw, hmem⟩ := hat i hi
    obtain ⟨entry, hentry⟩ := held_of_indexed hr hmem
    exact ⟨entry, (hplace i w hw).trans hentry⟩

/-- Placements of what the origins become do not overlap. -/
theorem branches_of_origins {rootName : String} (hwell : c.WellFormed name)
    (hmembers : (Json.object members).Distinct) {originsOf : Nat → List Visit}
    (h : ∀ j, Origins reg here members c.relationships slots j (originsOf j))
    {placeOf : Visit → Trail → Pointer}
    (hplaceOf : ∀ w key value d, (key, value) ∈ members → w ∈ parts here key value →
      entityOf reg w = .ok d → Placement rootName document w.place d (placeOf w)) :
    Branches rootName document here slots (fun j i => (originsOf j)[i]?) placeOf where
  placement j i s d hs hd := by
    obtain ⟨w, key, value, hw, hm, hpart, hentity⟩ := (h j).exists_of_item hwell hs hd
    exact ⟨w, hw, hplaceOf w key value d hm hpart hentity⟩
  below j i w hw := by
    obtain ⟨_, key, value, _, -, hsub, hm, -⟩ :=
      (h j).exists_parts hwell (List.mem_of_getElem? hw)
    obtain ⟨steps, hsteps, -⟩ := exists_steps_of_mem_parts
      ((Json.distinct_object_iff.1 hmembers).2 _ hm) (hsub.subset (List.mem_of_getElem? hw))
    exact ⟨_, steps, hsteps⟩
  apart j i j' i' w w' steps hw hw' := origins_apart hwell hmembers h hw hw'

end Origins

/-- Placements of what the parts of an object become, one for each part. -/
theorem exists_placeOf {rootName : String} {document : Json} {reg : Registry} {here : Pointer}
    {members : Members}
    (h : ∀ w key value d, (key, value) ∈ members → w ∈ parts here key value →
      entityOf reg w = .ok d → ∃ place, Placement rootName document w.place d place) :
    ∃ placeOf : Visit → Trail → Pointer, ∀ w key value d, (key, value) ∈ members →
      w ∈ parts here key value → entityOf reg w = .ok d →
        Placement rootName document w.place d (placeOf w) := by
  -- A fragment becomes at most one entity, so its placement can be chosen for the fragment alone.
  have hplaced : ∀ w : Visit, ∃ place, ∀ key value d, (key, value) ∈ members →
      w ∈ parts here key value → entityOf reg w = .ok d →
        Placement rootName document w.place d place := by
    intro w
    by_cases hw : ∃ key value d, (key, value) ∈ members ∧ w ∈ parts here key value ∧
        entityOf reg w = .ok d
    · obtain ⟨key, value, d, hm, hw, hd⟩ := hw
      obtain ⟨place, hplace⟩ := h w key value d hm hw hd
      refine ⟨place, fun _ _ d' _ _ hd' => ?_⟩
      obtain rfl := Except.ok.inj (hd.symm.trans hd')
      exact hplace
    · exact ⟨fun _ => here, fun key value d hm hw' hd => absurd ⟨key, value, d, hm, hw', hd⟩ hw⟩
  choose placeOf hplaceOf using hplaced
  exact ⟨placeOf, hplaceOf⟩

/-- The entities that a visited fragment becomes have a placement. -/
theorem exists_placement_of_visit {rootName : String} {document : Json} {mode : Merge}
    {reg : Registry} (hreg : reg.Ready) (hyields : Yields rootName document mode reg)
    (hdocument : document.Distinct) (v : Visit) (hv : v.course ⊆ course rootName .root document)
    (hdistinct : v.fragment.Distinct) {e : Entity} (he : entityOf reg v = .ok e) :
    ∃ place, Placement rootName document v.place e place := by
  refine visited_induction (P := fun v => v.fragment.Distinct → ∀ e, entityOf reg v = .ok e →
    ∃ place, Placement rootName document v.place e place) hyields
      (fun name here members hv ih hdistinct e he => ?_) v hv hdistinct e he
  obtain ⟨_, c, _, hobject, hc, hwell, -⟩ := exists_class hyields hv
  obtain rfl := Json.object.inj hobject
  obtain ⟨slots, hslots, rfl⟩ := (build_eq_ok_iff hreg hc).1 he
  have henter : .enter name here members ∈ course rootName .root document :=
    hv (Visit.enter_mem_course name here members)
  have hpart := part?_of_enter hdocument henter
  choose originsOf horigins using exists_origins_of_filled hslots
  obtain ⟨placeOf, hplaceOf⟩ := exists_placeOf fun w key value d hm hw hd =>
    ih key value hm w hw (distinct_of_mem_parts ((Json.distinct_object_iff.1 hdistinct).2 _ hm) hw)
      d hd
  have hbranches := branches_of_origins hwell hdistinct horigins hplaceOf
  refine ⟨_, placed_apart hbranches hpart henter (fun key value hmem => ?_)
    (fun key value hmem hvalue => ?_) fun j s hs hitems => ?_⟩
  · exact (Shape.mem_attributesFrom_iff.1 hmem).2
  · exact Shape.isNull_of_mem_attributesFrom hmem hvalue
  · refine slotPlaced_of_origins hwell hpart (horigins j) hs hitems fun i w hw => ?_
    -- The placement of what an origin becomes starts at the origin.
    obtain ⟨r, -, -, hmade, -⟩ := (horigins j).elements s hs
    obtain ⟨hi, -⟩ := List.getElem?_eq_some_iff.1 hw
    have hd := List.getElem?_eq_getElem (hmade.length_eq ▸ hi : i < s.items.length)
    obtain ⟨w', hw', hplacement⟩ := hbranches.placement j i s _ hs hd
    obtain rfl := Option.some.inj (hw.symm.trans hw')
    rw [placeAll, hw]
    exact hplacement.start_eq

/-- No entity is invented and none is made twice: where a run succeeds on a distinct document, as all
are that are read (`Json.distinct_of_read`), the entities of the document have a placement that
starts at the whole document. -/
theorem exists_placement {rootName classNamespace : String} {document : Json} {settings : Settings}
    {p : Pipeline} (hdistinct : document.Distinct)
    (h : run rootName document classNamespace settings = .ok p) :
    ∃ place, Placement rootName document .root p.root place := by
  have hrests := rests_of_run h
  exact exists_placement_of_visit hrests.ready hrests.yields hdistinct
    ⟨rootName, .root, document⟩ (List.Subset.refl _) hdistinct hrests.entity_eq

/-- A document with a table, two entries of which have the same index field, a sequence and a
single object. -/
def mixedMembers : Json :=
  .object [
    ("table_users", .object [
      ("first", .object [("id", .string "a")]),
      ("second", .object [("id", .string "b")]),
      ("third", .object [("id", .string "a")])]),
    ("notes", .array [.object [("text", .string "c")], .object [("text", .null)]]),
    ("owner", .object [("id", .string "d"), ("notes", .array [])])]

/-- The entities of tables, sequences and single objects have a placement. -/
theorem exists_placement_mixedMembers :
    mixedMembers.Distinct ∧ ∃ p, run "root" mixedMembers "" ⟨.overwrite, false⟩ = .ok p ∧
      ∃ place, Placement "root" mixedMembers .root p.root place := by
  have hdistinct : mixedMembers.Distinct := by
    simp [mixedMembers, Json.Distinct, Json.DistinctItems, Json.DistinctMembers]
  have hok : (run "root" mixedMembers "" ⟨.overwrite, false⟩).isOk = true := by decide +kernel
  obtain ⟨p, hp⟩ := Chain.exists_of_isOk hok
  exact ⟨hdistinct, p, hp, exists_placement hdistinct hp⟩

end Pipeline

end DocSchema
