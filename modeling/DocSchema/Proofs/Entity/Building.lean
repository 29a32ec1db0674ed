import DocSchema.Proofs.Entity.Filling
import DocSchema.Proofs.Inference.Parts

/-!
# Building entities

The entity of an object is built from its members: the attributes of the class take theirs, and the
slot of each relationship is filled with the entities of its `elements`, the fragments that the
member of the relationship holds. `build_eq_ok_iff` says this for a registry that is ready, where
nothing but a fragment that is no object and a class that is missing can stop the building; it is
all that later proofs need to know of `build`.
-/

namespace DocSchema.Materialize

open Inference

/-- The fragments that a member holds for a relationship, each to become an entity of the class
that the relationship leads to. -/
def held (r : Relationship) (here : Pointer) (value : Json) : List Visit :=
  match value, r.storage with
  | .array items, .sequence =>
    items.zipIdx.map fun (item, position) => ⟨r.target, here.index position, item⟩
  | .object entries, .indexed _ =>
    entries.map fun (entry, value) => ⟨r.target, here.key entry, value⟩
  | .object inner, .single => [⟨r.target, here, .object inner⟩]
  | _, _ => []

/-- The fragments that the members of an object hold for a relationship. -/
def elements (r : Relationship) (here : Pointer) (members : Members) : List Visit :=
  match memberKey? r members with
  | none => []
  | some key => (members.lookup key).elim [] (held r (here.key key))

/-- Every fragment that is held for a relationship is visited under the class it leads to. -/
theorem name_of_mem_held {r : Relationship} {here : Pointer} {value : Json} {v : Visit}
    (hv : v ∈ held r here value) : v.name = r.target := by
  unfold held at hv
  split at hv
  · obtain ⟨_, _, rfl⟩ := List.mem_map.1 hv
    rfl
  · obtain ⟨_, _, rfl⟩ := List.mem_map.1 hv
    rfl
  · obtain rfl := List.mem_singleton.1 hv
    rfl
  · simp at hv

/-- The elements of a relationship are the fragments that one member of the object holds. -/
theorem exists_held_of_elements_ne_nil {r : Relationship} {here : Pointer} {members : Members}
    (h : elements r here members ≠ []) :
    ∃ key value, (key = r.jsonKey ∨ key = r.storageKey) ∧ members.lookup key = some value ∧
      elements r here members = held r (here.key key) value := by
  rw [elements] at h ⊢
  cases hkey : memberKey? r members with
  | none => simp [hkey] at h
  | some key =>
    simp only [hkey] at h ⊢
    cases hvalue : members.lookup key with
    | none => simp [hvalue] at h
    | some value =>
      refine ⟨key, value, ?_, hvalue, rfl⟩
      rw [memberKey?] at hkey
      split at hkey
      · exact .inl (Option.some.inj hkey).symm
      · split at hkey
        · exact .inr (Option.some.inj hkey).symm
        · simp at hkey

/-- Every element of a relationship is visited under the class it leads to. -/
theorem name_of_mem_elements {r : Relationship} {here : Pointer} {members : Members} {v : Visit}
    (hv : v ∈ elements r here members) : v.name = r.target := by
  obtain ⟨key, value, -, -, heq⟩ := exists_held_of_elements_ne_nil (List.ne_nil_of_mem hv)
  exact name_of_mem_held (heq ▸ hv)

/-- The entity of a fragment that is visited under a class name. -/
def entityOf (reg : Registry) (v : Visit) : Except Failure Entity :=
  build reg v.name v.place v.fragment

/-- Adds the entities of fragments to a relationship, in order. -/
def addAll (reg : Registry) (r : Relationship) (e : Entity) (visits : List Visit) :
    Except Failure Entity :=
  visits.foldlM (fun e v => do
    let d ← entityOf reg v
    e.add r.name d) e

/-- Adds the entities of fragments to a relationship, whose class must exist if there are any. -/
def gather (reg : Registry) (r : Relationship) (e : Entity) (visits : List Visit) :
    Except Failure Entity :=
  if visits.isEmpty then .ok e
  else do
    requireTarget reg r
    addAll reg r e visits

/-- The items of an array are added in order. -/
theorem attachItems_eq_addAll (reg : Registry) (r : Relationship) (here : Pointer)
    (position : Nat) (e : Entity) (items : List Json) :
    attachItems reg r here position e items =
      addAll reg r e ((items.zipIdx position).map fun (item, position) =>
        ⟨r.target, here.index position, item⟩) := by
  induction items generalizing position e with
  | nil => rfl
  | cons item rest ih =>
    rw [attachItems]
    simp only [ih]
    exact (bind_assoc (entityOf reg ⟨r.target, here.index position, item⟩) _ _).symm

/-- The entries of a table are added in order. -/
theorem attachEntries_eq_addAll (reg : Registry) (r : Relationship) (here : Pointer) (e : Entity)
    (entries : Members) :
    attachEntries reg r here e entries =
      addAll reg r e (entries.map fun (entry, value) => ⟨r.target, here.key entry, value⟩) := by
  induction entries generalizing e with
  | nil => rfl
  | cons entry rest ih =>
    obtain ⟨key, value⟩ := entry
    rw [attachEntries]
    simp only [ih]
    exact (bind_assoc (entityOf reg ⟨r.target, here.key key, value⟩) _ _).symm

/-- A member adds the entities of the fragments that it holds. -/
theorem attach_eq_gather (reg : Registry) (r : Relationship) (key : String) (here : Pointer)
    (e : Entity) (members : Members) :
    attach reg r key here e members =
      gather reg r e ((members.lookup key).elim [] (held r (here.key key))) := by
  induction members with
  | nil => rfl
  | cons m rest ih =>
    obtain ⟨k, value⟩ := m
    by_cases hk : k = key
    · subst hk
      rw [List.lookup_cons_self, attach.eq_def]
      show _ = gather reg r e (held r (here.key k) value)
      rw [held.eq_def]
      -- Only three pairs of a value and a storage fit; all others hold nothing.
      cases value <;> cases r.storage <;> simp only [if_true]
      case array.sequence items =>
        cases items with
        | nil => rfl
        | cons item rest => exact bind_congr fun _ => attachItems_eq_addAll _ _ _ 0 _ _
      case object.indexed entries field =>
        cases entries with
        | nil => rfl
        | cons entry rest => exact bind_congr fun _ => attachEntries_eq_addAll _ _ _ _ _
      case object.single inner =>
        refine bind_congr fun _ => ?_
        rw [addAll, List.foldlM_cons]
        exact (bind_pure _).symm
      all_goals rfl
    · rw [List.lookup_cons, beq_false_of_ne (Ne.symm hk), attach.eq_def]
      simp only [hk, if_false]
      exact ih

/-- An object becomes a new entity of its class with the entities of its members added to it. -/
theorem build_object (reg : Registry) (className : String) (here : Pointer) (members : Members) :
    build reg className here (.object members) = (do
      let c ← reg.require className
      match c.binding with
      | none => .error (.typeNotLoaded className)
      | some binding => do
        let e ← binding.construct (parametersOf c members)
        c.shape.relationships.foldlM
          (fun e r => gather reg r e (elements r here members)) e) := by
  rw [build]
  refine bind_congr fun c => ?_
  cases c.binding with
  | none => rfl
  | some binding =>
    refine bind_congr fun e => ?_
    have hstep : (fun (e : Entity) (r : Relationship) =>
        match memberKey? r members with
        | none => Except.ok e
        | some key => attach reg r key here e members) =
          fun e r => gather reg r e (elements r here members) := by
      funext e r
      rw [elements]
      cases memberKey? r members with
      | none => rfl
      | some key => exact attach_eq_gather reg r key here e members
    exact congrArg (fun step => c.shape.relationships.foldlM step e) hstep

/-- Only objects become entities. -/
theorem entityOf_ne_ok {reg : Registry} {v : Visit}
    (hkind : ∀ members, v.fragment ≠ .object members) (e : Entity) : entityOf reg v ≠ .ok e := by
  obtain ⟨name, here, fragment⟩ := v
  intro h
  rw [entityOf] at h
  cases fragment with
  | object members => exact hkind members rfl
  | _ =>
    rw [build] at h
    · obtain ⟨c, -, hbinding⟩ := Chain.bind_eq_ok_iff.1 h
      cases hc : c.binding <;> simp [hc] at hbinding
    · intro members hmembers
      cases hmembers

/-- Adding entities to a relationship keeps the class of an entity. -/
theorem className_of_gather {reg : Registry} {r : Relationship} {e gathered : Entity}
    {visits : List Visit} (h : gather reg r e visits = .ok gathered) :
    gathered.className = e.className := by
  rw [gather] at h
  split at h
  · exact Except.ok.inj h ▸ rfl
  · obtain ⟨_, -, hadd⟩ := Chain.bind_eq_ok_iff.1 h
    refine Chain.foldlM_invariant (P := fun d => d.className = e.className)
      (fun d v d' _ hd hstep => ?_) rfl hadd
    obtain ⟨item, -, hitem⟩ := Chain.bind_eq_ok_iff.1 hstep
    exact (Entity.className_of_add hitem).trans hd

variable {reg : Registry}

/-- In a ready registry an entity has the class that its fragment was visited under. -/
theorem className_of_entityOf (hreg : reg.Ready) {v : Visit} {e : Entity}
    (h : entityOf reg v = .ok e) : e.className = v.name := by
  obtain ⟨name, here, fragment⟩ := v
  cases fragment with
  | object members =>
    rw [entityOf, build_object] at h
    obtain ⟨c, hc, h⟩ := Chain.bind_eq_ok_iff.1 h
    rw [Registry.require_eq_ok_iff] at hc
    have hmem := Registry.mem_of_find? hc
    obtain ⟨b, hb⟩ := hreg.bound c hmem
    rw [hb.binding_eq] at h
    obtain ⟨start, hstart, hfold⟩ := Chain.bind_eq_ok_iff.1 h
    rw [Binding.construct_eq hb (hreg.wellFormed.shapes c hmem).distinct.of_append_left] at hstart
    obtain rfl := Except.ok.inj hstart
    rw [← Registry.name_of_find? hc]
    exact Chain.foldlM_invariant (P := fun e => e.className = c.name)
      (fun e r e' _ he hstep => (className_of_gather hstep).trans he) rfl hfold
  | _ => exact absurd h (entityOf_ne_ok (by simp) e)

/-- A class whose fragment has an entity is in the registry. -/
theorem contains_of_entityOf {v : Visit} {e : Entity} (h : entityOf reg v = .ok e) :
    reg.contains v.name = true := by
  obtain ⟨name, here, fragment⟩ := v
  have hrequire : ∃ c, reg.require name = .ok c := by
    rw [entityOf] at h
    cases fragment with
    | object members =>
      rw [build_object] at h
      obtain ⟨c, hc, -⟩ := Chain.bind_eq_ok_iff.1 h
      exact ⟨c, hc⟩
    | _ =>
      rw [build] at h
      · obtain ⟨c, hc, -⟩ := Chain.bind_eq_ok_iff.1 h
        exact ⟨c, hc⟩
      · nofun
  obtain ⟨c, hc⟩ := hrequire
  exact Registry.contains_iff_exists.2 ⟨c, Registry.require_eq_ok_iff.1 hc⟩

/-- Adding the entities of fragments to a slot fills it with them and leaves the others as they
are. -/
theorem addAll_eq_ok_iff (hreg : reg.Ready) {r : Relationship} {className : String}
    {attributes : List (String × Option Json)} {front back : List Slot} {s : Slot}
    (hname : s.name = r.name) (htarget : s.target = r.target)
    (hfront : ∀ t ∈ front, t.name ≠ r.name) {visits : List Visit}
    (hvisits : ∀ v ∈ visits, v.name = r.target) {e : Entity} :
    addAll reg r (.mk className attributes (front ++ s :: back)) visits = .ok e ↔
      ∃ entities, List.Forall₂ (fun v d => entityOf reg v = .ok d) visits entities ∧
        e = .mk className attributes (front ++ s.fill entities :: back) := by
  induction visits generalizing s with
  | nil =>
    rw [addAll, List.foldlM_nil]
    constructor
    · intro h
      exact ⟨[], .nil, (Except.ok.inj h).symm⟩
    · rintro ⟨entities, hentities, rfl⟩
      rw [List.forall₂_nil_left_iff] at hentities
      subst hentities
      rfl
  | cons v rest ih =>
    -- The slot takes the entity, as that is of the class that the relationship leads to.
    have hstep : ∀ d, entityOf reg v = .ok d →
        (Entity.mk className attributes (front ++ s :: back)).add r.name d =
          .ok (.mk className attributes (front ++ s.insert d :: back)) := by
      intro d hd
      have hclass : d.className = s.target := by
        rw [className_of_entityOf hreg hd, hvisits v (by simp), htarget]
      rw [← hname] at hfront ⊢
      exact Entity.add_append hfront hclass
    have hrest := fun d => ih (s := s.insert d) ((Slot.name_insert s d).trans hname)
      ((Slot.target_insert s d).trans htarget) fun w hw => hvisits w (by simp [hw])
    rw [addAll, List.foldlM_cons, Chain.bind_eq_ok_iff]
    constructor
    · rintro ⟨next, hnext, htail⟩
      obtain ⟨d, hd, hadd⟩ := Chain.bind_eq_ok_iff.1 hnext
      rw [hstep d hd] at hadd
      obtain rfl := Except.ok.inj hadd
      obtain ⟨entities, hentities, rfl⟩ := (hrest d).1 htail
      exact ⟨d :: entities, .cons hd hentities, rfl⟩
    · rintro ⟨entities, hentities, rfl⟩
      obtain ⟨d, tail, hd, htail, rfl⟩ := List.forall₂_cons_left_iff.1 hentities
      refine ⟨_, Chain.bind_eq_ok_iff.2 ⟨d, hd, hstep d hd⟩, ?_⟩
      exact (hrest d).2 ⟨tail, htail, rfl⟩

/-- A slot holds the entities of the fragments that an object has for its relationship. -/
def Filled (reg : Registry) (here : Pointer) (members : Members) (r : Relationship) (s : Slot) :
    Prop :=
  ∃ entities,
    List.Forall₂ (fun v d => entityOf reg v = .ok d) (elements r here members) entities ∧
      s = (Slot.ofRelationship r).fill entities

/-- Adding the entities of an object to an empty slot fills it and leaves the others as they
are. -/
theorem gather_eq_ok_iff (hreg : reg.Ready) {r : Relationship} {here : Pointer}
    {members : Members} {className : String} {attributes : List (String × Option Json)}
    {front back : List Slot} (hfront : ∀ t ∈ front, t.name ≠ r.name) {e : Entity} :
    gather reg r (.mk className attributes (front ++ Slot.ofRelationship r :: back))
        (elements r here members) = .ok e ↔
      ∃ s, Filled reg here members r s ∧
        e = .mk className attributes (front ++ s :: back) := by
  have hadd : addAll reg r (.mk className attributes (front ++ Slot.ofRelationship r :: back))
      (elements r here members) = .ok e ↔ _ :=
    addAll_eq_ok_iff hreg rfl rfl hfront fun v hv => name_of_mem_elements hv
  have hfilled : (∃ s, Filled reg here members r s ∧
      e = .mk className attributes (front ++ s :: back)) ↔
        addAll reg r (.mk className attributes (front ++ Slot.ofRelationship r :: back))
          (elements r here members) = .ok e := by
    rw [hadd]
    constructor
    · rintro ⟨s, ⟨entities, hentities, rfl⟩, he⟩
      exact ⟨entities, hentities, he⟩
    · rintro ⟨entities, hentities, he⟩
      exact ⟨_, ⟨entities, hentities, rfl⟩, he⟩
  rw [hfilled, gather]
  cases hvisits : elements r here members with
  | nil => rfl
  | cons v rest =>
    rw [List.isEmpty_cons, if_neg Bool.false_ne_true, Chain.bind_eq_ok_iff]
    constructor
    · rintro ⟨_, -, h⟩
      exact h
    · intro h
      -- The class exists because the first of the fragments has an entity.
      rw [← hvisits, hadd, hvisits] at h
      obtain ⟨entities, hentities, he⟩ := h
      obtain ⟨d, _, hd, -, -⟩ := List.forall₂_cons_left_iff.1 hentities
      have hcontains := contains_of_entityOf hd
      rw [name_of_mem_elements (hvisits ▸ List.mem_cons_self)] at hcontains
      refine ⟨(), if_pos hcontains, ?_⟩
      rw [← hvisits, hadd, hvisits]
      exact ⟨entities, hentities, he⟩

/-- Going through relationships with distinct names fills the slot of each of them. -/
theorem gatherAll_eq_ok_iff (hreg : reg.Ready) {here : Pointer} {members : Members}
    {className : String} {attributes : List (String × Option Json)} (front : List Slot)
    {relationships : List Relationship}
    (hnodup : (relationships.map Relationship.name).Nodup)
    (hfront : ∀ r ∈ relationships, ∀ t ∈ front, t.name ≠ r.name) {e : Entity} :
    relationships.foldlM (fun e r => gather reg r e (elements r here members))
        (.mk className attributes (front ++ relationships.map Slot.ofRelationship)) = .ok e ↔
      ∃ slots, List.Forall₂ (Filled reg here members) relationships slots ∧
        e = .mk className attributes (front ++ slots) := by
  induction relationships generalizing front with
  | nil =>
    rw [List.foldlM_nil]
    constructor
    · intro h
      exact ⟨[], .nil, (Except.ok.inj h).symm⟩
    · rintro ⟨slots, hslots, rfl⟩
      rw [List.forall₂_nil_left_iff] at hslots
      subst hslots
      rfl
  | cons r rest ih =>
    rw [List.map_cons, List.nodup_cons] at hnodup
    have hrest : ∀ s, Filled reg here members r s →
        (rest.foldlM (fun e r => gather reg r e (elements r here members))
          (.mk className attributes (front ++ s :: rest.map Slot.ofRelationship)) = .ok e ↔
        ∃ slots, List.Forall₂ (Filled reg here members) rest slots ∧
          e = .mk className attributes (front ++ s :: slots)) := by
      intro s hs
      have hname : s.name = r.name := by
        obtain ⟨entities, -, rfl⟩ := hs
        exact Slot.name_fill _ entities
      -- The slot that has been filled is behind the others that later names pass over.
      have hfree : ∀ q ∈ rest, ∀ t ∈ front ++ [s], t.name ≠ q.name := by
        intro q hq t ht
        rcases List.mem_append.1 ht with ht | ht
        · exact hfront q (by simp [hq]) t ht
        · obtain rfl := List.mem_singleton.1 ht
          rw [hname]
          exact fun h => hnodup.1 (List.mem_map.2 ⟨q, hq, h.symm⟩)
      have hfilled := ih _ hnodup.2 hfree
      simpa only [List.append_assoc, List.singleton_append] using hfilled
    rw [List.map_cons, List.foldlM_cons, Chain.bind_eq_ok_iff]
    constructor
    · rintro ⟨next, hnext, htail⟩
      obtain ⟨s, hs, rfl⟩ := (gather_eq_ok_iff hreg (hfront r (by simp))).1 hnext
      obtain ⟨slots, hslots, he⟩ := (hrest s hs).1 htail
      exact ⟨s :: slots, .cons hs hslots, he⟩
    · rintro ⟨slots, hslots, he⟩
      obtain ⟨s, tail, hs, htail, rfl⟩ := List.forall₂_cons_left_iff.1 hslots
      refine ⟨_, (gather_eq_ok_iff hreg (hfront r (by simp))).2 ⟨s, hs, rfl⟩, ?_⟩
      exact (hrest s hs).2 ⟨tail, htail, he⟩

/-- In a ready registry an object becomes an entity of its class with the values of its members and
with the slots filled from its members. -/
theorem build_eq_ok_iff (hreg : reg.Ready) {c : EntityClass} {className : String}
    (hc : reg.find? className = some c) {here : Pointer} {members : Members} {e : Entity} :
    build reg className here (.object members) = .ok e ↔
      ∃ slots, List.Forall₂ (Filled reg here members) c.shape.relationships slots ∧
        e = .mk className (c.shape.attributesFrom members) slots := by
  have hmem := Registry.mem_of_find? hc
  obtain rfl := Registry.name_of_find? hc
  obtain ⟨b, hb⟩ := hreg.bound c hmem
  have hdistinct := (hreg.wellFormed.shapes c hmem).distinct
  have hconstruct := Binding.construct_eq hb hdistinct.of_append_left members
  rw [build_object, Registry.require_eq_ok_iff.2 hc]
  show (match c.binding with
    | none => Except.error (Failure.typeNotLoaded c.name)
    | some binding => _) = _ ↔ _
  rw [hb.binding_eq]
  show (b.construct (parametersOf c members) >>= _) = _ ↔ _
  rw [hconstruct]
  exact gatherAll_eq_ok_iff hreg [] hdistinct.of_append_right (by simp)

end DocSchema.Materialize
