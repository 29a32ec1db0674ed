import DocSchema.Proofs.Entity.Building

/-!
# Why building fails

Building the entity of a fragment comes to the fragments that it `Reaches`, from an object to the
elements of its relationships. If it fails, one of these fragments shows the `Cause`
(`exists_cause`): its class is missing or not loaded, it is no object, a class that one of its
relationships leads to is missing, or an entity does not take what it is given. So a class that is
not loaded stops the building only where the registry has it without a binding
(`exists_unbound_of_build`).
-/

namespace DocSchema

/-- A failure of reading or changing an entity. -/
def Failure.OfAccess : Failure → Prop
  | unknownAttribute _ _ => True
  | unknownRelationship _ _ => True
  | typeMismatch _ _ _ _ => True
  | _ => False

section Access

variable {failure : Failure}

/-- Adding an entity fails because of the relationship or the class of the entity. -/
theorem Entity.ofAccess_of_add {e item : Entity} {name : String}
    (h : e.add name item = .error failure) : failure.OfAccess := by
  rw [add] at h
  rcases Chain.bind_eq_error_iff.1 h with hslot | ⟨s, -, hadd⟩
  · rw [slot] at hslot
    split at hslot
    · simp at hslot
    · exact Except.error.inj hslot ▸ trivial
  · split at hadd
    · simp at hadd
    · exact Except.error.inj hadd ▸ trivial

/-- Setting attributes fails because of an attribute. -/
theorem Binding.ofAccess_of_setAll {e : Entity} {parameters : Parameters}
    (h : setAll e parameters = .error failure) : failure.OfAccess := by
  induction parameters generalizing e with
  | nil => simp [setAll] at h
  | cons parameter rest ih =>
    rw [setAll] at h
    rcases Chain.bind_eq_error_iff.1 h with hset | ⟨set, -, hrest⟩
    · obtain ⟨className, attributes, slots⟩ := e
      rw [Entity.setAttribute] at hset
      split at hset
      · simp at hset
      · exact Except.error.inj hset ▸ trivial
    · exact ih hrest

end Access

namespace Materialize

open Inference

/-- An element of an object is smaller than the object. -/
theorem sizeOf_element_lt {r : Relationship} {here : Pointer} {members : Members} {v : Visit}
    (hv : v ∈ elements r here members) : sizeOf v.fragment < sizeOf (Json.object members) := by
  obtain ⟨key, value, -, hlookup, heq⟩ := exists_held_of_elements_ne_nil (List.ne_nil_of_mem hv)
  rw [heq] at hv
  have hvalue : sizeOf value < sizeOf members := by
    have := List.sizeOf_lt_of_mem (mem_of_lookup_eq_some hlookup)
    simp only [Prod.mk.sizeOf_spec] at this
    omega
  have hheld : sizeOf v.fragment ≤ sizeOf value := by
    unfold held at hv
    split at hv
    · next items _ =>
      obtain ⟨⟨item, position⟩, hitem, rfl⟩ := List.mem_map.1 hv
      have : sizeOf item < sizeOf items :=
        List.sizeOf_lt_of_mem (List.fst_mem_of_mem_zipIdx hitem)
      simp only [Json.array.sizeOf_spec]
      omega
    · next entries _ _ =>
      obtain ⟨⟨entry, inner⟩, hentry, rfl⟩ := List.mem_map.1 hv
      have := List.sizeOf_lt_of_mem hentry
      simp only [Prod.mk.sizeOf_spec] at this
      simp only [Json.object.sizeOf_spec]
      omega
    · obtain rfl := List.mem_singleton.1 hv
      exact Nat.le_refl _
    · simp at hv
  simp only [Json.object.sizeOf_spec]
  omega

/-- What holds of a fragment if it holds of all elements that it has as an object holds of every
fragment. -/
theorem elements_induction {P : Visit → Prop}
    (step : ∀ v : Visit, (∀ members r, v.fragment = .object members →
      ∀ w ∈ elements r v.place members, P w) → P v) (v : Visit) : P v :=
  step v fun _ _ _ w _ => elements_induction step w
termination_by sizeOf v.fragment
decreasing_by
  rw [‹v.fragment = _›]
  exact sizeOf_element_lt ‹_›

variable {reg : Registry}

/-- Building the entity of a fragment comes to the fragment itself, and to what the elements of its
relationships come to if it is an object. -/
inductive Reaches (reg : Registry) : Visit → Visit → Prop where
  /-- The fragment itself. -/
  | self (v : Visit) : Reaches reg v v
  /-- What an element of a relationship of its class comes to. -/
  | element {v w u : Visit} {members : Members} {c : EntityClass} {r : Relationship}
    (hobject : v.fragment = .object members) (hc : reg.find? v.name = some c)
    (hr : r ∈ c.shape.relationships) (hw : w ∈ elements r v.place members)
    (hu : Reaches reg w u) : Reaches reg v u

/-- Why building stops at a fragment. -/
inductive Cause (reg : Registry) (v : Visit) : Failure → Prop where
  /-- Its class is missing. -/
  | missing (h : reg.find? v.name = none) : Cause reg v (.classNotFound v.name none)
  /-- Its class is not loaded. -/
  | unloaded {c : EntityClass} (hc : reg.find? v.name = some c) (h : c.binding = none) :
    Cause reg v (.typeNotLoaded v.name)
  /-- It is no object. -/
  | kind (h : ∀ members, v.fragment ≠ .object members) :
    Cause reg v (.unsupportedFragment v.name v.place v.fragment.kindName)
  /-- A class that one of its relationships leads to is missing. -/
  | target {c : EntityClass} {r : Relationship} (hc : reg.find? v.name = some c)
    (hr : r ∈ c.shape.relationships) (h : reg.contains r.target = false) :
    Cause reg v (.classNotFound r.target (some r.name))
  /-- An entity does not take what it is given. -/
  | access {failure : Failure} (h : failure.OfAccess) : Cause reg v failure

/-- Building cannot begin where the class is missing. -/
theorem entityOf_of_missing {v : Visit} (h : reg.find? v.name = none) :
    entityOf reg v = .error (.classNotFound v.name none) := by
  have hrequire : reg.require v.name = .error (.classNotFound v.name none) := by
    simp [Registry.require, h]
  obtain ⟨name, here, fragment⟩ := v
  cases fragment <;> simp only [entityOf, build, hrequire] <;> rfl

section Begun

variable {v : Visit} {c : EntityClass}

/-- Building cannot begin where the class is not loaded. -/
theorem entityOf_of_unloaded (hc : reg.find? v.name = some c) (h : c.binding = none) :
    entityOf reg v = .error (.typeNotLoaded v.name) := by
  have hrequire := Registry.require_eq_ok_iff.2 hc
  obtain ⟨name, here, fragment⟩ := v
  cases fragment <;> simp only [entityOf, build, hrequire, bind, Except.bind, h]

/-- Building comes to nothing where there is no object. -/
theorem entityOf_of_not_object {b : Binding} (hc : reg.find? v.name = some c)
    (hb : c.binding = some b) (h : ∀ members, v.fragment ≠ .object members) :
    entityOf reg v = .error (.unsupportedFragment v.name v.place v.fragment.kindName) := by
  have hrequire := Registry.require_eq_ok_iff.2 hc
  obtain ⟨name, here, fragment⟩ := v
  cases fragment with
  | object members => exact absurd rfl (h members)
  | _ => simp only [entityOf, build, hrequire, bind, Except.bind, hb]

/-- Building an object makes an entity and adds those of the relationships to it. -/
theorem entityOf_object {b : Binding} {members : Members} (hc : reg.find? v.name = some c)
    (hb : c.binding = some b) (h : v.fragment = .object members) :
    entityOf reg v = (b.construct (parametersOf c members)).bind fun e =>
      c.shape.relationships.foldlM
        (fun e r => gather reg r e (elements r v.place members)) e := by
  rw [entityOf, h, build_object, Registry.require_eq_ok_iff.2 hc]
  simp only [bind, Except.bind, hb]

end Begun

/-- Adding the entities of fragments to a relationship fails because of the class it leads to, at
one of the fragments, or because an entity cannot be added. -/
theorem gather_eq_error {r : Relationship} {e : Entity} {visits : List Visit} {failure : Failure}
    (h : gather reg r e visits = .error failure) :
    (reg.contains r.target = false ∧ failure = .classNotFound r.target (some r.name)) ∨
      (∃ w ∈ visits, entityOf reg w = .error failure) ∨ failure.OfAccess := by
  rw [gather] at h
  split at h
  · simp at h
  · rcases Chain.bind_eq_error_iff.1 h with htarget | ⟨_, -, hadd⟩
    · rw [requireTarget] at htarget
      split at htarget
      · simp at htarget
      · next hnone => exact .inl ⟨by simpa using hnone, (Except.error.inj htarget).symm⟩
    · obtain ⟨e, w, hw, hstep⟩ := Chain.exists_error_of_foldlM hadd
      rcases Chain.bind_eq_error_iff.1 hstep with hentity | ⟨d, -, hadd⟩
      · exact .inr (.inl ⟨w, hw, hentity⟩)
      · exact .inr (.inr (Entity.ofAccess_of_add hadd))

/-- If the entity of a fragment cannot be built, the fragment is the cause, or an element of a
relationship of its class whose entity cannot be built for the same reason. -/
theorem cause_or_element {v : Visit} {failure : Failure} (h : entityOf reg v = .error failure) :
    Cause reg v failure ∨ ∃ members c r, v.fragment = .object members ∧
      reg.find? v.name = some c ∧ r ∈ c.shape.relationships ∧
      ∃ w ∈ elements r v.place members, entityOf reg w = .error failure := by
  cases hc : reg.find? v.name with
  | none =>
    rw [entityOf_of_missing hc] at h
    exact .inl (Except.error.inj h ▸ .missing hc)
  | some c =>
    cases hb : c.binding with
    | none =>
      rw [entityOf_of_unloaded hc hb] at h
      exact .inl (Except.error.inj h ▸ .unloaded hc hb)
    | some b =>
      by_cases hobject : ∃ members, v.fragment = .object members
      · obtain ⟨members, hobject⟩ := hobject
        rw [entityOf_object hc hb hobject] at h
        rcases Chain.bind_eq_error_iff.1 h with hconstruct | ⟨e, -, hgather⟩
        · exact .inl (.access (Binding.ofAccess_of_setAll hconstruct))
        · obtain ⟨e, r, hr, hstep⟩ := Chain.exists_error_of_foldlM hgather
          rcases gather_eq_error hstep with ⟨htarget, rfl⟩ | hentity | haccess
          · exact .inl (.target hc hr htarget)
          · exact .inr ⟨members, c, r, hobject, rfl, hr, hentity⟩
          · exact .inl (.access haccess)
      · have hobject := not_exists.1 hobject
        rw [entityOf_of_not_object hc hb hobject] at h
        exact .inl (Except.error.inj h ▸ .kind hobject)

/-- If the entity of a fragment cannot be built, one of the fragments that the building comes to is
the cause. -/
theorem exists_cause {v : Visit} {failure : Failure} (h : entityOf reg v = .error failure) :
    ∃ u, Reaches reg v u ∧ Cause reg u failure := by
  induction v using elements_induction with
  | step v ih =>
    rcases cause_or_element h with hcause | ⟨members, c, r, hobject, hc, hr, w, hw, hentity⟩
    · exact ⟨v, .self v, hcause⟩
    · obtain ⟨u, hu, hcause⟩ := ih members r hobject w hw hentity
      exact ⟨u, .element hobject hc hr hw hu, hcause⟩

/-- Building fails for a class that is not loaded only where the registry has it without a
binding. -/
theorem exists_unbound_of_build {className name : String} {here : Pointer} {fragment : Json}
    (h : build reg name here fragment = .error (.typeNotLoaded className)) :
    ∃ c, reg.find? className = some c ∧ c.binding = none := by
  obtain ⟨u, -, hcause⟩ := exists_cause (v := ⟨name, here, fragment⟩) h
  cases hcause with
  | unloaded hc hbinding => exact ⟨_, hc, hbinding⟩
  | access haccess => exact haccess.elim

end Materialize

end DocSchema
