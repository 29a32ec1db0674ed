import DocSchema.Proofs.Pipeline.Placement

/-!
# The kinds of attribute values

An attribute is seen with scalars, but an object of its class may hold an array or an object under
the name of the attribute, and then the entity of that object takes it as the value. This is the
only way in which the values fail to have the kinds of their attributes (`kindsHold_iff`):
`KindsHold` says that they have, and `Clash` that some object of an entity has such a member. The
class has the attribute because another object of the class has a scalar under the name
(`exists_scalar_of_declared`).
-/

namespace DocSchema

/-- The kind that a class declares for an attribute. -/
def Registry.declaredKind? (reg : Registry) (className name : String) : Option Kind :=
  (reg.find? className).bind fun c => c.shape.kind? name

namespace Pipeline

open Inference Materialize

/-- The values of attributes are scalars and, in a union, of the kind that the class declares. -/
structure KindsHold (mode : Merge) (reg : Registry) (root : Entity) : Prop where
  /-- No attribute holds an array or an object. -/
  scalar : ∀ t e name value, root.at? t = some e → (name, some value) ∈ e.attributes →
    (Kind.of? value).isSome = true
  /-- In a union a value has the kind that the class declares for the attribute. -/
  declared : mode = .union → ∀ t e name value, root.at? t = some e →
    (name, some value) ∈ e.attributes → reg.declaredKind? e.className name = Kind.of? value

/-- The object at the place of an entity has an array or an object under the name of an attribute
that the class of the entity declares. -/
def Clash (document : Json) (reg : Registry) (root : Entity) (place : Trail → Pointer) : Prop :=
  ∃ t e members name value, root.at? t = some e ∧
    document.part? (place t).steps = some (.object members) ∧
    members.lookup name = some value ∧ Kind.of? value = none ∧
    (reg.declaredKind? e.className name).isSome = true

/-- Every entity that is found from that of a visited fragment is that of a visited object. -/
theorem exists_visit_of_at? {rootName : String} {document : Json} {mode : Merge} {reg : Registry}
    (hreg : reg.Ready) (hyields : Yields rootName document mode reg) {t : Trail} {v : Visit}
    (hv : v.course ⊆ course rootName .root document) {e d : Entity}
    (he : entityOf reg v = .ok e) (hd : e.at? t = some d) :
    ∃ w : Visit, w.course ⊆ course rootName .root document ∧ entityOf reg w = .ok d := by
  induction t generalizing v e with
  | nil =>
    obtain rfl := Option.some.inj hd
    exact ⟨v, hv, he⟩
  | cons p rest ih =>
    obtain ⟨name, here, fragment⟩ := v
    obtain ⟨members, c, _, rfl, hc, hwell, -⟩ := exists_class hyields hv
    obtain ⟨slots, hslots, rfl⟩ := (build_eq_ok_iff hreg hc).1 he
    obtain ⟨s, hs, hd⟩ := Option.bind_eq_some_iff.1 hd
    obtain ⟨item, hitem, hd⟩ := Option.bind_eq_some_iff.1 hd
    obtain ⟨origins, horigins⟩ := exists_origins_of_filled hslots p.1
    obtain ⟨w, key, value, -, hm, hw, hentity⟩ := horigins.exists_of_item hwell hs hitem
    exact ih (part_subset hyields hv hm hw) hentity hd

/-- The attributes of an entity are those that its class declares. -/
theorem mem_names_iff_declared {rootName : String} {document : Json} {mode : Merge}
    {reg : Registry} {root : Entity} (hrests : Rests rootName document mode reg root) {t : Trail}
    {e : Entity} (he : root.at? t = some e) (name : String) :
    name ∈ e.attributes.map Prod.fst ↔ (reg.declaredKind? e.className name).isSome = true := by
  obtain ⟨v, hv, hentity⟩ := exists_visit_of_at? hrests.ready hrests.yields
    (v := ⟨rootName, .root, document⟩) (List.Subset.refl _) hrests.entity_eq he
  obtain ⟨className, here, fragment⟩ := v
  obtain ⟨members, c, _, rfl, hc, -⟩ := exists_class hrests.yields hv
  obtain ⟨slots, -, rfl⟩ := (build_eq_ok_iff hrests.ready hc).1 hentity
  have hdeclared : reg.declaredKind? className name = c.shape.kind? name := by
    rw [Registry.declaredKind?, hc]
    rfl
  show name ∈ (c.shape.attributesFrom members).map Prod.fst ↔
    (reg.declaredKind? className name).isSome = true
  rw [hdeclared, Shape.isSome_kind?_iff, Shape.attributesFrom, List.map_map]
  rfl

/-- A class declares an attribute only if an object of the class has a scalar under its name. -/
theorem exists_scalar_of_declared {rootName : String} {document : Json} {mode : Merge}
    {reg : Registry} (hyields : Yields rootName document mode reg) {className name : String}
    (h : (reg.declaredKind? className name).isSome = true) :
    ∃ here members value, .enter className here members ∈ course rootName .root document ∧
      (name, value) ∈ members ∧ (Kind.of? value).isSome = true := by
  obtain ⟨kind, hkind⟩ := Option.isSome_iff_exists.1 h
  obtain ⟨c, hc, hkind⟩ := Option.bind_eq_some_iff.1 hkind
  have hname : name ∈ c.shape.attributes.map Attribute.name :=
    Shape.isSome_kind?_iff.1 (Option.isSome_of_eq_some hkind)
  obtain ⟨shape, hmerge, hshape⟩ := hyields.declared className c name hc hname
  obtain ⟨here, members, henter, hfrom⟩ :=
    exists_enter_of_merge (v := ⟨rootName, .root, document⟩) hyields.smooth hmerge
  obtain ⟨value, hm, hvalue⟩ := exists_scalar_of_shapeFrom hfrom hshape
  exact ⟨here, members, value, henter, hm, hvalue⟩

/-- In a union a class declares every scalar member of its objects, with its kind unless that is
null. -/
theorem declaredKind?_of_enter {rootName : String} {document : Json} {reg : Registry}
    (hyields : Yields rootName document .union reg) {className name : String} {here : Pointer}
    {members : Members} (henter : .enter className here members ∈ course rootName .root document)
    {value : Json} {kind : Kind} (hm : (name, value) ∈ members)
    (hkind : Kind.of? value = some kind) :
    ∃ k, reg.declaredKind? className name = some k ∧ (kind = .any ∨ k = kind) := by
  have hv := Visit.course_subset_of_enter (v := ⟨rootName, .root, document⟩) hyields.smooth henter
  obtain ⟨_, c, shape, hobject, hc, -, hshape, hextends⟩ := exists_class hyields hv
  obtain rfl := Json.object.inj hobject
  obtain ⟨k, hk, hor⟩ := (hextends rfl).kinds name kind (kind?_of_shapeFrom hshape hm hkind)
  refine ⟨k, ?_, hor⟩
  rw [Registry.declaredKind?, hc]
  exact hk

/-- Arrays and objects are not null. -/
theorem isNull_of_kind_eq_none {value : Json} (h : Kind.of? value = none) :
    value.isNull = false := by
  rw [Json.isNull_eq_false_iff]
  rintro rfl
  simp [Kind.of?] at h

section Rests

variable {rootName : String} {document : Json} {mode : Merge} {reg : Registry} {root : Entity}
  {place : Trail → Pointer}

/-- The entity of an object that has an array or an object under the name of an attribute takes it
as the value. -/
theorem not_kindsHold_of_clash (hrests : Rests rootName document mode reg root)
    (hplace : Placement rootName document .root root place)
    (hclash : Clash document reg root place) : ¬ KindsHold mode reg root := by
  obtain ⟨t, e, members, name, value, he, hpart, hvalue, hkind, hdeclared⟩ := hclash
  intro hholds
  have hname := (mem_names_iff_declared hrests he name).2 hdeclared
  obtain ⟨⟨_, held⟩, hmem, rfl⟩ := List.mem_map.1 hname
  have hnull := isNull_of_kind_eq_none hkind
  cases held with
  | none =>
    -- An attribute is absent only where its member is missing or null.
    have := hplace.absent t e members _ value he hpart hmem hvalue
    simp [hnull] at this
  | some v =>
    obtain ⟨inner, hinner, -, hpresent⟩ := hplace.object t e he
    obtain rfl := Json.object.inj (Option.some.inj (hpart.symm.trans hinner))
    obtain ⟨hv, -⟩ := hpresent _ v hmem
    obtain rfl := Option.some.inj (hvalue.symm.trans hv)
    have hscalar := hholds.scalar t e _ value he hmem
    simp [hkind] at hscalar

/-- Where there is no such object, every value is a scalar, and in a union it has the kind that the
class declares. -/
theorem kindsHold_of_not_clash (hrests : Rests rootName document mode reg root)
    (hplace : Placement rootName document .root root place)
    (hclash : ¬ Clash document reg root place) : KindsHold mode reg root := by
  have hscalar : ∀ t e name value, root.at? t = some e → (name, some value) ∈ e.attributes →
      (Kind.of? value).isSome = true := by
    intro t e name value he hmem
    obtain ⟨members, hpart, -, hpresent⟩ := hplace.object t e he
    rw [Option.isSome_iff_ne_none]
    intro hkind
    have hdeclared := (mem_names_iff_declared hrests he name).1 (List.mem_map.2 ⟨_, hmem, rfl⟩)
    exact hclash ⟨t, e, members, name, value, he, hpart, (hpresent name value hmem).1, hkind,
      hdeclared⟩
  refine ⟨hscalar, ?_⟩
  rintro rfl t e name value he hmem
  obtain ⟨kind, hkind⟩ := Option.isSome_iff_exists.1 (hscalar t e name value he hmem)
  obtain ⟨members, -, henter, hpresent⟩ := hplace.object t e he
  obtain ⟨hvalue, hnull⟩ := hpresent name value hmem
  obtain ⟨k, hk, hor⟩ := declaredKind?_of_enter hrests.yields henter
    (mem_of_lookup_eq_some hvalue) hkind
  rw [hk, hkind]
  rcases hor with rfl | rfl
  · -- Only null is of the kind that is still unknown, and null makes an attribute absent.
    cases value <;> simp [Kind.of?, Json.isNull] at hkind hnull
  · rfl

end Rests

/-- The values of the attributes have their kinds if and only if no object of an entity has an array
or an object under the name of an attribute. Classes declare the names of scalar members of their
objects only, and in a union all of these, so an object clashes with a scalar under the same name in
another object of its class. Documents that are read are distinct (`Json.distinct_of_read`). -/
theorem kindsHold_iff {rootName classNamespace : String} {document : Json} {settings : Settings}
    {p : Pipeline} (hdistinct : document.Distinct)
    (h : run rootName document classNamespace settings = .ok p) :
    ∃ place, Placement rootName document .root p.root place ∧
      (KindsHold settings.merge p.registry p.root ↔
        ¬ Clash document p.registry p.root place) ∧
      ∀ className name,
        ((p.registry.declaredKind? className name).isSome = true →
          ∃ here members value, .enter className here members ∈ course rootName .root document ∧
            (name, value) ∈ members ∧ (Kind.of? value).isSome = true) ∧
        (settings.merge = .union → ∀ here members value,
          .enter className here members ∈ course rootName .root document →
            (name, value) ∈ members → (Kind.of? value).isSome = true →
              (p.registry.declaredKind? className name).isSome = true) := by
  have hrests := rests_of_run h
  obtain ⟨place, hplace⟩ := exists_placement_of_visit hrests.ready hrests.yields hdistinct
    ⟨rootName, .root, document⟩ (List.Subset.refl _) hdistinct hrests.entity_eq
  refine ⟨place, hplace, ⟨fun hholds hclash => ?_, kindsHold_of_not_clash hrests hplace⟩,
    fun className name => ⟨exists_scalar_of_declared hrests.yields, ?_⟩⟩
  · exact not_kindsHold_of_clash hrests hplace hclash hholds
  · intro hmode here members value henter hm hvalue
    obtain ⟨kind, hkind⟩ := Option.isSome_iff_exists.1 hvalue
    obtain ⟨k, hk, -⟩ := declaredKind?_of_enter (hmode ▸ hrests.yields) henter hm hkind
    exact Option.isSome_of_eq_some hk

/-- A document in which one item has a number and another one an array under the same key. -/
def numberOrArray : Json :=
  .object [("items", .array [
    .object [("xs", .number (.integer 5 (by decide)))],
    .object [("xs", .array [.object [("a", .number (.integer 1 (by decide)))]])]])]

/-- The exact condition holds of the items. -/
theorem kindsHold_iff_numberOrArray :
    numberOrArray.Distinct ∧ ∃ p, run "root" numberOrArray "" ⟨.overwrite, true⟩ = .ok p ∧
      ∃ place, Placement "root" numberOrArray .root p.root place ∧
        (KindsHold .overwrite p.registry p.root ↔
          ¬ Clash numberOrArray p.registry p.root place) := by
  have hdistinct : numberOrArray.Distinct := by
    simp [numberOrArray, Json.Distinct, Json.DistinctItems, Json.DistinctMembers]
  have hok : (run "root" numberOrArray "" ⟨.overwrite, true⟩).isOk = true := by decide +kernel
  obtain ⟨p, hp⟩ := Chain.exists_of_isOk hok
  obtain ⟨place, hplace, hiff, -⟩ := kindsHold_iff hdistinct hp
  exact ⟨hdistinct, p, hp, place, hplace, hiff⟩

/-- The attribute of the second item holds an array. -/
def secondHoldsArray (p : Pipeline) : Bool :=
  match (p.root.at? [(0, 1)]).map Entity.attributes with
  | some [("xs", some (.array _))] => true
  | _ => false

/-- In a union the second item takes its array as the value of an attribute that was seen with a
number. -/
theorem not_kindsHold_numberOrArray :
    ∃ p, run "root" numberOrArray "" ⟨.union, false⟩ = .ok p ∧
      ¬ KindsHold .union p.registry p.root := by
  have hcheck : (match run "root" numberOrArray "" ⟨.union, false⟩ with
      | .ok p => secondHoldsArray p
      | .error _ => false) = true := by decide +kernel
  cases hrun : run "root" numberOrArray "" ⟨.union, false⟩ with
  | error failure => simp [hrun] at hcheck
  | ok p =>
    refine ⟨p, rfl, fun hholds => ?_⟩
    simp only [hrun, secondHoldsArray] at hcheck
    split at hcheck
    · next items hattributes =>
      obtain ⟨e, he, hattributes⟩ := Option.map_eq_some_iff.1 hattributes
      have hscalar := hholds.scalar _ e "xs" (.array items) he (hattributes ▸ by simp)
      simp [Kind.of?] at hscalar
    · simp at hcheck

end Pipeline

end DocSchema
