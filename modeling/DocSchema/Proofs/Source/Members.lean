import DocSchema.Proofs.Chain
import DocSchema.Proofs.Source.Declarations
import DocSchema.Proofs.Source.Identifiers
import DocSchema.Schema.Inference
import DocSchema.Schema.Validation
import Mathlib.Data.List.Nodup

/-!
# The members of generated types

The struct of a class has the identifiers of the members as fields (`structFieldsIn_ofClass`), and
its functions are its constructor and the accessors of its relationships (`functionsIn_ofClass`). In
a registry without issues the fields of a class are distinct; its functions are if and only if no
two relationships have one bare name, and no two tables one look-up (`nodup_members`). The issues of
a registry do not tell of that.
-/

namespace DocSchema.Source

open Text Code

section Distinct

/-- A function of an accessor adds, removes, iterates or looks up. -/
theorem Accessors.mem_functions_iff {a : Accessors} {f : String} :
    f ∈ a.functions ↔
      f = "add_" ++ a.name ∨ f = "remove_" ++ a.name ∨ f = "iter_" ++ a.name ∨
        a.lookup? = some f := by
  simp [Accessors.functions]

/-- The name of a look-up begins in a way of its own. -/
theorem Accessors.head?_of_lookup? {a : Accessors} {l : String} (h : a.lookup? = some l) :
    l.toList.head? = some 'g' := by
  rw [Accessors.lookup?] at h
  split at h
  · simp [← Option.some.inj h]
  · simp at h

/-- The functions of an accessor are distinct by their first letters. -/
theorem Accessors.nodup_functions (a : Accessors) : a.functions.Nodup := by
  refine List.Nodup.of_map (fun f => f.toList.head?) ?_
  rw [Accessors.functions]
  cases hl : a.lookup? with
  | none => simp
  | some l => simp [Accessors.head?_of_lookup? hl]

/-- Accessors share no function if and only if they have different names and look-ups. -/
theorem Accessors.disjoint_functions_iff {a b : Accessors} :
    a.functions.Disjoint b.functions ↔
      a.name ≠ b.name ∧ ∀ l, a.lookup? = some l → b.lookup? ≠ some l := by
  constructor
  · intro h
    refine ⟨fun hname => ?_, fun l ha hb => ?_⟩
    · exact h (a := "add_" ++ a.name) (mem_functions_iff.2 (.inl rfl))
        (mem_functions_iff.2 (.inl (by rw [hname])))
    · exact h (mem_functions_iff.2 (.inr (.inr (.inr ha))))
        (mem_functions_iff.2 (.inr (.inr (.inr hb))))
  · rintro ⟨hname, hlookup⟩ f ha hb
    -- Functions of different kinds begin with different letters.
    rcases mem_functions_iff.1 ha with ha | ha | ha | ha <;>
      rcases mem_functions_iff.1 hb with hb | hb | hb | hb
    all_goals
      first
      | exact hlookup f ha hb
      | exact hname (by simpa using ha.symm.trans hb)
      | simpa [ha] using Accessors.head?_of_lookup? hb
      | simpa [hb] using Accessors.head?_of_lookup? ha
      | simp [ha, ← String.toList_inj] at hb

/-- The functions of a module are distinct if and only if no two accessors have one name or one
look-up. -/
theorem nodup_functions_iff (accessors : List Accessors) :
    ("new" :: accessors.flatMap Accessors.functions).Nodup ↔
      accessors.Pairwise fun a b =>
        a.name ≠ b.name ∧ ∀ l, a.lookup? = some l → b.lookup? ≠ some l := by
  have hnew : "new" ∉ accessors.flatMap Accessors.functions := by
    intro h
    obtain ⟨a, -, ha⟩ := List.mem_flatMap.1 h
    rcases Accessors.mem_functions_iff.1 ha with h | h | h | h
    · simp [← String.toList_inj] at h
    · simp [← String.toList_inj] at h
    · simp [← String.toList_inj] at h
    · simpa using Accessors.head?_of_lookup? h
  rw [List.nodup_cons, List.nodup_flatMap]
  simp only [hnew, not_false_eq_true, true_and, Accessors.nodup_functions, implies_true]
  exact ⟨List.Pairwise.imp fun h => Accessors.disjoint_functions_iff.1 h,
    List.Pairwise.imp fun h => Accessors.disjoint_functions_iff.2 h⟩

/-- Names have no collisions if and only if their identifiers are distinct and not those of names
before them. -/
theorem collisionsAfter_eq_nil_iff {className : String} {seen : List (String × String)}
    {names : List String} :
    Validation.collisionsAfter className seen names = [] ↔
      (names.map fieldName).Nodup ∧ ∀ name ∈ names, fieldName name ∉ seen.map Prod.fst := by
  induction names generalizing seen with
  | nil => simp [Validation.collisionsAfter]
  | cons name rest ih =>
    rw [Validation.collisionsAfter]
    cases hseen : seen.lookup (fieldName name) with
    | some other =>
      have hmem : fieldName name ∈ seen.map Prod.fst := by
        have hsome : (seen.lookup (fieldName name)).isSome = true := by rw [hseen]; rfl
        obtain ⟨⟨_, v⟩, hv, heq⟩ := List.lookup_isSome_iff.1 hsome
        exact List.mem_map.2 ⟨_, hv, (beq_iff_eq.1 heq).symm⟩
      simp only [List.cons_ne_nil, false_iff, not_and]
      exact fun _ hall => hall name List.mem_cons_self hmem
    | none =>
      have hfree : fieldName name ∉ seen.map Prod.fst := by
        intro hmem
        obtain ⟨entry, hentry, heq⟩ := List.mem_map.1 hmem
        have hne := List.lookup_eq_none_iff.1 hseen entry hentry
        simp [heq] at hne
      simp only [ih, List.map_cons, List.nodup_cons, List.map_append, List.map_nil,
        List.mem_append, List.mem_singleton, not_or, List.forall_mem_cons]
      constructor
      · rintro ⟨hnodup, hrest⟩
        refine ⟨⟨fun hmem => ?_, hnodup⟩, hfree, fun other hother => (hrest other hother).1⟩
        obtain ⟨other, hother, heq⟩ := List.mem_map.1 hmem
        exact (hrest other hother).2 heq
      · rintro ⟨⟨hnew, hnodup⟩, -, hrest⟩
        exact ⟨hnodup, fun other hother =>
          ⟨hrest other hother, fun heq => hnew (heq ▸ List.mem_map_of_mem hother)⟩⟩

/-- The identifiers of the members of a class without issues are distinct. -/
theorem nodup_identifiers {reg : Registry} {c : EntityClass} (hissues : reg.issues = [])
    (hc : c ∈ reg.classes) : ((Validation.storedNames c).map fieldName).Nodup := by
  have hclass : Validation.classIssues reg c = [] := List.flatMap_eq_nil_iff.1 hissues c hc
  exact (collisionsAfter_eq_nil_iff.1 (List.append_eq_nil_iff.1 hclass).2).1

end Distinct

/-- The look-up of a table is named after the relationship and the index field. -/
def lookupName? (r : Relationship) : Option String :=
  r.storage.indexField?.map fun field => bareName r.name ++ "_with_" ++ bareName field

/-- The look-up of the accessors of a relationship. -/
theorem lookup?_accessorsOf (r : Relationship) (kind : Option Kind) :
    (accessorsOf r kind).lookup? = (lookupName? r).map ("get_" ++ ·) := by
  obtain ⟨name, owner, target, storage, jsonKey⟩ := r
  cases storage <;> simp [accessorsOf, Accessors.lookup?, lookupName?, Storage.indexField?,
    String.append_assoc]

/-- The accessors of a relationship share its bare name. -/
theorem name_accessorsOf (r : Relationship) (kind : Option Kind) :
    (accessorsOf r kind).name = bareName r.name := by
  rw [accessorsOf]

/-- The field of an attribute has the identifier of its name. -/
theorem name_attributeField (a : Attribute) : (attributeField a).name = fieldName a.name := by
  rw [attributeField]

/-- The field of a relationship has the identifier of its store. -/
theorem name_storeField (r : Relationship) : (storeField r).name = fieldName r.storageKey := by
  rw [storeField]

/-- The accessors of a relationship can be read back. -/
theorem clean_accessorsOf (r : Relationship) (kind : Option Kind) : (accessorsOf r kind).Clean where
  name := by
    rw [name_accessorsOf]
    exact notMem_bareName (by decide) (by decide)
  lookup lookupName key h := by
    obtain ⟨name, owner, target, storage, jsonKey⟩ := r
    cases storage with
    | indexed field =>
      simp only [accessorsOf, Access.table.injEq] at h
      exact h.1 ▸ notMem_bareName (by decide) (by decide)
    | _ => simp [accessorsOf] at h

/-- The fields of a class are named after the identifiers of its members. -/
theorem map_name_ofClass (reg : Registry) (c : EntityClass) :
    ((Module.ofClass reg c).values ++ (Module.ofClass reg c).stores).map Field.name =
      (Validation.storedNames c).map fieldName := by
  simp only [Module.ofClass, Validation.storedNames, List.map_append, List.map_map,
    Function.comp_def, name_attributeField, name_storeField]

/-- The fields of the struct of a class are the identifiers of its members. -/
theorem structFieldsIn_ofClass (reg : Registry) (c : EntityClass) :
    structFieldsIn (Module.ofClass reg c).code = (Validation.storedNames c).map fieldName := by
  rw [structFieldsIn_code, map_name_ofClass]
  intro f hf
  have hmem := List.mem_map_of_mem (f := Field.name) hf
  rw [map_name_ofClass] at hmem
  obtain ⟨name, -, hname⟩ := List.mem_map.1 hmem
  exact hname ▸ notMem_fieldName (by decide) (by decide) (by decide)

/-- The functions of the module of a class are its constructor and the accessors of its
relationships. -/
theorem functionsIn_ofClass (reg : Registry) (c : EntityClass) :
    functionsIn (Module.ofClass reg c).code = "new" :: (c.shape.relationships.map fun r =>
      accessorsOf r (indexKind? reg r)).flatMap Accessors.functions := by
  refine functionsIn_code fun a ha => ?_
  obtain ⟨r, -, rfl⟩ := List.mem_map.1 ha
  exact clean_accessorsOf r _

/-- The functions of a class are distinct if and only if no two relationships have one bare name or
one look-up. -/
theorem nodup_functionsIn_ofClass_iff (reg : Registry) (c : EntityClass) :
    (functionsIn (Module.ofClass reg c).code).Nodup ↔
      c.shape.relationships.Pairwise fun r q =>
        bareName r.name ≠ bareName q.name ∧
          ∀ l, lookupName? r = some l → lookupName? q ≠ some l := by
  have hlookup : ∀ r q : Relationship, ∀ kind kind',
      (∀ l, (accessorsOf r kind).lookup? = some l → (accessorsOf q kind').lookup? ≠ some l) ↔
        ∀ l, lookupName? r = some l → lookupName? q ≠ some l := by
    intro r q kind kind'
    rw [lookup?_accessorsOf, lookup?_accessorsOf]
    cases lookupName? r <;> cases lookupName? q <;> simp
  rw [functionsIn_ofClass, nodup_functions_iff, List.pairwise_map]
  simp only [name_accessorsOf, hlookup]

/-- In a registry without issues the fields of a class are distinct. Its functions are if and only
if no two relationships have one bare name or one look-up. -/
theorem nodup_members {reg : Registry} {c : EntityClass} (hissues : reg.issues = [])
    (hc : c ∈ reg.classes) :
    (structFieldsIn (Module.ofClass reg c).code).Nodup ∧
    ((functionsIn (Module.ofClass reg c).code).Nodup ↔
      c.shape.relationships.Pairwise fun r q =>
        bareName r.name ≠ bareName q.name ∧
          ∀ l, lookupName? r = some l → lookupName? q ≠ some l) := by
  refine ⟨?_, nodup_functionsIn_ofClass_iff reg c⟩
  rw [structFieldsIn_ofClass]
  exact nodup_identifiers hissues hc

/-- A document with a table, a sequence and a single object. -/
def apartMembers : Json :=
  .object [
    ("table_users", .object [("first", .object [("id", .string "a"), ("type", .null)])]),
    ("notes", .array [.object [("text", .string "b")]]),
    ("owner", .object [("name", .string "c")])]

/-- The members of the classes of a document are distinct. -/
theorem nodup_members_apartMembers :
    ∃ reg, Registry.inferDocument "root" apartMembers "" .union = .ok reg ∧ reg.issues = [] ∧
      ∀ c ∈ reg.classes, (structFieldsIn (Module.ofClass reg c).code).Nodup ∧
        ((functionsIn (Module.ofClass reg c).code).Nodup ↔
          c.shape.relationships.Pairwise fun r q =>
            bareName r.name ≠ bareName q.name ∧
              ∀ l, lookupName? r = some l → lookupName? q ≠ some l) := by
  have hcheck : (Registry.inferDocument "root" apartMembers "" .union).toOption.any
      (fun reg => decide (reg.issues = [])) = true := by decide +kernel
  obtain ⟨reg, hinfer, htest⟩ := Chain.exists_of_any hcheck
  have hissues : reg.issues = [] := of_decide_eq_true htest
  exact ⟨reg, hinfer, hissues, fun c hc => nodup_members hissues hc⟩

/-- A document with a single object and a sequence whose names agree in snake case. -/
def sharedBareName : Json :=
  .object [("fooBar", .object []), ("foo_bars", .array [.object []])]

/-- A registry has no issues, but one of its classes has a function twice. -/
theorem not_nodup_functions_sharedBareName :
    ∃ reg, Registry.inferDocument "root" sharedBareName "" .union = .ok reg ∧ reg.issues = [] ∧
      ∃ c ∈ reg.classes, ¬ (functionsIn (Module.ofClass reg c).code).Nodup := by
  have hcheck : (Registry.inferDocument "root" sharedBareName "" .union).toOption.any
      (fun reg => decide (reg.issues = [] ∧ ∃ c ∈ reg.classes,
        ¬ c.shape.relationships.Pairwise fun r q => bareName r.name ≠ bareName q.name)) =
      true := by decide +kernel
  obtain ⟨reg, hinfer, htest⟩ := Chain.exists_of_any hcheck
  obtain ⟨hissues, c, hc, hshared⟩ := of_decide_eq_true htest
  refine ⟨reg, hinfer, hissues, c, hc, fun hnodup => hshared ?_⟩
  exact ((nodup_functionsIn_ofClass_iff reg c).1 hnodup).imp And.left

end DocSchema.Source
