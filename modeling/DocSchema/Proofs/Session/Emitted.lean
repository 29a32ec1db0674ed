import DocSchema.Proofs.Json.Decoding
import DocSchema.Proofs.Session.Histories

/-!
# Registries as JSON values

The JSON value of a registry leaves out members where there is nothing to tell: the index field of a
relationship that is no table, and the code of a class that has none. Kinds and multiplicities are
names in it. All the same a registry is read back (`Registry.undoes_toJson`) but for what is not
told at all: whether it is frozen, and what its classes are bound to. So registries have equal values
if and only if they agree in what is told (`Session.toJson_determines`). The namespaces of the classes
need not be compared then, as they are that of the registry.
-/

namespace DocSchema

section Alike

/-- Two relationships have the same names, ends and storage. -/
structure Relationship.Alike (r other : Relationship) : Prop where
  /-- They have the same name. -/
  name_eq : r.name = other.name
  /-- They start from classes of one name. -/
  owner_eq : r.owner = other.owner
  /-- They lead to classes of one name. -/
  target_eq : r.target = other.target
  /-- There are as many objects. -/
  multiplicity_eq : r.storage.multiplicity = other.storage.multiplicity
  /-- They have the same index field, or none. -/
  indexField?_eq : r.storage.indexField? = other.storage.indexField?
  /-- They were seen under the same key. -/
  jsonKey_eq : r.jsonKey = other.jsonKey

/-- Two classes have the same name, the same members in order and the same code. -/
structure EntityClass.Alike (c other : EntityClass) : Prop where
  /-- They have the same name. -/
  name_eq : c.name = other.name
  /-- They have the same attributes of the same kinds, in order. -/
  attributes_eq : c.shape.attributes = other.shape.attributes
  /-- They have the same relationships in order. -/
  relationships : List.Forall₂ Relationship.Alike c.shape.relationships other.shape.relationships
  /-- They have the same code, or none. -/
  artifact_eq : c.artifact = other.artifact

/-- Two registries have the same namespace and root and the same classes in order. -/
structure Registry.Alike (reg other : Registry) : Prop where
  /-- They have the same namespace. -/
  classNamespace_eq : reg.classNamespace = other.classNamespace
  /-- They have a root of the same name, or none. -/
  rootName_eq : reg.rootName = other.rootName
  /-- They have the same classes in order. -/
  classes : List.Forall₂ EntityClass.Alike reg.classes other.classes

end Alike

/-- The kind of a name. -/
def Kind.ofName? : String → Option Kind
  | "string" => some string
  | "number" => some number
  | "boolean" => some boolean
  | "any" => some any
  | _ => none

/-- The storage of a multiplicity and an index field. -/
def Storage.ofKeys? : String → Option String → Option Storage
  | "one_to_one", none => some single
  | "one_to_many", none => some sequence
  | "one_to_many", some field => some (indexed field)
  | _, _ => none

/-- Reads a relationship. -/
def Relationship.ofJson? (a : Json) : Option Relationship := do
  let name ← a.field? "name" Json.text?
  let owner ← a.field? "owner_class" Json.text?
  let target ← a.field? "target_class" Json.text?
  let multiplicity ← a.field? "multiplicity" Json.text?
  let indexField ← a.optional? "index_field" Json.text?
  let storage ← Storage.ofKeys? multiplicity indexField
  let jsonKey ← a.field? "json_key" Json.text?
  some { name, owner, target, storage, jsonKey }

namespace EntityClass

/-- Reads an attribute. -/
def attributeOf? : Json → Option Attribute
  | .array [.string name, .string kind] => (Kind.ofName? kind).map fun kind => ⟨name, kind⟩
  | _ => none

/-- Reads a reference to code. -/
def artifactOf? (a : Json) : Option ArtifactRef := do
  let modulePath ← a.field? "module_path" Json.text?
  let fileName ← a.field? "file_name" Json.text?
  some { modulePath, fileName }

/-- Reads a class. It is bound to nothing. -/
def ofJson? (a : Json) : Option EntityClass := do
  let name ← a.field? "name" Json.text?
  let classNamespace ← a.field? "namespace" Json.text?
  let attributes ← a.field? "attributes" (Json.items? attributeOf?)
  let relationships ← a.field? "relationships" (Json.items? Relationship.ofJson?)
  let artifact ← a.optional? "generated_artifact" artifactOf?
  some { name, classNamespace, shape := { attributes, relationships }, artifact, binding := none }

/-- A class as it is told: without its binding. -/
def told (c : EntityClass) : EntityClass := { c with binding := none }

end EntityClass

namespace Registry

/-- Reads a registry. Its shapes do not change any more. -/
def ofJson? (a : Json) : Option Registry := do
  let classNamespace ← a.field? "namespace" Json.text?
  let rootName ← a.field? "root" Json.textOrNull?
  let classes ← a.field? "classes" (Json.items? EntityClass.ofJson?)
  some { classNamespace, rootName, classes, frozen := true }

/-- A registry as it is told: frozen, and without the bindings of its classes. -/
def told (reg : Registry) : Registry :=
  { reg with classes := reg.classes.map EntityClass.told, frozen := true }

end Registry

section Reading

open Json

/-- A kind is read back from its name. -/
theorem Kind.ofName?_name (k : Kind) : ofName? k.name = some k := by
  cases k <;> rfl

/-- A storage is read back from what is told of it. -/
theorem Storage.ofKeys?_eq (s : Storage) : ofKeys? s.multiplicityKey s.indexField? = some s := by
  cases s <;> rfl

/-- In the value of a relationship no key comes twice. -/
theorem Relationship.distinct_toJson (r : Relationship) : r.toJson.Distinct := by
  obtain ⟨name, owner, target, storage, jsonKey⟩ := r
  cases storage <;> simp [toJson, Storage.indexField?, distinct_object_iff, Distinct]

/-- The members that tell of a relationship. -/
structure Relationship.Tells (members : Members) (r : Relationship) : Prop where
  /-- They make up the value of the relationship. -/
  toJson_eq : r.toJson = object members
  /-- The name is found by its key. -/
  name : members.lookup "name" = some (string r.name)
  /-- So is the class it starts from. -/
  owner : members.lookup "owner_class" = some (string r.owner)
  /-- So is the class it leads to. -/
  target : members.lookup "target_class" = some (string r.target)
  /-- So is the number of objects. -/
  multiplicity : members.lookup "multiplicity" = some (string r.storage.multiplicityKey)
  /-- So is the index field, if there is one. -/
  indexField : members.lookup "index_field" = r.storage.indexField?.map string
  /-- So is the document key. -/
  jsonKey : members.lookup "json_key" = some (string r.jsonKey)

/-- There are such members for each relationship. -/
theorem Relationship.exists_tells (r : Relationship) : ∃ members, Tells members r := by
  obtain ⟨name, owner, target, storage, jsonKey⟩ := r
  cases storage <;> exact ⟨_, rfl, rfl, rfl, rfl, rfl, rfl, rfl⟩

/-- A relationship is read back. -/
theorem Relationship.undoes_toJson : Undoes ofJson? toJson id := by
  intro r a h
  have hdistinct := r.distinct_toJson
  obtain ⟨members, hr⟩ := r.exists_tells
  rw [hr.toJson_eq] at h hdistinct
  simp [ofJson?, field?_of_same hdistinct h undoes_text hr.name,
    field?_of_same hdistinct h undoes_text hr.owner,
    field?_of_same hdistinct h undoes_text hr.target,
    field?_of_same hdistinct h undoes_text hr.multiplicity,
    optional?_of_same hdistinct h undoes_text hr.indexField,
    field?_of_same hdistinct h undoes_text hr.jsonKey, Storage.ofKeys?_eq]

namespace EntityClass

/-- An attribute is read back. -/
theorem undoes_attributeJson : Undoes attributeOf? attributeJson id := by
  intro p a h
  cases a with
  | array items =>
    rw [attributeJson, same, sameItems_iff] at h
    obtain ⟨name, rest, hname, hrest, rfl⟩ := List.forall₂_cons_left_iff.1 h
    obtain ⟨kind, last, hkind, hlast, rfl⟩ := List.forall₂_cons_left_iff.1 hrest
    obtain rfl := List.forall₂_nil_left_iff.1 hlast
    rw [eq_string_of_same hname, eq_string_of_same hkind, attributeOf?, Kind.ofName?_name]
    rfl
  | _ => cases h

/-- In the value of a reference to code no key comes twice. -/
theorem distinct_artifactJson (ref : ArtifactRef) : (artifactJson ref).Distinct := by
  simp [artifactJson, distinct_object_iff, Distinct]

/-- A reference to code is read back. -/
theorem undoes_artifactJson : Undoes artifactOf? artifactJson id := by
  intro ref a h
  have hmodule : a.field? "module_path" text? = some ref.modulePath :=
    field?_of_same (distinct_artifactJson ref) h undoes_text rfl
  have hfile : a.field? "file_name" text? = some ref.fileName :=
    field?_of_same (distinct_artifactJson ref) h undoes_text rfl
  simp [artifactOf?, hmodule, hfile]

/-- In the value of a class no key comes twice. -/
theorem distinct_toJson (c : EntityClass) : c.toJson.Distinct := by
  have hattributes : (array (c.shape.attributes.map attributeJson)).Distinct := by
    rw [distinct_array_iff, List.forall_mem_map]
    intro p _
    simp [attributeJson, distinct_array_iff, Distinct]
  have hrelationships : (array (c.shape.relationships.map Relationship.toJson)).Distinct := by
    rw [distinct_array_iff, List.forall_mem_map]
    exact fun r _ => r.distinct_toJson
  obtain ⟨name, classNamespace, shape, artifact, binding⟩ := c
  cases artifact with
  | none => exact ⟨by simp, trivial, trivial, hattributes, hrelationships, trivial⟩
  | some ref =>
    exact ⟨by simp, trivial, trivial, hattributes, hrelationships, distinct_artifactJson ref,
      trivial⟩

/-- The members that tell of a class. -/
structure Tells (members : Members) (c : EntityClass) : Prop where
  /-- They make up the value of the class. -/
  toJson_eq : c.toJson = object members
  /-- The name is found by its key. -/
  name : members.lookup "name" = some (string c.name)
  /-- So is the namespace. -/
  classNamespace : members.lookup "namespace" = some (string c.classNamespace)
  /-- So are the attributes. -/
  attributes : members.lookup "attributes" =
    some (array (c.shape.attributes.map attributeJson))
  /-- So are the relationships. -/
  relationships : members.lookup "relationships" =
    some (array (c.shape.relationships.map Relationship.toJson))
  /-- So is the code, if there is some. -/
  artifact : members.lookup "generated_artifact" = c.artifact.map artifactJson

/-- There are such members for each class. -/
theorem exists_tells (c : EntityClass) : ∃ members, Tells members c := by
  obtain ⟨name, classNamespace, shape, artifact, binding⟩ := c
  cases artifact <;> exact ⟨_, rfl, rfl, rfl, rfl, rfl, rfl⟩

/-- A class is read back, but for its binding. -/
theorem undoes_toJson : Undoes ofJson? toJson told := by
  intro c a h
  have hdistinct := c.distinct_toJson
  obtain ⟨members, hc⟩ := c.exists_tells
  rw [hc.toJson_eq] at h hdistinct
  simp [ofJson?, field?_of_same hdistinct h undoes_text hc.name,
    field?_of_same hdistinct h undoes_text hc.classNamespace,
    field?_of_same hdistinct h (undoes_items undoes_attributeJson) hc.attributes,
    field?_of_same hdistinct h (undoes_items Relationship.undoes_toJson) hc.relationships,
    optional?_of_same hdistinct h undoes_artifactJson hc.artifact, told]

end EntityClass

namespace Registry

variable {reg other : Registry}

/-- In the value of a registry no key comes twice. -/
theorem distinct_toJson (reg : Registry) : reg.toJson.Distinct := by
  have hclasses : (array (reg.classes.map EntityClass.toJson)).Distinct := by
    rw [distinct_array_iff, List.forall_mem_map]
    exact fun c _ => c.distinct_toJson
  obtain ⟨classNamespace, rootName, classes, frozen⟩ := reg
  cases rootName <;> exact ⟨by simp, trivial, trivial, hclasses, trivial⟩

/-- A registry is read back, but for the bindings of its classes and whether it is frozen. -/
theorem undoes_toJson : Undoes ofJson? toJson told := by
  intro reg a h
  have hdistinct := reg.distinct_toJson
  obtain ⟨classNamespace, rootName, classes, frozen⟩ := reg
  have hnamespace : a.field? "namespace" text? = some classNamespace :=
    field?_of_same hdistinct h undoes_text rfl
  have hroot : a.field? "root" textOrNull? = some rootName :=
    field?_of_same hdistinct h undoes_textOrNull (by cases rootName <;> rfl)
  have hclasses : a.field? "classes" (items? EntityClass.ofJson?) =
      some (classes.map EntityClass.told) :=
    field?_of_same hdistinct h (undoes_items EntityClass.undoes_toJson) rfl
  simp [ofJson?, hnamespace, hroot, hclasses, told]

/-- What is told of a registry follows from its value. -/
theorem told_eq_of_same (h : reg.toJson.same other.toJson = true) : reg.told = other.told := by
  -- The value of the second registry is read in two ways.
  have hread := undoes_toJson other other.toJson (same_refl other.distinct_toJson)
  exact Option.some.inj ((undoes_toJson reg other.toJson h).symm.trans hread)

end Registry

end Reading

section Alike

/-- What is told of a storage makes it out. -/
theorem Storage.eq_of_told {s other : Storage} (hmultiplicity : s.multiplicity = other.multiplicity)
    (hindex : s.indexField? = other.indexField?) : s = other := by
  cases s <;> cases other <;> simp_all [multiplicity, indexField?]

/-- Relationships that are alike are the same. -/
theorem Relationship.alike_iff {r other : Relationship} : r.Alike other ↔ r = other := by
  constructor
  · intro h
    obtain ⟨name, owner, target, storage, jsonKey⟩ := r
    obtain ⟨rfl, rfl, rfl, hmultiplicity, hindex, rfl⟩ := h
    obtain rfl := Storage.eq_of_told hmultiplicity hindex
    rfl
  · rintro rfl
    exact ⟨rfl, rfl, rfl, rfl, rfl, rfl⟩

/-- Relationships that are alike one by one are the same. -/
theorem Relationship.forall₂_alike_iff {relationships others : List Relationship} :
    List.Forall₂ Alike relationships others ↔ relationships = others := by
  rw [← List.forall₂_eq_eq_eq]
  exact ⟨fun h => h.imp fun _ _ => alike_iff.1, fun h => h.imp fun _ _ => alike_iff.2⟩

namespace EntityClass

variable {c other : EntityClass}

/-- Classes of which the same is told are alike. -/
theorem alike_of_told (h : c.told = other.told) : c.Alike other := by
  obtain ⟨hname, -, hshape, hartifact, -⟩ := EntityClass.mk.inj h
  exact ⟨hname, congrArg Shape.attributes hshape,
    Relationship.forall₂_alike_iff.2 (congrArg Shape.relationships hshape), hartifact⟩

/-- Classes that are alike and have the same namespace have the same value. -/
theorem Alike.toJson_eq (h : c.Alike other) (hnamespace : c.classNamespace = other.classNamespace) :
    c.toJson = other.toJson := by
  rw [toJson, toJson, h.name_eq, hnamespace, h.attributes_eq,
    Relationship.forall₂_alike_iff.1 h.relationships, h.artifact_eq]

end EntityClass

namespace Registry

variable {reg other : Registry}

/-- Registries of which the same is told are alike. -/
theorem alike_of_told (h : reg.told = other.told) : reg.Alike other := by
  obtain ⟨hnamespace, hroot, hclasses, -⟩ := Registry.mk.inj h
  refine ⟨hnamespace, hroot, ?_⟩
  rw [← List.forall₂_eq_eq_eq, List.forall₂_map_left_iff, List.forall₂_map_right_iff] at hclasses
  exact hclasses.imp fun _ _ => EntityClass.alike_of_told

/-- Registries that are alike have the same value if their classes have no namespaces of their
own. -/
theorem Alike.toJson_eq (h : reg.Alike other) (hreg : reg.Homed) (hother : other.Homed) :
    reg.toJson = other.toJson := by
  -- Alike classes may differ in their namespaces; here both have that of the registries.
  have hclasses : List.Forall₂ (fun d c => d.classNamespace = other.classNamespace ∧
      c.classNamespace = reg.classNamespace ∧ c.Alike d) other.classes reg.classes :=
    (List.forall₂_and_left _ _).2 ⟨hother.classes,
      ((List.forall₂_and_left _ _).2 ⟨hreg.classes, h.classes⟩).flip⟩
  have hvalues : reg.classes.map EntityClass.toJson = other.classes.map EntityClass.toJson := by
    refine Chain.map_eq_of_forall₂ (hclasses.imp ?_)
    rintro d c ⟨hd, hc, halike⟩
    exact halike.toJson_eq (by rw [hc, hd, h.classNamespace_eq])
  rw [toJson, toJson, h.classNamespace_eq, h.rootName_eq, hvalues]

end Registry

end Alike

namespace Session

/-- Whatever the histories of two registries, they have equal values if and only if they are alike;
and what is told of a registry is read in its value and in all that are equal to it. -/
theorem toJson_determines {history history' : List Step} {reg other : Registry}
    (hreg : reg ∈ (run history).registries) (hother : other ∈ (run history').registries) :
    (reg.toJson.same other.toJson = true ↔ reg.Alike other) ∧
      Registry.ofJson? reg.toJson = some reg.told ∧
      ∀ a, reg.toJson.same a = true → Registry.ofJson? a = some reg.told := by
  have hself : reg.toJson.same reg.toJson = true := Json.same_refl reg.distinct_toJson
  refine ⟨⟨fun h => Registry.alike_of_told (Registry.told_eq_of_same h), fun h => ?_⟩,
    Registry.undoes_toJson reg _ hself, Registry.undoes_toJson reg⟩
  rwa [← h.toJson_eq (homed_run history reg hreg) (homed_run history' other hother)]

/-- A document with an attribute, an object, an array of objects and a table. -/
def mixedDocument : Json :=
  .object [("a", .bool true), ("part", .object [("b", .null)]),
    ("liste_items", .array [.object [("b", .null)]]),
    ("table_lines", .object [("l", .object [("id", .string "l")])])]

/-- The registry of the document is copied twice. Code is generated for the first two of the three,
and the classes of the first one are loaded. -/
def copiedTwice : List Step :=
  [.inferDocument "root" mixedDocument "space" .union, .copy 0, .copy 0, .generateAll 0,
    .generateAll 1, .newLoader, .loadAll 0 0]

/-- What is loaded is not told, so the first two registries are alike, though they are not the same.
The third one has no code, and that is told. -/
theorem toJson_determines_copiedTwice : ∃ loaded generated bare,
    (run copiedTwice).registries[0]? = some loaded ∧
    (run copiedTwice).registries[1]? = some generated ∧
    (run copiedTwice).registries[2]? = some bare ∧
    loaded ≠ generated ∧ loaded.Alike generated ∧ ¬ loaded.Alike bare ∧
    Registry.ofJson? loaded.toJson = some loaded.told := by
  have hcheck : ((run copiedTwice).registries[0]?.any fun loaded =>
      (run copiedTwice).registries[1]?.any fun generated =>
        (run copiedTwice).registries[2]?.any fun bare =>
          decide (loaded ≠ generated ∧ loaded.toJson.same generated.toJson = true ∧
            loaded.toJson.same bare.toJson = false)) = true := by
    decide +kernel
  obtain ⟨loaded, hloaded, htest⟩ := (Option.any_eq_true _ _).1 hcheck
  obtain ⟨generated, hgenerated, htest⟩ := (Option.any_eq_true _ _).1 htest
  obtain ⟨bare, hbare, htest⟩ := (Option.any_eq_true _ _).1 htest
  obtain ⟨hne, hsame, hother⟩ := of_decide_eq_true htest
  obtain ⟨halike, hread, -⟩ := toJson_determines (List.mem_of_getElem? hloaded)
    (List.mem_of_getElem? hgenerated)
  obtain ⟨hunlike, -, -⟩ := toJson_determines (List.mem_of_getElem? hloaded)
    (List.mem_of_getElem? hbare)
  refine ⟨loaded, generated, bare, hloaded, hgenerated, hbare, hne, halike.1 hsame, ?_, hread⟩
  intro h
  rw [hunlike.2 h] at hother
  cases hother

end Session

end DocSchema
