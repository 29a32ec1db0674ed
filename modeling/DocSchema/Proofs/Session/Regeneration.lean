import DocSchema.Proofs.Session.Frozen

/-!
# Generating code again

The artifact of a class is written from the class, without what is noted on it, and from the kinds
of the index fields of its tables (`artifactOf_congr`). Nothing else of the registry shows in it.
Code is generated in frozen registries, where only notes change from then on
(`Registry.Noted.change`); so whatever is done later, the same artifacts are generated again, and
are noted on the same classes.
-/

namespace DocSchema

/-- A class without its code and its binding. -/
def EntityClass.description (c : EntityClass) : EntityClass :=
  { c with artifact := none, binding := none }

/-- Two registries give the index fields of the tables of a class the same kinds, where they have
them at all. -/
def EntityClass.IndexedAlike (c : EntityClass) (reg other : Registry) : Prop :=
  ∀ r ∈ c.shape.relationships, ∀ field, r.storage = .indexed field →
    ((reg.find? r.target).bind fun target => target.shape.kind? field) =
      (other.find? r.target).bind fun target => target.shape.kind? field

/-- A later state of a registry, frozen with the same classes; only what is noted on them may have
changed. -/
structure Registry.Noted (reg later : Registry) : Prop where
  /-- It is frozen. -/
  frozen : later.frozen = true
  /-- It has the same classes in order, but for the notes. -/
  classes_eq : later.classes.map EntityClass.description =
    reg.classes.map EntityClass.description

/-- A later state of a registry generates the artifacts that the registry did. -/
structure Registry.Regenerates (reg later : Registry) : Prop where
  /-- The artifacts are the same. -/
  artifacts_eq : (Source.generateAll later).2 = (Source.generateAll reg).2
  /-- There is one for each class, in order. -/
  className_eq : (Source.generateAll later).2.map Source.Artifact.className = later.classNames
  /-- On each class the place of its own artifact is noted. -/
  noted : List.Forall₂ (fun (c : EntityClass) (a : Source.Artifact) => a.className = c.name ∧
    c.artifact = some ⟨a.modulePath, a.fileName⟩)
    (Source.generateAll later).1.classes (Source.generateAll later).2

namespace Source

/-- Two registries give the index fields of the tables of a class the same kinds if and only if the
generated code finds the same ones. -/
theorem indexedAlike_iff {c : EntityClass} {reg other : Registry} : c.IndexedAlike reg other ↔
    ∀ r ∈ c.shape.relationships, indexKind? reg r = indexKind? other r := by
  refine forall₂_congr fun r _ => ?_
  rw [indexKind?, indexKind?]
  cases hstorage : r.storage with
  | indexed field =>
    exact ⟨fun h => h field rfl, fun h _ hfield => Storage.indexed.inj hfield ▸ h⟩
  | _ => simp [Storage.indexField?]

instance (c : EntityClass) (reg other : Registry) : Decidable (c.IndexedAlike reg other) :=
  decidable_of_iff _ indexedAlike_iff.symm

/-- The artifact of a class depends on the class without its notes and on the kinds of the index
fields of its tables. -/
theorem artifactOf_congr {reg other : Registry} {c d : EntityClass}
    (hclass : c.description = d.description) (hindexed : c.IndexedAlike reg other) :
    artifactOf reg c = artifactOf other d := by
  obtain ⟨name, classNamespace, shape, _, _⟩ := c
  obtain ⟨name', classNamespace', shape', _, _⟩ := d
  obtain ⟨rfl, rfl, rfl, -, -⟩ := EntityClass.mk.inj hclass
  have hkinds : ∀ r ∈ shape.relationships, indexKind? reg r = indexKind? other r :=
    indexedAlike_iff.1 hindexed
  have haccessors : (shape.relationships.map fun r => accessorsOf r (indexKind? reg r)) =
      shape.relationships.map fun r => accessorsOf r (indexKind? other r) :=
    List.map_congr_left fun r hr => by rw [hkinds r hr]
  have hhelper : (shape.relationships.any fun r => indexKind? reg r = some .any) =
      shape.relationships.any fun r => indexKind? other r = some .any := by
    rw [Bool.eq_iff_iff, List.any_eq_true, List.any_eq_true]
    exact exists_congr fun r => and_congr_right fun hr => by rw [hkinds r hr]
  simp only [artifactOf, Module.ofClass, otherClasses, EntityClass.qualifiedName, haccessors,
    hhelper]

end Source

namespace Registry

/-- A change of a frozen registry changes only what is noted on the classes. -/
theorem Noted.change {reg next later : Registry} (hreg : reg.Noted next) (h : next.Change later) :
    reg.Noted later := by
  cases h with
  | enter hopen hnew => simp [hreg.frozen] at hopen
  | merge mode hopen hc hlater => simp [hreg.frozen] at hopen
  | freeze => exact ⟨rfl, hreg.classes_eq⟩
  | generate =>
    refine ⟨rfl, ?_⟩
    rw [← hreg.classes_eq, Source.generateAll, List.map_map]
    rfl
  | bind loader hc hartifact =>
    refine ⟨hreg.frozen, ?_⟩
    rw [← hreg.classes_eq, setBinding, update, List.map_map]
    refine List.map_congr_left fun c _ => ?_
    show (if _ then _ else c).description = c.description
    split <;> rfl

variable {reg later : Registry}

/-- Classes are found under the same names, but for what is noted on them. -/
theorem Noted.find? (h : reg.Noted later) (name : String) :
    (later.find? name).map EntityClass.description =
      (reg.find? name).map EntityClass.description := by
  have hfind : ∀ reg : Registry, (reg.find? name).map EntityClass.description =
      (reg.classes.map EntityClass.description).find? (·.name == name) := by
    intro reg
    rw [List.find?_map]
    rfl
  rw [hfind, hfind, h.classes_eq]

/-- The index fields of the tables of a class have the same kinds. -/
theorem Noted.indexedAlike (h : reg.Noted later) (c : EntityClass) : c.IndexedAlike later reg := by
  intro r _ field _
  have hkind : ∀ target : Option EntityClass, (target.bind fun d => d.shape.kind? field) =
      (target.map EntityClass.description).bind fun d => d.shape.kind? field := by
    intro target
    cases target <;> rfl
  rw [hkind, h.find?, ← hkind]

/-- Where only notes have changed, the same artifacts are generated again. -/
theorem Noted.regenerates (h : reg.Noted later) : reg.Regenerates later where
  artifacts_eq := by
    have hwritten : ∀ other : Registry, (∀ c : EntityClass, c.IndexedAlike other reg) →
        Source.artifactsOf other =
          (other.classes.map EntityClass.description).map (Source.artifactOf reg) := by
      intro other hindexed
      rw [Source.artifactsOf, List.map_map]
      exact List.map_congr_left fun c _ => Source.artifactOf_congr rfl (hindexed c)
    have hlater := hwritten later h.indexedAlike
    rw [h.classes_eq, ← hwritten reg fun _ _ _ _ _ => rfl] at hlater
    exact hlater
  className_eq := Source.className_artifactsOf later
  noted := by
    rw [Source.generateAll, Source.artifactsOf, List.forall₂_map_left_iff,
      List.forall₂_map_right_iff, List.forall₂_same]
    exact fun c _ => ⟨rfl, rfl⟩

end Registry

namespace Session

/-- The artifact of a class is the same whatever is noted on it, in all registries that give the
index fields of its tables the same kinds. And once the code of a registry has been generated,
every registry that descends from it generates the same artifacts, whatever is done in between. -/
theorem generateAll_again :
    (∀ (reg other : Registry) (c d : EntityClass), c.description = d.description →
      c.IndexedAlike reg other → Source.artifactOf reg c = Source.artifactOf other d) ∧
    ∀ history i reg, (run history).registries[i]? = some reg → ∀ more j,
      (run (history ++ [.generateAll i])).Descends i more j →
        ∃ later, (run (history ++ .generateAll i :: more)).registries[j]? = some later ∧
          reg.Regenerates later := by
  refine ⟨fun _ _ _ _ => Source.artifactOf_congr, fun history i reg hreg more j hdescends => ?_⟩
  have hgenerated : (run (history ++ [.generateAll i])).registries[i]? =
      some (Source.generateAll reg).1 := by
    rw [run, List.foldl_append]
    show ((run history).modify i _).registries[i]? = _
    rw [modify, List.getElem?_modify_eq, hreg]
    rfl
  obtain ⟨later, hlater, hchanges⟩ := exists_changes_of_descends hgenerated hdescends
  refine ⟨later, ?_, ?_⟩
  · rw [← hlater, run, run, List.foldl_append, List.foldl_append]
    rfl
  · have hnoted : reg.Noted (Source.generateAll reg).1 := by
      refine ⟨rfl, ?_⟩
      rw [Source.generateAll, List.map_map]
      rfl
    exact (hchanges.invariant (fun _ _ hnext => hnext.change) hnoted).regenerates

/-- A shop with a table of lines. -/
def shopDocument : Json :=
  .object [("shop", .object [("table_lines", .object [("a", .object [("id", .string "a")])])])]

/-- The shop, with lines that are more, and with something else. -/
def largerDocument : Json :=
  .object [("size", .null), ("shop", .object [("table_lines",
    .object [("a", .object [("id", .string "a"), ("text", .null)])])])]

/-- The registry of the shop. -/
def shopInferred : List Step := [.inferDocument "root" shopDocument "" .union]

/-- After its code has been generated, the registry is copied, the classes of the copy are loaded,
and the larger document is inferred. -/
def afterGeneration : List Step :=
  [.copy 0, .newLoader, .loadAll 0 1, .inferDocument "root" largerDocument "" .union]

/-- The copy, whose classes are loaded, generates the artifacts again. The registry of the larger
document has another class of lines, but the same artifact of the shop. -/
theorem generateAll_again_afterGeneration : ∃ reg later larger shop other,
    (run shopInferred).registries[0]? = some reg ∧
    (run (shopInferred ++ .generateAll 0 :: afterGeneration)).registries[1]? = some later ∧
    (run (shopInferred ++ .generateAll 0 :: afterGeneration)).registries[2]? = some larger ∧
    reg.Regenerates later ∧ later.find? "shop" = some shop ∧ shop.binding.isSome = true ∧
    larger.find? "shop" = some other ∧ other.artifact = none ∧
    (later.find? "line").map EntityClass.shape ≠ (larger.find? "line").map EntityClass.shape ∧
    Source.artifactOf later shop = Source.artifactOf larger other := by
  have hcheck : ((run shopInferred).registries[0]?.isSome ∧
      (run (shopInferred ++ .generateAll 0 :: afterGeneration)).registries[1]?.any fun later =>
      (run (shopInferred ++ .generateAll 0 :: afterGeneration)).registries[2]?.any fun larger =>
        (later.find? "shop").any fun shop => (larger.find? "shop").any fun other =>
          decide (shop.binding.isSome = true ∧ other.artifact = none ∧
            (later.find? "line").map EntityClass.shape ≠
              (larger.find? "line").map EntityClass.shape ∧
            shop.description = other.description ∧ shop.IndexedAlike later larger)) := by
    decide +kernel
  obtain ⟨hthere, htest⟩ := hcheck
  obtain ⟨reg, hreg⟩ := Option.isSome_iff_exists.1 hthere
  obtain ⟨later, hlater, htest⟩ := (Option.any_eq_true _ _).1 htest
  obtain ⟨larger, hlarger, htest⟩ := (Option.any_eq_true _ _).1 htest
  obtain ⟨shop, hshop, htest⟩ := (Option.any_eq_true _ _).1 htest
  obtain ⟨other, hother, htest⟩ := (Option.any_eq_true _ _).1 htest
  obtain ⟨hbound, hbare, hlines, hclass, hindexed⟩ := of_decide_eq_true htest
  obtain ⟨hsame, hagain⟩ := generateAll_again
  have hdescends : (run (shopInferred ++ [.generateAll 0])).Descends 0 afterGeneration 1 :=
    ⟨1, .inr ⟨rfl, by decide +kernel⟩, 1, .inl rfl, 1, .inl rfl, 1, .inl rfl, rfl⟩
  obtain ⟨found, hfound, hregenerates⟩ := hagain shopInferred 0 reg hreg afterGeneration 1 hdescends
  obtain rfl := Option.some.inj (hlater.symm.trans hfound)
  exact ⟨reg, later, larger, shop, other, hreg, hlater, hlarger, hregenerates, hshop, hbound,
    hother, hbare, hlines, hsame later larger shop other hclass hindexed⟩

end Session

end DocSchema
