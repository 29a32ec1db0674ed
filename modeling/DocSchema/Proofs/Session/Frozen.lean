import DocSchema.Proofs.Session.Histories

/-!
# Frozen registries

Freezing ends the changes of shapes for good: whatever is done later, a frozen registry and all
copies that descend from it stay frozen, with the same classes in the same order and the same
members in each (`Registry.Fixed`). Generated code is noted in frozen registries only, and so the
binding of a class, which takes its members from the class and is never compared with it again,
stays in step with it (`EntityClass.InStep`). `Session.fixed_of_frozen` says this of every registry
of a session.
-/

namespace DocSchema

/-- A later state of a registry, frozen with the shapes that this one has. -/
structure Registry.Fixed (reg later : Registry) : Prop where
  /-- It is frozen. -/
  frozen : later.frozen = true
  /-- It has the same namespace. -/
  classNamespace_eq : later.classNamespace = reg.classNamespace
  /-- It has the same root. -/
  rootName_eq : later.rootName = reg.rootName
  /-- It has the same classes in order. -/
  classNames_eq : later.classNames = reg.classNames
  /-- They have the same attributes and relationships. -/
  shapes_eq : later.classes.map EntityClass.shape = reg.classes.map EntityClass.shape

/-- What is noted on a class of a registry is in step with the class. -/
structure EntityClass.InStep (c : EntityClass) (reg : Registry) : Prop where
  /-- Code is noted if the registry is frozen. -/
  frozen : c.artifact.isSome → reg.frozen = true
  /-- A binding is noted if the code is, and the binding is to this code. -/
  artifact_eq : ∀ b, c.binding = some b → c.artifact = some b.artifact
  /-- It has the name of the class. -/
  className_eq : ∀ b, c.binding = some b → b.className = c.name
  /-- It has the namespace of the class. -/
  classNamespace_eq : ∀ b, c.binding = some b → b.classNamespace = c.classNamespace
  /-- Its parameters are the attributes. -/
  parameters_eq : ∀ b, c.binding = some b → b.parameters = c.shape.attributes
  /-- Its relationships are those of the class. -/
  relationships_eq : ∀ b, c.binding = some b → b.relationships = c.shape.relationships

namespace Registry

/-- A change of a frozen registry changes no shape. -/
theorem Fixed.change {reg next later : Registry} (hreg : reg.Fixed next) (h : next.Change later) :
    reg.Fixed later := by
  cases h with
  | enter hopen hnew => simp [hreg.frozen] at hopen
  | merge mode hopen hc hlater => simp [hreg.frozen] at hopen
  | freeze =>
    exact ⟨rfl, hreg.classNamespace_eq, hreg.rootName_eq, hreg.classNames_eq, hreg.shapes_eq⟩
  | generate =>
    refine ⟨rfl, hreg.classNamespace_eq, hreg.rootName_eq, ?_, ?_⟩
    · exact (Source.classNames_generateAll next).trans hreg.classNames_eq
    · rw [← hreg.shapes_eq, Source.generateAll, List.map_map]
      rfl
  | bind loader hc hartifact =>
    refine ⟨hreg.frozen, hreg.classNamespace_eq, hreg.rootName_eq, ?_, ?_⟩
    · rw [← hreg.classNames_eq]
      exact classNames_update fun _ => rfl
    · rw [← hreg.shapes_eq, setBinding, update, List.map_map]
      refine List.map_congr_left fun c _ => ?_
      show (if _ then _ else c).shape = c.shape
      split <;> rfl

/-- In a sound registry whose classes are in its namespace, what is noted on them is in step. -/
theorem Sound.inStep {reg : Registry} (hreg : reg.Sound) (hhome : reg.Homed) {c : EntityClass}
    (hc : c ∈ reg.classes) : c.InStep reg where
  frozen hartifact := by
    by_contra hopen
    rw [hreg.bare (by simpa using hopen) c hc] at hartifact
    cases hartifact
  artifact_eq b hb := (hreg.bound c hc b hb).2
  className_eq b hb := (hreg.bound c hc b hb).1.className_eq
  classNamespace_eq b hb := (hhome.bindings c hc b hb).trans (hhome.classes c hc).symm
  parameters_eq b hb := (hreg.bound c hc b hb).1.parameters_eq
  relationships_eq b hb := (hreg.bound c hc b hb).1.relationships_eq

end Registry

namespace Session

/-- The registry at a position after some steps descends from the one at a position before: it has
stayed there, or it is a copy of one that descends from it. -/
def Descends (s : Session) (i : ℕ) : List Step → ℕ → Prop
  | [], j => j = i
  | next :: rest, j =>
    ∃ k, (k = i ∨ next = .copy i ∧ k = s.registries.length) ∧ (s.step next).Descends k rest j

/-- A registry that descends from another one is there, and only changes have been made to it. -/
theorem exists_changes_of_descends {s : Session} {i j : ℕ} {reg : Registry} {more : List Step}
    (hreg : s.registries[i]? = some reg) (h : s.Descends i more j) :
    ∃ later, (more.foldl step s).registries[j]? = some later ∧ reg.Changes later := by
  induction more generalizing s i reg with
  | nil =>
    obtain rfl := h
    exact ⟨reg, hreg, .refl⟩
  | cons next rest ih =>
    obtain ⟨k, hk, hrest⟩ := h
    obtain ⟨kept, made, hregistries, hkept, hmade⟩ := step_cases s next
    have hnext : ∃ later, (s.step next).registries[k]? = some later ∧ reg.Changes later := by
      rcases hk with rfl | ⟨rfl, rfl⟩
      · obtain ⟨later, hlater, hchanges⟩ := Chain.exists_getElem?_of_forall₂ hkept hreg
        have hlt := (List.getElem?_eq_some_iff.1 hlater).1
        exact ⟨later, by rw [hregistries, List.getElem?_append_left hlt, hlater], hchanges⟩
      · rcases hmade with ⟨_, heq, rfl⟩ | ⟨hcopy, -⟩
        · obtain rfl := Step.copy.inj heq
          refine ⟨reg, ?_, .refl⟩
          rw [hregistries, hkept.length_eq, hreg]
          exact List.getElem?_concat_length
        · exact absurd rfl (hcopy i)
    obtain ⟨later, hlater, hchanges⟩ := hnext
    obtain ⟨last, hlast, hmore⟩ := ih hlater hrest
    exact ⟨last, hlast, hchanges.trans hmore⟩

/-- Once a registry is frozen, inference fails at the first fragment and leaves it as it is, and
whatever is done later, every registry that descends from it is frozen with the same shapes. Whether
frozen or not, what is noted on its classes is in step with them. -/
theorem fixed_of_frozen {history : List Step} {i : ℕ} {reg : Registry}
    (hreg : (run history).registries[i]? = some reg) :
    (reg.frozen = true →
      (∀ mode name members, reg.inferClass mode name (.object members) =
        .error ⟨.registryFrozen name, reg⟩) ∧
      (∀ mode name fragment, (∀ members, fragment ≠ .object members) →
        reg.inferClass mode name fragment =
          .error ⟨.unsupportedFragment name .root fragment.kindName, reg⟩) ∧
      ∀ more j, (run history).Descends i more j →
        ∃ later, (run (history ++ more)).registries[j]? = some later ∧ reg.Fixed later) ∧
    ∀ c ∈ reg.classes, c.InStep reg := by
  have hmem := List.mem_of_getElem? hreg
  refine ⟨fun hfrozen => ⟨?_, ?_, fun more j hdescends => ?_⟩, fun c hc => ?_⟩
  · exact fun mode name members => Registry.inferClass_of_frozen hfrozen mode name (.object members)
  · intro mode name fragment hobject
    rw [Registry.inferClass_of_frozen hfrozen]
    cases fragment with
    | object members => exact absurd rfl (hobject members)
    | _ => rfl
  · obtain ⟨later, hlater, hchanges⟩ := exists_changes_of_descends hreg hdescends
    refine ⟨later, by rw [run, List.foldl_append]; exact hlater, ?_⟩
    exact hchanges.invariant (fun _ _ hfixed => hfixed.change) ⟨hfrozen, rfl, rfl, rfl, rfl⟩
  · have hhome : reg.Homed := forall_run (fun _ h => Registry.homed_of_classes_eq_nil h.1)
      (fun _ _ hhome => hhome.change) history reg hmem
    exact (sound_run history reg hmem).inStep hhome hc

/-- The code of a small document is generated. -/
def generatedOnce : List Step :=
  [.inferDocument "root" (.object [("a", .bool true)]) "space" .union, .generateAll 0]

/-- Its registry is copied, its class is loaded, and inference into the copy is tried. -/
def copiedAndLoaded : List Step :=
  [.copy 0, .newLoader, .loadAll 0 1, .inferClass 1 .union "root" (.object [("b", .bool true)])]

/-- The copy is fixed with the shapes of the registry, and its class is in step with its binding. -/
theorem fixed_of_frozen_copiedAndLoaded : ∃ reg later,
    (run generatedOnce).registries[0]? = some reg ∧ reg.frozen = true ∧
      (run (generatedOnce ++ copiedAndLoaded)).registries[1]? = some later ∧ reg.Fixed later ∧
      (∃ c ∈ later.classes, c.binding.isSome) ∧ ∀ c ∈ later.classes, c.InStep later := by
  have hcheck : ((run generatedOnce).registries[0]?.any fun reg => reg.frozen) = true ∧
      ((run (generatedOnce ++ copiedAndLoaded)).registries[1]?.any fun later =>
        later.classes.any fun c => c.binding.isSome) = true := by
    decide +kernel
  obtain ⟨reg, hreg, hfrozen⟩ := (Option.any_eq_true _ _).1 hcheck.1
  obtain ⟨later, hlater, hbound⟩ := (Option.any_eq_true _ _).1 hcheck.2
  have hdescends : (run generatedOnce).Descends 0 copiedAndLoaded 1 :=
    ⟨1, .inr ⟨rfl, by decide +kernel⟩, 1, .inl rfl, 1, .inl rfl, 1, .inl rfl, rfl⟩
  obtain ⟨-, -, hfixed⟩ := (fixed_of_frozen hreg).1 hfrozen
  obtain ⟨found, hfound, hsame⟩ := hfixed copiedAndLoaded 1 hdescends
  obtain rfl := Option.some.inj (hlater.symm.trans hfound)
  exact ⟨reg, later, hreg, hfrozen, hlater, hsame, List.any_eq_true.1 hbound,
    (fixed_of_frozen hlater).2⟩

end Session

end DocSchema
