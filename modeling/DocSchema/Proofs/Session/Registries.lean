import DocSchema.Proofs.Session.Changes

/-!
# Registries in use

A registry is `Sound` if it is well-formed, only a frozen one notes generated code, and a class with
a binding has its own members in it and the code it was bound to. It is `Homed` if its classes and
their bindings have its namespace. Every change of a registry keeps both (`Sound.change`,
`Homed.change`).
-/

namespace DocSchema

/-- Where the generated code of a class goes. -/
def EntityClass.codeRef (c : EntityClass) : ArtifactRef :=
  ⟨Source.modulePath c.classNamespace (Source.fieldName c.name), Source.bareName c.name ++ ".rs"⟩

/-- What is noted on the classes of a registry fits them. -/
structure Registry.Sound (reg : Registry) : Prop where
  /-- The registry is well-formed. -/
  wellFormed : reg.WellFormed
  /-- Code is noted on the classes of a frozen registry only. -/
  bare : reg.frozen = false → ∀ c ∈ reg.classes, c.artifact = none
  /-- The code of a class goes where its name says. -/
  artifact_eq : ∀ c ∈ reg.classes, ∀ ref, c.artifact = some ref → ref = c.codeRef
  /-- A class with a binding is bound to its own members and its own code. -/
  bound : ∀ c ∈ reg.classes, ∀ b, c.binding = some b → c.Bound b ∧ c.artifact = some b.artifact

namespace Registry

/-- A registry without classes is sound. -/
theorem sound_of_classes_eq_nil {reg : Registry} (h : reg.classes = []) : reg.Sound where
  wellFormed := ⟨by simp [classNames, h], by simp [h]⟩
  bare := by simp [h]
  artifact_eq := by simp [h]
  bound := by simp [h]

section Inference

variable {reg : Registry}

/-- In a sound registry that is not frozen no class is bound. -/
theorem Sound.unbound (hreg : reg.Sound) (hfrozen : reg.frozen = false) {c : EntityClass}
    (hc : c ∈ reg.classes) : c.binding = none := by
  rw [Option.eq_none_iff_forall_ne_some]
  intro b hb
  have hartifact := (hreg.bound c hc b hb).2
  rw [hreg.bare hfrozen c hc] at hartifact
  simp at hartifact

/-- Entering a class keeps a registry sound. -/
theorem Sound.enter (hreg : reg.Sound) {name : String} (hname : name ∉ reg.classNames) :
    Sound { reg with classes := reg.classes ++ [.new name reg.classNamespace] } where
  wellFormed := by
    refine ⟨?_, fun c hc => ?_⟩
    · have hnames : ({ reg with classes := reg.classes ++ [.new name reg.classNamespace] } :
          Registry).classNames = reg.classNames ++ [name] := by
        simp [classNames, EntityClass.new]
      rw [hnames, List.nodup_append]
      exact ⟨hreg.wellFormed.nodup, by simp, by grind⟩
    · rcases List.mem_append.1 hc with hc | hc
      · exact hreg.wellFormed.shapes c hc
      · obtain rfl := List.mem_singleton.1 hc
        exact Shape.wellFormed_empty name
  bare hfrozen c hc := by
    rcases List.mem_append.1 hc with hc | hc
    · exact hreg.bare hfrozen c hc
    · obtain rfl := List.mem_singleton.1 hc
      rfl
  artifact_eq c hc ref href := by
    rcases List.mem_append.1 hc with hc | hc
    · exact hreg.artifact_eq c hc ref href
    · obtain rfl := List.mem_singleton.1 hc
      simp [EntityClass.new] at href
  bound c hc b hb := by
    rcases List.mem_append.1 hc with hc | hc
    · exact hreg.bound c hc b hb
    · obtain rfl := List.mem_singleton.1 hc
      simp [EntityClass.new] at hb

/-- Giving a class another shape keeps a registry sound, as long as it is not frozen. -/
theorem Sound.setShape (hreg : reg.Sound) (hfrozen : reg.frozen = false) {name : String}
    {shape : Shape} (hshape : shape.WellFormed name) : (reg.setShape name shape).Sound := by
  have hclass : ∀ c ∈ (reg.setShape name shape).classes, ∃ d ∈ reg.classes,
      c.name = d.name ∧ c.shape.WellFormed c.name ∧ c.artifact = d.artifact ∧
        c.binding = d.binding := by
    intro c hc
    obtain ⟨d, hd, rfl⟩ := List.mem_map.1 hc
    by_cases hname : d.name = name
    · rw [if_pos hname]
      exact ⟨d, hd, rfl, hname ▸ hshape, rfl, rfl⟩
    · rw [if_neg hname]
      exact ⟨d, hd, rfl, hreg.wellFormed.shapes d hd, rfl, rfl⟩
  have hartifact : ∀ c ∈ (reg.setShape name shape).classes, c.artifact = none := by
    intro c hc
    obtain ⟨d, hd, -, -, hsame, -⟩ := hclass c hc
    rw [hsame, hreg.bare hfrozen d hd]
  refine ⟨⟨?_, fun c hc => ?_⟩, fun _ => hartifact, fun c hc ref href => ?_, fun c hc b hb => ?_⟩
  · rw [classNames_setShape]
    exact hreg.wellFormed.nodup
  · obtain ⟨d, -, -, hwell, -⟩ := hclass c hc
    exact hwell
  · simp [hartifact c hc] at href
  · obtain ⟨d, hd, -, -, -, hsame⟩ := hclass c hc
    simp [hsame, hreg.unbound hfrozen hd] at hb

end Inference

section Loading

variable {reg : Registry}

/-- Freezing keeps a registry sound. -/
theorem Sound.freeze (hreg : reg.Sound) : reg.freeze.Sound where
  wellFormed := ⟨hreg.wellFormed.nodup, hreg.wellFormed.shapes⟩
  bare hfrozen := by simp [Registry.freeze] at hfrozen
  artifact_eq := hreg.artifact_eq
  bound := hreg.bound

/-- Generating code keeps a registry sound. -/
theorem Sound.generateAll (hreg : reg.Sound) : (Source.generateAll reg).1.Sound := by
  have hclass : ∀ c ∈ (Source.generateAll reg).1.classes, ∃ d ∈ reg.classes,
      c = Source.withArtifact reg d := by
    intro c hc
    obtain ⟨d, hd, rfl⟩ := List.mem_map.1 hc
    exact ⟨d, hd, rfl⟩
  have hartifact : ∀ d, (Source.withArtifact reg d).artifact = some d.codeRef := fun d => rfl
  refine ⟨⟨?_, fun c hc => ?_⟩, fun hfrozen => ?_, fun c hc ref href => ?_, fun c hc b hb => ?_⟩
  · rw [Source.classNames_generateAll]
    exact hreg.wellFormed.nodup
  · obtain ⟨d, hd, rfl⟩ := hclass c hc
    exact hreg.wellFormed.shapes d hd
  · exact absurd hfrozen (by simp [Source.generateAll, Registry.freeze])
  · obtain ⟨d, -, rfl⟩ := hclass c hc
    rw [hartifact] at href
    exact (Option.some.inj href).symm
  · -- A class that is bound had its code before, and that goes to the same place again.
    obtain ⟨d, hd, rfl⟩ := hclass c hc
    obtain ⟨hbound, hcode⟩ := hreg.bound d hd b hb
    rw [hartifact, ← hreg.artifact_eq d hd _ hcode]
    exact ⟨⟨hb, hbound.className_eq, hbound.parameters_eq, hbound.relationships_eq⟩, rfl⟩

/-- Binding a class to its code keeps a registry sound. -/
theorem Sound.setBinding (hreg : reg.Sound) (loader : Loader) {name : String} {c : EntityClass}
    {artifact : ArtifactRef} (hc : reg.find? name = some c)
    (hartifact : c.artifact = some artifact) :
    (reg.setBinding name (loader.bind c artifact)).Sound := by
  obtain rfl := name_of_find? hc
  rw [Loader.setBinding_eq hreg.wellFormed.nodup hc hartifact]
  have hclass : ∀ d ∈ (loader.bindNames reg [c.name]).classes, ∃ e ∈ reg.classes,
      d = e ∨ ∃ ref, e.artifact = some ref ∧
        d = { e with binding := some (loader.bind e ref) } := by
    intro d hd
    obtain ⟨e, he, rfl⟩ := List.mem_map.1 hd
    split
    · rw [Loader.bindClass]
      split
      · next ref href => exact ⟨e, he, .inr ⟨ref, href, rfl⟩⟩
      · exact ⟨e, he, .inl rfl⟩
    · exact ⟨e, he, .inl rfl⟩
  refine ⟨⟨?_, fun d hd => ?_⟩, fun hfrozen d hd => ?_, fun d hd ref href => ?_,
    fun d hd b hb => ?_⟩
  · rw [Loader.bindNames, classNames_mapClasses (Loader.name_ite_bindClass loader [c.name])]
    exact hreg.wellFormed.nodup
  · obtain ⟨e, he, rfl | ⟨ref, -, rfl⟩⟩ := hclass d hd
    · exact hreg.wellFormed.shapes _ he
    · exact hreg.wellFormed.shapes e he
  · obtain ⟨e, he, rfl | ⟨ref, -, rfl⟩⟩ := hclass d hd
    · exact hreg.bare hfrozen _ he
    · exact hreg.bare hfrozen e he
  · obtain ⟨e, he, rfl | ⟨_, -, rfl⟩⟩ := hclass d hd
    · exact hreg.artifact_eq _ he ref href
    · exact hreg.artifact_eq e he ref href
  · obtain ⟨e, he, rfl | ⟨ref, href, rfl⟩⟩ := hclass d hd
    · exact hreg.bound _ he b hb
    · obtain rfl := Option.some.inj hb
      exact ⟨⟨rfl, rfl, rfl, rfl⟩, href⟩

end Loading

/-- A change keeps a registry sound. -/
theorem Sound.change {reg next : Registry} (hreg : reg.Sound) (h : reg.Change next) :
    next.Sound := by
  cases h with
  | enter hopen hnew => exact hreg.enter hnew
  | merge mode hopen hc hlater =>
    have hshape := hreg.wellFormed.shapes _ (mem_of_find? hc)
    rw [name_of_find? hc] at hshape
    exact hreg.setShape hopen (Shape.wellFormed_left_merge mode hshape hlater)
  | freeze => exact hreg.freeze
  | generate => exact hreg.generateAll
  | bind loader hc hartifact => exact hreg.setBinding loader hc hartifact

/-- All classes of a registry, and all bindings that are noted on them, have its namespace. -/
structure Homed (reg : Registry) : Prop where
  /-- The classes have it. -/
  classes : ∀ c ∈ reg.classes, c.classNamespace = reg.classNamespace
  /-- The bindings have it. -/
  bindings : ∀ c ∈ reg.classes, ∀ b, c.binding = some b → b.classNamespace = reg.classNamespace

/-- A registry without classes has them all in its namespace. -/
theorem homed_of_classes_eq_nil {reg : Registry} (h : reg.classes = []) : reg.Homed where
  classes := by simp [h]
  bindings := by simp [h]

/-- A change brings in no other namespace. -/
theorem Homed.change {reg next : Registry} (hreg : reg.Homed) (h : reg.Change next) :
    next.Homed := by
  cases h with
  | @enter name _ _ =>
    refine ⟨fun c hc => ?_, fun c hc b hb => ?_⟩
    · rcases List.mem_append.1 hc with hc | hc
      · exact hreg.classes c hc
      · obtain rfl := List.mem_singleton.1 hc
        rfl
    · rcases List.mem_append.1 hc with hc | hc
      · exact hreg.bindings c hc b hb
      · obtain rfl := List.mem_singleton.1 hc
        cases hb
  | merge mode hopen hfind hlater =>
    refine ⟨fun c hc => ?_, fun c hc b hb => ?_⟩ <;>
      obtain ⟨d, hd, rfl | ⟨-, rfl⟩⟩ := exists_of_mem_update hc
    · exact hreg.classes c hd
    · exact hreg.classes d hd
    · exact hreg.bindings c hd b hb
    · exact hreg.bindings d hd b hb
  | freeze => exact ⟨hreg.classes, hreg.bindings⟩
  | generate =>
    refine ⟨fun c hc => ?_, fun c hc b hb => ?_⟩ <;> obtain ⟨d, hd, rfl⟩ := List.mem_map.1 hc
    · exact hreg.classes d hd
    · exact hreg.bindings d hd b hb
  | bind loader hfind hartifact =>
    refine ⟨fun c hc => ?_, fun c hc b hb => ?_⟩ <;>
      obtain ⟨d, hd, rfl | ⟨-, rfl⟩⟩ := exists_of_mem_update hc
    · exact hreg.classes c hd
    · exact hreg.classes d hd
    · exact hreg.bindings c hd b hb
    · obtain rfl := Option.some.inj hb
      exact hreg.classes _ (mem_of_find? hfind)

end Registry

end DocSchema
