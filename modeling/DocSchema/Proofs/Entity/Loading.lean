import DocSchema.Proofs.Inference.WellFormed
import DocSchema.Entity.Loader
import DocSchema.Source.Artifact

/-!
# Loaded registries

A registry is `Ready` if it is well-formed and each class is bound to its own members. Loading all
classes of a registry whose code has been generated makes it ready and changes no shape: by
`loadNames_eq` a fresh loader binds one class after the other, and `ready_of_loadAll` puts this
together with the generation of the code.
-/

namespace DocSchema

/-- A class with a binding that has its own members. -/
structure EntityClass.Bound (c : EntityClass) (b : Binding) : Prop where
  /-- The class has the binding. -/
  binding_eq : c.binding = some b
  /-- The binding makes objects of the class. -/
  className_eq : b.className = c.name
  /-- The parameters are the attributes. -/
  parameters_eq : b.parameters = c.shape.attributes
  /-- The relationships are those of the class. -/
  relationships_eq : b.relationships = c.shape.relationships

/-- A well-formed registry with all its classes loaded. -/
structure Registry.Ready (reg : Registry) : Prop where
  /-- The registry is well-formed. -/
  wellFormed : reg.WellFormed
  /-- The classes are bound. -/
  bound : ∀ c ∈ reg.classes, ∃ b, c.Bound b

namespace Loader

/-- A class with its binding to the code that was generated for it, if there is some. -/
def bindClass (loader : Loader) (c : EntityClass) : EntityClass :=
  match c.artifact with
  | some artifact => { c with binding := some (loader.bind c artifact) }
  | none => c

/-- Binding a class keeps its name. -/
@[simp]
theorem name_bindClass (loader : Loader) (c : EntityClass) :
    (loader.bindClass c).name = c.name := by
  rw [bindClass]
  split <;> rfl

/-- Binding a class keeps its shape. -/
@[simp]
theorem shape_bindClass (loader : Loader) (c : EntityClass) :
    (loader.bindClass c).shape = c.shape := by
  rw [bindClass]
  split <;> rfl

/-- A class whose code has been generated is bound to its own members. -/
theorem bound_bindClass (loader : Loader) {c : EntityClass} {artifact : ArtifactRef}
    (h : c.artifact = some artifact) : (loader.bindClass c).Bound (loader.bind c artifact) := by
  rw [bindClass, h]
  exact ⟨rfl, rfl, rfl, rfl⟩

/-- Loading a class that the loader has not bound yet binds it to its code. -/
theorem load_eq {loader : Loader} {reg : Registry} {c : EntityClass} {artifact : ArtifactRef}
    (hnew : loader.find? c.name = none) (hc : reg.find? c.name = some c)
    (hartifact : c.artifact = some artifact) :
    loader.load reg c.name =
      .ok (⟨{ loader with bindings := loader.bindings ++ [loader.bind c artifact] },
        reg.setBinding c.name (loader.bind c artifact)⟩, loader.bind c artifact) := by
  simp only [load, hnew, Registry.require, hc]
  refine Chain.bind_eq_ok_iff.2 ⟨c, rfl, ?_⟩
  rw [hartifact]

/-- A registry with the classes of some names bound to their code. -/
def bindNames (loader : Loader) (reg : Registry) (names : List String) : Registry :=
  reg.mapClasses fun c => if c.name ∈ names then loader.bindClass c else c

/-- A class that is bound if it has one of the names keeps its own. -/
theorem name_ite_bindClass (loader : Loader) (names : List String) (c : EntityClass) :
    (if c.name ∈ names then loader.bindClass c else c).name = c.name := by
  split
  · exact name_bindClass loader c
  · rfl

/-- Binding the class of one name and then those of others binds all of them. -/
theorem bindNames_cons (loader : Loader) (reg : Registry) {name : String} {rest : List String}
    (hname : name ∉ rest) :
    loader.bindNames (loader.bindNames reg [name]) rest = loader.bindNames reg (name :: rest) := by
  rw [bindNames, bindNames, bindNames, Registry.mapClasses, Registry.mapClasses,
    Registry.mapClasses, List.map_map]
  congr 1
  refine List.map_congr_left fun c _ => ?_
  by_cases hc : c.name = name
  · simp [hc, hname]
  · simp [hc]

/-- Noting the binding of a class binds that class alone, where the names are distinct. -/
theorem setBinding_eq {loader : Loader} {reg : Registry} (hreg : reg.classNames.Nodup)
    {c : EntityClass} {artifact : ArtifactRef} (hc : reg.find? c.name = some c)
    (hartifact : c.artifact = some artifact) :
    reg.setBinding c.name (loader.bind c artifact) = loader.bindNames reg [c.name] := by
  rw [Registry.setBinding, Registry.update, bindNames, Registry.mapClasses]
  congr 1
  refine List.map_congr_left fun d hd => ?_
  by_cases hname : d.name = c.name
  · obtain rfl := List.inj_on_of_nodup_map hreg hd (Registry.mem_of_find? hc) hname
    simp [bindClass, hartifact]
  · simp [hname]

/-- Loading classes that the loader has not bound yet, each with its code, binds them all. -/
theorem loadNames_eq (loader : Loader) {reg : Registry} {names : List String}
    (hreg : reg.classNames.Nodup) (hnames : names.Nodup)
    (hnew : ∀ name ∈ names, loader.find? name = none)
    (hcode : ∀ name ∈ names, ∃ c artifact, reg.find? name = some c ∧ c.artifact = some artifact) :
    ∃ bindings, loadNames ⟨loader, reg⟩ names =
      (⟨{ loader with bindings }, loader.bindNames reg names⟩, .ok ()) := by
  induction names generalizing loader reg with
  | nil => exact ⟨loader.bindings, by simp [loadNames, bindNames, Registry.mapClasses]⟩
  | cons name rest ih =>
    obtain ⟨c, artifact, hc, hartifact⟩ := hcode name (by simp)
    obtain rfl := Registry.name_of_find? hc
    rw [List.nodup_cons] at hnames
    have hstep := load_eq (hnew c.name (by simp)) hc hartifact
    rw [setBinding_eq hreg hc hartifact] at hstep
    generalize hloader' : ({ loader with
      bindings := loader.bindings ++ [loader.bind c artifact] } : Loader) = loader' at hstep
    have hnames' : (loader.bindNames reg [c.name]).classNames = reg.classNames :=
      Registry.classNames_mapClasses (name_ite_bindClass loader [c.name]) reg
    -- Classes that are bound later are still unbound and have their code.
    have hnew' : ∀ name ∈ rest, loader'.find? name = none := by
      intro name hname
      have hold := hnew name (by simp [hname])
      have hne : c.name ≠ name := fun h => hnames.1 (h ▸ hname)
      rw [← hloader', find?, List.find?_append]
      rw [find?] at hold
      simp [hold, bind, hne]
    have hcode' : ∀ name ∈ rest, ∃ d artifact,
        (loader.bindNames reg [c.name]).find? name = some d ∧ d.artifact = some artifact := by
      intro name hname
      obtain ⟨d, ref, hd, href⟩ := hcode name (by simp [hname])
      have hne : d.name ≠ c.name := fun h =>
        hnames.1 (h ▸ (Registry.name_of_find? hd).symm ▸ hname)
      refine ⟨d, ref, ?_, href⟩
      rw [bindNames, Registry.find?_mapClasses (name_ite_bindClass loader [c.name]), hd]
      simp [hne]
    obtain ⟨bindings, hrest⟩ := ih loader' (hnames' ▸ hreg) hnames.2 hnew' hcode'
    refine ⟨bindings, ?_⟩
    calc loadNames ⟨loader, reg⟩ (c.name :: rest)
      _ = loadNames ⟨loader', loader.bindNames reg [c.name]⟩ rest := by
        rw [loadNames, hstep]
      _ = (⟨{ loader' with bindings }, loader'.bindNames (loader.bindNames reg [c.name]) rest⟩,
            .ok ()) := hrest
      _ = (⟨{ loader with bindings }, loader.bindNames reg (c.name :: rest)⟩, .ok ()) := by
        -- What a class is bound to does not depend on the bindings before it.
        rw [← bindNames_cons loader reg hnames.1, ← hloader']
        rfl

/-- Loading a registry whose code is generated binds all its classes. -/
theorem loadAll_generateAll (stamp : Nat) {reg : Registry} (hreg : reg.classNames.Nodup) :
    ∃ loader, (Loader.new stamp).loadAll (Source.generateAll reg).1 =
      (⟨loader, reg.freeze.mapClasses fun c =>
        (Loader.new stamp).bindClass (Source.withArtifact reg c)⟩, .ok ()) := by
  have hnodup : (Source.generateAll reg).1.classNames.Nodup :=
    Source.classNames_generateAll reg ▸ hreg
  obtain ⟨bindings, hload⟩ := loadNames_eq (Loader.new stamp) hnodup hnodup
    (fun _ _ => rfl) fun name hname => by
      obtain ⟨c, hc, rfl⟩ := List.mem_map.1 hname
      obtain ⟨d, -, rfl⟩ := List.mem_map.1 hc
      exact ⟨_, _, Registry.find?_eq_some_of_mem hnodup hc, rfl⟩
  have hclasses : (Loader.new stamp).bindNames (Source.generateAll reg).1
      (Source.generateAll reg).1.classNames = reg.freeze.mapClasses fun c =>
        (Loader.new stamp).bindClass (Source.withArtifact reg c) := by
    rw [bindNames, Source.generateAll, Registry.mapClasses, Registry.mapClasses, List.map_map]
    congr 1
    refine List.map_congr_left fun c hc => if_pos ?_
    exact List.mem_map.2 ⟨_, List.mem_map_of_mem hc, rfl⟩
  refine ⟨{ Loader.new stamp with bindings }, ?_⟩
  rw [loadAll, hload, hclasses]

/-- A well-formed registry whose code is generated can be loaded: it is ready then, with the same
root and the same shapes. -/
theorem ready_of_loadAll (stamp : Nat) {reg : Registry} (hreg : reg.WellFormed) :
    ∃ loaded, (Loader.new stamp).loadAll (Source.generateAll reg).1 = (loaded, .ok ()) ∧
      loaded.registry.Ready ∧ loaded.registry.rootName = reg.rootName ∧
      ∀ name, (loaded.registry.find? name).map EntityClass.shape =
        (reg.find? name).map EntityClass.shape := by
  obtain ⟨loader, hload⟩ := loadAll_generateAll stamp hreg.nodup
  have hname : ∀ c, ((Loader.new stamp).bindClass (Source.withArtifact reg c)).name = c.name :=
    fun c => name_bindClass _ _
  refine ⟨_, hload, ⟨⟨?_, fun c hc => ?_⟩, fun c hc => ?_⟩, rfl, fun name => ?_⟩
  · rw [Registry.classNames_mapClasses hname]
    exact hreg.nodup
  · obtain ⟨d, hd, rfl⟩ := List.mem_map.1 hc
    rw [hname, shape_bindClass]
    exact hreg.shapes d hd
  · obtain ⟨d, -, rfl⟩ := List.mem_map.1 hc
    exact ⟨_, bound_bindClass _ rfl⟩
  · rw [Registry.find?_mapClasses hname, Option.map_map]
    exact Option.map_congr fun c _ => shape_bindClass _ _

end Loader

end DocSchema
