import DocSchema.Proofs.Entity.Failing
import DocSchema.Proofs.Session.Histories

/-!
# Loading in a session

Loading a class of a registry is to leave the class bound to what it returns, and to fail where the
registry lacks the class or its code (`Loader.Loads`). It does so if and only if a binding that the
loader has made before is the one noted on the class of that registry (`loads_iff`): a loader that
has met the name in another registry, or in the same one before it was copied, gives the old binding
again and notes nothing.
-/

namespace DocSchema

namespace Loader

/-- Loading a class makes it usable in the registry. -/
structure Loads (loader : Loader) (reg : Registry) (name : String) : Prop where
  /-- What is loaded is a class of the registry that has its code. -/
  known : ∀ loaded b, loader.load reg name = .ok (loaded, b) →
    ∃ c artifact, reg.find? name = some c ∧ c.artifact = some artifact
  /-- The loader remembers the binding, and the class is bound by it to its members and code. -/
  bound : ∀ loaded b, loader.load reg name = .ok (loaded, b) →
    loaded.loader.find? name = some b ∧
      ∃ c, loaded.registry.find? name = some c ∧ c.Bound b ∧ c.artifact = some b.artifact
  /-- No object of the class fails to be built because the class is not loaded. -/
  built : ∀ loaded b, loader.load reg name = .ok (loaded, b) → ∀ className here fragment,
    Materialize.build loaded.registry className here fragment ≠ .error (.typeNotLoaded name)
  /-- A class with its code can be loaded. -/
  succeeds : ∀ c artifact, reg.find? name = some c → c.artifact = some artifact →
    ∃ loaded b, loader.load reg name = .ok (loaded, b)
  /-- A class that is not there is not found. -/
  missing : reg.find? name = none → loader.load reg name = .error (.classNotFound name none)
  /-- A class without code has not been generated. -/
  bare : ∀ c, reg.find? name = some c → c.artifact = none →
    loader.load reg name = .error (.notGenerated name)

variable {loader : Loader} {reg : Registry} {name : String}

/-- A class that is bound does not fail to be built because it is not loaded. -/
theorem build_ne_typeNotLoaded {c : EntityClass} {b : Binding} (hc : reg.find? name = some c)
    (hb : c.binding = some b) (className : String) (here : Pointer) (fragment : Json) :
    Materialize.build reg className here fragment ≠ .error (.typeNotLoaded name) := by
  intro h
  obtain ⟨d, hd, hnone⟩ := Materialize.exists_unbound_of_build h
  rw [Option.some.inj (hc.symm.trans hd), hnone] at hb
  cases hb

/-- Where the loader gives an old binding again, loading is right if the class has that binding. -/
theorem loads_of_old (hreg : reg.Sound) {b : Binding} (hold : loader.find? name = some b)
    {c : EntityClass} (hc : reg.find? name = some c) (hb : c.binding = some b) :
    loader.Loads reg name := by
  have hload : loader.load reg name = .ok (⟨loader, reg⟩, b) := by rw [load, hold]
  have hresult : ∀ loaded b', loader.load reg name = .ok (loaded, b') →
      loaded = ⟨loader, reg⟩ ∧ b' = b := by
    intro loaded b' h
    obtain ⟨hloaded, hb'⟩ := Prod.mk.inj (Except.ok.inj (hload.symm.trans h))
    exact ⟨hloaded.symm, hb'.symm⟩
  obtain ⟨hbound, hartifact⟩ := hreg.bound c (Registry.mem_of_find? hc) b hb
  refine ⟨fun loaded b' h => ⟨c, _, hc, hartifact⟩, fun loaded b' h => ?_, fun loaded b' h => ?_,
    fun _ _ _ _ => ⟨_, _, hload⟩, fun hnone => ?_, fun d hd hnone => ?_⟩
  · obtain ⟨rfl, rfl⟩ := hresult loaded b' h
    exact ⟨hold, c, hc, hbound, hartifact⟩
  · obtain ⟨rfl, rfl⟩ := hresult loaded b' h
    exact build_ne_typeNotLoaded hc hb
  · simp [hc] at hnone
  · rw [← Option.some.inj (hc.symm.trans hd), hartifact] at hnone
    cases hnone

/-- Where the loader has not bound the name yet, loading is right. -/
theorem loads_of_new (hnew : loader.find? name = none) : loader.Loads reg name := by
  rcases load_cases loader reg name with ⟨b, hold, -⟩ | ⟨-, ⟨hnone, hload⟩ |
    ⟨c, hc, hbare, hload⟩ | ⟨c, artifact, hc, hartifact, hload⟩⟩
  · simp [hnew] at hold
  · refine ⟨fun _ _ h => ?_, fun _ _ h => ?_, fun _ _ h => ?_, fun c _ hc => ?_, fun _ => hload,
      fun c hc => ?_⟩
    · simp [hload] at h
    · simp [hload] at h
    · simp [hload] at h
    · simp [hnone] at hc
    · simp [hnone] at hc
  · refine ⟨fun _ _ h => ?_, fun _ _ h => ?_, fun _ _ h => ?_, fun d artifact hd hartifact => ?_,
      fun hnone => ?_, fun _ _ _ => hload⟩
    · simp [hload] at h
    · simp [hload] at h
    · simp [hload] at h
    · rw [← Option.some.inj (hc.symm.trans hd), hbare] at hartifact
      cases hartifact
    · simp [hc] at hnone
  · have hresult : ∀ loaded b, loader.load reg name = .ok (loaded, b) →
        loaded = ⟨{ loader with bindings := loader.bindings ++ [loader.bind c artifact] },
          reg.setBinding name (loader.bind c artifact)⟩ ∧ b = loader.bind c artifact := by
      intro loaded b h
      obtain ⟨hloaded, hb⟩ := Prod.mk.inj (Except.ok.inj (hload.symm.trans h))
      exact ⟨hloaded.symm, hb.symm⟩
    have hname : c.name = name := Registry.name_of_find? hc
    have hkept : ∀ d : EntityClass,
        ({ d with binding := some (loader.bind c artifact) } : EntityClass).name = d.name :=
      fun _ => rfl
    have hbound : (reg.setBinding name (loader.bind c artifact)).find? name =
        some { c with binding := some (loader.bind c artifact) } := by
      rw [Registry.setBinding, Registry.find?_update hkept, hc, Option.map_some, if_pos hname]
    refine ⟨fun _ _ _ => ⟨c, artifact, hc, hartifact⟩, fun loaded b h => ?_, fun loaded b h => ?_,
      fun _ _ _ _ => ⟨_, _, hload⟩, fun hnone => ?_, fun d hd hnone => ?_⟩
    · obtain ⟨rfl, rfl⟩ := hresult loaded b h
      refine ⟨?_, _, hbound, ⟨rfl, rfl, rfl, rfl⟩, hartifact⟩
      rw [find?] at hnew
      rw [find?, List.find?_append, hnew]
      simp [bind, hname]
    · obtain ⟨rfl, rfl⟩ := hresult loaded b h
      exact build_ne_typeNotLoaded hbound rfl
    · simp [hc] at hnone
    · rw [← Option.some.inj (hc.symm.trans hd), hartifact] at hnone
      cases hnone

end Loader

namespace Session

/-- After any history, loading a class makes it usable in a registry if and only if a binding that
the loader has made under the name before is that of the class in this registry. -/
theorem loads_iff {history : List Step} {reg : Registry} (hreg : reg ∈ (run history).registries)
    (loader : Loader) (name : String) :
    loader.Loads reg name ↔ ∀ b, loader.find? name = some b →
      ∃ c, reg.find? name = some c ∧ c.binding = some b := by
  have hsound : reg.Sound := sound_run history reg hreg
  constructor
  · intro h b hold
    have hload : loader.load reg name = .ok (⟨loader, reg⟩, b) := by rw [Loader.load, hold]
    obtain ⟨-, c, hc, hbound, -⟩ := h.bound _ _ hload
    exact ⟨c, hc, hbound.binding_eq⟩
  · intro h
    cases hold : loader.find? name with
    | none => exact Loader.loads_of_new hold
    | some b =>
      obtain ⟨c, hc, hb⟩ := h b hold
      exact Loader.loads_of_old hsound hold hc hb

/-- A small document. -/
def smallDocument : Json := .object [("a", .bool true)]

/-- The small document is inferred, its code is generated and its class is loaded. -/
def loadedOnce : List Step :=
  [.inferDocument "root" smallDocument "" .union, .generateAll 0, .newLoader, .load 0 0 "root"]

/-- The class can be loaded again, and is found bound. -/
theorem loads_iff_loadedOnce :
    ∃ reg ∈ (run loadedOnce).registries, ∃ loader ∈ (run loadedOnce).loaders,
      (∃ b, loader.find? "root" = some b) ∧ loader.Loads reg "root" := by
  have hcheck : ((run loadedOnce).registries.any fun reg => (run loadedOnce).loaders.any
      fun loader => decide (loader.find? "root" ≠ none ∧
        (reg.find? "root").bind (·.binding) = loader.find? "root")) = true := by
    decide +kernel
  obtain ⟨reg, hreg, htest⟩ := List.any_eq_true.1 hcheck
  obtain ⟨loader, hloader, hcompare⟩ := List.any_eq_true.1 htest
  obtain ⟨hsome, hsame⟩ := of_decide_eq_true hcompare
  obtain ⟨b, hold⟩ := Option.ne_none_iff_exists'.1 hsome
  refine ⟨reg, hreg, loader, hloader, ⟨b, hold⟩, (loads_iff hreg loader "root").2 ?_⟩
  intro b' hold'
  rw [hold', Option.bind_eq_some_iff] at hsame
  exact hsame

/-- After the small document has been loaded, it is inferred once more into a registry of its own,
and the code of that is generated. -/
def inferredAgain : List Step :=
  loadedOnce ++ [.inferDocument "root" smallDocument "" .union, .generateAll 1]

/-- The loader gives the old binding for the class of the second registry, which has its code, and
leaves that class without a binding. -/
theorem not_loads_inferredAgain :
    ∃ reg ∈ (run inferredAgain).registries, ∃ loader ∈ (run inferredAgain).loaders,
      (∃ loaded b c, loader.load reg "root" = .ok (loaded, b) ∧
        loaded.registry.find? "root" = some c ∧ c.artifact.isSome ∧ c.binding = none) ∧
      ¬ loader.Loads reg "root" := by
  have hcheck : ((run inferredAgain).registries.any fun reg => (run inferredAgain).loaders.any
      fun loader => (loader.load reg "root").toOption.any fun (loaded, _) =>
        (loaded.registry.find? "root").any fun c =>
          decide (c.artifact.isSome ∧ c.binding = none)) = true := by
    decide +kernel
  obtain ⟨reg, hreg, htest⟩ := List.any_eq_true.1 hcheck
  obtain ⟨loader, hloader, htest⟩ := List.any_eq_true.1 htest
  obtain ⟨⟨loaded, b⟩, hload, htest⟩ := Chain.exists_of_any htest
  obtain ⟨c, hc, htest⟩ := (Option.any_eq_true _ _).1 htest
  obtain ⟨hartifact, hunbound⟩ := of_decide_eq_true htest
  refine ⟨reg, hreg, loader, hloader, ⟨loaded, b, c, hload, hc, hartifact, hunbound⟩, ?_⟩
  intro h
  obtain ⟨-, d, hd, hbound, -⟩ := h.bound loaded b hload
  rw [Option.some.inj (hc.symm.trans hd), hbound.binding_eq] at hunbound
  cases hunbound

end Session

end DocSchema
