import DocSchema.Proofs.Entity.Elements
import DocSchema.Pipeline

/-!
# The outcome of a run

Once the classes of a document are inferred, nothing but denied issues can end a run: the classes
can be loaded (`exists_loaded_of_inferDocument`), and the document has an entity, because every
fragment that becomes one has been visited under its class. `run_outcome` puts this together. What a
run that succeeds rests on is `Rests`, from which the theorems about its entities start.
-/

namespace DocSchema

namespace Inference

/-- What is known of an inferred registry holds of another one with the same root and shapes. -/
theorem Yields.of_sameShapes {rootName : String} {document : Json} {mode : Merge}
    {reg other : Registry} (h : Yields rootName document mode reg) (hother : other.WellFormed)
    (hroot : other.rootName = reg.rootName)
    (hshapes : ∀ name, (other.find? name).map EntityClass.shape =
      (reg.find? name).map EntityClass.shape) :
    Yields rootName document mode other := by
  refine ⟨h.smooth, hother, hroot.trans h.rootName_eq, fun name place members henter => ?_,
    fun hmode name shape hmerge => ?_, fun name d key hd hkey => ?_⟩
  · have hcontains := h.contains name place members henter
    have hsome := congrArg Option.isSome (hshapes name)
    rw [Option.isSome_map, Option.isSome_map] at hsome
    exact hsome.trans hcontains
  · obtain ⟨c, hc, hextends⟩ := h.union_extends hmode name shape hmerge
    have hshape := hshapes name
    rw [hc] at hshape
    obtain ⟨d, hd, heq⟩ := Option.map_eq_some_iff.1 hshape
    exact ⟨d, hd, heq ▸ hextends⟩
  · have hshape := hshapes name
    rw [hd] at hshape
    obtain ⟨c, hc, heq⟩ := Option.map_eq_some_iff.1 hshape.symm
    exact h.declared name c key hc (heq ▸ hkey)

end Inference

namespace Pipeline

open Inference Materialize

/-- What the entity of a document rests on: a ready registry with the classes of the document. -/
structure Rests (rootName : String) (document : Json) (mode : Merge) (reg : Registry)
    (root : Entity) : Prop where
  /-- The registry is ready. -/
  ready : reg.Ready
  /-- It has the classes of the document. -/
  yields : Yields rootName document mode reg
  /-- The entity is that of the document. -/
  entity_eq : entityOf reg ⟨rootName, .root, document⟩ = .ok root

/-- The classes of a document can be loaded, and the document has an entity then. -/
theorem exists_loaded_of_inferDocument {rootName classNamespace : String} {document : Json}
    {mode : Merge} {reg : Registry}
    (h : Registry.inferDocument rootName document classNamespace mode = .ok reg) :
    ∃ loaded root, (Loader.new 0).loadAll (Source.generateAll reg.freeze).1 = (loaded, .ok ()) ∧
      loaded.registry.materializeDocument document = .ok root ∧
      Rests rootName document mode loaded.registry root := by
  have hyields := yields_of_inferDocument h
  have hfrozen : reg.freeze.WellFormed := ⟨hyields.wellFormed.nodup, hyields.wellFormed.shapes⟩
  obtain ⟨loaded, hload, hready, hroot, hshapes⟩ := Loader.ready_of_loadAll 0 hfrozen
  -- Loading changes no shape, so the loaded registry is known as well as the inferred one.
  have hyields' : Yields rootName document mode loaded.registry :=
    hyields.of_sameShapes hready.wellFormed hroot hshapes
  obtain ⟨root, hentity⟩ := exists_entityOf hready hyields' ⟨rootName, .root, document⟩
    (List.Subset.refl _)
  refine ⟨loaded, root, hload, ?_, hready, hyields', hentity⟩
  obtain ⟨c, hc⟩ := Registry.contains_iff_exists.1 (contains_of_entityOf hentity)
  have hrootClass : loaded.registry.root = .ok c := by
    rw [Registry.root, hyields'.rootName_eq]
    exact Registry.require_eq_ok_iff.2 hc
  rw [Registry.materializeDocument, hrootClass]
  show loaded.registry.materialize c.name document = .ok root
  rw [Registry.name_of_find? hc]
  exact hentity

/-- A run whose stages succeed gives what they give. -/
theorem run_eq_ok {rootName classNamespace : String} {document : Json} {settings : Settings}
    {reg : Registry} {loaded : Loader.Loaded} {root : Entity}
    (hinfer : Registry.inferDocument rootName document classNamespace settings.merge = .ok reg)
    (hcheck : checkIssues settings reg.freeze = .ok ())
    (hload : (Loader.new 0).loadAll (Source.generateAll reg.freeze).1 = (loaded, .ok ()))
    (hroot : loaded.registry.materializeDocument document = .ok root) :
    run rootName document classNamespace settings =
      .ok ⟨loaded.registry, loaded.loader, (Source.generateAll reg.freeze).2, root⟩ := by
  rw [run, hinfer]
  refine Chain.bind_eq_ok_iff.2 ⟨reg, rfl, Chain.bind_eq_ok_iff.2 ⟨(), hcheck, ?_⟩⟩
  simp only [hload]
  exact Chain.bind_eq_ok_iff.2 ⟨(), rfl, Chain.bind_eq_ok_iff.2 ⟨root, hroot, rfl⟩⟩

/-- A run ends with the failure of the inference, with denied issues, or with an entity. -/
theorem run_eq (rootName : String) (document : Json) (classNamespace : String)
    (settings : Settings) :
    (∃ failure,
        Registry.inferDocument rootName document classNamespace settings.merge = .error failure ∧
          run rootName document classNamespace settings = .error failure) ∨
      ∃ reg, Registry.inferDocument rootName document classNamespace settings.merge = .ok reg ∧
        ((settings.denyIssues = true ∧ reg.issues ≠ [] ∧
            run rootName document classNamespace settings = .error (.schemaIssues reg.issues)) ∨
          ((settings.denyIssues = false ∨ reg.issues = []) ∧
            ∃ p, run rootName document classNamespace settings = .ok p ∧
              Rests rootName document settings.merge p.registry p.root)) := by
  cases hinfer : Registry.inferDocument rootName document classNamespace settings.merge with
  | error failure =>
    refine .inl ⟨failure, rfl, ?_⟩
    rw [run, hinfer]
    rfl
  | ok reg =>
    refine .inr ⟨reg, rfl, ?_⟩
    by_cases hissues : settings.denyIssues = true ∧ reg.issues ≠ []
    · -- Freezing changes nothing that the issues depend on.
      have hcheck : checkIssues settings reg.freeze = .error (.schemaIssues reg.issues) := by
        have hdenied : (settings.denyIssues && !reg.issues.isEmpty) = true := by
          simp [hissues.1, hissues.2]
        exact if_pos hdenied
      refine .inl ⟨hissues.1, hissues.2, ?_⟩
      rw [run, hinfer]
      show (checkIssues settings reg.freeze >>= _) = _
      rw [hcheck]
      rfl
    · have hcheck : checkIssues settings reg.freeze = .ok () := by
        have hallowed : ¬ (settings.denyIssues && !reg.issues.isEmpty) = true := by
          simpa using hissues
        exact if_neg hallowed
      obtain ⟨loaded, root, hload, hroot, hrests⟩ := exists_loaded_of_inferDocument hinfer
      have hor : settings.denyIssues = false ∨ reg.issues = [] := by
        rw [not_and_or, not_not, Bool.not_eq_true] at hissues
        exact hissues
      refine .inr ⟨hor, ⟨loaded.registry, loaded.loader, (Source.generateAll reg.freeze).2, root⟩,
        ?_, hrests⟩
      exact run_eq_ok hinfer hcheck hload hroot

/-- What a run that succeeds rests on. -/
theorem rests_of_run {rootName classNamespace : String} {document : Json} {settings : Settings}
    {p : Pipeline} (h : run rootName document classNamespace settings = .ok p) :
    Rests rootName document settings.merge p.registry p.root := by
  rcases run_eq rootName document classNamespace settings with
    ⟨failure, -, herror⟩ | ⟨reg, -, ⟨-, -, herror⟩ | ⟨-, q, hrun, hrests⟩⟩
  · simp [h] at herror
  · simp [h] at herror
  · obtain rfl := Except.ok.inj (h.symm.trans hrun)
    exact hrests

/-- A run succeeds if and only if the inference does and its issues, if there are any, are not
denied, and it fails only with the failure of the inference or with these issues. Whatever the
settings say of issues, the inferred classes can be loaded and the document has an entity then. -/
theorem run_outcome (rootName : String) (document : Json) (classNamespace : String)
    (settings : Settings) :
    ((∃ p, run rootName document classNamespace settings = .ok p) ↔
      ∃ reg, Registry.inferDocument rootName document classNamespace settings.merge = .ok reg ∧
        (settings.denyIssues = false ∨ reg.issues = [])) ∧
    (∀ failure, run rootName document classNamespace settings = .error failure ↔
      Registry.inferDocument rootName document classNamespace settings.merge = .error failure ∨
        ∃ reg, Registry.inferDocument rootName document classNamespace settings.merge = .ok reg ∧
          settings.denyIssues = true ∧ reg.issues ≠ [] ∧ failure = .schemaIssues reg.issues) ∧
    (∀ reg, Registry.inferDocument rootName document classNamespace settings.merge = .ok reg →
      ∃ loaded root, (Loader.new 0).loadAll (Source.generateAll reg.freeze).1 = (loaded, .ok ()) ∧
        loaded.registry.materializeDocument document = .ok root) := by
  refine ⟨?_, fun failure => ?_, fun reg hinfer => ?_⟩
  · rcases run_eq rootName document classNamespace settings with
      ⟨failure, hinfer, hrun⟩ | ⟨reg, hinfer, ⟨hdeny, hissues, hrun⟩ | ⟨hor, p, hrun, -⟩⟩
    · simp [hinfer, hrun]
    · simp [hinfer, hrun, hdeny, hissues]
    · exact ⟨fun _ => ⟨reg, hinfer, hor⟩, fun _ => ⟨p, hrun⟩⟩
  · rcases run_eq rootName document classNamespace settings with
      ⟨failure', hinfer, hrun⟩ | ⟨reg, hinfer, ⟨hdeny, hissues, hrun⟩ | ⟨hor, p, hrun, -⟩⟩
    · simp [hinfer, hrun]
    · rw [hrun]
      constructor
      · intro h
        exact .inr ⟨reg, hinfer, hdeny, hissues, (Except.error.inj h).symm⟩
      · rintro (h | ⟨other, h, -, -, rfl⟩)
        · simp [hinfer] at h
        · obtain rfl := Except.ok.inj (hinfer.symm.trans h)
          rfl
    · rcases hor with hallow | hnone
      · simp [hinfer, hrun, hallow]
      · simp [hinfer, hrun, hnone]
  · obtain ⟨loaded, root, hload, hroot, -⟩ := exists_loaded_of_inferDocument hinfer
    exact ⟨loaded, root, hload, hroot⟩

end Pipeline

end DocSchema
