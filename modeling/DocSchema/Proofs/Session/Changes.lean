import DocSchema.Proofs.Entity.Loading
import DocSchema.Proofs.Inference.Interrupted
import Mathlib.Logic.Relation

/-!
# Changes of registries

Whatever is done with a registry, it goes through changes of five kinds (`Registry.Change`). As long
as it is not frozen, a class can be entered and the shape of an object merged into a class; at any
time the registry can be frozen, its code generated, and a class bound to its code. Inference makes
such changes and no others, even if it is stopped (`changes_left_inferClass`), and so does a loader,
even if it fails at a class (`changes_loadAll`). What each change keeps is therefore kept by all
that is done (`Changes.invariant`).
-/

namespace DocSchema

/-- A change of a registry. -/
inductive Registry.Change (reg : Registry) : Registry → Prop where
  /-- A class is entered under a new name. -/
  | enter {name : String} (hopen : reg.frozen = false) (hnew : name ∉ reg.classNames) :
    reg.Change { reg with classes := reg.classes ++ [.new name reg.classNamespace] }
  /-- A class takes in a shape, or as much of it as a conflict lets it. -/
  | merge {name : String} {c : EntityClass} {later : Shape} (mode : Merge)
    (hopen : reg.frozen = false) (hc : reg.find? name = some c) (hlater : later.WellFormed name) :
    reg.Change (reg.setShape name (.left (c.shape.merge mode later)))
  /-- The shapes are fixed. -/
  | freeze : reg.Change reg.freeze
  /-- The code is generated. -/
  | generate : reg.Change (Source.generateAll reg).1
  /-- A class is bound to its code. -/
  | bind (loader : Loader) {name : String} {c : EntityClass} {artifact : ArtifactRef}
    (hc : reg.find? name = some c) (hartifact : c.artifact = some artifact) :
    reg.Change (reg.setBinding name (loader.bind c artifact))

/-- Changes of a registry, one after the other. -/
abbrev Registry.Changes : Registry → Registry → Prop := Relation.ReflTransGen Registry.Change

namespace Registry

/-- What each change keeps, changes one after the other keep. -/
theorem Changes.invariant {P : Registry → Prop}
    (hchange : ∀ reg next : Registry, P reg → reg.Change next → P next) {reg next : Registry}
    (h : reg.Changes next) (hreg : P reg) : P next := by
  induction h with
  | refl => exact hreg
  | tail _ hlast ih => exact hchange _ _ ih hlast

open DocSchema.Inference in
/-- What an action of inference leaves of a registry that is not frozen is a change of it, and is
not frozen. -/
theorem changes_left_perform (mode : Merge) {reg : Registry} (hopen : reg.frozen = false)
    {a : Action} (ha : ∀ name shape, a = .merge name shape → shape.WellFormed name) :
    reg.Changes (left (perform mode reg a)) ∧ (left (perform mode reg a)).frozen = false := by
  cases a with
  | enter name place members =>
    rw [perform, interruptedBy, touch, if_neg (by simp [hopen])]
    by_cases hcontains : reg.contains name = true
    · rw [if_pos hcontains]
      exact ⟨.refl, hopen⟩
    · rw [if_neg hcontains]
      exact ⟨.single (.enter hopen fun h => hcontains (contains_iff.2 h)), hopen⟩
  | merge name later =>
    rcases left_mergeShape reg name later mode with ⟨-, hleft⟩ | ⟨c, hc, hleft⟩
    · rw [perform, hleft]
      exact ⟨.refl, hopen⟩
    · rw [perform, hleft]
      exact ⟨.single (.merge mode hopen hc (ha name later rfl)), hopen⟩
  | refuse failure => exact ⟨.refl, hopen⟩

section Inference

variable {reg : Registry}

open DocSchema.Inference in
/-- Inference into a frozen registry fails at the first fragment and changes nothing. -/
theorem inferClass_of_frozen (hfrozen : reg.frozen = true) (mode : Merge) (name : String)
    (fragment : Json) :
    reg.inferClass mode name fragment = .error ⟨match fragment with
      | .object _ => .registryFrozen name
      | other => .unsupportedFragment name .root other.kindName, reg⟩ := by
  cases fragment with
  | object members =>
    rw [inferClass, visit, touch, if_pos hfrozen]
    rfl
  | _ => rfl

open DocSchema.Inference in
/-- Inference changes a registry, even if it is stopped. -/
theorem changes_left_inferClass (reg : Registry) (mode : Merge) (name : String) (fragment : Json) :
    reg.Changes (left (reg.inferClass mode name fragment)) := by
  by_cases hfrozen : reg.frozen = true
  · rw [inferClass_of_frozen hfrozen]
    exact .refl
  · have hopen : reg.frozen = false := by simpa using hfrozen
    rw [inferClass, visit_eq_performAll]
    refine (left_invariant (P := fun next => reg.Changes next ∧ next.frozen = false)
      (fun next a ha hnext => ?_) ⟨.refl, hopen⟩).1
    have hmerge : ∀ name shape, a = .merge name shape → shape.WellFormed name := by
      rintro name shape rfl
      exact wellFormed_of_merge_mem (v := ⟨_, .root, fragment⟩) ha
    obtain ⟨hchanges, hleft⟩ := changes_left_perform mode hnext.2 hmerge
    exact ⟨hnext.1.trans hchanges, hleft⟩

end Inference

end Registry

namespace Loader

variable {loader : Loader} {reg : Registry} {name : String}

/-- What loading a class can do: give an old binding again and leave all as it is, fail because the
class is not there or has no code, or bind the class to its code and note that. -/
theorem load_cases (loader : Loader) (reg : Registry) (name : String) :
    (∃ b, loader.find? name = some b ∧ loader.load reg name = .ok (⟨loader, reg⟩, b)) ∨
    loader.find? name = none ∧
      (reg.find? name = none ∧ loader.load reg name = .error (.classNotFound name none) ∨
      (∃ c, reg.find? name = some c ∧ c.artifact = none ∧
        loader.load reg name = .error (.notGenerated name)) ∨
      ∃ c artifact, reg.find? name = some c ∧ c.artifact = some artifact ∧
        loader.load reg name =
          .ok (⟨{ loader with bindings := loader.bindings ++ [loader.bind c artifact] },
            reg.setBinding name (loader.bind c artifact)⟩, loader.bind c artifact)) := by
  rw [load]
  cases hold : loader.find? name with
  | some b => exact .inl ⟨b, rfl, rfl⟩
  | none =>
    refine .inr ⟨rfl, ?_⟩
    rw [Registry.require]
    cases hc : reg.find? name with
    | none => exact .inl ⟨rfl, rfl⟩
    | some c =>
      cases hartifact : c.artifact with
      | none =>
        exact .inr (.inl ⟨c, rfl, hartifact, by simp [Bind.bind, Except.bind, hartifact]⟩)
      | some artifact =>
        exact .inr (.inr ⟨c, artifact, rfl, hartifact, by simp [Bind.bind, Except.bind, hartifact]⟩)

/-- Loading a class changes a registry. -/
theorem changes_of_load {loaded : Loaded} {b : Binding}
    (h : loader.load reg name = .ok (loaded, b)) : reg.Changes loaded.registry := by
  rcases load_cases loader reg name with ⟨_, -, heq⟩ | ⟨-, ⟨-, heq⟩ | ⟨_, -, -, heq⟩ |
    ⟨c, artifact, hc, hartifact, heq⟩⟩ <;> rw [h] at heq
  · obtain ⟨rfl, -⟩ := Prod.mk.inj (Except.ok.inj heq)
    exact .refl
  · cases heq
  · cases heq
  · obtain ⟨rfl, -⟩ := Prod.mk.inj (Except.ok.inj heq)
    exact .single (.bind loader hc hartifact)

/-- Loading classes one after the other changes a registry, even if one of them fails. -/
theorem changes_loadNames (loaded : Loaded) (names : List String) :
    loaded.registry.Changes (loadNames loaded names).1.registry := by
  induction names generalizing loaded with
  | nil => exact .refl
  | cons name rest ih =>
    rw [loadNames]
    cases hload : loaded.loader.load loaded.registry name with
    | error failure => exact .refl
    | ok result => exact (changes_of_load hload).trans (ih result.1)

/-- Loading all classes changes a registry, even if one of them fails. -/
theorem changes_loadAll (loader : Loader) (reg : Registry) :
    reg.Changes (loader.loadAll reg).1.registry :=
  changes_loadNames ⟨loader, reg⟩ reg.classNames

end Loader

end DocSchema
