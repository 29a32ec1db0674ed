import DocSchema.Proofs.Inference.Visits
import DocSchema.Proofs.Inference.WellFormed
import DocSchema.Proofs.Schema.Stopped

/-!
# Inference that is stopped

Inference that fails leaves what it had taken in (`Registry.left`). What every action keeps, whether
it succeeds or stops, a run keeps (`left_invariant`). A merge leaves a class with what the merge of
the shapes leaves (`left_mergeShape`): a union that a conflict stops has united a part of the later
shape (`Shape.exists_unite_of_stopped`), so that the shapes stay well-formed
(`Shape.wellFormed_left_merge`).
-/

namespace DocSchema

/-- The registry that inference leaves, whether it succeeds or is stopped. -/
def Registry.left : Except Interrupted Registry → Registry
  | .ok reg => reg
  | .error stopped => stopped.registry

namespace Shape

/-- The shape that a merge leaves, whether it succeeds or is stopped. -/
def left : Except Stopped Shape → Shape
  | .ok shape => shape
  | .error stopped => stopped.reached

/-- A part of a well-formed shape is well-formed. -/
theorem WellFormed.of_sublist {owner : String} {s taken : Shape} (hs : s.WellFormed owner)
    (hattributes : taken.attributes.Sublist s.attributes)
    (hrelationships : taken.relationships.Sublist s.relationships) : taken.WellFormed owner where
  distinct := hs.distinct.sublist ((hattributes.map _).append (hrelationships.map _))
  inferred r hr := hs.inferred r (hrelationships.subset hr)

/-- A merge of well-formed shapes leaves a well-formed one. -/
theorem wellFormed_left_merge {owner : String} {s later : Shape} (mode : Merge)
    (hs : s.WellFormed owner) (hlater : later.WellFormed owner) :
    (left (s.merge mode later)).WellFormed owner := by
  cases hmerge : s.merge mode later with
  | ok shape => exact wellFormed_of_merge hs hlater hmerge
  | error stopped =>
    cases mode with
    | overwrite => cases hmerge
    | union =>
      obtain ⟨taken, hunited, hrefuses⟩ := exists_unite_of_stopped hmerge
      have htaken := hlater.of_sublist hrefuses.attributes_prefix.sublist
        hrefuses.relationships_prefix.sublist
      have hmerged : s.merge .union taken = .ok stopped.reached := hunited
      exact wellFormed_of_merge hs htaken hmerged

end Shape

namespace Inference

/-- A merge into a class leaves the registry as it was, if it has no such class, or the class with
the shape that the merge of the shapes leaves. -/
theorem left_mergeShape (reg : Registry) (name : String) (later : Shape) (mode : Merge) :
    (reg.find? name = none ∧ Registry.left (reg.mergeShape name later mode) = reg) ∨
      ∃ c, reg.find? name = some c ∧ Registry.left (reg.mergeShape name later mode) =
        reg.setShape name (Shape.left (c.shape.merge mode later)) := by
  cases hc : reg.find? name with
  | none =>
    rw [Registry.mergeShape, Registry.interruptedBy, Registry.require, hc]
    exact .inl ⟨rfl, rfl⟩
  | some c =>
    refine .inr ⟨c, rfl, ?_⟩
    cases hmerge : c.shape.merge mode later <;>
      simp [Registry.mergeShape, Registry.interruptedBy, Registry.require, hc, hmerge, bind,
        Except.bind, Registry.left, Shape.left, Except.mapError]

/-- Every shape that a visit merges is well-formed, even if the visit is stopped later. -/
theorem wellFormed_of_merge_mem {v : Visit} {name : String} {shape : Shape}
    (h : .merge name shape ∈ v.course) : shape.WellFormed name := by
  obtain ⟨w, -, hown⟩ := Visit.exists_own_of_mem_course h
  cases hown with
  | merge _ hshape => exact wellFormed_of_shapeFrom hshape

/-- The actions of inference keep a registry well-formed. -/
theorem wellFormed_of_performAll {mode : Merge} {reg before : Registry} {v : Visit}
    {front : List Action} (hreg : reg.WellFormed) (hfront : front ⊆ v.course)
    (h : performAll mode reg front = .ok before) : before.WellFormed := by
  refine Chain.foldlM_invariant (P := Registry.WellFormed)
    (fun reg a result ha hreg hstep => ?_) hreg h
  refine wellFormed_of_perform (fun name shape hmerge => ?_) hreg hstep
  exact wellFormed_of_merge_mem (hmerge ▸ hfront ha)

/-- What every action keeps, whether it succeeds or stops, a run keeps. -/
theorem left_invariant {mode : Merge} {P : Registry → Prop} {actions : List Action}
    (hstep : ∀ reg, ∀ a ∈ actions, P reg → P (.left (perform mode reg a))) {reg : Registry}
    (hreg : P reg) : P (.left (performAll mode reg actions)) := by
  induction actions generalizing reg with
  | nil => exact hreg
  | cons a rest ih =>
    have hfirst := hstep reg a (by simp) hreg
    rw [performAll_cons]
    cases hperform : perform mode reg a with
    | error stopped =>
      rw [hperform] at hfirst
      exact hfirst
    | ok next =>
      rw [hperform] at hfirst
      exact ih (fun reg a ha => hstep reg a (by simp [ha])) hfirst

end Inference

end DocSchema
