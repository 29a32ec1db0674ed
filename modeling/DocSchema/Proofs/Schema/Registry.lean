import DocSchema.Proofs.Chain
import DocSchema.Proofs.Lists
import DocSchema.Schema.Inference
import Mathlib.Data.List.Nodup

/-!
# Registries and their changes

What a registry holds after a class has been entered (`touch_eq_ok`) or given another shape
(`find?_setShape`), or all of them have been changed (`find?_mapClasses`), and when a merge into a
class succeeds (`mergeShape_eq_ok_iff`). A class is known by its name: where no name comes twice,
each class is the one that its name finds (`find?_eq_some_of_mem`).
-/

namespace DocSchema

namespace Registry

/-- A registry has a class if and only if the class is among its names. -/
theorem contains_iff {reg : Registry} {name : String} :
    reg.contains name = true ↔ name ∈ reg.classNames := by
  simp [contains, find?, classNames]

/-- A registry has a class if and only if the class is found. -/
theorem contains_iff_exists {reg : Registry} {name : String} :
    reg.contains name = true ↔ ∃ c, reg.find? name = some c :=
  Option.isSome_iff_exists

/-- Where the names are distinct, every class is the one that its name finds. -/
theorem find?_eq_some_of_mem {reg : Registry} (hreg : reg.classNames.Nodup) {c : EntityClass}
    (hc : c ∈ reg.classes) : reg.find? c.name = some c := find?_of_nodup_map hreg hc

/-- A class that must exist is found. -/
theorem require_eq_ok_iff {reg : Registry} {name : String} {c : EntityClass} :
    reg.require name = .ok c ↔ reg.find? name = some c := by
  rw [require]
  cases reg.find? name <;> simp

/-- Changes every class of a registry. -/
def mapClasses (reg : Registry) (change : EntityClass → EntityClass) : Registry :=
  { reg with classes := reg.classes.map change }

section MapClasses

variable {change : EntityClass → EntityClass} (hname : ∀ c, (change c).name = c.name)
include hname

/-- Changing all classes but not their names keeps the names of a registry. -/
theorem classNames_mapClasses (reg : Registry) :
    (reg.mapClasses change).classNames = reg.classNames := by
  rw [classNames, mapClasses, List.map_map]
  exact List.map_congr_left fun c _ => hname c

/-- A class whose name is not changed is found with the change. -/
theorem find?_mapClasses (reg : Registry) (name : String) :
    (reg.mapClasses change).find? name = (reg.find? name).map change := by
  have hsame : (fun c : EntityClass => c.name == name) ∘ change = fun c => c.name == name := by
    funext c
    exact congrArg (· == name) (hname c)
  rw [find?, mapClasses, List.find?_map, hsame]
  rfl

end MapClasses

/-- A class of a registry in which the class of a name was changed is one that was there before, and
changed if it has the name. -/
theorem exists_of_mem_update {reg : Registry} {name : String} {change : EntityClass → EntityClass}
    {c : EntityClass} (hc : c ∈ (reg.update name change).classes) :
    ∃ d ∈ reg.classes, c = d ∨ d.name = name ∧ c = change d := by
  obtain ⟨d, hd, rfl⟩ := List.mem_map.1 hc
  refine ⟨d, hd, ?_⟩
  split
  · next hname => exact .inr ⟨hname, rfl⟩
  · exact .inl rfl

/-- A class that is entered is new or was there before. -/
theorem touch_eq_ok {reg touched : Registry} {name : String} (h : reg.touch name = .ok touched) :
    (reg.contains name = true ∧ touched = reg) ∨
      (reg.contains name = false ∧
        touched = { reg with classes := reg.classes ++ [.new name reg.classNamespace] }) := by
  rw [touch] at h
  split at h
  · simp at h
  · split at h
    · next hc => exact .inl ⟨hc, (Except.ok.inj h).symm⟩
    · next hc => exact .inr ⟨by simpa using hc, (Except.ok.inj h).symm⟩

/-- Entering a class changes no class that is found. -/
theorem find?_of_touch {reg touched : Registry} {name other : String} {c : EntityClass}
    (h : reg.touch name = .ok touched) (hc : reg.find? other = some c) :
    touched.find? other = some c := by
  rcases touch_eq_ok h with ⟨-, rfl⟩ | ⟨-, rfl⟩
  · exact hc
  · simp only [find?, List.find?_append]
    rw [show reg.classes.find? (·.name == other) = some c from hc]
    rfl

/-- A class that is entered is there. -/
theorem contains_of_touch {reg touched : Registry} {name : String}
    (h : reg.touch name = .ok touched) : touched.contains name = true := by
  rcases touch_eq_ok h with ⟨hc, rfl⟩ | ⟨-, rfl⟩
  · exact hc
  · exact contains_iff.2 (by simp [classNames, EntityClass.new])

/-- A class that is given another shape is found with it, and the others as they were. -/
theorem find?_setShape (reg : Registry) (name : String) (shape : Shape) (other : String) :
    (reg.setShape name shape).find? other =
      (reg.find? other).map fun c => if c.name = name then { c with shape } else c := by
  have hname : ∀ c : EntityClass, ({ c with shape } : EntityClass).name = c.name := fun _ => rfl
  exact find?_update hname other

/-- A class of another name is found as it was. -/
theorem find?_setShape_of_ne {reg : Registry} {name other : String} {shape : Shape}
    (h : name ≠ other) : (reg.setShape name shape).find? other = reg.find? other := by
  rw [find?_setShape]
  cases hc : reg.find? other with
  | none => rfl
  | some c => rw [Option.map_some, if_neg (name_of_find? hc ▸ Ne.symm h)]

/-- Giving a class another shape changes no name. -/
theorem classNames_setShape (reg : Registry) (name : String) (shape : Shape) :
    (reg.setShape name shape).classNames = reg.classNames := by
  have hname : ∀ c : EntityClass, ({ c with shape } : EntityClass).name = c.name := fun _ => rfl
  exact classNames_update hname

/-- A merge into a class succeeds where that of the shapes does, and gives the class the merged
shape. -/
theorem mergeShape_eq_ok_iff {reg merged : Registry} {name : String} {later : Shape}
    {mode : Merge} :
    reg.mergeShape name later mode = .ok merged ↔
      ∃ c shape, reg.find? name = some c ∧ c.shape.merge mode later = .ok shape ∧
        merged = reg.setShape name shape := by
  rw [mergeShape, Chain.bind_eq_ok_iff]
  simp only [interruptedBy, Chain.mapError_eq_ok_iff, require_eq_ok_iff]
  constructor
  · rintro ⟨c, hc, hmerge⟩
    split at hmerge
    · next shape hshape => exact ⟨c, shape, hc, hshape, (Except.ok.inj hmerge).symm⟩
    · simp at hmerge
  · rintro ⟨c, shape, hc, hshape, rfl⟩
    exact ⟨c, hc, by rw [hshape]⟩

end Registry

end DocSchema
