import DocSchema.Proofs.Inference.Shapes
import DocSchema.Proofs.Schema.Registry

/-!
# Inferred registries

A registry is `WellFormed` if its class names are distinct and the shapes of its classes are
well-formed; every action of a course keeps that (`wellFormed_of_perform`). A class that has been
entered stays, in a union its shape extends every shape that was merged into it
(`extends_of_performAll`), and its attributes are those of shapes that were merged into it
(`declared_of_perform`). `yields_of_inferDocument` collects what is known of the registry of a
document.
-/

namespace DocSchema

/-- Each class is there once, with a well-formed shape. -/
structure Registry.WellFormed (reg : Registry) : Prop where
  /-- No two classes have one name. -/
  nodup : reg.classNames.Nodup
  /-- The shapes are well-formed. -/
  shapes : ∀ c ∈ reg.classes, c.shape.WellFormed c.name

namespace Inference

/-- In a smooth course every shape that is merged is that of an object whose class was entered. -/
theorem exists_enter_of_merge {v : Visit} (hv : Smooth v.course) {name : String} {shape : Shape}
    (h : .merge name shape ∈ v.course) :
    ∃ place members, .enter name place members ∈ v.course ∧
      shapeFrom name .empty members = .ok shape := by
  induction v using visit_induction with
  | other v hobject =>
    obtain ⟨members, _, hfragment, -⟩ := Visit.course_of_smooth hv
    exact absurd hfragment (hobject members)
  | object owner here members ih =>
    rcases Visit.mem_course_object h with heq | ⟨s, hs, heq⟩ | ⟨_, heq⟩ |
      ⟨key, value, hm, w, hw, hpart⟩
    · simp at heq
    · obtain ⟨rfl, rfl⟩ := Action.merge.inj heq
      exact ⟨here, members, Visit.enter_mem_course name here members, hs⟩
    · simp at heq
    · have hsub := Visit.course_part_subset hv rfl hm hw
      obtain ⟨place, inner, henter, hshape⟩ :=
        ih key value hm w hw (fun failure hf => hv failure (hsub hf)) hpart
      exact ⟨place, inner, hsub henter, hshape⟩

/-- Entering a class succeeds where the registry takes it. -/
theorem touch_eq_ok_of_perform {mode : Merge} {reg result : Registry} {name : String}
    {place : Pointer} {members : Members}
    (h : perform mode reg (.enter name place members) = .ok result) :
    reg.touch name = .ok result := by
  rw [perform, Registry.interruptedBy] at h
  exact Chain.mapError_eq_ok_iff.1 h

/-- An action that succeeds keeps a registry well-formed. -/
theorem wellFormed_of_perform {mode : Merge} {reg result : Registry} {a : Action}
    (ha : ∀ name shape, a = .merge name shape → shape.WellFormed name) (hreg : reg.WellFormed)
    (h : perform mode reg a = .ok result) : result.WellFormed := by
  cases a with
  | enter name place members =>
    have htouch : reg.touch name = .ok result := touch_eq_ok_of_perform h
    rcases Registry.touch_eq_ok htouch with ⟨-, rfl⟩ | ⟨hnew, rfl⟩
    · exact hreg
    · have hfree : name ∉ reg.classNames := by
        rw [← Registry.contains_iff, hnew]
        simp
      refine ⟨?_, fun c hc => ?_⟩
      · rw [Registry.classNames_touch htouch, hnew]
        exact List.nodup_append.2 ⟨hreg.nodup, by simp, by grind⟩
      · rcases List.mem_append.1 hc with hc | hc
        · exact hreg.shapes c hc
        · obtain rfl := List.mem_singleton.1 hc
          exact Shape.wellFormed_empty name
  | merge name later =>
    obtain ⟨c, shape, hc, hshape, rfl⟩ := Registry.mergeShape_eq_ok_iff.1 h
    have hname : c.name = name := Registry.name_of_find? hc
    have hwell : shape.WellFormed name :=
      Shape.wellFormed_of_merge (hname ▸ hreg.shapes c (Registry.mem_of_find? hc))
        (ha name later rfl) hshape
    refine ⟨?_, fun d hd => ?_⟩
    · rw [Registry.classNames_setShape]
      exact hreg.nodup
    · obtain ⟨e, he, rfl⟩ := List.mem_map.1 hd
      split
      · next hename => exact hename ▸ hwell
      · exact hreg.shapes e he
  | refuse failure => simp [perform] at h

/-- An action keeps the root name. -/
theorem rootName_of_perform {mode : Merge} {reg result : Registry} {a : Action}
    (h : perform mode reg a = .ok result) : result.rootName = reg.rootName := by
  cases a with
  | enter name place members =>
    rcases Registry.touch_eq_ok (touch_eq_ok_of_perform h) with ⟨-, rfl⟩ | ⟨-, rfl⟩ <;> rfl
  | merge name later =>
    obtain ⟨_, _, -, -, rfl⟩ := Registry.mergeShape_eq_ok_iff.1 h
    rfl
  | refuse failure => simp [perform] at h

/-- A class stays when an action is performed, and in a union its shape is only extended. -/
theorem find?_of_perform {mode : Merge} {reg result : Registry} {a : Action} {name : String}
    {c : EntityClass} (h : perform mode reg a = .ok result) (hc : reg.find? name = some c) :
    ∃ d, result.find? name = some d ∧ (mode = .union → d.shape.Extends c.shape) := by
  cases a with
  | enter other place members =>
    exact ⟨c, Registry.find?_of_touch (touch_eq_ok_of_perform h) hc, fun _ => .refl _⟩
  | merge other later =>
    obtain ⟨b, shape, hb, hshape, rfl⟩ := Registry.mergeShape_eq_ok_iff.1 h
    rw [Registry.find?_setShape, hc]
    by_cases hname : c.name = other
    · have hsame : name = other := (Registry.name_of_find? hc).symm.trans hname
      obtain rfl : b = c := by simpa [hsame, hb] using hc
      refine ⟨{ b with shape }, by simp [hname], ?_⟩
      rintro rfl
      exact (Shape.extends_of_unite hshape).1
    · exact ⟨c, by simp [hname], fun _ => .refl _⟩
  | refuse failure => simp [perform] at h

/-- A class stays when actions are performed, and in a union its shape is only extended. -/
theorem find?_of_performAll {mode : Merge} {reg result : Registry} {actions : List Action}
    {name : String} {c : EntityClass} (h : performAll mode reg actions = .ok result)
    (hc : reg.find? name = some c) :
    ∃ d, result.find? name = some d ∧ (mode = .union → d.shape.Extends c.shape) := by
  refine Chain.foldlM_invariant
    (P := fun reg => ∃ d, reg.find? name = some d ∧ (mode = .union → d.shape.Extends c.shape))
    (fun reg a result _ hreg hstep => ?_) ⟨c, hc, fun _ => .refl _⟩ h
  obtain ⟨d, hd, hextends⟩ := hreg
  obtain ⟨e, he, hextends'⟩ := find?_of_perform hstep hd
  exact ⟨e, he, fun hmode => (hextends' hmode).trans (hextends hmode)⟩

/-- Every attribute of a class is one of a shape that the actions merge into the class. -/
def Declared (actions : List Action) (reg : Registry) : Prop :=
  ∀ c ∈ reg.classes, ∀ key ∈ c.shape.attributes.map Attribute.name,
    ∃ shape, .merge c.name shape ∈ actions ∧ key ∈ shape.attributes.map Attribute.name

/-- An action brings in the attributes of the shape that it merges and no others. -/
theorem declared_of_perform {mode : Merge} {reg result : Registry} {actions : List Action}
    {a : Action} (ha : a ∈ actions) (hreg : Declared actions reg)
    (h : perform mode reg a = .ok result) : Declared actions result := by
  cases a with
  | enter name place members =>
    rcases Registry.touch_eq_ok (touch_eq_ok_of_perform h) with ⟨-, rfl⟩ | ⟨-, rfl⟩
    · exact hreg
    · intro c hc key hkey
      rcases List.mem_append.1 hc with hc | hc
      · exact hreg c hc key hkey
      · obtain rfl := List.mem_singleton.1 hc
        simp [EntityClass.new, Shape.empty] at hkey
  | merge name later =>
    obtain ⟨c, shape, hc, hshape, rfl⟩ := Registry.mergeShape_eq_ok_iff.1 h
    intro d hd key hkey
    obtain ⟨e, he, rfl⟩ := List.mem_map.1 hd
    split at hkey
    · next hname =>
      rw [if_pos hname]
      show ∃ shape, .merge e.name shape ∈ actions ∧ _
      rw [hname]
      cases mode with
      | overwrite =>
        -- The later shape has taken the place of the earlier one.
        obtain rfl := Except.ok.inj hshape
        exact ⟨later, ha, hkey⟩
      | union =>
        rcases Shape.mem_attributeNames_of_unite hshape hkey with hold | hnew
        · rw [← Registry.name_of_find? hc]
          exact hreg c (Registry.mem_of_find? hc) key hold
        · exact ⟨later, ha, hnew⟩
    · next hname =>
      rw [if_neg hname]
      exact hreg e he key hkey
  | refuse failure => simp [perform] at h

/-- A class that has been entered is there in the end. -/
theorem contains_of_performAll {mode : Merge} {reg result : Registry} {actions : List Action}
    {name : String} {place : Pointer} {members : Members}
    (h : performAll mode reg actions = .ok result) (ha : .enter name place members ∈ actions) :
    result.contains name = true := by
  obtain ⟨before, entered, back, hstep, hrest⟩ := exists_perform_of_mem h ha
  obtain ⟨c, hc⟩ := Registry.contains_iff_exists.1
    (Registry.contains_of_touch (touch_eq_ok_of_perform hstep))
  obtain ⟨d, hd, -⟩ := find?_of_performAll hrest hc
  exact Registry.contains_iff_exists.2 ⟨d, hd⟩

/-- In a union the shape of a class extends in the end every shape that was merged into it. -/
theorem extends_of_performAll {reg result : Registry} {actions : List Action} {name : String}
    {later : Shape} (h : performAll .union reg actions = .ok result)
    (ha : .merge name later ∈ actions) :
    ∃ c, result.find? name = some c ∧ c.shape.Extends later := by
  obtain ⟨before, _, back, hstep, hrest⟩ := exists_perform_of_mem h ha
  obtain ⟨c, shape, hc, hshape, rfl⟩ := Registry.mergeShape_eq_ok_iff.1 hstep
  have hmerged : (before.setShape name shape).find? name = some { c with shape } := by
    rw [Registry.find?_setShape, hc]
    simp [Registry.name_of_find? hc]
  obtain ⟨d, hd, hextends⟩ := find?_of_performAll hrest hmerged
  exact ⟨d, hd, (hextends rfl).trans (Shape.extends_of_unite hshape).2⟩

/-- What is known of the registry that is inferred from a document. -/
structure Yields (rootName : String) (document : Json) (mode : Merge) (reg : Registry) : Prop where
  /-- Nothing stopped the inference. -/
  smooth : Smooth (course rootName .root document)
  /-- The registry is well-formed. -/
  wellFormed : reg.WellFormed
  /-- The root name is noted. -/
  rootName_eq : reg.rootName = some rootName
  /-- Every class that was entered is there. -/
  contains : ∀ name place members,
    .enter name place members ∈ course rootName .root document → reg.contains name = true
  /-- In a union the shape of a class extends those of its objects. -/
  union_extends : mode = .union → ∀ name shape,
    .merge name shape ∈ course rootName .root document →
      ∃ c, reg.find? name = some c ∧ c.shape.Extends shape
  /-- The attributes of a class are those of its objects. -/
  declared : ∀ name c key, reg.find? name = some c → key ∈ c.shape.attributes.map Attribute.name →
    ∃ shape, .merge name shape ∈ course rootName .root document ∧
      key ∈ shape.attributes.map Attribute.name

/-- Inference that succeeds yields the registry of the document. -/
theorem yields_of_inferDocument {rootName classNamespace : String} {document : Json} {mode : Merge}
    {reg : Registry} (h : Registry.inferDocument rootName document classNamespace mode = .ok reg) :
    Yields rootName document mode reg := by
  have hrun : performAll mode { Registry.new classNamespace with rootName := some rootName }
      (course rootName .root document) = .ok reg := by
    rw [Registry.inferDocument, Registry.inferClass, visit_eq_performAll] at h
    exact Chain.mapError_eq_ok_iff.1 h
  have hsmooth := smooth_of_performAll hrun
  refine ⟨hsmooth, ?_, ?_, fun _ _ _ => contains_of_performAll hrun, ?_, ?_⟩
  · refine Chain.foldlM_invariant (P := Registry.WellFormed) (fun reg a result ha hreg hstep => ?_)
      ⟨by simp [Registry.classNames, Registry.new], by simp [Registry.new]⟩ hrun
    refine wellFormed_of_perform (fun name shape hmerge => ?_) hreg hstep
    obtain ⟨_, members, -, hmembers⟩ :=
      exists_enter_of_merge (v := ⟨rootName, .root, document⟩) hsmooth (hmerge ▸ ha)
    exact wellFormed_of_shapeFrom hmembers
  · exact Chain.foldlM_invariant (P := fun reg => reg.rootName = some rootName)
      (fun reg a result _ hreg hstep => (rootName_of_perform hstep).trans hreg) rfl hrun
  · rintro rfl name shape hmerge
    exact extends_of_performAll hrun hmerge
  · intro name c key hc hkey
    have hdeclared : Declared (course rootName .root document) reg :=
      Chain.foldlM_invariant (fun reg a result ha hreg hstep => declared_of_perform ha hreg hstep)
        (by simp [Declared, Registry.new]) hrun
    rw [← Registry.name_of_find? hc]
    exact hdeclared c (Registry.mem_of_find? hc) key hkey

end Inference

end DocSchema
