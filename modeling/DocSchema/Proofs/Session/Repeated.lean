import DocSchema.Proofs.Inference.Interrupted
import DocSchema.Proofs.Session.Histories

/-!
# Repeated inference

Inference from the same fragment, a second time and into the registry that it has led to, changes
nothing (`inferClass_again`). All classes are there by then, so none is entered. In a union each of
them extends every shape that comes to be merged into it, and takes it in as it is: no action has an
effect. Where shapes are overwritten the actions do have effects, since a class goes once more
through all the shapes that it has had, but they end with the last one, which it has already
(`Action.applyAll_eq_self`).
-/

namespace DocSchema

namespace Registry

/-- A change that changes no class leaves a registry as it is. -/
theorem mapClasses_eq_self {reg : Registry} {change : EntityClass → EntityClass}
    (h : ∀ c ∈ reg.classes, change c = c) : reg.mapClasses change = reg := by
  rw [mapClasses, List.map_congr_left h, List.map_id']

/-- A class that is given the shape that it has leaves a registry as it is. -/
theorem setShape_eq_self {reg : Registry} (hreg : reg.classNames.Nodup) {name : String}
    {c : EntityClass} (hc : reg.find? name = some c) : reg.setShape name c.shape = reg := by
  refine mapClasses_eq_self fun d hd => ?_
  split
  · next hname =>
    obtain rfl : d = c := by
      rw [← hname, find?_eq_some_of_mem hreg hd] at hc
      exact Option.some.inj hc
    rfl
  · rfl

end Registry

namespace Inference

/-- A registry has the class that an action works on. -/
def Action.At (reg : Registry) : Action → Prop
  | enter name _ _ | merge name _ => reg.contains name = true
  | refuse _ => False

/-- All classes that a run works on are there in the end. -/
theorem at_of_performAll {mode : Merge} {reg done : Registry} {actions : List Action}
    (h : performAll mode reg actions = .ok done) : ∀ a ∈ actions, a.At done := by
  intro a ha
  cases a with
  | enter name place members => exact contains_of_performAll h ha
  | merge name later =>
    -- The class was there before the merge, and classes stay.
    obtain ⟨before, after, back, hstep, hrest⟩ := exists_perform_of_mem h ha
    obtain ⟨c, -, hc, -⟩ := Registry.mergeShape_eq_ok_iff.1 hstep
    obtain ⟨d, hd, -⟩ := find?_of_perform hstep hc
    obtain ⟨e, he, -⟩ := find?_of_performAll hrest hd
    exact Registry.contains_iff_exists.2 ⟨e, he⟩
  | refuse failure => exact absurd ha (smooth_of_performAll h failure)

/-- An action leaves a registry as open as it was. -/
theorem frozen_of_perform {mode : Merge} {reg result : Registry} {a : Action}
    (h : perform mode reg a = .ok result) : result.frozen = reg.frozen := by
  cases a with
  | enter name place members =>
    rcases Registry.touch_eq_ok (touch_eq_ok_of_perform h) with ⟨-, rfl⟩ | ⟨-, rfl⟩ <;> rfl
  | merge name later =>
    obtain ⟨_, _, -, -, rfl⟩ := Registry.mergeShape_eq_ok_iff.1 h
    rfl
  | refuse failure => simp [perform] at h

/-- A course that enters a class leads to an open registry. -/
theorem frozen_of_performAll {mode : Merge} {reg result : Registry} {actions : List Action}
    {name : String} {place : Pointer} {members : Members}
    (h : performAll mode reg actions = .ok result) (ha : .enter name place members ∈ actions) :
    result.frozen = false := by
  obtain ⟨before, entered, back, hstep, hrest⟩ := exists_perform_of_mem h ha
  have hopen : before.frozen = false := by
    have htouch := touch_eq_ok_of_perform hstep
    rw [Registry.touch] at htouch
    by_contra hfrozen
    rw [if_pos (by simpa using hfrozen)] at htouch
    cases htouch
  refine Chain.foldlM_invariant (P := fun reg : Registry => reg.frozen = false)
    (fun reg a result _ hreg hperform => (frozen_of_perform hperform).trans hreg) ?_ hrest
  exact (frozen_of_perform hstep).trans hopen

/-- Entering a class that is there changes nothing. -/
theorem perform_enter_eq_self {mode : Merge} {reg : Registry} {name : String} {place : Pointer}
    {members : Members} (hopen : reg.frozen = false) (hc : reg.contains name = true) :
    perform mode reg (.enter name place members) = .ok reg := by
  simp [perform, Registry.interruptedBy, Registry.touch, hopen, hc, Except.mapError]

section Union

/-- Merging a shape into a class that extends it changes nothing. -/
theorem perform_merge_eq_self {reg : Registry} (hreg : reg.WellFormed) {name : String}
    {c : EntityClass} {later : Shape} (hlater : later.Distinct) (hc : reg.find? name = some c)
    (hextends : c.shape.Extends later) : perform .union reg (.merge name later) = .ok reg := by
  have hclass := (hreg.shapes c (Registry.mem_of_find? hc)).distinct
  have hself : c.shape.merge .union later = .ok c.shape :=
    Shape.unite_eq_self hclass hlater hextends
  exact Registry.mergeShape_eq_ok_iff.2
    ⟨c, c.shape, hc, hself, (Registry.setShape_eq_self hreg.nodup hc).symm⟩

/-- Actions of which none changes a registry do not change it together. -/
theorem performAll_eq_self {mode : Merge} {reg : Registry} {actions : List Action}
    (h : ∀ a ∈ actions, perform mode reg a = .ok reg) : performAll mode reg actions = .ok reg := by
  induction actions with
  | nil => rfl
  | cons a rest ih =>
    obtain ⟨ha, hrest⟩ := List.forall_mem_cons.1 h
    rw [performAll_cons, ha]
    exact ih hrest

/-- A second run in a union changes nothing. -/
theorem performAll_union_again {reg done : Registry} {v : Visit} (hreg : reg.WellFormed)
    (hopen : done.frozen = false) (h : performAll .union reg v.course = .ok done) :
    performAll .union done v.course = .ok done := by
  have hdone := wellFormed_of_performAll hreg (List.Subset.refl _) h
  refine performAll_eq_self fun a ha => ?_
  have hat := at_of_performAll h a ha
  cases a with
  | enter name place members => exact perform_enter_eq_self hopen hat
  | merge name later =>
    obtain ⟨c, hc, hextends⟩ := extends_of_performAll h ha
    exact perform_merge_eq_self hdone (wellFormed_of_merge_mem ha).distinct hc hextends
  | refuse failure => exact hat.elim

end Union

section Overwrite

/-- What an action that overwrites shapes does to a class that is there. -/
def Action.apply (c : EntityClass) : Action → EntityClass
  | merge name shape => if c.name = name then { c with shape } else c
  | _ => c

/-- What several of them do one after the other. -/
def Action.applyAll (actions : List Action) (c : EntityClass) : EntityClass :=
  actions.foldl Action.apply c

/-- An action that comes last is done last. -/
theorem Action.applyAll_concat (actions : List Action) (a : Action) (c : EntityClass) :
    applyAll (actions ++ [a]) c = apply (applyAll actions c) a := List.foldl_concat ..

/-- Actions change nothing but the shape of a class. -/
theorem Action.applyAll_eq (actions : List Action) (c : EntityClass) :
    ∃ shape, applyAll actions c = { c with shape } := by
  induction actions using List.reverseRecOn with
  | nil => exact ⟨c.shape, rfl⟩
  | append_singleton front a ih =>
    obtain ⟨shape, hshape⟩ := ih
    rw [applyAll_concat, hshape]
    cases a with
    | merge name later =>
      rw [apply]
      split
      · exact ⟨later, rfl⟩
      · exact ⟨shape, rfl⟩
    | _ => exact ⟨shape, rfl⟩

/-- A class into which nothing is merged is left as it is. -/
theorem Action.applyAll_of_notMem {actions : List Action} {c : EntityClass}
    (h : ∀ shape, .merge c.name shape ∉ actions) : applyAll actions c = c := by
  induction actions with
  | nil => rfl
  | cons a rest ih =>
    have hstep : apply c a = c := by
      cases a with
      | merge name shape =>
        have hname : c.name ≠ name := by
          rintro rfl
          exact h shape List.mem_cons_self
        exact if_neg hname
      | _ => rfl
    rw [applyAll, List.foldl_cons, hstep]
    exact ih fun shape hmem => h shape (List.mem_cons_of_mem a hmem)

/-- A class that a run has led to goes through its shapes once more and ends as it is. -/
theorem Action.applyAll_eq_self {reg done : Registry} {actions : List Action}
    (h : performAll .overwrite reg actions = .ok done) :
    ∀ c ∈ done.classes, applyAll actions c = c := by
  -- By induction on the run: the last action that concerns the class decides.
  induction actions using List.reverseRecOn generalizing done with
  | nil => exact fun c _ => rfl
  | append_singleton front a ih =>
    rw [performAll_append] at h
    obtain ⟨middle, hfront, hlast⟩ := Chain.bind_eq_ok_iff.1 h
    rw [performAll_singleton] at hlast
    intro c hc
    rw [applyAll_concat]
    cases a with
    | enter name place members =>
      show applyAll front c = c
      rcases Registry.touch_eq_ok (touch_eq_ok_of_perform hlast) with ⟨-, rfl⟩ | ⟨hnew, rfl⟩
      · exact ih hfront c hc
      · rcases List.mem_append.1 hc with hold | hentered
        · exact ih hfront c hold
        · -- What is merged into a class is merged after the class is entered.
          obtain rfl := List.mem_singleton.1 hentered
          refine applyAll_of_notMem fun shape hmem => ?_
          have hthere := at_of_performAll hfront _ hmem
          cases hnew.symm.trans hthere
    | merge name later =>
      have hmerge : middle.mergeShape name later .overwrite = .ok done := hlast
      obtain ⟨_, shape, -, hshape, rfl⟩ := Registry.mergeShape_eq_ok_iff.1 hmerge
      obtain rfl := Except.ok.inj hshape
      obtain ⟨d, hd, rfl⟩ := List.mem_map.1 hc
      split
      · next hname =>
        obtain ⟨shape, hall⟩ := applyAll_eq front { d with shape := later }
        rw [hall]
        exact if_pos hname
      · next hname =>
        rw [ih hfront d hd]
        exact if_neg hname
    | refuse failure => simp [perform] at hlast

/-- An action that overwrites shapes does to an open registry with its class what it does to each
class. -/
theorem perform_overwrite {reg : Registry} {a : Action} (hopen : reg.frozen = false)
    (ha : a.At reg) : perform .overwrite reg a = .ok (reg.mapClasses (Action.apply · a)) := by
  cases a with
  | enter name place members =>
    have hself : reg.mapClasses (Action.apply · (.enter name place members)) = reg :=
      Registry.mapClasses_eq_self fun _ _ => rfl
    rw [perform_enter_eq_self hopen ha, hself]
  | merge name later =>
    obtain ⟨c, hc⟩ := Registry.contains_iff_exists.1 ha
    show reg.mergeShape name later .overwrite = _
    exact Registry.mergeShape_eq_ok_iff.2 ⟨c, later, hc, rfl, rfl⟩
  | refuse failure => exact ha.elim

/-- Classes that are changed stay. -/
theorem Action.At.mapClasses {reg : Registry} {a b : Action} (h : b.At reg) :
    b.At (reg.mapClasses (apply · a)) := by
  have hname : ∀ c, (apply c a).name = c.name := by
    intro c
    obtain ⟨shape, hshape⟩ := applyAll_eq [a] c
    have hone : apply c a = { c with shape } := hshape
    rw [hone]
  cases b with
  | enter name _ _ | merge name _ =>
    refine Registry.contains_iff.2 ?_
    rw [Registry.classNames_mapClasses hname]
    exact Registry.contains_iff.1 h
  | refuse failure => exact h

/-- Actions that overwrite shapes do to an open registry with all their classes what they do to each
class. -/
theorem performAll_overwrite {reg : Registry} {actions : List Action} (hopen : reg.frozen = false)
    (hat : ∀ a ∈ actions, a.At reg) :
    performAll .overwrite reg actions = .ok (reg.mapClasses (Action.applyAll actions)) := by
  induction actions generalizing reg with
  | nil => exact congrArg Except.ok (Registry.mapClasses_eq_self fun _ _ => rfl).symm
  | cons a rest ih =>
    obtain ⟨ha, hrest⟩ := List.forall_mem_cons.1 hat
    have hnext : (reg.mapClasses (Action.apply · a)).frozen = false := hopen
    have hback := ih hnext fun b hb => (hrest b hb).mapClasses
    have hjoin : (reg.mapClasses (Action.apply · a)).mapClasses (Action.applyAll rest) =
        reg.mapClasses (Action.applyAll (a :: rest)) := by
      simp only [Registry.mapClasses, List.map_map]
      rfl
    rw [performAll_cons, perform_overwrite hopen ha, ← hjoin]
    exact hback

/-- A second run that overwrites shapes changes nothing in the end. -/
theorem performAll_overwrite_again {reg done : Registry} {actions : List Action}
    (hopen : done.frozen = false) (h : performAll .overwrite reg actions = .ok done) :
    performAll .overwrite done actions = .ok done := by
  have hself := Registry.mapClasses_eq_self (Action.applyAll_eq_self h)
  rw [performAll_overwrite hopen (at_of_performAll h), hself]

end Overwrite

/-- Inference that has succeeded in a registry that a history leads to, made again from the same
fragment, under the same name and in the same mode, succeeds and leaves the registry as it is. That
the registry is open need not be assumed, since inference succeeds in no other. -/
theorem inferClass_again {history : List Session.Step} {reg done : Registry}
    (hreg : reg ∈ (Session.run history).registries) {mode : Merge} {name : String}
    {fragment : Json} (h : reg.inferClass mode name fragment = .ok done) :
    done.inferClass mode name fragment = .ok done := by
  rw [Registry.inferClass, visit_eq_performAll] at h ⊢
  obtain ⟨members, _, rfl, -⟩ :=
    Visit.course_of_smooth (v := Visit.whole name fragment) (smooth_of_performAll h)
  have hopen : done.frozen = false :=
    frozen_of_performAll h (Visit.enter_mem_course name .root members)
  cases mode with
  | overwrite => exact performAll_overwrite_again hopen h
  | union =>
    have hwell := (Session.sound_run history reg hreg).wellFormed
    exact performAll_union_again (v := Visit.whole name (.object members)) hwell hopen h

/-- A registry with a class of nodes. -/
def nodeRegistry (shape : Shape) : Registry :=
  { Registry.new "" with classes := [{ EntityClass.new "node" "" with shape }] }

/-- A history that infers the class from a node with an attribute of unknown kind. -/
def nodeInferred : List Session.Step :=
  [.newRegistry "", .inferClass 0 .union "node" (.object [("label", .null)])]

/-- Nodes in nodes, of which the one between has an attribute of its own. -/
def nodeChain : Json :=
  .object [("label", .string "a"), ("node", .object [("id", .bool true),
    ("node", .object [("label", .string "b")])])]

/-- The class of nodes takes in nodes in nodes, or is overwritten by them one after the other, and a
second time nothing changes. -/
theorem inferClass_again_nodeChain : ∃ reg united last,
    reg ∈ (Session.run nodeInferred).registries ∧ reg.frozen = false ∧
      (reg.inferClass .union "node" nodeChain = .ok united ∧ united ≠ reg ∧
        united.inferClass .union "node" nodeChain = .ok united) ∧
      reg.inferClass .overwrite "node" nodeChain = .ok last ∧ last ≠ united ∧
        last.inferClass .overwrite "node" nodeChain = .ok last := by
  let inner := nestedRelationship "node" "node"
  have hreg : nodeRegistry ⟨[⟨"label", .any⟩], []⟩ ∈ (Session.run nodeInferred).registries := by
    decide +kernel
  have hunited : (nodeRegistry ⟨[⟨"label", .any⟩], []⟩).inferClass .union "node" nodeChain =
      .ok (nodeRegistry ⟨[⟨"label", .string⟩, ⟨"id", .boolean⟩], [inner]⟩) := rfl
  have hlast : (nodeRegistry ⟨[⟨"label", .any⟩], []⟩).inferClass .overwrite "node" nodeChain =
      .ok (nodeRegistry ⟨[⟨"label", .string⟩], [inner]⟩) := rfl
  exact ⟨_, _, _, hreg, rfl, ⟨hunited, by decide, inferClass_again hreg hunited⟩, hlast, by decide,
    inferClass_again hreg hlast⟩

end Inference

end DocSchema
