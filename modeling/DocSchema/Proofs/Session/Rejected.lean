import DocSchema.Proofs.Inference.Begun
import DocSchema.Proofs.Session.Histories

/-!
# Rejected merges

Inference that unites shapes fails with a conflict of a class in two ways: an object declares a name
twice, or the shape of a visit comes to be merged into a class with which it is not compatible
(`ComesToMerge`). In the first case nothing is merged. In the second the merge is given up where it
is, and the class keeps what it has taken in: it is united with the members before the first one
that it refuses (`Shape.StopsAfter`), and no other class changes (`inferClass_rejected`).
-/

namespace DocSchema

namespace Inference

/-- Inference from a fragment into a registry comes to the merge of the shape of a visit: the
actions before it have led to a registry with the class. -/
structure ComesToMerge (reg : Registry) (name : String) (fragment : Json) (v : Visit)
    (before : Registry) (c : EntityClass) : Prop where
  /-- The visit is one of the fragment. -/
  mem_preorder : v ∈ (Visit.whole name fragment).preorder
  /-- It has a shape. -/
  admissible : v.Admissible
  /-- The actions before the merge have succeeded. -/
  reached : ∃ front, front ++ [.merge v.name v.shape] <+: (Visit.whole name fragment).course ∧
    performAll .union reg front = .ok before
  /-- They have led to a registry with the class. -/
  find?_eq : before.find? v.name = some c

/-- A conflict that stops a course before a merge is that of an object that declares a name
twice. -/
theorem exists_twice_of_refuse {v : Visit} {owner : String} {conflict : Conflict}
    (h : .refuse (.schemaConflict owner conflict) ∈ v.course) :
    ∃ w ∈ v.preorder, w.name = owner ∧
      ¬ (w.members.map fun (key, value) => declaredName key value).Nodup := by
  induction v using Visit.inner_induction with
  | step v ih =>
    -- A refusal further inside is found there.
    have hinner : ∀ w ∈ v.inner, .refuse (.schemaConflict owner conflict) ∈ w.course →
        ∃ u ∈ v.preorder, u.name = owner ∧
          ¬ (u.members.map fun (key, value) => declaredName key value).Nodup := by
      intro w hw hmem
      obtain ⟨u, hu, hname, htwice⟩ := ih w hw hmem
      exact ⟨u, Visit.mem_preorder_of_inner hw hu, hname, htwice⟩
    by_cases hadmissible : v.Admissible
    · rw [Visit.course_of_admissible hadmissible] at h
      obtain ⟨w, hw, hmem⟩ : ∃ w ∈ v.inner,
          .refuse (.schemaConflict owner conflict) ∈ w.course := by
        simpa using h
      exact hinner w hw hmem
    · obtain ⟨name, here, fragment⟩ := v
      cases fragment with
      | object members =>
        rcases Visit.mem_course_object h with heq | ⟨_, -, heq⟩ | ⟨_, heq⟩ |
          ⟨key, value, hm, w, hw, hmem⟩
        · cases heq
        · cases heq
        · obtain ⟨rfl, -⟩ := Failure.schemaConflict.inj (Action.refuse.inj heq)
          refine ⟨_, Visit.mem_preorder_self _, rfl, fun hnodup => hadmissible ⟨⟨_, rfl⟩, hnodup⟩⟩
        · exact hinner w (Visit.mem_inner_of_part rfl hm hw) hmem
      | _ => cases List.mem_singleton.1 h

/-- Actions fail with the first one that fails. -/
theorem performAll_of_perform_eq_error {mode : Merge} {reg before : Registry}
    {front actions : List Action} {a : Action} {stopped : Interrupted}
    (hfront : front ++ [a] <+: actions) (hbefore : performAll mode reg front = .ok before)
    (hstop : perform mode before a = .error stopped) :
    performAll mode reg actions = .error stopped := by
  obtain ⟨rest, rfl⟩ := hfront
  rw [List.append_assoc, performAll_append, hbefore]
  show performAll mode before (a :: rest) = _
  rw [performAll_cons, hstop]
  rfl

/-- A union that stops stops the merge into the class, which keeps what the union has reached. -/
theorem mergeShape_eq_error {reg : Registry} {name : String} {c : EntityClass} {later : Shape}
    {stopped : Shape.Stopped} (hc : reg.find? name = some c)
    (h : c.shape.unite later = .error stopped) :
    reg.mergeShape name later .union =
      .error ⟨.schemaConflict name stopped.conflict, reg.setShape name stopped.reached⟩ := by
  simp [Registry.mergeShape, Registry.interruptedBy, Registry.require, hc, Shape.merge, h, bind,
    Except.bind, Except.mapError]

/-- A merge that fails with a conflict is stopped by the union with the shape of the class. -/
theorem exists_stopped_of_mergeShape {reg : Registry} {name className : String} {later : Shape}
    {conflict : Conflict} {stopped : Interrupted}
    (h : reg.mergeShape name later .union = .error stopped)
    (hfailure : stopped.failure = .schemaConflict className conflict) :
    name = className ∧ ∃ c reached, reg.find? name = some c ∧
      c.shape.unite later = .error ⟨conflict, reached⟩ := by
  cases hc : reg.find? name with
  | none =>
    simp only [Registry.mergeShape, Registry.interruptedBy, Registry.require, hc, bind,
      Except.bind, Except.mapError] at h
    obtain rfl := Except.error.inj h
    cases hfailure
  | some c =>
    cases hunite : c.shape.unite later with
    | ok merged =>
      simp [Registry.mergeShape, Registry.interruptedBy, Registry.require, hc, Shape.merge, hunite,
        bind, Except.bind, Except.mapError] at h
    | error union =>
      rw [mergeShape_eq_error hc hunite] at h
      obtain rfl := Except.error.inj h
      obtain ⟨rfl, rfl⟩ := Failure.schemaConflict.inj hfailure
      exact ⟨rfl, c, union.reached, rfl, hunite⟩

section Merge

variable {reg before : Registry} {name : String} {fragment : Json} {v : Visit} {c : EntityClass}

/-- The shape of an admissible visit is well-formed. -/
theorem Visit.Admissible.wellFormed_shape (h : v.Admissible) : v.shape.WellFormed v.name :=
  wellFormed_of_shapeFrom (Visit.shapeFrom_eq_ok_iff.2 ⟨h.nodup, rfl⟩)

/-- The class that inference comes to merge into is well-formed. -/
theorem ComesToMerge.wellFormed (h : ComesToMerge reg name fragment v before c)
    (hreg : reg.WellFormed) : c.shape.WellFormed c.name := by
  obtain ⟨front, hfront, hbefore⟩ := h.reached
  have hsub : front ⊆ (Visit.whole name fragment).course :=
    List.Subset.trans (List.subset_append_left _ _) hfront.subset
  exact (wellFormed_of_performAll hreg hsub hbefore).shapes c (Registry.mem_of_find? h.find?_eq)

/-- Where inference comes to merge a shape into a class with which it is not compatible, it fails,
and the class keeps the union with the members before the first one that it refuses. -/
theorem ComesToMerge.inferClass_eq (h : ComesToMerge reg name fragment v before c)
    (hreg : reg.WellFormed) (hnot : ¬ c.shape.Compatible v.shape) :
    ∃ taken stopped, c.shape.StopsAfter v.shape taken stopped ∧
      reg.inferClass .union name fragment =
        .error ⟨.schemaConflict v.name stopped.conflict,
          before.setShape v.name stopped.reached⟩ := by
  have hclass := (h.wellFormed hreg).distinct
  obtain ⟨stopped, hunite⟩ := Shape.exists_stopped_of_not_compatible hclass hnot
  obtain ⟨taken, hstops⟩ :=
    Shape.exists_stopsAfter hclass h.admissible.wellFormed_shape.distinct hunite
  refine ⟨taken, stopped, hstops, ?_⟩
  obtain ⟨front, hfront, hbefore⟩ := h.reached
  rw [Registry.inferClass, visit_eq_performAll]
  exact performAll_of_perform_eq_error hfront hbefore (mergeShape_eq_error h.find?_eq hunite)

/-- Inference that fails with a conflict of a class has met an object that declares a name twice, or
has come to the merge of a shape into a class with which it is not compatible. -/
theorem exists_cause_of_schemaConflict {stopped : Interrupted} {className : String}
    {conflict : Conflict} (hreg : reg.WellFormed)
    (h : reg.inferClass .union name fragment = .error stopped)
    (hfailure : stopped.failure = .schemaConflict className conflict) :
    (∃ v ∈ (Visit.whole name fragment).preorder, v.name = className ∧
        ¬ (v.members.map fun (key, value) => declaredName key value).Nodup ∧
        ∃ front, front ++ [.refuse stopped.failure] <+: (Visit.whole name fragment).course ∧
          performAll .union reg front = .ok stopped.registry) ∨
      ∃ v before c, ComesToMerge reg name fragment v before c ∧ v.name = className ∧
        ¬ c.shape.Compatible v.shape := by
  rw [Registry.inferClass, visit_eq_performAll] at h
  -- The action that has failed: a class entered, a fragment refused or a shape merged.
  obtain ⟨front, before, -, hbefore, -, ⟨-, hok⟩ | ⟨a, other, hfront, hstop, herror⟩⟩ :=
    performAll_cases .union reg (course name .root fragment)
  · cases h.symm.trans hok
  obtain rfl := Except.error.inj (herror.symm.trans h)
  have ha : a ∈ (Visit.whole name fragment).course := hfront.subset (by simp)
  cases a with
  | enter entered place members =>
    -- A class that is entered is refused in a frozen registry only, and that is no conflict.
    have htouch : other.failure = .registryFrozen entered := by
      rw [perform, Registry.interruptedBy, Registry.touch] at hstop
      split at hstop
      · exact Except.error.inj hstop ▸ rfl
      · split at hstop <;> cases hstop
    cases htouch.symm.trans hfailure
  | refuse failure =>
    obtain rfl := Except.error.inj hstop
    obtain rfl : failure = .schemaConflict className conflict := hfailure
    obtain ⟨v, hv, hname, htwice⟩ := exists_twice_of_refuse ha
    exact .inl ⟨v, hv, hname, htwice, front, hfront, hbefore⟩
  | merge merged later =>
    obtain ⟨rfl, c, reached, hc, hunite⟩ := exists_stopped_of_mergeShape hstop hfailure
    obtain ⟨v, hv, hown⟩ := Visit.exists_own_of_mem_course ha
    cases hown with
    | @merge members shape hobject hshape =>
      have hmembers : v.members = members := by rw [Visit.members, hobject]
      obtain ⟨hnodup, rfl⟩ := Visit.shapeFrom_eq_ok_iff.1 (hmembers ▸ hshape)
      have hcomes : ComesToMerge reg name fragment v before c :=
        ⟨hv, ⟨⟨members, hobject⟩, hnodup⟩, ⟨front, hfront, hbefore⟩, hc⟩
      obtain ⟨taken, hstops⟩ := Shape.exists_stopsAfter (hcomes.wellFormed hreg).distinct
        hcomes.admissible.wellFormed_shape.distinct hunite
      exact .inr ⟨v, before, c, hcomes, rfl, hstops.refuses.not_compatible⟩

end Merge

/-- A merge that is rejected leaves the members of its class as they were just before it. -/
def RejectedMergesKeep (reg : Registry) (name : String) (fragment : Json) : Prop :=
  ∀ v before c, ComesToMerge reg name fragment v before c → ¬ c.shape.Compatible v.shape →
    ∃ d, (Registry.left (reg.inferClass .union name fragment)).find? v.name = some d ∧
      d.shape.attributes = c.shape.attributes ∧ d.shape.relationships = c.shape.relationships

/-- In any registry that a history leads to, a merge into a class with which the shape is not
compatible fails with a conflict of the class. The class has then taken in the members of the shape
before the first one that it refuses, attributes first, and all else is as it was just before the
merge; so the class is as it was exactly if it had these members already. No other conflict stops a
merge: inference that fails with one has come to such a merge, or has met an object that declares a
name twice and has merged nothing of it. -/
theorem inferClass_rejected {history : List Session.Step} {reg : Registry}
    (hreg : reg ∈ (Session.run history).registries) (name : String) (fragment : Json) :
    (∀ v before c, ComesToMerge reg name fragment v before c → ¬ c.shape.Compatible v.shape →
      ∃ taken stopped, c.shape.StopsAfter v.shape taken stopped ∧
        reg.inferClass .union name fragment =
          .error ⟨.schemaConflict v.name stopped.conflict,
            before.setShape v.name stopped.reached⟩) ∧
    ∀ stopped className conflict, reg.inferClass .union name fragment = .error stopped →
      stopped.failure = .schemaConflict className conflict →
        (∃ v ∈ (Visit.whole name fragment).preorder, v.name = className ∧
          ¬ (v.members.map fun (key, value) => declaredName key value).Nodup ∧
          ∃ front, front ++ [.refuse stopped.failure] <+: (Visit.whole name fragment).course ∧
            performAll .union reg front = .ok stopped.registry) ∨
        ∃ v before c, ComesToMerge reg name fragment v before c ∧ v.name = className ∧
          ¬ c.shape.Compatible v.shape := by
  have hwell := (Session.sound_run history reg hreg).wellFormed
  exact ⟨fun v before c hcomes hnot => hcomes.inferClass_eq hwell hnot,
    fun stopped className conflict h hfailure => exists_cause_of_schemaConflict hwell h hfailure⟩

/-- A class with an attribute of unknown kind. -/
def itemClass : EntityClass :=
  { EntityClass.new "item" "" with shape := ⟨[⟨"a", .string⟩, ⟨"n", .any⟩], []⟩ }

/-- The registry with the class. -/
def itemRegistry : Registry := { Registry.new "" with classes := [itemClass] }

/-- A history that infers the class. -/
def itemInferred : List Session.Step :=
  [.newRegistry "", .inferClass 0 .union "item" (.object [("a", .string "x"), ("n", .null)])]

/-- An object with a new member and a kind for the unknown one before the member that does not
fit. -/
def laterItem : Json := .object [("b", .bool true), ("n", .string "y"), ("a", .bool false)]

/-- Inference comes to merge the shape of the object into the class. -/
theorem comesToMerge_laterItem :
    ComesToMerge itemRegistry "item" laterItem (Visit.whole "item" laterItem) itemRegistry
      itemClass := by
  have hadmissible : (Visit.whole "item" laterItem).Admissible := ⟨⟨_, rfl⟩, by decide⟩
  refine ⟨Visit.mem_preorder_self _, hadmissible,
    ⟨[.enter "item" .root (Visit.whole "item" laterItem).members], ?_, rfl⟩, rfl⟩
  rw [Visit.course_of_admissible hadmissible]
  exact List.prefix_refl _

/-- The shape of the object is not compatible with the class. -/
theorem not_compatible_laterItem :
    ¬ itemClass.shape.Compatible (Visit.whole "item" laterItem).shape := by
  intro h
  have hkinds := h.kinds ⟨"a", .string⟩ (by decide) ⟨"a", .boolean⟩ (by decide) rfl
  simp at hkinds

/-- The registry is one that the history leads to. -/
theorem mem_run_itemInferred : itemRegistry ∈ (Session.run itemInferred).registries := by
  decide +kernel

/-- The merge of the object is stopped with a conflict of the class. -/
theorem inferClass_rejected_laterItem :
    itemRegistry ∈ (Session.run itemInferred).registries ∧ itemRegistry.frozen = false ∧
      ∃ taken stopped,
        itemClass.shape.StopsAfter (Visit.whole "item" laterItem).shape taken stopped ∧
        itemRegistry.inferClass .union "item" laterItem =
          .error ⟨.schemaConflict "item" stopped.conflict,
            itemRegistry.setShape "item" stopped.reached⟩ :=
  ⟨mem_run_itemInferred, rfl, (inferClass_rejected mem_run_itemInferred "item" laterItem).1 _ _ _
    comesToMerge_laterItem not_compatible_laterItem⟩

/-- The rejected merge has added an attribute to the class and found the kind of another one. -/
theorem not_rejectedMergesKeep_laterItem :
    itemRegistry ∈ (Session.run itemInferred).registries ∧ itemRegistry.frozen = false ∧
      ¬ RejectedMergesKeep itemRegistry "item" laterItem := by
  refine ⟨mem_run_itemInferred, rfl, fun hkeep => ?_⟩
  obtain ⟨d, hd, hattributes, -⟩ := hkeep _ _ _ comesToMerge_laterItem not_compatible_laterItem
  have hleft : (Registry.left (itemRegistry.inferClass .union "item" laterItem)).find? "item" =
      some { itemClass with shape :=
        ⟨[⟨"a", .string⟩, ⟨"n", .string⟩, ⟨"b", .boolean⟩], []⟩ } := by decide +kernel
  obtain rfl := Option.some.inj (hleft.symm.trans hd)
  exact absurd hattributes (by decide)

end Inference

end DocSchema
