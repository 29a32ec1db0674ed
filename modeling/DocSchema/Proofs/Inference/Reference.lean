import DocSchema.Proofs.Inference.Visits
import DocSchema.Proofs.Inference.WellFormed
import DocSchema.Proofs.Schema.Coherence

/-!
# What an inference gives

The registry that is inferred from a document is told from the visits of the document alone
(`registryOf`): its classes are the names of the visits in the order in which these begin, each name
once, and the shape of a class is made of those of the visits of its name in the order in which
these end. An overwriting inference keeps the last of them (`inferDocument_overwrite`), a uniting
one their union (`inferDocument_union`). The first fails only where a visit is not admissible, the
second also where two visits of one name have shapes that are not compatible. The kind of an
attribute is that of the scalars that the visits see under its name (`KindSeen`).

Each visit takes a registry that belongs to some visits begun and some ended to the one with its own
visits behind these (`performAll_course_eq_ok_iff`). A visit inside another one of its name ends
first, so that the two orders differ.
-/

namespace DocSchema.Inference

/-- The shapes that visits give to a class, in order. -/
def shapesOf (visits : List Visit) (name : String) : List Shape :=
  (visits.filter (·.name = name)).map Visit.shape

/-- What shapes of a class are combined to. -/
def combined : Merge → List Shape → Shape
  | .overwrite, shapes => shapes.getLast?.getD .empty
  | .union, shapes => Shape.unionOf shapes

/-- The shapes of visits can be combined. -/
def Agree (mode : Merge) (visits : List Visit) : Prop :=
  mode = .union → ∀ v ∈ visits, ∀ w ∈ visits, v.name = w.name → v.shape.Compatible w.shape

/-- A class with the shapes that visits give to it. -/
def classOf (mode : Merge) (classNamespace : String) (ended : List Visit) (name : String) :
    EntityClass :=
  { EntityClass.new name classNamespace with shape := combined mode (shapesOf ended name) }

/-- The registry when some visits have begun and some have ended. -/
def registryOf (mode : Merge) (classNamespace rootName : String) (begun ended : List Visit) :
    Registry where
  classNamespace
  rootName := some rootName
  classes := (begun.map Visit.name).eraseDups.map (classOf mode classNamespace ended)
  frozen := false

/-- A visit that has ended gives its shape to the class of its name. -/
theorem shapesOf_concat (visits : List Visit) (v : Visit) (name : String) :
    shapesOf (visits ++ [v]) name =
      if v.name = name then shapesOf visits name ++ [v.shape] else shapesOf visits name := by
  by_cases h : v.name = name <;> simp [shapesOf, h]

/-- The shapes of a class are those of the visits of its name. -/
theorem mem_shapesOf_iff {visits : List Visit} {name : String} {s : Shape} :
    s ∈ shapesOf visits name ↔ ∃ v ∈ visits, v.name = name ∧ v.shape = s := by
  simp [shapesOf, and_assoc]

/-- Visits agree if the shapes of every class are compatible. -/
theorem agree_iff {mode : Merge} {visits : List Visit} :
    Agree mode visits ↔ mode = .union →
      ∀ name, ∀ s ∈ shapesOf visits name, ∀ t ∈ shapesOf visits name, s.Compatible t := by
  refine imp_congr_right fun _ => ⟨fun h name s hs t ht => ?_, fun h v hv w hw hname => ?_⟩
  · obtain ⟨v, hv, rfl, rfl⟩ := mem_shapesOf_iff.1 hs
    obtain ⟨w, hw, hname, rfl⟩ := mem_shapesOf_iff.1 ht
    exact h v hv w hw hname.symm
  · exact h w.name _ (mem_shapesOf_iff.2 ⟨v, hv, hname, rfl⟩) _
      (mem_shapesOf_iff.2 ⟨w, hw, rfl, rfl⟩)

/-- Some of several visits that agree agree. -/
theorem Agree.of_subset {mode : Merge} {visits fewer : List Visit} (h : Agree mode visits)
    (hsub : fewer ⊆ visits) : Agree mode fewer :=
  fun hmode v hv w hw => h hmode v (hsub hv) w (hsub hw)

/-- One more visit agrees with the others if its shape does with those of its class. -/
theorem agree_concat_iff {mode : Merge} {visits : List Visit} {v : Visit} (h : Agree mode visits) :
    Agree mode (visits ++ [v]) ↔ mode = .union →
      ∀ s ∈ shapesOf visits v.name ++ [v.shape], ∀ t ∈ shapesOf visits v.name ++ [v.shape],
        s.Compatible t := by
  rw [agree_iff] at h ⊢
  refine forall_congr' fun hmode => ⟨fun hall => ?_, fun hclass name => ?_⟩
  · have hv := hall v.name
    rwa [shapesOf_concat, if_pos rfl] at hv
  · rw [shapesOf_concat]
    split
    · next hname => exact hname ▸ hclass
    · exact h hmode name

/-- Merging one more shape into those of a class succeeds unless it is to be united with them and
they are not compatible. -/
theorem merge_combined_eq_ok_iff {mode : Merge} {shapes : List Shape} {later merged : Shape}
    (h : mode = .union → ∀ s ∈ shapes, ∀ t ∈ shapes, s.Compatible t) :
    (combined mode shapes).merge mode later = .ok merged ↔
      (mode = .union → ∀ s ∈ shapes ++ [later], ∀ t ∈ shapes ++ [later], s.Compatible t) ∧
        merged = combined mode (shapes ++ [later]) := by
  cases mode with
  | overwrite => simp [Shape.merge, combined, eq_comm]
  | union => simpa [Shape.merge, combined] using Shape.unite_unionOf_eq_ok_iff (h rfl)

section Steps

variable {mode : Merge} {classNamespace rootName : String} {begun ended : List Visit}

/-- The classes of a registry are found under the names of the visits that have begun. -/
theorem find?_registryOf (name : String) :
    (registryOf mode classNamespace rootName begun ended).find? name =
      if name ∈ begun.map Visit.name then some (classOf mode classNamespace ended name) else none :=
  find?_map_eraseDups (fun _ => rfl) _ name

/-- Visits have begun and ended in a possible way. -/
structure Progress (mode : Merge) (begun ended : List Visit) : Prop where
  /-- What has ended had begun. -/
  begun : ∀ v ∈ ended, v.name ∈ begun.map Visit.name
  /-- What has ended could be combined. -/
  agree : Agree mode ended

/-- Further visits go on in a possible way if all that end begin and they agree. -/
theorem Progress.append (h : Progress mode begun ended) {more done : List Visit}
    (hmore : ∀ v ∈ done, v ∈ more) (hagree : Agree mode (ended ++ done)) :
    Progress mode (begun ++ more) (ended ++ done) where
  begun v hv := by
    rw [List.map_append, List.mem_append]
    rcases List.mem_append.1 hv with hv | hv
    · exact .inl (h.begun v hv)
    · exact .inr (List.mem_map_of_mem (hmore v hv))
  agree := hagree

/-- A visit that begins enters its class. -/
theorem perform_enter (h : Progress mode begun ended) (v : Visit) (place : Pointer)
    (members : Members) :
    perform mode (registryOf mode classNamespace rootName begun ended)
        (.enter v.name place members) =
      .ok (registryOf mode classNamespace rootName (begun ++ [v]) ended) := by
  have hcontains : (registryOf mode classNamespace rootName begun ended).contains v.name = true ↔
      v.name ∈ begun.map Visit.name := by
    rw [Registry.contains, find?_registryOf]
    split <;> simp_all
  rw [perform, Registry.interruptedBy, Chain.mapError_eq_ok_iff, Registry.touch]
  by_cases hold : v.name ∈ begun.map Visit.name
  · rw [if_neg (by simp [registryOf]), if_pos (hcontains.2 hold)]
    simp only [registryOf, List.map_append, List.map_singleton, eraseDups_concat, if_pos hold]
  · -- No visit of the name has ended, so that the class begins without members.
    have hnone : shapesOf ended v.name = [] := by
      rw [List.eq_nil_iff_forall_not_mem]
      intro s hs
      obtain ⟨w, hw, hname, -⟩ := mem_shapesOf_iff.1 hs
      exact hold (hname ▸ h.begun w hw)
    have hclass : classOf mode classNamespace ended v.name = .new v.name classNamespace := by
      rw [classOf, hnone]
      cases mode <;> rfl
    rw [if_neg (by simp [registryOf]), if_neg fun hc => hold (hcontains.1 hc)]
    simp only [registryOf, List.map_append, List.map_singleton, eraseDups_concat, if_neg hold,
      hclass]

/-- A visit that ends merges its shape, if it agrees with the visits that ended before. -/
theorem perform_merge_eq_ok_iff (h : Progress mode begun ended) {v : Visit}
    (hv : v.name ∈ begun.map Visit.name) {reg : Registry} :
    perform mode (registryOf mode classNamespace rootName begun ended) (.merge v.name v.shape) =
        .ok reg ↔
      Agree mode (ended ++ [v]) ∧
        reg = registryOf mode classNamespace rootName begun (ended ++ [v]) := by
  have hset : (registryOf mode classNamespace rootName begun ended).setShape v.name
      (combined mode (shapesOf ended v.name ++ [v.shape])) =
        registryOf mode classNamespace rootName begun (ended ++ [v]) := by
    simp only [Registry.setShape, Registry.update, registryOf, List.map_map]
    refine congrArg (Registry.mk _ _ · _) (List.map_congr_left fun name _ => ?_)
    by_cases hname : v.name = name
    · subst hname
      simp [classOf, EntityClass.new, shapesOf_concat]
    · simp [classOf, EntityClass.new, shapesOf_concat, hname, Ne.symm hname]
  have hmerge : ∀ merged, (combined mode (shapesOf ended v.name)).merge mode v.shape = .ok merged ↔
      _ := fun merged => merge_combined_eq_ok_iff fun hmode => agree_iff.1 h.agree hmode v.name
  rw [perform, Registry.mergeShape_eq_ok_iff, agree_concat_iff h.agree]
  simp only [find?_registryOf, if_pos hv, Option.some.injEq, exists_and_left, exists_eq_left']
  constructor
  · rintro ⟨shape, hshape, rfl⟩
    obtain ⟨hagree, rfl⟩ := (hmerge shape).1 hshape
    exact ⟨hagree, hset⟩
  · rintro ⟨hagree, rfl⟩
    exact ⟨_, (hmerge _).2 ⟨hagree, rfl⟩, hset.symm⟩

/-- What visits do one after the other, if each of them moves the registry on by its own visits. -/
theorem performAll_flatMap_course_eq_ok_iff {visits : List Visit}
    (hvisits : ∀ v ∈ visits, ∀ begun ended reg, Progress mode begun ended →
      (performAll mode (registryOf mode classNamespace rootName begun ended) v.course = .ok reg ↔
        Agree mode (ended ++ v.postorder) ∧
          reg = registryOf mode classNamespace rootName (begun ++ v.preorder)
            (ended ++ v.postorder)))
    (h : Progress mode begun ended) {reg : Registry} :
    performAll mode (registryOf mode classNamespace rootName begun ended)
        (visits.flatMap Visit.course) = .ok reg ↔
      Agree mode (ended ++ visits.flatMap Visit.postorder) ∧
        reg = registryOf mode classNamespace rootName (begun ++ visits.flatMap Visit.preorder)
          (ended ++ visits.flatMap Visit.postorder) := by
  induction visits generalizing begun ended with
  | nil => simp [performAll, pure, Except.pure, h.agree, eq_comm]
  | cons v rest ih =>
    have hrest := fun hagree : Agree mode (ended ++ v.postorder) =>
      ih (fun w hw => hvisits w (List.mem_cons_of_mem _ hw))
        (h.append (fun w (hw : w ∈ v.postorder) => Visit.mem_postorder_iff.1 hw) hagree)
    rw [List.flatMap_cons, List.flatMap_cons, List.flatMap_cons, performAll_append,
      Chain.bind_eq_ok_iff, ← List.append_assoc, ← List.append_assoc]
    constructor
    · rintro ⟨middle, hmiddle, hlast⟩
      obtain ⟨hagree, rfl⟩ := (hvisits v List.mem_cons_self begun ended middle h).1 hmiddle
      exact (hrest hagree).1 hlast
    · rintro ⟨hall, hreg⟩
      have hagree := hall.of_subset (List.subset_append_left _ _)
      exact ⟨_, (hvisits v List.mem_cons_self begun ended _ h).2 ⟨hagree, rfl⟩,
        (hrest hagree).2 ⟨hall, hreg⟩⟩

end Steps

/-- A visit whose visits are all admissible moves the registry on by them, if they agree with each
other and with those that ended before. -/
theorem performAll_course_eq_ok_iff {mode : Merge} {classNamespace rootName : String} {v : Visit}
    (hv : ∀ w ∈ v.preorder, w.Admissible) {begun ended : List Visit} {reg : Registry}
    (h : Progress mode begun ended) :
    performAll mode (registryOf mode classNamespace rootName begun ended) v.course = .ok reg ↔
      Agree mode (ended ++ v.postorder) ∧
        reg = registryOf mode classNamespace rootName (begun ++ v.preorder)
          (ended ++ v.postorder) := by
  induction v using Visit.inner_induction generalizing begun ended reg with
  | step v ih =>
    rw [Visit.preorder_eq] at hv
    obtain ⟨hadmissible, hinner⟩ := List.forall_mem_cons.1 hv
    have hbegun : Progress mode (begun ++ [v]) ended :=
      ⟨fun w hw => by simp [List.mem_map.1 (h.begun w hw)], h.agree⟩
    have hends : ∀ w ∈ v.inner.flatMap Visit.postorder, w ∈ v.inner.flatMap Visit.preorder := by
      intro w hw
      obtain ⟨u, hu, hw⟩ := List.mem_flatMap.1 hw
      exact List.mem_flatMap.2 ⟨u, hu, Visit.mem_postorder_iff.1 hw⟩
    have hparts : ∀ middle,
        performAll mode (registryOf mode classNamespace rootName (begun ++ [v]) ended)
          (v.inner.flatMap Visit.course) = .ok middle ↔ _ :=
      fun middle => performAll_flatMap_course_eq_ok_iff
        (fun u hu _ _ _ hu' => ih u hu (fun w hw => hinner w (List.mem_flatMap.2 ⟨u, hu, hw⟩)) hu')
        hbegun
    have hname : v.name ∈ (begun ++ [v] ++ v.inner.flatMap Visit.preorder).map Visit.name := by simp
    have hbegins : begun ++ v.preorder = begun ++ [v] ++ v.inner.flatMap Visit.preorder := by
      rw [Visit.preorder_eq, List.append_assoc, List.singleton_append]
    have hended : ended ++ v.postorder = ended ++ v.inner.flatMap Visit.postorder ++ [v] := by
      rw [Visit.postorder_eq, List.append_assoc]
    rw [Visit.course_of_admissible hadmissible, performAll_cons, perform_enter h, hbegins, hended]
    show performAll mode (registryOf mode classNamespace rootName (begun ++ [v]) ended)
      (v.inner.flatMap Visit.course ++ [.merge v.name v.shape]) = .ok reg ↔ _
    rw [performAll_append, Chain.bind_eq_ok_iff]
    simp only [performAll_singleton]
    constructor
    · rintro ⟨middle, hmiddle, hmerge⟩
      obtain ⟨hagree, rfl⟩ := (hparts middle).1 hmiddle
      exact (perform_merge_eq_ok_iff (hbegun.append hends hagree) hname).1 hmerge
    · rintro ⟨hall, hreg⟩
      have hagree := hall.of_subset (List.subset_append_left _ _)
      exact ⟨_, (hparts _).2 ⟨hagree, rfl⟩,
        (perform_merge_eq_ok_iff (hbegun.append hends hagree) hname).2 ⟨hall, hreg⟩⟩

/-- The inference of a document succeeds if and only if all visits are admissible and agree, and
then it gives the registry of these visits. -/
theorem inferDocument_eq_ok_iff {mode : Merge} {classNamespace rootName : String} {document : Json}
    {reg : Registry} :
    Registry.inferDocument rootName document classNamespace mode = .ok reg ↔
      (∀ v ∈ (Visit.whole rootName document).preorder, v.Admissible) ∧
      Agree mode (Visit.whole rootName document).postorder ∧
      reg = registryOf mode classNamespace rootName (Visit.whole rootName document).preorder
        (Visit.whole rootName document).postorder := by
  have hstart : Progress mode [] [] := ⟨by simp, by simp [Agree]⟩
  have hrun : Registry.inferDocument rootName document classNamespace mode = .ok reg ↔
      performAll mode (registryOf mode classNamespace rootName [] [])
        (Visit.whole rootName document).course = .ok reg := by
    rw [Registry.inferDocument, Registry.inferClass, visit_eq_performAll, Chain.mapError_eq_ok_iff]
    rfl
  rw [hrun]
  constructor
  · intro h
    have hadmissible := fun v hv => Visit.admissible_of_smooth (w := v) (smooth_of_performAll h) hv
    exact ⟨hadmissible, (performAll_course_eq_ok_iff hadmissible hstart).1 h⟩
  · rintro ⟨hadmissible, hagree, hreg⟩
    exact (performAll_course_eq_ok_iff hadmissible hstart).2 ⟨hagree, hreg⟩

/-- The class names of the registry of some visits. -/
theorem classNames_registryOf (mode : Merge) (classNamespace rootName : String)
    (begun ended : List Visit) :
    (registryOf mode classNamespace rootName begun ended).classNames =
      (begun.map Visit.name).eraseDups := by
  rw [Registry.classNames, registryOf, List.map_map]
  exact List.map_id _

/-- A class of the registry of some visits belongs to one of those that have begun. -/
theorem mem_classes_registryOf {mode : Merge} {classNamespace rootName : String}
    {begun ended : List Visit} {c : EntityClass}
    (hc : c ∈ (registryOf mode classNamespace rootName begun ended).classes) :
    c.name ∈ begun.map Visit.name ∧ c = classOf mode classNamespace ended c.name := by
  obtain ⟨name, hname, rfl⟩ := List.mem_map.1 hc
  exact ⟨List.mem_eraseDups.1 hname, rfl⟩

/-- The relationships that a visit declares start from its class. -/
theorem Visit.owner_of_mem_shape {v : Visit} {r : Relationship}
    (hr : r ∈ v.shape.relationships) : r.owner = v.name := by
  obtain ⟨⟨key, value⟩, -, hr⟩ := List.mem_filterMap.1 hr
  exact (inferred_of_relationshipOf hr).owner_eq

/-- The kind of an attribute of a class is told by the scalars that visits see under its name. -/
structure KindSeen (visits : List Visit) (a : Attribute) : Prop where
  /-- Some visit sees a scalar of the kind. -/
  seen : ∃ v ∈ visits, ∃ value, v.Sees a.name value a.kind
  /-- Every scalar that a visit sees is of the kind, unless it is null. -/
  agree : ∀ v ∈ visits, ∀ value kind, v.Sees a.name value kind → value = .null ∨ kind = a.kind
  /-- The kind is unknown if and only if all that visits see is null. -/
  any_iff : a.kind = .any ↔
    ∀ v ∈ visits, ∀ value kind, v.Sees a.name value kind → value = .null

/-- The kinds in the union of the shapes of visits are those that the visits see. -/
theorem kindSeen_of_isUnion {visits : List Visit} {s : Shape}
    (h : Shape.IsUnion (visits.map Visit.shape) s) {a : Attribute} (ha : a ∈ s.attributes) :
    KindSeen visits a := by
  have hsees : ∀ v ∈ visits, ∀ value kind, v.Sees a.name value kind →
      v.shape ∈ visits.map Visit.shape ∧ ⟨a.name, kind⟩ ∈ v.shape.attributes :=
    fun v hv value kind hsee =>
      ⟨List.mem_map_of_mem hv, Visit.mem_attributes_shape_iff.2 ⟨value, hsee⟩⟩
  have hseen : ∃ v ∈ visits, ∃ value, v.Sees a.name value a.kind := by
    have hname : a.name ∈ s.attributes.map Attribute.name := List.mem_map_of_mem ha
    rw [h.attributes, List.mem_eraseDups, List.mem_flatMap] at hname
    obtain ⟨t, ht, hname⟩ := hname
    obtain ⟨b, hb, hbname⟩ := List.mem_map.1 hname
    -- Where the kind is unknown, every attribute of the name in a shape is the attribute itself.
    obtain ⟨t, ht, hmem⟩ : ∃ t ∈ visits.map Visit.shape, a ∈ t.attributes := by
      by_cases hany : a.kind = .any
      · have hkind := h.unknown a ha hany t ht b hb hbname
        obtain rfl : b = a := by
          obtain ⟨name, kind⟩ := b
          obtain rfl : name = a.name := hbname
          obtain rfl : kind = .any := hkind
          rw [← hany]
        exact ⟨t, ht, hb⟩
      · exact (h.known a ha hany).1
    obtain ⟨v, hv, rfl⟩ := List.mem_map.1 ht
    exact ⟨v, hv, Visit.mem_attributes_shape_iff.1 hmem⟩
  have hunknown : a.kind = .any →
      ∀ v ∈ visits, ∀ value kind, v.Sees a.name value kind → value = .null := by
    intro hany v hv value kind hsee
    obtain ⟨hshape, hmem⟩ := hsees v hv value kind hsee
    exact hsee.ofKind.eq_any_iff.1 (h.unknown a ha hany _ hshape _ hmem rfl)
  refine ⟨hseen, fun v hv value kind hsee => ?_, hunknown, fun hall => ?_⟩
  · by_cases hany : a.kind = .any
    · exact .inl (hunknown hany v hv value kind hsee)
    · obtain ⟨hshape, hmem⟩ := hsees v hv value kind hsee
      exact ((h.known a ha hany).2 _ hshape _ hmem rfl).symm.imp_left hsee.ofKind.eq_any_iff.1
  · obtain ⟨v, hv, value, hsee⟩ := hseen
    exact hsee.ofKind.eq_any_iff.2 (hall v hv value a.kind hsee)

/-- The relationships of combined shapes are among those of the shapes. -/
theorem exists_shape_of_mem_combined {mode : Merge} {shapes : List Shape}
    (h : mode = .union → ∀ s ∈ shapes, ∀ t ∈ shapes, s.Compatible t) {r : Relationship}
    (hr : r ∈ (combined mode shapes).relationships) : ∃ s ∈ shapes, r ∈ s.relationships := by
  cases mode with
  | overwrite =>
    rw [combined] at hr
    cases hlast : shapes.getLast? with
    | none => simp [hlast, Shape.empty] at hr
    | some s => exact ⟨s, List.mem_of_getLast? hlast, by simpa [hlast] using hr⟩
  | union =>
    rw [combined, (Shape.isUnion_unionOf (h rfl)).relationships, List.mem_eraseDups,
      List.mem_flatMap] at hr
    exact hr

/-- Every relationship of an inferred class is declared by a visit of the class. -/
theorem exists_visit_of_mem_relationships {mode : Merge} {classNamespace rootName : String}
    {document : Json} {reg : Registry}
    (h : Registry.inferDocument rootName document classNamespace mode = .ok reg) {c : EntityClass}
    (hc : c ∈ reg.classes) {r : Relationship} (hr : r ∈ c.shape.relationships) :
    ∃ v ∈ (Visit.whole rootName document).preorder, v.name = c.name ∧
      r ∈ v.shape.relationships := by
  obtain ⟨-, hagree, rfl⟩ := inferDocument_eq_ok_iff.1 h
  obtain ⟨-, heq⟩ := mem_classes_registryOf hc
  rw [heq] at hr
  obtain ⟨s, hs, hmem⟩ :=
    exists_shape_of_mem_combined (fun hmode => agree_iff.1 hagree hmode c.name) hr
  obtain ⟨v, hv, hname, rfl⟩ := mem_shapesOf_iff.1 hs
  exact ⟨v, Visit.mem_postorder_iff.1 hv, hname, hmem⟩

/-- The class of a single object is inferred with the relationship, for the object is there. -/
theorem contains_of_single {mode : Merge} {classNamespace rootName : String} {document : Json}
    {reg : Registry}
    (h : Registry.inferDocument rootName document classNamespace mode = .ok reg) {c : EntityClass}
    (hc : c ∈ reg.classes) {r : Relationship} (hr : r ∈ c.shape.relationships)
    (hsingle : r.storage = .single) : reg.contains r.target = true := by
  obtain ⟨v, hv, -, hmem⟩ := exists_visit_of_mem_relationships h hc hr
  obtain ⟨⟨key, value⟩, hm, hdeclared⟩ := List.mem_filterMap.1 hmem
  replace hr : relationshipOf v.name key value = some r := hdeclared
  obtain ⟨-, -, rfl⟩ := inferDocument_eq_ok_iff.1 h
  rw [Registry.contains_iff, classNames_registryOf, List.mem_eraseDups]
  cases value with
  | array items => cases (Option.some.inj hr) ▸ hsingle
  | object entries =>
    rw [relationshipOf] at hr
    split at hr
    · cases (Option.some.inj hr) ▸ hsingle
    · next hkey =>
      -- The object of the member is visited under the key.
      obtain rfl := Option.some.inj hr
      have hpart : ⟨key, v.place.key key, .object entries⟩ ∈ parts v.place key (.object entries) := by
        rw [parts, if_neg hkey]
        exact List.mem_singleton_self _
      have hinner : ⟨key, v.place.key key, .object entries⟩ ∈ v.inner :=
        List.mem_flatMap.2 ⟨_, hm, hpart⟩
      exact List.mem_map.2 ⟨_, Visit.mem_preorder_of_mem_inner hv hinner, rfl⟩
  | _ => simp [relationshipOf] at hr

/-- An overwriting inference succeeds if and only if every visit of the document is of an object
that declares no name twice. It finds the names of the visits in the order in which these begin, and
the shape of each class is that of the visit of its name that ends last, whose attributes are the
scalars that this visit sees, each with its kind. -/
theorem inferDocument_overwrite (rootName classNamespace : String) (document : Json) :
    ((∃ reg, Registry.inferDocument rootName document classNamespace .overwrite = .ok reg) ↔
      ∀ v ∈ (Visit.whole rootName document).preorder, v.Admissible) ∧
    ∀ reg, Registry.inferDocument rootName document classNamespace .overwrite = .ok reg →
      reg.classNamespace = classNamespace ∧
      reg.classNames = ((Visit.whole rootName document).preorder.map Visit.name).eraseDups ∧
      ∀ c ∈ reg.classes, c.classNamespace = classNamespace ∧
        (∀ r ∈ c.shape.relationships, r.owner = c.name) ∧
        ∃ v, ((Visit.whole rootName document).postorder.filter (·.name = c.name)).getLast? =
            some v ∧
          c.shape = v.shape ∧
          ∀ a, a ∈ c.shape.attributes ↔ ∃ value, v.Sees a.name value a.kind := by
  refine ⟨⟨fun ⟨reg, h⟩ => (inferDocument_eq_ok_iff.1 h).1, fun h => ?_⟩, fun reg h => ?_⟩
  · exact ⟨_, inferDocument_eq_ok_iff.2 ⟨h, nofun, rfl⟩⟩
  · obtain ⟨-, -, rfl⟩ := inferDocument_eq_ok_iff.1 h
    refine ⟨rfl, classNames_registryOf _ _ _ _ _, fun c hc => ?_⟩
    obtain ⟨hname, heq⟩ := mem_classes_registryOf hc
    obtain ⟨w, hw, hwname⟩ := List.mem_map.1 hname
    -- A visit that begins also ends, so that one of the name ends last.
    have hw' : w ∈ (Visit.whole rootName document).postorder.filter (·.name = c.name) :=
      List.mem_filter.2 ⟨Visit.mem_postorder_iff.2 hw, by simpa using hwname⟩
    obtain ⟨v, hv⟩ : ∃ v,
        ((Visit.whole rootName document).postorder.filter (·.name = c.name)).getLast? = some v :=
      ⟨_, List.getLast?_eq_some_getLast (List.ne_nil_of_mem hw')⟩
    have hshape : c.shape = v.shape := by
      rw [heq]
      simp [classOf, combined, shapesOf, List.getLast?_map, hv]
    have hvname : v.name = c.name := by
      simpa using (List.mem_filter.1 (List.mem_of_getLast? hv)).2
    refine ⟨by rw [heq]; rfl, fun r hr => ?_, v, hv, hshape, fun a => ?_⟩
    · rw [hshape] at hr
      rw [Visit.owner_of_mem_shape hr, hvname]
    · rw [hshape]
      exact Visit.mem_attributes_shape_iff

/-- A document whose class is met inside itself and again behind that. -/
def nestedNodes : Json :=
  .object [
    ("id", .string "a"),
    ("node", .object [("label", .null), ("nodes", .array [.object [("id", .null)]])])]

/-- The class of these nodes as the outermost of them declares it. -/
def nestedNode : EntityClass :=
  { EntityClass.new "node" "" with
    shape := ⟨[⟨"id", .string⟩], [⟨"node", "node", "node", .single, "node"⟩]⟩ }

/-- A class that is met inside itself has the shape of the visit that ends last. -/
theorem inferDocument_overwrite_nestedNodes :
    ∃ reg, Registry.inferDocument "node" nestedNodes "" .overwrite = .ok reg ∧
      reg.classes = [nestedNode] ∧
      reg.classNames = ((Visit.whole "node" nestedNodes).preorder.map Visit.name).eraseDups ∧
      ∀ c ∈ reg.classes, ∃ v,
        ((Visit.whole "node" nestedNodes).postorder.filter (·.name = c.name)).getLast? = some v ∧
          c.shape = v.shape ∧
          ∀ a, a ∈ c.shape.attributes ↔ ∃ value, v.Sees a.name value a.kind := by
  have hok : (Registry.inferDocument "node" nestedNodes "" .overwrite).toOption.any
      (·.classes = [nestedNode]) = true := by
    decide +kernel
  obtain ⟨reg, hreg, hfound⟩ := Chain.exists_of_any hok
  obtain ⟨-, hnames, hclasses⟩ := (inferDocument_overwrite "node" "" nestedNodes).2 reg hreg
  exact ⟨reg, hreg, of_decide_eq_true hfound, hnames, fun c hc => (hclasses c hc).2.2⟩

/-- A uniting inference succeeds if and only if every visit of the document is of an object that
declares no name twice, and the shapes of every two visits of one name are compatible. It finds the
names of the visits in the order in which these begin, and the shape of each class is the union of
those of the visits of its name, in the order in which these end. The kinds of its attributes are
those of the scalars that these visits see. -/
theorem inferDocument_union (rootName classNamespace : String) (document : Json) :
    ((∃ reg, Registry.inferDocument rootName document classNamespace .union = .ok reg) ↔
      (∀ v ∈ (Visit.whole rootName document).preorder, v.Admissible) ∧
      ∀ v ∈ (Visit.whole rootName document).preorder,
        ∀ w ∈ (Visit.whole rootName document).preorder,
          v.name = w.name → v.shape.Compatible w.shape) ∧
    ∀ reg, Registry.inferDocument rootName document classNamespace .union = .ok reg →
      reg.classNamespace = classNamespace ∧
      reg.classNames = ((Visit.whole rootName document).preorder.map Visit.name).eraseDups ∧
      ∀ c ∈ reg.classes, c.classNamespace = classNamespace ∧
        Shape.IsUnion (((Visit.whole rootName document).postorder.filter (·.name = c.name)).map
          Visit.shape) c.shape ∧
        ∀ a ∈ c.shape.attributes,
          KindSeen ((Visit.whole rootName document).postorder.filter (·.name = c.name)) a := by
  have hagree : Agree .union (Visit.whole rootName document).postorder ↔
      ∀ v ∈ (Visit.whole rootName document).preorder,
        ∀ w ∈ (Visit.whole rootName document).preorder,
          v.name = w.name → v.shape.Compatible w.shape := by
    simp only [Agree, Visit.mem_postorder_iff, true_implies]
  rw [← hagree]
  refine ⟨⟨fun ⟨reg, h⟩ => ?_, fun ⟨hadmissible, hall⟩ => ?_⟩, fun reg h => ?_⟩
  · obtain ⟨hadmissible, hall, -⟩ := inferDocument_eq_ok_iff.1 h
    exact ⟨hadmissible, hall⟩
  · exact ⟨_, inferDocument_eq_ok_iff.2 ⟨hadmissible, hall, rfl⟩⟩
  · obtain ⟨-, hall, rfl⟩ := inferDocument_eq_ok_iff.1 h
    refine ⟨rfl, classNames_registryOf _ _ _ _ _, fun c hc => ?_⟩
    obtain ⟨-, heq⟩ := mem_classes_registryOf hc
    have hunion : Shape.IsUnion (((Visit.whole rootName document).postorder.filter
        (·.name = c.name)).map Visit.shape) c.shape := by
      rw [heq]
      exact Shape.isUnion_unionOf (agree_iff.1 hall rfl c.name)
    exact ⟨by rw [heq]; rfl, hunion, fun a ha => kindSeen_of_isUnion hunion ha⟩

/-- A document whose own class is that of its items, which declare different attributes. -/
def unevenItems : Json :=
  .object [
    ("b", .null),
    ("items", .array [
      .object [("a", .null), ("items", .array [.object [("a", .string "x"), ("b", .bool true)]])],
      .object [("b", .null), ("c", .null)]])]

/-- The class of these items, with the members of all of them. -/
def unevenItem : EntityClass :=
  { EntityClass.new "item" "" with
    shape := ⟨[⟨"a", .string⟩, ⟨"b", .boolean⟩, ⟨"c", .any⟩],
      [⟨"item", "item", "item", .sequence, "items"⟩]⟩ }

/-- The class of the items has the union of their shapes. -/
theorem inferDocument_union_unevenItems :
    ∃ reg, Registry.inferDocument "item" unevenItems "" .union = .ok reg ∧
      reg.classes = [unevenItem] ∧
      reg.classNames = ((Visit.whole "item" unevenItems).preorder.map Visit.name).eraseDups ∧
      ∀ c ∈ reg.classes,
        Shape.IsUnion (((Visit.whole "item" unevenItems).postorder.filter (·.name = c.name)).map
          Visit.shape) c.shape ∧
        ∀ a ∈ c.shape.attributes,
          KindSeen ((Visit.whole "item" unevenItems).postorder.filter (·.name = c.name)) a := by
  have hok : (Registry.inferDocument "item" unevenItems "" .union).toOption.any
      (·.classes = [unevenItem]) = true := by
    decide +kernel
  obtain ⟨reg, hreg, hfound⟩ := Chain.exists_of_any hok
  obtain ⟨-, hnames, hclasses⟩ := (inferDocument_union "item" "" unevenItems).2 reg hreg
  exact ⟨reg, hreg, of_decide_eq_true hfound, hnames, fun c hc => (hclasses c hc).2⟩

end DocSchema.Inference
