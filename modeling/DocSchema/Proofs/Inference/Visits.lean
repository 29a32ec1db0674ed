import DocSchema.Proofs.Inference.Shapes

/-!
# The visits of a document

A visit of an object has the visits of its parts inside it. `Visit.preorder` lists a visit before
those inside it, which is the order in which visits begin, and `Visit.postorder` lists it behind
them, which is the order in which visits end. What an object declares is its `Visit.shape`, and the
visit is `Visit.Admissible` if the fragment is an object that declares no name twice. These are read
off the document, without a registry. Every action of a course is that of one of the visits
(`Visit.exists_own_of_mem_course`). In a smooth course all visits are admissible
(`Visit.admissible_of_smooth`), and `Visit.course_of_admissible` says what an admissible visit does.
-/

namespace DocSchema.Inference

/-- The name that a member declares: that of the class a relationship leads to, or its key. -/
def declaredName (key : String) : Json → String
  | .array _ => relatedClassName listStart key
  | .object _ => if Text.startsWith tableStart key then relatedClassName tableStart key else key
  | _ => key

namespace Visit

/-- The visit of a whole document under the root name. -/
def whole (rootName : String) (document : Json) : Visit := ⟨rootName, .root, document⟩

/-- The members of the fragment, if it is an object. -/
def members (v : Visit) : Members :=
  match v.fragment with
  | .object members => members
  | _ => []

/-- The visits directly inside a visit: those of the parts of its members. -/
def inner (v : Visit) : List Visit :=
  v.members.flatMap fun (key, value) => parts v.place key value

/-- A visit inside another one is of a smaller fragment. -/
theorem sizeOf_inner_lt {v w : Visit} (h : w ∈ v.inner) :
    sizeOf w.fragment < sizeOf v.fragment := by
  obtain ⟨⟨key, value⟩, hm, hw⟩ := List.mem_flatMap.1 h
  obtain ⟨name, here, fragment⟩ := v
  cases fragment with
  | object members => exact sizeOf_part_lt hm hw
  | _ => simp [members] at hm

/-- A visit and all visits inside it, in the order in which they begin. -/
def preorder (v : Visit) : List Visit := v :: v.inner.attach.flatMap fun w => w.1.preorder
termination_by sizeOf v.fragment
decreasing_by exact sizeOf_inner_lt w.2

/-- A visit and all visits inside it, in the order in which they end. -/
def postorder (v : Visit) : List Visit := (v.inner.attach.flatMap fun w => w.1.postorder) ++ [v]
termination_by sizeOf v.fragment
decreasing_by exact sizeOf_inner_lt w.2

/-- A visit begins before those inside it. -/
theorem preorder_eq (v : Visit) : v.preorder = v :: v.inner.flatMap preorder := by
  rw [preorder]
  simp

/-- A visit ends after those inside it. -/
theorem postorder_eq (v : Visit) : v.postorder = v.inner.flatMap postorder ++ [v] := by
  rw [postorder]
  simp

/-- A visit is the first to begin. -/
theorem mem_preorder_self (v : Visit) : v ∈ v.preorder := by
  rw [preorder_eq]
  exact List.mem_cons_self

/-- What begins inside a visit inside another one begins inside that. -/
theorem mem_preorder_of_inner {v u w : Visit} (hu : u ∈ v.inner) (hw : w ∈ u.preorder) :
    w ∈ v.preorder := by
  rw [preorder_eq]
  exact List.mem_cons_of_mem _ (List.mem_flatMap.2 ⟨u, hu, hw⟩)

/-- The parts of the members of an object are visited inside it. -/
theorem mem_inner_of_part {v w : Visit} {members : Members} (hobject : v.fragment = .object members)
    {key : String} {value : Json} (hm : (key, value) ∈ members)
    (hw : w ∈ parts v.place key value) : w ∈ v.inner := by
  rw [inner, Visit.members, hobject]
  exact List.mem_flatMap.2 ⟨(key, value), hm, hw⟩

/-- A visit inside another one is that of a part of a member of its object. -/
theorem exists_part_of_mem_inner {v w : Visit} (hw : w ∈ v.inner) :
    ∃ members key value, v.fragment = .object members ∧ (key, value) ∈ members ∧
      w ∈ parts v.place key value := by
  obtain ⟨⟨key, value⟩, hm, hpart⟩ := List.mem_flatMap.1 hw
  obtain ⟨name, here, fragment⟩ := v
  cases fragment with
  | object members => exact ⟨members, key, value, rfl, hm, hpart⟩
  | _ => simp [Visit.members] at hm

/-- What a visit does itself, beside the visits inside it. -/
inductive Own (v : Visit) : Action → Prop where
  /-- It enters a class for its object. -/
  | enter {members : Members} (hobject : v.fragment = .object members) :
    v.Own (.enter v.name v.place members)
  /-- It merges the shape of its object. -/
  | merge {members : Members} {shape : Shape} (hobject : v.fragment = .object members)
    (hshape : shapeFrom v.name .empty members = .ok shape) : v.Own (.merge v.name shape)
  /-- It stops at a name that comes twice. -/
  | conflict (conflict : Conflict) : v.Own (.refuse (.schemaConflict v.name conflict))
  /-- It stops at a fragment that is no object. -/
  | unsupported (hobject : ∀ members, v.fragment ≠ .object members) :
    v.Own (.refuse (.unsupportedFragment v.name v.place v.fragment.kindName))

/-- Every action of the course of a visit is its own or that of a visit inside it. -/
theorem exists_own_of_mem_course {v : Visit} {a : Action} (ha : a ∈ v.course) :
    ∃ w ∈ v.preorder, w.Own a := by
  induction v using visit_induction with
  | other v hobject =>
    refine ⟨v, mem_preorder_self v, ?_⟩
    obtain ⟨name, here, fragment⟩ := v
    cases fragment with
    | object members => exact absurd rfl (hobject members)
    | _ =>
      obtain rfl := List.mem_singleton.1 ha
      exact .unsupported hobject
  | object name here members ih =>
    rcases mem_course_object ha with rfl | ⟨shape, hshape, rfl⟩ | ⟨conflict, rfl⟩ |
      ⟨key, value, hm, w, hw, hpart⟩
    · exact ⟨_, mem_preorder_self _, .enter rfl⟩
    · exact ⟨_, mem_preorder_self _, .merge rfl hshape⟩
    · exact ⟨_, mem_preorder_self _, .conflict conflict⟩
    · obtain ⟨u, hu, hown⟩ := ih key value hm w hw hpart
      exact ⟨u, mem_preorder_of_inner (mem_inner_of_part rfl hm hw) hu, hown⟩

/-- The members that the fragment declares, in order. -/
def shape (v : Visit) : Shape where
  attributes := v.members.filterMap fun (key, value) => attributeOf key value
  relationships := v.members.filterMap fun (key, value) => relationshipOf v.name key value

/-- A visit sees a scalar of a kind under a key. -/
structure Sees (v : Visit) (key : String) (value : Json) (kind : Kind) : Prop where
  /-- The value is that of a member of the object. -/
  mem : (key, value) ∈ v.members
  /-- It is of the kind. -/
  ofKind : value.OfKind kind

/-- The attributes that a visit declares are the scalars that it sees, with their kinds. -/
theorem mem_attributes_shape_iff {v : Visit} {a : Attribute} :
    a ∈ v.shape.attributes ↔ ∃ value, v.Sees a.name value a.kind := by
  constructor
  · intro ha
    obtain ⟨⟨key, value⟩, hm, hattribute⟩ := List.mem_filterMap.1 ha
    obtain ⟨kind, hkind, rfl⟩ := Option.map_eq_some_iff.1 hattribute
    exact ⟨value, hm, Kind.of?_eq_some_iff.1 hkind⟩
  · rintro ⟨value, hm, hkind⟩
    refine List.mem_filterMap.2 ⟨(a.name, value), hm, ?_⟩
    exact Option.map_eq_some_iff.2 ⟨a.kind, Kind.of?_eq_some_iff.2 hkind, rfl⟩

/-- The fragment of a visit can be that of a class. -/
structure Admissible (v : Visit) : Prop where
  /-- It is an object. -/
  object : ∃ members, v.fragment = .object members
  /-- It declares no name twice. -/
  nodup : (v.members.map fun (key, value) => declaredName key value).Nodup

/-- What holds of a visit if it holds of all visits directly inside it holds of every visit. -/
theorem inner_induction {P : Visit → Prop} (step : ∀ v : Visit, (∀ w ∈ v.inner, P w) → P v)
    (v : Visit) : P v :=
  step v fun w _ => inner_induction step w
termination_by sizeOf v.fragment
decreasing_by exact sizeOf_inner_lt ‹_›

/-- A visit directly inside one that begins inside another one begins inside that. -/
theorem mem_preorder_of_mem_inner {v u w : Visit} (hu : u ∈ v.preorder) (hw : w ∈ u.inner) :
    w ∈ v.preorder := by
  induction v using inner_induction with
  | step v ih =>
    rw [preorder_eq] at hu
    rcases List.mem_cons.1 hu with rfl | hinside
    · exact mem_preorder_of_inner hw (mem_preorder_self w)
    · obtain ⟨x, hx, hxu⟩ := List.mem_flatMap.1 hinside
      exact mem_preorder_of_inner hx (ih x hx hxu)

/-- The same visits begin and end. -/
theorem mem_postorder_iff {v w : Visit} : w ∈ v.postorder ↔ w ∈ v.preorder := by
  induction v using inner_induction with
  | step v ih =>
    rw [preorder_eq v, postorder_eq v, List.mem_append, List.mem_singleton, List.mem_cons, or_comm]
    refine or_congr_right ?_
    rw [List.mem_flatMap, List.mem_flatMap]
    exact exists_congr fun u => and_congr_right fun hu => ih u hu

end Visit

/-- A relationship has the name that its member declares. -/
theorem name_of_relationshipOf {owner key : String} {value : Json} {r : Relationship}
    (h : relationshipOf owner key value = some r) : r.name = declaredName key value := by
  cases value with
  | array items => exact Option.some.inj h ▸ rfl
  | object entries =>
    rw [relationshipOf] at h
    rw [declaredName]
    split at h
    · next hkey =>
      rw [if_pos hkey, ← Option.some.inj h]
      rfl
    · next hkey =>
      rw [if_neg hkey, ← Option.some.inj h]
      rfl
  | _ => simp [relationshipOf] at h

/-- An attribute has the name that its member declares. -/
theorem name_of_attributeOf {key : String} {value : Json} {a : Attribute}
    (h : attributeOf key value = some a) : a.name = declaredName key value := by
  obtain ⟨kind, hkind, rfl⟩ := Option.map_eq_some_iff.1 h
  cases value <;> simp [Kind.of?, declaredName] at hkind ⊢

/-- A shape with what one more member stands for. -/
def withMember (owner : String) (shape : Shape) (key : String) (value : Json) : Shape where
  attributes := shape.attributes ++ (attributeOf key value).toList
  relationships := shape.relationships ++ (relationshipOf owner key value).toList

/-- A member adds the name that it declares. -/
theorem mem_memberNames_withMember {owner key name : String} {shape : Shape} {value : Json} :
    name ∈ (withMember owner shape key value).memberNames ↔
      name ∈ shape.memberNames ∨ name = declaredName key value := by
  have hnames : name = declaredName key value ↔
      name ∈ (attributeOf key value).toList.map Attribute.name ∨
        name ∈ (relationshipOf owner key value).toList.map Relationship.name := by
    cases hr : relationshipOf owner key value with
    | some r =>
      have hnone : attributeOf key value = none := by
        rw [Option.eq_none_iff_forall_ne_some]
        exact fun a ha => by simp [relationshipOf_eq_none_iff.2 ⟨a, ha⟩] at hr
      simp [hnone, name_of_relationshipOf hr]
    | none =>
      obtain ⟨a, ha⟩ := relationshipOf_eq_none_iff.1 hr
      simp [ha, name_of_attributeOf ha]
  rw [hnames]
  simp only [withMember, Shape.memberNames, List.map_append, List.mem_append]
  tauto

/-- A member can be added if and only if the name that it declares is free. -/
theorem addMember_eq_ok_iff {owner key : String} {shape added : Shape} {value : Json} :
    addMember owner shape key value = .ok added ↔
      declaredName key value ∉ shape.memberNames ∧ added = withMember owner shape key value := by
  rw [addMember, withMember]
  cases hr : relationshipOf owner key value with
  | some r =>
    have hnone : attributeOf key value = none := by
      rw [Option.eq_none_iff_forall_ne_some]
      exact fun a ha => by simp [relationshipOf_eq_none_iff.2 ⟨a, ha⟩] at hr
    simp [Shape.addRelationship_eq_ok_iff, hnone, name_of_relationshipOf hr]
  | none =>
    obtain ⟨a, ha⟩ := relationshipOf_eq_none_iff.1 hr
    obtain ⟨kind, hkind, rfl⟩ := Option.map_eq_some_iff.1 ha
    have hname : key = declaredName key value := name_of_attributeOf ha
    simp [addScalar, hkind, ha, Shape.addAttribute_eq_ok_iff, ← hname]

/-- The members of an object can be added to a shape if and only if the names that they declare are
free, and none of them comes twice. -/
theorem shapeFrom_eq_ok_iff {owner : String} {shape added : Shape} {members : Members} :
    shapeFrom owner shape members = .ok added ↔
      ((members.map fun (key, value) => declaredName key value).Nodup ∧
        ∀ name ∈ members.map fun (key, value) => declaredName key value,
          name ∉ shape.memberNames) ∧
      added = members.foldl (fun shape (key, value) => withMember owner shape key value) shape := by
  induction members generalizing shape with
  | nil => simp [shapeFrom, pure, Except.pure, eq_comm]
  | cons m rest ih =>
    obtain ⟨key, value⟩ := m
    rw [shapeFrom_cons, Chain.bind_eq_ok_iff]
    simp only [addMember_eq_ok_iff, ih, List.map_cons, List.nodup_cons, List.foldl_cons,
      List.forall_mem_cons]
    constructor
    · rintro ⟨_, ⟨hfree, rfl⟩, ⟨hnodup, hrest⟩, hadded⟩
      simp only [mem_memberNames_withMember, not_or] at hrest
      exact ⟨⟨⟨fun h => (hrest _ h).2 rfl, hnodup⟩, hfree, fun name h => (hrest name h).1⟩, hadded⟩
    · rintro ⟨⟨⟨hnew, hnodup⟩, hfree, hrest⟩, hadded⟩
      refine ⟨_, ⟨hfree, rfl⟩, ⟨hnodup, fun name h => ?_⟩, hadded⟩
      rw [mem_memberNames_withMember, not_or]
      exact ⟨hrest name h, fun heq => hnew (heq ▸ h)⟩

/-- Members that are added in order are the last attributes and the last relationships. -/
theorem foldl_withMember (owner : String) (shape : Shape) (members : Members) :
    members.foldl (fun shape (key, value) => withMember owner shape key value) shape =
      ⟨shape.attributes ++ members.filterMap fun (key, value) => attributeOf key value,
        shape.relationships ++
          members.filterMap fun (key, value) => relationshipOf owner key value⟩ := by
  induction members generalizing shape with
  | nil => simp
  | cons m rest ih =>
    obtain ⟨key, value⟩ := m
    rw [List.foldl_cons, ih]
    simp only [withMember]
    cases ha : attributeOf key value <;> cases hr : relationshipOf owner key value <;> simp [ha, hr]

/-- A visit whose object declares no name twice builds the shape of the visit, and no other visit
builds a shape. -/
theorem Visit.shapeFrom_eq_ok_iff {v : Visit} {s : Shape} :
    shapeFrom v.name .empty v.members = .ok s ↔
      (v.members.map fun (key, value) => declaredName key value).Nodup ∧ s = v.shape := by
  rw [Inference.shapeFrom_eq_ok_iff, foldl_withMember, Visit.shape]
  simp [Shape.empty, Shape.memberNames]

/-- Where the members of an object have a shape, their parts are visited in order, and the shape is
merged last. -/
theorem membersCourse_of_shapeFrom {owner : String} {here : Pointer} {shape s : Shape}
    {members : Members} (h : shapeFrom owner shape members = .ok s) :
    membersCourse owner here shape members =
      members.flatMap (fun (key, value) => (parts here key value).flatMap Visit.course) ++
        [.merge owner s] := by
  induction members generalizing shape with
  | nil =>
    obtain rfl := Except.ok.inj h
    rfl
  | cons m rest ih =>
    obtain ⟨key, value⟩ := m
    rw [shapeFrom_cons] at h
    obtain ⟨next, hstep, hrest⟩ := Chain.bind_eq_ok_iff.1 h
    rw [membersCourse, hstep]
    simp only [ih hrest, partsCourse_eq_flatMap, List.flatMap_cons, List.append_assoc]

namespace Visit

/-- An admissible visit enters its class, makes the visits inside it and merges its shape. -/
theorem course_of_admissible {v : Visit} (h : v.Admissible) :
    v.course = .enter v.name v.place v.members ::
      (v.inner.flatMap course ++ [.merge v.name v.shape]) := by
  have hshape := shapeFrom_eq_ok_iff.2 ⟨h.nodup, rfl⟩
  obtain ⟨members, hobject⟩ := h.object
  obtain ⟨name, here, fragment⟩ := v
  obtain rfl : fragment = .object members := hobject
  rw [inner, List.flatMap_assoc, course, Inference.course]
  exact congrArg _ (membersCourse_of_shapeFrom hshape)

/-- The visits of a smooth course are admissible. -/
theorem admissible_of_smooth {v w : Visit} (h : Smooth v.course) (hw : w ∈ v.preorder) :
    w.Admissible := by
  induction v using inner_induction with
  | step v ih =>
    obtain ⟨members, s, hobject, hs, -⟩ := course_of_smooth h
    rw [preorder_eq] at hw
    rcases List.mem_cons.1 hw with rfl | hinner
    · have hmembers : w.members = members := by rw [Visit.members, hobject]
      rw [← hmembers] at hs
      exact ⟨⟨members, hobject⟩, (shapeFrom_eq_ok_iff.1 hs).1⟩
    · obtain ⟨u, hu, hw⟩ := List.mem_flatMap.1 hinner
      obtain ⟨_, _, _, hobject, hm, hpart⟩ := exists_part_of_mem_inner hu
      have hsub := course_part_subset h hobject hm hpart
      exact ih u hu (fun failure hf => h failure (hsub hf)) hw

end Visit

end DocSchema.Inference
