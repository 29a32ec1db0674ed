import DocSchema.Proofs.Chain
import DocSchema.Proofs.Inference.Parts

/-!
# The course of an inference

What a visit does to a registry depends on the fragment alone: it enters a class for every object
on the way down, merges the shape of the object on the way up, and stops where a fragment is no
object or a member name comes twice. `course` lists these actions, and `visit_eq_performAll` says
that a visit performs them one after the other. A run that succeeds has no refusal in its course,
and then the course holds the courses of all parts of every object in it (`course_part_subset`).
-/

namespace DocSchema.Inference

/-- What a visit does to the registry. -/
inductive Action where
  /-- Enters a class for the object at a place. -/
  | enter (name : String) (place : Pointer) (members : Members)
  /-- Merges the shape of an object into its class. -/
  | merge (name : String) (shape : Shape)
  /-- Stops. -/
  | refuse (failure : Failure)

/-- The shape with one more member. -/
def addMember (owner : String) (shape : Shape) (key : String) (value : Json) :
    Except Conflict Shape :=
  match relationshipOf owner key value with
  | some r => shape.addRelationship r
  | none => addScalar shape key value

mutual

/-- The actions of a visit, in order. -/
def course (name : String) (here : Pointer) : Json → List Action
  | .object members => .enter name here members :: membersCourse name here .empty members
  | other => [.refuse (.unsupportedFragment name here other.kindName)]
termination_by structural fragment => fragment

/-- The actions for the members of an object, after a shape from the members before them. -/
def membersCourse (owner : String) (here : Pointer) (shape : Shape) : Members → List Action
  | [] => [.merge owner shape]
  | (key, value) :: rest =>
    match addMember owner shape key value with
    | .ok shape => partsCourse (here.key key) key value ++ membersCourse owner here shape rest
    | .error conflict => [.refuse (.schemaConflict owner conflict)]
termination_by structural members => members

/-- The actions for the parts of the member at a place. -/
def partsCourse (here : Pointer) (key : String) : Json → List Action
  | .array items => itemsCourse (relatedClassName listStart key) here 0 items
  | .object entries =>
    if Text.startsWith tableStart key then
      entriesCourse (relatedClassName tableStart key) here entries
    else .enter key here entries :: membersCourse key here .empty entries
  | _ => []
termination_by structural value => value

/-- The actions for the items of an array, the first of them at a position. -/
def itemsCourse (name : String) (here : Pointer) (position : Nat) : List Json → List Action
  | [] => []
  | item :: rest =>
    course name (here.index position) item ++ itemsCourse name here (position + 1) rest
termination_by structural items => items

/-- The actions for the entries of a table. -/
def entriesCourse (name : String) (here : Pointer) : Members → List Action
  | [] => []
  | (key, value) :: rest => course name (here.key key) value ++ entriesCourse name here rest
termination_by structural entries => entries

end

/-- Performs an action on a registry. -/
def perform (mode : Merge) (reg : Registry) : Action → Except Interrupted Registry
  | .enter name _ _ => reg.interruptedBy (reg.touch name)
  | .merge name shape => reg.mergeShape name shape mode
  | .refuse failure => .error ⟨failure, reg⟩

/-- Performs actions one after the other, up to the first that fails. -/
def performAll (mode : Merge) (reg : Registry) (actions : List Action) :
    Except Interrupted Registry :=
  actions.foldlM (perform mode) reg

/-- Actions after others are performed on what these leave. -/
theorem performAll_append (mode : Merge) (reg : Registry) (front back : List Action) :
    performAll mode reg (front ++ back) =
      performAll mode reg front >>= fun reg => performAll mode reg back :=
  List.foldlM_append

/-- The first of several actions comes first. -/
theorem performAll_cons (mode : Merge) (reg : Registry) (a : Action) (rest : List Action) :
    performAll mode reg (a :: rest) =
      perform mode reg a >>= fun reg => performAll mode reg rest :=
  List.foldlM_cons

/-- One action alone. -/
theorem performAll_singleton (mode : Merge) (reg : Registry) (a : Action) :
    performAll mode reg [a] = perform mode reg a := by
  rw [performAll_cons]
  exact bind_pure _

-- The inductions are on the fragment and follow the functions that visit it. The shape of an object
-- that is still open is part of the state, so the members are followed up to the merge of the shape.
mutual

/-- A visit performs the actions of its course. -/
theorem visit_eq_performAll (mode : Merge) (name : String) (here : Pointer) (reg : Registry) :
    ∀ fragment : Json,
      visit mode name here reg fragment = performAll mode reg (course name here fragment)
  | .object members => by
    rw [visit, course, performAll_cons]
    exact bind_congr fun reg => visitMembers_eq_performAll mode name here .empty reg members
  | .null | .bool _ | .number _ | .string _ | .array _ => rfl

/-- The visit of the members of an object, with the merge at its end, performs their actions. -/
theorem visitMembers_eq_performAll (mode : Merge) (owner : String) (here : Pointer)
    (shape : Shape) (reg : Registry) : ∀ members : Members,
      (visitMembers mode owner here shape reg members >>= fun p =>
        p.2.mergeShape owner p.1 mode) =
          performAll mode reg (membersCourse owner here shape members)
  | [] => by
    rw [membersCourse, performAll_singleton]
    rfl
  | (key, .array items) :: rest => by
    rw [visitMembers, membersCourse]
    simp only [addMember, relationshipOf]
    cases shape.addRelationship (listRelationship owner key) with
    | error conflict => rfl
    | ok shape =>
      rw [performAll_append, partsCourse, ← visitItems_eq_performAll mode _ _ 0 reg items]
      simp only [← visitMembers_eq_performAll mode owner here shape _ rest]
      exact bind_assoc (visitItems mode _ (here.key key) 0 reg items) _ _
  | (key, .object entries) :: rest => by
    rw [visitMembers, membersCourse]
    by_cases hkey : Text.startsWith tableStart key = true
    · simp only [addMember, relationshipOf, if_pos hkey]
      cases shape.addRelationship (tableRelationship owner key entries) with
      | error conflict => rfl
      | ok shape =>
        rw [performAll_append, partsCourse, if_pos hkey,
          ← visitEntries_eq_performAll mode _ _ reg entries]
        simp only [← visitMembers_eq_performAll mode owner here shape _ rest]
        exact bind_assoc (visitEntries mode _ (here.key key) reg entries) _ _
    · simp only [addMember, relationshipOf, if_neg hkey]
      cases shape.addRelationship (nestedRelationship owner key) with
      | error conflict => rfl
      | ok shape =>
        rw [performAll_append, partsCourse, if_neg hkey, ← course,
          ← visit_eq_performAll mode key (here.key key) reg (.object entries)]
        simp only [← visitMembers_eq_performAll mode owner here shape _ rest]
        exact bind_assoc (visit mode key (here.key key) reg (.object entries)) _ _
  | (key, .null) :: rest | (key, .bool _) :: rest | (key, .number _) :: rest
  | (key, .string _) :: rest => by
    rw [visitMembers, membersCourse]
    · simp only [addMember, relationshipOf]
      cases addScalar shape key _ with
      | error conflict => rfl
      | ok shape => exact visitMembers_eq_performAll mode owner here shape reg rest
    · nofun
    · nofun

/-- The visit of the items of an array performs their actions. -/
theorem visitItems_eq_performAll (mode : Merge) (name : String) (here : Pointer) (position : Nat)
    (reg : Registry) : ∀ items : List Json,
      visitItems mode name here position reg items =
        performAll mode reg (itemsCourse name here position items)
  | [] => rfl
  | item :: rest => by
    rw [visitItems, itemsCourse, performAll_append, visit_eq_performAll mode name _ reg item]
    exact bind_congr fun reg => visitItems_eq_performAll mode name here (position + 1) reg rest

/-- The visit of the entries of a table performs their actions. -/
theorem visitEntries_eq_performAll (mode : Merge) (name : String) (here : Pointer)
    (reg : Registry) : ∀ entries : Members,
      visitEntries mode name here reg entries =
        performAll mode reg (entriesCourse name here entries)
  | [] => rfl
  | (key, value) :: rest => by
    rw [visitEntries, entriesCourse, performAll_append, visit_eq_performAll mode name _ reg value]
    exact bind_congr fun reg => visitEntries_eq_performAll mode name here reg rest

end

/-- The actions of a visit that is still to be made. -/
def Visit.course (v : Visit) : List Action := Inference.course v.name v.place v.fragment

/-- The actions for the items of an array are those of their visits. -/
theorem itemsCourse_eq_flatMap (name : String) (here : Pointer) (position : Nat)
    (items : List Json) :
    itemsCourse name here position items =
      ((items.zipIdx position).map fun (item, position) =>
        (⟨name, here.index position, item⟩ : Visit)).flatMap Visit.course := by
  induction items generalizing position with
  | nil => rfl
  | cons item rest ih =>
    rw [itemsCourse, ih (position + 1)]
    rfl

/-- The actions for the entries of a table are those of their visits. -/
theorem entriesCourse_eq_flatMap (name : String) (here : Pointer) (entries : Members) :
    entriesCourse name here entries =
      (entries.map fun (key, value) =>
        (⟨name, here.key key, value⟩ : Visit)).flatMap Visit.course := by
  induction entries with
  | nil => rfl
  | cons entry rest ih =>
    rw [entriesCourse, ih]
    rfl

/-- The actions for the parts of a member are those of their visits. -/
theorem partsCourse_eq_flatMap (here : Pointer) (key : String) (value : Json) :
    partsCourse (here.key key) key value = (parts here key value).flatMap Visit.course := by
  cases value with
  | array items => exact itemsCourse_eq_flatMap _ _ 0 items
  | object entries =>
    rw [partsCourse, parts]
    split
    · exact entriesCourse_eq_flatMap _ _ entries
    · rw [List.flatMap_singleton, Visit.course, course]
  | _ => rfl

/-- A shape with the members of an object added in order. -/
def shapeFrom (owner : String) (shape : Shape) (members : Members) : Except Conflict Shape :=
  members.foldlM (fun shape (key, value) => addMember owner shape key value) shape

/-- The first member is added first. -/
theorem shapeFrom_cons (owner : String) (shape : Shape) (key : String) (value : Json)
    (rest : Members) :
    shapeFrom owner shape ((key, value) :: rest) =
      addMember owner shape key value >>= fun shape => shapeFrom owner shape rest :=
  List.foldlM_cons

/-- An action for the members of an object merges their shape, refuses a name that comes twice, or
belongs to the visit of a part. -/
theorem mem_membersCourse {owner : String} {here : Pointer} {shape : Shape} {members : Members}
    {a : Action} (ha : a ∈ membersCourse owner here shape members) :
    (∃ s, shapeFrom owner shape members = .ok s ∧ a = .merge owner s) ∨
      (∃ conflict, a = .refuse (.schemaConflict owner conflict)) ∨
      ∃ key value, (key, value) ∈ members ∧ ∃ v ∈ parts here key value, a ∈ v.course := by
  induction members generalizing shape with
  | nil => exact .inl ⟨shape, rfl, List.mem_singleton.1 ha⟩
  | cons m rest ih =>
    obtain ⟨key, value⟩ := m
    rw [membersCourse] at ha
    rw [shapeFrom_cons]
    cases hadd : addMember owner shape key value with
    | error conflict =>
      rw [hadd] at ha
      exact .inr (.inl ⟨conflict, List.mem_singleton.1 ha⟩)
    | ok added =>
      rw [hadd] at ha
      rcases List.mem_append.1 ha with hparts | hrest
      · rw [partsCourse_eq_flatMap] at hparts
        obtain ⟨v, hv, ha⟩ := List.mem_flatMap.1 hparts
        exact .inr (.inr ⟨key, value, by simp, v, hv, ha⟩)
      · rcases ih hrest with hmerge | hrefuse | ⟨k, x, hx, v, hv, ha⟩
        · exact .inl hmerge
        · exact .inr (.inl hrefuse)
        · exact .inr (.inr ⟨k, x, by simp [hx], v, hv, ha⟩)

/-- The visit of an object enters its class. -/
theorem Visit.enter_mem_course (name : String) (here : Pointer) (members : Members) :
    .enter name here members ∈ (⟨name, here, .object members⟩ : Visit).course := by
  rw [Visit.course, Inference.course]
  exact List.mem_cons_self

/-- An action of the visit of an object enters its class, merges its shape, refuses a name that comes
twice, or belongs to the visit of a part. -/
theorem Visit.mem_course_object {name : String} {here : Pointer} {members : Members} {a : Action}
    (ha : a ∈ (⟨name, here, .object members⟩ : Visit).course) :
    a = .enter name here members ∨
      (∃ s, shapeFrom name .empty members = .ok s ∧ a = .merge name s) ∨
      (∃ conflict, a = .refuse (.schemaConflict name conflict)) ∨
      ∃ key value, (key, value) ∈ members ∧ ∃ v ∈ parts here key value, a ∈ v.course := by
  rw [Visit.course, Inference.course] at ha
  rcases List.mem_cons.1 ha with henter | hrest
  · exact .inl henter
  · exact .inr (mem_membersCourse hrest)

/-- An action of a run that succeeds is performed, and the actions behind it too. -/
theorem exists_perform_of_mem {mode : Merge} {reg result : Registry} {actions : List Action}
    {a : Action} (h : performAll mode reg actions = .ok result) (ha : a ∈ actions) :
    ∃ before after back, perform mode before a = .ok after ∧
      performAll mode after back = .ok result := by
  obtain ⟨front, back, rfl⟩ := List.append_of_mem ha
  rw [performAll_append] at h
  obtain ⟨before, -, hback⟩ := Chain.bind_eq_ok_iff.1 h
  rw [performAll_cons] at hback
  obtain ⟨after, hstep, hrest⟩ := Chain.bind_eq_ok_iff.1 hback
  exact ⟨before, after, back, hstep, hrest⟩

/-- Nothing in the course stops it. -/
def Smooth (actions : List Action) : Prop := ∀ failure, .refuse failure ∉ actions

/-- The course of a run that succeeds is smooth. -/
theorem smooth_of_performAll {mode : Merge} {reg result : Registry} {actions : List Action}
    (h : performAll mode reg actions = .ok result) : Smooth actions := by
  intro failure hmem
  obtain ⟨_, _, _, hrefuse, -⟩ := exists_perform_of_mem h hmem
  simp [perform] at hrefuse

/-- In a smooth course the members of an object have a shape, which is merged once all their parts
have been visited. -/
theorem membersCourse_of_smooth {owner : String} {here : Pointer} {shape : Shape}
    {members : Members} (h : Smooth (membersCourse owner here shape members)) :
    ∃ s, shapeFrom owner shape members = .ok s ∧
      membersCourse owner here shape members =
        members.flatMap (fun (key, value) => (parts here key value).flatMap Visit.course) ++
          [.merge owner s] := by
  induction members generalizing shape with
  | nil => exact ⟨shape, rfl, rfl⟩
  | cons m rest ih =>
    obtain ⟨key, value⟩ := m
    rw [membersCourse] at h ⊢
    rw [shapeFrom_cons]
    cases hadd : addMember owner shape key value with
    | error conflict =>
      -- A name that comes twice would stop the course here.
      rw [hadd] at h
      exact absurd (List.mem_singleton.2 rfl) (h _)
    | ok added =>
      rw [hadd] at h
      obtain ⟨s, hs, hcourse⟩ := ih fun failure hf => h failure (List.mem_append_right _ hf)
      refine ⟨s, hs, ?_⟩
      simp only [hcourse, partsCourse_eq_flatMap, List.flatMap_cons, List.append_assoc]

/-- A smooth course is that of an object: it enters the class, visits the parts of the members and
merges the shape. -/
theorem Visit.course_of_smooth {v : Visit} (h : Smooth v.course) :
    ∃ members shape, v.fragment = .object members ∧ shapeFrom v.name .empty members = .ok shape ∧
      v.course = .enter v.name v.place members ::
        (members.flatMap (fun (key, value) => (parts v.place key value).flatMap Visit.course) ++
          [.merge v.name shape]) := by
  obtain ⟨name, here, fragment⟩ := v
  cases fragment with
  | object members =>
    rw [Visit.course, Inference.course] at h ⊢
    obtain ⟨s, hs, hcourse⟩ :=
      membersCourse_of_smooth fun failure hf => h failure (List.mem_cons_of_mem _ hf)
    exact ⟨members, s, rfl, hs, by rw [hcourse]⟩
  | _ => exact absurd (List.mem_singleton.2 rfl) (h _)

/-- A smooth course of an object holds the courses of all its parts. -/
theorem Visit.course_part_subset {v w : Visit} {members : Members} {key : String} {value : Json}
    (h : Smooth v.course) (hv : v.fragment = .object members) (hm : (key, value) ∈ members)
    (hw : w ∈ parts v.place key value) : w.course ⊆ v.course := by
  obtain ⟨members', shape, hv', -, hcourse⟩ := Visit.course_of_smooth h
  obtain rfl : members = members' := Json.object.inj (hv.symm.trans hv')
  intro a ha
  rw [hcourse]
  refine List.mem_cons_of_mem _ (List.mem_append_left _ (List.mem_flatMap.2 ⟨_, hm, ?_⟩))
  exact List.mem_flatMap.2 ⟨w, hw, ha⟩

/-- Where a smooth course enters a class for an object, it holds the course of the object. -/
theorem Visit.course_subset_of_enter {v : Visit} (h : Smooth v.course) {name : String}
    {place : Pointer} {members : Members} (henter : .enter name place members ∈ v.course) :
    (⟨name, place, .object members⟩ : Visit).course ⊆ v.course := by
  induction v using visit_induction with
  | other v hv =>
    obtain ⟨members, _, hobject, -⟩ := Visit.course_of_smooth h
    exact absurd hobject (hv members)
  | object owner here outer ih =>
    rcases Visit.mem_course_object henter with heq | ⟨_, -, heq⟩ | ⟨_, heq⟩ |
      ⟨key, value, hm, w, hw, hpart⟩
    · obtain ⟨rfl, rfl, rfl⟩ := Action.enter.inj heq
      exact List.Subset.refl _
    · simp at heq
    · simp at heq
    · have hsub := Visit.course_part_subset h rfl hm hw
      have hsmooth : Smooth w.course := fun failure hf => h failure (hsub hf)
      exact List.Subset.trans (ih key value hm w hw hsmooth hpart) hsub

end DocSchema.Inference
