import DocSchema.Proofs.Inference.Interrupted

/-!
# Visits that have begun

A run of inference begins the visits of a fragment one after the other, and if it is stopped it has
begun the first of them (`begunBy`). The course of a visit goes along its visits (`along_course`):
before anything is refused, the visits that have begun are the first ones, and shapes are merged
into classes of visits that have begun. So what a run leaves is the registry as it was with the
classes of these visits behind its own, each once, and a class that none of them is for is untouched
(`extended_inferClass`).
-/

namespace DocSchema

namespace Inference

/-- The visits that begin with actions, in order. -/
def begun (actions : List Action) : List Visit :=
  actions.filterMap fun
    | .enter name place members => some ⟨name, place, .object members⟩
    | _ => none

/-- The visits that begin in a run of actions before it ends or is stopped. -/
def begunBy (mode : Merge) (reg : Registry) : List Action → List Visit
  | [] => []
  | a :: rest =>
    match perform mode reg a with
    | .ok next => begun [a] ++ begunBy mode next rest
    | .error _ => []

/-- Actions go along visits. Some classes may be open: their visits have begun before. -/
structure Along (opened : List String) (actions : List Action) (visits : List Visit) : Prop where
  /-- Before anything is refused, the first of the visits have begun. -/
  first : ∀ front, front <+: actions → Smooth front → begun front <+: visits
  /-- If nothing is refused, all of them begin. -/
  all : Smooth actions → begun actions = visits
  /-- Shapes are merged into the classes of visits that have begun. -/
  merged : ∀ front, front <+: actions → Smooth front → ∀ name shape, .merge name shape ∈ front →
    name ∈ opened ∨ name ∈ (begun front).map Visit.name

/-- More actions begin more visits. -/
theorem begun_append (front back : List Action) :
    begun (front ++ back) = begun front ++ begun back :=
  List.filterMap_append

/-- Nothing is refused among the first of actions if nothing is among all. -/
theorem Smooth.of_prefix {front actions : List Action} (h : Smooth actions)
    (hfront : front <+: actions) : Smooth front :=
  fun failure hmem => h failure (hfront.subset hmem)

namespace Along

variable {opened : List String} {actions more : List Action} {visits others : List Visit}

/-- No actions go along no visits. -/
theorem nil (opened : List String) : Along opened [] [] where
  first front hfront _ := by rw [List.prefix_nil.1 hfront]; exact List.prefix_refl _
  all _ := rfl
  merged front hfront _ name shape hmem := by simp [List.prefix_nil.1 hfront] at hmem

/-- A refusal ends the actions along any visits. -/
theorem refuse (opened : List String) (failure : Failure) (visits : List Visit) :
    Along opened [.refuse failure] visits := by
  have hnil : ∀ front : List Action, front <+: [.refuse failure] → Smooth front → front = [] := by
    intro front hfront hsmooth
    rcases List.prefix_cons_iff.1 hfront with rfl | ⟨rest, rfl, -⟩
    · rfl
    · exact absurd List.mem_cons_self (hsmooth failure)
  refine ⟨fun front hfront hsmooth => ?_, fun hsmooth => ?_, fun front hfront hsmooth => ?_⟩
  · rw [hnil front hfront hsmooth]
    exact List.nil_prefix
  · exact absurd List.mem_cons_self (hsmooth failure)
  · rw [hnil front hfront hsmooth]
    nofun

/-- The merge into an open class begins no visit. -/
theorem merge {name : String} (h : name ∈ opened) (shape : Shape) :
    Along opened [.merge name shape] [] := by
  refine ⟨fun front hfront _ => ?_, fun _ => rfl, fun front hfront _ other later hmem => ?_⟩
  · rcases List.prefix_cons_iff.1 hfront with rfl | ⟨rest, rfl, hrest⟩
    · exact List.prefix_refl _
    · rw [List.prefix_nil.1 hrest]
      exact List.prefix_refl _
  · obtain ⟨rfl, -⟩ := Action.merge.inj (List.mem_singleton.1 (hfront.subset hmem))
    exact .inl h

/-- The class that a shape is merged into next is that of a visit that has begun. -/
theorem mem_begun_of_merge (h : Along [] actions visits) {front : List Action} {name : String}
    {shape : Shape} (hfront : front ++ [.merge name shape] <+: actions) (hsmooth : Smooth front) :
    name ∈ (begun front).map Visit.name := by
  have hsmoothNext : Smooth (front ++ [.merge name shape]) := by
    intro failure hmem
    rcases List.mem_append.1 hmem with hmem | hmem
    · exact hsmooth failure hmem
    · simp at hmem
  have hmem := h.merged _ hfront hsmoothNext name shape (by simp)
  rw [begun_append] at hmem
  simpa [begun] using hmem

/-- Actions that go along visits still do if more classes are open. -/
theorem mono (h : Along [] actions visits) (opened : List String) :
    Along opened actions visits where
  first := h.first
  all := h.all
  merged front hfront hsmooth name shape hmem :=
    .inr ((h.merged front hfront hsmooth name shape hmem).resolve_left List.not_mem_nil)

/-- Actions one after the other go along visits one after the other. -/
theorem append (h : Along opened actions visits) (hmore : Along opened more others) :
    Along opened (actions ++ more) (visits ++ others) where
  first front hfront hsmooth := by
    rcases prefix_append_cases hfront with hfront | ⟨back, rfl, hback⟩
    · exact (h.first front hfront hsmooth).trans (List.prefix_append _ _)
    · rw [begun_append, h.all (hsmooth.of_prefix (List.prefix_append _ _))]
      have hsmoothBack : Smooth back := fun failure hmem => hsmooth failure (by simp [hmem])
      exact List.prefix_append_right_inj _ |>.2 (hmore.first back hback hsmoothBack)
  all hsmooth := by
    rw [begun_append, h.all fun failure hmem => hsmooth failure (by simp [hmem]),
      hmore.all fun failure hmem => hsmooth failure (by simp [hmem])]
  merged front hfront hsmooth name shape hmem := by
    rcases prefix_append_cases hfront with hfront | ⟨back, rfl, hback⟩
    · exact h.merged front hfront hsmooth name shape hmem
    · rw [begun_append, List.map_append, List.mem_append]
      rcases List.mem_append.1 hmem with hmem | hmem
      · have hactions := hsmooth.of_prefix (List.prefix_append _ _)
        exact (h.merged actions (List.prefix_refl _) hactions name shape hmem).imp_right .inl
      · have hsmoothBack : Smooth back := fun failure hmem => hsmooth failure (by simp [hmem])
        exact (hmore.merged back hback hsmoothBack name shape hmem).imp_right .inr

/-- Entering a class opens it for the actions behind. -/
theorem enter {name : String} (here : Pointer) (members : Members)
    (h : Along (name :: opened) actions visits) :
    Along opened (.enter name here members :: actions)
      (⟨name, here, .object members⟩ :: visits) where
  first front hfront hsmooth := by
    rcases List.prefix_cons_iff.1 hfront with rfl | ⟨back, rfl, hback⟩
    · exact List.nil_prefix
    · refine List.cons_prefix_cons.2 ⟨rfl, h.first back hback ?_⟩
      exact fun failure hmem => hsmooth failure (List.mem_cons_of_mem _ hmem)
  all hsmooth :=
    congrArg _ (h.all fun failure hmem => hsmooth failure (List.mem_cons_of_mem _ hmem))
  merged front hfront hsmooth other shape hmem := by
    rcases List.prefix_cons_iff.1 hfront with rfl | ⟨back, rfl, hback⟩
    · simp at hmem
    · have hsmoothBack : Smooth back :=
        fun failure hmem => hsmooth failure (List.mem_cons_of_mem _ hmem)
      have hmemBack : .merge other shape ∈ back := by simpa using hmem
      show other ∈ opened ∨ other ∈ name :: (begun back).map Visit.name
      rcases h.merged back hback hsmoothBack other shape hmemBack with hopen | hbegun
      · rcases List.mem_cons.1 hopen with rfl | hopen
        · exact .inr List.mem_cons_self
        · exact .inl hopen
      · exact .inr (List.mem_cons_of_mem _ hbegun)

/-- The courses of visits go along their visits. -/
theorem flatMap {visits : List Visit} (h : ∀ v ∈ visits, Along [] v.course v.preorder)
    (opened : List String) :
    Along opened (visits.flatMap Visit.course) (visits.flatMap Visit.preorder) := by
  induction visits with
  | nil => exact nil opened
  | cons v rest ih =>
    rw [List.flatMap_cons, List.flatMap_cons]
    exact ((h v (by simp)).mono opened).append (ih fun w hw => h w (by simp [hw]))

end Along

/-- The actions for the members of an object go along the visits of their parts. -/
theorem along_membersCourse {owner : String} {here : Pointer} {shape : Shape} {members : Members}
    (h : ∀ key value, (key, value) ∈ members → ∀ v ∈ parts here key value,
      Along [] v.course v.preorder) :
    Along [owner] (membersCourse owner here shape members)
      (members.flatMap fun (key, value) => (parts here key value).flatMap Visit.preorder) := by
  induction members generalizing shape with
  | nil => exact .merge (by simp) shape
  | cons m rest ih =>
    obtain ⟨key, value⟩ := m
    unfold membersCourse
    cases addMember owner shape key value with
    | error conflict => exact .refuse _ _ _
    | ok added =>
      rw [List.flatMap_cons]
      simp only [partsCourse_eq_flatMap]
      refine (Along.flatMap (fun v hv => h key value (by simp) v hv) [owner]).append (ih ?_)
      exact fun k x hx v hv => h k x (by simp [hx]) v hv

/-- The course of a visit goes along the visit and all visits inside it. -/
theorem along_course (v : Visit) : Along [] v.course v.preorder := by
  induction v using Visit.inner_induction with
  | step v ih =>
    rw [Visit.preorder_eq]
    obtain ⟨name, here, fragment⟩ := v
    cases fragment with
    | object members =>
      rw [Visit.inner, List.flatMap_assoc]
      refine .enter here members (along_membersCourse fun key value hm w hw => ?_)
      exact ih w (Visit.mem_inner_of_part rfl hm hw)
    | _ => exact .refuse _ _ _

/-- A run performs the first of its actions, and ends with them or is stopped by the next one. -/
theorem performAll_cases (mode : Merge) (reg : Registry) (actions : List Action) :
    ∃ front reached, front <+: actions ∧ performAll mode reg front = .ok reached ∧
      begunBy mode reg actions = begun front ∧
      ((front = actions ∧ performAll mode reg actions = .ok reached) ∨
        ∃ a stopped, front ++ [a] <+: actions ∧ perform mode reached a = .error stopped ∧
          performAll mode reg actions = .error stopped) := by
  induction actions generalizing reg with
  | nil => exact ⟨[], reg, List.prefix_refl _, rfl, rfl, .inl ⟨rfl, rfl⟩⟩
  | cons a rest ih =>
    cases hstep : perform mode reg a with
    | error stopped =>
      refine ⟨[], reg, List.nil_prefix, rfl, ?_, .inr ⟨a, stopped, ?_, hstep, ?_⟩⟩
      · simp only [begunBy, hstep]
        rfl
      · exact List.cons_prefix_cons.2 ⟨rfl, List.nil_prefix⟩
      · rw [performAll_cons, hstep]
        rfl
    | ok next =>
      have hcons : ∀ back, performAll mode reg (a :: back) = performAll mode next back := by
        intro back
        rw [performAll_cons, hstep]
        rfl
      obtain ⟨front, reached, hfront, hrun, hbegun, hend⟩ := ih next
      refine ⟨a :: front, reached, List.cons_prefix_cons.2 ⟨rfl, hfront⟩, ?_, ?_, ?_⟩
      · rw [hcons, hrun]
      · simp only [begunBy, hstep, hbegun]
        exact (begun_append [a] front).symm
      · rw [hcons]
        rcases hend with ⟨rfl, hok⟩ | ⟨b, stopped, hprefix, hstop, herror⟩
        · exact .inl ⟨rfl, hok⟩
        · exact .inr ⟨b, stopped, List.cons_prefix_cons.2 ⟨rfl, hprefix⟩, hstop, herror⟩

/-- A run that succeeds puts the classes of its visits behind those of the registry, each once. -/
theorem classNames_of_performAll {mode : Merge} {reg reached : Registry} {actions : List Action}
    (hreg : reg.classNames.Nodup) (h : performAll mode reg actions = .ok reached) :
    reached.classNames = (reg.classNames ++ (begun actions).map Visit.name).eraseDups := by
  induction actions using List.reverseRecOn generalizing reached with
  | nil =>
    obtain rfl := Except.ok.inj h
    rw [begun, List.filterMap_nil, List.map_nil, List.append_nil, eraseDups_of_nodup hreg]
  | append_singleton front a ih =>
    rw [performAll_append] at h
    obtain ⟨middle, hfront, hlast⟩ := Chain.bind_eq_ok_iff.1 h
    rw [performAll_singleton] at hlast
    have hmiddle := ih hfront
    rw [begun_append, List.map_append, ← List.append_assoc]
    cases a with
    | enter name place members =>
      have hcontains : middle.contains name = true ↔
          name ∈ reg.classNames ++ (begun front).map Visit.name := by
        rw [Registry.contains_iff, hmiddle, List.mem_eraseDups]
      rw [Registry.classNames_touch (touch_eq_ok_of_perform hlast), hmiddle]
      show _ = (_ ++ [name]).eraseDups
      rw [eraseDups_concat]
      exact if_congr hcontains rfl rfl
    | merge name later =>
      obtain ⟨_, shape, -, -, rfl⟩ := Registry.mergeShape_eq_ok_iff.1 hlast
      rw [Registry.classNames_setShape, hmiddle]
      exact congrArg List.eraseDups (List.append_nil _).symm
    | refuse failure => simp [perform] at hlast

/-- An action that succeeds leaves the classes of other names than its own as they are. -/
theorem find?_of_perform_of_ne {mode : Merge} {reg result : Registry} {a : Action} {other : String}
    (h : perform mode reg a = .ok result) (hbegun : other ∉ (begun [a]).map Visit.name)
    (hmerged : ∀ shape, a ≠ .merge other shape) : result.find? other = reg.find? other := by
  cases a with
  | enter name place members =>
    have hname : name ≠ other := by simpa [begun, eq_comm] using hbegun
    rcases Registry.touch_eq_ok (touch_eq_ok_of_perform h) with ⟨-, rfl⟩ | ⟨-, rfl⟩
    · rfl
    · unfold Registry.find?
      have hnew : [EntityClass.new name reg.classNamespace].find? (·.name == other) = none :=
        List.find?_cons_of_neg (by simpa [EntityClass.new] using hname)
      rw [List.find?_append, hnew, Option.or_none]
  | merge name later =>
    obtain ⟨_, shape, -, -, rfl⟩ := Registry.mergeShape_eq_ok_iff.1 h
    exact Registry.find?_setShape_of_ne fun heq => hmerged later (by rw [heq])
  | refuse failure => simp [perform] at h

/-- A run that succeeds leaves the classes that it neither enters nor merges into as they are. -/
theorem find?_of_performAll_of_ne {mode : Merge} {reg reached : Registry} {actions : List Action}
    {other : String} (h : performAll mode reg actions = .ok reached)
    (hbegun : other ∉ (begun actions).map Visit.name)
    (hmerged : ∀ shape, .merge other shape ∉ actions) : reached.find? other = reg.find? other := by
  refine Chain.foldlM_invariant (P := fun next => next.find? other = reg.find? other)
    (fun before a after ha hbefore hstep => ?_) rfl h
  have hsub : (begun [a]).Sublist (begun actions) := (List.singleton_sublist.2 ha).filterMap _
  have hnot : other ∉ (begun [a]).map Visit.name :=
    fun hmem => hbegun ((hsub.map Visit.name).subset hmem)
  exact (find?_of_perform_of_ne hstep hnot fun shape heq => hmerged shape (heq ▸ ha)).trans hbefore

/-- An action that fails leaves the registry as it was, or the class that it merges into with
another shape. -/
theorem registry_of_perform_eq_error {mode : Merge} {reg : Registry} {a : Action}
    {stopped : Interrupted} (h : perform mode reg a = .error stopped) :
    stopped.registry = reg ∨
      ∃ name later shape, a = .merge name later ∧ stopped.registry = reg.setShape name shape := by
  cases a with
  | enter name place members =>
    rw [perform, Registry.interruptedBy] at h
    cases htouch : reg.touch name with
    | ok touched => simp [htouch, Except.mapError] at h
    | error failure =>
      rw [htouch] at h
      exact .inl (Except.error.inj h ▸ rfl)
  | merge name later =>
    rcases left_mergeShape reg name later mode with ⟨-, hleft⟩ | ⟨c, -, hleft⟩ <;>
      rw [show reg.mergeShape name later mode = .error stopped from h] at hleft
    · exact .inl hleft
    · exact .inr ⟨name, later, _, rfl, hleft⟩
  | refuse failure => exact .inl (Except.error.inj h ▸ rfl)

/-- A run along visits leaves the registry that it has reached with the actions that succeed. Only
the action that stops it may have changed a class more, and that is the class of a visit that has
begun. -/
theorem exists_reached (mode : Merge) (reg : Registry) {actions : List Action} {visits : List Visit}
    (h : Along [] actions visits) : ∃ front reached, front <+: actions ∧
      performAll mode reg front = .ok reached ∧ begunBy mode reg actions = begun front ∧
      (∀ result, performAll mode reg actions = .ok result → front = actions) ∧
      (Registry.left (performAll mode reg actions)).classNames = reached.classNames ∧
      ∀ other, other ∉ (begun front).map Visit.name →
        (Registry.left (performAll mode reg actions)).find? other = reached.find? other := by
  obtain ⟨front, reached, hfront, hrun, hbegun, hend⟩ := performAll_cases mode reg actions
  refine ⟨front, reached, hfront, hrun, hbegun, ?_⟩
  rcases hend with ⟨rfl, hok⟩ | ⟨a, stopped, hprefix, hstop, herror⟩
  · rw [hok]
    exact ⟨fun _ _ => rfl, rfl, fun _ _ => rfl⟩
  · rw [herror]
    refine ⟨fun _ hok => (by cases hok), ?_⟩
    show stopped.registry.classNames = _ ∧ ∀ other, _ → stopped.registry.find? other = _
    rcases registry_of_perform_eq_error hstop with hsame | ⟨name, later, shape, rfl, hset⟩
    · rw [hsame]
      exact ⟨rfl, fun _ _ => rfl⟩
    · have hname := h.mem_begun_of_merge hprefix (smooth_of_performAll hrun)
      rw [hset]
      exact ⟨Registry.classNames_setShape _ _ _, fun other hother =>
        Registry.find?_setShape_of_ne fun heq => hother (heq ▸ hname)⟩

end Inference

namespace Registry

open Inference

/-- The visits that begin when a class is inferred from a fragment, before the inference ends or is
stopped. -/
def visited (reg : Registry) (mode : Merge) (name : String) (fragment : Json) : List Visit :=
  begunBy mode reg (course name .root fragment)

/-- What inference from a fragment leaves of a registry. -/
structure Extended (reg : Registry) (mode : Merge) (name : String) (fragment : Json) : Prop where
  /-- The visits that have begun are the first of the visits of the fragment. -/
  first : reg.visited mode name fragment <+: (Visit.whole name fragment).preorder
  /-- They are all of them if the inference succeeds. -/
  all : ∀ inferred, reg.inferClass mode name fragment = .ok inferred →
    reg.visited mode name fragment = (Visit.whole name fragment).preorder
  /-- Their classes that are new have come behind those of the registry, each once, in order. -/
  classNames_eq : (left (reg.inferClass mode name fragment)).classNames = reg.classNames ++
    (((reg.visited mode name fragment).map Visit.name).removeAll reg.classNames).eraseDups
  /-- The classes that none of them is for are as they were. -/
  find?_eq : ∀ other, other ∉ (reg.visited mode name fragment).map Visit.name →
    (left (reg.inferClass mode name fragment)).find? other = reg.find? other

/-- Inference extends a registry by the classes that it visits, even if it is stopped. -/
theorem extended_inferClass {reg : Registry} (hreg : reg.classNames.Nodup) (mode : Merge)
    (name : String) (fragment : Json) : reg.Extended mode name fragment := by
  have halong : Along [] (course name .root fragment) (Visit.whole name fragment).preorder :=
    along_course (Visit.whole name fragment)
  have hrun : reg.inferClass mode name fragment =
      performAll mode reg (course name .root fragment) :=
    visit_eq_performAll mode name .root reg fragment
  obtain ⟨front, reached, hfront, hreached, hvisited, hall, hnames, hfind⟩ :=
    exists_reached mode reg halong
  replace hvisited : reg.visited mode name fragment = begun front := hvisited
  have hsmooth := smooth_of_performAll hreached
  refine ⟨?_, fun inferred hok => ?_, ?_, fun other hother => ?_⟩
  · rw [hvisited]
    exact halong.first front hfront hsmooth
  · obtain rfl := hall inferred (hrun ▸ hok)
    rw [hvisited]
    exact halong.all hsmooth
  · rw [hrun, hnames, classNames_of_performAll hreg hreached, List.eraseDups_append,
      eraseDups_of_nodup hreg, hvisited]
  · rw [hvisited] at hother
    rw [hrun, hfind other hother]
    refine find?_of_performAll_of_ne hreached hother fun shape hmem => hother ?_
    exact (halong.merged front hfront hsmooth other shape hmem).resolve_left List.not_mem_nil

end Registry

end DocSchema
