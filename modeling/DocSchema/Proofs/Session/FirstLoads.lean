import DocSchema.Proofs.Entity.Construction
import DocSchema.Proofs.Entity.Failing
import DocSchema.Proofs.Session.Regeneration

/-!
# Constructing by name in a session

A loader keeps one binding for each name: the one that was given at the first load of the name that
succeeded, whatever registry that load was asked for (`Loader.Remembers`). A step of a history loads
classes or leaves the loaders as they are (`Session.loaders_cases`), so the loader remembers all of
its history (`Session.remembers_run`). What it has bound is the class of a registry that is frozen,
and as such classes keep their members, one of the registries still has it (`Session.backed_run`).
So a name constructs what the binding of its first load constructs, and nothing if there was no such
load (`Session.constructs_by_name`).
-/

namespace DocSchema

namespace Loader

/-- The loads that succeed when classes are loaded in order, up to the first that cannot be loaded:
the names, with the bindings that are given. -/
def loads (loaded : Loaded) : List String → List (String × Binding)
  | [] => []
  | name :: rest =>
    match loaded.loader.load loaded.registry name with
    | .ok (next, b) => (name, b) :: loads next rest
    | .error _ => []

/-- A loader has the loads that have succeeded in it in mind. -/
structure Remembers (loader : Loader) (loads : List (String × Binding)) : Prop where
  /-- A name has the binding of its first load. -/
  find?_eq : ∀ name, loader.find? name = loads.lookup name
  /-- The later loads of the name gave the same binding. -/
  again : ∀ name b, (name, b) ∈ loads → loader.find? name = some b

variable {loader : Loader} {reg : Registry} {loaded : Loaded} {name : String} {b : Binding}
  {before : List (String × Binding)}

/-- A new loader has nothing in mind. -/
theorem remembers_new (stamp : ℕ) : (Loader.new stamp).Remembers [] where
  find?_eq _ := rfl
  again _ _ := nofun

/-- A binding that is found under a name is that of a class of the name. -/
theorem className_of_find? (h : loader.find? name = some b) : b.className = name := by
  simpa using List.find?_some h

/-- Loading a class binds its name if it is not bound yet, and gives the binding of the name. -/
theorem find?_of_load (h : loader.load reg name = .ok (loaded, b)) :
    loaded.loader.find? name = some b ∧
      ∀ other, loaded.loader.find? other =
        (loader.find? other).or (if other = name then some b else none) := by
  rcases load_cases loader reg name with ⟨old, hold, heq⟩ | ⟨hnew, ⟨-, heq⟩ | ⟨_, -, -, heq⟩ |
    ⟨c, artifact, hc, -, heq⟩⟩ <;> rw [h] at heq
  · obtain ⟨rfl, rfl⟩ := Prod.mk.inj (Except.ok.inj heq)
    refine ⟨hold, fun other => ?_⟩
    split
    · next hother => rw [hother, hold, Option.some_or]
    · rw [Option.or_none]
  · cases heq
  · cases heq
  · obtain ⟨rfl, rfl⟩ := Prod.mk.inj (Except.ok.inj heq)
    -- The new binding stands behind the old ones, so it is found only where they are not.
    have hname : (loader.bind c artifact).className = name := Registry.name_of_find? hc
    have hfind : ∀ other, ({ loader with
        bindings := loader.bindings ++ [loader.bind c artifact] } : Loader).find? other =
          (loader.find? other).or
            (if other = name then some (loader.bind c artifact) else none) := by
      intro other
      rw [find?, List.find?_append, find?]
      by_cases hother : other = name
      · simp [hname, hother]
      · simp [hname, hother, Ne.symm hother]
    refine ⟨?_, hfind⟩
    rw [hfind, hnew, if_pos rfl, Option.none_or]

/-- A loader has one more load in mind. -/
theorem Remembers.load (hloader : loader.Remembers before)
    (h : loader.load reg name = .ok (loaded, b)) :
    loaded.loader.Remembers (before ++ [(name, b)]) := by
  obtain ⟨hself, hfind⟩ := find?_of_load h
  refine ⟨fun other => ?_, fun other d hd => ?_⟩
  · rw [hfind, List.lookup_append, hloader.find?_eq, List.lookup_cons, List.lookup_nil]
    by_cases hother : other = name
    · simp [hother]
    · simp [hother, beq_false_of_ne hother]
  · rcases List.mem_append.1 hd with hd | hd
    · rw [hfind, hloader.again other d hd, Option.some_or]
    · obtain ⟨rfl, rfl⟩ := Prod.mk.inj (List.mem_singleton.1 hd)
      exact hself

/-- So it does after it has loaded classes in order. -/
theorem Remembers.loadNames (hloader : loaded.loader.Remembers before) (names : List String) :
    (loadNames loaded names).1.loader.Remembers (before ++ loads loaded names) := by
  induction names generalizing loaded before with
  | nil => rwa [loads, List.append_nil]
  | cons name rest ih =>
    rw [Loader.loadNames, loads]
    cases hload : loaded.loader.load loaded.registry name with
    | error failure => rwa [List.append_nil]
    | ok result =>
      have hnext := ih (hloader.load hload)
      rwa [List.append_assoc] at hnext

end Loader

namespace Registry

/-- A registry is frozen and has the class that a binding was made of. -/
structure Backs (reg : Registry) (b : Binding) : Prop where
  /-- The registry is frozen. -/
  frozen : reg.frozen = true
  /-- The class is there, with the members that it was bound with. -/
  described : ∃ c ∈ reg.classes, b.Describes c

/-- A frozen registry has a class as it is bound, whatever else is done with it. -/
theorem Backs.change {reg next : Registry} {b : Binding} (hreg : reg.Backs b)
    (h : reg.Change next) : next.Backs b := by
  have hnoted : reg.Noted next := Noted.change ⟨hreg.frozen, rfl⟩ h
  obtain ⟨c, hc, hb⟩ := hreg.described
  have hmem : c.description ∈ next.classes.map EntityClass.description :=
    hnoted.classes_eq ▸ List.mem_map_of_mem hc
  obtain ⟨d, hd, heq⟩ := List.mem_map.1 hmem
  obtain ⟨hname, -, hshape, -⟩ := EntityClass.mk.inj heq
  refine ⟨hnoted.frozen, d, hd, ?_⟩
  exact ⟨hb.className_eq.trans hname.symm, hshape ▸ hb.parameters_eq, hshape ▸ hb.relationships_eq⟩

/-- So it has after changes one after the other. -/
theorem Backs.changes {reg next : Registry} {b : Binding} (hreg : reg.Backs b)
    (h : reg.Changes next) : next.Backs b :=
  h.invariant (P := fun reg => reg.Backs b) (fun _ _ hreg => hreg.change) hreg

end Registry

namespace Loader

variable {loaded : Loaded} {b : Binding}

/-- What a loader binds when it loads classes of a registry is of a class of it. -/
theorem backs_of_loadNames (hreg : loaded.registry.Sound) {names : List String}
    (hb : b ∈ (loadNames loaded names).1.loader.bindings) :
    b ∈ loaded.loader.bindings ∨ (loadNames loaded names).1.registry.Backs b := by
  induction names generalizing loaded with
  | nil => exact .inl hb
  | cons name rest ih =>
    rw [loadNames] at hb ⊢
    rcases load_cases loaded.loader loaded.registry name with ⟨old, -, heq⟩ | ⟨-, ⟨-, heq⟩ |
      ⟨_, -, -, heq⟩ | ⟨c, artifact, hc, hartifact, heq⟩⟩ <;> rw [heq] at hb ⊢
    · exact ih hreg hb
    · exact .inl hb
    · exact .inl hb
    · have hbind : loaded.registry.Change _ := .bind loaded.loader hc hartifact
      rcases ih (hreg.change hbind) hb with hold | hback
      · rcases List.mem_append.1 hold with hold | hnew
        · exact .inl hold
        · -- A class with code is that of a frozen registry.
          obtain rfl := List.mem_singleton.1 hnew
          have hfrozen : loaded.registry.frozen = true := by
            by_contra hopen
            have hbare := hreg.bare (by simpa using hopen) c (Registry.mem_of_find? hc)
            cases hbare.symm.trans hartifact
          have hback : loaded.registry.Backs (loaded.loader.bind c artifact) :=
            ⟨hfrozen, c, Registry.mem_of_find? hc, rfl, rfl, rfl⟩
          have hchanges := changes_loadNames ⟨{ loaded.loader with
            bindings := loaded.loader.bindings ++ [loaded.loader.bind c artifact] },
            loaded.registry.setBinding name (loaded.loader.bind c artifact)⟩ rest
          exact .inr ((hback.change hbind).changes hchanges)
      · exact .inr hback

end Loader

namespace Session

/-- The loads that succeed when a loader loads classes of a registry. -/
def loadsAt (s : Session) (i j : ℕ) (names : Registry → List String) : List (String × Binding) :=
  match s.loaders[i]?, s.registries[j]? with
  | some loader, some reg => Loader.loads ⟨loader, reg⟩ (names reg)
  | _, _ => []

/-- The loads of the loader at a position that succeed in a step. -/
def stepLoads (s : Session) (i : ℕ) : Step → List (String × Binding)
  | .load k j className => if k = i then s.loadsAt k j fun _ => [className] else []
  | .loadAll k j => if k = i then s.loadsAt k j Registry.classNames else []
  | _ => []

/-- The loads of the loader at a position that succeed in a history which begins with a session. -/
def loadsFrom (s : Session) (i : ℕ) : List Step → List (String × Binding)
  | [] => []
  | next :: rest => s.stepLoads i next ++ (s.step next).loadsFrom i rest

/-- The loads of the loader at a position that succeed in a history, in order. -/
def loads (i : ℕ) (history : List Step) : List (String × Binding) := loadsFrom ⟨[], []⟩ i history

/-- The loads in a history that goes on are those before and those of the last step. -/
theorem loads_concat (i : ℕ) (front : List Step) (next : Step) :
    loads i (front ++ [next]) = loads i front ++ (run front).stepLoads i next := by
  have hfrom : ∀ s : Session, s.loadsFrom i (front ++ [next]) =
      s.loadsFrom i front ++ (front.foldl step s).stepLoads i next := by
    induction front with
    | nil => exact fun s => List.append_nil _
    | cons first rest ih =>
      intro s
      rw [List.cons_append, loadsFrom, loadsFrom, ih, List.append_assoc, List.foldl_cons]
  exact hfrom _

/-- A session in which a loader and a registry are as they were is the same. -/
theorem withLoaded_self {s : Session} {i j : ℕ} {loader : Loader} {reg : Registry}
    (hloader : s.loaders[i]? = some loader) (hreg : s.registries[j]? = some reg) :
    s.withLoaded i j ⟨loader, reg⟩ = s := by
  obtain ⟨hi, rfl⟩ := List.getElem?_eq_some_iff.1 hloader
  obtain ⟨hj, rfl⟩ := List.getElem?_eq_some_iff.1 hreg
  rw [withLoaded, List.set_getElem_self, List.set_getElem_self]

/-- The session after a loader has loaded classes of a registry, if both are there. -/
def afterLoading (s : Session) (i j : ℕ) (names : Registry → List String) : Session :=
  match s.loaders[i]?, s.registries[j]? with
  | some loader, some reg => s.withLoaded i j (Loader.loadNames ⟨loader, reg⟩ (names reg)).1
  | _, _ => s

/-- Loading a class is loading classes in order, of which there is one. -/
theorem step_load (s : Session) (i j : ℕ) (className : String) :
    s.step (.load i j className) = s.afterLoading i j fun _ => [className] := by
  rw [step, afterLoading]
  cases hloader : s.loaders[i]? with
  | none => rfl
  | some loader =>
    cases hreg : s.registries[j]? with
    | none => rfl
    | some reg =>
      simp only [Loader.loadNames]
      cases loader.load reg className with
      | ok result => rfl
      | error failure => exact (withLoaded_self hloader hreg).symm

/-- Loading changes and gives nothing if the loader or the registry is not there. -/
theorem afterLoading_cases (s : Session) (i j : ℕ) (names : Registry → List String) :
    s.afterLoading i j names = s ∧ s.loadsAt i j names = [] ∨
    ∃ loader reg, s.loaders[i]? = some loader ∧ s.registries[j]? = some reg ∧
      s.afterLoading i j names = s.withLoaded i j (Loader.loadNames ⟨loader, reg⟩ (names reg)).1 ∧
      s.loadsAt i j names = Loader.loads ⟨loader, reg⟩ (names reg) := by
  rw [afterLoading, loadsAt]
  cases s.loaders[i]? with
  | none => exact .inl ⟨rfl, rfl⟩
  | some loader =>
    cases s.registries[j]? with
    | none => exact .inl ⟨rfl, rfl⟩
    | some reg => exact .inr ⟨loader, reg, rfl, rfl, rfl, rfl⟩

/-- What a step does with the loaders: nothing, or it makes one, or one of them loads classes. -/
theorem loaders_cases (s : Session) (next : Step) :
    (s.step next).loaders = s.loaders ∧ (∀ i, s.stepLoads i next = []) ∨
    (s.step next).loaders = s.loaders ++ [.new s.loaders.length] ∧
      (∀ i, s.stepLoads i next = []) ∨
    ∃ k j loader reg names, s.loaders[k]? = some loader ∧ s.registries[j]? = some reg ∧
      s.step next = s.withLoaded k j (Loader.loadNames ⟨loader, reg⟩ names).1 ∧
      ∀ i, s.stepLoads i next = if k = i then Loader.loads ⟨loader, reg⟩ names else [] := by
  cases next with
  | newLoader => exact .inr (.inl ⟨rfl, fun _ => rfl⟩)
  | load k j className =>
    rw [step_load]
    rcases s.afterLoading_cases k j fun _ => [className] with ⟨heq, hnone⟩ |
      ⟨loader, reg, hloader, hreg, heq, hloads⟩
    · exact .inl ⟨congrArg loaders heq, fun i => by rw [stepLoads, hnone, ite_self]⟩
    · exact .inr (.inr ⟨k, j, loader, reg, _, hloader, hreg, heq, fun i => by
        rw [stepLoads, hloads]⟩)
  | loadAll k j =>
    rcases s.afterLoading_cases k j Registry.classNames with ⟨heq, hnone⟩ |
      ⟨loader, reg, hloader, hreg, heq, hloads⟩
    · exact .inl ⟨congrArg loaders heq, fun i => by rw [stepLoads, hnone, ite_self]⟩
    · exact .inr (.inr ⟨k, j, loader, reg, _, hloader, hreg, heq, fun i => by
        rw [stepLoads, hloads]⟩)
  | _ => exact .inl ⟨rfl, fun _ => rfl⟩

/-- A loader of a session has loads in mind; if it is not made yet, there were none. -/
structure Remembers (s : Session) (i : ℕ) (loads : List (String × Binding)) : Prop where
  /-- The loader has the loads in mind. -/
  made : ∀ loader, s.loaders[i]? = some loader → loader.Remembers loads
  /-- A loader that is not there has loaded nothing. -/
  unmade : s.loaders[i]? = none → loads = []

/-- All that loaders have bound is of classes of registries that are there. -/
def Backed (s : Session) : Prop :=
  ∀ loader ∈ s.loaders, ∀ b ∈ loader.bindings, ∃ reg ∈ s.registries, reg.Backs b

section Steps

variable {s : Session} {i : ℕ} {before : List (String × Binding)}

/-- After a step a loader has the loads of the step in mind, too. -/
theorem Remembers.step (hs : s.Remembers i before) (next : Step) :
    (s.step next).Remembers i (before ++ s.stepLoads i next) := by
  rcases loaders_cases s next with ⟨heq, hnone⟩ | ⟨heq, hnone⟩ |
    ⟨k, j, loader, reg, names, hloader, -, heq, hloads⟩
  · rw [hnone, List.append_nil]
    exact ⟨heq ▸ hs.made, heq ▸ hs.unmade⟩
  · rw [hnone, List.append_nil]
    refine ⟨fun loader hloader => ?_, fun hfree => hs.unmade ?_⟩
    · cases hold : s.loaders[i]? with
      | some old =>
        rw [heq, List.getElem?_append_left (List.getElem?_eq_some_iff.1 hold).1, hold] at hloader
        exact Option.some.inj hloader ▸ hs.made old hold
      | none =>
        -- What comes behind the loaders is the new one, and that has loaded nothing.
        rw [heq, List.getElem?_append_right (List.getElem?_eq_none_iff.1 hold)] at hloader
        obtain rfl := List.mem_singleton.1 (List.mem_of_getElem? hloader)
        exact hs.unmade hold ▸ Loader.remembers_new _
    · rw [heq, List.getElem?_eq_none_iff, List.length_append] at hfree
      exact List.getElem?_eq_none_iff.2 (by omega)
  · rw [heq, hloads]
    by_cases hk : k = i
    · subst hk
      obtain ⟨hlt, -⟩ := List.getElem?_eq_some_iff.1 hloader
      have hself : (s.withLoaded k j (Loader.loadNames ⟨loader, reg⟩ names).1).loaders[k]? =
          some (Loader.loadNames ⟨loader, reg⟩ names).1.loader := List.getElem?_set_self hlt
      rw [if_pos rfl]
      refine ⟨fun later hlater => ?_, fun hfree => ?_⟩
      · obtain rfl := Option.some.inj (hself.symm.trans hlater)
        have hmade : (Loader.Loaded.mk loader reg).loader.Remembers before :=
          hs.made loader hloader
        exact hmade.loadNames names
      · rw [hself] at hfree
        cases hfree
    · have hother : (s.withLoaded k j (Loader.loadNames ⟨loader, reg⟩ names).1).loaders[i]? =
          s.loaders[i]? := List.getElem?_set_ne hk
      rw [if_neg hk, List.append_nil]
      exact ⟨hother ▸ hs.made, hother ▸ hs.unmade⟩

/-- After a step all that is bound is still there. -/
theorem Backed.step (hs : s.Backed) (hsound : s.Sound) (next : Step) : (s.step next).Backed := by
  obtain ⟨kept, made, hregistries, hkept, -⟩ := step_cases s next
  -- A registry that has a class as it is bound is still there, changed at most by notes.
  have hold : ∀ loader ∈ s.loaders, ∀ b ∈ loader.bindings,
      ∃ reg ∈ (s.step next).registries, reg.Backs b := by
    intro loader hloader b hb
    obtain ⟨old, hmem, hback⟩ := hs loader hloader b hb
    obtain ⟨reg, hreg, hchanges⟩ := Chain.exists_of_mem_right hkept.flip hmem
    exact ⟨reg, hregistries ▸ List.mem_append_left _ hreg, hback.changes hchanges⟩
  intro later hlater b hb
  rcases loaders_cases s next with ⟨heq, -⟩ | ⟨heq, -⟩ |
    ⟨k, j, loader, reg, names, hloader, hreg, heq, -⟩
  · exact hold later (heq ▸ hlater) b hb
  · rcases List.mem_append.1 (heq ▸ hlater) with hlater | hlater
    · exact hold later hlater b hb
    · obtain rfl := List.mem_singleton.1 hlater
      cases hb
  · rw [heq] at hlater
    rcases List.mem_or_eq_of_mem_set hlater with hlater | rfl
    · exact hold later hlater b hb
    · have hthere : (Loader.Loaded.mk loader reg).registry.Sound :=
        hsound reg (List.mem_of_getElem? hreg)
      rcases Loader.backs_of_loadNames hthere hb with hb | hback
      · exact hold loader (List.mem_of_getElem? hloader) b hb
      · obtain ⟨hlt, -⟩ := List.getElem?_eq_some_iff.1 hreg
        exact ⟨_, heq ▸ List.mem_set hlt _, hback⟩

end Steps

/-- After any history a loader has all its loads in mind. -/
theorem remembers_run (history : List Step) (i : ℕ) :
    (run history).Remembers i (loads i history) := by
  induction history using List.reverseRecOn with
  | nil => exact ⟨nofun, fun _ => rfl⟩
  | append_singleton front next ih =>
    rw [loads_concat, run, List.foldl_append]
    exact ih.step next

/-- After any history all that is bound is of classes of registries that are there. -/
theorem backed_run (history : List Step) : (run history).Backed := by
  induction history using List.reverseRecOn with
  | nil => nofun
  | append_singleton front next ih =>
    rw [run, List.foldl_append]
    exact Backed.step ih (sound_run front) next

end Session

/-- A loader constructs objects by name as the first loads of the names say. -/
structure Loader.ConstructsByName (loader : Loader) (loads : List (String × Binding))
    (registries : List Registry) : Prop where
  /-- What a load gives constructs objects of a class of the name. -/
  loaded : ∀ name b, (name, b) ∈ loads →
    ∃ reg ∈ registries, ∃ c ∈ reg.classes, c.name = name ∧ b.Constructs c
  /-- A name constructs what its first load gave. -/
  first : ∀ name b, loads.lookup name = some b →
    ∀ parameters, loader.construct name parameters = b.construct parameters
  /-- A name is said not to be loaded if and only if no load of it succeeded. -/
  typeNotLoaded_iff : ∀ name parameters,
    loader.construct name parameters = .error (.typeNotLoaded name) ↔
      name ∉ loads.map Prod.fst

namespace Session

/-- Whatever the history, a loader constructs objects by name as the first of its loads say. -/
theorem constructs_by_name {history : List Step} {i : ℕ} {loader : Loader}
    (hloader : (run history).loaders[i]? = some loader) :
    loader.ConstructsByName (loads i history) (run history).registries := by
  have hremembers := (remembers_run history i).made loader hloader
  refine ⟨fun name b hb => ?_, fun name b hb parameters => ?_, fun name parameters => ?_⟩
  · have hfind := hremembers.again name b hb
    obtain ⟨reg, hreg, hback⟩ := backed_run history loader (List.mem_of_getElem? hloader) b
      (List.mem_of_find?_eq_some hfind)
    obtain ⟨c, hc, hb⟩ := hback.described
    have hwellFormed := ((sound_run history reg hreg).wellFormed.shapes c hc).distinct
    exact ⟨reg, hreg, c, hc, hb.className_eq.symm.trans (Loader.className_of_find? hfind),
      Binding.constructs_of_describes hb hwellFormed.of_append_left⟩
  · rw [Loader.construct, hremembers.find?_eq, hb]
  · rw [← lookup_eq_none_iff_notMem, ← hremembers.find?_eq, Loader.construct]
    cases loader.find? name with
    | none => exact ⟨fun _ => rfl, fun _ => rfl⟩
    | some b =>
      -- A binding fails only because of an attribute.
      refine ⟨fun h => ?_, nofun⟩
      exact (Binding.ofAccess_of_setAll h).elim

/-- A document with two members. -/
def firstDocument : Json := .object [("a", .bool true), ("b", .null)]

/-- A document with another member. -/
def secondDocument : Json := .object [("c", .bool true)]

/-- The first document is inferred, a class that it does not have cannot be loaded, and its root
class can; then the root class is loaded from the registry of the second document. -/
def loadedTwice : List Step :=
  [.inferDocument "root" firstDocument "" .union, .generateAll 0, .newLoader, .load 0 0 "ghost",
    .load 0 0 "root", .inferDocument "root" secondDocument "" .union, .generateAll 1,
    .load 0 1 "root"]

/-- Both loads of the root class give the class of the first document. Its attributes have the last
of their values, the attribute of the second document is unknown, and the class that could not be
loaded is not there. -/
theorem constructs_by_name_loadedTwice : ∃ loader,
    (run loadedTwice).loaders[0]? = some loader ∧
    loader.ConstructsByName (loads 0 loadedTwice) (run loadedTwice).registries ∧
    (loads 0 loadedTwice).map Prod.fst = ["root", "root"] ∧
    loader.construct "root"
      [("a", some (.bool false)), ("b", some .null), ("a", some (.bool true))] =
      .ok (.mk "root" [("a", some (.bool true)), ("b", none)] []) ∧
    loader.construct "root" [("a", none), ("c", some (.bool true)), ("z", none)] =
      .error (.unknownAttribute "root" "c") ∧
    loader.construct "ghost" [] = .error (.typeNotLoaded "ghost") := by
  have hloader : (run loadedTwice).loaders[0]? = some ⟨0, [⟨0, "root", "", ⟨"root", "root.rs"⟩,
      [⟨"a", .boolean⟩, ⟨"b", .any⟩], []⟩]⟩ := by
    decide +kernel
  have hnames : (loads 0 loadedTwice).map Prod.fst = ["root", "root"] := by decide +kernel
  have hconstructs := constructs_by_name hloader
  refine ⟨_, hloader, hconstructs, hnames, rfl, rfl, ?_⟩
  refine (hconstructs.typeNotLoaded_iff "ghost" []).2 ?_
  rw [hnames]
  decide

end Session

end DocSchema
