import DocSchema.Proofs.Session.Registries

/-!
# Histories

A session is the registries and loaders that are in use side by side. A history is a list of steps:
registries are made, inferred, copied and frozen, their code is generated, and any loader loads
classes of any registry. A step changes the registries that are there, and it may put one behind
them (`step_cases`); so what the changes of a registry keep holds of all registries after every
history (`forall_run`). In particular they are sound (`sound_run`).
-/

namespace DocSchema

/-- The registries and the loaders in use, in the order in which they were made. -/
structure Session where
  /-- The registries. -/
  registries : List Registry
  /-- The loaders. -/
  loaders : List Loader

namespace Session

/-- A step of a history; registries and loaders are named by their positions. -/
inductive Step where
  /-- Makes a registry without classes. -/
  | newRegistry (classNamespace : String)
  /-- Infers the registry of a document. -/
  | inferDocument (rootName : String) (document : Json) (classNamespace : String) (mode : Merge)
  /-- Infers a class into a registry. -/
  | inferClass (registry : Nat) (mode : Merge) (name : String) (fragment : Json)
  /-- Copies a registry. -/
  | copy (registry : Nat)
  /-- Freezes a registry. -/
  | freeze (registry : Nat)
  /-- Generates the code of a registry. -/
  | generateAll (registry : Nat)
  /-- Makes a loader. -/
  | newLoader
  /-- Loads a class of a registry. -/
  | load (loader registry : Nat) (className : String)
  /-- Loads all classes of a registry. -/
  | loadAll (loader registry : Nat)

/-- The session with a loader and a registry as they are after loading. -/
def withLoaded (s : Session) (loader registry : Nat) (loaded : Loader.Loaded) : Session where
  registries := s.registries.set registry loaded.registry
  loaders := s.loaders.set loader loaded.loader

/-- Changes the registry at a position. -/
def modify (s : Session) (registry : Nat) (change : Registry → Registry) : Session :=
  { s with registries := s.registries.modify registry change }

/-- The session after a step. What fails leaves the session as it was, but for the classes that
inference had taken in and those that were loaded before; so does a step on a registry or a loader
that is not there. -/
def step (s : Session) : Step → Session
  | .newRegistry classNamespace => { s with registries := s.registries ++ [.new classNamespace] }
  | .inferDocument rootName document classNamespace mode =>
    let inferred := Registry.inferDocument rootName document classNamespace mode
    { s with registries := s.registries ++ inferred.toOption.toList }
  | .inferClass registry mode name fragment =>
    s.modify registry fun reg => .left (reg.inferClass mode name fragment)
  | .copy registry => { s with registries := s.registries ++ s.registries[registry]?.toList }
  | .freeze registry => s.modify registry Registry.freeze
  | .generateAll registry => s.modify registry fun reg => (Source.generateAll reg).1
  | .newLoader => { s with loaders := s.loaders ++ [.new s.loaders.length] }
  | .load i j className =>
    match s.loaders[i]?, s.registries[j]? with
    | some loader, some reg =>
      match loader.load reg className with
      | .ok (loaded, _) => s.withLoaded i j loaded
      | .error _ => s
    | _, _ => s
  | .loadAll i j =>
    match s.loaders[i]?, s.registries[j]? with
    | some loader, some reg => s.withLoaded i j (loader.loadAll reg).1
    | _, _ => s

/-- The session after a history. -/
def run (history : List Step) : Session := history.foldl step ⟨[], []⟩

/-- All registries of a session are sound. -/
def Sound (s : Session) : Prop := ∀ reg ∈ s.registries, reg.Sound

/-- A registry has no classes yet and can take in some. -/
def Blank (reg : Registry) : Prop := reg.classes = [] ∧ reg.frozen = false

section Steps

variable {s : Session}

/-- A change of the registry at a position changes the registries. -/
theorem changes_modify (s : Session) (registry : ℕ) {change : Registry → Registry}
    (hchange : ∀ reg : Registry, reg.Changes (change reg)) :
    List.Forall₂ Registry.Changes s.registries (s.modify registry change).registries := by
  rw [modify, List.modify_eq_set_getElem?]
  cases hold : s.registries[registry]? with
  | none => exact List.forall₂_same.2 fun reg _ => .refl
  | some old =>
    refine Chain.forall₂_set (fun reg => .refl) fun reg hreg => ?_
    obtain rfl := Option.some.inj (hold.symm.trans hreg)
    exact hchange _

/-- Loading classes of a registry changes the registries. -/
theorem changes_withLoaded {loader registry : ℕ} {reg : Registry} {loaded : Loader.Loaded}
    (hreg : s.registries[registry]? = some reg) (hchange : reg.Changes loaded.registry) :
    List.Forall₂ Registry.Changes s.registries
      (s.withLoaded loader registry loaded).registries := by
  refine Chain.forall₂_set (fun reg => .refl) fun old hold => ?_
  obtain rfl := Option.some.inj (hreg.symm.trans hold)
  exact hchange

/-- What a step makes of the registries: those that are there, changed, and others behind them. -/
structure Advance (s : Session) (next : Step) (kept made : List Registry) : Prop where
  /-- These are the registries after the step. -/
  registries_eq : (s.step next).registries = kept ++ made
  /-- The first of them are those that were there, changed. -/
  kept_changes : List.Forall₂ Registry.Changes s.registries kept
  /-- The others are the copy of one, or are made from blank registries. -/
  made_cases : (∃ i, next = .copy i ∧ made = s.registries[i]?.toList) ∨
    (∀ i, next ≠ .copy i) ∧ ∀ reg ∈ made, ∃ start, Blank start ∧ start.Changes reg

/-- A step that is no copy and changes the registries that are there makes no other ones. -/
theorem advance_of_changes {next : Step} (hcopy : ∀ i, next ≠ .copy i)
    (h : List.Forall₂ Registry.Changes s.registries (s.step next).registries) :
    s.Advance next (s.step next).registries [] :=
  ⟨(List.append_nil _).symm, h, .inr ⟨hcopy, by simp⟩⟩

/-- All that a step does to the registries: it changes those that are there, and may put one behind
them. -/
theorem step_cases (s : Session) (next : Step) : ∃ kept made, s.Advance next kept made := by
  have hsame : List.Forall₂ Registry.Changes s.registries s.registries :=
    List.forall₂_same.2 fun reg _ => .refl
  cases next with
  | newRegistry classNamespace =>
    refine ⟨s.registries, [.new classNamespace], rfl, hsame, .inr ⟨by simp, fun reg hreg => ?_⟩⟩
    obtain rfl := List.mem_singleton.1 hreg
    exact ⟨_, ⟨rfl, rfl⟩, .refl⟩
  | inferDocument rootName document classNamespace mode =>
    refine ⟨s.registries, _, rfl, hsame, .inr ⟨by simp, fun reg hreg => ?_⟩⟩
    have hchanges := Registry.changes_left_inferClass
      { Registry.new classNamespace with rootName := some rootName } mode rootName document
    rw [Registry.inferDocument] at hreg
    generalize Registry.inferClass _ mode rootName document = result at hreg hchanges
    cases result with
    | error stopped => cases hreg
    | ok inferred =>
      obtain rfl := List.mem_singleton.1 hreg
      exact ⟨_, ⟨rfl, rfl⟩, hchanges⟩
  | inferClass registry mode name fragment =>
    refine ⟨_, [], advance_of_changes (by simp) ?_⟩
    exact changes_modify s registry fun reg => reg.changes_left_inferClass mode name fragment
  | copy registry => exact ⟨s.registries, _, rfl, hsame, .inl ⟨registry, rfl, rfl⟩⟩
  | freeze registry =>
    refine ⟨_, [], advance_of_changes (by simp) ?_⟩
    exact changes_modify s registry fun reg => .single .freeze
  | generateAll registry =>
    refine ⟨_, [], advance_of_changes (by simp) ?_⟩
    exact changes_modify s registry fun reg => .single .generate
  | newLoader => exact ⟨_, [], advance_of_changes (by simp) hsame⟩
  | load i j className =>
    refine ⟨_, [], advance_of_changes (by simp) ?_⟩
    rw [step]
    split
    · next loader reg hloader hreg =>
      split
      · next loaded b hload => exact changes_withLoaded hreg (Loader.changes_of_load hload)
      · exact hsame
    · exact hsame
  | loadAll i j =>
    refine ⟨_, [], advance_of_changes (by simp) ?_⟩
    rw [step]
    split
    · next loader reg hloader hreg =>
      exact changes_withLoaded hreg (Loader.changes_loadAll loader reg)
    · exact hsame

/-- What blank registries have and every change keeps, a step keeps for all registries. -/
theorem forall_step {P : Registry → Prop} (hblank : ∀ reg, Blank reg → P reg)
    (hchange : ∀ reg next : Registry, P reg → reg.Change next → P next)
    (hs : ∀ reg ∈ s.registries, P reg) (next : Step) :
    ∀ reg ∈ (s.step next).registries, P reg := by
  obtain ⟨kept, made, hregistries, hkept, hmade⟩ := step_cases s next
  rw [hregistries]
  refine List.forall_mem_append.2 ⟨fun reg hreg => ?_, fun reg hreg => ?_⟩
  · obtain ⟨old, hold, hchanges⟩ := Chain.exists_of_mem_right hkept hreg
    exact hchanges.invariant hchange (hs old hold)
  · rcases hmade with ⟨i, -, rfl⟩ | ⟨-, hstart⟩
    · exact hs reg (List.mem_of_getElem? (Option.mem_toList.1 hreg))
    · obtain ⟨start, hstart, hchanges⟩ := hstart reg hreg
      exact hchanges.invariant hchange (hblank start hstart)

end Steps

/-- What blank registries have and every change keeps, all registries of a session have, whatever
the history. -/
theorem forall_run {P : Registry → Prop} (hblank : ∀ reg, Blank reg → P reg)
    (hchange : ∀ reg next : Registry, P reg → reg.Change next → P next) (history : List Step) :
    ∀ reg ∈ (run history).registries, P reg := by
  induction history using List.reverseRecOn with
  | nil => nofun
  | append_singleton front next ih =>
    rw [run, List.foldl_append]
    exact forall_step hblank hchange ih next

/-- Whatever the history, the registries of a session are sound. -/
theorem sound_run (history : List Step) : (run history).Sound :=
  forall_run (fun _ hblank => Registry.sound_of_classes_eq_nil hblank.1)
    (fun _ _ hreg => hreg.change) history

/-- Whatever the history, the classes of a registry have its namespace. -/
theorem homed_run (history : List Step) : ∀ reg ∈ (run history).registries, reg.Homed :=
  forall_run (fun _ hblank => Registry.homed_of_classes_eq_nil hblank.1)
    (fun _ _ hreg => hreg.change) history

end Session

end DocSchema
