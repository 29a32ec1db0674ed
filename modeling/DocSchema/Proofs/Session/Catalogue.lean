import DocSchema.Proofs.Session.Histories
import Mathlib.Logic.Function.Basic

/-!
# Registries in two collections

A registry is a list of classes. It can as well be kept as a `Catalogue`: a table of the classes
under their names, and next to it the names in the order in which they came. Nothing but the
operations holds the two collections together. A class is entered into both of them or into neither,
and a class that is altered keeps its name and stays where it is; so whatever the operations are,
the order lists the names in the table, each once (`Catalogue.tied_of_made`).

An operation does to a registry what it does to its catalogue (`Registry.catalogue_operate`), and
all changes of a registry come down to operations (`Registry.exists_operations`). So the catalogues
of the registries in use are made by operations, whatever the history (`Session.made_of_run`).
-/

namespace DocSchema

/-- A change of classes that keeps their names and namespaces. -/
structure Alteration where
  /-- The changed class. -/
  change : EntityClass → EntityClass
  /-- The name stays. -/
  name_eq : ∀ c, (change c).name = c.name
  /-- The namespace stays. -/
  classNamespace_eq : ∀ c, (change c).classNamespace = c.classNamespace

/-- An operation on the classes of a registry. -/
inductive Operation where
  /-- Enters a class under a name that is not there yet. -/
  | enter (name : String)
  /-- Alters the class of a name. -/
  | alter (name : String) (alteration : Alteration)
  /-- Ends the changes of shapes. -/
  | freeze

/-- A registry whose classes are kept in two collections. -/
@[ext]
structure Catalogue where
  /-- The namespace of new classes. -/
  classNamespace : String
  /-- The name of the class of the whole document, once known. -/
  rootName : Option String
  /-- The classes under their names. -/
  table : String → Option EntityClass
  /-- The names, in the order in which they came. -/
  order : List String
  /-- No shape changes any more. -/
  frozen : Bool

namespace Catalogue

/-- A catalogue without classes. -/
def empty (classNamespace : String) (rootName : Option String) : Catalogue where
  classNamespace
  rootName
  table _ := none
  order := []
  frozen := false

/-- Enters a class under a name, at the end of the order. -/
def enter (k : Catalogue) (name : String) : Catalogue :=
  { k with
    table := Function.update k.table name (some (.new name k.classNamespace))
    order := k.order ++ [name] }

/-- Alters the class of a name. -/
def alter (k : Catalogue) (name : String) (alteration : Alteration) : Catalogue :=
  { k with table := Function.update k.table name ((k.table name).map alteration.change) }

/-- Performs an operation. -/
def operate (k : Catalogue) : Operation → Catalogue
  | .enter name => if k.frozen = true ∨ (k.table name).isSome = true then k else k.enter name
  | .alter name alteration => k.alter name alteration
  | .freeze => { k with frozen := true }

/-- A catalogue is made by operations from one without classes. -/
def Made (k : Catalogue) : Prop :=
  ∃ classNamespace rootName operations,
    k = List.foldl operate (empty classNamespace rootName) operations

/-- The two collections of a catalogue are tied to each other. -/
structure Tied (k : Catalogue) : Prop where
  /-- No name comes twice. -/
  nodup : k.order.Nodup
  /-- The order lists the names in the table. -/
  mem_order_iff : ∀ name, name ∈ k.order ↔ ∃ c, k.table name = some c
  /-- A class is under its own name. -/
  name_eq : ∀ name c, k.table name = some c → c.name = name
  /-- It is in the namespace of the catalogue. -/
  classNamespace_eq : ∀ name c, k.table name = some c → c.classNamespace = k.classNamespace

namespace Tied

variable {k : Catalogue} (hk : k.Tied) {name : String}
include hk

/-- A class that is entered under a new name comes into both collections. -/
theorem enter (hnew : k.table name = none) : (k.enter name).Tied := by
  have hfree : name ∉ k.order := by
    rw [hk.mem_order_iff]
    simp [hnew]
  have hclass : ∀ other c, (k.enter name).table other = some c →
      k.table other = some c ∨ other = name ∧ c = .new name k.classNamespace := by
    intro other c hc
    by_cases hother : other = name
    · subst hother
      exact .inr ⟨rfl, by simpa [Catalogue.enter, eq_comm] using hc⟩
    · exact .inl (by simpa [Catalogue.enter, hother] using hc)
  refine ⟨?_, fun other => ?_, fun other c hc => ?_, fun other c hc => ?_⟩
  · exact List.nodup_append.2 ⟨hk.nodup, List.nodup_singleton name, by grind⟩
  · by_cases hother : other = name
    · simp [Catalogue.enter, hother]
    · simp [Catalogue.enter, hother, hk.mem_order_iff]
  · rcases hclass other c hc with hc | ⟨rfl, rfl⟩
    · exact hk.name_eq other c hc
    · rfl
  · rcases hclass other c hc with hc | ⟨-, rfl⟩
    · exact hk.classNamespace_eq other c hc
    · rfl

/-- A class that is altered stays where it is. -/
theorem alter (alteration : Alteration) : (k.alter name alteration).Tied := by
  have hclass : ∀ other d, (k.alter name alteration).table other = some d →
      ∃ c, k.table other = some c ∧ (d = c ∨ d = alteration.change c) := by
    intro other d hd
    by_cases hother : other = name
    · subst hother
      have hmap : (k.table other).map alteration.change = some d := by
        simpa [Catalogue.alter] using hd
      obtain ⟨c, hc, rfl⟩ := Option.map_eq_some_iff.1 hmap
      exact ⟨c, hc, .inr rfl⟩
    · exact ⟨d, by simpa [Catalogue.alter, hother] using hd, .inl rfl⟩
  refine ⟨hk.nodup, fun other => ?_, fun other d hd => ?_, fun other d hd => ?_⟩
  · refine (hk.mem_order_iff other).trans ?_
    by_cases hother : other = name <;> simp [Catalogue.alter, hother]
  · obtain ⟨c, hc, rfl | rfl⟩ := hclass other d hd
    · exact hk.name_eq other d hc
    · exact (alteration.name_eq c).trans (hk.name_eq other c hc)
  · obtain ⟨c, hc, rfl | rfl⟩ := hclass other d hd
    · exact hk.classNamespace_eq other d hc
    · exact (alteration.classNamespace_eq c).trans (hk.classNamespace_eq other c hc)

/-- An operation keeps the collections tied. -/
theorem operate (operation : Operation) : (k.operate operation).Tied := by
  cases operation with
  | enter name =>
    rw [Catalogue.operate]
    split
    · exact hk
    · next hnew => exact hk.enter (by simpa using (not_or.1 hnew).2)
  | alter name alteration => exact hk.alter alteration
  | freeze => exact ⟨hk.nodup, hk.mem_order_iff, hk.name_eq, hk.classNamespace_eq⟩

end Tied

/-- Whatever the operations are, they keep the collections tied. -/
theorem tied_of_made {k : Catalogue} (h : k.Made) : k.Tied := by
  obtain ⟨classNamespace, rootName, operations, rfl⟩ := h
  induction operations using List.reverseRecOn with
  | nil => exact ⟨.nil, by simp [empty], by simp [empty], by simp [empty]⟩
  | append_singleton front operation ih =>
    rw [List.foldl_append]
    exact ih.operate operation

/-- More operations make a catalogue out of one that is made. -/
theorem Made.foldl {k : Catalogue} (h : k.Made) (operations : List Operation) :
    (operations.foldl operate k).Made := by
  obtain ⟨classNamespace, rootName, front, rfl⟩ := h
  exact ⟨classNamespace, rootName, front ++ operations, by rw [List.foldl_append]⟩

end Catalogue

namespace Registry

/-- The catalogue of a registry. -/
def catalogue (reg : Registry) : Catalogue where
  classNamespace := reg.classNamespace
  rootName := reg.rootName
  table := reg.find?
  order := reg.classNames
  frozen := reg.frozen

/-- Performs an operation. -/
def operate (reg : Registry) : Operation → Registry
  | .enter name => (reg.touch name).toOption.getD reg
  | .alter name alteration => reg.update name alteration.change
  | .freeze => reg.freeze

/-- A class that comes behind all others is entered into the catalogue. -/
theorem catalogue_concat {reg : Registry} {name : String} (h : reg.find? name = none) :
    catalogue { reg with classes := reg.classes ++ [.new name reg.classNamespace] } =
      reg.catalogue.enter name := by
  refine Catalogue.ext rfl rfl (funext fun other => ?_) ?_ rfl
  · show find? _ other = Function.update reg.find? name _ other
    rw [find?, List.find?_append]
    by_cases hother : other = name
    · subst hother
      rw [Function.update_self, show reg.classes.find? (·.name == other) = none from h]
      simp [EntityClass.new, catalogue]
    · rw [Function.update_of_ne hother]
      have hne : name ≠ other := Ne.symm hother
      simp [EntityClass.new, hne, find?]
  · show classNames _ = reg.classNames ++ [name]
    simp [classNames, EntityClass.new]

/-- A class that is changed but for its name and its namespace is altered in the catalogue. -/
theorem catalogue_update (reg : Registry) (name : String) (alteration : Alteration) :
    (reg.update name alteration.change).catalogue = reg.catalogue.alter name alteration := by
  refine Catalogue.ext rfl rfl (funext fun other => ?_) (classNames_update alteration.name_eq) rfl
  show (reg.update name alteration.change).find? other =
    Function.update reg.find? name ((reg.find? name).map alteration.change) other
  rw [find?_update alteration.name_eq]
  by_cases hother : other = name
  · subst hother
    rw [Function.update_self]
    exact Option.map_congr fun c hc => if_pos (name_of_find? hc)
  · rw [Function.update_of_ne hother]
    cases hc : reg.find? other with
    | none => rfl
    | some c => rw [Option.map_some, if_neg (name_of_find? hc ▸ hother)]

/-- An operation does to a registry what it does to its catalogue. -/
theorem catalogue_operate (reg : Registry) (operation : Operation) :
    (reg.operate operation).catalogue = reg.catalogue.operate operation := by
  cases operation with
  | enter name =>
    rw [operate, touch, Catalogue.operate]
    by_cases hfrozen : reg.frozen = true
    · rw [if_pos hfrozen, if_pos (.inl hfrozen)]
      rfl
    · by_cases hcontains : reg.contains name = true
      · rw [if_neg hfrozen, if_pos hcontains, if_pos (.inr hcontains)]
        rfl
      · have hnew : ¬(reg.catalogue.frozen = true ∨ (reg.catalogue.table name).isSome = true) :=
          not_or.2 ⟨hfrozen, hcontains⟩
        rw [if_neg hfrozen, if_neg hcontains, if_neg hnew]
        exact catalogue_concat (by simpa [contains] using hcontains)
  | alter name alteration => exact catalogue_update reg name alteration
  | freeze => rfl

/-- Operations do to a registry what they do to its catalogue. -/
theorem catalogue_foldl_operate (reg : Registry) (operations : List Operation) :
    (operations.foldl operate reg).catalogue =
      operations.foldl Catalogue.operate reg.catalogue := by
  induction operations generalizing reg with
  | nil => rfl
  | cons operation rest ih =>
    rw [List.foldl_cons, List.foldl_cons, ih, catalogue_operate]

/-- The note of the generated code of a class. -/
def noteCode : Alteration where
  change c := { c with artifact := some c.codeRef }
  name_eq _ := rfl
  classNamespace_eq _ := rfl

/-- Noting the code of classes one after the other notes it on those that are named. -/
theorem foldl_noteCode (reg : Registry) (names : List String) :
    (names.map fun name => Operation.alter name noteCode).foldl operate reg =
      { reg with classes := reg.classes.map fun c =>
          if c.name ∈ names then noteCode.change c else c } := by
  induction names generalizing reg with
  | nil => simp
  | cons name rest ih =>
    rw [List.map_cons, List.foldl_cons, ih]
    show Registry.mk _ _ (List.map _ (List.map _ _)) _ = _
    rw [List.map_map]
    congr 1
    refine List.map_congr_left fun c _ => ?_
    -- A name may come again: the note depends on the name and the namespace, which stay.
    by_cases hname : c.name = name <;> by_cases hrest : c.name ∈ rest <;>
      simp [hname, hrest, noteCode, EntityClass.codeRef]

/-- All that a change does, operations do. -/
theorem exists_operations {reg next : Registry} (h : reg.Change next) :
    ∃ operations : List Operation, next = operations.foldl operate reg := by
  cases h with
  | @enter name hopen hnew =>
    have hcontains : ¬reg.contains name = true := fun h => hnew (contains_iff.1 h)
    refine ⟨[.enter name], ?_⟩
    rw [List.foldl_cons, List.foldl_nil, operate, touch, if_neg (by simp [hopen]),
      if_neg hcontains]
    rfl
  | @merge name c later mode hopen hc hlater =>
    exact ⟨[.alter name ⟨fun d => { d with shape := .left (c.shape.merge mode later) },
      fun _ => rfl, fun _ => rfl⟩], rfl⟩
  | freeze => exact ⟨[.freeze], rfl⟩
  | generate =>
    refine ⟨.freeze :: reg.classNames.map fun name => .alter name noteCode, ?_⟩
    rw [List.foldl_cons, foldl_noteCode]
    show Registry.mk _ _ _ _ = Registry.mk _ _ _ _
    congr 1
    refine List.map_congr_left fun c hc => ?_
    exact (if_pos (List.mem_map_of_mem hc)).symm
  | @bind loader name c artifact hc hartifact =>
    exact ⟨[.alter name ⟨fun d => { d with binding := some (loader.bind c artifact) },
      fun _ => rfl, fun _ => rfl⟩], rfl⟩

/-- A change of a registry makes its catalogue from one that is made. -/
theorem made_of_change {reg next : Registry} (hreg : reg.catalogue.Made) (h : reg.Change next) :
    next.catalogue.Made := by
  obtain ⟨operations, rfl⟩ := exists_operations h
  rw [catalogue_foldl_operate]
  exact hreg.foldl operations

end Registry

/-- Whatever the history, the catalogues of the registries of a session are made by operations. -/
theorem Session.made_of_run (history : List Step) :
    ∀ reg ∈ (run history).registries, reg.catalogue.Made := by
  refine forall_run (fun reg hblank => ?_) (fun _ _ => Registry.made_of_change) history
  obtain ⟨classNamespace, rootName, classes, frozen⟩ := reg
  obtain ⟨rfl, rfl⟩ : classes = [] ∧ frozen = false := hblank
  exact ⟨classNamespace, rootName, [], rfl⟩

end DocSchema
