import DocSchema.Proofs.Entity.Elements
import DocSchema.Proofs.Entity.Failing
import DocSchema.Proofs.Inference.Places
import DocSchema.Proofs.Json.Address
import DocSchema.Proofs.Session.Histories

/-!
# Where a fragment is refused

Inference walks through the visits of a document, and building an entity through the fragments that
it reaches, which are among the visits that inference would make
(`Materialize.mem_preorder_of_reaches`). Either walk can only use objects. If it is stopped because
a fragment is none, the message `Locates` the fragment: the pointer can be read and leads to it, the
fragment is called by its kind (`Json.Called`), and the class is the one under which the walk comes
to that place (`Session.locates_of_unsupported`).

The proof finds the visit that stopped the walk (`Inference.exists_unsupported`,
`Materialize.exists_cause`). The steps of its place lead to its fragment, and the message shows them
so that they can be read back, whatever the keys are. That no other visit has the same place is a
matter of the whole, in which no object has a key twice (`locates_of_mem_preorder`).
-/

namespace DocSchema

/-- What a value is called that is no object. -/
inductive Json.Called : Json → String → Prop where
  /-- Null is called by its name. -/
  | null : Called .null "null"
  /-- A truth value is a boolean. -/
  | bool (value : Bool) : Called (.bool value) "a boolean"
  /-- A number, an integer or not, is a number. -/
  | number (value : Number) : Called (.number value) "a number"
  /-- A text is a string. -/
  | string (value : String) : Called (.string value) "a string"
  /-- A list of values is an array. -/
  | array (items : List Json) : Called (.array items) "an array"

/-- A value that is no object is called by its kind. -/
theorem Json.called_kindName {a : Json} (h : ∀ members, a ≠ .object members) :
    a.Called a.kindName := by
  cases a with
  | null => exact .null
  | bool value => exact .bool value
  | number value => exact .number value
  | string value => exact .string value
  | array items => exact .array items
  | object members => exact absurd rfl (h members)

namespace Inference

/-- Inference that is stopped by a fragment that is no object has come to the fragment. -/
theorem exists_unsupported {reg left : Registry} {mode : Merge} {name className found : String}
    {fragment : Json} {place : Pointer}
    (h : reg.inferClass mode name fragment =
      .error ⟨.unsupportedFragment className place found, left⟩) :
    ∃ w ∈ (Visit.whole name fragment).preorder, (∀ members, w.fragment ≠ .object members) ∧
      className = w.name ∧ place = w.place ∧ found = w.fragment.kindName := by
  rw [Registry.inferClass, visit_eq_performAll] at h
  obtain ⟨reg, a, ha, hstep⟩ := Chain.exists_error_of_foldlM h
  -- Only a refusal fails in this way.
  have hrefuse : a = .refuse (.unsupportedFragment className place found) := by
    cases a with
    | enter other here members =>
      rw [perform, Registry.interruptedBy, Registry.touch] at hstep
      split at hstep
      · cases hstep
      · split at hstep <;> cases hstep
    | merge other later =>
      rw [perform, Registry.mergeShape, Registry.interruptedBy, Registry.require] at hstep
      cases hc : reg.find? other with
      | none => simp [hc, bind, Except.bind, Except.mapError] at hstep
      | some c =>
        cases hmerge : c.shape.merge mode later <;>
          simp [hc, hmerge, bind, Except.bind, Except.mapError] at hstep
    | refuse failure =>
      rw [perform, Except.error.injEq, Interrupted.mk.injEq] at hstep
      rw [hstep.1]
  obtain ⟨w, hw, hown⟩ := Visit.exists_own_of_mem_course (v := Visit.whole name fragment) ha
  rw [hrefuse] at hown
  cases hown with
  | unsupported hobject => exact ⟨w, hw, hobject, rfl, rfl, rfl⟩

end Inference

/-- Building comes to fragments that inference would visit, under the same classes. -/
theorem Materialize.mem_preorder_of_reaches {reg : Registry} (hreg : reg.WellFormed)
    {v u : Inference.Visit} (h : Reaches reg v u) : u ∈ v.preorder := by
  induction h with
  | self v => exact v.mem_preorder_self
  | element hobject hc hr hw _ ih =>
    have hinferred := (hreg.shapes _ (Registry.mem_of_find? hc)).inferred _ hr
    obtain ⟨key, value, hm, hpart⟩ := mem_parts_of_mem_elements hinferred hw
    exact Inference.Visit.mem_preorder_of_inner
      (Inference.Visit.mem_inner_of_part hobject hm hpart) ih

open Inference

/-- What a message says of a fragment that is no object holds of the whole that a walk goes
through. -/
structure Locates (walk : Visit → Prop) (whole : Json) (className : String) (place : Pointer)
    (found : String) : Prop where
  /-- The pointer can be read, and leads to a value that is no object and is called by what was
  found. -/
  resolves : ∃ tokens value, Pointer.read? place.shown = some tokens ∧
    whole.at? tokens = some value ∧ (∀ members, value ≠ .object members) ∧ value.Called found
  /-- The walk comes to this place under the class. -/
  visited : ∃ u, walk u ∧ u.place.shown = place.shown ∧ u.name = className
  /-- It comes to this place under no other class. -/
  only : ∀ u, walk u → u.place.shown = place.shown → u.name = className

/-- A fragment that is visited can be located. -/
theorem locates_of_mem_preorder {name : String} {whole : Json} (hdistinct : whole.Distinct)
    {walk : Visit → Prop} (hwalk : ∀ u, walk u → u ∈ (Visit.whole name whole).preorder) {w : Visit}
    (hw : walk w) (hobject : ∀ members, w.fragment ≠ .object members) :
    Locates walk whole w.name w.place w.fragment.kindName := by
  have hpart : ∀ u, walk u → whole.part? u.place.steps = some u.fragment := by
    intro u hu
    obtain ⟨steps, hsteps, hpart⟩ :=
      exists_steps_of_mem_preorder (v := Visit.whole name whole) hdistinct (hwalk u hu)
    rw [hsteps]
    exact hpart
  refine ⟨?_, ⟨w, hw, rfl, rfl⟩, fun u hu hshown => ?_⟩
  · exact ⟨_, w.fragment, Pointer.read?_shown w.place, Json.at?_of_part? (hpart w hw), hobject,
      Json.called_kindName hobject⟩
  · have hsteps := Json.steps_eq_of_tokens_eq (hpart u hu) (hpart w hw)
      (Pointer.tokens_eq_of_shown_eq hshown)
    have hplace := Pointer.eq_of_steps_eq hsteps
    rw [eq_of_place_eq (v := Visit.whole name whole) hdistinct (hwalk u hu) (hwalk w hw) hplace]

namespace Session

/-- Whatever was done with a registry before, a failure for a fragment that is no object locates the
fragment: inference of a document or of a class in the visits of the whole, and building an entity
in the fragments that it reaches. -/
theorem locates_of_unsupported {history : List Step} {reg : Registry}
    (hreg : reg ∈ (run history).registries) {whole : Json} (hdistinct : whole.Distinct)
    {name className : String} {place : Pointer} {found : String} :
    (∀ classNamespace mode, Registry.inferDocument name whole classNamespace mode =
        .error (.unsupportedFragment className place found) →
      Locates (· ∈ (Visit.whole name whole).preorder) whole className place found) ∧
    (∀ mode left, reg.inferClass mode name whole =
        .error ⟨.unsupportedFragment className place found, left⟩ →
      Locates (· ∈ (Visit.whole name whole).preorder) whole className place found) ∧
    (reg.materialize name whole = .error (.unsupportedFragment className place found) →
      Locates (Materialize.Reaches reg (Visit.whole name whole)) whole className place found) := by
  have hinfer : ∀ start mode left, Registry.inferClass start mode name whole =
      .error ⟨.unsupportedFragment className place found, left⟩ →
        Locates (· ∈ (Visit.whole name whole).preorder) whole className place found := by
    intro start mode left h
    obtain ⟨w, hw, hobject, rfl, rfl, rfl⟩ := exists_unsupported h
    exact locates_of_mem_preorder hdistinct (fun u hu => hu) hw hobject
  refine ⟨fun classNamespace mode h => ?_, hinfer reg, fun h => ?_⟩
  · rw [Registry.inferDocument] at h
    cases hstart : Registry.inferClass _ mode name whole with
    | ok inferred =>
      rw [hstart] at h
      cases h
    | error stopped =>
      obtain ⟨failure, left⟩ := stopped
      rw [hstart] at h
      obtain rfl : failure = _ := Except.error.inj h
      exact hinfer _ mode left hstart
  · obtain ⟨w, hw, hcause⟩ := Materialize.exists_cause (v := Visit.whole name whole) h
    have hwalk : ∀ u, Materialize.Reaches reg (Visit.whole name whole) u →
        u ∈ (Visit.whole name whole).preorder :=
      fun u hu => Materialize.mem_preorder_of_reaches (sound_run history reg hreg).wellFormed hu
    cases hcause with
    | kind hobject => exact locates_of_mem_preorder hdistinct hwalk hw hobject
    | access haccess => exact haccess.elim

/-- A document with keys that are escaped in a pointer, and a list in an entry of a table. -/
def nestedLists (items : List Json) : Json :=
  .object [("m~n/", .object [("table_cs", .object [("0", .object [("liste_ys", .array items)])])])]

/-- The classes of such a document are loaded. -/
def nestedListsLoaded : List Step :=
  [.inferDocument "root" (nestedLists [.object []]) "" .union, .generateAll 0, .newLoader,
    .loadAll 0 0]

/-- The place of the second item. -/
def secondItem : Pointer :=
  ((((Pointer.root.key "m~n/").key "table_cs").key "0").key "liste_ys").index 1

/-- Values that are no objects, one of each kind, with what they are called. -/
def otherKinds : List (Json × String) :=
  [(.null, "null"), (.bool true, "a boolean"), (.number (.integer 3 (by decide)), "a number"),
    (.string "x", "a string"), (.array [], "an array")]

/-- A second item that is no object, of whatever kind, is located when the document is inferred, and
when it is materialised with the classes of another one. -/
theorem locates_of_unsupported_secondItem : ∃ reg ∈ (run nestedListsLoaded).registries,
    secondItem.shown = "/m~0n~1/table_cs/0/liste_ys/1" ∧ ∀ p ∈ otherKinds,
      Locates (· ∈ (Visit.whole "root" (nestedLists [.object [], p.1])).preorder)
        (nestedLists [.object [], p.1]) "y" secondItem p.2 ∧
      Locates (Materialize.Reaches reg (Visit.whole "root" (nestedLists [.object [], p.1])))
        (nestedLists [.object [], p.1]) "y" secondItem p.2 := by
  -- Both walks fail at this place for each of the values, in one registry for all of them.
  have hcheck : ∃ reg ∈ (run nestedListsLoaded).registries, ∀ p ∈ otherKinds,
      Chain.failure? (Registry.inferDocument "root" (nestedLists [.object [], p.1]) "" .union) =
        some (.unsupportedFragment "y" secondItem p.2) ∧
      Chain.failure? (reg.materialize "root" (nestedLists [.object [], p.1])) =
        some (.unsupportedFragment "y" secondItem p.2) := by
    decide +kernel
  have hdistinct : ∀ p ∈ otherKinds, (nestedLists [.object [], p.1]).Distinct := by
    simp [otherKinds, nestedLists, Json.Distinct, Json.DistinctItems, Json.DistinctMembers]
  obtain ⟨reg, hreg, hfails⟩ := hcheck
  refine ⟨reg, hreg, by decide, fun p hp => ?_⟩
  obtain ⟨hinferred, hbuilt⟩ := hfails p hp
  obtain ⟨hinfer, -, hbuild⟩ :=
    @locates_of_unsupported nestedListsLoaded reg hreg _ (hdistinct p hp) "root" "y" secondItem p.2
  exact ⟨hinfer "" .union (Chain.failure?_eq_some_iff.1 hinferred),
    hbuild (Chain.failure?_eq_some_iff.1 hbuilt)⟩

end Session

end DocSchema
