import DocSchema.Proofs.Inference.Begun
import DocSchema.Proofs.Session.Catalogue

/-!
# The classes of a registry in use

Whatever was done with a registry, its names and its classes fit together (`Registry.Orderly`): no
name comes twice, each class is found by its own name and is in the namespace of the registry, no
member name of a class comes twice, and the names of every relationship follow from the key it was
seen under. The first of these are what the operations on a table of classes and the order of their
names keep (`Catalogue.Tied`); the last two are about the shapes, and come from inference.

Inference that goes on from there puts new classes behind the old ones and touches only those that
it visits, even if it is stopped (`Session.orderly_of_run`).
-/

namespace DocSchema

/-- The names of a registry and its classes fit together. -/
structure Registry.Orderly (reg : Registry) : Prop where
  /-- No name comes twice. -/
  nodup : reg.classNames.Nodup
  /-- The names are those under which a class is found. -/
  mem_classNames_iff : ∀ name, name ∈ reg.classNames ↔ ∃ c, reg.find? name = some c
  /-- In order, they find the classes. -/
  map_find? : reg.classNames.map reg.find? = reg.classes.map some
  /-- A class is found by its own name. -/
  name_eq : ∀ name c, reg.find? name = some c → c.name = name
  /-- It is in the namespace of the registry. -/
  classNamespace_eq : ∀ name c, reg.find? name = some c → c.classNamespace = reg.classNamespace
  /-- None of its member names comes twice. -/
  distinct : ∀ name c, reg.find? name = some c →
    (c.shape.attributes.map Attribute.name ++ c.shape.relationships.map Relationship.name).Nodup
  /-- The names of its relationships follow from their keys. -/
  inferred : ∀ name c, reg.find? name = some c → ∀ r ∈ c.shape.relationships, r.Inferred name

/-- In a well-formed registry whose catalogue is made by operations, names and classes fit
together. -/
theorem Registry.WellFormed.orderly {reg : Registry} (hreg : reg.WellFormed)
    (hmade : reg.catalogue.Made) : reg.Orderly := by
  have htied : reg.catalogue.Tied := Catalogue.tied_of_made hmade
  refine
    { nodup := htied.nodup
      mem_classNames_iff := htied.mem_order_iff
      map_find? := ?_
      name_eq := htied.name_eq
      classNamespace_eq := htied.classNamespace_eq
      distinct := fun name c hc => (hreg.shapes c (mem_of_find? hc)).distinct
      inferred := fun name c hc r hr => ?_ }
  · unfold classNames
    rw [List.map_map]
    exact List.map_congr_left fun c hc => find?_eq_some_of_mem hreg.nodup hc
  · rw [← name_of_find? hc]
    exact (hreg.shapes c (mem_of_find? hc)).inferred r hr

namespace Session

/-- Whatever the history, the table and the order of a registry are made by operations, names and
classes fit together, and inference extends the registry by the classes that it visits. -/
theorem orderly_of_run {history : List Step} {reg : Registry}
    (hreg : reg ∈ (run history).registries) :
    reg.catalogue.Made ∧ reg.Orderly ∧ ∀ mode name fragment, reg.Extended mode name fragment := by
  have hsound := sound_run history reg hreg
  have hmade := made_of_run history reg hreg
  exact ⟨hmade, hsound.wellFormed.orderly hmade,
    Registry.extended_inferClass hsound.wellFormed.nodup⟩

/-- An item that is no object, behind one that is. -/
def unevenItems : Json := .object [("liste_ys", .array [.object [("a", .bool true)], .bool true])]

/-- Inference is stopped at the item and tried once more. -/
def stoppedTwice : List Step :=
  [.newRegistry "space", .inferClass 0 .union "root" unevenItems,
    .inferClass 0 .union "x" unevenItems]

/-- What was inferred before it was stopped is in order, and can be extended. -/
theorem orderly_of_run_stoppedTwice : ∃ reg ∈ (run stoppedTwice).registries,
    reg.classNames = ["root", "y", "x"] ∧ reg.Orderly ∧
      reg.Extended .overwrite "root" unevenItems ∧
      (reg.visited .overwrite "root" unevenItems).map Inference.Visit.name = ["root", "y"] := by
  have hcheck : ((run stoppedTwice).registries.any fun reg =>
      decide (reg.classNames = ["root", "y", "x"] ∧
        (reg.visited .overwrite "root" unevenItems).map Inference.Visit.name =
          ["root", "y"])) = true := by
    decide +kernel
  obtain ⟨reg, hreg, htest⟩ := List.any_eq_true.1 hcheck
  obtain ⟨hnames, hvisited⟩ := of_decide_eq_true htest
  obtain ⟨-, horderly, hextended⟩ := orderly_of_run hreg
  exact ⟨reg, hreg, hnames, horderly, hextended .overwrite "root" unevenItems, hvisited⟩

end Session

end DocSchema
