import DocSchema.Proofs.Entity.Tables
import DocSchema.Proofs.Pipeline.Kinds
import DocSchema.Proofs.Pipeline.Rebuild

/-!
# Tables of documents

In a run that unites shapes, the entity of an object keeps the entries of a table apart if their
identifiers are: the relationship of the table holds one entity for each entry, in the order of the
document, and the identifier of an entry finds the entity that was made of it (`tables_of_run`).
-/

namespace DocSchema.Pipeline

open Inference Materialize

/-- The identifiers of the entries of a table: what their objects hold under the index field. -/
def Identified (field : String) (entries : Members) (ids : List Json) : Prop :=
  List.Forall₂ (fun entry id => ∃ members, entry.2 = .object members ∧
    members.lookup field = some id) entries ids

/-- An entity holds the entries of a table and finds them. -/
structure HoldsTable (reg : Registry) (e : Entity) (r : Relationship) (here : Pointer)
    (entries : Members) (ids : List Json) (items : List Entity) : Prop where
  /-- The relationship holds the items and nothing else, in order. -/
  iter_eq : e.iter r.name = .ok items
  /-- There is one item for each entry, and it was made of the entry. -/
  made : List.Forall₂ (fun entry item =>
    entityOf reg ⟨r.target, here.key entry.1, entry.2⟩ = .ok item) entries items
  /-- The identifier of an entry finds its item. -/
  found : List.Forall₂ (fun id item => e.get r.name id = .ok (some item)) ids items

section Rests

variable {rootName : String} {document : Json} {reg : Registry} {root : Entity}
  (hrests : Rests rootName document .union reg root)
include hrests

/-- An object that was visited has an entity of its class, and the class has a relationship for each
table of the object. -/
theorem exists_table {name : String} {here : Pointer} {members : Members}
    (henter : .enter name here members ∈ course rootName .root document) :
    ∃ c e, reg.find? name = some c ∧ entityOf reg ⟨name, here, .object members⟩ = .ok e ∧
      ∀ key entries, members.lookup key = some (.object entries) →
        Text.startsWith tableStart key = true →
          tableRelationship name key entries ∈ c.shape.relationships := by
  have hv := Visit.course_subset_of_enter (v := ⟨rootName, .root, document⟩)
    hrests.yields.smooth henter
  obtain ⟨_, c, shape, hobject, hc, -, hshape, hextends⟩ := exists_class hrests.yields hv
  obtain rfl := Json.object.inj hobject
  obtain ⟨e, he⟩ := exists_entityOf hrests.ready hrests.yields _ hv
  refine ⟨c, e, hc, he, fun key entries hlookup hstart => ?_⟩
  exact (hextends rfl).relationships (mem_shape_of_relationshipOf hshape
    (mem_of_lookup_eq_some hlookup) (if_pos hstart))

/-- The key of the entity of an entry is the identifier of the entry, rendered. -/
theorem keyOf_entry {name field : String} {here : Pointer} {members : Members}
    (hv : (⟨name, here, .object members⟩ : Visit).course ⊆ course rootName .root document)
    {id : Json} (hid : members.lookup field = some id) (hkind : (Kind.of? id).isSome = true)
    (hnull : id.isNull = false) {e : Entity}
    (he : entityOf reg ⟨name, here, .object members⟩ = .ok e) :
    e.keyOf field = renderValue id := by
  obtain ⟨_, c, shape, hobject, hc, -, hshape, hextends⟩ := exists_class hrests.yields hv
  obtain rfl := Json.object.inj hobject
  obtain ⟨kind, hkind⟩ := Option.isSome_iff_exists.1 hkind
  obtain ⟨k, hk, -⟩ := (hextends rfl).kinds field kind
    (kind?_of_shapeFrom hshape (mem_of_lookup_eq_some hid) hkind)
  have hfield := Shape.isSome_kind?_iff.1 (Option.isSome_of_eq_some hk)
  rw [keyOf_of_entityOf hrests.ready hc hfield he, hid]
  simp [Option.filter, hnull, indexKey]

/-- A table whose identifiers are apart is held whole. -/
theorem exists_holdsTable {name key : String} {here : Pointer} {members entries : Members}
    (henter : .enter name here members ∈ course rootName .root document)
    (hlookup : members.lookup key = some (.object entries))
    (hstart : Text.startsWith tableStart key = true) {e : Entity}
    (he : entityOf reg ⟨name, here, .object members⟩ = .ok e) {ids : List Json}
    (hids : Identified (indexField (relatedClassName tableStart key) entries) entries ids)
    (hapart : Apart ids) : ∃ items,
      HoldsTable reg e (tableRelationship name key entries) (here.key key) entries ids items := by
  have hv := Visit.course_subset_of_enter (v := ⟨rootName, .root, document⟩)
    hrests.yields.smooth henter
  obtain ⟨c, _, hc, -, htables⟩ := exists_table hrests henter
  obtain ⟨field, hfield⟩ : ∃ field, indexField (relatedClassName tableStart key) entries = field :=
    ⟨_, rfl⟩
  obtain ⟨r, hr⟩ : ∃ r, tableRelationship name key entries = r := ⟨_, rfl⟩
  have hstorage : r.storage = .indexed field := by rw [← hr, ← hfield]; rfl
  have htarget : r.target = relatedClassName tableStart key := by rw [← hr]; rfl
  rw [hfield] at hids
  have hmem := htables key entries hlookup hstart
  have hrelated : relationshipOf name key (.object entries) = some r := hr ▸ if_pos hstart
  rw [hr] at hmem ⊢
  -- The elements of the relationship are the entries, one by one.
  have hparts : parts here key (.object entries) = entries.map fun entry =>
      ⟨r.target, (here.key key).key entry.1, entry.2⟩ := by
    rw [htarget]
    exact if_pos hstart
  obtain ⟨items, hitems, hslot⟩ := exists_slot_of_entityOf hrests.ready hc hmem he
  rw [elements_eq_of_relationshipOf hlookup hrelated] at hitems
  have hmade : List.Forall₂ (fun entry item =>
      entityOf reg ⟨r.target, (here.key key).key entry.1, entry.2⟩ = .ok item) entries items := by
    rw [hparts] at hitems
    exact List.forall₂_map_left_iff.1 hitems
  have hkeys : List.Forall₂ (fun id item => item.keyOf field = renderValue id) ids items := by
    refine ((List.forall₂_and_left _ _).2 ⟨fun id hid => hid, Chain.forall₂_join hids hmade⟩).imp ?_
    rintro id item ⟨hid, ⟨entry, value⟩, hentry, ⟨fields, hvalue, hfound⟩, hentity⟩
    obtain rfl : value = .object fields := hvalue
    obtain ⟨hnull, hkind⟩ := hapart.isNull_eq_false hid
    have hpart : ⟨r.target, (here.key key).key entry, .object fields⟩ ∈
        parts here key (.object entries) := hparts ▸ List.mem_map.2 ⟨_, hentry, rfl⟩
    exact keyOf_entry hrests (part_subset hrests.yields hv
      (mem_of_lookup_eq_some hlookup) hpart) hfound hkind hnull hentity
  obtain ⟨hiter, hfound⟩ := Entity.iter_and_get_of_fill hslot hstorage hkeys hapart
  exact ⟨items, hiter, hmade, hfound⟩

end Rests

/-- In a run that unites shapes every entity of the graph is that of an object of the document, and
every object of the document has an entity that holds each table of the object whose identifiers are
apart: one item for each entry, in order, which the identifier of the entry finds. -/
theorem tables_of_run {rootName classNamespace : String} {document : Json} {denyIssues : Bool}
    {p : Pipeline} (h : run rootName document classNamespace ⟨.union, denyIssues⟩ = .ok p) :
    (∀ t e, p.root.at? t = some e → ∃ name here members,
      .enter name here members ∈ course rootName .root document ∧
        entityOf p.registry ⟨name, here, .object members⟩ = .ok e) ∧
    ∀ name here members, .enter name here members ∈ course rootName .root document →
      ∃ e, entityOf p.registry ⟨name, here, .object members⟩ = .ok e ∧
        ∀ key entries, members.lookup key = some (.object entries) →
          Text.startsWith tableStart key = true →
            tableRelationship name key entries ∈ p.registry.relationshipsOf name ∧
            ∀ ids, Identified (indexField (relatedClassName tableStart key) entries) entries ids →
              Apart ids → ∃ items, HoldsTable p.registry e (tableRelationship name key entries)
                (here.key key) entries ids items := by
  have hrests := rests_of_run h
  refine ⟨fun t e he => ?_, fun name here members henter => ?_⟩
  · obtain ⟨⟨name, here, fragment⟩, hv, hentity⟩ := exists_visit_of_at? hrests.ready hrests.yields
      (v := ⟨rootName, .root, document⟩) (List.Subset.refl _) hrests.entity_eq he
    obtain ⟨members, _, _, rfl, -⟩ := exists_class hrests.yields hv
    exact ⟨name, here, members, hv (Visit.enter_mem_course name here members), hentity⟩
  · obtain ⟨c, e, hc, he, htables⟩ := exists_table hrests henter
    refine ⟨e, he, fun key entries hlookup hstart => ⟨?_, fun ids hids hapart => ?_⟩⟩
    · rw [Registry.relationshipsOf, hc]
      exact htables key entries hlookup hstart
    · exact exists_holdsTable hrests henter hlookup hstart he hids hapart

/-- The object of an entry with an integer as its identifier. -/
def numbered (id : Int) (inRange : Number.InRange id) : Json :=
  .object [("id", .number (.integer id inRange))]

/-- The entries of a table with two small identifiers. -/
def smallEntries : Members := [("a", numbered 7 (by decide)), ("b", numbered (-7) (by decide))]

/-- The entries with small identifiers are held. -/
theorem tables_of_run_smallEntries : ∃ p e ids items,
    run "root" (.object [("table_lines", .object smallEntries)]) "" ⟨.union, true⟩ = .ok p ∧
      entityOf p.registry ⟨"root", .root, .object [("table_lines", .object smallEntries)]⟩ = .ok e ∧
      HoldsTable p.registry e (tableRelationship "root" "table_lines" smallEntries)
        (Pointer.root.key "table_lines") smallEntries ids items := by
  have hrun : (run "root" (.object [("table_lines", .object smallEntries)]) ""
      ⟨.union, true⟩).isOk = true := by decide +kernel
  obtain ⟨p, hp⟩ := Chain.exists_of_isOk hrun
  obtain ⟨-, hobjects⟩ := tables_of_run hp
  obtain ⟨e, he, htables⟩ := hobjects "root" .root _ (Visit.enter_mem_course "root" .root _)
  obtain ⟨-, hheld⟩ := htables "table_lines" smallEntries rfl (by decide +kernel)
  have hfield : indexField (relatedClassName tableStart "table_lines") smallEntries = "id" := by
    decide +kernel
  rw [hfield] at hheld
  have hids : Identified "id" smallEntries _ := .cons ⟨_, rfl, rfl⟩ (.cons ⟨_, rfl, rfl⟩ .nil)
  have hapart : Apart [.number (.integer 7 (by decide)), .number (.integer (-7) (by decide))] :=
    .numbers [.integer 7 (by decide), .integer (-7) (by decide)] (by decide +kernel)
  obtain ⟨items, hitems⟩ := hheld _ hids hapart
  exact ⟨p, e, _, items, hp, he, hitems⟩

/-- The entries of a table with two identifiers that have one nearest binary64 number. -/
def hugeEntries : Members :=
  [("a", numbered 9007199254740992 (by decide)), ("b", numbered 9007199254740993 (by decide))]

/-- Different integers can have one key: a table holds one item for two entries. -/
theorem length_iter_hugeEntries : ∃ p items,
    run "root" (.object [("table_lines", .object hugeEntries)]) "" ⟨.union, true⟩ = .ok p ∧
      p.root.iter "line" = .ok items ∧ items.length = 1 ∧ hugeEntries.length = 2 ∧
      (hugeEntries.map Prod.snd).Pairwise fun a b => ¬ a.same b := by
  have hrun : (run "root" (.object [("table_lines", .object hugeEntries)]) ""
      ⟨.union, true⟩).toOption.any (fun p =>
        (p.root.iter "line").toOption.any fun items => items.length == 1) = true := by
    decide +kernel
  obtain ⟨p, hp, htest⟩ := Chain.exists_of_any hrun
  obtain ⟨items, hitems, hlength⟩ := Chain.exists_of_any htest
  exact ⟨p, items, hp, hitems, by simpa using hlength, rfl, by decide +kernel⟩

end DocSchema.Pipeline
