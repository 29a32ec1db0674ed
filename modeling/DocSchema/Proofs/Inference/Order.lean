import DocSchema.Proofs.Inference.Reference
import DocSchema.Proofs.Json.Order

/-!
# Inference and order

A uniting inference does not depend on the order of items and members (`inferDocument_rearranged`).
The visits of a rearranged document are those of the document in another order
(`Visit.Alike.exists_mem_preorder`): each has the name of one of these and a rearrangement of its
fragment, so that it declares the same members. Whether shapes agree does not depend on their order,
and nor do the members of their union (`Shape.IsUnion.mem_attributes_iff`).

A table is named by its first entry, so documents with tables are left out (`Json.TableFree`).
-/

namespace DocSchema

mutual

/-- No object in the value is under a key that begins like a table. -/
def Json.TableFree : Json → Prop
  | .array items => TableFreeItems items
  | .object members => TableFreeMembers members
  | _ => True
termination_by structural a => a

/-- No object in the items is under a key that begins like a table. -/
def Json.TableFreeItems : List Json → Prop
  | [] => True
  | a :: rest => TableFree a ∧ TableFreeItems rest
termination_by structural items => items

/-- No member is an object under a key that begins like a table, and none is in the members. -/
def Json.TableFreeMembers : Members → Prop
  | [] => True
  | (key, value) :: rest =>
    (∀ entries, value = .object entries → Text.startsWith tableStart key = false) ∧
      TableFree value ∧ TableFreeMembers rest
termination_by structural members => members

end

namespace Json

/-- An array is free of tables if and only if its items are. -/
theorem tableFree_array_iff {items : List Json} :
    (array items).TableFree ↔ ∀ a ∈ items, a.TableFree := by
  rw [TableFree]
  induction items with
  | nil => simp [TableFreeItems]
  | cons a rest ih => simp [TableFreeItems, ih]

/-- An object is free of tables if and only if its members are no tables and free of them. -/
theorem tableFree_object_iff {members : Members} :
    (object members).TableFree ↔ ∀ m ∈ members,
      (∀ entries, m.2 = .object entries → Text.startsWith tableStart m.1 = false) ∧
        m.2.TableFree := by
  rw [TableFree]
  induction members with
  | nil => simp [TableFreeMembers]
  | cons m rest ih =>
    obtain ⟨key, value⟩ := m
    rw [TableFreeMembers, ih, List.forall_mem_cons, and_assoc]

/-- A value in another order is an object only if the value is. -/
theorem Permuted.exists_object {a b : Json} (h : Permuted a b) {entries : Members}
    (hb : b = object entries) : ∃ others, a = object others := by
  cases h with
  | items | item => cases hb
  | members | member => exact ⟨_, rfl⟩

/-- Another order brings in no table. -/
theorem Permuted.tableFree {a b : Json} (h : Permuted a b) (ha : a.TableFree) : b.TableFree := by
  induction h with
  | items hperm =>
    rw [tableFree_array_iff] at ha ⊢
    exact fun c hc => ha c (hperm.symm.subset hc)
  | members hperm =>
    rw [tableFree_object_iff] at ha ⊢
    exact fun m hm => ha m (hperm.symm.subset hm)
  | item before behind _ ih =>
    simp only [tableFree_array_iff, List.forall_mem_append, List.forall_mem_cons] at ha ⊢
    exact ⟨ha.1, ih ha.2.1, ha.2.2⟩
  | member before behind key hcd ih =>
    simp only [tableFree_object_iff, List.forall_mem_append, List.forall_mem_cons] at ha ⊢
    obtain ⟨hbefore, ⟨hkey, hvalue⟩, hbehind⟩ := ha
    refine ⟨hbefore, ⟨fun entries hentries => ?_, ih hvalue⟩, hbehind⟩
    obtain ⟨others, hothers⟩ := hcd.exists_object hentries
    exact hkey others hothers

/-- Rearranging brings in no table. -/
theorem Rearranged.tableFree {a b : Json} (h : a.Rearranged b) (ha : a.TableFree) :
    b.TableFree := by
  induction h with
  | refl => exact ha
  | tail _ hstep ih => exact hstep.tableFree ih

end Json

namespace Shape

variable {shapes others : List Shape} {s t : Shape}

/-- An attribute of a union is one of a shape, and its kind is unknown only if it is so in all of
the shapes. -/
theorem IsUnion.mem_attributes_iff (h : IsUnion shapes s) {a : Attribute} :
    a ∈ s.attributes ↔ (∃ t ∈ shapes, a ∈ t.attributes) ∧
      (a.kind = .any → ∀ t ∈ shapes, ∀ b ∈ t.attributes, b.name = a.name → b.kind = .any) := by
  have hnames : ∀ name, name ∈ s.attributes.map Attribute.name ↔
      ∃ t ∈ shapes, ∃ b ∈ t.attributes, b.name = name := by
    intro name
    simp [h.attributes, List.mem_eraseDups]
  constructor
  · intro ha
    refine ⟨?_, h.unknown a ha⟩
    by_cases hany : a.kind = .any
    · -- Its name is that of an attribute of a shape, whose kind is unknown too.
      obtain ⟨t, ht, b, hb, hname⟩ := (hnames a.name).1 (List.mem_map_of_mem ha)
      have hkind : b.kind = a.kind := (h.unknown a ha hany t ht b hb hname).trans hany.symm
      have hsame : b = a := congrArg₂ Attribute.mk hname hkind
      exact ⟨t, ht, hsame ▸ hb⟩
    · exact (h.known a ha hany).1
  · rintro ⟨⟨t, ht, ha⟩, hunknown⟩
    -- The union has an attribute of the name, and its kind can be no other one.
    obtain ⟨b, hb, hname⟩ := List.mem_map.1 ((hnames a.name).2 ⟨t, ht, a, ha, rfl⟩)
    have hkind : b.kind = a.kind := by
      by_cases hany : b.kind = .any
      · rw [hany, h.unknown b hb hany t ht a ha hname.symm]
      · obtain ⟨⟨u, hu, hbu⟩, hkinds⟩ := h.known b hb hany
        rcases hkinds t ht a ha hname.symm with hsame | hnone
        · exact hsame.symm
        · exact absurd (hunknown hnone u hu b hbu hname) hany
    have hsame : b = a := congrArg₂ Attribute.mk hname hkind
    exact hsame ▸ hb

/-- A relationship of a union is one of a shape. -/
theorem IsUnion.mem_relationships_iff (h : IsUnion shapes s) {r : Relationship} :
    r ∈ s.relationships ↔ ∃ t ∈ shapes, r ∈ t.relationships := by
  rw [h.relationships, List.mem_eraseDups, List.mem_flatMap]

/-- Two shapes have the same members, the order aside. -/
structure SameMembers (s t : Shape) : Prop where
  /-- The attributes are the same, with their kinds. -/
  attributes : ∀ a, a ∈ s.attributes ↔ a ∈ t.attributes
  /-- The relationships are the same. -/
  relationships : ∀ r, r ∈ s.relationships ↔ r ∈ t.relationships

/-- What has the same members has them the other way round too. -/
theorem SameMembers.symm (h : s.SameMembers t) : t.SameMembers s where
  attributes a := (h.attributes a).symm
  relationships r := (h.relationships r).symm

/-- Compatible shapes are compatible in the place of others with the same members. -/
theorem SameMembers.compatible {s' t' : Shape} (hs : s.SameMembers s') (ht : t.SameMembers t')
    (h : s.Compatible t) : s'.Compatible t' where
  kinds a ha b hb := h.kinds a ((hs.attributes a).2 ha) b ((ht.attributes b).2 hb)
  relationships r hr q hq :=
    h.relationships r ((hs.relationships r).2 hr) q ((ht.relationships q).2 hq)
  attributes_apart a ha q hq :=
    h.attributes_apart a ((hs.attributes a).2 ha) q ((ht.relationships q).2 hq)
  relationships_apart r hr b hb :=
    h.relationships_apart r ((hs.relationships r).2 hr) b ((ht.attributes b).2 hb)

/-- Unions of shapes that have the same members, the order of the shapes aside, have the same
members. -/
theorem IsUnion.sameMembers (hs : IsUnion shapes s) (ht : IsUnion others t)
    (hinto : ∀ u ∈ shapes, ∃ w ∈ others, u.SameMembers w)
    (hfrom : ∀ w ∈ others, ∃ u ∈ shapes, w.SameMembers u) : s.SameMembers t := by
  -- What a union has is said of all its shapes at once, and so is the same for both.
  have hattribute : ∀ a, (∃ u ∈ shapes, a ∈ u.attributes) ↔ ∃ w ∈ others, a ∈ w.attributes := by
    refine fun a => ⟨fun ⟨u, hu, ha⟩ => ?_, fun ⟨w, hw, ha⟩ => ?_⟩
    · obtain ⟨w, hw, hsame⟩ := hinto u hu
      exact ⟨w, hw, (hsame.attributes a).1 ha⟩
    · obtain ⟨u, hu, hsame⟩ := hfrom w hw
      exact ⟨u, hu, (hsame.attributes a).1 ha⟩
  have hrelationship : ∀ r, (∃ u ∈ shapes, r ∈ u.relationships) ↔
      ∃ w ∈ others, r ∈ w.relationships := by
    refine fun r => ⟨fun ⟨u, hu, hr⟩ => ?_, fun ⟨w, hw, hr⟩ => ?_⟩
    · obtain ⟨w, hw, hsame⟩ := hinto u hu
      exact ⟨w, hw, (hsame.relationships r).1 hr⟩
    · obtain ⟨u, hu, hsame⟩ := hfrom w hw
      exact ⟨u, hu, (hsame.relationships r).1 hr⟩
  have hunknown : ∀ name,
      (∀ u ∈ shapes, ∀ b ∈ u.attributes, b.name = name → b.kind = .any) ↔
        ∀ w ∈ others, ∀ b ∈ w.attributes, b.name = name → b.kind = .any := by
    refine fun name => ⟨fun h w hw b hb => ?_, fun h u hu b hb => ?_⟩
    · obtain ⟨u, hu, hbu⟩ := (hattribute b).2 ⟨w, hw, hb⟩
      exact h u hu b hbu
    · obtain ⟨w, hw, hbw⟩ := (hattribute b).1 ⟨u, hu, hb⟩
      exact h w hw b hbw
  refine ⟨fun a => ?_, fun r => ?_⟩
  · rw [hs.mem_attributes_iff, ht.mem_attributes_iff, hattribute, hunknown]
  · rw [hs.mem_relationships_iff, ht.mem_relationships_iff, hrelationship]

end Shape

namespace Inference

open Json

/-- A member declares a name by its key and its sort. -/
theorem declaredName_of_permuted (key : String) {a b : Json} (h : Permuted a b) :
    declaredName key a = declaredName key b := by
  cases h <;> rfl

/-- A value in another order stands for an attribute if and only if the value does. -/
theorem attributeOf_of_rearranged (key : String) {a b : Json} (h : a.Rearranged b) :
    attributeOf key a = attributeOf key b := by
  induction h with
  | refl => rfl
  | tail _ hstep ih =>
    rw [ih]
    cases hstep <;> rfl

/-- A value in another order stands for the same relationship, unless it is a table. -/
theorem relationshipOf_of_rearranged (owner key : String) {a b : Json} (h : a.Rearranged b)
    (htable : ∀ entries, a = .object entries → Text.startsWith tableStart key = false) :
    relationshipOf owner key a = relationshipOf owner key b := by
  cases a with
  | array items =>
    obtain ⟨others, rfl, -⟩ := h.exists_items
    rfl
  | object members =>
    obtain ⟨others, rfl, -⟩ := h.exists_members
    have hkey : ¬ Text.startsWith tableStart key = true := by simp [htable members rfl]
    rw [relationshipOf, relationshipOf, if_neg hkey, if_neg hkey]
  | _ => rw [h.eq_of_scalar (by simp) (by simp)]

/-- A visit is of the class of another one, and of a rearrangement of its fragment. -/
structure Visit.Alike (v w : Visit) : Prop where
  /-- The names are the same. -/
  name_eq : w.name = v.name
  /-- The fragment is rearranged. -/
  rearranged : v.fragment.Rearranged w.fragment
  /-- The fragment is free of tables. -/
  tableFree : v.fragment.TableFree

/-- The parts of a member are rearranged with it. -/
theorem exists_parts_of_rearranged {here there : Pointer} {key : String} {a b : Json}
    (h : a.Rearranged b) (hfree : a.TableFree)
    (htable : ∀ entries, a = .object entries → Text.startsWith tableStart key = false) {u : Visit}
    (hu : u ∈ parts here key a) : ∃ w ∈ parts there key b, u.Alike w := by
  cases a with
  | array items =>
    obtain ⟨others, rfl, hothers⟩ := h.exists_items
    obtain ⟨⟨item, position⟩, hitem, rfl⟩ := List.mem_map.1 hu
    have hmem := List.fst_mem_of_mem_zipIdx hitem
    obtain ⟨other, hother, hrearranged⟩ := hothers item hmem
    obtain ⟨n, hn⟩ := List.getElem?_of_mem hother
    exact ⟨_, List.mem_map.2 ⟨(other, n), List.mk_mem_zipIdx_iff_getElem?.2 hn, rfl⟩, rfl,
      hrearranged, tableFree_array_iff.1 hfree item hmem⟩
  | object members =>
    -- No table, so the object is the only part, and stays so.
    obtain ⟨others, rfl, -⟩ := h.exists_members
    have hkey : ¬ Text.startsWith tableStart key = true := by simp [htable members rfl]
    rw [parts, if_neg hkey] at hu ⊢
    obtain rfl := List.mem_singleton.1 hu
    exact ⟨_, List.mem_singleton_self _, rfl, h, hfree⟩
  | _ => simp [parts] at hu

namespace Visit.Alike

variable {v w : Visit}

/-- Visits that are alike are so the other way round too. -/
theorem symm (h : v.Alike w) : w.Alike v :=
  ⟨h.name_eq.symm, h.rearranged.symm, h.rearranged.tableFree h.tableFree⟩

/-- The members of the fragments of visits that are alike are rearranged. -/
theorem members (h : v.Alike w) : (object v.members).Rearranged (object w.members) := by
  obtain ⟨name, here, fragment⟩ := v
  obtain ⟨name', there, other⟩ := w
  have hrearranged : fragment.Rearranged other := h.rearranged
  cases fragment with
  | array items =>
    obtain ⟨others, rfl, -⟩ := hrearranged.exists_items
    exact .refl
  | object members =>
    obtain ⟨others, rfl, -⟩ := hrearranged.exists_members
    exact hrearranged
  | _ =>
    obtain rfl := hrearranged.eq_of_scalar (by simp) (by simp)
    exact .refl

/-- The members of the fragments of visits that are alike are free of tables. -/
theorem tableFree_members (h : v.Alike w) : (object v.members).TableFree := by
  obtain ⟨name, here, fragment⟩ := v
  cases fragment with
  | object members => exact h.tableFree
  | _ => simp [Visit.members, tableFree_object_iff]

/-- The visits inside visits that are alike are alike. -/
theorem exists_mem_inner (h : v.Alike w) {u : Visit} (hu : u ∈ v.inner) :
    ∃ x ∈ w.inner, u.Alike x := by
  obtain ⟨⟨key, value⟩, hm, hpart⟩ := List.mem_flatMap.1 hu
  obtain ⟨others, hothers, hmembers⟩ := h.members.exists_members
  obtain rfl := Json.object.inj hothers
  obtain ⟨⟨key', other⟩, hother, rfl, hrearranged⟩ := hmembers _ hm
  obtain ⟨htable, hfree⟩ := tableFree_object_iff.1 h.tableFree_members _ hm
  have hparts : ∃ x ∈ parts w.place key' other, u.Alike x :=
    exists_parts_of_rearranged hrearranged hfree htable hpart
  obtain ⟨x, hx, halike⟩ := hparts
  exact ⟨x, List.mem_flatMap.2 ⟨_, hother, hx⟩, halike⟩

/-- Each visit of a fragment has one that is alike among the visits of its rearrangement. -/
theorem exists_mem_preorder (h : v.Alike w) {u : Visit} (hu : u ∈ v.preorder) :
    ∃ x ∈ w.preorder, u.Alike x := by
  induction v using Visit.inner_induction generalizing w with
  | step v ih =>
    rw [preorder_eq] at hu
    rcases List.mem_cons.1 hu with rfl | hinner
    · exact ⟨w, mem_preorder_self w, h⟩
    · obtain ⟨i, hi, hu⟩ := List.mem_flatMap.1 hinner
      obtain ⟨j, hj, halike⟩ := h.exists_mem_inner hi
      obtain ⟨x, hx, hux⟩ := ih i hi halike hu
      exact ⟨x, mem_preorder_of_inner hj hx, hux⟩

/-- A visit that is alike declares the members of the other one, and no others. -/
theorem sameMembers (h : v.Alike w) : v.shape.SameMembers w.shape := by
  -- One half for both attributes and relationships, which serves for both directions.
  have hhalf : ∀ {v w : Visit}, v.Alike w → v.shape.attributes ⊆ w.shape.attributes ∧
      v.shape.relationships ⊆ w.shape.relationships := by
    intro v w h
    obtain ⟨others, hothers, hmembers⟩ := h.members.exists_members
    obtain rfl := Json.object.inj hothers
    refine ⟨fun a ha => ?_, fun r hr => ?_⟩
    · obtain ⟨⟨key, value⟩, hm, ha⟩ := List.mem_filterMap.1 ha
      obtain ⟨⟨key', other⟩, hother, rfl, hrearranged⟩ := hmembers _ hm
      exact List.mem_filterMap.2
        ⟨_, hother, (attributeOf_of_rearranged key' hrearranged).symm.trans ha⟩
    · obtain ⟨⟨key, value⟩, hm, hr⟩ := List.mem_filterMap.1 hr
      obtain ⟨⟨key', other⟩, hother, rfl, hrearranged⟩ := hmembers _ hm
      have htable := (tableFree_object_iff.1 h.tableFree_members _ hm).1
      refine List.mem_filterMap.2 ⟨_, hother, ?_⟩
      show relationshipOf w.name key' other = some r
      rw [h.name_eq, ← relationshipOf_of_rearranged v.name key' hrearranged htable]
      exact hr
  have hinto := hhalf h
  have hfrom := hhalf h.symm
  exact ⟨fun a => ⟨fun ha => hinto.1 ha, fun ha => hfrom.1 ha⟩,
    fun r => ⟨fun hr => hinto.2 hr, fun hr => hfrom.2 hr⟩⟩

/-- A visit that is alike to an admissible one is admissible. -/
theorem admissible (h : v.Alike w) (hv : v.Admissible) : w.Admissible := by
  obtain ⟨members, hobject⟩ := hv.object
  obtain ⟨others, hothers, -⟩ := (hobject ▸ h.rearranged).exists_members
  refine ⟨⟨others, hothers⟩, ?_⟩
  have hperm := Rearranged.perm_map (fun key _ _ => declaredName_of_permuted key) h.members
  exact hperm.nodup_iff.1 hv.nodup

end Visit.Alike

/-- The shapes of the visits of a class have the same members in a rearranged document. -/
theorem exists_shape_of_alike {v w : Visit} (h : v.Alike w) {name : String} {s : Shape}
    (hs : s ∈ shapesOf v.postorder name) : ∃ t ∈ shapesOf w.postorder name, s.SameMembers t := by
  obtain ⟨u, hu, rfl, rfl⟩ := mem_shapesOf_iff.1 hs
  obtain ⟨x, hx, halike⟩ := h.exists_mem_preorder (Visit.mem_postorder_iff.1 hu)
  exact ⟨x.shape, mem_shapesOf_iff.2 ⟨x, Visit.mem_postorder_iff.2 hx, halike.name_eq, rfl⟩,
    halike.sameMembers⟩

/-- The visits of a rearranged document agree if those of the document do. -/
theorem agree_of_alike {mode : Merge} {v w : Visit} (h : v.Alike w) (hv : Agree mode v.postorder) :
    Agree mode w.postorder := by
  rw [agree_iff] at hv ⊢
  intro hmode name s hs t ht
  obtain ⟨s', hs', hsame⟩ := exists_shape_of_alike h.symm hs
  obtain ⟨t', ht', hsame'⟩ := exists_shape_of_alike h.symm ht
  exact hsame.symm.compatible hsame'.symm (hv hmode name s' hs' t' ht')

end Inference

/-- Two registries have the same classes with the same members, the order aside. -/
structure Registry.SameClasses (reg other : Registry) : Prop where
  /-- The names of the classes are the same. -/
  classNames : ∀ name, name ∈ reg.classNames ↔ name ∈ other.classNames
  /-- Classes of one name have the same members. -/
  shapes : ∀ c ∈ reg.classes, ∀ d ∈ other.classes, c.name = d.name → c.shape.SameMembers d.shape

namespace Inference

/-- A uniting inference of a document without tables succeeds if and only if it does for any
rearrangement of the document, and then both give the same classes with the same members. -/
theorem inferDocument_rearranged (rootName classNamespace : String) {document other : Json}
    (h : document.Rearranged other) (hfree : document.TableFree) :
    ((∃ reg, Registry.inferDocument rootName document classNamespace .union = .ok reg) ↔
      ∃ reg, Registry.inferDocument rootName other classNamespace .union = .ok reg) ∧
    ∀ reg reg', Registry.inferDocument rootName document classNamespace .union = .ok reg →
      Registry.inferDocument rootName other classNamespace .union = .ok reg' →
        reg.SameClasses reg' := by
  have halike : (Visit.whole rootName document).Alike (Visit.whole rootName other) :=
    ⟨rfl, h, hfree⟩
  -- One half, which serves for both directions.
  have hhalf : ∀ {a b : Json}, (Visit.whole rootName a).Alike (Visit.whole rootName b) →
      (∃ reg, Registry.inferDocument rootName a classNamespace .union = .ok reg) →
        ∃ reg, Registry.inferDocument rootName b classNamespace .union = .ok reg := by
    rintro a b hab ⟨reg, hreg⟩
    obtain ⟨hadmissible, hagree, -⟩ := inferDocument_eq_ok_iff.1 hreg
    refine ⟨_, inferDocument_eq_ok_iff.2 ⟨fun w hw => ?_, agree_of_alike hab hagree, rfl⟩⟩
    obtain ⟨v, hv, hwv⟩ := hab.symm.exists_mem_preorder hw
    exact hwv.symm.admissible (hadmissible v hv)
  refine ⟨⟨hhalf halike, hhalf halike.symm⟩, fun reg reg' hreg hreg' => ?_⟩
  obtain ⟨-, hagree, rfl⟩ := inferDocument_eq_ok_iff.1 hreg
  obtain ⟨-, hagree', rfl⟩ := inferDocument_eq_ok_iff.1 hreg'
  refine ⟨fun name => ?_, fun c hc d hd hname => ?_⟩
  -- The classes are those of the visits.
  · have hnames : ∀ {v w : Visit}, v.Alike w → ∀ name ∈ v.preorder.map Visit.name,
        name ∈ w.preorder.map Visit.name := by
      intro v w hvw name hname
      obtain ⟨u, hu, rfl⟩ := List.mem_map.1 hname
      obtain ⟨x, hx, hux⟩ := hvw.exists_mem_preorder hu
      exact List.mem_map.2 ⟨x, hx, hux.name_eq⟩
    rw [classNames_registryOf, classNames_registryOf, List.mem_eraseDups, List.mem_eraseDups]
    exact ⟨hnames halike name, hnames halike.symm name⟩
  -- A class has the union of the shapes of its visits.
  · obtain ⟨-, hc⟩ := mem_classes_registryOf hc
    obtain ⟨-, hd⟩ := mem_classes_registryOf hd
    rw [hc, hd, hname]
    exact (Shape.isUnion_unionOf (agree_iff.1 hagree rfl d.name)).sameMembers
      (Shape.isUnion_unionOf (agree_iff.1 hagree' rfl d.name))
      (fun s hs => exists_shape_of_alike halike hs) fun t ht => exists_shape_of_alike halike.symm ht

/-- A document whose first item knows less than the second. -/
def growingItems : Json :=
  .object [("items", .array [
    .object [("a", .null)],
    .object [("a", .string "x"), ("part", .object [("b", .bool true)])]])]

/-- The document with its items, and the members of one, the other way round. -/
def shrinkingItems : Json :=
  .object [("items", .array [
    .object [("part", .object [("b", .bool true)]), ("a", .string "x")],
    .object [("a", .null)]])]

/-- Both documents give the same classes, though the kind of an attribute is known earlier in one of
them. -/
theorem inferDocument_rearranged_growingItems :
    growingItems.Rearranged shrinkingItems ∧ growingItems.TableFree ∧
      ∃ reg reg', Registry.inferDocument "root" growingItems "" .union = .ok reg ∧
        Registry.inferDocument "root" shrinkingItems "" .union = .ok reg' ∧
        reg.SameClasses reg' := by
  have hrearranged : growingItems.Rearranged shrinkingItems :=
    .head (.member [] [] "items" (.item [.object [("a", .null)]] [] (.members (.swap _ _ []))))
      (.single (.member [] [] "items" (.items (.swap _ _ []))))
  have hfree : growingItems.TableFree := by
    have hkey : Text.startsWith tableStart "part" = false := by decide
    simp [growingItems, Json.TableFree, Json.TableFreeItems, Json.TableFreeMembers, hkey]
  have hok : (Registry.inferDocument "root" growingItems "" .union).isOk = true := by
    decide +kernel
  obtain ⟨reg, hreg⟩ := Chain.exists_of_isOk hok
  obtain ⟨hiff, hsame⟩ := inferDocument_rearranged "root" "" hrearranged hfree
  obtain ⟨reg', hreg'⟩ := hiff.1 ⟨reg, hreg⟩
  exact ⟨hrearranged, hfree, reg, reg', hreg, hreg', hsame reg reg' hreg hreg'⟩

end Inference

end DocSchema
