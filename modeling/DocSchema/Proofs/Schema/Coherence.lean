import DocSchema.Proofs.Lists
import DocSchema.Proofs.Schema.Union

/-!
# Unions of several shapes

The shapes that are united one after the other into a class have a union if and only if every two
of them are compatible (`Shape.Compatible`), whatever their order. `Shape.unionOf` is that union,
written down at once: the members in the order of their first appearance, and for each attribute
the kind that is known of it (`isUnion_unionOf`). `unite_unionOf_eq_ok_iff` says that uniting goes
on from the union of some shapes to that of one more exactly if these are compatible.

The proof looks at members one by one. Attributes and relationships that have been taken in are
`Coherent`, and a further one is taken in if and only if they still are with it
(`uniteAttribute_united_eq_ok_iff`, `uniteRelationship_united_eq_ok_iff`).
-/

namespace DocSchema

namespace Shape

/-- Two shapes of one class go together. -/
structure Compatible (s t : Shape) : Prop where
  /-- Attributes of one name have one kind, unless one of the kinds is unknown. -/
  kinds : ∀ a ∈ s.attributes, ∀ b ∈ t.attributes, a.name = b.name →
    a.kind = b.kind ∨ a.kind = .any ∨ b.kind = .any
  /-- Relationships of one name are one relationship. -/
  relationships : ∀ r ∈ s.relationships, ∀ q ∈ t.relationships, r.name = q.name → r = q
  /-- No attribute has the name of a relationship. -/
  attributes_apart : ∀ a ∈ s.attributes, ∀ q ∈ t.relationships, a.name ≠ q.name
  /-- No relationship has the name of an attribute. -/
  relationships_apart : ∀ r ∈ s.relationships, ∀ b ∈ t.attributes, r.name ≠ b.name

/-- A shape is the union of shapes. -/
structure IsUnion (shapes : List Shape) (s : Shape) : Prop where
  /-- It has no two members of one name. -/
  distinct : s.Distinct
  /-- Its attributes are those of the shapes, in the order of their first appearance. -/
  attributes : s.attributes.map Attribute.name =
    (shapes.flatMap fun t => t.attributes.map Attribute.name).eraseDups
  /-- Its relationships are those of the shapes, in the order of their first appearance. -/
  relationships : s.relationships = (shapes.flatMap Shape.relationships).eraseDups
  /-- An attribute whose kind is unknown is so in all of the shapes. -/
  unknown : ∀ a ∈ s.attributes, a.kind = .any →
    ∀ t ∈ shapes, ∀ b ∈ t.attributes, b.name = a.name → b.kind = .any
  /-- Any other attribute is one of a shape, and no shape knows another kind of it. -/
  known : ∀ a ∈ s.attributes, a.kind ≠ .any → (∃ t ∈ shapes, a ∈ t.attributes) ∧
    ∀ t ∈ shapes, ∀ b ∈ t.attributes, b.name = a.name → b.kind = a.kind ∨ b.kind = .any

/-- Attributes and relationships can be members of one class. -/
structure Coherent (attributes : List Attribute) (relationships : List Relationship) : Prop where
  /-- Attributes of one name have one kind, unless one of the kinds is unknown. -/
  kinds : ∀ a ∈ attributes, ∀ b ∈ attributes, a.name = b.name →
    a.kind = b.kind ∨ a.kind = .any ∨ b.kind = .any
  /-- Relationships of one name are one relationship. -/
  names : ∀ r ∈ relationships, ∀ q ∈ relationships, r.name = q.name → r = q
  /-- No attribute has the name of a relationship. -/
  apart : ∀ a ∈ attributes, ∀ r ∈ relationships, a.name ≠ r.name

/-- The kind that is known when kinds have been seen. -/
def knownKind : List Kind → Kind
  | [] => .any
  | kind :: rest => if kind = .any then knownKind rest else kind

/-- The kinds that an attribute has been seen with. -/
def kindsOf (attributes : List Attribute) (name : String) : List Kind :=
  (attributes.filter (·.name = name)).map Attribute.kind

/-- Attributes that have been seen, each once and with the kind that is known. -/
def seenAttributes (attributes : List Attribute) : List Attribute :=
  (attributes.map Attribute.name).eraseDups.map fun name =>
    ⟨name, knownKind (kindsOf attributes name)⟩

/-- The shape of members that have been seen. -/
def united (attributes : List Attribute) (relationships : List Relationship) : Shape where
  attributes := seenAttributes attributes
  relationships := relationships.eraseDups

/-- The union of shapes. -/
def unionOf (shapes : List Shape) : Shape :=
  united (shapes.flatMap Shape.attributes) (shapes.flatMap Shape.relationships)

section Known

/-- Where names are distinct, the kind of an attribute is found by its name. -/
theorem kind?_of_mem {shape : Shape} (h : shape.Distinct) {a : Attribute}
    (ha : a ∈ shape.attributes) : shape.kind? a.name = some a.kind := by
  rw [kind?, find?_of_nodup_map h.of_append_left ha]
  rfl

/-- Where names are distinct, a relationship is found by its name. -/
theorem relationship?_of_mem {shape : Shape} (h : shape.Distinct) {r : Relationship}
    (hr : r ∈ shape.relationships) : shape.relationship? r.name = some r :=
  find?_of_nodup_map h.of_append_right hr

/-- A later kind matters as long as none is known. -/
theorem knownKind_concat (kinds : List Kind) (kind : Kind) :
    knownKind (kinds ++ [kind]) = if knownKind kinds = .any then kind else knownKind kinds := by
  induction kinds with
  | nil => cases kind <;> rfl
  | cons first rest ih =>
    rw [List.cons_append, knownKind, knownKind, ih]
    by_cases hfirst : first = .any <;> simp [hfirst]

/-- A kind that is known has been seen. -/
theorem mem_of_knownKind {kinds : List Kind} (h : knownKind kinds ≠ .any) :
    knownKind kinds ∈ kinds := by
  induction kinds with
  | nil => exact absurd rfl h
  | cons first rest ih =>
    rw [knownKind] at h ⊢
    split
    · next hfirst => exact List.mem_cons_of_mem _ (ih (by rwa [if_pos hfirst] at h))
    · exact List.mem_cons_self

/-- As long as no kind is known, none but the unknown one has been seen. -/
theorem eq_any_of_knownKind {kinds : List Kind} (h : knownKind kinds = .any) {kind : Kind}
    (hkind : kind ∈ kinds) : kind = .any := by
  induction kinds with
  | nil => simp at hkind
  | cons first rest ih =>
    rw [knownKind] at h
    split at h
    · next hfirst =>
      rcases List.mem_cons.1 hkind with rfl | hrest
      · exact hfirst
      · exact ih h hrest
    · next hfirst => exact absurd h hfirst

/-- An attribute has been seen with a kind. -/
theorem mem_kindsOf_iff {attributes : List Attribute} {name : String} {kind : Kind} :
    kind ∈ kindsOf attributes name ↔ ⟨name, kind⟩ ∈ attributes := by
  simp only [kindsOf, List.mem_map, List.mem_filter, decide_eq_true_eq]
  constructor
  · rintro ⟨⟨_, _⟩, ⟨ha, rfl⟩, rfl⟩
    exact ha
  · exact fun ha => ⟨_, ⟨ha, rfl⟩, rfl⟩

/-- One more attribute has been seen with one more kind. -/
theorem kindsOf_concat (attributes : List Attribute) (a : Attribute) (name : String) :
    kindsOf (attributes ++ [a]) name =
      if a.name = name then kindsOf attributes name ++ [a.kind] else kindsOf attributes name := by
  by_cases ha : a.name = name <;> simp [kindsOf, ha]

/-- The names of the attributes that have been seen. -/
theorem map_name_seenAttributes (attributes : List Attribute) :
    (seenAttributes attributes).map Attribute.name = (attributes.map Attribute.name).eraseDups := by
  rw [seenAttributes, List.map_map]
  exact List.map_id _

/-- The kind of an attribute that has been seen is the known one. -/
theorem kind?_united (attributes : List Attribute) (relationships : List Relationship)
    (name : String) :
    (united attributes relationships).kind? name =
      if name ∈ attributes.map Attribute.name then some (knownKind (kindsOf attributes name))
      else none := by
  rw [kind?, united, seenAttributes, find?_map_eraseDups fun _ => rfl]
  split <;> rfl

/-- A relationship that has been seen is found under its name. -/
theorem relationship?_united {attributes : List Attribute} {relationships : List Relationship}
    {name : String} {r : Relationship} :
    (united attributes relationships).relationship? name = some r →
      r ∈ relationships ∧ r.name = name := by
  intro h
  exact ⟨List.mem_eraseDups.1 (List.mem_of_find?_eq_some h), by simpa using List.find?_some h⟩

/-- No relationship of a name has been seen. -/
theorem relationship?_united_eq_none_iff {attributes : List Attribute}
    {relationships : List Relationship} {name : String} :
    (united attributes relationships).relationship? name = none ↔
      ∀ r ∈ relationships, r.name ≠ name := by
  simp [relationship?, united]

/-- The member names of what has been seen. -/
theorem mem_memberNames_united_iff {attributes : List Attribute}
    {relationships : List Relationship} {name : String} :
    name ∈ (united attributes relationships).memberNames ↔
      name ∈ attributes.map Attribute.name ∨ name ∈ relationships.map Relationship.name := by
  rw [memberNames, List.mem_append, united, map_name_seenAttributes, List.mem_eraseDups]
  simp

end Known

section Steps

variable {attributes : List Attribute} {relationships : List Relationship}

/-- Some of the members of a class can be members of one class. -/
theorem Coherent.of_subset (h : Coherent attributes relationships)
    {fewer : List Attribute} (hattributes : fewer ⊆ attributes)
    {fewer' : List Relationship} (hrelationships : fewer' ⊆ relationships) :
    Coherent fewer fewer' where
  kinds a ha b hb := h.kinds a (hattributes ha) b (hattributes hb)
  names r hr q hq := h.names r (hrelationships hr) q (hrelationships hq)
  apart a ha r hr := h.apart a (hattributes ha) r (hrelationships hr)

/-- One more attribute fits if its kind does and its name is that of no relationship. -/
theorem coherent_concat_attribute_iff (h : Coherent attributes relationships) {a : Attribute} :
    Coherent (attributes ++ [a]) relationships ↔
      (∀ kind ∈ kindsOf attributes a.name, kind = a.kind ∨ kind = .any ∨ a.kind = .any) ∧
        ∀ r ∈ relationships, r.name ≠ a.name := by
  constructor
  · intro hmore
    refine ⟨fun kind hkind => ?_, fun r hr => (hmore.apart a (by simp) r hr).symm⟩
    exact hmore.kinds ⟨a.name, kind⟩ (by simp [mem_kindsOf_iff.1 hkind]) a (by simp) rfl
  · rintro ⟨hkinds, hapart⟩
    have hfits : ∀ b ∈ attributes, b.name = a.name →
        b.kind = a.kind ∨ b.kind = .any ∨ a.kind = .any :=
      fun b hb hname => hkinds b.kind (mem_kindsOf_iff.2 (hname ▸ hb))
    refine ⟨fun b hb c hc hname => ?_, h.names, fun b hb r hr => ?_⟩
    · rcases List.mem_append.1 hb with hold | hnew <;>
        rcases List.mem_append.1 hc with hold' | hnew'
      · exact h.kinds b hold c hold' hname
      · obtain rfl := List.mem_singleton.1 hnew'
        exact hfits b hold hname
      · obtain rfl := List.mem_singleton.1 hnew
        rcases hfits c hold' hname.symm with heq | hany | hany
        · exact .inl heq.symm
        · exact .inr (.inr hany)
        · exact .inr (.inl hany)
      · rw [List.mem_singleton.1 hnew, List.mem_singleton.1 hnew']
        exact .inl rfl
    · rcases List.mem_append.1 hb with hb | hb
      · exact h.apart b hb r hr
      · obtain rfl := List.mem_singleton.1 hb
        exact (hapart r hr).symm

/-- One more relationship fits if its name is that of no other member. -/
theorem coherent_concat_relationship_iff (h : Coherent attributes relationships)
    {r : Relationship} :
    Coherent attributes (relationships ++ [r]) ↔
      (∀ q ∈ relationships, q.name = r.name → q = r) ∧
        ∀ a ∈ attributes, a.name ≠ r.name := by
  constructor
  · intro hmore
    exact ⟨fun q hq hname => hmore.names q (by simp [hq]) r (by simp) hname,
      fun a ha => hmore.apart a ha r (by simp)⟩
  · rintro ⟨hsame, hapart⟩
    refine ⟨h.kinds, fun p hp q hq hname => ?_, fun a ha q hq => ?_⟩
    · rcases List.mem_append.1 hp with hold | hnew <;>
        rcases List.mem_append.1 hq with hold' | hnew'
      · exact h.names p hold q hold' hname
      · obtain rfl := List.mem_singleton.1 hnew'
        exact hsame p hold hname
      · obtain rfl := List.mem_singleton.1 hnew
        exact (hsame q hold' hname.symm).symm
      · rw [List.mem_singleton.1 hnew, List.mem_singleton.1 hnew']
    · rcases List.mem_append.1 hq with hq | hq
      · exact h.apart a ha q hq
      · obtain rfl := List.mem_singleton.1 hq
        exact hapart a ha

/-- Giving an attribute another kind changes the attributes of its name, of which there is one. -/
theorem setKind_eq_map {name : String} {kind : Kind} {attributes : List Attribute}
    (h : (attributes.map Attribute.name).Nodup) :
    setKind name kind attributes =
      attributes.map fun a => if a.name = name then { a with kind } else a := by
  induction attributes with
  | nil => rfl
  | cons a rest ih =>
    rw [List.map_cons, List.nodup_cons] at h
    rw [setKind, List.map_cons]
    by_cases ha : a.name = name
    · have hrest : rest.map (fun b => if b.name = name then { b with kind } else b) = rest := by
        refine (List.map_congr_left fun b hb => if_neg ?_).trans (List.map_id rest)
        rintro hb'
        exact h.1 (List.mem_map.2 ⟨b, hb, hb'.trans ha.symm⟩)
      rw [if_pos ha, if_pos ha, hrest]
    · rw [if_neg ha, if_neg ha, ih h.2]

/-- The first attribute of a name is the last one of those seen. -/
theorem seenAttributes_concat_of_notMem {a : Attribute}
    (h : a.name ∉ attributes.map Attribute.name) :
    seenAttributes (attributes ++ [a]) = seenAttributes attributes ++ [a] := by
  have hnone : kindsOf attributes a.name = [] := by
    rw [List.eq_nil_iff_forall_not_mem]
    exact fun kind hkind => h (List.mem_map.2 ⟨_, mem_kindsOf_iff.1 hkind, rfl⟩)
  rw [seenAttributes, List.map_append, List.map_singleton, eraseDups_concat, if_neg h,
    List.map_append, List.map_singleton]
  congr 1
  · refine List.map_congr_left fun name hname => ?_
    have hne : a.name ≠ name := fun heq => h (heq ▸ List.mem_eraseDups.1 hname)
    rw [kindsOf_concat, if_neg hne]
  · rw [kindsOf_concat, if_pos rfl, hnone]
    obtain ⟨name, kind⟩ := a
    cases kind <;> rfl

/-- A further attribute of a name gives the one that has been seen its kind, if that is known and
none was before. -/
theorem seenAttributes_concat_of_mem {a : Attribute} (h : a.name ∈ attributes.map Attribute.name) :
    seenAttributes (attributes ++ [a]) =
      if knownKind (kindsOf attributes a.name) = .any ∧ a.kind ≠ .any then
        setKind a.name a.kind (seenAttributes attributes)
      else seenAttributes attributes := by
  have hnodup : ((seenAttributes attributes).map Attribute.name).Nodup := by
    rw [map_name_seenAttributes]
    exact nodup_eraseDups _
  have hother : ∀ name, a.name ≠ name →
      kindsOf (attributes ++ [a]) name = kindsOf attributes name :=
    fun name hname => by rw [kindsOf_concat, if_neg hname]
  have hsame : knownKind (kindsOf (attributes ++ [a]) a.name) =
      if knownKind (kindsOf attributes a.name) = .any ∧ a.kind ≠ .any then a.kind
      else knownKind (kindsOf attributes a.name) := by
    rw [kindsOf_concat, if_pos rfl, knownKind_concat]
    grind
  rw [setKind_eq_map hnodup]
  simp only [seenAttributes, List.map_append, List.map_singleton, eraseDups_concat, if_pos h,
    List.map_map]
  split
  · next hlearns =>
    rw [if_pos hlearns] at hsame
    refine List.map_congr_left fun name _ => ?_
    by_cases hname : a.name = name
    · subst hname
      simp [hsame]
    · simp [hother name hname, Ne.symm hname]
  · next hkeeps =>
    rw [if_neg hkeeps] at hsame
    refine List.map_congr_left fun name _ => ?_
    by_cases hname : a.name = name
    · rw [← hname, hsame]
    · rw [hother name hname]

/-- A kind fits all that have been seen if and only if it fits the one that is known. -/
theorem kinds_fit_iff (h : Coherent attributes relationships) (name : String) (kind : Kind) :
    (∀ k ∈ kindsOf attributes name, k = kind ∨ k = .any ∨ kind = .any) ↔
      knownKind (kindsOf attributes name) = kind ∨ knownKind (kindsOf attributes name) = .any ∨
        kind = .any := by
  constructor
  · intro hfits
    by_cases hany : knownKind (kindsOf attributes name) = .any
    · exact .inr (.inl hany)
    · exact hfits _ (mem_of_knownKind hany)
  · rintro (hknown | hany | hany) k hk
    · by_cases hkind : kind = .any
      · exact .inr (.inr hkind)
      · have hseen := mem_of_knownKind (hknown ▸ hkind)
        rw [hknown] at hseen
        rcases h.kinds _ (mem_kindsOf_iff.1 hk) _ (mem_kindsOf_iff.1 hseen) rfl with
          heq | hany | hany
        · exact .inl heq
        · exact .inr (.inl hany)
        · exact absurd hany hkind
    · exact .inr (.inl (eq_any_of_knownKind hany hk))
    · exact .inr (.inr hany)

/-- Members that have been seen take in one more attribute if and only if it fits them. -/
theorem uniteAttribute_united_eq_ok_iff (h : Coherent attributes relationships) {a : Attribute}
    {t : Shape} :
    (united attributes relationships).uniteAttribute a = .ok t ↔
      Coherent (attributes ++ [a]) relationships ∧
        t = united (attributes ++ [a]) relationships := by
  rw [coherent_concat_attribute_iff h, kinds_fit_iff h, uniteAttribute, kind?_united]
  by_cases hname : a.name ∈ attributes.map Attribute.name
  · -- The name is taken by an attribute, so that no relationship can have it.
    have hapart : ∀ r ∈ relationships, r.name ≠ a.name := by
      obtain ⟨b, hb, hbname⟩ := List.mem_map.1 hname
      exact fun r hr heq => h.apart b hb r hr (hbname.trans heq.symm)
    simp only [if_pos hname, united, seenAttributes_concat_of_mem hname]
    generalize knownKind (kindsOf attributes a.name) = known
    by_cases hsame : known = a.kind ∨ a.kind = .any
    · have hkeeps : ¬ (known = .any ∧ a.kind ≠ .any) := by grind
      rw [if_pos hsame, if_neg hkeeps, Except.ok.injEq]
      exact ⟨fun heq => ⟨⟨by grind, hapart⟩, heq.symm⟩, fun heq => heq.2.symm⟩
    · by_cases hany : known = .any
      · have hlearns : known = .any ∧ a.kind ≠ .any := by grind
        rw [if_neg hsame, if_pos hany, if_pos hlearns, Except.ok.injEq]
        exact ⟨fun heq => ⟨⟨.inr (.inl hany), hapart⟩, heq.symm⟩, fun heq => heq.2.symm⟩
      · rw [if_neg hsame, if_neg hany]
        exact ⟨fun heq => by simp at heq, fun heq => by grind⟩
  · have hunseen : kindsOf attributes a.name = [] := by
      rw [List.eq_nil_iff_forall_not_mem]
      exact fun kind hkind => hname (List.mem_map.2 ⟨_, mem_kindsOf_iff.1 hkind, rfl⟩)
    rw [if_neg hname, addAttribute_eq_ok_iff, mem_memberNames_united_iff, hunseen]
    simp only [united, seenAttributes_concat_of_notMem hname, hname, false_or, knownKind, true_or,
      or_true, true_and, List.mem_map, not_exists, not_and, ne_eq]

/-- Members that have been seen take in one more relationship if and only if it fits them. -/
theorem uniteRelationship_united_eq_ok_iff (h : Coherent attributes relationships)
    {r : Relationship} {t : Shape} :
    (united attributes relationships).uniteRelationship r = .ok t ↔
      Coherent attributes (relationships ++ [r]) ∧
        t = united attributes (relationships ++ [r]) := by
  rw [coherent_concat_relationship_iff h, uniteRelationship]
  cases hfound : (united attributes relationships).relationship? r.name with
  | some earlier =>
    obtain ⟨hearlier, hname⟩ := relationship?_united hfound
    -- The name is taken by a relationship, so that no attribute can have it.
    have hapart : ∀ a ∈ attributes, a.name ≠ r.name :=
      fun a ha heq => h.apart a ha earlier hearlier (heq.trans hname.symm)
    by_cases hsame : earlier = r
    · subst hsame
      simp only [if_true, Except.ok.injEq, united, eraseDups_concat, if_pos hearlier]
      exact ⟨fun heq => ⟨⟨fun q hq => h.names q hq earlier hearlier, hapart⟩, heq.symm⟩,
        fun heq => heq.2.symm⟩
    · simp only [if_neg hsame]
      exact ⟨fun heq => by simp at heq,
        fun heq => absurd (heq.1.1 earlier hearlier hname) hsame⟩
  | none =>
    have hfree := relationship?_united_eq_none_iff.1 hfound
    have hnew : r ∉ relationships := fun hr => hfree r hr rfl
    have hnames : r.name ∉ (united attributes relationships).memberNames ↔
        ∀ a ∈ attributes, a.name ≠ r.name := by
      rw [mem_memberNames_united_iff, List.mem_map, List.mem_map]
      grind
    show (united attributes relationships).addRelationship r = .ok t ↔ _
    rw [addRelationship_eq_ok_iff, hnames]
    simp only [united, eraseDups_concat, if_neg hnew]
    exact and_congr_left fun _ =>
      ⟨fun hapart => ⟨fun q hq hname => absurd hname (hfree q hq), hapart⟩, And.right⟩

/-- Members that have been seen take in further attributes if and only if they fit. -/
theorem uniteAttributes_united_eq_ok_iff (h : Coherent attributes relationships)
    {more : List Attribute} {t : Shape} :
    (united attributes relationships).uniteAttributes more = .ok t ↔
      Coherent (attributes ++ more) relationships ∧
        t = united (attributes ++ more) relationships := by
  induction more generalizing attributes with
  | nil => simp [uniteAttributes, h, eq_comm]
  | cons a rest ih =>
    have hassoc : attributes ++ a :: rest = (attributes ++ [a]) ++ rest := by simp
    rw [uniteAttributes, Chain.bind_eq_ok_iff, hassoc]
    constructor
    · rintro ⟨s, hstep, hrest⟩
      obtain ⟨hs, rfl⟩ := (uniteAttribute_united_eq_ok_iff h).1 (stoppedAt_eq_ok_iff.1 hstep)
      exact (ih hs).1 hrest
    · rintro ⟨hall, ht⟩
      have hs := hall.of_subset (List.subset_append_left _ _) (List.Subset.refl _)
      exact ⟨_, stoppedAt_eq_ok_iff.2 ((uniteAttribute_united_eq_ok_iff h).2 ⟨hs, rfl⟩),
        (ih hs).2 ⟨hall, ht⟩⟩

/-- Members that have been seen take in further relationships if and only if they fit. -/
theorem uniteRelationships_united_eq_ok_iff (h : Coherent attributes relationships)
    {more : List Relationship} {t : Shape} :
    (united attributes relationships).uniteRelationships more = .ok t ↔
      Coherent attributes (relationships ++ more) ∧
        t = united attributes (relationships ++ more) := by
  induction more generalizing relationships with
  | nil => simp [uniteRelationships, h, eq_comm]
  | cons r rest ih =>
    have hassoc : relationships ++ r :: rest = (relationships ++ [r]) ++ rest := by simp
    rw [uniteRelationships, Chain.bind_eq_ok_iff, hassoc]
    constructor
    · rintro ⟨s, hstep, hrest⟩
      obtain ⟨hs, rfl⟩ := (uniteRelationship_united_eq_ok_iff h).1 (stoppedAt_eq_ok_iff.1 hstep)
      exact (ih hs).1 hrest
    · rintro ⟨hall, ht⟩
      have hs := hall.of_subset (List.Subset.refl _) (List.subset_append_left _ _)
      exact ⟨_, stoppedAt_eq_ok_iff.2 ((uniteRelationship_united_eq_ok_iff h).2 ⟨hs, rfl⟩),
        (ih hs).2 ⟨hall, ht⟩⟩

end Steps

/-- The members of shapes can be members of one class if and only if every two shapes are
compatible. -/
theorem coherent_flatMap_iff {shapes : List Shape} :
    Coherent (shapes.flatMap Shape.attributes) (shapes.flatMap Shape.relationships) ↔
      ∀ s ∈ shapes, ∀ t ∈ shapes, s.Compatible t := by
  constructor
  · intro h s hs t ht
    have hattribute : ∀ u ∈ shapes, ∀ a ∈ u.attributes, a ∈ shapes.flatMap Shape.attributes :=
      fun u hu a ha => List.mem_flatMap.2 ⟨u, hu, ha⟩
    have hrelationship : ∀ u ∈ shapes, ∀ r ∈ u.relationships,
        r ∈ shapes.flatMap Shape.relationships := fun u hu r hr => List.mem_flatMap.2 ⟨u, hu, hr⟩
    exact ⟨fun a ha b hb => h.kinds a (hattribute s hs a ha) b (hattribute t ht b hb),
      fun r hr q hq => h.names r (hrelationship s hs r hr) q (hrelationship t ht q hq),
      fun a ha q hq => h.apart a (hattribute s hs a ha) q (hrelationship t ht q hq),
      fun r hr b hb => (h.apart b (hattribute t ht b hb) r (hrelationship s hs r hr)).symm⟩
  · intro h
    refine ⟨fun a ha b hb => ?_, fun r hr q hq => ?_, fun a ha r hr => ?_⟩
    · obtain ⟨s, hs, ha⟩ := List.mem_flatMap.1 ha
      obtain ⟨t, ht, hb⟩ := List.mem_flatMap.1 hb
      exact (h s hs t ht).kinds a ha b hb
    · obtain ⟨s, hs, hr⟩ := List.mem_flatMap.1 hr
      obtain ⟨t, ht, hq⟩ := List.mem_flatMap.1 hq
      exact (h s hs t ht).relationships r hr q hq
    · obtain ⟨s, hs, ha⟩ := List.mem_flatMap.1 ha
      obtain ⟨t, ht, hr⟩ := List.mem_flatMap.1 hr
      exact (h s hs t ht).attributes_apart a ha r hr

/-- Relationships that can be members of one class have names that are distinct once they are. -/
theorem Coherent.nodup_names {attributes : List Attribute} {relationships : List Relationship}
    (h : Coherent attributes relationships) :
    (relationships.eraseDups.map Relationship.name).Nodup :=
  (nodup_eraseDups relationships).map_on fun r hr q hq =>
    h.names r (List.mem_eraseDups.1 hr) q (List.mem_eraseDups.1 hq)

/-- The members of one class have distinct names. -/
theorem Coherent.distinct_united {attributes : List Attribute} {relationships : List Relationship}
    (h : Coherent attributes relationships) : (united attributes relationships).Distinct := by
  rw [Distinct, memberNames, united, map_name_seenAttributes, List.nodup_append]
  refine ⟨nodup_eraseDups _, h.nodup_names, ?_⟩
  rintro _ ha _ hr rfl
  obtain ⟨a, ha, hname⟩ := List.mem_map.1 (List.mem_eraseDups.1 ha)
  obtain ⟨r, hr, hname'⟩ := List.mem_map.1 hr
  exact h.apart a ha r (List.mem_eraseDups.1 hr) (hname.trans hname'.symm)

/-- The union of compatible shapes is one. -/
theorem isUnion_unionOf {shapes : List Shape} (h : ∀ s ∈ shapes, ∀ t ∈ shapes, s.Compatible t) :
    IsUnion shapes (unionOf shapes) := by
  have hcoherent := coherent_flatMap_iff.2 h
  have hkinds : ∀ t ∈ shapes, ∀ b ∈ t.attributes,
      b.kind ∈ kindsOf (shapes.flatMap Shape.attributes) b.name :=
    fun t ht b hb => mem_kindsOf_iff.2 (List.mem_flatMap.2 ⟨t, ht, hb⟩)
  have hkind : ∀ a ∈ (unionOf shapes).attributes,
      a.kind = knownKind (kindsOf (shapes.flatMap Shape.attributes) a.name) := by
    intro a ha
    obtain ⟨name, -, rfl⟩ := List.mem_map.1 ha
    rfl
  refine ⟨hcoherent.distinct_united, ?_, rfl, fun a ha hany t ht b hb hname => ?_,
    fun a ha hne => ?_⟩
  · rw [unionOf, united, map_name_seenAttributes, List.map_flatMap]
  · rw [hkind a ha] at hany
    exact eq_any_of_knownKind hany (hname ▸ hkinds t ht b hb)
  · have hseen := mem_kindsOf_iff.1 (mem_of_knownKind (hkind a ha ▸ hne))
    rw [← hkind a ha] at hseen
    refine ⟨List.mem_flatMap.1 hseen, fun t ht b hb hname => ?_⟩
    rcases hcoherent.kinds b (List.mem_flatMap.2 ⟨t, ht, hb⟩) a hseen hname with hsame | hany | hany
    · exact .inl hsame
    · exact .inr hany
    · exact absurd hany hne

/-- The union of compatible shapes takes in one more shape if and only if all of them are
compatible, and then it is the union with it. -/
theorem unite_unionOf_eq_ok_iff {shapes : List Shape}
    (h : ∀ s ∈ shapes, ∀ t ∈ shapes, s.Compatible t) {later merged : Shape} :
    (unionOf shapes).unite later = .ok merged ↔
      (∀ s ∈ shapes ++ [later], ∀ t ∈ shapes ++ [later], s.Compatible t) ∧
        merged = unionOf (shapes ++ [later]) := by
  have hshapes := coherent_flatMap_iff.2 h
  rw [← coherent_flatMap_iff, unionOf, unionOf, unite, Chain.bind_eq_ok_iff]
  simp only [List.flatMap_append, List.flatMap_singleton]
  constructor
  · rintro ⟨middle, hattributes, hrelationships⟩
    obtain ⟨hmiddle, rfl⟩ := (uniteAttributes_united_eq_ok_iff hshapes).1 hattributes
    exact (uniteRelationships_united_eq_ok_iff hmiddle).1 hrelationships
  · rintro ⟨hall, hmerged⟩
    have hmiddle := hall.of_subset (List.Subset.refl _) (List.subset_append_left _ _)
    exact ⟨_, (uniteAttributes_united_eq_ok_iff hshapes).2 ⟨hmiddle, rfl⟩,
      (uniteRelationships_united_eq_ok_iff hmiddle).2 ⟨hall, hmerged⟩⟩

end Shape

end DocSchema
