import DocSchema.Proofs.Chain
import DocSchema.Schema.Shape

/-!
# What a union keeps

A shape extends another if it has every attribute of it, with the same kind unless the other knows
none, and every relationship of it. `extends_of_unite` says that a union extends both shapes that it
unites, and `distinct_of_unite` that it has no member name twice. A union that succeeds thus loses
nothing, and by `Extends.trans` neither do several unions in a row.
-/

namespace DocSchema.Shape

/-- A shape has the members of an earlier one. -/
structure Extends (s earlier : Shape) : Prop where
  /-- The attributes are there, with their kind unless that was unknown. -/
  kinds : ∀ name k, earlier.kind? name = some k →
    ∃ k', s.kind? name = some k' ∧ (k = .any ∨ k' = k)
  /-- The relationships are there. -/
  relationships : earlier.relationships ⊆ s.relationships

/-- An attribute has a kind if and only if its name is among those of the attributes. -/
theorem isSome_kind?_iff {s : Shape} {name : String} :
    (s.kind? name).isSome = true ↔ name ∈ s.attributes.map Attribute.name := by
  simp [kind?]

/-- The attributes of an earlier shape are among those of a shape that extends it. -/
theorem Extends.attributeNames {s earlier : Shape} (h : s.Extends earlier) :
    earlier.attributes.map Attribute.name ⊆ s.attributes.map Attribute.name := by
  intro name hname
  rw [← isSome_kind?_iff] at hname ⊢
  obtain ⟨k, hk⟩ := Option.isSome_iff_exists.1 hname
  obtain ⟨k', hk', -⟩ := h.kinds name k hk
  exact Option.isSome_of_eq_some hk'

/-- A shape extends itself. -/
theorem Extends.refl (s : Shape) : s.Extends s where
  kinds _ k h := ⟨k, h, .inr rfl⟩
  relationships := List.Subset.refl _

/-- A kind that an attribute has, unless it was unknown, stays in what extends the shape. -/
theorem Extends.exists_kind {s t : Shape} (h : s.Extends t) {name : String} {k k' : Kind}
    (hk' : t.kind? name = some k') (hor : k = .any ∨ k' = k) :
    ∃ k'', s.kind? name = some k'' ∧ (k = .any ∨ k'' = k) := by
  obtain ⟨k'', hk'', hor'⟩ := h.kinds name k' hk'
  refine ⟨k'', hk'', ?_⟩
  rcases hor with hany | rfl
  · exact .inl hany
  · exact hor'

/-- What extends an extension extends the shape. -/
theorem Extends.trans {s t u : Shape} (hst : s.Extends t) (htu : t.Extends u) : s.Extends u where
  kinds name k hk := by
    obtain ⟨k', hk', hor⟩ := htu.kinds name k hk
    exact hst.exists_kind hk' hor
  relationships := List.Subset.trans htu.relationships hst.relationships

/-- Adding an attribute changes no other kind. -/
theorem kind?_addAttribute {s added : Shape} {a : Attribute} (h : s.addAttribute a = .ok added)
    (name : String) :
    added.kind? name = if a.name = name then some a.kind else s.kind? name := by
  obtain ⟨hfree, rfl⟩ := (addAttribute_eq_ok_iff s added a).1 h
  have hnone : s.attributes.find? (·.name == a.name) = none := by
    rw [List.find?_eq_none]
    intro b hb hname
    refine hfree (List.mem_append_left _ (List.mem_map.2 ⟨b, hb, ?_⟩))
    simpa using hname
  simp only [kind?, List.find?_append]
  by_cases hname : a.name = name
  · subst hname
    simp [hnone]
  · simp [hname]

/-- Giving an attribute another kind changes no other one. -/
theorem find?_setKind (name : String) (kind : Kind) (attributes : List Attribute)
    (other : String) :
    (setKind name kind attributes).find? (·.name == other) =
      (attributes.find? (·.name == other)).map fun a =>
        if a.name = name then { a with kind } else a := by
  induction attributes with
  | nil => rfl
  | cons a rest ih =>
    rw [setKind]
    by_cases ha : a.name = name
    · rw [if_pos ha]
      by_cases hother : a.name = other
      · simp [hother ▸ ha, hother]
      · -- The attributes behind the changed one stay as they are, and none that is found among them
        -- could have its name, as the name that is sought is another.
        have hname : other ≠ name := fun h => hother (ha.trans h.symm)
        simp only [List.find?_cons, beq_false_of_ne hother]
        cases hfound : rest.find? (·.name == other) with
        | none => rfl
        | some b =>
          have hb : b.name = other := by simpa using List.find?_some hfound
          simp [hb, hname]
    · rw [if_neg ha]
      by_cases hother : a.name = other
      · simp [hother, hother ▸ ha]
      · simp only [List.find?_cons, beq_false_of_ne hother]
        exact ih

/-- Giving an attribute another kind keeps the names. -/
theorem map_name_setKind (name : String) (kind : Kind) (attributes : List Attribute) :
    (setKind name kind attributes).map Attribute.name = attributes.map Attribute.name := by
  induction attributes with
  | nil => rfl
  | cons a rest ih =>
    rw [setKind]
    split <;> simp [ih]

/-- A kind that is set is found, if there was one. -/
theorem kind?_setKind (s : Shape) (name : String) (kind : Kind) (other : String) :
    ({ s with attributes := setKind name kind s.attributes } : Shape).kind? other =
      (s.kind? other).map fun k => if other = name then kind else k := by
  simp only [kind?, find?_setKind, Option.map_map]
  refine Option.map_congr fun a ha => ?_
  have hname : a.name = other := by simpa using List.find?_some ha
  subst hname
  by_cases h : a.name = name <;> simp [h]

/-- Uniting with one attribute keeps the shape and takes the attribute in. -/
theorem extends_of_uniteAttribute {s united : Shape} {a : Attribute}
    (h : s.uniteAttribute a = .ok united) :
    united.Extends s ∧ united.relationships = s.relationships ∧
      ∃ k, united.kind? a.name = some k ∧ (a.kind = .any ∨ k = a.kind) := by
  rw [uniteAttribute] at h
  split at h
  · next hnone =>
    have hkind := kind?_addAttribute h
    obtain ⟨hfree, hunited⟩ := (addAttribute_eq_ok_iff s united a).1 h
    have hrelationships : united.relationships = s.relationships := by rw [hunited]
    refine ⟨⟨fun name k hk => ⟨k, ?_, .inr rfl⟩, ?_⟩, hrelationships, a.kind, ?_, .inr rfl⟩
    · have hname : a.name ≠ name := by
        rintro rfl
        simp [hnone] at hk
      rw [hkind, if_neg hname, hk]
    · rw [hrelationships]
      exact List.Subset.refl _
    · rw [hkind, if_pos rfl]
  · next earlier hsome =>
    split at h
    · next hfits =>
      obtain rfl := Except.ok.inj h
      exact ⟨.refl _, rfl, earlier, hsome, hfits.symm⟩
    · split at h
      · next hany =>
        obtain rfl := Except.ok.inj h
        refine ⟨⟨fun name k hk => ?_, List.Subset.refl _⟩, rfl, a.kind, ?_, .inr rfl⟩
        · rw [kind?_setKind, hk]
          by_cases hname : name = a.name
          · subst hname
            obtain rfl := Option.some.inj (hsome.symm.trans hk)
            exact ⟨a.kind, by simp, .inl hany⟩
          · exact ⟨k, by simp [hname], .inr rfl⟩
        · rw [kind?_setKind, hsome]
          simp
      · simp at h

/-- Uniting with one relationship keeps the shape and takes the relationship in. -/
theorem extends_of_uniteRelationship {s united : Shape} {r : Relationship}
    (h : s.uniteRelationship r = .ok united) :
    united.Extends s ∧ r ∈ united.relationships := by
  rw [uniteRelationship] at h
  split at h
  · obtain ⟨-, rfl⟩ := (addRelationship_eq_ok_iff s united r).1 h
    exact ⟨⟨fun _ k hk => ⟨k, hk, .inr rfl⟩, List.subset_append_left _ _⟩, by simp⟩
  · next earlier hsome =>
    split at h
    · next heq =>
      obtain rfl := Except.ok.inj h
      exact ⟨.refl _, heq ▸ List.mem_of_find?_eq_some hsome⟩
    · simp at h

/-- Uniting with one attribute keeps the names distinct. -/
theorem distinct_of_uniteAttribute {s united : Shape} {a : Attribute} (hs : s.Distinct)
    (h : s.uniteAttribute a = .ok united) : united.Distinct := by
  rw [uniteAttribute] at h
  split at h
  · exact distinct_of_addAttribute hs h
  · split at h
    · exact Except.ok.inj h ▸ hs
    · split at h
      · obtain rfl := Except.ok.inj h
        rw [Distinct, memberNames, map_name_setKind]
        exact hs
      · simp at h

/-- Uniting with one relationship keeps the names distinct. -/
theorem distinct_of_uniteRelationship {s united : Shape} {r : Relationship} (hs : s.Distinct)
    (h : s.uniteRelationship r = .ok united) : united.Distinct := by
  rw [uniteRelationship] at h
  split at h
  · exact distinct_of_addRelationship hs h
  · split at h
    · exact Except.ok.inj h ▸ hs
    · simp at h

/-- Uniting with one relationship brings in no other one. -/
theorem mem_of_uniteRelationship {s united : Shape} {r q : Relationship}
    (h : s.uniteRelationship r = .ok united) (hq : q ∈ united.relationships) :
    q ∈ s.relationships ∨ q = r := by
  rw [uniteRelationship] at h
  split at h
  · obtain ⟨-, rfl⟩ := (addRelationship_eq_ok_iff s united r).1 h
    simpa using hq
  · split at h
    · exact .inl (Except.ok.inj h ▸ hq)
    · simp at h

/-- Uniting with one attribute brings in no other name. -/
theorem mem_attributeNames_of_uniteAttribute {s united : Shape} {a : Attribute} {name : String}
    (h : s.uniteAttribute a = .ok united) (hname : name ∈ united.attributes.map Attribute.name) :
    name ∈ s.attributes.map Attribute.name ∨ name = a.name := by
  rw [uniteAttribute] at h
  split at h
  · obtain ⟨-, rfl⟩ := (addAttribute_eq_ok_iff s united a).1 h
    rw [List.map_append, List.mem_append, List.map_singleton, List.mem_singleton] at hname
    exact hname
  · split at h
    · exact .inl (Except.ok.inj h ▸ hname)
    · split at h
      · obtain rfl := Except.ok.inj h
        rw [map_name_setKind] at hname
        exact .inl hname
      · simp at h

/-- Uniting with one relationship keeps the attributes. -/
theorem attributes_of_uniteRelationship {s united : Shape} {r : Relationship}
    (h : s.uniteRelationship r = .ok united) : united.attributes = s.attributes := by
  rw [uniteRelationship] at h
  split at h
  · obtain ⟨-, rfl⟩ := (addRelationship_eq_ok_iff s united r).1 h
    rfl
  · split at h
    · exact Except.ok.inj h ▸ rfl
    · simp at h

/-- A step of a union that is not stopped succeeds. -/
theorem stoppedAt_eq_ok_iff {s united : Shape} {step : Except Conflict Shape} :
    s.stoppedAt step = .ok united ↔ step = .ok united := by
  rw [stoppedAt]
  exact Chain.mapError_eq_ok_iff

/-- Uniting with attributes keeps the shape and takes all of them in. -/
theorem extends_of_uniteAttributes {s united : Shape} {attributes : List Attribute}
    (h : s.uniteAttributes attributes = .ok united) :
    united.Extends s ∧ united.relationships = s.relationships ∧
      ∀ a ∈ attributes, ∃ k, united.kind? a.name = some k ∧ (a.kind = .any ∨ k = a.kind) := by
  induction attributes generalizing s with
  | nil =>
    obtain rfl := Except.ok.inj h
    exact ⟨.refl _, rfl, by simp⟩
  | cons a rest ih =>
    obtain ⟨middle, hstep, hrest⟩ := Chain.bind_eq_ok_iff.1 h
    obtain ⟨hmiddle, hsame, k, hk, hor⟩ := extends_of_uniteAttribute (stoppedAt_eq_ok_iff.1 hstep)
    obtain ⟨hunited, hsame', htaken⟩ := ih hrest
    refine ⟨hunited.trans hmiddle, hsame'.trans hsame, fun b hb => ?_⟩
    rcases List.mem_cons.1 hb with rfl | hb
    · exact hunited.exists_kind hk hor
    · exact htaken b hb

/-- Uniting with relationships keeps the shape and takes all of them in. -/
theorem extends_of_uniteRelationships {s united : Shape} {relationships : List Relationship}
    (h : s.uniteRelationships relationships = .ok united) :
    united.Extends s ∧ relationships ⊆ united.relationships := by
  induction relationships generalizing s with
  | nil =>
    obtain rfl := Except.ok.inj h
    exact ⟨.refl _, List.nil_subset _⟩
  | cons r rest ih =>
    obtain ⟨middle, hstep, hrest⟩ := Chain.bind_eq_ok_iff.1 h
    obtain ⟨hmiddle, hr⟩ := extends_of_uniteRelationship (stoppedAt_eq_ok_iff.1 hstep)
    obtain ⟨hunited, htaken⟩ := ih hrest
    exact ⟨hunited.trans hmiddle, List.cons_subset.2 ⟨hunited.relationships hr, htaken⟩⟩

/-- A union extends both shapes that it unites. -/
theorem extends_of_unite {s later united : Shape} (h : s.unite later = .ok united) :
    united.Extends s ∧ united.Extends later := by
  obtain ⟨middle, hattributes, hrelationships⟩ := Chain.bind_eq_ok_iff.1 h
  obtain ⟨hmiddle, -, hkinds⟩ := extends_of_uniteAttributes hattributes
  obtain ⟨hunited, htaken⟩ := extends_of_uniteRelationships hrelationships
  refine ⟨hunited.trans hmiddle, ⟨fun name k hk => ?_, htaken⟩⟩
  obtain ⟨a, ha, rfl⟩ := Option.map_eq_some_iff.1 hk
  obtain rfl : a.name = name := by simpa using List.find?_some ha
  obtain ⟨k, hk, hor⟩ := hkinds a (List.mem_of_find?_eq_some ha)
  exact hunited.exists_kind hk hor

/-- What uniting with one attribute and with one relationship keeps, a union keeps. -/
theorem invariant_of_unite {P : Shape → Prop} {s later united : Shape}
    (hattribute : ∀ t a t', a ∈ later.attributes → P t → t.uniteAttribute a = .ok t' → P t')
    (hrelationship : ∀ t r t', r ∈ later.relationships → P t →
      t.uniteRelationship r = .ok t' → P t')
    (hs : P s) (h : s.unite later = .ok united) : P united := by
  obtain ⟨middle, hattributes, hrelationships⟩ := Chain.bind_eq_ok_iff.1 h
  -- The attributes come first, and the relationships go on from the shape that they leave.
  have hmiddle : P middle := by
    generalize later.attributes = attributes at hattribute hattributes
    clear h
    induction attributes generalizing s with
    | nil => exact Except.ok.inj hattributes ▸ hs
    | cons a rest ih =>
      obtain ⟨next, hstep, hrest⟩ := Chain.bind_eq_ok_iff.1 hattributes
      have hnext := hattribute s a next (by simp) hs (stoppedAt_eq_ok_iff.1 hstep)
      exact ih hnext (fun t a t' ha => hattribute t a t' (by simp [ha])) hrest
  generalize later.relationships = relationships at hrelationship hrelationships
  clear h hattributes
  induction relationships generalizing middle with
  | nil => exact Except.ok.inj hrelationships ▸ hmiddle
  | cons r rest ih =>
    obtain ⟨next, hstep, hrest⟩ := Chain.bind_eq_ok_iff.1 hrelationships
    have hnext := hrelationship middle r next (by simp) hmiddle (stoppedAt_eq_ok_iff.1 hstep)
    exact ih next hnext (fun t r t' hr => hrelationship t r t' (by simp [hr])) hrest

/-- A union brings in the attributes of the later shape and no others. -/
theorem mem_attributeNames_of_unite {s later united : Shape} {name : String}
    (h : s.unite later = .ok united) (hname : name ∈ united.attributes.map Attribute.name) :
    name ∈ s.attributes.map Attribute.name ∨ name ∈ later.attributes.map Attribute.name := by
  refine invariant_of_unite
    (P := fun t => name ∈ t.attributes.map Attribute.name →
      name ∈ s.attributes.map Attribute.name ∨ name ∈ later.attributes.map Attribute.name)
    (fun t a t' ha ht hstep hname => ?_) (fun t r t' _ ht hstep hname => ?_) .inl h hname
  · rcases mem_attributeNames_of_uniteAttribute hstep hname with hold | rfl
    · exact ht hold
    · exact .inr (List.mem_map_of_mem ha)
  · exact ht (attributes_of_uniteRelationship hstep ▸ hname)

/-- A union has no member name twice. -/
theorem distinct_of_unite {s later united : Shape} (hs : s.Distinct)
    (h : s.unite later = .ok united) : united.Distinct :=
  invariant_of_unite (fun _ _ _ _ => distinct_of_uniteAttribute)
    (fun _ _ _ _ => distinct_of_uniteRelationship) hs h

/-- A union brings in the relationships of the later shape and no others. -/
theorem mem_relationships_of_unite {s later united : Shape} {q : Relationship}
    (h : s.unite later = .ok united) (hq : q ∈ united.relationships) :
    q ∈ s.relationships ∨ q ∈ later.relationships := by
  refine invariant_of_unite
    (P := fun t => ∀ q ∈ t.relationships, q ∈ s.relationships ∨ q ∈ later.relationships)
    (fun t a t' _ ht hstep q hq => ?_) (fun t r t' hr ht hstep q hq => ?_)
    (fun q hq => .inl hq) h q hq
  · obtain ⟨-, hsame, -⟩ := extends_of_uniteAttribute hstep
    exact ht q (hsame ▸ hq)
  · rcases mem_of_uniteRelationship hstep hq with hq | rfl
    · exact ht q hq
    · exact .inr hr

end DocSchema.Shape
