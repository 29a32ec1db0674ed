import DocSchema.Proofs.Schema.Coherence

/-!
# Unions that are stopped

A union takes in the members of the later shape one after the other, the attributes first, up to the
first member that the shape refuses (`Refuses`). As no name comes twice in the later shape, the
members before it do not matter to the refused one (`lookups_of_unite`), so that the shape refuses
it on its own. What a stopped union has reached is the union of the shape with the members before
the refused one (`exists_stopsAfter`): nothing of the shape is lost, and it stays as it was exactly
if it had these members already (`StopsAfter.same_iff`).
-/

namespace DocSchema.Shape

/-- Why a shape refuses an attribute. -/
inductive RefusesAttribute (s : Shape) (a : Attribute) : Conflict → Prop where
  /-- It has the attribute with another kind, and both kinds are known. -/
  | kind {earlier : Kind} (hearlier : s.kind? a.name = some earlier) (hknown : earlier ≠ .any)
    (hlater : a.kind ≠ .any) (hne : earlier ≠ a.kind) :
    s.RefusesAttribute a (.kindChange a.name earlier a.kind)
  /-- It has a relationship of the name. -/
  | taken (hnone : s.kind? a.name = none) (htaken : (s.relationship? a.name).isSome = true) :
    s.RefusesAttribute a (.declaredTwice a.name)

/-- Why a shape refuses a relationship. -/
inductive RefusesRelationship (s : Shape) (r : Relationship) : Conflict → Prop where
  /-- It has another relationship of the name. -/
  | other {earlier : Relationship} (hearlier : s.relationship? r.name = some earlier)
    (hne : earlier ≠ r) : s.RefusesRelationship r (.relationshipChange earlier r)
  /-- It has an attribute of the name. -/
  | taken (hnone : s.relationship? r.name = none) (htaken : (s.kind? r.name).isSome = true) :
    s.RefusesRelationship r (.declaredTwice r.name)

/-- A shape refuses a member of a later one, and these are the members of the later one that come
before it. -/
inductive Refuses (s later : Shape) (conflict : Conflict) : Shape → Prop where
  /-- It refuses an attribute. -/
  | atAttribute {front behind : List Attribute} {a : Attribute}
    (hcut : later.attributes = front ++ a :: behind) (hrefused : s.RefusesAttribute a conflict) :
    s.Refuses later conflict ⟨front, []⟩
  /-- It refuses a relationship, which comes after all attributes. -/
  | atRelationship {front behind : List Relationship} {r : Relationship}
    (hcut : later.relationships = front ++ r :: behind)
    (hrefused : s.RefusesRelationship r conflict) :
    s.Refuses later conflict ⟨later.attributes, front⟩

/-- The union of a shape with a later one stops after some members of that. -/
structure StopsAfter (s later taken : Shape) (stopped : Stopped) : Prop where
  /-- The shape refuses the first member behind these. -/
  refuses : s.Refuses later stopped.conflict taken
  /-- These are compatible with it. -/
  compatible : s.Compatible taken
  /-- They have been united with it, and nothing else has. -/
  isUnion : IsUnion [s, taken] stopped.reached
  /-- Nothing of the shape is lost. -/
  extends_shape : stopped.reached.Extends s
  /-- The shape is as it was exactly if it had these members already. -/
  same_iff : stopped.reached = s ↔ s.Extends taken

section Refusal

variable {s t later taken : Shape} {conflict : Conflict}

/-- An attribute cannot be united with a shape exactly if the shape refuses it. -/
theorem uniteAttribute_eq_error_iff {a : Attribute} :
    s.uniteAttribute a = .error conflict ↔ s.RefusesAttribute a conflict := by
  rw [uniteAttribute]
  constructor
  · intro h
    split at h
    · next hnone =>
      rw [addAttribute, declares, hnone] at h
      split at h
      · next htaken =>
        obtain rfl := Except.error.inj h
        exact .taken hnone (by simpa using htaken)
      · cases h
    · next earlier hearlier =>
      split at h
      · cases h
      · next hfits =>
        obtain ⟨hne, hlater⟩ := not_or.1 hfits
        split at h
        · cases h
        · next hknown =>
          obtain rfl := Except.error.inj h
          exact .kind hearlier hknown hlater hne
  · rintro (⟨hearlier, hknown, hlater, hne⟩ | ⟨hnone, htaken⟩)
    · simp [hearlier, hknown, hlater, hne]
    · simp [hnone, addAttribute, declares, htaken]

/-- A relationship cannot be united with a shape exactly if the shape refuses it. -/
theorem uniteRelationship_eq_error_iff {r : Relationship} :
    s.uniteRelationship r = .error conflict ↔ s.RefusesRelationship r conflict := by
  rw [uniteRelationship]
  constructor
  · intro h
    split at h
    · next hnone =>
      rw [addRelationship, declares, hnone] at h
      split at h
      · next htaken =>
        obtain rfl := Except.error.inj h
        exact .taken hnone (by simpa using htaken)
      · cases h
    · next earlier hearlier =>
      split at h
      · cases h
      · next hne =>
        obtain rfl := Except.error.inj h
        exact .other hearlier hne
  · rintro (⟨hearlier, hne⟩ | ⟨hnone, htaken⟩)
    · simp [hearlier, hne]
    · simp [hnone, addRelationship, declares, htaken]

/-- What a shape refuses depends on what it has under the name. -/
theorem RefusesAttribute.congr {a : Attribute} (h : t.RefusesAttribute a conflict)
    (hkind : t.kind? a.name = s.kind? a.name)
    (hrelationship : t.relationship? a.name = s.relationship? a.name) :
    s.RefusesAttribute a conflict := by
  cases h with
  | kind hearlier hknown hlater hne => exact .kind (hkind ▸ hearlier) hknown hlater hne
  | taken hnone htaken => exact .taken (hkind ▸ hnone) (hrelationship ▸ htaken)

/-- What a shape refuses depends on what it has under the name. -/
theorem RefusesRelationship.congr {r : Relationship} (h : t.RefusesRelationship r conflict)
    (hkind : t.kind? r.name = s.kind? r.name)
    (hrelationship : t.relationship? r.name = s.relationship? r.name) :
    s.RefusesRelationship r conflict := by
  cases h with
  | other hearlier hne => exact .other (hrelationship ▸ hearlier) hne
  | taken hnone htaken => exact .taken (hrelationship ▸ hnone) (hkind ▸ htaken)

/-- The attributes before the refused member are the first ones. -/
theorem Refuses.attributes_prefix (h : s.Refuses later conflict taken) :
    taken.attributes <+: later.attributes := by
  cases h with
  | atAttribute hcut => exact ⟨_, hcut.symm⟩
  | atRelationship => exact List.prefix_refl _

/-- The relationships before the refused member are the first ones. -/
theorem Refuses.relationships_prefix (h : s.Refuses later conflict taken) :
    taken.relationships <+: later.relationships := by
  cases h with
  | atAttribute => exact List.nil_prefix
  | atRelationship hcut => exact ⟨_, hcut.symm⟩

/-- The members before the refused one have distinct names if all members have. -/
theorem Refuses.distinct (h : s.Refuses later conflict taken) (hlater : later.Distinct) :
    taken.Distinct :=
  hlater.sublist ((h.attributes_prefix.sublist.map _).append (h.relationships_prefix.sublist.map _))

end Refusal

section Lookups

variable {s united : Shape} {name : String}

/-- Uniting with one attribute changes nothing under other names. -/
theorem lookups_of_uniteAttribute {a : Attribute} (h : s.uniteAttribute a = .ok united)
    (hname : a.name ≠ name) :
    united.kind? name = s.kind? name ∧ united.relationship? name = s.relationship? name := by
  obtain ⟨-, hrelationships, -⟩ := extends_of_uniteAttribute h
  refine ⟨?_, by rw [relationship?, relationship?, hrelationships]⟩
  rw [uniteAttribute] at h
  split at h
  · rw [kind?_addAttribute h, if_neg hname]
  · split at h
    · exact Except.ok.inj h ▸ rfl
    · split at h
      · obtain rfl := Except.ok.inj h
        rw [kind?_setKind]
        simp [Ne.symm hname]
      · cases h

/-- Uniting with one relationship changes nothing under other names. -/
theorem lookups_of_uniteRelationship {r : Relationship} (h : s.uniteRelationship r = .ok united)
    (hname : r.name ≠ name) :
    united.kind? name = s.kind? name ∧ united.relationship? name = s.relationship? name := by
  refine ⟨by rw [kind?, kind?, attributes_of_uniteRelationship h], ?_⟩
  rw [uniteRelationship] at h
  split at h
  · obtain ⟨-, rfl⟩ := (addRelationship_eq_ok_iff s united r).1 h
    rw [relationship?, List.find?_append, List.find?_cons_of_neg (by simpa using hname)]
    exact Option.or_none
  · split at h
    · exact Except.ok.inj h ▸ rfl
    · cases h

/-- A union changes nothing under names that the later shape does not declare. -/
theorem lookups_of_unite {later : Shape} (h : s.unite later = .ok united)
    (hname : name ∉ later.memberNames) :
    united.kind? name = s.kind? name ∧ united.relationship? name = s.relationship? name := by
  refine invariant_of_unite
    (P := fun t => t.kind? name = s.kind? name ∧ t.relationship? name = s.relationship? name)
    (fun t a t' ha ht hstep => ?_) (fun t r t' hr ht hstep => ?_) ⟨rfl, rfl⟩ h
  · have hne : a.name ≠ name := fun heq =>
      hname (List.mem_append_left _ (List.mem_map.2 ⟨a, ha, heq⟩))
    obtain ⟨hkind, hrelationship⟩ := lookups_of_uniteAttribute hstep hne
    exact ⟨hkind.trans ht.1, hrelationship.trans ht.2⟩
  · have hne : r.name ≠ name := fun heq =>
      hname (List.mem_append_right _ (List.mem_map.2 ⟨r, hr, heq⟩))
    obtain ⟨hkind, hrelationship⟩ := lookups_of_uniteRelationship hstep hne
    exact ⟨hkind.trans ht.1, hrelationship.trans ht.2⟩

end Lookups

section Stop

variable {s later : Shape} {stopped : Stopped}

/-- A step of a union that is stopped leaves the shape before it. -/
theorem stoppedAt_eq_error_iff {step : Except Conflict Shape} :
    s.stoppedAt step = .error stopped ↔ step = .error stopped.conflict ∧ stopped.reached = s := by
  obtain ⟨conflict, reached⟩ := stopped
  cases step with
  | ok united => simp [stoppedAt, Except.mapError]
  | error other => simp [stoppedAt, Except.mapError, eq_comm]

/-- Uniting with attributes is stopped at one, and those before it have been taken in. -/
theorem exists_cut_of_uniteAttributes {attributes : List Attribute}
    (h : s.uniteAttributes attributes = .error stopped) :
    ∃ front a behind, attributes = front ++ a :: behind ∧
      s.uniteAttributes front = .ok stopped.reached ∧
      stopped.reached.uniteAttribute a = .error stopped.conflict := by
  induction attributes generalizing s with
  | nil => cases h
  | cons a rest ih =>
    rcases Chain.bind_eq_error_iff.1 h with hstep | ⟨next, hstep, hrest⟩
    · obtain ⟨hrefused, hreached⟩ := stoppedAt_eq_error_iff.1 hstep
      exact ⟨[], a, rest, rfl, congrArg Except.ok hreached.symm, hreached ▸ hrefused⟩
    · obtain ⟨front, b, behind, rfl, hunited, hrefused⟩ := ih hrest
      exact ⟨a :: front, b, behind, rfl, Chain.bind_eq_ok_iff.2 ⟨next, hstep, hunited⟩, hrefused⟩

/-- Uniting with relationships is stopped at one, and those before it have been taken in. -/
theorem exists_cut_of_uniteRelationships {relationships : List Relationship}
    (h : s.uniteRelationships relationships = .error stopped) :
    ∃ front r behind, relationships = front ++ r :: behind ∧
      s.uniteRelationships front = .ok stopped.reached ∧
      stopped.reached.uniteRelationship r = .error stopped.conflict := by
  induction relationships generalizing s with
  | nil => cases h
  | cons r rest ih =>
    rcases Chain.bind_eq_error_iff.1 h with hstep | ⟨next, hstep, hrest⟩
    · obtain ⟨hrefused, hreached⟩ := stoppedAt_eq_error_iff.1 hstep
      exact ⟨[], r, rest, rfl, congrArg Except.ok hreached.symm, hreached ▸ hrefused⟩
    · obtain ⟨front, q, behind, rfl, hunited, hrefused⟩ := ih hrest
      exact ⟨r :: front, q, behind, rfl, Chain.bind_eq_ok_iff.2 ⟨next, hstep, hunited⟩, hrefused⟩

/-- A union that is stopped has united the shape with the members before one that is refused by what
it has reached. -/
theorem exists_unite_of_stopped (h : s.unite later = .error stopped) :
    ∃ taken, s.unite taken = .ok stopped.reached ∧
      stopped.reached.Refuses later stopped.conflict taken := by
  rcases Chain.bind_eq_error_iff.1 h with hattributes | ⟨middle, hmiddle, hrelationships⟩
  · obtain ⟨front, a, behind, hcut, hunited, hrefused⟩ := exists_cut_of_uniteAttributes hattributes
    exact ⟨⟨front, []⟩, Chain.bind_eq_ok_iff.2 ⟨_, hunited, rfl⟩,
      .atAttribute hcut (uniteAttribute_eq_error_iff.1 hrefused)⟩
  · obtain ⟨front, r, behind, hcut, hunited, hrefused⟩ :=
      exists_cut_of_uniteRelationships hrelationships
    exact ⟨⟨later.attributes, front⟩, Chain.bind_eq_ok_iff.2 ⟨middle, hmiddle, hunited⟩,
      .atRelationship hcut (uniteRelationship_eq_error_iff.1 hrefused)⟩

end Stop

section Reached

variable {s later taken reached : Shape} {conflict : Conflict}

/-- A name that comes behind the first members of a list does not come among them. -/
theorem notMem_front_of_nodup {α : Type} {f : α → String} {front behind : List α} {a : α}
    (h : ((front ++ a :: behind).map f).Nodup) : f a ∉ front.map f := by
  intro hmem
  obtain ⟨b, hb, heq⟩ := List.mem_map.1 hmem
  exact ne_of_nodup_map h hb heq

/-- What a union of a shape with the members before a refused one refuses, the shape itself
refuses. -/
theorem Refuses.of_reached (hunited : s.unite taken = .ok reached) (hlater : later.Distinct)
    (h : reached.Refuses later conflict taken) : s.Refuses later conflict taken := by
  obtain ⟨hattributes, hrelationships, hapart⟩ := List.nodup_append.1 hlater
  cases h with
  | atAttribute hcut hrefused =>
    rw [hcut] at hattributes
    obtain ⟨hkind, hrelationship⟩ := lookups_of_unite hunited
      (by simpa [memberNames] using notMem_front_of_nodup hattributes)
    exact .atAttribute hcut (hrefused.congr hkind hrelationship)
  | @atRelationship front behind r hcut hrefused =>
    rw [hcut] at hrelationships
    have hname : r.name ∉ (⟨later.attributes, front⟩ : Shape).memberNames := by
      rw [memberNames, List.mem_append, not_or]
      refine ⟨fun hmem => ?_, notMem_front_of_nodup hrelationships⟩
      exact hapart _ hmem _ (List.mem_map.2 ⟨r, by simp [hcut], rfl⟩) rfl
    obtain ⟨hkind, hrelationship⟩ := lookups_of_unite hunited hname
    exact .atRelationship hcut (hrefused.congr hkind hrelationship)

/-- Attributes with distinct names have been seen as they are. -/
theorem seenAttributes_of_nodup {attributes : List Attribute}
    (h : (attributes.map Attribute.name).Nodup) : seenAttributes attributes = attributes := by
  induction attributes using List.reverseRecOn with
  | nil => rfl
  | append_singleton front a ih =>
    have hfront : (front.map Attribute.name).Nodup :=
      h.sublist ((List.sublist_append_left _ _).map _)
    rw [seenAttributes_concat_of_notMem (notMem_front_of_nodup h), ih hfront]

/-- A shape is the union of itself. -/
theorem unionOf_singleton (hs : s.Distinct) : unionOf [s] = s := by
  obtain ⟨hattributes, hrelationships, -⟩ := List.nodup_append.1 hs
  rw [unionOf, united, List.flatMap_singleton, List.flatMap_singleton,
    seenAttributes_of_nodup hattributes, eraseDups_of_nodup hrelationships.of_map]

/-- A shape whose members have distinct names is compatible with itself. -/
theorem compatible_self (hs : s.Distinct) : s.Compatible s := by
  obtain ⟨hattributes, hrelationships, hapart⟩ := List.nodup_append.1 hs
  refine ⟨fun a ha b hb hname => ?_, fun r hr q hq hname => ?_, fun a ha q hq hname => ?_,
    fun r hr b hb hname => ?_⟩
  · exact .inl (congrArg _ (List.inj_on_of_nodup_map hattributes ha hb hname))
  · exact List.inj_on_of_nodup_map hrelationships hr hq hname
  · exact hapart _ (List.mem_map_of_mem ha) _ (List.mem_map_of_mem hq) hname
  · exact hapart _ (List.mem_map_of_mem hb) _ (List.mem_map_of_mem hr) hname.symm

/-- Two shapes whose members have distinct names have a union if and only if they are compatible,
and what uniting them gives is that union. -/
theorem unite_eq_ok_iff (hs : s.Distinct) {merged : Shape} :
    s.unite later = .ok merged ↔
      (∀ t ∈ [s, later], ∀ u ∈ [s, later], t.Compatible u) ∧ merged = unionOf [s, later] := by
  have hself : ∀ t ∈ [s], ∀ u ∈ [s], t.Compatible u := by
    simpa using compatible_self hs
  have hunion : (unionOf [s]).unite later = .ok merged ↔ _ := unite_unionOf_eq_ok_iff hself
  rwa [unionOf_singleton hs] at hunion

/-- A shape takes in attributes that it has as it is. -/
theorem uniteAttributes_eq_self {attributes : List Attribute}
    (h : ∀ a ∈ attributes, ∃ k, s.kind? a.name = some k ∧ (a.kind = .any ∨ k = a.kind)) :
    s.uniteAttributes attributes = .ok s := by
  induction attributes with
  | nil => rfl
  | cons a rest ih =>
    obtain ⟨k, hk, hor⟩ := h a List.mem_cons_self
    have hstep : s.uniteAttribute a = .ok s := by
      rw [uniteAttribute, hk]
      exact if_pos hor.symm
    exact Chain.bind_eq_ok_iff.2 ⟨s, stoppedAt_eq_ok_iff.2 hstep,
      ih fun b hb => h b (List.mem_cons_of_mem _ hb)⟩

/-- A shape takes in relationships that it has as it is. -/
theorem uniteRelationships_eq_self (hs : s.Distinct) {relationships : List Relationship}
    (h : relationships ⊆ s.relationships) : s.uniteRelationships relationships = .ok s := by
  induction relationships with
  | nil => rfl
  | cons r rest ih =>
    obtain ⟨hr, hrest⟩ := List.cons_subset.1 h
    have hstep : s.uniteRelationship r = .ok s := by
      rw [uniteRelationship, relationship?_of_mem hs hr]
      exact if_pos rfl
    exact Chain.bind_eq_ok_iff.2 ⟨s, stoppedAt_eq_ok_iff.2 hstep, ih hrest⟩

/-- A shape that has the members of another one takes them in as it is. -/
theorem unite_eq_self (hs : s.Distinct) (hlater : later.Distinct) (h : s.Extends later) :
    s.unite later = .ok s :=
  Chain.bind_eq_ok_iff.2 ⟨s,
    uniteAttributes_eq_self fun a ha => h.kinds a.name a.kind (kind?_of_mem hlater ha),
    uniteRelationships_eq_self hs h.relationships⟩

/-- A union that is stopped stops after the members before the first one that the shape refuses. -/
theorem exists_stopsAfter {stopped : Stopped} (hs : s.Distinct) (hlater : later.Distinct)
    (h : s.unite later = .error stopped) : ∃ taken, s.StopsAfter later taken stopped := by
  -- What is reached refuses a member, and the names before it do not matter to that.
  obtain ⟨taken, hunited, hrefuses⟩ := exists_unite_of_stopped h
  obtain ⟨hcompatible, hreached⟩ := (unite_eq_ok_iff hs).1 hunited
  obtain ⟨hextends, htaken⟩ := extends_of_unite hunited
  refine ⟨taken, hrefuses.of_reached hunited hlater, hcompatible s (by simp) taken (by simp),
    hreached ▸ isUnion_unionOf hcompatible, hextends, fun heq => heq ▸ htaken, fun hsame => ?_⟩
  have hself := unite_eq_self hs (hrefuses.distinct hlater) hsame
  exact Except.ok.inj (hunited.symm.trans hself)

/-- A union of shapes that are not compatible is stopped. -/
theorem exists_stopped_of_not_compatible (hs : s.Distinct) (h : ¬ s.Compatible later) :
    ∃ stopped, s.unite later = .error stopped := by
  cases hunite : s.unite later with
  | error stopped => exact ⟨stopped, rfl⟩
  | ok merged =>
    exact absurd (((unite_eq_ok_iff hs).1 hunite).1 s (by simp) later (by simp)) h

/-- Shapes of which one refuses a member of the other are not compatible. -/
theorem Refuses.not_compatible (h : s.Refuses later conflict taken) : ¬ s.Compatible later := by
  intro hcompatible
  -- Each reason for refusing a member is an exception to one clause of compatibility.
  cases h with
  | @atAttribute front behind a hcut hrefused =>
    have ha : a ∈ later.attributes := by simp [hcut]
    cases hrefused with
    | @kind earlier hearlier hknown hlater hne =>
      obtain ⟨b, hb, rfl⟩ := Option.map_eq_some_iff.1 hearlier
      have hname : b.name = a.name := by simpa using List.find?_some hb
      rcases hcompatible.kinds b (List.mem_of_find?_eq_some hb) a ha hname with heq | hany | hany
      · exact hne heq
      · exact hknown hany
      · exact hlater hany
    | taken hnone htaken =>
      obtain ⟨r, hr⟩ := Option.isSome_iff_exists.1 htaken
      have hname : r.name = a.name := by simpa using List.find?_some hr
      exact hcompatible.relationships_apart r (List.mem_of_find?_eq_some hr) a ha hname
  | @atRelationship front behind r hcut hrefused =>
    have hr : r ∈ later.relationships := by simp [hcut]
    cases hrefused with
    | @other earlier hearlier hne =>
      have hname : earlier.name = r.name := by simpa using List.find?_some hearlier
      exact hne (hcompatible.relationships earlier (List.mem_of_find?_eq_some hearlier) r hr hname)
    | taken hnone htaken =>
      obtain ⟨k, hk⟩ := Option.isSome_iff_exists.1 htaken
      obtain ⟨a, ha, -⟩ := Option.map_eq_some_iff.1 hk
      have hname : a.name = r.name := by simpa using List.find?_some ha
      exact hcompatible.attributes_apart a (List.mem_of_find?_eq_some ha) r hr hname

end Reached

end DocSchema.Shape
