import DocSchema.Proofs.Inference.Reference
import DocSchema.Proofs.Inference.WellFormed
import DocSchema.Proofs.Source.Members

/-!
# The issues of a registry

An issue is for a fault: a relationship that leads to no class or to a class without the index field
(`RelationshipFault`), or a member whose identifier comes earlier among those of the class
(`Collides`). These are said of the relationships and of the positions of the members, and the
issues of a registry are `Reported` for them: one for each that is faulty, in order, and no other.

The search for collisions takes along what it has seen, as identifiers with the earliest name of
each. The invariant is that a look-up there is a search among the names passed
(`reported_collisionsAfter`). That a relationship of an inferred registry leads to no class is told
by the visits of the document alone.
-/

namespace DocSchema

/-- The findings for some items, in their order: one for each item with a fault, none for others. -/
inductive Reported {α β : Type} (Fault : α → β → Prop) : List α → List β → Prop where
  /-- There is nothing to find without items. -/
  | nil : Reported Fault [] []
  /-- An item with a fault has one finding. -/
  | fault {a : α} {b : β} {items : List α} {findings : List β} (h : Fault a b)
    (rest : Reported Fault items findings) : Reported Fault (a :: items) (b :: findings)
  /-- An item without one has none. -/
  | sound {a : α} {items : List α} {findings : List β} (h : ∀ b, ¬ Fault a b)
    (rest : Reported Fault items findings) : Reported Fault (a :: items) findings

namespace Reported

variable {α β : Type} {Fault : α → β → Prop} {items : List α} {findings : List β}

/-- Items that are looked at one by one have the findings of each. -/
theorem flatMap {find : α → List β} (h : ∀ a, Reported Fault [a] (find a)) (items : List α) :
    Reported Fault items (items.flatMap find) := by
  induction items with
  | nil => exact .nil
  | cons a rest ih =>
    rw [List.flatMap_cons]
    have ha := h a
    generalize find a = found at ha
    cases ha with
    | fault hfault hnone => cases hnone with | nil => exact .fault hfault ih
    | sound hsound hnone => cases hnone with | nil => exact .sound hsound ih

/-- A finding is for an item with the fault. -/
theorem exists_of_mem (h : Reported Fault items findings) {b : β} (hb : b ∈ findings) :
    ∃ a ∈ items, Fault a b := by
  induction h with
  | nil => cases hb
  | fault hfault _ ih =>
    rcases List.mem_cons.1 hb with rfl | hb
    · exact ⟨_, List.mem_cons_self, hfault⟩
    · obtain ⟨a, ha, hfault⟩ := ih hb
      exact ⟨a, List.mem_cons_of_mem _ ha, hfault⟩
  | sound _ _ ih =>
    obtain ⟨a, ha, hfault⟩ := ih hb
    exact ⟨a, List.mem_cons_of_mem _ ha, hfault⟩

/-- An item with a fault has a finding. -/
theorem exists_of_fault (h : Reported Fault items findings) {a : α} {b : β} (ha : a ∈ items)
    (hfault : Fault a b) : ∃ found ∈ findings, Fault a found := by
  induction h with
  | nil => cases ha
  | fault hfirst _ ih =>
    rcases List.mem_cons.1 ha with rfl | ha
    · exact ⟨_, List.mem_cons_self, hfirst⟩
    · obtain ⟨found, hfound, hhere⟩ := ih ha
      exact ⟨found, List.mem_cons_of_mem _ hfound, hhere⟩
  | sound hsound _ ih =>
    rcases List.mem_cons.1 ha with rfl | ha
    · exact absurd hfault (hsound b)
    · exact ih ha

/-- There are no findings if and only if no item has a fault. -/
theorem eq_nil_iff (h : Reported Fault items findings) :
    findings = [] ↔ ∀ a ∈ items, ∀ b, ¬ Fault a b := by
  rw [List.eq_nil_iff_forall_not_mem]
  constructor
  · intro hnone a ha b hfault
    obtain ⟨found, hfound, -⟩ := h.exists_of_fault ha hfault
    exact hnone found hfound
  · intro hsound b hb
    obtain ⟨a, ha, hfault⟩ := h.exists_of_mem hb
    exact hsound a ha b hfault

end Reported

namespace Validation

/-- What is wrong with a relationship of a class, as an issue. -/
inductive RelationshipFault (reg : Registry) (c : EntityClass) (r : Relationship) :
    Issue → Prop where
  /-- It leads to no class. -/
  | unresolved (htarget : r.target ∉ reg.classNames) :
    RelationshipFault reg c r ⟨c.name, r.name, .unresolvedTarget r.target⟩
  /-- It is a table of a class that does not have the index field as an attribute. -/
  | notAttribute {field : String} {target : EntityClass} (hfield : r.storage = .indexed field)
    (htarget : reg.find? r.target = some target)
    (hmissing : field ∉ target.shape.attributes.map Attribute.name) :
    RelationshipFault reg c r ⟨c.name, r.name, .indexFieldNotAttribute r.target field⟩

/-- What is wrong with the member at a position among the names of a class, as an issue: an earlier
member has its identifier, and the earliest such member is named. -/
inductive Collides (className : String) (names : List String) (position : ℕ) : Issue → Prop where
  /-- The first of the members with the identifier comes before it. -/
  | earlier {first : ℕ} {member other : String} (hmember : names[position]? = some member)
    (hfirst : first < position) (hother : names[first]? = some other)
    (hsame : Source.fieldName other = Source.fieldName member)
    (hearliest : ∀ before < first, ∀ name, names[before]? = some name →
      Source.fieldName name ≠ Source.fieldName member) :
    Collides className names position
      ⟨className, member, .identifierCollision other (Source.fieldName member)⟩

/-- The issues of a class are those of its relationships and then those of its members: of the
attributes by their names, and behind them of the relationships by their storage keys. -/
def Reports (reg : Registry) (c : EntityClass) (issues : List Issue) : Prop :=
  ∃ names links members, names = c.shape.attributes.map Attribute.name ++
      c.shape.relationships.map Relationship.storageKey ∧
    issues = links ++ members ∧
    Reported (RelationshipFault reg c) c.shape.relationships links ∧
    Reported (Collides c.name names) (List.range names.length) members

/-- The issues of a relationship are what is wrong with it. -/
theorem reported_relationshipIssues (reg : Registry) (c : EntityClass) (r : Relationship) :
    Reported (RelationshipFault reg c) [r] (relationshipIssues reg c r) := by
  rw [relationshipIssues]
  cases htarget : reg.find? r.target with
  | none =>
    have hmissing : r.target ∉ reg.classNames := by
      rw [← Registry.contains_iff, Registry.contains, htarget]
      exact Bool.false_ne_true
    exact .fault (.unresolved hmissing) .nil
  | some target =>
    have hthere : r.target ∈ reg.classNames :=
      Registry.contains_iff.1 (Registry.contains_iff_exists.2 ⟨target, htarget⟩)
    have hname : target.name = r.target := Registry.name_of_find? htarget
    cases hstorage : r.storage with
    | indexed field =>
      by_cases hfield : field ∈ target.shape.attributes.map Attribute.name
      · simp only [Storage.indexField?, if_pos (Shape.isSome_kind?_iff.2 hfield)]
        refine .sound (fun issue hfault => ?_) .nil
        cases hfault with
        | unresolved hmissing => exact hmissing hthere
        | notAttribute hindexed hfound hmissing =>
          obtain rfl := Option.some.inj (htarget.symm.trans hfound)
          obtain rfl := Storage.indexed.inj (hstorage.symm.trans hindexed)
          exact hmissing hfield
      · simp only [Storage.indexField?, if_neg (mt Shape.isSome_kind?_iff.1 hfield), hname]
        exact .fault (.notAttribute hstorage htarget hfield) .nil
    | _ =>
      refine .sound (fun issue hfault => ?_) .nil
      cases hfault with
      | unresolved hmissing => exact hmissing hthere
      | notAttribute hindexed => cases hstorage.symm.trans hindexed

/-- The collisions of the names behind some others are those of their positions, if what has been
seen are the identifiers of the others with the earliest name of each. -/
theorem reported_collisionsAfter (className : String) {names before rest : List String}
    {seen : List (String × String)} (hnames : names = before ++ rest)
    (hseen : ∀ identifier, seen.lookup identifier =
      before.find? fun name => Source.fieldName name == identifier) :
    Reported (Collides className names) (List.range' before.length rest.length)
      (collisionsAfter className seen rest) := by
  induction rest generalizing before seen with
  | nil => exact .nil
  | cons member rest ih =>
    have hmore : names = (before ++ [member]) ++ rest := by simp [hnames]
    have hmember : names[before.length]? = some member := by simp [hnames]
    have hbefore : ∀ position < before.length, names[position]? = before[position]? := by
      intro position hposition
      rw [hnames, List.getElem?_append_left hposition]
    rw [collisionsAfter, List.length_cons, List.range'_succ]
    have hfound := hseen (Source.fieldName member)
    cases hlookup : seen.lookup (Source.fieldName member) with
    | some other =>
      rw [hlookup, eq_comm, List.find?_eq_some_iff_getElem] at hfound
      obtain ⟨hsame, first, hfirst, hother, hearliest⟩ := hfound
      refine .fault (.earlier hmember hfirst ?_ (beq_iff_eq.1 hsame) ?_) ?_
      · rw [hbefore first hfirst, List.getElem?_eq_getElem hfirst, hother]
      · intro i hi name hname heq
        rw [hbefore i (Nat.lt_trans hi hfirst)] at hname
        obtain ⟨hlength, rfl⟩ := List.getElem?_eq_some_iff.1 hname
        simpa [heq] using hearliest i hi
      · have hlength : (before ++ [member]).length = before.length + 1 := by simp
        rw [← hlength]
        refine ih hmore fun identifier => ?_
        rw [List.find?_append, hseen]
        by_cases hidentifier : Source.fieldName member = identifier
        · rw [← hidentifier, ← hseen, hlookup, Option.some_or]
        · simp [hidentifier]
    | none =>
      rw [hlookup, eq_comm, List.find?_eq_none] at hfound
      refine .sound (fun issue hcollides => ?_) ?_
      · cases hcollides with
        | earlier hhere hfirst hother hsame hearliest =>
          rw [hbefore _ hfirst] at hother
          obtain rfl := Option.some.inj (hmember.symm.trans hhere)
          exact hfound _ (List.mem_of_getElem? hother) (beq_iff_eq.2 hsame)
      · have hlength : (before ++ [member]).length = before.length + 1 := by simp
        rw [← hlength]
        refine ih hmore fun identifier => ?_
        rw [List.find?_append, List.lookup_append, hseen]
        by_cases hidentifier : Source.fieldName member = identifier
        · simp [hidentifier]
        · simp [hidentifier, beq_false_of_ne (Ne.symm hidentifier)]

/-- The issues of a class are for what is wrong with it. -/
theorem reports_classIssues (reg : Registry) (c : EntityClass) :
    Reports reg c (classIssues reg c) := by
  refine ⟨storedNames c, _, _, rfl, rfl, .flatMap (reported_relationshipIssues reg c) _, ?_⟩
  rw [List.range_eq_range']
  have hstart : storedNames c = [] ++ storedNames c := rfl
  exact reported_collisionsAfter c.name hstart fun _ => rfl

/-- An issue that a target is missing is that of a relationship of the class. -/
theorem exists_unresolved_of_mem {reg : Registry} {c : EntityClass} {target : String}
    {issue : Issue} (h : issue ∈ classIssues reg c)
    (hkind : issue.kind = .unresolvedTarget target) :
    ∃ r ∈ c.shape.relationships, r.name = issue.member ∧ c.name = issue.className ∧
      r.target = target ∧ target ∉ reg.classNames := by
  obtain ⟨names, links, members, -, heq, hlinks, hmembers⟩ := reports_classIssues reg c
  rw [heq, List.mem_append] at h
  rcases h with h | h
  · obtain ⟨r, hr, hfault⟩ := hlinks.exists_of_mem h
    cases hfault with
    | unresolved hmissing =>
      obtain rfl := IssueKind.unresolvedTarget.inj hkind
      exact ⟨r, hr, rfl, rfl, rfl, hmissing⟩
    | notAttribute => cases hkind
  · obtain ⟨position, -, hfault⟩ := hmembers.exists_of_mem h
    cases hfault with
    | earlier => cases hkind

end Validation

namespace Registry

open Inference Validation

/-- Nothing is wrong with the classes of a registry. -/
structure Consistent (reg : Registry) : Prop where
  /-- Every relationship leads to a class. -/
  targets : ∀ c ∈ reg.classes, ∀ r ∈ c.shape.relationships, r.target ∈ reg.classNames
  /-- The index field of a table is an attribute of the class that it leads to. -/
  indexFields : ∀ c ∈ reg.classes, ∀ r ∈ c.shape.relationships, ∀ field,
    r.storage = .indexed field → ∀ target, reg.find? r.target = some target →
      field ∈ target.shape.attributes.map Attribute.name
  /-- The members of a class have different identifiers, attributes by their names and relationships
  by their storage keys. -/
  identifiers : ∀ c ∈ reg.classes, ((c.shape.attributes.map Attribute.name ++
    c.shape.relationships.map Relationship.storageKey).map Source.fieldName).Nodup

/-- A registry has no issues if and only if nothing is wrong with its classes. -/
theorem issues_eq_nil_iff (reg : Registry) : reg.issues = [] ↔ reg.Consistent := by
  have hlinks : ∀ c : EntityClass,
      c.shape.relationships.flatMap (relationshipIssues reg c) = [] ↔
        ∀ r ∈ c.shape.relationships, ∀ issue, ¬ RelationshipFault reg c r issue :=
    fun c => (Reported.flatMap (reported_relationshipIssues reg c) _).eq_nil_iff
  have hmembers : ∀ c : EntityClass, collisionsAfter c.name [] (storedNames c) = [] ↔
      ((storedNames c).map Source.fieldName).Nodup := by
    intro c
    simp [Source.collisionsAfter_eq_nil_iff]
  rw [issues, List.flatMap_eq_nil_iff]
  simp only [classIssues, List.append_eq_nil_iff, hlinks, hmembers]
  constructor
  · intro hsound
    refine ⟨fun c hc r hr => ?_, fun c hc r hr field hfield target htarget => ?_,
      fun c hc => (hsound c hc).2⟩
    · by_contra hmissing
      exact (hsound c hc).1 r hr _ (.unresolved hmissing)
    · by_contra hmissing
      exact (hsound c hc).1 r hr _ (.notAttribute hfield htarget hmissing)
  · intro hreg c hc
    refine ⟨fun r hr issue hfault => ?_, hreg.identifiers c hc⟩
    cases hfault with
    | unresolved hmissing => exact hmissing (hreg.targets c hc r hr)
    | notAttribute hfield htarget hmissing =>
      exact hmissing (hreg.indexFields c hc r hr _ hfield _ htarget)

/-- A registry has the issue that the target of a relationship is missing if and only if it is. -/
theorem unresolved_mem_issues_iff {reg : Registry} (hreg : reg.WellFormed) {c : EntityClass}
    (hc : c ∈ reg.classes) {r : Relationship} (hr : r ∈ c.shape.relationships) {target : String} :
    ⟨c.name, r.name, .unresolvedTarget target⟩ ∈ reg.issues ↔
      target = r.target ∧ target ∉ reg.classNames := by
  rw [issues, List.mem_flatMap]
  constructor
  · rintro ⟨d, hd, hissue⟩
    obtain ⟨q, hq, hqname, hdname, rfl, hmissing⟩ := exists_unresolved_of_mem hissue rfl
    -- The names tell which class and which relationship the issue is of.
    obtain rfl := List.inj_on_of_nodup_map hreg.nodup hd hc hdname
    have hnames := (hreg.shapes d hd).distinct.of_append_right
    obtain rfl := List.inj_on_of_nodup_map hnames hq hr hqname
    exact ⟨rfl, hmissing⟩
  · rintro ⟨rfl, hmissing⟩
    have hreported := Reported.flatMap (reported_relationshipIssues reg c) c.shape.relationships
    obtain ⟨issue, hissue, hfault⟩ := hreported.exists_of_fault hr (.unresolved hmissing)
    refine ⟨c, hc, List.mem_append_left _ ?_⟩
    cases hfault with
    | unresolved => exact hissue
    | notAttribute _ htarget =>
      exact absurd (contains_iff.1 (contains_iff_exists.2 ⟨_, htarget⟩)) hmissing

/-- In the registry of a document the target of a relationship is missing if and only if the
relationship is no single object and the document has no visit under the target. -/
theorem target_notMem_iff {rootName classNamespace : String} {document : Json} {mode : Merge}
    {reg : Registry}
    (h : Registry.inferDocument rootName document classNamespace mode = .ok reg) {c : EntityClass}
    (hc : c ∈ reg.classes) {r : Relationship} (hr : r ∈ c.shape.relationships) :
    r.target ∉ reg.classNames ↔ r.storage ≠ .single ∧
      ∀ v ∈ (Visit.whole rootName document).preorder, v.name ≠ r.target := by
  have hnames : r.target ∈ reg.classNames ↔
      ∃ v ∈ (Visit.whole rootName document).preorder, v.name = r.target := by
    obtain ⟨-, -, rfl⟩ := inferDocument_eq_ok_iff.1 h
    rw [classNames_registryOf, List.mem_eraseDups, List.mem_map]
  constructor
  · intro hmissing
    refine ⟨fun hsingle => ?_, fun v hv hname => hmissing (hnames.2 ⟨v, hv, hname⟩)⟩
    exact hmissing (contains_iff.1 (contains_of_single h hc hr hsingle))
  · rintro ⟨-, hnone⟩ hthere
    obtain ⟨v, hv, hname⟩ := hnames.1 hthere
    exact hnone v hv hname

/-- The issues of a registry are reported class by class, one for each fault and no others, and
there are none if and only if the registry is consistent. In the registry of a document a missing
target is reported for just those relationships that are no single objects and whose target no part
of the document was visited under. -/
theorem issues_reported (reg : Registry) :
    (∃ reports, List.Forall₂ (Reports reg) reg.classes reports ∧ reg.issues = reports.flatten) ∧
    (reg.issues = [] ↔ reg.Consistent) ∧
    ∀ rootName document classNamespace mode,
      Registry.inferDocument rootName document classNamespace mode = .ok reg →
        ∀ c ∈ reg.classes, ∀ r ∈ c.shape.relationships, ∀ target,
          ⟨c.name, r.name, .unresolvedTarget target⟩ ∈ reg.issues ↔
            target = r.target ∧ r.storage ≠ .single ∧
              ∀ v ∈ (Visit.whole rootName document).preorder, v.name ≠ r.target := by
  refine ⟨⟨reg.classes.map (classIssues reg), ?_, rfl⟩, reg.issues_eq_nil_iff, ?_⟩
  · exact List.forall₂_map_right_iff.2 (List.forall₂_same.2 fun c _ => reports_classIssues reg c)
  · intro rootName document classNamespace mode h c hc r hr target
    rw [unresolved_mem_issues_iff (yields_of_inferDocument h).wellFormed hc hr]
    refine and_congr_right ?_
    rintro rfl
    exact target_notMem_iff h hc hr

/-- A document with two arrays that say nothing of their items, a table whose entries lose the index
field, attributes with one identifier, and an attribute with that of the store of a relationship. -/
def faultyDocument : Json :=
  .object [("a", .array []), ("fooBar", .null),
    ("table_lines", .object [("x", .object [("id", .string "x")])]),
    ("foo_bar", .null), ("part", .object [("liste_lines", .array [.object [("size", .null)]]),
      ("b", .array []), ("listeBs", .null)]), ("FooBar", .null)]

/-- The issues of the document, of its root and of the part. -/
def faultyIssues : List Issue :=
  [⟨"root", "a", .unresolvedTarget "a"⟩, ⟨"root", "line", .indexFieldNotAttribute "line" "id"⟩,
    ⟨"root", "foo_bar", .identifierCollision "fooBar" "foo_bar"⟩,
    ⟨"root", "FooBar", .identifierCollision "fooBar" "foo_bar"⟩,
    ⟨"part", "b", .unresolvedTarget "b"⟩,
    ⟨"part", "liste_bs", .identifierCollision "listeBs" "liste_bs"⟩]

/-- Every fault of the document is reported, and both collisions of the root name the first member.
That of the part is reported for the storage key, though the relationship comes before the attribute
in the document. No part of the document was visited under the first missing target. -/
theorem issues_reported_faultyDocument :
    ∃ reg, Registry.inferDocument "root" faultyDocument "" .overwrite = .ok reg ∧
      reg.issues = faultyIssues ∧
      (∃ reports, List.Forall₂ (Reports reg) reg.classes reports ∧
        faultyIssues = reports.flatten) ∧
      ¬ reg.Consistent ∧ ∀ v ∈ (Visit.whole "root" faultyDocument).preorder, v.name ≠ "a" := by
  have hcheck : (Registry.inferDocument "root" faultyDocument "" .overwrite).toOption.any
      (fun reg => decide (reg.issues = faultyIssues ∧ ∃ c ∈ reg.classes, c.name = "root" ∧
        ∃ r ∈ c.shape.relationships, r.name = "a")) = true := by
    decide +kernel
  obtain ⟨reg, hinfer, htest⟩ := Chain.exists_of_any hcheck
  obtain ⟨hissues, c, hc, hroot, r, hr, ha⟩ := of_decide_eq_true htest
  obtain ⟨hreports, hconsistent, hvisits⟩ := issues_reported reg
  have hmissing : ⟨c.name, r.name, .unresolvedTarget "a"⟩ ∈ reg.issues := by
    rw [hissues, hroot, ha]
    exact List.mem_cons_self
  obtain ⟨htarget, -, hnone⟩ := (hvisits _ _ _ _ hinfer c hc r hr "a").1 hmissing
  refine ⟨reg, hinfer, hissues, hissues ▸ hreports, ?_, htarget ▸ hnone⟩
  rw [← hconsistent, hissues]
  exact List.cons_ne_nil _ _

end Registry

end DocSchema
