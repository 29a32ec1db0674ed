import DocSchema.Proofs.Entity.Elements
import DocSchema.Proofs.Session.Histories

/-!
# Fragments in other words

An entity is made of what its class asks for: the attributes and the members of the relationships
are looked up by their keys, so that neither the order of the members nor those that the class does
not read matter. The order of the items of an array and of the entries of a table does, and so does
everything inside the value of an attribute. A fragment is `Reworded` by changes that do not matter,
one after the other, in the objects that become entities, at any depth; no entity and no failure
changes with it (`Session.materialize_reworded`).

A reworded element is one of the relationship that its member is read by, and of no other one
(`held_eq_nil_of_ne`), because the names of inferred relationships follow from their keys.
-/

namespace DocSchema

/-- The class reads the member of a key: it is that of an attribute, or a relationship is looked for
under it. -/
def EntityClass.Reads (c : EntityClass) (key : String) : Prop :=
  key ∈ c.shape.attributes.map Attribute.name ∨
    ∃ r ∈ c.shape.relationships, key = r.jsonKey ∨ key = r.storageKey

instance (c : EntityClass) (key : String) : Decidable (c.Reads key) :=
  inferInstanceAs (Decidable (_ ∨ _))

namespace Members

/-- Where no key comes twice, the order of the members does not matter to a look-up. -/
theorem lookup_eq_of_perm {members others : Members} (hkeys : (members.map Prod.fst).Nodup)
    (h : members.Perm others) (key : String) : members.lookup key = others.lookup key := by
  have hothers : (others.map Prod.fst).Nodup := (h.map Prod.fst).nodup_iff.1 hkeys
  refine Option.ext fun value => ⟨fun hvalue => ?_, fun hvalue => ?_⟩
  · exact lookup_eq_some_of_mem hothers (h.subset (mem_of_lookup_eq_some hvalue))
  · exact lookup_eq_some_of_mem hkeys (h.symm.subset (mem_of_lookup_eq_some hvalue))

/-- A look-up for another key passes a member over. -/
theorem lookup_append_cons_of_ne (before behind : Members) {key other : String} (value : Json)
    (h : other ≠ key) :
    (before ++ (key, value) :: behind).lookup other = (before ++ behind).lookup other := by
  rw [List.lookup_append, List.lookup_append, List.lookup_cons, beq_false_of_ne h]

end Members

namespace Materialize

/-- A value is put in the place of another one, as an element that a member holds for a
relationship. -/
inductive Replaces (r : Relationship) (a b : Json) : Json → Json → Prop where
  /-- It is an item of an array. -/
  | item (front back : List Json) (hstorage : r.storage = .sequence) :
    Replaces r a b (.array (front ++ a :: back)) (.array (front ++ b :: back))
  /-- It is the value of an entry of a table. -/
  | entry (front back : Members) (entry : String) {field : String}
    (hstorage : r.storage = .indexed field) :
    Replaces r a b (.object (front ++ (entry, a) :: back)) (.object (front ++ (entry, b) :: back))
  /-- It is the member itself. -/
  | single (hstorage : r.storage = .single) : Replaces r a b a b

/-- A change of a fragment that is to become an entity of a class, which the class does not show. -/
inductive Rewording (reg : Registry) : String → Json → Json → Prop where
  /-- The members of the object are put in another order. No key comes twice. -/
  | order {name : String} {members others : Members} (hkeys : (members.map Prod.fst).Nodup)
    (h : members.Perm others) : Rewording reg name (.object members) (.object others)
  /-- The object gets a member that the class does not read. -/
  | added {name key : String} {c : EntityClass} (before behind : Members) (value : Json)
    (hc : reg.find? name = some c) (hkey : ¬ c.Reads key) :
    Rewording reg name (.object (before ++ behind)) (.object (before ++ (key, value) :: behind))
  /-- The object loses a member that the class does not read. -/
  | dropped {name key : String} {c : EntityClass} (before behind : Members) (value : Json)
    (hc : reg.find? name = some c) (hkey : ¬ c.Reads key) :
    Rewording reg name (.object (before ++ (key, value) :: behind)) (.object (before ++ behind))
  /-- An element of a relationship is changed so, in a member that is no attribute as well. -/
  | element {name key : String} {c : EntityClass} {r : Relationship} {value other a b : Json}
    (before behind : Members) (hc : reg.find? name = some c) (hr : r ∈ c.shape.relationships)
    (hkey : memberKey? r (before ++ (key, value) :: behind) = some key)
    (hattribute : key ∉ c.shape.attributes.map Attribute.name)
    (hreplaces : Replaces r a b value other) (h : Rewording reg r.target a b) :
    Rewording reg name (.object (before ++ (key, value) :: behind))
      (.object (before ++ (key, other) :: behind))

/-- A fragment of a class in other words: changed by rewordings, one after the other. -/
abbrev Reworded (reg : Registry) (name : String) : Json → Json → Prop :=
  Relation.ReflTransGen (Rewording reg name)

/-- Only objects are reworded. -/
theorem Rewording.exists_objects {reg : Registry} {name : String} {a b : Json}
    (h : Rewording reg name a b) :
    (∃ members, a = .object members) ∧ ∃ others, b = .object others := by
  cases h <;> exact ⟨⟨_, rfl⟩, _, rfl⟩

section Build

variable {reg : Registry} {r : Relationship} {here : Pointer} {members others : Members}

/-- What is added to a relationship are the entities of fragments, whatever these are. -/
theorem gather_congr {visits more : List Inference.Visit}
    (h : visits.map (entityOf reg) = more.map (entityOf reg)) (e : Entity) :
    gather reg r e visits = gather reg r e more := by
  have hadd : ∀ all : List Inference.Visit, addAll reg r e all =
      (all.map (entityOf reg)).foldlM (fun e result => result >>= e.add r.name) e := by
    intro all
    rw [addAll, List.foldlM_map]
  have hempty : visits.isEmpty = more.isEmpty := by
    rw [← List.isEmpty_map (f := entityOf reg), h, List.isEmpty_map]
  rw [gather, gather, hadd, hadd, h, hempty]

/-- The entity of an object depends only on the values of the attributes and on the entities of the
elements. -/
theorem build_congr {name : String}
    (hattributes : ∀ c, reg.find? name = some c → ∀ key ∈ c.shape.attributes.map Attribute.name,
      members.lookup key = others.lookup key)
    (helements : ∀ c, reg.find? name = some c → ∀ r ∈ c.shape.relationships,
      (elements r here members).map (entityOf reg) = (elements r here others).map (entityOf reg)) :
    build reg name here (.object members) = build reg name here (.object others) := by
  rw [build_object, build_object]
  cases hc : reg.find? name with
  | none => rw [Registry.require, hc]; rfl
  | some c =>
    have hparameters : parametersOf c members = parametersOf c others :=
      List.map_congr_left fun a ha =>
        congrArg (a.name, ·) (hattributes c hc a.name (List.mem_map_of_mem ha))
    have hgather : ∀ e : Entity,
        c.shape.relationships.foldlM (fun e r => gather reg r e (elements r here members)) e =
          c.shape.relationships.foldlM (fun e r => gather reg r e (elements r here others)) e :=
      Chain.foldlM_congr fun r hr e => gather_congr (helements c hc r hr) e
    have hfound : ∀ next : EntityClass → Except Failure Entity,
        (reg.require name >>= next) = next c := fun next => by
      rw [Registry.require_eq_ok_iff.2 hc]
      rfl
    rw [hfound, hfound]
    cases c.binding with
    | none => rfl
    | some binding =>
      rw [hparameters]
      exact bind_congr hgather

/-- The elements of a relationship depend only on the members under its two keys. -/
theorem elements_congr (hkeys : ∀ key, key = r.jsonKey ∨ key = r.storageKey →
    members.lookup key = others.lookup key) :
    elements r here members = elements r here others := by
  have hjson := hkeys _ (.inl rfl)
  have hstore := hkeys _ (.inr rfl)
  rw [elements, elements, memberKey?, memberKey?, hjson, hstore]
  split <;> rename_i hkey
  · rfl
  · split at hkey
    · rw [← Option.some.inj hkey, hjson]
    · split at hkey
      · rw [← Option.some.inj hkey, hstore]
      · cases hkey

/-- What has the members that a class reads becomes the same entity of the class. -/
theorem build_eq_of_reads {name : String} (h : ∀ c, reg.find? name = some c → ∀ key, c.Reads key →
    members.lookup key = others.lookup key) :
    build reg name here (.object members) = build reg name here (.object others) := by
  refine build_congr (fun c hc key hkey => h c hc key (.inl hkey)) fun c hc r hr => ?_
  rw [elements_congr fun key hkey => h c hc key (.inr ⟨r, hr, hkey⟩)]

end Build

section Element

variable {reg : Registry} {name key : String} {c : EntityClass} {r q : Relationship}
  {value other a b : Json} {here : Pointer}

/-- A value with an element that is replaced holds something for the relationship. -/
theorem held_ne_nil_of_replaces (here : Pointer) (hobjects : (∃ members, a = .object members) ∧
    ∃ others, b = .object others) (h : Replaces r a b value other) :
    held r here value ≠ [] ∧ held r here other ≠ [] := by
  obtain ⟨⟨members, rfl⟩, others, rfl⟩ := hobjects
  cases h with
  | item front back hstorage => simp [held, hstorage]
  | entry front back entry hstorage => simp [held, hstorage]
  | single hstorage => simp [held, hstorage]

/-- What a member holds for one relationship of an inferred class it holds for no other one. -/
theorem held_eq_nil_of_ne (hc : c.shape.WellFormed c.name) (hr : r ∈ c.shape.relationships)
    (hq : q ∈ c.shape.relationships) (hne : q ≠ r) (hrkey : key = r.jsonKey ∨ key = r.storageKey)
    (hqkey : key = q.jsonKey ∨ key = q.storageKey) (hheld : held r (here.key key) value ≠ []) :
    held q (here.key key) value = [] := by
  by_contra hqheld
  obtain ⟨s, hs, hrname, -⟩ := held_eq_parts (hc.inferred r hr) hrkey hheld
  obtain ⟨t, ht, hqname, -⟩ := held_eq_parts (hc.inferred q hq) hqkey hqheld
  have hname : q.name = r.name := by
    rw [← hqname, ← hrname, Option.some.inj (hs.symm.trans ht)]
  exact hne (List.inj_on_of_nodup_map hc.distinct.of_append_right hq hr hname)

/-- The key of the member of a relationship is one of its two keys. -/
theorem key_of_memberKey? {members : Members} (h : memberKey? r members = some key) :
    key = r.jsonKey ∨ key = r.storageKey := by
  rw [memberKey?] at h
  split at h
  · exact .inl (Option.some.inj h).symm
  · split at h
    · exact .inr (Option.some.inj h).symm
    · cases h

/-- The entities of the elements of a relationship are the same after one of them has been replaced
by one with the same entities. -/
theorem map_held_of_replaces (hsame : ∀ here, build reg r.target here a = build reg r.target here b)
    (hobjects : (∃ members, a = .object members) ∧ ∃ members, b = .object members)
    (h : Replaces r a b value other) :
    (held r here value).map (entityOf reg) = (held r here other).map (entityOf reg) := by
  obtain ⟨⟨members, rfl⟩, others, rfl⟩ := hobjects
  cases h with
  | item front back hstorage =>
    simp [held, hstorage, List.zipIdx_append, entityOf, hsame]
  | entry front back entry hstorage => simp [held, hstorage, entityOf, hsame]
  | single hstorage => simp [held, hstorage, entityOf, hsame]

/-- A member is looked for under the keys that are there, whatever they hold. -/
theorem memberKey?_congr {members others : Members}
    (h : ∀ key, (members.lookup key).isSome = (others.lookup key).isSome) :
    memberKey? r members = memberKey? r others := by
  rw [memberKey?, memberKey?, h, h]

/-- The entities of the elements of all relationships are the same after an element of one of them
has been replaced by one with the same entities. -/
theorem map_elements_of_replaces {before behind : Members} (hc : c.shape.WellFormed c.name)
    (hr : r ∈ c.shape.relationships) (hkey : key = r.jsonKey ∨ key = r.storageKey)
    (hsame : ∀ here, build reg r.target here a = build reg r.target here b)
    (hobjects : (∃ members, a = .object members) ∧ ∃ others, b = .object others)
    (h : Replaces r a b value other) (hq : q ∈ c.shape.relationships) :
    (elements q here (before ++ (key, value) :: behind)).map (entityOf reg) =
      (elements q here (before ++ (key, other) :: behind)).map (entityOf reg) := by
  have hlookup : ∀ k value, (before ++ (key, value) :: behind).lookup k =
      (before.lookup k).or (if k = key then some value else behind.lookup k) := by
    intro k value
    rw [List.lookup_append, List.lookup_cons]
    by_cases hk : k = key
    · simp [hk]
    · simp [hk, beq_false_of_ne hk]
  have hmember : memberKey? q (before ++ (key, value) :: behind) =
      memberKey? q (before ++ (key, other) :: behind) := by
    refine memberKey?_congr fun k => ?_
    rw [hlookup, hlookup]
    by_cases hk : k = key <;> simp [hk]
  rw [elements, elements, ← hmember]
  cases hqkey : memberKey? q (before ++ (key, value) :: behind) with
  | none => rfl
  | some k =>
    simp only [hlookup]
    by_cases hk : k = key
    · subst hk
      cases before.lookup k with
      | some first => rfl
      | none =>
        simp only [Option.none_or, if_true, Option.elim_some]
        by_cases hrq : q = r
        · rw [hrq]
          exact map_held_of_replaces hsame hobjects h
        · have hheld := held_ne_nil_of_replaces (here.key k) hobjects h
          have hqkeys := key_of_memberKey? hqkey
          rw [held_eq_nil_of_ne hc hr hq hrq hkey hqkeys hheld.1,
            held_eq_nil_of_ne hc hr hq hrq hkey hqkeys hheld.2]
    · rw [if_neg hk, if_neg hk]

end Element

/-- A fragment that is reworded becomes the same entity or fails in the same way. -/
theorem build_of_rewording {reg : Registry} (hreg : reg.WellFormed) {name : String} {a b : Json}
    (h : Rewording reg name a b) (here : Pointer) :
    build reg name here a = build reg name here b := by
  induction h generalizing here with
  | order hkeys h => exact build_eq_of_reads fun _ _ key _ => Members.lookup_eq_of_perm hkeys h key
  | @added _ key _ before behind value hc hkey =>
    refine build_eq_of_reads fun d hd k hk => ?_
    obtain rfl := Option.some.inj (hc.symm.trans hd)
    have hne : k ≠ key := fun h => hkey (h ▸ hk)
    exact (Members.lookup_append_cons_of_ne before behind value hne).symm
  | @dropped _ key _ before behind value hc hkey =>
    refine build_eq_of_reads fun d hd k hk => ?_
    obtain rfl := Option.some.inj (hc.symm.trans hd)
    have hne : k ≠ key := fun h => hkey (h ▸ hk)
    exact Members.lookup_append_cons_of_ne before behind value hne
  | @element _ key _ _ _ _ _ _ before behind hc hr hkey hattribute hreplaces h ih =>
    refine build_congr (fun d hd k hk => ?_) fun d hd q hq => ?_
    · obtain rfl := Option.some.inj (hc.symm.trans hd)
      have hne : k ≠ key := fun h => hattribute (h ▸ hk)
      rw [Members.lookup_append_cons_of_ne before behind _ hne,
        Members.lookup_append_cons_of_ne before behind _ hne]
    · obtain rfl := Option.some.inj (hc.symm.trans hd)
      have hwell := hreg.shapes _ (Registry.mem_of_find? hc)
      exact map_elements_of_replaces hwell hr (key_of_memberKey? hkey) ih h.exists_objects hreplaces
        hq

end Materialize

namespace Session

open Materialize

/-- Whatever the history of a registry, a fragment of a class and the same fragment in other words
become the same entity, with the same attributes and the same items in the same order, or fail with
the same failure. -/
theorem materialize_reworded {history : List Step} {reg : Registry}
    (hreg : reg ∈ (run history).registries) {name : String} {fragment other : Json}
    (h : Reworded reg name fragment other) :
    reg.materialize name other = reg.materialize name fragment := by
  have hwell : reg.WellFormed := (sound_run history reg hreg).wellFormed
  induction h with
  | refl => rfl
  | tail _ hstep ih => exact (build_of_rewording hwell hstep .root).symm.trans ih

/-- A shelf with a book. -/
def shelfDocument : Json :=
  .object [("label", .string "s"),
    ("books", .array [.object [("title", .string "a"), ("pages", .null)]])]

/-- The registry of the shelf is inferred, and its classes are generated and loaded. -/
def shelfHistory : List Step :=
  [.inferDocument "shelf" shelfDocument "" .union, .generateAll 0, .newLoader, .loadAll 0 0]

/-- A book. -/
def plainBook : Json := .object [("title", .string "b"), ("pages", .null)]

/-- The book, with the members in another order. -/
def turnedBook : Json := .object [("pages", .null), ("title", .string "b")]

/-- A shelf on which the book is the first one. -/
def plainShelf (others : List Json) : Json :=
  .object [("label", .string "t"), ("books", .array (plainBook :: others))]

/-- The shelf with the members in another order, in the book as well, and a note in front. -/
def notedShelf (others : List Json) : Json :=
  .object [("note", .null), ("books", .array (turnedBook :: others)), ("label", .string "t")]

/-- The two shelves become the same entity; and if the second book is no object, both fail there. -/
theorem materialize_reworded_notedShelf : ∃ reg ∈ (run shelfHistory).registries,
    (∃ e, reg.materialize "shelf" (plainShelf []) = .ok e ∧
      reg.materialize "shelf" (notedShelf []) = .ok e) ∧
    reg.materialize "shelf" (notedShelf [.bool true]) = .error
      (.unsupportedFragment "book" ((Pointer.root.key "books").index 1) "a boolean") := by
  have hcheck : ((run shelfHistory).registries.any fun reg => (reg.find? "shelf").any fun c =>
      c.shape.relationships.any fun r => decide (r.storage = .sequence ∧ r.jsonKey = "books" ∧
        "books" ∉ c.shape.attributes.map Attribute.name ∧ ¬ c.Reads "note" ∧
        (reg.materialize "shelf" (plainShelf [])).isOk = true ∧
        Chain.failure? (reg.materialize "shelf" (plainShelf [.bool true])) = some
          (.unsupportedFragment "book" ((Pointer.root.key "books").index 1) "a boolean"))) =
      true := by
    decide +kernel
  obtain ⟨reg, hreg, htest⟩ := List.any_eq_true.1 hcheck
  obtain ⟨c, hc, htest⟩ := (Option.any_eq_true _ _).1 htest
  obtain ⟨r, hr, htest⟩ := List.any_eq_true.1 htest
  obtain ⟨hstorage, hjson, hattribute, hnote, hok, hfails⟩ := of_decide_eq_true htest
  have hreworded : ∀ others, Reworded reg "shelf" (plainShelf others) (notedShelf others) := by
    intro others
    have hkey : memberKey? r ([("label", .string "t")] ++
        [("books", .array (plainBook :: others))]) = some "books" := by
      simp [memberKey?, hjson]
    have hbook : Rewording reg r.target plainBook turnedBook := .order (by decide) (.swap _ _ _)
    have hbooks : Rewording reg "shelf" (plainShelf others)
        (.object [("label", .string "t"), ("books", .array (turnedBook :: others))]) :=
      .element [("label", .string "t")] [] hc hr hkey hattribute (.item [] others hstorage) hbook
    have horder : Rewording reg "shelf"
        (.object [("label", .string "t"), ("books", .array (turnedBook :: others))])
        (.object [("books", .array (turnedBook :: others)), ("label", .string "t")]) :=
      .order (by simp) (.swap _ _ _)
    exact .tail (.tail (.single hbooks) horder) (.added [] _ .null hc hnote)
  obtain ⟨e, he⟩ := Chain.exists_of_isOk hok
  refine ⟨reg, hreg, ⟨e, he, ?_⟩, ?_⟩
  · exact (materialize_reworded hreg (hreworded [])).trans he
  · exact (materialize_reworded hreg (hreworded [.bool true])).trans
      (Chain.failure?_eq_some_iff.1 hfails)

end Session

end DocSchema
