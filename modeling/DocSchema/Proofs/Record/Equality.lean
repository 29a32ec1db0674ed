import DocSchema.Proofs.Entity.Equality
import DocSchema.Proofs.Record.Built

/-!
# Equality of entities and of struct values

An entity compares JSON values, its struct value the contents of fields, where numbers are binary64
numbers. Two numbers are `Paired` if they stand at the same place of two entities, and entities
`Agree` if paired numbers with one binary64 number are equal as they are. Regular entities of one
class are equal if and only if their struct values are and they agree (`Regular.same_iff`): equal
entities agree (`Entity.Paired.same`), and the two equalities are the same on entities that agree
(`Regular.same_eq_equal`).
-/

namespace DocSchema

open Numeric Source

/-- Two entities that equality of two slots compares: they stand at one position, or in a table
under one key. -/
inductive Slot.Partners (s t : Slot) (f g : Entity) : Prop where
  /-- They stand at one position. -/
  | position {i : Nat} (hs : s.storage.indexField? = none) (hf : s.items[i]? = some f)
    (hg : t.items[i]? = some g) : Slot.Partners s t f g
  /-- They stand under one key. -/
  | key {field : String} (hs : s.storage = .indexed field) (hf : f ∈ s.items) (hg : g ∈ t.items)
    (hkey : f.keyOf field = g.keyOf field) : Slot.Partners s t f g

/-- Two numbers at the same place of two entities. -/
inductive Entity.Paired : Entity → Entity → Number → Number → Prop where
  /-- They are the values of one attribute. -/
  | value {e d : Entity} {name : String} {n m : Number}
    (hn : (name, some (.number n)) ∈ e.attributes) (hm : (name, some (.number m)) ∈ d.attributes) :
    Entity.Paired e d n m
  /-- They stand at the same place of two entities in the slots of one relationship. -/
  | within {e d f g : Entity} {s t : Slot} {n m : Number} (hs : s ∈ e.slots) (ht : t ∈ d.slots)
    (hname : s.name = t.name) (hpartners : s.Partners t f g) (h : Entity.Paired f g n m) :
    Entity.Paired e d n m

/-- Numbers at the same place of two entities are equal if their nearest binary64 numbers are. That
fails for an integer and a number with a fraction of zero, and for different integers that have one
nearest binary64 number. -/
def Entity.Agree (e d : Entity) : Prop :=
  ∀ n m, e.Paired d n m → n.toBinary64.sameValue m.toBinary64 = true → n.same m = true

/-- Entities in the slots of entities that agree do so too. -/
theorem Entity.Agree.within {e d f g : Entity} {s t : Slot} (h : e.Agree d) (hs : s ∈ e.slots)
    (ht : t ∈ d.slots) (hname : s.name = t.name) (hpartners : s.Partners t f g) : f.Agree g :=
  fun n m hpaired => h n m (.within hs ht hname hpartners hpaired)

/-- Equal numbers have one binary64 number. -/
theorem Number.sameValue_of_same {n m : Number} (h : n.same m = true) :
    n.toBinary64.sameValue m.toBinary64 = true := by
  cases n with
  | integer a ha =>
    cases m with
    | integer b hb =>
      obtain rfl : a = b := by simpa [same] using h
      exact Json.same_refl_number (.real (integer a ha).toBinary64)
    | real y => cases h
  | real x =>
    cases m with
    | integer b hb => cases h
    | real y => exact h

namespace Content

/-- Contents are equal as the values that give them are, unless these are different numbers with one
binary64 number. -/
theorem same_ofJson (kind : Kind) {a b : Json}
    (h : ∀ n m, a = .number n → b = .number m →
      n.toBinary64.sameValue m.toBinary64 = true → n.same m = true) :
    (ofJson kind a).same (ofJson kind b) = a.same b := by
  -- A field merges JSON values only if it holds a number.
  by_cases hnumbers : kind = .number ∧ (∃ n, a = .number n) ∧ ∃ m, b = .number m
  · obtain ⟨rfl, ⟨n, rfl⟩, m, rfl⟩ := hnumbers
    have hiff : n.toBinary64.sameValue m.toBinary64 = true ↔ n.same m = true :=
      ⟨h n m rfl rfl, Number.sameValue_of_same⟩
    exact Bool.eq_iff_iff.2 hiff
  · -- In all other cases both equalities are the same by definition.
    cases kind <;> cases a <;> cases b <;> first | rfl | simp at hnumbers

/-- Contents that may be absent are equal as the values that give them. -/
theorem sameOption_ofJson (kind : Kind) {a b : Option Json}
    (h : ∀ n m, a = some (.number n) → b = some (.number m) →
      n.toBinary64.sameValue m.toBinary64 = true → n.same m = true) :
    sameOption (a.map (ofJson kind)) (b.map (ofJson kind)) = Entity.sameValue a b := by
  cases a with
  | none => cases b <;> rfl
  | some a =>
    cases b with
    | none => rfl
    | some b => exact same_ofJson kind fun n m ha hb => h n m (by rw [ha]) (by rw [hb])

end Content

/-- Lists of one struct value at most are equal as the values that may be absent. -/
theorem Record.equalItems_eq_equalOption {items others : List Record} (h : items.length ≤ 1)
    (hothers : others.length ≤ 1) :
    equalItems items others = equalOption items.head? others.head? := by
  cases items with
  | nil => cases others <;> rfl
  | cons x rest =>
    obtain rfl : rest = [] := by simpa using h
    cases others with
    | nil => rfl
    | cons y others =>
      obtain rfl : others = [] := by simpa using hothers
      simp [equalItems, equalOption]

section Equal

variable {reg : Registry}

/-- Attributes of two entities of one class are equal as their fields are, if the entities agree on
them. -/
theorem sameAttributes_eq (c? : Option EntityClass) {declared : List Attribute}
    {attributes others : List (String × Option Json)}
    (h : List.Forall₂ HoldsAttribute declared attributes)
    (hothers : List.Forall₂ HoldsAttribute declared others)
    (hagree : ∀ name n m, (name, some (.number n)) ∈ attributes →
      (name, some (.number m)) ∈ others →
        n.toBinary64.sameValue m.toBinary64 = true → n.same m = true) :
    Entity.sameAttributes attributes others =
      Record.equalValues (Entity.recordValues c? attributes) (Entity.recordValues c? others) := by
  induction h generalizing others with
  | nil =>
    rw [List.forall₂_nil_left_iff] at hothers
    subst hothers
    rfl
  | @cons a p declared attributes hp _ ih =>
    obtain ⟨q, others, hq, hrest, rfl⟩ := List.forall₂_cons_left_iff.1 hothers
    obtain ⟨name, v⟩ := p
    obtain ⟨other, w⟩ := q
    obtain rfl : name = other := hp.1.trans hq.1.symm
    have hvalue := Content.sameOption_ofJson ((c?.bind fun c => c.shape.kind? name).getD .any)
      (a := v) (b := w) fun n m hv hw => hagree name n m (by simp [hv]) (by simp [hw])
    have hlast := ih hrest fun name n m hn hm => hagree name n m (by simp [hn]) (by simp [hm])
    rw [Entity.sameAttributes, beq_self_eq_true, Bool.true_and, hlast, ← hvalue]
    rfl

/-- Entities in order are equal as their struct values are, if those at one position are. -/
theorem sameItems_eq {items others : List Entity}
    (h : ∀ (i : Nat) e d, items[i]? = some e → others[i]? = some d →
      e.same d = (e.record reg).equal (d.record reg)) :
    Entity.sameItems items others =
      Record.equalItems (items.map (Entity.record reg)) (others.map (Entity.record reg)) := by
  induction items generalizing others with
  | nil => cases others <;> rfl
  | cons e rest ih =>
    cases others with
    | nil => rfl
    | cons d others =>
      have hrest := @ih others fun i e d he hd => h (i + 1) e d (by simpa) (by simpa)
      rw [Entity.sameItems, h 0 e d rfl rfl, hrest, List.map_cons, List.map_cons, Record.equalItems]

/-- Entities of a table are among those of another one as their struct values are, if those under
one key are equal as their struct values are. -/
theorem sameEntries_eq {field : String} {items others : List Entity}
    (h : ∀ e ∈ items, ∀ d ∈ others, e.keyOf field = d.keyOf field →
      e.same d = (e.record reg).equal (d.record reg)) :
    Entity.sameEntries field items others =
      Record.equalEntries (items.map fun e => (e.keyOf field, e.record reg))
        (others.map fun e => (e.keyOf field, e.record reg)) := by
  induction items with
  | nil => rfl
  | cons e rest ih =>
    have hrest := ih fun e he => h e (by simp [he])
    rw [Entity.sameEntries, hrest, List.map_cons, Record.equalEntries, lookup_map_pair]
    cases hfind : others.find? fun d => d.keyOf field == e.keyOf field with
    | none => rfl
    | some d =>
      have hkey : d.keyOf field = e.keyOf field := by simpa using List.find?_some hfind
      have hequal := h e (by simp) d (List.mem_of_find?_eq_some hfind) hkey.symm
      simp only [Option.map_some, hequal]

end Equal

namespace Slot.Partners

variable {s t : Slot} {f g : Entity}

/-- The first of two partners is in the first slot. -/
theorem mem_left (h : s.Partners t f g) : f ∈ s.items := by
  cases h with
  | position _ hf _ => exact List.mem_of_getElem? hf
  | key _ hf _ _ => exact hf

/-- The second of two partners is in the second slot. -/
theorem mem_right (h : s.Partners t f g) : g ∈ t.items := by
  cases h with
  | position _ _ hg => exact List.mem_of_getElem? hg
  | key _ _ hg _ => exact hg

end Slot.Partners

/-- Two slots of one relationship are equal as their fields are, if partners in them are equal as
their struct values are. -/
theorem FitsRelationship.sameSlot_eq {reg : Registry} {r : Relationship} {s t : Slot}
    (hs : FitsRelationship r s) (ht : FitsRelationship r t)
    (h : ∀ f g, s.Partners t f g → f.same g = (f.record reg).equal (g.record reg)) :
    Entity.sameSlot s t =
      Record.equalStore (Entity.recordSlot reg s) (Entity.recordSlot reg t) := by
  have hname := hs.name_eq.trans ht.name_eq.symm
  have htarget := hs.target_eq.trans ht.target_eq.symm
  have hstorage := hs.storage_eq.trans ht.storage_eq.symm
  -- A single slot and a sequence are both compared in order.
  have hordered : s.storage.indexField? = none → Entity.sameSlot s t =
      Record.equalItems (s.items.map (Entity.record reg)) (t.items.map (Entity.record reg)) := by
    intro hfield
    rw [← sameItems_eq fun i f g hf hg => h f g (.position hfield hf hg), Bool.eq_iff_iff,
      Entity.sameSlot_iff_items hfield]
    simp [hname, htarget, hstorage]
  cases hr : r.storage with
  | single =>
    have hsingle := hs.storage_eq.trans hr
    rw [hordered (by rw [hsingle]; rfl), Entity.recordSlot_of_single reg hsingle,
      Entity.recordSlot_of_single reg (ht.storage_eq.trans hr)]
    exact Record.equalItems_eq_equalOption (by simpa using hs.single hr)
      (by simpa using ht.single hr)
  | sequence =>
    have hsequence := hs.storage_eq.trans hr
    rw [hordered (by rw [hsequence]; rfl), Entity.recordSlot_of_sequence reg hsequence,
      Entity.recordSlot_of_sequence reg (ht.storage_eq.trans hr)]
    rfl
  | indexed field =>
    have hindexed := hs.storage_eq.trans hr
    rw [Entity.recordSlot_of_indexed reg hindexed,
      Entity.recordSlot_of_indexed reg (ht.storage_eq.trans hr), Record.equalStore,
      ← sameEntries_eq fun f hf g hg hkey => h f g (.key hindexed hf hg hkey), Bool.eq_iff_iff,
      Entity.sameSlot_iff_entries hindexed]
    simp [hname, htarget, hstorage]

/-- The slots of two entities of one class are equal as their fields are, if partners of one class
in slots of one name are equal as their struct values are. -/
theorem sameSlots_eq (reg : Registry) {relationships : List Relationship} {slots others : List Slot}
    (hslots : List.Forall₂ FitsRelationship relationships slots)
    (hothers : List.Forall₂ FitsRelationship relationships others)
    (h : ∀ s ∈ slots, ∀ t ∈ others, s.name = t.name → ∀ f g, s.Partners t f g →
      f.className = g.className → f.same g = (f.record reg).equal (g.record reg)) :
    Entity.sameSlots slots others =
      Record.equalStores (Entity.recordSlots reg slots) (Entity.recordSlots reg others) := by
  induction hslots generalizing others with
  | nil =>
    rw [List.forall₂_nil_left_iff] at hothers
    subst hothers
    rfl
  | @cons r s relationships slots hs _ ih =>
    obtain ⟨t, others, ht, hrest, rfl⟩ := List.forall₂_cons_left_iff.1 hothers
    have hname : s.name = t.name := hs.name_eq.trans ht.name_eq.symm
    have hfirst := hs.sameSlot_eq ht fun f g hpartners =>
      have hclass : f.className = g.className :=
        (hs.className_eq f hpartners.mem_left).trans (ht.className_eq g hpartners.mem_right).symm
      h s (by simp) t (by simp) hname f g hpartners hclass
    have hlast := ih hrest fun s hs t ht => h s (by simp [hs]) t (by simp [ht])
    rw [Entity.sameSlots, hfirst, hlast]
    rfl

/-- Regular entities of one class that agree are equal as their struct values are. -/
theorem Regular.same_eq_equal {reg : Registry} {e d : Entity} (he : Regular reg e)
    (hd : Regular reg d) (hclass : e.className = d.className) (hagree : e.Agree d) :
    e.same d = (e.record reg).equal (d.record reg) := by
  induction he generalizing d with
  | @mk c attributes slots hc hdistinct hstruct hattributes hslots hitems ih =>
    cases hd with
    | @mk c' others otherSlots hc' _ _ hothers hotherSlots hotherItems =>
      have hname : c.name = c'.name := hclass
      obtain rfl := Option.some.inj (hc.symm.trans (hname ▸ hc'))
      have hsame := sameAttributes_eq (some c) hattributes hothers fun name n m hn hm =>
        hagree n m (.value hn hm)
      -- Entities in the slots have the equality of their struct values by induction, as they agree.
      have hstores := sameSlots_eq reg hslots hotherSlots
        fun s hs t ht hst f g hpartners hfg =>
          ih s hs f hpartners.mem_left (hotherItems t ht g hpartners.mem_right) hfg
            (hagree.within hs ht hst hpartners)
      rw [Entity.same, beq_self_eq_true, Bool.true_and, Entity.record, Entity.record, hc,
        Record.equal, hsame, hstores]

namespace Slot.Partners

variable {s t : Slot} {f g : Entity}

/-- Partners in equal slots are equal, if no two entities of the second have one key in a table. -/
theorem same (h : s.Partners t f g) (hsame : Entity.sameSlot s t = true)
    (hkeys : ∀ field, t.storage = .indexed field → (t.items.map (Entity.keyOf field)).Nodup) :
    f.same g = true := by
  cases h with
  | @position i hs hf hg =>
    obtain ⟨-, -, -, hitems⟩ := (Entity.sameSlot_iff_items hs).1 hsame
    obtain ⟨hi, rfl⟩ := List.getElem?_eq_some_iff.1 hf
    obtain ⟨hj, rfl⟩ := List.getElem?_eq_some_iff.1 hg
    exact (List.forall₂_iff_get.1 (Entity.sameItems_iff.1 hitems)).2 i hi hj
  | @key field hs hf hg hkey =>
    obtain ⟨-, -, hstorage, -, hentries⟩ := (Entity.sameSlot_iff_entries hs).1 hsame
    obtain ⟨d, hfind, hd⟩ := Entity.sameEntries_iff.1 hentries f hf
    have hself := find?_of_nodup_map (hkeys field (hstorage.symm.trans hs)) hg
    rw [hkey, hself] at hfind
    exact Option.some.inj hfind ▸ hd

end Slot.Partners

/-- Numbers at the same place of two regular entities are equal, if the entities are. -/
theorem Entity.Paired.same {reg : Registry} {e d : Entity} {n m : Number} (h : e.Paired d n m)
    (he : Regular reg e) (hd : Regular reg d) (hsame : e.same d = true) : n.same m = true := by
  induction h with
  | @value e d name n m hn hm =>
    obtain ⟨-, hattributes, -⟩ := Entity.same_iff.1 hsame
    obtain ⟨q, hq, hname, hvalue⟩ :=
      Chain.exists_of_mem_right (Entity.sameAttributes_iff.1 hattributes).flip hn
    obtain rfl := List.inj_on_of_nodup_map hd.nodup_attributes hq hm hname.symm
    exact hvalue
  | @within e d f g s t n m hs ht hname hpartners _ ih =>
    obtain ⟨-, -, hslots⟩ := Entity.same_iff.1 hsame
    -- The slot that equality compares with is the one of this name, as there is no other.
    obtain ⟨u, hu, hslot⟩ := Chain.exists_of_mem_right (Entity.sameSlots_iff.1 hslots).flip hs
    have hnames : u.name = t.name := (Entity.name_eq_of_sameSlot hslot).symm.trans hname
    obtain rfl := List.inj_on_of_nodup_map hd.nodup_slots hu ht hnames
    obtain ⟨r, hr⟩ := hd.exists_relationship hu
    have hfg : f.same g = true :=
      hpartners.same hslot fun field hfield => hr.indexed field (hr.storage_eq.symm.trans hfield)
    exact ih (he.of_mem_items hs hpartners.mem_left) (hd.of_mem_items hu hpartners.mem_right) hfg

/-- Regular entities that are equal agree. -/
theorem Regular.agree_of_same {reg : Registry} {e d : Entity} (he : Regular reg e)
    (hd : Regular reg d) (h : e.same d = true) : e.Agree d :=
  fun _ _ hpaired _ => hpaired.same he hd h

/-- Regular entities of one class are equal if and only if their struct values are equal and they
agree. -/
theorem Regular.same_iff {reg : Registry} {e d : Entity} (he : Regular reg e) (hd : Regular reg d)
    (hclass : e.className = d.className) :
    e.same d = true ↔ (e.record reg).equal (d.record reg) = true ∧ e.Agree d := by
  constructor
  · intro hsame
    have hagree := he.agree_of_same hd hsame
    exact ⟨he.same_eq_equal hd hclass hagree ▸ hsame, hagree⟩
  · rintro ⟨hequal, hagree⟩
    exact (he.same_eq_equal hd hclass hagree).trans hequal

end DocSchema
