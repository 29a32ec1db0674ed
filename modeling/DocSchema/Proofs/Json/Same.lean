import DocSchema.Proofs.Chain
import DocSchema.Proofs.Json.Part

/-!
# Equal values

Equality of JSON values compares arrays item by item (`sameItems_iff`) and objects key by key
(`sameMembers_iff`). On distinct values it is an equivalence (`same_refl`, `same_symm`,
`same_trans`). A value `Restores` another one if it is equal to it and distinct, as equality alone
does not exclude that the first value has a key twice. Arrays and objects restore others part by
part (`restores_array`, `restores_object`).
-/

namespace DocSchema

namespace Members

/-- Puts members one after the other. -/
def putAll (entries members : Members) : Members :=
  entries.foldl (fun members entry => put entry.1 entry.2 members) members

/-- The keys after putting members are those that were there and those that were put. -/
theorem mem_keys_putAll {entries members : Members} {key : String} :
    key ∈ (putAll entries members).map Prod.fst ↔
      key ∈ members.map Prod.fst ∨ key ∈ entries.map Prod.fst := by
  induction entries generalizing members with
  | nil => simp [putAll]
  | cons entry rest ih =>
    have hput : key ∈ (put entry.1 entry.2 members).map Prod.fst ↔
        key ∈ members.map Prod.fst ∨ key = entry.1 := by
      rw [keys_put]
      split
      · next hold =>
        constructor
        · exact .inl
        · rintro (h | rfl)
          · exact h
          · exact hold
      · rw [List.mem_append, List.mem_singleton]
    show key ∈ (putAll rest (put entry.1 entry.2 members)).map Prod.fst ↔ _
    rw [ih, hput, List.map_cons, List.mem_cons, or_assoc]

/-- Putting members brings no key in twice. -/
theorem nodup_keys_putAll {entries members : Members} (h : (members.map Prod.fst).Nodup) :
    ((putAll entries members).map Prod.fst).Nodup := by
  induction entries generalizing members with
  | nil => exact h
  | cons entry rest ih =>
    show ((putAll rest (put entry.1 entry.2 members)).map Prod.fst).Nodup
    exact ih (nodup_keys_put h entry.1 entry.2)

/-- A member that is found after putting members was put or had been there. -/
theorem mem_of_lookup_putAll {entries members : Members} {key : String} {value : Json}
    (h : (putAll entries members).lookup key = some value) :
    (key, value) ∈ entries ∨ members.lookup key = some value := by
  induction entries generalizing members with
  | nil => exact .inr h
  | cons entry rest ih =>
    have hfound : (putAll rest (put entry.1 entry.2 members)).lookup key = some value := h
    rcases ih hfound with hrest | hput
    · exact .inl (List.mem_cons_of_mem _ hrest)
    · rw [lookup_put] at hput
      split at hput
      · next hkey =>
        obtain rfl := Option.some.inj hput
        exact .inl (hkey ▸ List.mem_cons_self)
      · exact .inr hput

end Members

namespace Json

/-- Two arrays are equal if and only if their items are, one by one. -/
theorem sameItems_iff {items others : List Json} :
    sameItems items others = true ↔ List.Forall₂ (fun a b => a.same b = true) items others := by
  induction items generalizing others with
  | nil => cases others <;> simp [sameItems]
  | cons a rest ih => cases others <;> simp [sameItems, ih]

/-- The members of an object are those of another one if and only if each of them is. -/
theorem sameMembers_iff {members others : Members} :
    sameMembers members others = true ↔
      ∀ m ∈ members, ∃ b, others.lookup m.1 = some b ∧ m.2.same b = true := by
  induction members with
  | nil => simp [sameMembers]
  | cons m rest ih =>
    obtain ⟨key, a⟩ := m
    rw [sameMembers, Bool.and_eq_true, ih, List.forall_mem_cons]
    refine and_congr_left fun _ => ?_
    cases others.lookup key <;> simp

/-- Two objects are equal if and only if they have as many members and each of the first has an equal
one under its key in the second. -/
theorem same_object_iff {members others : Members} :
    (object members).same (object others) = true ↔ members.length = others.length ∧
      ∀ m ∈ members, ∃ b, others.lookup m.1 = some b ∧ m.2.same b = true := by
  rw [same, Bool.and_eq_true, beq_iff_eq, sameMembers_iff]

/-- A number is equal to itself. -/
theorem same_refl_number (n : Number) : n.same n = true := by
  cases n <;> simp [Number.same, Numeric.Binary64.sameValue]

/-- A number is equal to those that are equal to it. -/
theorem same_symm_number {n m : Number} (h : n.same m = true) : m.same n = true := by
  cases n <;> cases m <;> simp [Number.same, Numeric.Binary64.sameValue] at h ⊢
  · exact h.symm
  · obtain ⟨hmagnitude, hsign⟩ := h
    exact ⟨hmagnitude.symm, hsign.imp Eq.symm fun hzero => hmagnitude ▸ hzero⟩

/-- Numbers that are equal to one number are equal. -/
theorem same_trans_number {n m l : Number} (h : n.same m = true) (hl : m.same l = true) :
    n.same l = true := by
  cases n <;> cases m <;> cases l <;>
    simp [Number.same, Numeric.Binary64.sameValue] at h hl ⊢
  · exact h.trans hl
  · obtain ⟨hmagnitude, hsign⟩ := h
    obtain ⟨hlast, hlastSign⟩ := hl
    refine ⟨hmagnitude.trans hlast, ?_⟩
    rcases hsign with hsign | hzero
    · exact hlastSign.imp hsign.trans fun hzero => hmagnitude ▸ hzero
    · exact .inr hzero

/-- A value without a key that comes twice is equal to itself. -/
theorem same_refl {a : Json} (h : a.Distinct) : a.same a = true := by
  induction a using parts_induction with
  | array items ih =>
    rw [same, sameItems_iff, List.forall₂_same]
    exact fun a ha => ih a ha (distinct_array_iff.1 h a ha)
  | object members ih =>
    obtain ⟨hkeys, hvalues⟩ := distinct_object_iff.1 h
    refine same_object_iff.2 ⟨rfl, fun m hm => ⟨m.2, ?_, ih m hm (hvalues m hm)⟩⟩
    exact Members.lookup_eq_some_of_mem hkeys hm
  | scalar a harray hobject =>
    cases a with
    | null => rfl
    | bool _ | string _ => rw [same, beq_self_eq_true]
    | number n => exact same_refl_number n
    | array items => exact absurd rfl (harray items)
    | object members => exact absurd rfl (hobject members)

/-- A value without a key that comes twice is equal to those that are equal to it. -/
theorem same_symm {a b : Json} (ha : a.Distinct) (h : a.same b = true) : b.same a = true := by
  induction a using parts_induction generalizing b with
  | array items ih =>
    cases b with
    | array others =>
      rw [same, sameItems_iff] at h ⊢
      have hdistinct := distinct_array_iff.1 ha
      exact Chain.forall₂_flip_of_mem h fun a ha b hab => ih a ha (hdistinct a ha) hab
    | _ => cases h
  | object members ih =>
    cases b with
    | object others =>
      obtain ⟨hkeys, hvalues⟩ := distinct_object_iff.1 ha
      obtain ⟨hlength, hmembers⟩ := same_object_iff.1 h
      have hpartners : ∀ m ∈ members, ∃ n ∈ others, n.1 = m.1 ∧ m.2.same n.2 = true := by
        intro m hm
        obtain ⟨b, hb, hsame⟩ := hmembers m hm
        exact ⟨(m.1, b), mem_of_lookup_eq_some hb, rfl, hsame⟩
      obtain ⟨-, hback⟩ := exists_partner_of_nodup_map hkeys (Nat.le_of_eq hlength.symm) hpartners
      refine same_object_iff.2 ⟨hlength.symm, fun n hn => ?_⟩
      obtain ⟨m, hm, hkey, hsame⟩ := hback n hn
      exact ⟨m.2, hkey ▸ Members.lookup_eq_some_of_mem hkeys hm, ih m hm (hvalues m hm) hsame⟩
    | _ => cases h
  | scalar a harray hobject =>
    cases a with
    | array items => exact absurd rfl (harray items)
    | object members => exact absurd rfl (hobject members)
    | number n =>
      cases b with
      | number m => exact same_symm_number h
      | _ => cases h
    | _ => cases b <;> simp_all [same]

/-- Values that are equal to one value are equal. -/
theorem same_trans {a b c : Json} (h : a.same b = true) (hc : b.same c = true) :
    a.same c = true := by
  induction a using parts_induction generalizing b c with
  | array items ih =>
    cases b with
    | array others =>
      cases c with
      | array last =>
        rw [same, sameItems_iff] at h hc ⊢
        exact Chain.forall₂_trans_of_mem h hc fun a ha b c hab hbc => ih a ha hab hbc
      | _ => cases hc
    | _ => cases h
  | object members ih =>
    cases b with
    | object others =>
      cases c with
      | object last =>
        rw [same_object_iff] at h hc ⊢
        refine ⟨h.1.trans hc.1, fun m hm => ?_⟩
        obtain ⟨b, hb, hab⟩ := h.2 m hm
        obtain ⟨c, hlookup, hbc⟩ := hc.2 (m.1, b) (mem_of_lookup_eq_some hb)
        exact ⟨c, hlookup, ih m hm hab hbc⟩
      | _ => cases hc
    | _ => cases h
  | scalar a harray hobject =>
    cases a with
    | array items => exact absurd rfl (harray items)
    | object members => exact absurd rfl (hobject members)
    | number n =>
      cases b with
      | number m =>
        cases c with
        | number l => exact same_trans_number h hc
        | _ => cases hc
      | _ => cases h
    | _ => cases b <;> cases c <;> simp_all [same]

/-- The value is equal to another one, and no object in it has one key twice. -/
structure Restores (a b : Json) : Prop where
  /-- No object in the value has one key twice. -/
  distinct : a.Distinct
  /-- The values are equal. -/
  same_eq : a.same b = true

/-- An array restores another one if its items restore the items, one by one. -/
theorem restores_array {items others : List Json} (h : List.Forall₂ Restores items others) :
    (array items).Restores (array others) := by
  refine ⟨distinct_array_iff.2 fun a ha => ?_, ?_⟩
  · obtain ⟨position, hposition, rfl⟩ := List.getElem_of_mem ha
    exact (List.forall₂_iff_get.1 h |>.2 position hposition (h.length_eq ▸ hposition)).distinct
  · rw [same]
    exact sameItems_iff.2 (h.imp fun _ _ => Restores.same_eq)

/-- An object restores another one if it has the same keys, none of them twice, and each of its
members restores the one of its key. -/
theorem restores_object {members others : Members} (hmembers : (members.map Prod.fst).Nodup)
    (hothers : (others.map Prod.fst).Nodup)
    (hkeys : ∀ key, key ∈ others.map Prod.fst → key ∈ members.map Prod.fst)
    (hrestores : ∀ key a, members.lookup key = some a →
      ∃ b, others.lookup key = some b ∧ a.Restores b) :
    (object members).Restores (object others) := by
  have hsub : ∀ m ∈ members, ∃ b, others.lookup m.1 = some b ∧ m.2.Restores b :=
    fun m hm => hrestores m.1 m.2 (Members.lookup_eq_some_of_mem hmembers hm)
  -- Equality counts the members and seeks each of the first object in the second one.
  have hperm : (members.map Prod.fst).Perm (others.map Prod.fst) := by
    rw [List.perm_ext_iff_of_nodup hmembers hothers]
    refine fun key => ⟨fun hkey => ?_, hkeys key⟩
    obtain ⟨m, hm, rfl⟩ := List.mem_map.1 hkey
    obtain ⟨b, hb, -⟩ := hsub m hm
    exact List.mem_map.2 ⟨_, mem_of_lookup_eq_some hb, rfl⟩
  have hlength : members.length = others.length := by
    simpa using hperm.length_eq
  refine ⟨distinct_object_iff.2 ⟨hmembers, fun m hm => ?_⟩, ?_⟩
  · obtain ⟨b, -, hb⟩ := hsub m hm
    exact hb.distinct
  · rw [same, Bool.and_eq_true, beq_iff_eq]
    refine ⟨hlength, sameMembers_iff.2 fun m hm => ?_⟩
    obtain ⟨b, hb, hm⟩ := hsub m hm
    exact ⟨b, hb, hm.same_eq⟩

end Json

end DocSchema
