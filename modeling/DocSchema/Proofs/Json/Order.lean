import DocSchema.Json.Value
import Mathlib.Data.List.Perm.Basic
import Mathlib.Logic.Relation

/-!
# Values in another order

A value is `Json.Rearranged` into another one if the two differ only in the order of the members of
objects and of the items of arrays, at any depth: one array or object after the other takes another
order (`Json.Permuted`). An array is rearranged into an array that has a rearrangement of each of
its items, and an object into an object that has one of each of its members under the same key
(`Rearranged.exists_items`, `Rearranged.exists_members`). What a member shows apart from the order
inside it is shown by the members of both objects equally often (`Rearranged.perm_map`).
-/

namespace DocSchema.Json

/-- One array or one object in the value has its items or members in another order. -/
inductive Permuted : Json → Json → Prop where
  /-- The items of an array are in another order. -/
  | items {items others : List Json} (h : items.Perm others) : Permuted (array items) (array others)
  /-- The members of an object are in another order. -/
  | members {members others : Members} (h : members.Perm others) :
    Permuted (object members) (object others)
  /-- The order is another one in an item of an array. -/
  | item (before behind : List Json) {a b : Json} (h : Permuted a b) :
    Permuted (array (before ++ a :: behind)) (array (before ++ b :: behind))
  /-- The order is another one in the value of a member of an object. -/
  | member (before behind : Members) (key : String) {a b : Json} (h : Permuted a b) :
    Permuted (object (before ++ (key, a) :: behind)) (object (before ++ (key, b) :: behind))

/-- The values differ only in the order of items and members, at any depth. -/
abbrev Rearranged : Json → Json → Prop := Relation.ReflTransGen Permuted

/-- What has another order has it the other way round too. -/
theorem Permuted.symm {a b : Json} (h : Permuted a b) : Permuted b a := by
  induction h with
  | items h => exact .items h.symm
  | members h => exact .members h.symm
  | item before behind _ ih => exact .item before behind ih
  | member before behind key _ ih => exact .member before behind key ih

/-- Rearranging can be undone. -/
theorem Rearranged.symm {a b : Json} (h : a.Rearranged b) : b.Rearranged a := by
  induction h with
  | refl => exact .refl
  | tail _ hstep ih => exact .head hstep.symm ih

/-- An array in another order is an array, and has each item or what it has become. -/
theorem Permuted.exists_items {items : List Json} {b : Json} (h : Permuted (array items) b) :
    ∃ others, b = array others ∧ ∀ c ∈ items, ∃ d ∈ others, c.Rearranged d := by
  cases h with
  | items hperm => exact ⟨_, rfl, fun c hc => ⟨c, hperm.subset hc, .refl⟩⟩
  | @item before behind c d hcd =>
    refine ⟨_, rfl, fun e he => ?_⟩
    rcases List.mem_append.1 he with he | he
    · exact ⟨e, by simp [he], .refl⟩
    · rcases List.mem_cons.1 he with rfl | he
      · exact ⟨d, by simp, .single hcd⟩
      · exact ⟨e, by simp [he], .refl⟩

/-- An object in another order is an object, and has each member or what it has become. -/
theorem Permuted.exists_members {members : Members} {b : Json} (h : Permuted (object members) b) :
    ∃ others, b = object others ∧
      ∀ m ∈ members, ∃ n ∈ others, n.1 = m.1 ∧ m.2.Rearranged n.2 := by
  cases h with
  | members hperm => exact ⟨_, rfl, fun m hm => ⟨m, hperm.subset hm, rfl, .refl⟩⟩
  | @member before behind key c d hcd =>
    refine ⟨_, rfl, fun m hm => ?_⟩
    rcases List.mem_append.1 hm with hm | hm
    · exact ⟨m, by simp [hm], rfl, .refl⟩
    · rcases List.mem_cons.1 hm with rfl | hm
      · exact ⟨(key, d), by simp, rfl, .single hcd⟩
      · exact ⟨m, by simp [hm], rfl, .refl⟩

/-- What the members of an object show is the same in another order, if the order inside a member
does not show. -/
theorem Permuted.perm_map {α : Type} {f : String → Json → α}
    (hf : ∀ key a b, Permuted a b → f key a = f key b) {members others : Members}
    (h : Permuted (object members) (object others)) :
    (members.map fun m => f m.1 m.2).Perm (others.map fun m => f m.1 m.2) := by
  -- The cases of an order at both ends at once, of which those of arrays do not occur.
  generalize hfrom : object members = a at h
  generalize hinto : object others = b at h
  cases h with
  | items | item => cases hfrom
  | members hperm =>
    cases hfrom
    cases hinto
    exact hperm.map _
  | member before behind key hcd =>
    cases hfrom
    cases hinto
    simp [hf key _ _ hcd]

namespace Rearranged

/-- An array is rearranged into an array that has a rearrangement of each item. -/
theorem exists_items {items : List Json} {b : Json} (h : (array items).Rearranged b) :
    ∃ others, b = array others ∧ ∀ c ∈ items, ∃ d ∈ others, c.Rearranged d := by
  induction h with
  | refl => exact ⟨items, rfl, fun c hc => ⟨c, hc, .refl⟩⟩
  | tail _ hstep ih =>
    obtain ⟨middle, rfl, hmiddle⟩ := ih
    obtain ⟨others, rfl, hothers⟩ := hstep.exists_items
    refine ⟨others, rfl, fun c hc => ?_⟩
    obtain ⟨d, hd, hcd⟩ := hmiddle c hc
    obtain ⟨e, he, hde⟩ := hothers d hd
    exact ⟨e, he, hcd.trans hde⟩

/-- An object is rearranged into an object that has a rearrangement of each member, under the same
key. -/
theorem exists_members {members : Members} {b : Json} (h : (object members).Rearranged b) :
    ∃ others, b = object others ∧
      ∀ m ∈ members, ∃ n ∈ others, n.1 = m.1 ∧ m.2.Rearranged n.2 := by
  induction h with
  | refl => exact ⟨members, rfl, fun m hm => ⟨m, hm, rfl, .refl⟩⟩
  | tail _ hstep ih =>
    obtain ⟨middle, rfl, hmiddle⟩ := ih
    obtain ⟨others, rfl, hothers⟩ := hstep.exists_members
    refine ⟨others, rfl, fun m hm => ?_⟩
    obtain ⟨n, hn, hkey, hmn⟩ := hmiddle m hm
    obtain ⟨o, ho, hkey', hno⟩ := hothers n hn
    exact ⟨o, ho, hkey'.trans hkey, hmn.trans hno⟩

/-- What the members of an object show is the same after rearranging, if the order inside a member
does not show. -/
theorem perm_map {α : Type} {f : String → Json → α}
    (hf : ∀ key a b, Permuted a b → f key a = f key b) {members others : Members}
    (h : (object members).Rearranged (object others)) :
    (members.map fun m => f m.1 m.2).Perm (others.map fun m => f m.1 m.2) := by
  -- By induction on the steps, for whatever members the last one leads to.
  generalize hinto : object others = b at h
  induction h generalizing others with
  | refl =>
    obtain rfl := Json.object.inj hinto
    exact .refl _
  | tail hfront hstep ih =>
    obtain ⟨middle, rfl, -⟩ := exists_members hfront
    exact (ih rfl).trans (Permuted.perm_map hf (hinto ▸ hstep))

/-- A value that is no array and no object stays as it is. -/
theorem eq_of_scalar {a b : Json} (harray : ∀ items, a ≠ array items)
    (hobject : ∀ members, a ≠ object members) (h : a.Rearranged b) : b = a := by
  rcases h.cases_head with rfl | ⟨c, hstep, -⟩
  · rfl
  · cases hstep with
    | items | item => exact absurd rfl (harray _)
    | members | member => exact absurd rfl (hobject _)

end Rearranged

end DocSchema.Json
