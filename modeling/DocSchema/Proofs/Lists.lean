import Mathlib.Data.List.Induction
import Mathlib.Data.List.Nodup
import Mathlib.Data.List.Perm.Subperm

/-!
# Lists

What a list without repetitions gains by one more item (`eraseDups_concat`), how an item is found by
what tells it from the others (`find?_of_nodup_map`) and looked up by a key (`lookup_map_pair`,
`mem_of_lookup_eq_some`), how items find their partners (`exists_partner_of_nodup_map`), where an
item of joined lists comes from (`mem_of_mem_intercalate`), and what the pieces of a list that is
cut at an item do not hold (`notMem_of_mem_splitOn`).
-/

namespace DocSchema

/-- An item that was there before does not appear again, and a new one appears last. -/
theorem eraseDups_concat {α : Type} [DecidableEq α] (items : List α) (a : α) :
    (items ++ [a]).eraseDups =
      if a ∈ items then items.eraseDups else items.eraseDups ++ [a] := by
  rw [List.eraseDups_append]
  by_cases ha : a ∈ items <;> simp [List.removeAll, ha, List.eraseDups_cons]

/-- Without repetitions no item comes twice. -/
theorem nodup_eraseDups {α : Type} [DecidableEq α] (items : List α) : items.eraseDups.Nodup := by
  induction items using List.reverseRecOn with
  | nil => simp
  | append_singleton front a ih =>
    rw [eraseDups_concat]
    split
    · exact ih
    · next ha =>
      have hfree : a ∉ front.eraseDups := fun h => ha (List.mem_eraseDups.1 h)
      rw [List.nodup_append]
      exact ⟨ih, List.nodup_singleton a, fun b hb c hc => by grind⟩

/-- A list without repetitions stays as it is. -/
theorem eraseDups_of_nodup {α : Type} [DecidableEq α] {items : List α} (h : items.Nodup) :
    items.eraseDups = items := by
  induction items using List.reverseRecOn with
  | nil => simp
  | append_singleton front a ih =>
    obtain ⟨hfront, -, hdisjoint⟩ := List.nodup_append.1 h
    have hnew : a ∉ front := fun ha => hdisjoint a ha a (by simp) rfl
    rw [eraseDups_concat, if_neg hnew, ih hfront]

/-- A prefix of two lists is one of the first, or the first and a prefix of the second. -/
theorem prefix_append_cases {α : Type} {front items others : List α}
    (h : front <+: items ++ others) :
    front <+: items ∨ ∃ back, front = items ++ back ∧ back <+: others := by
  obtain ⟨rest, heq⟩ := h
  rcases List.append_eq_append_iff.1 heq with ⟨gap, rfl, -⟩ | ⟨back, rfl, rfl⟩
  · exact .inl (List.prefix_append _ _)
  · exact .inr ⟨back, rfl, List.prefix_append _ _⟩

/-- Where a function tells the items of a list apart, an item is found by its value. -/
theorem find?_of_nodup_map {α β : Type} [BEq β] [LawfulBEq β] {f : α → β} {items : List α}
    (h : (items.map f).Nodup) {a : α} (ha : a ∈ items) :
    items.find? (fun b => f b == f a) = some a := by
  induction items with
  | nil => simp at ha
  | cons b rest ih =>
    rw [List.map_cons, List.nodup_cons] at h
    rcases List.mem_cons.1 ha with rfl | ha
    · exact List.find?_cons_of_pos (by simp)
    · have hne : f b ≠ f a := fun heq => h.1 (heq ▸ List.mem_map_of_mem ha)
      rw [List.find?_cons_of_neg (by simpa using hne)]
      exact ih h.2 ha

/-- Where a function tells the items of a list apart, no item before another one has its value. -/
theorem ne_of_nodup_map {α β : Type} {f : α → β} {before behind : List α} {a b : α}
    (h : ((before ++ a :: behind).map f).Nodup) (hb : b ∈ before) : f b ≠ f a := by
  rw [List.map_append, List.nodup_append] at h
  exact h.2.2 _ (List.mem_map_of_mem hb) _ (by simp)

/-- If every item has a partner of its key in a list that is no longer, and no key comes twice, then
no key comes twice there either, and every item there is such a partner. -/
theorem exists_partner_of_nodup_map {α β : Type} {key : α → β} {R : α → α → Prop}
    {items others : List α} (hkeys : (items.map key).Nodup) (hlength : others.length ≤ items.length)
    (h : ∀ a ∈ items, ∃ b ∈ others, key b = key a ∧ R a b) :
    (others.map key).Nodup ∧ ∀ b ∈ others, ∃ a ∈ items, key a = key b ∧ R a b := by
  have hsub : items.map key ⊆ others.map key := by
    intro k hk
    obtain ⟨a, ha, rfl⟩ := List.mem_map.1 hk
    obtain ⟨b, hb, hkey, -⟩ := h a ha
    exact List.mem_map.2 ⟨b, hb, hkey⟩
  have hperm : (items.map key).Perm (others.map key) :=
    (List.subperm_of_subset hkeys hsub).perm_of_length_le (by simpa using hlength)
  have hothers : (others.map key).Nodup := hperm.nodup_iff.1 hkeys
  refine ⟨hothers, fun b hb => ?_⟩
  obtain ⟨a, ha, hkey⟩ := List.mem_map.1 (hperm.symm.subset (List.mem_map_of_mem hb))
  obtain ⟨c, hc, hckey, hac⟩ := h a ha
  obtain rfl := List.inj_on_of_nodup_map hothers hc hb (hckey.trans hkey)
  exact ⟨a, ha, hkey, hac⟩

/-- A list of one item at most is its first item, if there is one. -/
theorem head?_of_length_le_one {α : Type} {items : List α} (h : items.length ≤ 1) :
    items.head?.toList = items ∧ ∀ a, items.head? = some a ↔ a ∈ items := by
  match items with
  | [] => simp
  | [_] => simp [eq_comm]
  | _ :: _ :: _ => simp at h

/-- What is looked up is among the entries, with its key. -/
theorem mem_of_lookup_eq_some {α β : Type} [BEq α] [LawfulBEq α] {entries : List (α × β)} {key : α}
    {value : β} (h : entries.lookup key = some value) : (key, value) ∈ entries := by
  obtain ⟨front, back, rfl, -⟩ := List.lookup_eq_some_iff.1 h
  simp

/-- Nothing is looked up if and only if no entry has the key. -/
theorem lookup_eq_none_iff_notMem {α β : Type} [BEq α] [LawfulBEq α] {entries : List (α × β)}
    {key : α} : entries.lookup key = none ↔ key ∉ entries.map Prod.fst := by
  rw [List.lookup_eq_none_iff, List.mem_map, not_exists]
  refine forall_congr' fun p => ?_
  rw [bne_iff_ne, not_and, ne_comm]

/-- From behind, the last entry of a key is looked up. -/
theorem lookup_reverse_eq_some_iff {α β : Type} [BEq α] [LawfulBEq α] {entries : List (α × β)}
    {key : α} {value : β} : entries.reverse.lookup key = some value ↔
      ∃ before behind, entries = before ++ (key, value) :: behind ∧ key ∉ behind.map Prod.fst := by
  rw [List.lookup_eq_some_iff]
  constructor
  · rintro ⟨front, back, heq, hfront⟩
    refine ⟨back.reverse, front.reverse, ?_, ?_⟩
    · rw [← List.reverse_reverse entries, heq]
      simp
    · rw [← lookup_eq_none_iff_notMem, List.lookup_eq_none_iff]
      exact fun p hp => hfront p (List.mem_reverse.1 hp)
  · rintro ⟨before, behind, rfl, hbehind⟩
    refine ⟨behind.reverse, before.reverse, by simp, ?_⟩
    rw [← lookup_eq_none_iff_notMem, List.lookup_eq_none_iff] at hbehind
    exact fun p hp => hbehind p (List.mem_reverse.1 hp)

/-- Of values that are paired with keys, the one for a key is that of the item which has it. -/
theorem lookup_map_pair {α β : Type} (key : α → String) (value : α → β) (items : List α)
    (k : String) : (items.map fun a => (key a, value a)).lookup k =
      (items.find? fun a => key a == k).map value := by
  induction items with
  | nil => rfl
  | cons a rest ih =>
    rw [List.map_cons, List.lookup_cons]
    by_cases hk : key a = k
    · rw [List.find?_cons_of_pos (by simpa using hk), hk, beq_self_eq_true]
      rfl
    · rw [List.find?_cons_of_neg (by simpa using hk), beq_false_of_ne (Ne.symm hk)]
      exact ih

/-- A name that is there is found. -/
theorem find?_name_of_mem {names : List String} {name : String} (h : name ∈ names) :
    names.find? (fun n => n == name) = some name := by
  obtain ⟨n, hn⟩ : ∃ n, names.find? (fun n => n == name) = some n := by
    rw [← Option.isSome_iff_exists, List.find?_isSome]
    exact ⟨name, h, beq_self_eq_true name⟩
  obtain rfl : n = name := by simpa using List.find?_some hn
  exact hn

/-- Of values that are paired with names, the one for a name is looked up by it. -/
theorem lookup_map_of_mem {β : Type} (value : String → β) {names : List String} {name : String}
    (h : name ∈ names) : (names.map fun n => (n, value n)).lookup name = some (value name) := by
  rw [lookup_map_pair (fun n => n) value, find?_name_of_mem h, Option.map_some]

/-- Of things that are made for names without repetitions, the one for a name is found under it. -/
theorem find?_map_eraseDups {α : Type} {make : String → α} {nameOf : α → String}
    (hname : ∀ name, nameOf (make name) = name) (names : List String) (name : String) :
    (names.eraseDups.map make).find? (fun a => nameOf a == name) =
      if name ∈ names then some (make name) else none := by
  have hsame : (fun a => nameOf a == name) ∘ make = fun n => n == name := by
    funext n
    exact congrArg (· == name) (hname n)
  rw [List.find?_map, hsame]
  split
  · next hmem => rw [find?_name_of_mem (List.mem_eraseDups.2 hmem), Option.map_some]
  · next hmem =>
    have hnone : names.eraseDups.find? (· == name) = none := by
      rw [List.find?_eq_none]
      intro n hn heq
      obtain rfl : n = name := by simpa using heq
      exact hmem (List.mem_eraseDups.1 hn)
    rw [hnone]
    rfl

/-- An item of joined lists is one of them or of what joins them. -/
theorem mem_of_mem_intercalate {α : Type} {between : List α} {lists : List (List α)} {a : α}
    (h : a ∈ between.intercalate lists) : a ∈ between ∨ ∃ l ∈ lists, a ∈ l := by
  induction lists with
  | nil => simp at h
  | cons l rest ih =>
    by_cases hrest : rest = []
    · subst hrest
      exact .inr ⟨l, by simp, by simpa using h⟩
    · rw [List.intercalate_cons_of_ne_nil hrest, List.mem_append, List.mem_append] at h
      rcases h with (h | h) | h
      · exact .inr ⟨l, by simp, h⟩
      · exact .inl h
      · rcases ih h with h | ⟨k, hk, h⟩
        · exact .inl h
        · exact .inr ⟨k, by simp [hk], h⟩

/-- The last item of joined lists that are not empty is one of the lists. -/
theorem mem_of_getLast?_intercalate {α : Type} {between : List α} {lists : List (List α)} {a : α}
    (hlists : ∀ l ∈ lists, l ≠ []) (h : (between.intercalate lists).getLast? = some a) :
    ∃ l ∈ lists, a ∈ l := by
  induction lists with
  | nil => simp at h
  | cons l rest ih =>
    by_cases hrest : rest = []
    · subst hrest
      exact ⟨l, by simp, List.mem_of_getLast? (by simpa using h)⟩
    · have hne : between.intercalate rest ≠ [] := by
        obtain ⟨k, others, rfl⟩ := List.exists_cons_of_ne_nil hrest
        have hk : k ≠ [] := hlists k (by simp)
        by_cases hothers : others = []
        · simpa [hothers] using hk
        · rw [List.intercalate_cons_of_ne_nil hothers]
          simp [hk]
      rw [List.intercalate_cons_of_ne_nil hrest, List.getLast?_append_of_ne_nil _ hne] at h
      obtain ⟨k, hk, ha⟩ := ih (fun k hk => hlists k (by simp [hk])) h
      exact ⟨k, by simp [hk], ha⟩

/-- The pieces of a list that is cut at an item do not hold it. -/
theorem notMem_of_mem_splitOn {α : Type} [DecidableEq α] {items piece : List α} {a : α}
    (h : piece ∈ items.splitOn a) : a ∉ piece := by
  induction items generalizing piece with
  | nil =>
    rw [List.splitOn_nil, List.mem_singleton] at h
    simp [h]
  | cons b rest ih =>
    rw [List.splitOn_cons_eq_if_modifyHead] at h
    split at h
    · rcases List.mem_cons.1 h with rfl | h
      · simp
      · exact ih h
    · next hb =>
      obtain ⟨first, others, hcons⟩ := List.exists_cons_of_ne_nil (List.splitOn_ne_nil a rest)
      rw [hcons, List.modifyHead_cons] at h
      have hne : b ≠ a := by simpa using hb
      rcases List.mem_cons.1 h with rfl | h
      · exact List.not_mem_cons_of_ne_of_not_mem hne.symm (ih (by simp [hcons]))
      · exact ih (by simp [hcons, h])

end DocSchema
