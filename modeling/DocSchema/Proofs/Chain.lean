import Mathlib.Data.List.Perm.Subperm

/-!
# Chains of steps

A chain of steps that may fail succeeds if and only if every step of it does (`bind_eq_ok_iff`), and
keeps what each step keeps (`foldlM_invariant`); chains whose steps do the same do the same
(`foldlM_congr`). It fails as one of its steps does (`bind_eq_error_iff`, `exists_error_of_foldlM`).
How a failure is told changes no success (`mapError_eq_ok_iff`), and the form of a result no failure
(`map_eq_error_iff`). A list and its results are related by `List.Forall₂`: every item may have a
result (`exists_forall₂`), results in two ways are related through the items (`forall₂_join`), and
so are the items and the results of the results (`forall₂_trans_of_mem`). The results are cut where
the items are (`forall₂_split`), and results of which some are kept are results of some of the items
(`exists_subperm_of_forall₂`).
-/

namespace DocSchema.Chain

variable {α β δ ε : Type}

/-- A chain of two steps succeeds with the result of the second on that of the first. -/
theorem bind_eq_ok_iff {step : Except ε α} {next : α → Except ε β} {result : β} :
    (step >>= next) = .ok result ↔ ∃ a, step = .ok a ∧ next a = .ok result := by
  cases step <;> simp [bind, Except.bind]

/-- A chain of two steps fails as the first of them, or as the second on the result of the first. -/
theorem bind_eq_error_iff {step : Except ε α} {next : α → Except ε β} {failure : ε} :
    (step >>= next) = .error failure ↔
      step = .error failure ∨ ∃ a, step = .ok a ∧ next a = .error failure := by
  cases step <;> simp [bind, Except.bind]

/-- A step succeeds as it did when its failures are told in another way. -/
theorem mapError_eq_ok_iff {step : Except ε α} {tell : ε → δ} {result : α} :
    step.mapError tell = .ok result ↔ step = .ok result := by
  cases step with
  | ok a =>
    show Except.ok a = .ok result ↔ Except.ok a = .ok result
    simp
  | error failure =>
    show Except.error (tell failure) = .ok result ↔ Except.error failure = .ok result
    simp

/-- A step whose result is put in another form succeeds with that form of its result. -/
theorem map_eq_ok_iff {step : Except ε α} {form : α → β} {result : β} :
    step.map form = .ok result ↔ ∃ a, step = .ok a ∧ form a = result := by
  cases step <;> simp [Except.map]

/-- A step whose result is put in another form fails as it did. -/
theorem map_eq_error_iff {step : Except ε α} {form : α → β} {failure : ε} :
    step.map form = .error failure ↔ step = .error failure := by
  cases step <;> simp [Except.map]

/-- A step that succeeds has a result. -/
theorem exists_of_isOk {step : Except ε α} (h : step.isOk = true) : ∃ a, step = .ok a := by
  cases step with
  | ok a => exact ⟨a, rfl⟩
  | error failure => cases h

/-- How a step fails, if it does. -/
def failure? : Except ε α → Option ε
  | .ok _ => none
  | .error failure => some failure

/-- A step fails in a way if and only if that is how it fails. -/
theorem failure?_eq_some_iff {step : Except ε α} {failure : ε} :
    failure? step = some failure ↔ step = .error failure := by
  cases step <;> simp [failure?]

/-- A step whose result passes a test has a result, and that passes it. -/
theorem exists_of_any {step : Except ε α} {test : α → Bool}
    (h : step.toOption.any test = true) : ∃ a, step = .ok a ∧ test a = true := by
  cases step with
  | ok a => exact ⟨a, rfl, h⟩
  | error failure => cases h

/-- What every step of a chain keeps, the chain keeps. -/
theorem foldlM_invariant {step : β → α → Except ε β} {items : List α} {P : β → Prop}
    (hstep : ∀ b a b', a ∈ items → P b → step b a = .ok b' → P b') {start result : β}
    (hstart : P start) (h : items.foldlM step start = .ok result) : P result := by
  induction items generalizing start with
  | nil =>
    rw [List.foldlM_nil] at h
    exact Except.ok.inj h ▸ hstart
  | cons a rest ih =>
    rw [List.foldlM_cons] at h
    obtain ⟨middle, hmiddle, hrest⟩ := bind_eq_ok_iff.1 h
    have hP : P middle := hstep start a middle (by simp) hstart hmiddle
    exact ih (fun b a b' ha => hstep b a b' (by simp [ha])) hP hrest

/-- A chain depends only on what its steps do. -/
theorem foldlM_congr {step other : β → α → Except ε β} {items : List α}
    (h : ∀ a ∈ items, ∀ b, step b a = other b a) (start : β) :
    items.foldlM step start = items.foldlM other start := by
  induction items generalizing start with
  | nil => rfl
  | cons a rest ih =>
    rw [List.foldlM_cons, List.foldlM_cons, h a (by simp) start]
    exact bind_congr fun b => ih (fun c hc => h c (by simp [hc])) b

/-- A chain that fails does so at one of its steps, behind others that keep what they keep. -/
theorem exists_error_of_invariant {step : β → α → Except ε β} {items : List α} {P : β → Prop}
    (hstep : ∀ b a b', a ∈ items → P b → step b a = .ok b' → P b') {start : β} {failure : ε}
    (hstart : P start) (h : items.foldlM step start = .error failure) :
    ∃ b, P b ∧ ∃ a ∈ items, step b a = .error failure := by
  induction items generalizing start with
  | nil => exact absurd h (by simp [pure, Except.pure])
  | cons a rest ih =>
    rw [List.foldlM_cons] at h
    rcases bind_eq_error_iff.1 h with hfirst | ⟨middle, hmiddle, hrest⟩
    · exact ⟨start, hstart, a, by simp, hfirst⟩
    · have hP : P middle := hstep start a middle (by simp) hstart hmiddle
      obtain ⟨b, hb, c, hc, herror⟩ :=
        ih (fun b a b' ha => hstep b a b' (by simp [ha])) hP hrest
      exact ⟨b, hb, c, by simp [hc], herror⟩

/-- A chain that fails does so at one of its steps. -/
theorem exists_error_of_foldlM {step : β → α → Except ε β} {items : List α} {start : β} {failure : ε}
    (h : items.foldlM step start = .error failure) :
    ∃ b, ∃ a ∈ items, step b a = .error failure := by
  obtain ⟨b, -, hb⟩ := exists_error_of_invariant (P := fun _ => True) (fun _ _ _ _ _ _ => trivial)
    trivial h
  exact ⟨b, hb⟩

variable {R : α → β → Prop}

/-- Where every item has a result, the list has results. -/
theorem exists_forall₂ {items : List α} (h : ∀ a ∈ items, ∃ b, R a b) :
    ∃ results, List.Forall₂ R items results := by
  induction items with
  | nil => exact ⟨[], .nil⟩
  | cons a rest ih =>
    obtain ⟨b, hb⟩ := h a (by simp)
    obtain ⟨bs, hbs⟩ := ih fun a ha => h a (by simp [ha])
    exact ⟨b :: bs, .cons hb hbs⟩

/-- Where each result shows what its item shows, the lists show the same. -/
theorem map_eq_of_forall₂ {γ : Type} {f : α → γ} {g : β → γ} {items : List α} {results : List β}
    (h : List.Forall₂ (fun a b => g b = f a) items results) : results.map g = items.map f := by
  rw [← List.forall₂_eq_eq_eq, List.forall₂_map_left_iff, List.forall₂_map_right_iff]
  exact h.flip

/-- The results of one list in two ways are related to each other, item by item. -/
theorem forall₂_join {γ : Type} {S : α → γ → Prop} {items : List α} {results : List β}
    {others : List γ} (h : List.Forall₂ R items results) (hothers : List.Forall₂ S items others) :
    List.Forall₂ (fun b c => ∃ a ∈ items, R a b ∧ S a c) results others := by
  induction h generalizing others with
  | nil =>
    rw [List.forall₂_nil_left_iff] at hothers
    exact hothers ▸ .nil
  | @cons a b rest results hab _ ih =>
    obtain ⟨c, tail, hac, htail, rfl⟩ := List.forall₂_cons_left_iff.1 hothers
    refine .cons ⟨a, by simp, hab, hac⟩ ((ih htail).imp fun b c ⟨a, ha, hR, hS⟩ => ?_)
    exact ⟨a, by simp [ha], hR, hS⟩

/-- The results are related back to the items, if each is to its own. -/
theorem forall₂_flip_of_mem {S : β → α → Prop} {items : List α} {results : List β}
    (h : List.Forall₂ R items results) (hback : ∀ a ∈ items, ∀ b, R a b → S b a) :
    List.Forall₂ S results items := by
  have hmem : List.Forall₂ (fun a b => a ∈ items ∧ R a b) items results :=
    (List.forall₂_and_left _ _).2 ⟨fun a ha => ha, h⟩
  exact (hmem.imp fun a b hab => hback a hab.1 b hab.2).flip

/-- The items are related to what the results are related to, if each is through its own. -/
theorem forall₂_trans_of_mem {γ : Type} {S : β → γ → Prop} {T : α → γ → Prop} {items : List α}
    {results : List β} {last : List γ} (h : List.Forall₂ R items results)
    (hlast : List.Forall₂ S results last)
    (htrans : ∀ a ∈ items, ∀ b c, R a b → S b c → T a c) : List.Forall₂ T items last := by
  have hmem : List.Forall₂ (fun a b => a ∈ items ∧ R a b) items results :=
    (List.forall₂_and_left _ _).2 ⟨fun a ha => ha, h⟩
  refine (forall₂_join hmem.flip hlast).imp ?_
  rintro a c ⟨b, -, ⟨ha, hab⟩, hbc⟩
  exact htrans a ha b c hab hbc

/-- At an item of a list the results of the list are cut into those of the items before it, its own
and those of the items behind it. -/
theorem forall₂_split {before behind : List α} {a : α} {results : List β}
    (h : List.Forall₂ R (before ++ a :: behind) results) :
    ∃ front b back, results = front ++ b :: back ∧ List.Forall₂ R before front ∧ R a b ∧
      List.Forall₂ R behind back := by
  induction before generalizing results with
  | nil =>
    obtain ⟨b, back, hab, hback, rfl⟩ := List.forall₂_cons_left_iff.1 h
    exact ⟨[], b, back, rfl, .nil, hab, hback⟩
  | cons c rest ih =>
    obtain ⟨d, results, hcd, hrest, rfl⟩ := List.forall₂_cons_left_iff.1 h
    obtain ⟨front, b, back, rfl, hfront, hab, hback⟩ := ih hrest
    exact ⟨d :: front, b, back, rfl, .cons hcd hfront, hab, hback⟩

/-- Where one item is put in the place of another one, the items are related to those before if the
new one is related to the old one and the others to themselves. -/
theorem forall₂_set {S : α → α → Prop} (hself : ∀ a, S a a) {items : List α} {position : ℕ} {b : α}
    (h : ∀ a, items[position]? = some a → S a b) : List.Forall₂ S items (items.set position b) := by
  induction items generalizing position with
  | nil => exact .nil
  | cons a rest ih =>
    cases position with
    | zero => exact .cons (h a rfl) (List.forall₂_same.2 fun c _ => hself c)
    | succ next => exact .cons (hself a) (ih h)

/-- An item has its result at the same position. -/
theorem exists_getElem?_of_forall₂ {items : List α} {results : List β}
    (h : List.Forall₂ R items results) {position : ℕ} {a : α} (ha : items[position]? = some a) :
    ∃ b, results[position]? = some b ∧ R a b := by
  induction h generalizing position with
  | nil => cases ha
  | @cons a b _ _ hab _ ih =>
    cases position with
    | zero =>
      obtain rfl := Option.some.inj ha
      exact ⟨b, rfl, hab⟩
    | succ next => exact ih ha

/-- Each result is that of an item. -/
theorem exists_of_mem_right {items : List α} {results : List β} (h : List.Forall₂ R items results)
    {b : β} (hb : b ∈ results) : ∃ a ∈ items, R a b := by
  obtain ⟨before, behind, rfl⟩ := List.append_of_mem hb
  obtain ⟨front, a, back, rfl, -, hab, -⟩ := forall₂_split h.flip
  exact ⟨a, by simp, hab⟩

/-- Some of the results, in order, are the results of some of the items. -/
theorem exists_sublist_of_forall₂ {items : List α} {results kept : List β}
    (h : List.Forall₂ R items results) (hkept : kept.Sublist results) :
    ∃ chosen, chosen.Sublist items ∧ List.Forall₂ R chosen kept := by
  induction hkept generalizing items with
  | slnil => exact ⟨[], List.nil_sublist _, .nil⟩
  | cons b _ ih =>
    obtain ⟨a, rest, -, hrest, rfl⟩ := List.forall₂_cons_right_iff.1 h
    obtain ⟨chosen, hsub, hchosen⟩ := ih hrest
    exact ⟨chosen, hsub.cons a, hchosen⟩
  | cons_cons b _ ih =>
    obtain ⟨a, rest, ha, hrest, rfl⟩ := List.forall₂_cons_right_iff.1 h
    obtain ⟨chosen, hsub, hchosen⟩ := ih hrest
    exact ⟨a :: chosen, hsub.cons_cons a, .cons ha hchosen⟩

/-- Some of the results, in any order, are the results of some of the items. -/
theorem exists_subperm_of_forall₂ {items : List α} {results kept : List β}
    (h : List.Forall₂ R items results) (hkept : kept.Subperm results) :
    ∃ chosen, chosen.Subperm items ∧ List.Forall₂ R chosen kept := by
  obtain ⟨ordered, hperm, hsub⟩ := hkept
  obtain ⟨chosen, hchosen, hordered⟩ := exists_sublist_of_forall₂ h hsub
  obtain ⟨shuffled, hkept, hshuffled⟩ := List.perm_comp_forall₂ hperm.symm hordered.flip
  exact ⟨shuffled, hshuffled.subperm_right.2 hchosen.subperm, hkept.flip⟩

end DocSchema.Chain
