import DocSchema.Proofs.Json.Part

/-!
# Reading a pointer back

A pointer that a message shows is an RFC 6901 pointer, but for the root, which has a name. It can be
read again: its text is cut at the slashes and the escapes are undone, and the tokens are those of
the steps, whatever the keys are (`Pointer.read?_shown`). The tokens lead to the part that the steps
lead to (`Json.at?_of_part?`). A token does not say whether it is a key or a position, but the value
does: two ways into one value that have the same tokens are the same (`Json.steps_eq_of_tokens_eq`).
-/

namespace DocSchema

namespace Pointer

/-- Every tilde of a text escapes something: a zero or a one stands behind it. -/
def wellEscaped : List Char → Bool
  | [] => true
  | '~' :: '0' :: rest => wellEscaped rest
  | '~' :: '1' :: rest => wellEscaped rest
  | c :: rest => c != '~' && wellEscaped rest

/-- The tokens of a pointer as a message shows it, where the root has a name. A text in which a
tilde escapes nothing is no pointer. -/
def read? (shown : String) : Option (List String) :=
  if shown = "(root)" then some []
  else if wellEscaped shown.toList then (tokens shown.toList).map (·.map String.ofList)
  else none

/-- An escaped token changes nothing about the escapes behind it. -/
theorem wellEscaped_escapeToken_append (token rest : List Char) :
    wellEscaped (escapeToken token ++ rest) = wellEscaped rest := by
  induction token with
  | nil => rfl
  | cons c token ih =>
    by_cases htilde : c = '~'
    · simp [escapeToken, wellEscaped, htilde, ih]
    · by_cases hslash : c = '/'
      · simp [escapeToken, wellEscaped, hslash, ih]
      · simp [escapeToken, wellEscaped, htilde, hslash, ih]

/-- In the text of steps every tilde escapes something. -/
theorem wellEscaped_stepsText (steps : List Step) : wellEscaped (stepsText steps) = true := by
  induction steps with
  | nil => rfl
  | cons s rest ih =>
    have hslash : ∀ text, wellEscaped ('/' :: text) = wellEscaped text := fun text => by
      simp [wellEscaped]
    rw [stepsText, List.cons_append, hslash, wellEscaped_escapeToken_append, ih]

/-- Behind an escaped token, the text of steps is cut into their escaped tokens. -/
theorem splitOn_stepsText (token : List Char) (steps : List Step) :
    (escapeToken token ++ stepsText steps).splitOn '/' =
      escapeToken token :: steps.map fun s => escapeToken s.token.toList := by
  induction steps generalizing token with
  | nil =>
    rw [stepsText, List.append_nil, List.splitOn_eq_singleton (slash_not_mem_escapeToken token)]
    rfl
  | cons s rest ih =>
    rw [stepsText, List.cons_append, List.splitOn_append_cons_self,
      List.splitOn_eq_singleton (slash_not_mem_escapeToken token), ih]
    rfl

/-- The tokens of the text of steps are those of the steps. -/
theorem tokens_stepsText (steps : List Step) :
    tokens (stepsText steps) = some (steps.map fun s => s.token.toList) := by
  cases steps with
  | nil => rfl
  | cons s rest =>
    rw [stepsText, List.cons_append, tokens, if_pos rfl, splitOn_stepsText, List.map_cons,
      List.map_map, unescapeToken_escapeToken]
    exact congrArg (fun back => some (s.token.toList :: back))
      (List.map_congr_left fun t _ => unescapeToken_escapeToken t.token.toList)

/-- A pointer is read back from what a message shows of it. -/
theorem read?_shown (p : Pointer) : read? p.shown = some (p.steps.map Step.token) := by
  obtain ⟨steps⟩ := p
  cases steps with
  | nil => rfl
  | cons s rest =>
    have hshown : (Pointer.mk (s :: rest)).shown.toList = stepsText (s :: rest) :=
      String.toList_ofList
    have hroot : (Pointer.mk (s :: rest)).shown ≠ "(root)" := by
      intro h
      rw [h, stepsText] at hshown
      simp at hshown
    rw [read?, if_neg hroot, hshown, if_pos (wellEscaped_stepsText _), tokens_stepsText,
      Option.map_some, List.map_map]
    exact congrArg some (List.map_congr_left fun t _ => String.ofList_toList)

/-- A position is known from its digits. -/
theorem toString_injective {i j : ℕ} (h : toString i = toString j) : i = j := by
  rw [Nat.toString_eq_ofList_toDigits, Nat.toString_eq_ofList_toDigits, String.ofList_inj] at h
  rw [← Nat.ofDigitChars_ten_toDigits (n := i), h, Nat.ofDigitChars_ten_toDigits]

/-- Pointers that a message shows alike have the same tokens. -/
theorem tokens_eq_of_shown_eq {p q : Pointer} (h : p.shown = q.shown) :
    p.steps.map Step.token = q.steps.map Step.token := by
  have hread := read?_shown p
  rw [h, read?_shown] at hread
  exact (Option.some.inj hread).symm

end Pointer

namespace Json

/-- The token of a position names the item there. -/
theorem item?_toString (items : List Json) (position : ℕ) :
    item? items (toString position) = items[position]? := by
  have hfrom : ∀ start, ((items.zipIdx start).find? fun item =>
      toString item.2 == toString (start + position)).map Prod.fst = items[position]? := by
    induction items generalizing position with
    | nil => intro start; rfl
    | cons item rest ih =>
      intro start
      rw [List.zipIdx_cons, List.find?_cons]
      cases position with
      | zero => simp
      | succ next =>
        have hne : toString start ≠ toString (start + (next + 1)) := fun h => by
          have := Pointer.toString_injective h
          omega
        simp only [beq_false_of_ne hne]
        rw [show start + (next + 1) = start + 1 + next by omega]
        exact ih next (start + 1)
  have hzero := hfrom 0
  rwa [Nat.zero_add] at hzero

/-- The tokens of steps lead to the part that the steps lead to. -/
theorem at?_of_part? {steps : List Pointer.Step} {a b : Json} (h : a.part? steps = some b) :
    a.at? (steps.map Pointer.Step.token) = some b := by
  induction steps generalizing a with
  | nil => exact h
  | cons s rest ih =>
    cases s with
    | key name =>
      cases a with
      | object members =>
        obtain ⟨value, hvalue, hrest⟩ := Option.bind_eq_some_iff.1 h
        exact Option.bind_eq_some_iff.2 ⟨value, hvalue, ih hrest⟩
      | _ => cases h
    | index position =>
      cases a with
      | array items =>
        obtain ⟨item, hitem, hrest⟩ := Option.bind_eq_some_iff.1 h
        have hat := (item?_toString items position).trans hitem
        exact Option.bind_eq_some_iff.2 ⟨item, hat, ih hrest⟩
      | _ => cases h

/-- Ways into one value that have the same tokens are the same. -/
theorem steps_eq_of_tokens_eq {front back : List Pointer.Step} {a b c : Json}
    (hfront : a.part? front = some b) (hback : a.part? back = some c)
    (h : front.map Pointer.Step.token = back.map Pointer.Step.token) : front = back := by
  induction front generalizing a back with
  | nil => exact (List.map_eq_nil_iff.1 h.symm).symm
  | cons s front ih =>
    obtain ⟨t, back, rfl, htoken, hrest⟩ := List.map_eq_cons_iff.1 h.symm
    cases a with
    | object members =>
      cases s with
      | key name =>
        cases t with
        | key other =>
          obtain rfl : other = name := htoken
          obtain ⟨value, hvalue, hfront⟩ := Option.bind_eq_some_iff.1 hfront
          obtain ⟨same, hsame, hback⟩ := Option.bind_eq_some_iff.1 hback
          obtain rfl := Option.some.inj (hvalue.symm.trans hsame)
          rw [ih hfront hback hrest.symm]
        | index position => cases hback
      | index position => cases hfront
    | array items =>
      cases s with
      | key name => cases hfront
      | index position =>
        cases t with
        | key name => cases hback
        | index other =>
          obtain rfl : other = position := Pointer.toString_injective htoken
          obtain ⟨item, hitem, hfront⟩ := Option.bind_eq_some_iff.1 hfront
          obtain ⟨same, hsame, hback⟩ := Option.bind_eq_some_iff.1 hback
          obtain rfl := Option.some.inj (hitem.symm.trans hsame)
          rw [ih hfront hback hrest.symm]
    | _ => cases s <;> cases hfront

end Json

end DocSchema
