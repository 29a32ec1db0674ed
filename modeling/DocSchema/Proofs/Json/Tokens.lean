import DocSchema.Proofs.Json.Address

/-!
# Tokens by two replacements

The escapes of a pointer can be undone without reading them one by one: the text is cut at the
slashes, and in every piece `~1` is replaced by a slash and then `~0` by a tilde (`decodeToken`).
The first replacement takes all escapes of slashes and leaves those of tildes, since behind the
tilde of an escape stands a zero or a one and never another escape (`replacePair_escapeToken`); only
then are tildes put back (`replacePair_escapeTildes`). In the other order the `~01` of the key `~1`
would become a slash. So the text of a pointer gives back the tokens of the steps that it was made
by, whatever the keys are (`readTokens_along`).
-/

namespace DocSchema.Pointer

/-- A pointer with one more step. -/
def go (p : Pointer) : Step → Pointer
  | .key name => p.key name
  | .index position => p.index position

/-- The pointer to which steps lead from the root. -/
def along (steps : List Step) : Pointer := steps.foldl go root

/-- A text with a character in the place of every pair of two others, found from the front. -/
def replacePair (first second replacement : Char) : List Char → List Char
  | [] => []
  | [c] => [c]
  | c :: d :: rest =>
    if c = first ∧ d = second then replacement :: replacePair first second replacement rest
    else c :: replacePair first second replacement (d :: rest)

/-- A token with a slash in the place of every `~1` and then a tilde in the place of every `~0`. -/
def decodeToken (token : List Char) : List Char :=
  replacePair '~' '0' '~' (replacePair '~' '1' '/' token)

/-- The decoded tokens of a text, one behind each slash. A text that begins with no slash and is not
empty has none. -/
def readTokens (text : String) : Option (List String) :=
  match text.toList with
  | [] => some []
  | c :: rest =>
    if c = '/' then some ((rest.splitOn '/').map fun piece => String.ofList (decodeToken piece))
    else none

section Replacement

variable {first second replacement c d : Char}

/-- The pair itself is replaced. -/
theorem replacePair_pair (rest : List Char) :
    replacePair first second replacement (first :: second :: rest) =
      replacement :: replacePair first second replacement rest := by
  rw [replacePair, if_pos ⟨rfl, rfl⟩]

/-- A character that does not begin the pair stays. -/
theorem replacePair_cons_of_ne_first (hc : c ≠ first) (rest : List Char) :
    replacePair first second replacement (c :: rest) =
      c :: replacePair first second replacement rest := by
  cases rest with
  | nil => rfl
  | cons d rest => rw [replacePair, if_neg fun h => hc h.1]

/-- So does one behind which the pair does not go on. -/
theorem replacePair_cons_of_ne_second (hd : d ≠ second) (rest : List Char) :
    replacePair first second replacement (c :: d :: rest) =
      c :: replacePair first second replacement (d :: rest) := by
  rw [replacePair, if_neg fun h => hd h.2]

end Replacement

/-- A token with its tildes escaped, but not its slashes. -/
def escapeTildes : List Char → List Char
  | [] => []
  | c :: rest => if c = '~' then '~' :: '0' :: escapeTildes rest else c :: escapeTildes rest

/-- Once the slashes are back, only the tildes of a token are escaped. -/
theorem replacePair_escapeToken (token : List Char) :
    replacePair '~' '1' '/' (escapeToken token) = escapeTildes token := by
  induction token with
  | nil => rfl
  | cons c rest ih =>
    by_cases htilde : c = '~'
    · -- What stands behind the tilde of an escaped tilde is a zero, so the pair is not met here.
      rw [escapeToken, if_pos htilde, escapeTildes, if_pos htilde,
        replacePair_cons_of_ne_second (by decide), replacePair_cons_of_ne_first (by decide), ih]
    · rw [escapeToken, if_neg htilde, escapeTildes, if_neg htilde]
      by_cases hslash : c = '/'
      · rw [if_pos hslash, replacePair_pair, ih, hslash]
      · rw [if_neg hslash, replacePair_cons_of_ne_first htilde, ih]

/-- Once the tildes are back too, the token is. -/
theorem replacePair_escapeTildes (token : List Char) :
    replacePair '~' '0' '~' (escapeTildes token) = token := by
  induction token with
  | nil => rfl
  | cons c rest ih =>
    by_cases htilde : c = '~'
    · rw [escapeTildes, if_pos htilde, replacePair_pair, ih, htilde]
    · rw [escapeTildes, if_neg htilde, replacePair_cons_of_ne_first htilde, ih]

/-- The two replacements undo the escapes of a token. -/
theorem decodeToken_escapeToken (token : List Char) : decodeToken (escapeToken token) = token := by
  rw [decodeToken, replacePair_escapeToken, replacePair_escapeTildes]

example : escapeToken ['~', '1'] = ['~', '0', '1'] ∧
    replacePair '~' '1' '/' (replacePair '~' '0' '~' ['~', '0', '1']) = ['/'] := by
  decide

/-- The steps of the pointer to which steps lead are these. -/
theorem along_eq (steps : List Step) : along steps = ⟨steps⟩ := by
  induction steps using List.reverseRecOn with
  | nil => rfl
  | append_singleton front s ih =>
    rw [along, List.foldl_append, ← along, ih]
    cases s <;> rfl

/-- The text of steps is made of their tokens. -/
theorem stepsText_eq_flatMap (steps : List Step) :
    stepsText steps =
      (steps.map Step.token).flatMap fun token => '/' :: escapeToken token.toList := by
  induction steps with
  | nil => rfl
  | cons s rest ih => rw [stepsText, ih, List.map_cons, List.flatMap_cons]

/-- The tokens of the steps by which a pointer was made are read from its text. -/
theorem readTokens_along (steps : List Step) :
    readTokens (along steps).text = some (steps.map Step.token) := by
  rw [along_eq, readTokens, text, String.toList_ofList]
  cases steps with
  | nil => rfl
  | cons s rest =>
    have hdecode : ∀ t : Step, String.ofList (decodeToken (escapeToken t.token.toList)) = t.token :=
      fun t => by rw [decodeToken_escapeToken, String.ofList_toList]
    rw [stepsText, List.cons_append]
    show (if '/' = '/' then _ else _) = _
    rw [if_pos rfl, splitOn_stepsText, List.map_cons, List.map_map, hdecode]
    exact congrArg (fun back => some (s.token :: back)) (List.map_congr_left fun t _ => hdecode t)

/-- Whatever the steps from the root are, keys and positions in any order, the text of the pointer
gives back their tokens when it is cut at the slashes and the pieces are decoded. So pointers have
one text if and only if their tokens are the same, and no pointer but the root is shown by the name
of the root. -/
theorem tokens_of_text (steps : List Step) :
    readTokens (along steps).text = some (steps.map Step.token) ∧
    (∀ others, (along steps).text = (along others).text ↔
      steps.map Step.token = others.map Step.token) ∧
    ((along steps).shown = "(root)" ↔ steps = []) := by
  refine ⟨readTokens_along steps, fun others => ⟨fun h => ?_, fun h => ?_⟩, fun h => ?_, ?_⟩
  · -- One text is not read in two ways.
    have hread := readTokens_along steps
    rw [h, readTokens_along] at hread
    exact (Option.some.inj hread).symm
  · rw [along_eq, along_eq, text, text, stepsText_eq_flatMap, stepsText_eq_flatMap, h]
  · have hread := read?_shown (along steps)
    rw [h, along_eq] at hread
    exact List.map_eq_nil_iff.1 (Option.some.inj hread).symm
  · rintro rfl
    rfl

end DocSchema.Pointer
