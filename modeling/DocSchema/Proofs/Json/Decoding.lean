import DocSchema.Proofs.Json.Same

/-!
# Reading values back

A value is read part by part: texts, the items of arrays, and the members of objects by their keys,
some of which may be missing. Such a reader does not see the order of members, so what it reads in a
value it reads in all that are equal to it. A reader `Undoes` a writer if it finds what was written
in every value that is equal to the one written. Readers of parts that do make a reader of arrays
that does (`undoes_items`), and find the members of an object (`field?_of_same`,
`optional?_of_same`).
-/

namespace DocSchema.Json

variable {α β : Type}

/-- The text of a string. -/
def text? : Json → Option String
  | string value => some value
  | _ => none

/-- The text of a string, or none where there is null. -/
def textOrNull? : Json → Option (Option String)
  | string value => some (some value)
  | null => some none
  | _ => none

/-- What is read in the items of an array, in order. -/
def items? (read : Json → Option α) : Json → Option (List α)
  | array items => items.mapM read
  | _ => none

/-- The member of an object under a key. -/
def member? (key : String) : Json → Option Json
  | object members => members.lookup key
  | _ => none

/-- What is read in the member under a key. -/
def field? (key : String) (read : Json → Option α) (a : Json) : Option α :=
  (a.member? key).bind read

/-- What is read in the member under a key, if there is one. -/
def optional? (key : String) (read : Json → Option α) (a : Json) : Option (Option α) :=
  match a.member? key with
  | some b => (read b).map some
  | none => some none

/-- A reader finds what is kept of a thing in every value that is equal to the one it is written
as. -/
def Undoes (read : Json → Option β) (write : α → Json) (keep : α → β) : Prop :=
  ∀ thing a, (write thing).same a = true → read a = some (keep thing)

/-- Only a string is equal to a string, and it has the same text. -/
theorem eq_string_of_same {text : String} {a : Json} (h : (string text).same a = true) :
    a = string text := by
  cases a with
  | string other => rw [same, beq_iff_eq] at h; rw [h]
  | _ => cases h

/-- Texts are read back. -/
theorem undoes_text : Undoes text? string id := by
  intro text a h
  rw [eq_string_of_same h]
  rfl

/-- So are texts that may be missing. -/
theorem undoes_textOrNull :
    Undoes textOrNull? (fun text : Option String => text.elim null string) id := by
  intro text a h
  cases text with
  | some text => rw [eq_string_of_same h]; rfl
  | none =>
    cases a with
    | null => rfl
    | _ => cases h

/-- The items of an array are read back if each of them is. -/
theorem undoes_items {read : Json → Option β} {write : α → Json} {keep : α → β}
    (hread : Undoes read write keep) :
    Undoes (items? read) (fun things => array (things.map write)) (List.map keep) := by
  intro things a h
  cases a with
  | array items =>
    rw [same, sameItems_iff, List.forall₂_map_left_iff] at h
    show items.mapM read = _
    induction h with
    | nil => rfl
    | cons hfirst _ ih => rw [List.mapM_cons, hread _ _ hfirst, ih]; rfl
  | _ => cases h

section Members

variable {members : Members} {a : Json} (hdistinct : (object members).Distinct)
  (h : (object members).same a = true)
include hdistinct h

/-- A value that is equal to an object has equal members under the keys of the object, and no
others. -/
theorem member?_of_same (key : String) :
    Option.Rel (fun b d => b.same d = true) (members.lookup key) (a.member? key) := by
  cases a with
  | object others =>
    obtain ⟨hlength, hmembers⟩ := same_object_iff.1 h
    show Option.Rel _ _ (others.lookup key)
    cases hlookup : members.lookup key with
    | some b =>
      obtain ⟨d, hd, hsame⟩ := hmembers _ (mem_of_lookup_eq_some hlookup)
      rw [hd]
      exact .some hsame
    | none =>
      -- There are as many members on both sides, so none of the others is without a partner.
      have hpartners : ∀ m ∈ members, ∃ n ∈ others, n.1 = m.1 ∧ m.2.same n.2 = true := by
        intro m hm
        obtain ⟨d, hd, hsame⟩ := hmembers m hm
        exact ⟨(m.1, d), mem_of_lookup_eq_some hd, rfl, hsame⟩
      obtain ⟨hkeys, -⟩ := distinct_object_iff.1 hdistinct
      obtain ⟨-, hback⟩ := exists_partner_of_nodup_map hkeys (Nat.le_of_eq hlength.symm) hpartners
      have hfree : key ∉ others.map Prod.fst := by
        intro hkey
        obtain ⟨n, hn, rfl⟩ := List.mem_map.1 hkey
        obtain ⟨m, hm, hkey, -⟩ := hback n hn
        exact lookup_eq_none_iff_notMem.1 hlookup (hkey ▸ List.mem_map_of_mem hm)
      rw [lookup_eq_none_iff_notMem.2 hfree]
      exact .none
  | _ => cases h

variable {read : Json → Option β} {write : α → Json} {keep : α → β} {key : String}

/-- A member is read back. -/
theorem field?_of_same (hread : Undoes read write keep) {thing : α}
    (hlookup : members.lookup key = some (write thing)) :
    a.field? key read = some (keep thing) := by
  have hmember := member?_of_same hdistinct h key
  rw [field?]
  generalize a.member? key = found at hmember ⊢
  rw [hlookup] at hmember
  cases hmember with
  | some hsame => exact hread _ _ hsame

/-- A member that may be missing is read back. -/
theorem optional?_of_same (hread : Undoes read write keep) {thing? : Option α}
    (hlookup : members.lookup key = thing?.map write) :
    a.optional? key read = some (thing?.map keep) := by
  have hmember := member?_of_same hdistinct h key
  rw [optional?]
  generalize a.member? key = found at hmember ⊢
  rw [hlookup] at hmember
  cases thing? with
  | none =>
    cases hmember
    rfl
  | some thing =>
    cases hmember with
    | some hsame => exact congrArg (Option.map some) (hread _ _ hsame)

end Members

end DocSchema.Json
