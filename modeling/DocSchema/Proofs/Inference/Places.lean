import DocSchema.Proofs.Inference.Visits
import Mathlib.Data.List.Nodup

/-!
# The places of fragments

The place of a part leads from the object through the key of its member to the fragment
(`exists_steps_of_mem_parts`). The parts of a member are at different places
(`nodup_places_parts`), and nothing below a part of one member is below a part of another one
(`place_eq_of_below`). So a visit is that of the part of the document at its place
(`exists_steps_of_mem_preorder`), and no other visit is at that place (`eq_of_place_eq`); in
particular every object that inference enters a class for is the part of the document at its place
(`part?_of_enter`).
-/

namespace DocSchema

/-- A pointer is determined by its steps. -/
theorem Pointer.eq_of_steps_eq {p q : Pointer} (h : p.steps = q.steps) : p = q := by
  cases p
  cases q
  exact congrArg Pointer.mk h

namespace Inference

/-- The place of a part leads through the key of the member to its fragment. -/
theorem exists_steps_of_mem_parts {here : Pointer} {key : String} {value : Json} {v : Visit}
    (hdistinct : value.Distinct) (hv : v ∈ parts here key value) :
    ∃ steps, v.place.steps = here.steps ++ .key key :: steps ∧
      value.part? steps = some v.fragment := by
  cases value with
  | array items =>
    obtain ⟨⟨item, position⟩, hitem, rfl⟩ := List.mem_map.1 hv
    refine ⟨[.index position], List.append_assoc _ _ _, ?_⟩
    rw [List.mk_mem_zipIdx_iff_getElem?] at hitem
    rw [Json.part?, hitem]
    rfl
  | object entries =>
    rw [parts] at hv
    split at hv
    · obtain ⟨⟨entry, inner⟩, hentry, rfl⟩ := List.mem_map.1 hv
      have hlookup := Members.lookup_eq_some_of_mem (Json.distinct_object_iff.1 hdistinct).1 hentry
      refine ⟨[.key entry], List.append_assoc _ _ _, ?_⟩
      rw [Json.part?, hlookup]
      rfl
    · obtain rfl := List.mem_singleton.1 hv
      exact ⟨[], rfl, rfl⟩
  | _ => simp [parts] at hv

/-- The parts of a member are at different places. -/
theorem nodup_places_parts {here : Pointer} {key : String} {value : Json}
    (hdistinct : value.Distinct) : ((parts here key value).map Visit.place).Nodup := by
  cases value with
  | array items =>
    have hplaces : (parts here key (.array items)).map Visit.place =
        (List.range items.length).map (here.key key).index := by
      rw [parts, List.map_map, List.range_eq_range', ← List.zipIdx_map_snd 0 items, List.map_map]
      rfl
    rw [hplaces]
    refine List.nodup_range.map fun i j h => ?_
    simpa [Pointer.index] using h
  | object entries =>
    by_cases hkey : Text.startsWith tableStart key = true
    · have hplaces : (parts here key (.object entries)).map Visit.place =
          (entries.map Prod.fst).map (here.key key).key := by
        rw [parts, if_pos hkey, List.map_map, List.map_map]
        rfl
      rw [hplaces]
      refine (Json.distinct_object_iff.1 hdistinct).1.map fun i j h => ?_
      simpa [Pointer.key] using h
    · rw [parts, if_neg hkey]
      exact List.nodup_singleton _
  | _ => exact List.nodup_nil

/-- The places of the parts of one member have the same number of steps. -/
theorem length_steps_of_mem_parts {here : Pointer} {key : String} {value : Json} {v w : Visit}
    (hv : v ∈ parts here key value) (hw : w ∈ parts here key value) :
    v.place.steps.length = w.place.steps.length := by
  cases value with
  | array items =>
    obtain ⟨_, _, rfl⟩ := List.mem_map.1 hv
    obtain ⟨_, _, rfl⟩ := List.mem_map.1 hw
    simp [Pointer.index]
  | object entries =>
    rw [parts] at hv hw
    split at hv
    · next hkey =>
      rw [if_pos hkey] at hw
      obtain ⟨_, _, rfl⟩ := List.mem_map.1 hv
      obtain ⟨_, _, rfl⟩ := List.mem_map.1 hw
      simp [Pointer.key]
    · next hkey =>
      rw [if_neg hkey] at hw
      obtain rfl := List.mem_singleton.1 hv
      obtain rfl := List.mem_singleton.1 hw
      rfl
  | _ => simp [parts] at hv

/-- What is below parts of two members of an object is below a part of one member, and below one
part of it. -/
theorem place_eq_of_below {here : Pointer} {members : Members}
    (hkeys : (members.map Prod.fst).Nodup) {key key' : String} {value value' : Json}
    (hm : (key, value) ∈ members) (hm' : (key', value') ∈ members)
    (hdistinct : value.Distinct) (hdistinct' : value'.Distinct) {v w : Visit}
    (hv : v ∈ parts here key value) (hw : w ∈ parts here key' value')
    {steps : List Pointer.Step} (hbelow : v.place.steps <+: steps)
    (hbelow' : w.place.steps <+: steps) : key = key' ∧ v.place = w.place := by
  obtain ⟨tail, hsteps, -⟩ := exists_steps_of_mem_parts hdistinct hv
  obtain ⟨tail', hsteps', -⟩ := exists_steps_of_mem_parts hdistinct' hw
  -- Both ways go on from the object with the key of their member.
  have hkey : key = key' := by
    obtain ⟨rest, rfl⟩ := hbelow
    obtain ⟨rest', hrest'⟩ := hbelow'
    rw [hsteps, hsteps', List.append_assoc, List.append_assoc, List.append_cancel_left_eq,
      List.cons_append, List.cons_append, List.cons.injEq] at hrest'
    exact (Pointer.Step.key.inj hrest'.1).symm
  refine ⟨hkey, Pointer.eq_of_steps_eq ?_⟩
  subst hkey
  obtain rfl := Members.eq_of_mem hkeys hm hm'
  have hlength := length_steps_of_mem_parts hv hw
  exact (List.prefix_of_prefix_length_le hbelow hbelow' (Nat.le_of_eq hlength)).eq_of_length hlength

/-- A visit is that of the part of the fragment at its place. -/
theorem exists_steps_of_mem_preorder {v w : Visit} (hdistinct : v.fragment.Distinct)
    (hw : w ∈ v.preorder) :
    ∃ steps, w.place.steps = v.place.steps ++ steps ∧
      v.fragment.part? steps = some w.fragment := by
  induction v using Visit.inner_induction with
  | step v ih =>
    rw [Visit.preorder_eq] at hw
    rcases List.mem_cons.1 hw with rfl | hinner
    · exact ⟨[], (List.append_nil _).symm, rfl⟩
    · obtain ⟨u, hu, hw⟩ := List.mem_flatMap.1 hinner
      obtain ⟨members, key, value, hobject, hm, hpart⟩ := Visit.exists_part_of_mem_inner hu
      obtain ⟨hkeys, hvalues⟩ := Json.distinct_object_iff.1 (hobject ▸ hdistinct)
      obtain ⟨front, hfront, hfound⟩ := exists_steps_of_mem_parts (hvalues _ hm) hpart
      obtain ⟨back, hback, hinner⟩ := ih u hu (distinct_of_mem_parts (hvalues _ hm) hpart) hw
      -- The way to the fragment leads through the member and the part.
      refine ⟨.key key :: (front ++ back), ?_, ?_⟩
      · rw [hback, hfront, List.append_assoc, List.cons_append]
      · rw [hobject]
        show (members.lookup key).bind (Json.part? (front ++ back)) = _
        rw [Members.lookup_eq_some_of_mem hkeys hm]
        show Json.part? (front ++ back) value = _
        rw [Json.part?_append, hfound]
        exact hinner

/-- Visits at one place are the same. -/
theorem eq_of_place_eq {v u w : Visit} (hdistinct : v.fragment.Distinct) (hu : u ∈ v.preorder)
    (hw : w ∈ v.preorder) (hplace : u.place = w.place) : u = w := by
  induction v using Visit.inner_induction with
  | step v ih =>
    -- Whatever is visited inside is at a longer place.
    have hlonger : ∀ x ∈ v.inner, ∀ y ∈ x.preorder, y.place ≠ v.place := by
      intro x hx y hy heq
      obtain ⟨_, key, value, hobject, hm, hpart⟩ := Visit.exists_part_of_mem_inner hx
      have hvalue := (Json.distinct_object_iff.1 (hobject ▸ hdistinct)).2 _ hm
      obtain ⟨front, hfront, -⟩ := exists_steps_of_mem_parts hvalue hpart
      obtain ⟨back, hback, -⟩ :=
        exists_steps_of_mem_preorder (distinct_of_mem_parts hvalue hpart) hy
      have hlength := congrArg List.length (heq ▸ hback)
      simp only [hfront, List.length_append, List.length_cons] at hlength
      omega
    rw [Visit.preorder_eq] at hu hw
    rcases List.mem_cons.1 hu with rfl | hu <;> rcases List.mem_cons.1 hw with rfl | hw
    · rfl
    · obtain ⟨x, hx, hw⟩ := List.mem_flatMap.1 hw
      exact absurd hplace.symm (hlonger x hx w hw)
    · obtain ⟨x, hx, hu⟩ := List.mem_flatMap.1 hu
      exact absurd hplace (hlonger x hx u hu)
    · obtain ⟨x, hx, hu⟩ := List.mem_flatMap.1 hu
      obtain ⟨y, hy, hw⟩ := List.mem_flatMap.1 hw
      obtain ⟨members, key, value, hobject, hm, hpart⟩ := Visit.exists_part_of_mem_inner hx
      obtain ⟨_, key', value', hobject', hm', hpart'⟩ := Visit.exists_part_of_mem_inner hy
      obtain rfl := Json.object.inj (hobject.symm.trans hobject')
      obtain ⟨hkeys, hvalues⟩ := Json.distinct_object_iff.1 (hobject ▸ hdistinct)
      have hfragment := distinct_of_mem_parts (hvalues _ hm) hpart
      obtain ⟨front, hfront, -⟩ := exists_steps_of_mem_preorder hfragment hu
      obtain ⟨back, hback, -⟩ :=
        exists_steps_of_mem_preorder (distinct_of_mem_parts (hvalues _ hm') hpart') hw
      -- Both are below a part of the same member, and below the same part of it.
      obtain ⟨rfl, hparts⟩ := place_eq_of_below hkeys hm hm' (hvalues _ hm) (hvalues _ hm') hpart
        hpart' ⟨front, hfront.symm⟩ ⟨back, by rw [hplace, hback]⟩
      obtain rfl := Members.eq_of_mem hkeys hm hm'
      obtain rfl := List.inj_on_of_nodup_map (nodup_places_parts (hvalues _ hm)) hpart hpart' hparts
      exact ih x hx hfragment hu hw

/-- Where the course of a visit enters a class for an object, the object is the part of the fragment
at its place. -/
theorem exists_steps_of_enter {v : Visit} (hdistinct : v.fragment.Distinct) {name : String}
    {place : Pointer} {members : Members} (henter : .enter name place members ∈ v.course) :
    ∃ steps, place.steps = v.place.steps ++ steps ∧
      v.fragment.part? steps = some (.object members) := by
  obtain ⟨w, hw, hown⟩ := Visit.exists_own_of_mem_course henter
  cases hown with
  | enter hobject =>
    rw [← hobject]
    exact exists_steps_of_mem_preorder hdistinct hw

/-- Where inference enters a class for an object, the object is the part of the document at its
place. -/
theorem part?_of_enter {rootName : String} {document : Json} (hdistinct : document.Distinct)
    {name : String} {place : Pointer} {members : Members}
    (henter : .enter name place members ∈ course rootName .root document) :
    document.part? place.steps = some (.object members) := by
  obtain ⟨steps, hsteps, hpart⟩ :=
    exists_steps_of_enter (v := ⟨rootName, .root, document⟩) hdistinct henter
  rw [hsteps]
  exact hpart

end Inference

end DocSchema
