import DocSchema.Numeric.Shortest
import Mathlib.Algebra.Order.Field.Rat
import Mathlib.Order.Monotone.Basic
import Mathlib.Tactic.Linarith

/-!
# Cells of magnitudes

The finite magnitudes in ascending order cut the line at the points half way between neighbours
(`edge`). What lies between the points before and after a magnitude is its cell (`InCell`), the
points themselves where the significand is even. Neighbours never both have an even significand, so
the cells of two magnitudes are disjoint (`eq_of_inCell`). Points are counted in quarters of the
least magnitude, which makes every edge a natural number.
-/

namespace DocSchema.Numeric.Magnitude

/-- The exponent of two by which the significand of the magnitude at a rank is scaled. -/
def scaleAt (rank : Nat) : Nat := rank / twoTo 52 - 1

/-- The significand of the magnitude at a rank. -/
def significandAt (rank : Nat) : Nat := rank - scaleAt rank * twoTo 52

/-- The point half way from the magnitude at a rank to the one after. -/
def edge (rank : Nat) : Nat := (4 * significandAt rank + 2) * twoTo (scaleAt rank)

/-- The point lies in the cell of a magnitude other than zero. -/
def InCell (x : Magnitude) (point : Rat) : Prop :=
  if x.significand % 2 = 0 then edge (x.rank - 1) ≤ point ∧ point ≤ edge x.rank
  else edge (x.rank - 1) < point ∧ point < edge x.rank

/-- The next magnitude has the next significand, or the least one of the next scale. -/
theorem next_cases (rank : Nat) :
    (scaleAt (rank + 1) = scaleAt rank ∧ significandAt (rank + 1) = significandAt rank + 1) ∨
    (scaleAt (rank + 1) = scaleAt rank + 1 ∧ significandAt (rank + 1) = twoTo 52 ∧
      significandAt rank = 2 * twoTo 52 - 1) := by
  have hpower : twoTo 52 = 4503599627370496 := by decide
  simp only [significandAt, scaleAt, hpower]
  omega

/-- The edges ascend. -/
theorem edge_strictMono : StrictMono edge := by
  refine strictMono_nat_of_lt_succ fun rank => ?_
  have hpower : twoTo 52 = 4503599627370496 := by decide
  have hpos := twoTo_pos (scaleAt rank)
  rcases next_cases rank with ⟨hscale, hnext⟩ | ⟨hscale, hnext, hlast⟩
  · rw [edge, edge, hscale, hnext]
    exact Nat.mul_lt_mul_of_pos_right (by omega) hpos
  · rw [edge, edge, hscale, hnext, hlast, twoTo_succ (scaleAt rank), hpower]
    omega

/-- The significand has 53 bits at most. -/
theorem significand_lt (x : Magnitude) : x.significand < 2 * twoTo 52 := by
  have hpower : twoTo 52 = 4503599627370496 := by decide
  simp only [significand, scale, hpower]
  omega

/-- Only the significand of zero is zero. -/
theorem significand_pos {x : Magnitude} (hx : x.rank ≠ 0) : 0 < x.significand := by
  have hpower : twoTo 52 = 4503599627370496 := by decide
  simp only [significand, scale, hpower]
  omega

/-- The neighbourhood of a magnitude begins at the edge before it. -/
theorem low_neighbourhood {x : Magnitude} (hx : x.rank ≠ 0) :
    x.neighbourhood.low * twoTo x.scale = edge (x.rank - 1) := by
  obtain ⟨rank, hrank⟩ := Nat.exists_eq_add_one_of_ne_zero hx
  have hpower : twoTo 52 = 4503599627370496 := by decide
  have hlow : x.neighbourhood.low = 4 * significandAt x.rank -
      (if significandAt x.rank = twoTo 52 ∧ 0 < scaleAt x.rank then 1 else 2) := rfl
  have hscale : x.scale = scaleAt x.rank := rfl
  rw [hlow, hscale, hrank, Nat.add_sub_cancel, edge]
  rcases next_cases rank with ⟨hsame, hnext⟩ | ⟨hmore, hnext, hlast⟩
  · -- On one scale the magnitude before is a whole last place away.
    have hplain : ¬ (significandAt (rank + 1) = twoTo 52 ∧ 0 < scaleAt (rank + 1)) := by
      simp only [significandAt, scaleAt, hpower] at hsame hnext ⊢
      omega
    have hquarters : 4 * (significandAt rank + 1) - 2 = 4 * significandAt rank + 2 := by omega
    rw [if_neg hplain, hsame, hnext, hquarters]
  · rw [if_pos ⟨hnext, by omega⟩, hmore, hnext, hlast, twoTo_succ (scaleAt rank), hpower]
    omega

/-- The neighbourhood of a magnitude ends at the edge after it. -/
theorem high_neighbourhood (x : Magnitude) :
    x.neighbourhood.high * twoTo x.scale = edge x.rank := rfl

/-- Ranks and significands are even together. -/
theorem significand_mod_two (x : Magnitude) : x.significand % 2 = x.rank % 2 := by
  have hpower : twoTo 52 = 4503599627370496 := by decide
  have hle : x.scale * twoTo 52 ≤ x.rank := by
    simp only [scale, hpower]
    omega
  rw [significand, hpower] at *
  omega

section Points

variable {x y : Magnitude} {point : Rat}

/-- A cell does not reach beyond its edges. -/
theorem InCell.between (h : x.InCell point) : edge (x.rank - 1) ≤ point ∧ point ≤ edge x.rank := by
  rw [InCell] at h
  split at h
  · exact h
  · exact ⟨h.1.le, h.2.le⟩

/-- The cell of an odd significand does not reach its edges. -/
theorem InCell.strictly (h : x.InCell point) (hodd : x.significand % 2 ≠ 0) :
    edge (x.rank - 1) < point ∧ point < edge x.rank := by
  rw [InCell, if_neg hodd] at h
  exact h

/-- A point in the cell of a magnitude is not in that of a greater one. -/
theorem not_inCell_of_lt (hlt : x.rank < y.rank) (hx : x.InCell point) : ¬ y.InCell point := by
  intro hy
  obtain ⟨-, hend⟩ := hx.between
  obtain ⟨hstart, -⟩ := hy.between
  by_cases hboth : x.significand % 2 = 0 ∧ y.significand % 2 = 0
  · -- Both ranks are even, so there is another magnitude between the two.
    have hfar : edge x.rank < edge (y.rank - 1) := by
      refine edge_strictMono ?_
      have hxr := significand_mod_two x
      have hyr := significand_mod_two y
      omega
    have hcast : (edge x.rank : Rat) < edge (y.rank - 1) := by exact_mod_cast hfar
    linarith
  · have hnear : edge x.rank ≤ edge (y.rank - 1) := edge_strictMono.monotone (by omega)
    have hcast : (edge x.rank : Rat) ≤ edge (y.rank - 1) := by exact_mod_cast hnear
    by_cases hxe : x.significand % 2 = 0
    · have hyo : y.significand % 2 ≠ 0 := fun h => hboth ⟨hxe, h⟩
      linarith [(hy.strictly hyo).1]
    · linarith [(hx.strictly hxe).2]

/-- A point lies in the cell of one magnitude at most. -/
theorem eq_of_inCell (hx : x.InCell point) (hy : y.InCell point) :
    x = y := by
  have hrank : x.rank = y.rank := by
    rcases Nat.lt_trichotomy x.rank y.rank with hlt | heq | hgt
    · exact absurd hy (not_inCell_of_lt hlt hx)
    · exact heq
    · exact absurd hx (not_inCell_of_lt hgt hy)
  cases x
  cases y
  simpa using hrank

end Points

end DocSchema.Numeric.Magnitude
