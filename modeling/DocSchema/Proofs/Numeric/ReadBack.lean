import DocSchema.Proofs.Numeric.Cells
import Mathlib.Tactic.FieldSimp
import Mathlib.Tactic.LinearCombination
import Mathlib.Tactic.Positivity
import Mathlib.Tactic.Ring

/-!
# The shortest decimal reads back

A decimal is accepted by the neighbourhood of a magnitude if and only if the number it denotes lies
in the cell of the magnitude (`accepts_iff`). On the grid of seventeen digits the decimal nearest to
a magnitude is always accepted, because half a step there is less than a quarter of the last place
of a power of two and less than half of any other (`step_lt`). So the shortest decimal of a
magnitude lies in its cell (`inCell_shortest`).
-/

namespace DocSchema.Numeric

/-- A power of two as a rational number. -/
theorem cast_twoTo (n : Nat) : (twoTo n : Rat) = 2 ^ n := by
  simp [twoTo]

/-- A power of ten as a rational number. -/
theorem cast_tenTo (n : Nat) : (tenTo n : Rat) = 10 ^ n := by
  simp [tenTo]

/-- Powers of two multiply as exponents add. -/
theorem twoTo_add (m n : Nat) : twoTo (m + n) = twoTo m * twoTo n := Nat.pow_add 2 m n

/-- Powers of two grow with their exponents. -/
theorem twoTo_le_twoTo {m n : Nat} (h : m ≤ n) : twoTo m ≤ twoTo n :=
  Nat.pow_le_pow_right (by decide) h

/-- Powers of ten multiply as exponents add. -/
theorem tenTo_add (m n : Nat) : tenTo (m + n) = tenTo m * tenTo n := Nat.pow_add 10 m n

namespace Decimal

/-- The number that a decimal denotes. -/
def value (d : Decimal) : Rat := d.coefficient * 10 ^ d.power

/-- The number that a decimal denotes, in quarters of the least magnitude. -/
def point (d : Decimal) : Rat := 4 * twoTo 1074 * d.value

/-- A decimal with a power of ten that is no fraction. -/
theorem value_mul_tenTo (d : Decimal) :
    d.value * tenTo (-d.power).toNat = d.coefficient * tenTo d.power.toNat := by
  rw [value, cast_tenTo, cast_tenTo, mul_assoc]
  congr 1
  rcases d.power.eq_nat_or_neg with ⟨n, hn | hn⟩
  · simp [hn]
  · simp [hn]

/-- Dropping zeros changes no value. -/
theorem value_trimWithin (fuel : Nat) (d : Decimal) : (d.trimWithin fuel).value = d.value := by
  induction fuel generalizing d with
  | zero => rfl
  | succ fuel ih =>
    rw [trimWithin]
    split
    · next hzero =>
      have htens : (d.coefficient : Rat) = (d.coefficient / 10 : Nat) * 10 := by
        have : d.coefficient = d.coefficient / 10 * 10 := by omega
        exact_mod_cast this
      rw [ih, value, value, htens, zpow_add_one₀ (by norm_num)]
      ring
    · rfl

/-- Dropping zeros lowers no power. -/
theorem power_le_trimWithin (fuel : Nat) (d : Decimal) : d.power ≤ (d.trimWithin fuel).power := by
  induction fuel generalizing d with
  | zero => exact le_rfl
  | succ fuel ih =>
    rw [trimWithin]
    split
    · have hnext := ih ⟨d.coefficient / 10, d.power + 1⟩
      simp only at hnext
      omega
    · exact le_rfl

/-- A decimal without its zeros at the end has the same value. -/
theorem value_trim (d : Decimal) : d.trim.value = d.value := by
  rw [trim]
  split
  · next hzero => simp [value, hzero]
  · exact value_trimWithin _ d

end Decimal

/-- A power of ten with one digit less than a number does not exceed it. -/
theorem tenTo_length_le {n : Nat} (hn : 0 < n) : tenTo ((Nat.toDigits 10 n).length - 1) ≤ n := by
  by_cases hone : (Nat.toDigits 10 n).length - 1 = 0
  · rw [hone]
    exact hn
  · by_contra hlt
    have hshort := (Nat.length_toDigits_le_iff (by decide) (by omega)).2 (Nat.lt_of_not_le hlt)
    have hpos : 0 < (Nat.toDigits 10 n).length := Nat.length_toDigits_pos
    omega

/-- The power of ten at the leading exponent of a quotient does not exceed the quotient. -/
theorem leadingExponent_le {num den : Nat} (hnum : 0 < num) (hden : 0 < den) :
    den * tenTo (leadingExponent num den).toNat ≤ num * tenTo (-leadingExponent num den).toNat := by
  have hdigits : ∀ n, 0 < (Nat.toDigits 10 n).length := fun _ => Nat.length_toDigits_pos
  rw [leadingExponent]
  split
  · next hle =>
    have hlength := hdigits (num / den)
    have hquotient := tenTo_length_le (Nat.div_pos hle hden)
    have hexponent : (-(((Nat.toDigits 10 (num / den)).length : Int) - 1)).toNat = 0 := by omega
    rw [hexponent, show (((Nat.toDigits 10 (num / den)).length : Int) - 1).toNat =
      (Nat.toDigits 10 (num / den)).length - 1 by omega]
    calc den * tenTo ((Nat.toDigits 10 (num / den)).length - 1)
        ≤ den * (num / den) := Nat.mul_le_mul_left _ hquotient
      _ ≤ num := Nat.mul_div_le num den
      _ = num * tenTo 0 := (Nat.mul_one num).symm
  · have hlength := hdigits ((den - 1) / num)
    have hquotient : (den - 1) / num < tenTo (Nat.toDigits 10 ((den - 1) / num)).length :=
      (Nat.length_toDigits_le_iff (by decide) hlength).1 le_rfl
    have hproduct := (Nat.div_lt_iff_lt_mul hnum).1 hquotient
    rw [Int.neg_neg, Int.toNat_natCast, Int.toNat_neg_natCast, Nat.mul_comm num]
    show den * 1 ≤ _
    omega

namespace Magnitude

/-- The unit of a neighbourhood, a quarter of the last place, in quarters of the least magnitude. -/
theorem unitNum_mul (x : Magnitude) :
    x.neighbourhood.unitNum * twoTo 1074 = twoTo x.scale * twoTo (1074 - x.scale) := by
  have hsum : x.scale - 1074 + 1074 = x.scale + (1074 - x.scale) := by omega
  have hunit : x.neighbourhood.unitNum = twoTo (x.scale - 1074) := by simp only [neighbourhood]
  calc x.neighbourhood.unitNum * twoTo 1074 = twoTo (x.scale - 1074 + 1074) := by
        rw [hunit, twoTo_add]
    _ = twoTo x.scale * twoTo (1074 - x.scale) := by rw [hsum, twoTo_add]

/-- The neighbourhood of a magnitude accepts a decimal if and only if it lies in the cell. -/
theorem accepts_iff {x : Magnitude} (hx : x.rank ≠ 0) (d : Decimal) :
    x.neighbourhood.accepts d = true ↔ x.InCell d.point := by
  -- Both sides of each comparison are scaled by the same positive number.
  obtain ⟨scaled, hscaled⟩ : ∃ scaled : Rat, scaled =
      twoTo (1074 - x.scale) * tenTo (-d.power).toNat / twoTo 1074 := ⟨_, rfl⟩
  have hpositive : 0 < scaled := by
    rw [hscaled, cast_twoTo, cast_twoTo, cast_tenTo]
    positivity
  have hten : (twoTo 1074 : Rat) ≠ 0 := by
    rw [cast_twoTo]
    positivity
  have hunit : ∀ k : Nat, ((k * (x.neighbourhood.unitNum * tenTo (-d.power).toNat) : Nat) : Rat) =
      (k * twoTo x.scale : Nat) * scaled := by
    intro k
    have hcast : (x.neighbourhood.unitNum : Rat) * twoTo 1074 =
        twoTo x.scale * twoTo (1074 - x.scale) := by exact_mod_cast unitNum_mul x
    rw [hscaled]
    push_cast
    field_simp
    linear_combination (k * tenTo (-d.power).toNat : Rat) * hcast
  have hpoint : ((d.coefficient * tenTo d.power.toNat * x.neighbourhood.unitDen : Nat) : Rat) =
      d.point * scaled := by
    have hvalue := d.value_mul_tenTo
    have hden : x.neighbourhood.unitDen = 4 * twoTo (1074 - x.scale) := rfl
    rw [hscaled, hden, Decimal.point]
    push_cast
    field_simp
    linear_combination -(twoTo (1074 - x.scale) : Rat) * hvalue
  have hlow := hunit x.neighbourhood.low
  have hhigh := hunit x.neighbourhood.high
  rw [low_neighbourhood hx] at hlow
  rw [high_neighbourhood] at hhigh
  have hclosed : x.neighbourhood.closed = decide (x.significand % 2 = 0) := rfl
  rw [Neighbourhood.accepts, InCell, hclosed]
  by_cases heven : x.significand % 2 = 0
  · simp only [heven, decide_true, if_true, Bool.and_eq_true, decide_eq_true_eq]
    rw [← Nat.cast_le (α := Rat), hlow, hpoint, ← Nat.cast_le (α := Rat), hhigh, hpoint,
      mul_le_mul_iff_of_pos_right hpositive, mul_le_mul_iff_of_pos_right hpositive]
  · simp only [heven, decide_false, Bool.false_eq_true, if_false, Bool.and_eq_true,
      decide_eq_true_eq]
    rw [← Nat.cast_lt (α := Rat), hlow, hpoint, ← Nat.cast_lt (α := Rat), hhigh, hpoint,
      mul_lt_mul_iff_of_pos_right hpositive, mul_lt_mul_iff_of_pos_right hpositive]

section Search

variable {tie : Tie} {n : Neighbourhood}

/-- What is found on a grid lies on it and reads back. -/
theorem accepts_of_onGrid {power : Int} {d : Decimal} (h : onGrid tie n power = some d) :
    d.power = power ∧ n.accepts d = true := by
  simp only [onGrid] at h
  split at h
  · next haccepts =>
    obtain rfl := Option.some.inj h
    exact ⟨rfl, haccepts⟩
  · split at h
    · next haccepts =>
      obtain rfl := Option.some.inj h
      exact ⟨rfl, haccepts⟩
    · split at h
      · next haccepts =>
        obtain rfl := Option.some.inj h
        exact ⟨rfl, haccepts⟩
      · simp at h

/-- A search that reaches a grid with a decimal that reads back ends there at the latest. -/
theorem exists_onGrids {target : Int} (htarget : (onGrid tie n target).isSome) {fuel : Nat}
    {power : Int} (hle : target ≤ power) (hlt : power < target + fuel) :
    ∃ d, onGrids tie n fuel power = some d ∧ onGrid tie n d.power = some d ∧ target ≤ d.power := by
  induction fuel generalizing power with
  | zero => omega
  | succ fuel ih =>
    rw [onGrids]
    cases hgrid : onGrid tie n power with
    | some d =>
      obtain ⟨hpower, -⟩ := accepts_of_onGrid hgrid
      exact ⟨d, rfl, hpower ▸ hgrid, hpower ▸ hle⟩
    | none =>
      have hne : power ≠ target := by
        rintro rfl
        simp [hgrid] at htarget
      exact ih (by omega) (by push_cast at hlt; omega)

end Search

section Grids

variable {x : Magnitude} {tie : Tie}

/-- The distance from a magnitude to the end of its neighbourhood. -/
theorem neighbourhood_bounds (hx : x.rank ≠ 0) :
    x.neighbourhood.value = 4 * x.significand ∧ x.neighbourhood.high = x.neighbourhood.value + 2 ∧
      x.neighbourhood.value ≤ x.neighbourhood.low + 2 ∧
      (x.significand ≠ twoTo 52 → x.neighbourhood.low + 2 = x.neighbourhood.value) ∧
      x.neighbourhood.low < x.neighbourhood.value := by
  have hpos := significand_pos hx
  refine ⟨rfl, rfl, ?_, fun hne => ?_, ?_⟩ <;> simp only [neighbourhood]
  · split <;> omega
  · rw [if_neg fun h => hne h.1]
    omega
  · split <;> omega

/-- A quarter of a last place is positive. -/
theorem unit_pos (x : Magnitude) : 0 < x.neighbourhood.unitNum ∧ 0 < x.neighbourhood.unitDen := by
  simp only [neighbourhood]
  exact ⟨twoTo_pos _, Nat.mul_pos (by decide) (twoTo_pos _)⟩

/-- On a grid whose step is short enough, the decimal nearest to a magnitude reads back. -/
theorem accepts_nearest (hx : x.rank ≠ 0) {power : Int}
    (hstep : x.neighbourhood.unitDen * tenTo power.toNat +
      2 * (x.neighbourhood.low * (x.neighbourhood.unitNum * tenTo (-power).toNat)) <
        2 * (x.neighbourhood.value * (x.neighbourhood.unitNum * tenTo (-power).toNat))) :
    x.neighbourhood.accepts ⟨roundDiv tie
      (x.neighbourhood.value * x.neighbourhood.unitNum * tenTo (-power).toNat)
      (x.neighbourhood.unitDen * tenTo power.toNat), power⟩ = true := by
  obtain ⟨-, hhigh, hlow, -, -⟩ := neighbourhood_bounds hx
  obtain ⟨-, hdenpos⟩ := unit_pos x
  generalize x.neighbourhood = n at *
  obtain ⟨unit, hunit⟩ : ∃ unit, n.unitNum * tenTo (-power).toNat = unit := ⟨_, rfl⟩
  obtain ⟨den, hden⟩ : ∃ den, n.unitDen * tenTo power.toNat = den := ⟨_, rfl⟩
  rw [hunit, hden] at hstep
  rw [Nat.mul_assoc, hunit, hden]
  have hbelow := le_roundDiv tie (n.value * unit) den (hden ▸ Nat.mul_pos hdenpos (tenTo_pos _))
  have habove := roundDiv_le tie (n.value * unit) den
  generalize roundDiv tie (n.value * unit) den = nearest at *
  have hpoint : nearest * tenTo power.toNat * n.unitDen = nearest * den := by
    rw [← hden, Nat.mul_comm n.unitDen, Nat.mul_assoc]
  have hreach : n.value * unit ≤ n.low * unit + 2 * unit := by
    rw [← Nat.add_mul]
    exact Nat.mul_le_mul_right unit hlow
  have hend : n.high * unit = n.value * unit + 2 * unit := by rw [hhigh, Nat.add_mul]
  simp only [Neighbourhood.accepts, hpoint, hunit]
  split
  · simp only [Bool.and_eq_true, decide_eq_true_eq]
    omega
  · simp only [Bool.and_eq_true, decide_eq_true_eq]
    omega

/-- Some powers of ten take a step of the grid that lies as many below the leading digit of a ratio
up to the ratio at most. -/
theorem mul_tenTo_le {num den steps : Nat} (hnum : 0 < num) (hden : 0 < den) {power : Int}
    (hpower : power = leadingExponent num den - steps) :
    den * tenTo power.toNat * tenTo steps ≤ num * tenTo (-power).toNat := by
  have hleading := leadingExponent_le hnum hden
  generalize leadingExponent num den = leading at *
  have hexponents : power.toNat + (steps + (-leading).toNat) =
      leading.toNat + (-power).toNat := by omega
  have hpowers : tenTo power.toNat * (tenTo steps * tenTo (-leading).toNat) =
      tenTo leading.toNat * tenTo (-power).toNat := by
    rw [← tenTo_add, ← tenTo_add, ← tenTo_add, hexponents]
  refine Nat.le_of_mul_le_mul_right ?_ (tenTo_pos (-leading).toNat)
  calc den * tenTo power.toNat * tenTo steps * tenTo (-leading).toNat
      = den * (tenTo power.toNat * (tenTo steps * tenTo (-leading).toNat)) := by ring
    _ = den * tenTo leading.toNat * tenTo (-power).toNat := by
        rw [hpowers]
        ring
    _ ≤ num * tenTo (-leading).toNat * tenTo (-power).toNat := Nat.mul_le_mul_right _ hleading
    _ = num * tenTo (-power).toNat * tenTo (-leading).toNat := by ring

/-- Half a step of the grid of seventeen digits is less than the distance from a magnitude to the
ends of its neighbourhood. -/
theorem step_lt (hx : x.rank ≠ 0) {power : Int} (hpower : power =
    leadingExponent (x.neighbourhood.value * x.neighbourhood.unitNum) x.neighbourhood.unitDen - 16) :
    x.neighbourhood.unitDen * tenTo power.toNat +
      2 * (x.neighbourhood.low * (x.neighbourhood.unitNum * tenTo (-power).toNat)) <
        2 * (x.neighbourhood.value * (x.neighbourhood.unitNum * tenTo (-power).toNat)) := by
  obtain ⟨hvalue, -, -, hregular, hlow⟩ := neighbourhood_bounds hx
  have hpos := significand_pos hx
  have hlt := significand_lt x
  have hpower52 : twoTo 52 = 4503599627370496 := by decide
  have hten16 : tenTo 16 = 10000000000000000 := by decide
  obtain ⟨hnumpos, hdenpos⟩ := unit_pos x
  have hproduct : 0 < x.neighbourhood.value * x.neighbourhood.unitNum :=
    Nat.mul_pos (by omega) hnumpos
  have hsixteen := mul_tenTo_le hproduct hdenpos hpower
  generalize x.neighbourhood = n at *
  obtain ⟨unit, hunit⟩ : ∃ unit, n.unitNum * tenTo (-power).toNat = unit := ⟨_, rfl⟩
  obtain ⟨den, hden⟩ : ∃ den, n.unitDen * tenTo power.toNat = den := ⟨_, rfl⟩
  have hunitpos : 0 < unit := hunit ▸ Nat.mul_pos hnumpos (tenTo_pos _)
  -- Sixteen powers of ten take the step to the leading exponent.
  rw [Nat.mul_assoc n.value, hunit, hden, hten16, hvalue] at hsixteen
  rw [hunit, hden]
  by_cases hsmall : x.significand = twoTo 52
  · have hnear : (n.low + 1) * unit ≤ n.value * unit := Nat.mul_le_mul_right unit hlow
    rw [hsmall, hpower52] at hsixteen
    rw [Nat.add_mul] at hnear
    omega
  · have hfar := congrArg (· * unit) (hregular hsmall)
    have hmost : 4 * x.significand * unit ≤ 4 * 9007199254740991 * unit :=
      Nat.mul_le_mul_right unit (by omega)
    simp only [Nat.add_mul] at hfar
    omega

/-- The search finds a decimal that reads back, and the shortest one is what it finds. -/
theorem exists_found (tie : Tie) (hx : x.rank ≠ 0) :
    ∃ d, x.neighbourhood.accepts d = true ∧ x.shortest tie = d.trim := by
  obtain ⟨leading, hleading⟩ : ∃ leading, leadingExponent
    (x.neighbourhood.value * x.neighbourhood.unitNum) x.neighbourhood.unitDen = leading := ⟨_, rfl⟩
  have hgrid : (onGrid tie x.neighbourhood (leading - 16)).isSome := by
    simp only [onGrid]
    rw [if_pos (accepts_nearest hx (step_lt hx (by rw [hleading])))]
    rfl
  obtain ⟨d, hsearch, hfound, -⟩ : ∃ d, onGrids tie x.neighbourhood 17 leading = some d ∧
      onGrid tie x.neighbourhood d.power = some d ∧ leading - 16 ≤ d.power :=
    exists_onGrids hgrid (by omega) (by omega)
  refine ⟨d, (accepts_of_onGrid hfound).2, ?_⟩
  rw [shortest, if_neg hx]
  simp only [hleading, hsearch, Option.getD_some]

/-- The shortest decimal of a magnitude lies in its cell. -/
theorem inCell_shortest (tie : Tie) (hx : x.rank ≠ 0) : x.InCell (x.shortest tie).point := by
  obtain ⟨d, haccepts, hshortest⟩ := exists_found tie hx
  have hcell := (accepts_iff hx d).1 haccepts
  rwa [hshortest, Decimal.point, Decimal.value_trim]

end Grids

end Magnitude

end DocSchema.Numeric
