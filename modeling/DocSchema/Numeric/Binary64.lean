import DocSchema.Numeric.Rounding

/-!
# Finite binary64 numbers

A finite binary64 number is a sign and a rank: the place of its magnitude among the magnitudes of
all finite ones in ascending order, zero first. Every magnitude is a whole number of units of
`2 ^ -1074`, so `Magnitude.units` is exact, and the operations round an exact quotient once
(`Magnitude.ofRatio`). Its last place is a power of two, and its decimals are counted in powers of
ten; `twoTo_succ` and `tenTo_succ` say how each of the two scales grows.
-/

namespace DocSchema.Numeric

/-- A power of two. -/
def twoTo (n : Nat) : Nat := Nat.pow 2 n

/-- A power of ten. -/
def tenTo (n : Nat) : Nat := Nat.pow 10 n

/-- The next power of two is twice as great. -/
theorem twoTo_succ (n : Nat) : twoTo (n + 1) = twoTo n * 2 := rfl

/-- The next power of ten is ten times as great. -/
theorem tenTo_succ (n : Nat) : tenTo (n + 1) = tenTo n * 10 := rfl

/-- No power of two is zero. -/
theorem twoTo_pos (n : Nat) : 0 < twoTo n := Nat.pow_pos (by decide)

/-- No power of ten is zero. -/
theorem tenTo_pos (n : Nat) : 0 < tenTo n := Nat.pow_pos (by decide)

/-- The number of finite magnitudes; the rank that infinity would have. -/
def magnitudeCount : Nat := 0x7FF0000000000000

/-- A finite magnitude, given by its rank. -/
structure Magnitude where
  /-- How many finite magnitudes are less. -/
  rank : Nat
  /-- The magnitude is finite. -/
  rank_lt : rank < magnitudeCount := by decide
deriving DecidableEq, Repr

namespace Magnitude

/-- The exponent of two by which the significand is scaled, in units. -/
def scale (x : Magnitude) : Nat := x.rank / twoTo 52 - 1

/-- The significand: at most 53 bits, all 53 unless the scale is zero. -/
def significand (x : Magnitude) : Nat := x.rank - x.scale * twoTo 52

/-- The magnitude as a number of units of `2 ^ -1074`. -/
def units (x : Magnitude) : Nat := x.significand * twoTo x.scale

/-- The magnitude zero. -/
def zero : Magnitude where
  rank := 0

/-- The magnitude nearest to `num / den`, a tie going to the even significand; `none` where that
would be infinite. -/
def ofRatio (num den : Nat) : Option Magnitude :=
  let inUnits := num * twoTo 1074
  -- The scale is zero for the least magnitudes, which have fewer than 53 bits. A significand that
  -- is rounded up to 54 bits carries into the scale, as the ranks go on without a gap.
  let scale := Nat.log2 (inUnits / den) - 52
  let rank := scale * twoTo 52 + roundDiv .even inUnits (den * twoTo scale)
  if h : rank < magnitudeCount then some ⟨rank, h⟩ else none

/-- The magnitude nearest to a natural number. -/
def ofNat (n : Nat) : Option Magnitude := ofRatio n 1

/-- The rounded product of two magnitudes. -/
def mul (x y : Magnitude) : Option Magnitude := ofRatio (x.units * y.units) (twoTo 1074 * twoTo 1074)

/-- The rounded quotient of two magnitudes. -/
def div (x y : Magnitude) : Option Magnitude := ofRatio x.units y.units

/-- Zero has rank zero. -/
theorem eq_zero_iff (x : Magnitude) : x = zero ↔ x.rank = 0 := by
  cases x
  simp [zero]

end Magnitude

/-- A finite binary64 number. Zero has two signs. -/
structure Binary64 where
  /-- The number has a minus sign. -/
  negative : Bool
  /-- The number without its sign. -/
  magnitude : Magnitude
deriving DecidableEq, Repr

/-- Equality as numbers: the two zeros are equal, and no others of different sign. -/
def Binary64.sameValue (x y : Binary64) : Bool :=
  x.magnitude == y.magnitude && (x.negative == y.negative || x.magnitude == .zero)

end DocSchema.Numeric
