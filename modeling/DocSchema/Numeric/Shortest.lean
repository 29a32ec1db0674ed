import DocSchema.Numeric.Binary64

/-!
# The shortest decimal that reads back

Among the decimals that round to a given magnitude, `Magnitude.shortest` takes one of the fewest
digits, and of those the nearest. For each count of digits only the two neighbours of the value on
that decimal grid need a test, because the decimals that read back form an interval around it.
-/

namespace DocSchema.Numeric

/-- The decimal `coefficient * 10 ^ power`. -/
structure Decimal where
  /-- The digits, as a number. -/
  coefficient : Nat
  /-- The exponent of ten of the last digit. -/
  power : Int
deriving Repr, DecidableEq

namespace Decimal

/-- The digits of the coefficient. -/
def digits (d : Decimal) : List Char := Nat.toDigits 10 d.coefficient

/-- The exponent of ten of the first digit. -/
def leading (d : Decimal) : Int := d.power + d.digits.length - 1

/-- Drops zeros at the end, `fuel` of them at most. -/
def trimWithin : Nat → Decimal → Decimal
  | 0, d => d
  | fuel + 1, d =>
    if d.coefficient % 10 = 0 then trimWithin fuel ⟨d.coefficient / 10, d.power + 1⟩ else d

/-- The same decimal with no zero at the end of its coefficient. -/
def trim (d : Decimal) : Decimal := if d.coefficient = 0 then ⟨0, 0⟩ else d.trimWithin d.digits.length

end Decimal

/-- The greatest exponent `e` with `10 ^ e ≤ num / den`, for positive `num` and `den`. -/
def leadingExponent (num den : Nat) : Int :=
  if den ≤ num then (Nat.toDigits 10 (num / den)).length - 1
  else -(Nat.toDigits 10 ((den - 1) / num)).length

namespace Magnitude

/-- The decimals that round to a magnitude: those from `low` to `high` quarters of its last place,
the ends included or not. -/
structure Neighbourhood where
  /-- The magnitude itself. -/
  value : Nat
  /-- The point half way to the magnitude before. -/
  low : Nat
  /-- The point half way to the magnitude after. -/
  high : Nat
  /-- The ends themselves round to the magnitude. -/
  closed : Bool
  /-- A quarter of the last place is `unitNum / unitDen`. -/
  unitNum : Nat
  /-- The denominator of a quarter of the last place. -/
  unitDen : Nat
deriving Repr

/-- The neighbourhood of a magnitude. The one before is nearer where the significand is a power of
two and the scale is not the least. -/
def neighbourhood (x : Magnitude) : Neighbourhood where
  value := 4 * x.significand
  low := 4 * x.significand - (if x.significand = twoTo 52 ∧ 0 < x.scale then 1 else 2)
  high := 4 * x.significand + 2
  closed := x.significand % 2 == 0
  unitNum := twoTo (x.scale - 1074)
  unitDen := 4 * twoTo (1074 - x.scale)

/-- The decimal reads back as the magnitude of the neighbourhood. -/
def Neighbourhood.accepts (n : Neighbourhood) (d : Decimal) : Bool :=
  let point := d.coefficient * tenTo d.power.toNat * n.unitDen
  let unit := n.unitNum * tenTo (-d.power).toNat
  if n.closed then n.low * unit ≤ point && point ≤ n.high * unit
  else n.low * unit < point && point < n.high * unit

/-- The nearest decimal to the value on the grid of step `10 ^ power`, if it reads back; a tie goes
as `tie` says unless only one of the two reads back. -/
def onGrid (tie : Tie) (n : Neighbourhood) (power : Int) : Option Decimal :=
  let num := n.value * n.unitNum * tenTo (-power).toNat
  let den := n.unitDen * tenTo power.toNat
  -- The interval is lopsided at a power of two and its ends may be excluded, so one neighbour can
  -- read back where the nearest does not.
  let below : Decimal := ⟨num / den, power⟩
  let above : Decimal := ⟨num / den + 1, power⟩
  let nearest : Decimal := ⟨roundDiv tie num den, power⟩
  if n.accepts nearest then some nearest
  else if n.accepts below then some below
  else if n.accepts above then some above
  else none

/-- The first grid with a decimal that reads back, from the coarsest power down. -/
def onGrids (tie : Tie) (n : Neighbourhood) : Nat → Int → Option Decimal
  | 0, _ => none
  | fuel + 1, power =>
    match onGrid tie n power with
    | some d => some d
    | none => onGrids tie n fuel (power - 1)

/-- The shortest decimal that reads back as the magnitude; seventeen digits always do. -/
def shortest (tie : Tie) (x : Magnitude) : Decimal :=
  if x.rank = 0 then ⟨0, 0⟩
  else
    let n := x.neighbourhood
    let leading := leadingExponent (n.value * n.unitNum) n.unitDen
    ((onGrids tie n 17 leading).getD ⟨x.significand, 0⟩).trim

end Magnitude

end DocSchema.Numeric
