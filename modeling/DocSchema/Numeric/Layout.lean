import DocSchema.Numeric.Shortest

/-!
# Decimal notation

How a number is written once its digits are known: positionally, or with an exponent after the
first digit. `DecimalLayout` holds the choices; `jsonLayout` and `plainLayout` are the two layouts
in use.
-/

namespace DocSchema.Numeric

/-- The choices of a decimal notation. -/
structure DecimalLayout where
  /-- The least and the greatest exponent of the first digit that are written positionally; all
  are if there are no bounds. -/
  positional : Option (Int × Int)
  /-- A whole number written positionally ends in `.0`. -/
  keepFraction : Bool
  /-- Which of two equally near shortest decimals is written. -/
  tie : Tie
deriving Repr

/-- Numbers of a JSON text: positional between `0.00001` and sixteen digits before the point, and
never without a fraction there. -/
def jsonLayout : DecimalLayout where
  positional := some (-5, 15)
  keepFraction := true
  tie := .even

/-- Numbers shown to a reader: never an exponent, and no fraction where there is none. -/
def plainLayout : DecimalLayout where
  positional := none
  keepFraction := false
  tie := .up

namespace DecimalLayout

/-- The layout writes a number with this leading exponent positionally. -/
def isPositional (layout : DecimalLayout) (leading : Int) : Bool :=
  match layout.positional with
  | none => true
  | some (least, greatest) => least ≤ leading && leading ≤ greatest

/-- Positional notation of digits whose first one has the exponent `leading`. -/
def positionalText (layout : DecimalLayout) (digits : List Char) (leading : Int) : List Char :=
  if leading < 0 then
    ['0', '.'] ++ List.replicate (-leading - 1).toNat '0' ++ digits
  else
    let whole := leading.toNat + 1
    if digits.length ≤ whole then
      digits ++ List.replicate (whole - digits.length) '0' ++
        (if layout.keepFraction then ['.', '0'] else [])
    else
      digits.take whole ++ '.' :: digits.drop whole

/-- Notation with an exponent, which has a sign always. -/
def scientificText (digits : List Char) (leading : Int) : List Char :=
  digits.take 1 ++ (if digits.length ≤ 1 then [] else '.' :: digits.drop 1) ++
    'e' :: (if leading < 0 then '-' else '+') :: Nat.toDigits 10 leading.natAbs

/-- The text of a decimal. -/
def decimalText (layout : DecimalLayout) (d : Decimal) : List Char :=
  if layout.isPositional d.leading then layout.positionalText d.digits d.leading
  else scientificText d.digits d.leading

/-- The text of a binary64 number. -/
def text (layout : DecimalLayout) (x : Binary64) : String :=
  String.ofList <|
    (if x.negative then ['-'] else []) ++ layout.decimalText (x.magnitude.shortest layout.tie)

end DecimalLayout

end DocSchema.Numeric
