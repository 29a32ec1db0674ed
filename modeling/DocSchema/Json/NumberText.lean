import DocSchema.Json.Value

/-!
# Reading numbers

A number is read character by character. Its digits build a significand of 64 bits; once the next
digit does not fit, further digits before the point only raise the exponent and further digits
after it are dropped. The value of a number with a point or an exponent is the binary64 number of
the significand, multiplied or divided once by the binary64 number of a power of ten.
-/

namespace DocSchema

open Numeric

namespace NumberText

/-- How far the text of a number has been read. -/
inductive Stage where
  /-- A minus sign. -/
  | minus
  /-- A zero as the first digit. -/
  | zero
  /-- Digits of an integer. -/
  | integer
  /-- Digits of an integer that no longer fit the significand. -/
  | longInteger
  /-- The point, with no digit after it. -/
  | point
  /-- Digits after the point. -/
  | fraction
  /-- Digits after the point that no longer fit the significand. -/
  | longFraction
  /-- The mark of an exponent, with or without a sign, and no digit. -/
  | exponentMark (signed : Bool)
  /-- Digits of the exponent, and their value. -/
  | exponent (value : Nat)
  /-- Digits of an exponent that leave zero in any case. -/
  | vanished
deriving Repr, DecidableEq

end NumberText

/-- A number, as far as it has been read. -/
structure NumberText where
  /-- The number has a minus sign. -/
  negative : Bool
  /-- The digits that fit 64 bits. -/
  significand : Nat
  /-- The exponent of ten that the digits alone give. -/
  exponent : Int
  /-- The exponent has a minus sign. -/
  exponentNegative : Bool
  /-- How far the text has been read. -/
  stage : NumberText.Stage
deriving Repr

namespace NumberText

/-- A number that begins with a minus sign. -/
def afterMinus : NumberText where
  negative := true
  significand := 0
  exponent := 0
  exponentNegative := false
  stage := .minus

/-- What a character does to a number. -/
inductive Outcome where
  /-- The number goes on. -/
  | more (n : NumberText)
  /-- The character is not part of the number. -/
  | ended
  /-- The character cannot stand here. -/
  | invalid
  /-- The exponent is too great. -/
  | outOfRange

/-- The value of a decimal digit. -/
def digit? (c : Char) : Option Nat := if c.isDigit then some (c.toNat - '0'.toNat) else none

/-- One more digit fits the significand. -/
def fits (significand digit : Nat) : Bool := significand * 10 + digit < twoTo 64

/-- Reads the first digit. -/
def first (n : NumberText) (digit : Nat) : NumberText :=
  { n with significand := digit, stage := if digit = 0 then .zero else .integer }

/-- A character after the digits before the point. -/
def afterWhole (n : NumberText) (c : Char) : Outcome :=
  if c = '.' then .more { n with stage := .point }
  else if c = 'e' || c = 'E' then .more { n with stage := .exponentMark false }
  else .ended

/-- A character after the digits behind the point. -/
def afterFraction (n : NumberText) (c : Char) : Outcome :=
  if c = 'e' || c = 'E' then .more { n with stage := .exponentMark false } else .ended

/-- A digit behind the point. -/
def fractionDigit (n : NumberText) (digit : Nat) : NumberText :=
  if fits n.significand digit then
    { n with
      significand := n.significand * 10 + digit, exponent := n.exponent - 1, stage := .fraction }
  else { n with stage := .longFraction }

/-- A digit of the exponent. One that passes 31 bits leaves zero if the number is zero or the
exponent negative, and no number otherwise. -/
def exponentDigit (n : NumberText) (value digit : Nat) : Outcome :=
  if value * 10 + digit < twoTo 31 then .more { n with stage := .exponent (value * 10 + digit) }
  else if n.significand = 0 || n.exponentNegative then .more { n with stage := .vanished }
  else .outOfRange

/-- Reads a character. -/
def step (n : NumberText) (c : Char) : Outcome :=
  match n.stage, digit? c with
  | .minus, some d => .more (n.first d)
  | .minus, none => .invalid
  | .zero, some _ => .invalid
  | .zero, none => n.afterWhole c
  | .integer, some d =>
    -- The digit that does not fit any more is the first to raise the exponent.
    if fits n.significand d then .more { n with significand := n.significand * 10 + d }
    else .more { n with exponent := 1, stage := .longInteger }
  | .integer, none => n.afterWhole c
  | .longInteger, some _ => .more { n with exponent := n.exponent + 1 }
  | .longInteger, none => n.afterWhole c
  | .point, some d => .more (n.fractionDigit d)
  | .point, none => .invalid
  | .fraction, some d => .more (n.fractionDigit d)
  | .fraction, none => n.afterFraction c
  | .longFraction, some _ => .more n
  | .longFraction, none => n.afterFraction c
  | .exponentMark _, some d => .more { n with stage := .exponent d }
  | .exponentMark signed, none =>
    if !signed && (c = '+' || c = '-') then
      .more { n with exponentNegative := c = '-', stage := .exponentMark true }
    else .invalid
  | .exponent value, some d => n.exponentDigit value d
  | .exponent _, none => .ended
  | .vanished, some _ => .more n
  | .vanished, none => .ended

/-- The number may end here. -/
def isComplete (n : NumberText) : Bool :=
  match n.stage with
  | .minus | .point | .exponentMark _ => false
  | _ => true

/-- The binary64 number nearest to a power of ten. -/
def powerOfTen (e : Nat) : Magnitude := (Magnitude.ofNat (tenTo e)).getD .zero

/-- A magnitude divided by `10 ^ e`, by `10 ^ 308` at a time. -/
def scaleDown (x : Magnitude) (e : Nat) : Magnitude :=
  if e ≤ 308 then (x.div (powerOfTen e)).getD .zero
  else if x.rank = 0 then x
  -- The quotient is rounded at every round, so the rounds cannot be put together.
  else scaleDown ((x.div (powerOfTen 308)).getD .zero) (e - 308)
termination_by e

/-- A magnitude times `10 ^ e`; `none` where that would be infinite. -/
def scaleUp (x : Magnitude) (e : Nat) : Option Magnitude :=
  if e ≤ 308 then x.mul (powerOfTen e) else if x.rank = 0 then some x else none

/-- The magnitude of the significand with the whole exponent applied. -/
def scaled (significand : Nat) (exponent : Int) : Option Magnitude :=
  (Magnitude.ofNat significand).bind fun x =>
    if exponent < 0 then some (scaleDown x exponent.natAbs) else scaleUp x exponent.natAbs

/-- The exponent of ten that the digits and the written exponent give together. -/
def wholeExponent (n : NumberText) : Int :=
  match n.stage with
  | .exponent value => if n.exponentNegative then n.exponent - value else n.exponent + value
  | _ => n.exponent

/-- The number as a binary64 number; `none` where it would be infinite. -/
def toReal (n : NumberText) : Option Number :=
  (scaled n.significand n.wholeExponent).map fun x => .real ⟨n.negative, x⟩

/-- The number as an integer of 64 bits, or as a binary64 number if it does not fit or is a
negative zero. -/
def toInteger (n : NumberText) : Option Number :=
  let value : Int := if n.negative then -n.significand else n.significand
  if h : Number.InRange value then
    if n.negative && n.significand = 0 then n.toReal else some (.integer value h)
  else n.toReal

/-- The value of a number that has been read; `none` where it would be infinite. -/
def value? (n : NumberText) : Option Number :=
  match n.stage with
  | .zero | .integer => n.toInteger
  | .vanished => some (.real ⟨n.negative, .zero⟩)
  | _ => n.toReal

end NumberText

end DocSchema
