/-!
# Rounding a quotient to a natural number

`roundDiv` divides and rounds to the nearest natural number; a quotient half way between two goes
where the tie rule says. `roundDiv_le` and `le_roundDiv` bound the result by half a unit on either
side.
-/

namespace DocSchema.Numeric

/-- Where a value half way between two neighbours goes. -/
inductive Tie where
  /-- To the even neighbour. -/
  | even
  /-- To the greater neighbour. -/
  | up
deriving Repr, DecidableEq

/-- The tie goes to the greater of `q` and `q + 1`. -/
def Tie.goesUp (tie : Tie) (q : Nat) : Bool :=
  match tie with
  | .even => q % 2 == 1
  | .up => true

/-- The quotient `num / den`, rounded to the nearest natural number. -/
def roundDiv (tie : Tie) (num den : Nat) : Nat :=
  let quotient := num / den
  let twice := 2 * (num % den)
  if twice < den then quotient
  else if den < twice then quotient + 1
  else if tie.goesUp quotient then quotient + 1 else quotient

/-- The rounded quotient is the floor or its successor. -/
theorem roundDiv_eq_or (tie : Tie) (num den : Nat) :
    roundDiv tie num den = num / den ∨ roundDiv tie num den = num / den + 1 := by
  simp only [roundDiv]
  by_cases hlt : 2 * (num % den) < den
  · simp [hlt]
  · by_cases hgt : den < 2 * (num % den)
    · simp [hlt, hgt]
    · cases htie : tie.goesUp (num / den) <;> simp [hlt, hgt]

/-- The rounded quotient exceeds the quotient by half a unit at most. -/
theorem roundDiv_le (tie : Tie) (num den : Nat) :
    2 * (roundDiv tie num den * den) ≤ 2 * num + den := by
  have hdiv := Nat.div_add_mod num den
  rw [Nat.mul_comm den] at hdiv
  have hup := Nat.add_one_mul (num / den) den
  simp only [roundDiv]
  by_cases hlt : 2 * (num % den) < den
  · simp only [hlt, if_true]
    omega
  · simp only [hlt, if_false]
    split
    · omega
    · split <;> omega

/-- The rounded quotient falls short of the quotient by half a unit at most. -/
theorem le_roundDiv (tie : Tie) (num den : Nat) (hden : 0 < den) :
    2 * num ≤ 2 * (roundDiv tie num den * den) + den := by
  have hdiv := Nat.div_add_mod num den
  have hmod := Nat.mod_lt num hden
  rw [Nat.mul_comm den] at hdiv
  have hup := Nat.add_one_mul (num / den) den
  simp only [roundDiv]
  by_cases hlt : 2 * (num % den) < den
  · simp only [hlt, if_true]
    omega
  · simp only [hlt, if_false]
    split
    · omega
    · split <;> omega

end DocSchema.Numeric
