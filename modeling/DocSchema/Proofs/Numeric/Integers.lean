import DocSchema.Entity.Basic
import DocSchema.Proofs.Numeric.PlainText

/-!
# Integers in plain notation

An integer up to `2 ^ 53` is a binary64 number, and its plain notation is the integer itself: the
search for the shortest decimal ends at a grid of whole numbers, and no other whole number there is
as near (`toDigits_shortest`). So numbers of both sorts are rendered through binary64
(`renderNumber_eq`), and are rendered alike if and only if their nearest binary64 numbers are one
(`renderNumber_eq_iff`).
-/

namespace DocSchema.Numeric

/-- A quotient without remainder is not rounded. -/
theorem roundDiv_mul (tie : Tie) (q : Nat) {den : Nat} (hden : 0 < den) :
    roundDiv tie (q * den) den = q := by
  simp [roundDiv, Nat.mul_div_cancel _ hden, hden]

/-- The binary logarithm of a number of units. -/
theorem log2_mul_twoTo {n : Nat} (hn : n ≠ 0) (m : Nat) :
    Nat.log2 (n * twoTo m) = Nat.log2 n + m := by
  induction m with
  | zero => rw [show twoTo 0 = 1 from rfl, Nat.mul_one, Nat.add_zero]
  | succ m ih =>
    have hpos := Nat.mul_ne_zero hn (twoTo_pos m).ne'
    rw [twoTo_succ, ← Nat.mul_assoc, Nat.mul_comm _ 2, Nat.log2_two_mul hpos, ih, Nat.add_assoc]

/-- A power of ten puts zeros behind the digits of a number. -/
theorem toDigits_mul_tenTo {n : Nat} (hn : 0 < n) (power : Nat) :
    Nat.toDigits 10 (n * tenTo power) = Nat.toDigits 10 n ++ List.replicate power '0' := by
  induction power with
  | zero => simp [tenTo]
  | succ power ih =>
    have hlast := Nat.toDigits_append_toDigits (b := 10) (n := n * tenTo power) (d := 0)
      (by decide) (Nat.mul_pos hn (tenTo_pos power)) (by decide)
    rw [tenTo_succ, ← Nat.mul_assoc, Nat.mul_comm _ 10, ← Nat.add_zero (10 * _), ← hlast, ih,
      Nat.toDigits_zero, List.append_assoc, List.replicate_succ']

namespace Magnitude

/-- A number of units with a significand of 53 bits is a magnitude. -/
theorem exists_ofNat {n significand scale : Nat} (hn : n ≠ 0)
    (hunits : n * twoTo 1074 = significand * twoTo scale) (hscale : scale + 52 = Nat.log2 n + 1074)
    (hleast : twoTo 52 ≤ significand) (hmost : significand < 2 * twoTo 52) (hle : scale ≤ 1075) :
    ∃ x, ofNat n = some x ∧ x.rank ≠ 0 ∧ x.scale = scale ∧ x.significand = significand := by
  have hpower : twoTo 52 = 4503599627370496 := by decide
  have hlog : Nat.log2 (n * twoTo 1074 / 1) - 52 = scale := by
    rw [Nat.div_one, log2_mul_twoTo hn]
    omega
  have hrounded : roundDiv .even (n * twoTo 1074) (1 * twoTo scale) = significand := by
    rw [Nat.one_mul, hunits, roundDiv_mul .even significand (twoTo_pos scale)]
  have hrank : scale * twoTo 52 + significand < magnitudeCount := by
    have hcount : magnitudeCount = 2047 * 4503599627370496 := by decide
    rw [hpower] at hmost ⊢
    omega
  have hofNat : ofNat n = some ⟨scale * twoTo 52 + significand, hrank⟩ := by
    rw [ofNat, ofRatio]
    simp only [hlog, hrounded, hrank, dif_pos]
  refine ⟨_, hofNat, ?_, ?_, ?_⟩
  · simp only
    omega
  · simp only [Magnitude.scale, hpower] at *
    omega
  · simp only [Magnitude.significand, Magnitude.scale, hpower] at *
    omega

/-- A natural number up to `2 ^ 53` is a magnitude, and with a last place above one only if it is
`2 ^ 53`. -/
theorem exists_units {n : Nat} (hn : 0 < n) (hle : n ≤ twoTo 53) :
    ∃ x, ofNat n = some x ∧ x.rank ≠ 0 ∧ x.units = n * twoTo 1074 ∧
      (x.scale ≤ 1074 ∨ x.scale = 1075 ∧ n = twoTo 53) := by
  obtain ⟨bits, hbits⟩ : ∃ bits, Nat.log2 n = bits := ⟨_, rfl⟩
  obtain ⟨hleast, hmost⟩ : twoTo bits ≤ n ∧ n < twoTo (bits + 1) :=
    (Nat.log2_eq_iff hn.ne').1 hbits
  by_cases hsmall : bits ≤ 52
  · have hunits : n * twoTo 1074 = n * twoTo (52 - bits) * twoTo (bits + 1022) := by
      have hsum : 52 - bits + (bits + 1022) = 1074 := by omega
      rw [Nat.mul_assoc, ← twoTo_add, hsum]
    have hbelow : twoTo bits * twoTo (52 - bits) = twoTo 52 := by
      rw [← twoTo_add, Nat.add_sub_cancel' hsmall]
    have habove : twoTo (bits + 1) * twoTo (52 - bits) = 2 * twoTo 52 := by
      rw [twoTo_succ, Nat.mul_comm _ 2, Nat.mul_assoc, hbelow]
    obtain ⟨x, hx, hrank, hscale, hsignificand⟩ := exists_ofNat hn.ne' hunits (by omega)
      (hbelow ▸ Nat.mul_le_mul_right _ hleast)
      (habove ▸ Nat.mul_lt_mul_of_pos_right hmost (twoTo_pos _)) (by omega)
    refine ⟨x, hx, hrank, ?_, .inl (by omega)⟩
    rw [units, hscale, hsignificand, ← hunits]
  · have hlast : n = twoTo 53 := by
      have hgrows : twoTo 53 ≤ twoTo bits := twoTo_le_twoTo (by omega)
      omega
    have hfits : bits = 53 := by
      rw [hlast] at hbits
      exact hbits.symm.trans Nat.log2_two_pow
    have hunits : n * twoTo 1074 = twoTo 52 * twoTo 1075 := by
      rw [hlast, ← twoTo_add, ← twoTo_add]
    obtain ⟨x, hx, hrank, hscale, hsignificand⟩ := exists_ofNat hn.ne' hunits (by omega) le_rfl
      (by decide) le_rfl
    refine ⟨x, hx, hrank, ?_, .inr ⟨hscale, hlast⟩⟩
    rw [units, hscale, hsignificand, hunits]

section Whole

variable {x : Magnitude} {n : Nat}

/-- A magnitude lies in its own cell. -/
theorem inCell_units (hx : x.rank ≠ 0) : x.InCell (4 * x.units : Nat) := by
  obtain ⟨hvalue, hhigh, -, -, hlow⟩ := neighbourhood_bounds hx
  have hunits : 4 * x.units = x.neighbourhood.value * twoTo x.scale := by
    rw [hvalue, units, Nat.mul_assoc]
  have hstart : edge (x.rank - 1) < 4 * x.units := by
    rw [hunits, ← low_neighbourhood hx]
    exact Nat.mul_lt_mul_of_pos_right hlow (twoTo_pos _)
  have hend : 4 * x.units < edge x.rank := by
    rw [hunits, ← high_neighbourhood]
    exact Nat.mul_lt_mul_of_pos_right (by omega) (twoTo_pos _)
  have hstart' : (edge (x.rank - 1) : Rat) < (4 * x.units : Nat) := by exact_mod_cast hstart
  have hend' : ((4 * x.units : Nat) : Rat) < edge x.rank := by exact_mod_cast hend
  rw [InCell]
  split
  · exact ⟨hstart'.le, hend'.le⟩
  · exact ⟨hstart', hend'⟩

/-- The leading exponent of a whole magnitude is that of its number. -/
theorem leadingExponent_of_units (hn : 0 < n) (hunits : x.units = n * twoTo 1074) :
    x.neighbourhood.value * x.neighbourhood.unitNum = n * x.neighbourhood.unitDen ∧
      leadingExponent (x.neighbourhood.value * x.neighbourhood.unitNum) x.neighbourhood.unitDen =
        (Nat.toDigits 10 n).length - 1 := by
  have hvalue : x.neighbourhood.value * x.neighbourhood.unitNum =
      n * x.neighbourhood.unitDen := by
    refine Nat.eq_of_mul_eq_mul_right (twoTo_pos 1074) ?_
    calc x.neighbourhood.value * x.neighbourhood.unitNum * twoTo 1074
        = 4 * x.significand * (twoTo x.scale * twoTo (1074 - x.scale)) := by
          rw [← unitNum_mul, Nat.mul_assoc]
          simp only [neighbourhood]
      _ = 4 * x.units * twoTo (1074 - x.scale) := by
          rw [units]
          ring
      _ = n * x.neighbourhood.unitDen * twoTo 1074 := by
          rw [hunits]
          simp only [neighbourhood]
          ring
  have hden := (unit_pos x).2
  refine ⟨hvalue, ?_⟩
  rw [hvalue, leadingExponent, if_pos (Nat.le_mul_of_pos_left _ hn), Nat.mul_div_cancel _ hden]

/-- A decimal is found for a whole magnitude that is no fraction of ten. -/
theorem exists_whole (hx : x.rank ≠ 0) (hn : 0 < n) (hsmall : n ≤ twoTo 53)
    (hunits : x.units = n * twoTo 1074) (tie : Tie) :
    ∃ d : Decimal, x.InCell d.point ∧ x.shortest tie = d.trim ∧ 0 ≤ d.power ∧
      (d.power = 0 → d = ⟨n, 0⟩) := by
  obtain ⟨hvalue, hleading⟩ := leadingExponent_of_units hn hunits
  have hdigits : 0 < (Nat.toDigits 10 n).length := Nat.length_toDigits_pos
  have hshort : (Nat.toDigits 10 n).length ≤ 16 :=
    (Nat.length_toDigits_le_iff (by decide) (by decide)).2 (hsmall.trans_lt (by decide))
  have hwhole : onGrid tie x.neighbourhood 0 = some ⟨n, 0⟩ := by
    have hnearest : roundDiv tie (x.neighbourhood.value * x.neighbourhood.unitNum * 1)
        (x.neighbourhood.unitDen * 1) = n := by
      rw [hvalue, Nat.mul_one, Nat.mul_one, roundDiv_mul tie n (unit_pos x).2]
    have hpoint : (⟨n, 0⟩ : Decimal).point = (4 * x.units : Nat) := by
      rw [hunits, Decimal.point, Decimal.value]
      push_cast
      ring
    have haccepts : x.neighbourhood.accepts ⟨n, 0⟩ = true := by
      rw [accepts_iff hx, hpoint]
      exact inCell_units hx
    have hten : tenTo (-0 : Int).toNat = 1 ∧ tenTo (0 : Int).toNat = 1 := by decide
    simp only [onGrid, hten.1, hten.2, hnearest, haccepts, if_pos]
  obtain ⟨leading, hlead⟩ : ∃ leading, leadingExponent (x.neighbourhood.value *
      x.neighbourhood.unitNum) x.neighbourhood.unitDen = leading := ⟨_, rfl⟩
  rw [hlead] at hleading
  obtain ⟨d, hsearch, hfound, hpower⟩ : ∃ d, onGrids tie x.neighbourhood 17 leading = some d ∧
      onGrid tie x.neighbourhood d.power = some d ∧ 0 ≤ d.power :=
    exists_onGrids (by rw [hwhole]; rfl) (by omega) (by omega)
  refine ⟨d, (accepts_iff hx d).1 (accepts_of_onGrid hfound).2, ?_, hpower, fun hzero => ?_⟩
  · rw [shortest, if_neg hx]
    simp only [hlead, hsearch, Option.getD_some]
  · rw [hzero, hwhole] at hfound
    exact (Option.some.inj hfound).symm

/-- Whole numbers in the cell of a whole magnitude are less than two apart. -/
theorem near_of_inCell (hx : x.rank ≠ 0) (hunits : x.units = n * twoTo 1074)
    (hscale : x.scale ≤ 1074 ∨ x.scale = 1075 ∧ n = twoTo 53) {m : Nat}
    (hm : x.InCell (4 * twoTo 1074 * m)) :
    m = n ∨ n = twoTo 53 ∧ n ≤ m + 1 ∧ m ≤ n + 1 := by
  obtain ⟨hvalue, hhigh, hlow, -, -⟩ := neighbourhood_bounds hx
  obtain ⟨hstart, hend⟩ := hm.between
  have hstart' : edge (x.rank - 1) ≤ 4 * twoTo 1074 * m := by exact_mod_cast hstart
  have hend' : 4 * twoTo 1074 * m ≤ edge x.rank := by exact_mod_cast hend
  have hcentre : x.neighbourhood.value * twoTo x.scale = 4 * twoTo 1074 * n := by
    rw [hvalue, Nat.mul_assoc, ← units, hunits]
    ring
  have hbefore : x.neighbourhood.value * twoTo x.scale ≤
      edge (x.rank - 1) + 2 * twoTo x.scale := by
    rw [← low_neighbourhood hx, ← Nat.add_mul]
    exact Nat.mul_le_mul_right _ hlow
  have hafter : edge x.rank = x.neighbourhood.value * twoTo x.scale + 2 * twoTo x.scale := by
    rw [← high_neighbourhood, hhigh, Nat.add_mul]
  have hpos := twoTo_pos 1074
  -- Numbers that are `k` apart have points that are `4 * k * twoTo 1074` apart.
  have hapart : ∀ {a b k : Nat}, a + k ≤ b →
      4 * twoTo 1074 * a + 4 * (k * twoTo 1074) ≤ 4 * twoTo 1074 * b := by
    intro a b k h
    calc 4 * twoTo 1074 * a + 4 * (k * twoTo 1074) = 4 * twoTo 1074 * (a + k) := by ring
      _ ≤ 4 * twoTo 1074 * b := Nat.mul_le_mul_left _ h
  rcases hscale with hscale | ⟨hscale, hlast⟩
  · have hle : twoTo x.scale ≤ twoTo 1074 := twoTo_le_twoTo hscale
    left
    by_contra hne
    rcases Nat.lt_or_gt_of_ne hne with hlt | hgt
    · have := hapart (k := 1) (Nat.succ_le_of_lt hlt)
      omega
    · have := hapart (k := 1) (Nat.succ_le_of_lt hgt)
      omega
  · have hdouble : twoTo x.scale = twoTo 1074 * 2 := by rw [hscale, twoTo_succ]
    refine .inr ⟨hlast, ?_, ?_⟩
    · by_contra hlt
      have := hapart (k := 2) (show m + 2 ≤ n by omega)
      omega
    · by_contra hgt
      have := hapart (k := 2) (show n + 2 ≤ m by omega)
      omega

/-- The shortest decimal of a whole magnitude is a whole number, and its own. -/
theorem shortest_whole (hx : x.rank ≠ 0) (hn : 0 < n) (hsmall : n ≤ twoTo 53)
    (hunits : x.units = n * twoTo 1074)
    (hscale : x.scale ≤ 1074 ∨ x.scale = 1075 ∧ n = twoTo 53) (tie : Tie) :
    ∃ power : Nat, (x.shortest tie).power = power ∧
      (x.shortest tie).coefficient * tenTo power = n := by
  obtain ⟨d, hcell, hshortest, hpower, hexact⟩ := exists_whole hx hn hsmall hunits tie
  obtain ⟨power, hnat⟩ := Int.eq_ofNat_of_zero_le hpower
  have hvalue : d.value = (d.coefficient * tenTo power : Nat) := by
    rw [Decimal.value, hnat, zpow_natCast, Nat.cast_mul, cast_tenTo]
  have hnumber : d.coefficient * tenTo power = n := by
    cases power with
    | zero =>
      rw [hexact hnat]
      exact Nat.mul_one n
    | succ power =>
      rw [Decimal.point, hvalue] at hcell
      rcases near_of_inCell hx hunits hscale hcell with heq | ⟨hlast, hbelow, habove⟩
      · exact heq
      · -- No multiple of ten is next to `2 ^ 53`.
        have hpower53 : twoTo 53 = 9007199254740992 := by decide
        rw [tenTo_succ, ← Nat.mul_assoc] at hbelow habove
        omega
  have htrimmed : (d.trim).value = n := by rw [Decimal.value_trim, hvalue, hnumber]
  obtain ⟨trimmed, htrim⟩ : ∃ trimmed : Nat, d.trim.power = trimmed := by
    refine Int.eq_ofNat_of_zero_le ?_
    rw [Decimal.trim]
    split
    · exact le_rfl
    · exact hpower.trans (Decimal.power_le_trimWithin _ d)
  refine ⟨trimmed, hshortest ▸ htrim, ?_⟩
  rw [Decimal.value, htrim, zpow_natCast, ← Nat.cast_ofNat, ← Nat.cast_pow, ← Nat.cast_mul,
    Nat.cast_inj] at htrimmed
  rw [hshortest]
  exact htrimmed

end Whole

/-- A natural number up to `2 ^ 53` is written as itself in plain notation. -/
theorem positionalText_ofNat {n : Nat} (hsmall : n ≤ twoTo 53) :
    plainLayout.positionalText (((ofNat n).getD .zero).shortest .up).digits
      (((ofNat n).getD .zero).shortest .up).leading = Nat.toDigits 10 n := by
  by_cases hzero : n = 0
  · have hofNat : ofNat 0 = some zero := by
      simp only [ofNat, ofRatio, Nat.zero_mul, Nat.zero_div]
      rfl
    rw [hzero, hofNat]
    rfl
  · have hn : 0 < n := Nat.pos_of_ne_zero hzero
    obtain ⟨x, hx, hrank, hunits, hscale⟩ := exists_units hn hsmall
    obtain ⟨power, hpower, hnumber⟩ := shortest_whole hrank hn hsmall hunits hscale .up
    rw [hx, Option.getD_some]
    generalize x.shortest .up = d at *
    have hcoefficient : 0 < d.coefficient := by
      by_contra hnone
      rw [Nat.eq_zero_of_not_pos hnone] at hnumber
      omega
    have hdigits : 0 < d.digits.length := Nat.length_toDigits_pos
    have hleading : d.leading = d.power + d.digits.length - 1 := rfl
    have hzeros : d.leading.toNat + 1 - d.digits.length = power := by omega
    rw [positionalText_of_le (by omega) (by omega), hzeros, ← hnumber,
      toDigits_mul_tenTo hcoefficient]
    rfl

end Magnitude

end DocSchema.Numeric

namespace DocSchema

open Numeric

/-- A number of either sort is rendered as its nearest binary64 number is written. -/
theorem renderNumber_eq (n : Number) : renderNumber n = plainLayout.text n.toBinary64 := by
  cases n with
  | real value => rfl
  | integer value inRange =>
    rw [renderNumber]
    split
    · next hsmall =>
      rw [← String.toList_inj, toList_text, Number.toBinary64,
        Magnitude.positionalText_ofNat hsmall, Int.toString_eq_repr, Int.repr_eq_if]
      by_cases hneg : value < 0
      · have habs : (-value).toNat = value.natAbs := by omega
        simp [hneg, Int.not_le.2 hneg, habs, Nat.toList_repr]
      · have habs : value.toNat = value.natAbs := by omega
        simp [hneg, Int.not_lt.1 hneg, habs, Nat.toList_repr]
    · rfl

/-- Two numbers are rendered alike if and only if their nearest binary64 numbers are one. -/
theorem renderNumber_eq_iff {n m : Number} :
    renderNumber n = renderNumber m ↔ n.toBinary64 = m.toBinary64 := by
  rw [renderNumber_eq, renderNumber_eq]
  exact text_injective.eq_iff

/-- Integers up to `2 ^ 53` with one nearest binary64 number are one. -/
theorem Number.eq_of_toBinary64_eq {a b : Int} {ha : InRange a} {hb : InRange b}
    (hasmall : a.natAbs ≤ twoTo 53) (hbsmall : b.natAbs ≤ twoTo 53)
    (h : (integer a ha).toBinary64 = (integer b hb).toBinary64) : a = b := by
  obtain ⟨hsign, hmagnitude⟩ := Binary64.mk.inj h
  have hdigits := Magnitude.positionalText_ofNat hasmall
  rw [hmagnitude, Magnitude.positionalText_ofNat hbsmall] at hdigits
  have hvalue := congrArg (Nat.ofDigitChars 10 · 0) hdigits
  simp only [Nat.ofDigitChars_ten_toDigits] at hvalue
  have hneg : a < 0 ↔ b < 0 := by simpa using hsign
  omega

end DocSchema
