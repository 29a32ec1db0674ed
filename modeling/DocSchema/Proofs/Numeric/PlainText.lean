import DocSchema.Numeric.Layout
import DocSchema.Proofs.Numeric.ReadBack
import Mathlib.Data.List.TakeWhile

/-!
# Plain notation reads back

A decimal in plain notation can be read again: its digits without the point are a number, and the
digits behind the point say by which power of ten it is divided (`value_of_positionalText`). As the
shortest decimal of a magnitude lies in the cell of no other, no two binary64 numbers are written
alike (`text_injective`); the two zeros differ in their signs.
-/

namespace DocSchema.Numeric

/-- The digits of a text in plain notation, as a number. -/
def textDigits (text : List Char) : Nat := Nat.ofDigitChars 10 (text.filter (· != '.')) 0

/-- How many digits stand behind the point of a text. -/
def textFraction (text : List Char) : Nat := (text.dropWhile (· != '.')).length - 1

/-- The number that a text in plain notation denotes. -/
def textValue (text : List Char) : Rat := textDigits text / 10 ^ textFraction text

section Points

variable {front back : List Char}

/-- A text without a point has no fraction. -/
theorem textValue_of_notMem (h : '.' ∉ front) : textValue front = Nat.ofDigitChars 10 front 0 := by
  have hkept : front.filter (· != '.') = front :=
    List.filter_eq_self.2 fun c hc => by simpa using ne_of_mem_of_not_mem hc h
  have hdropped : front.dropWhile (· != '.') = [] :=
    List.dropWhile_eq_nil_iff.2 fun c hc => by simpa using ne_of_mem_of_not_mem hc h
  rw [textValue, textDigits, textFraction, hkept, hdropped]
  simp

/-- A text with one point is divided by a power of ten for the digits behind it. -/
theorem textValue_append (hfront : '.' ∉ front) (hback : '.' ∉ back) :
    textValue (front ++ '.' :: back) = Nat.ofDigitChars 10 (front ++ back) 0 / 10 ^ back.length := by
  have hall : ∀ c ∈ front ++ back, (c != '.') = true := by
    intro c hc
    rcases List.mem_append.1 hc with hc | hc
    · simpa using ne_of_mem_of_not_mem hc hfront
    · simpa using ne_of_mem_of_not_mem hc hback
  have hkept : (front ++ '.' :: back).filter (· != '.') = front ++ back := by
    rw [List.filter_append, List.filter_cons_of_neg (by simp), ← List.filter_append,
      List.filter_eq_self.2 hall]
  have hdropped : (front ++ '.' :: back).dropWhile (· != '.') = '.' :: back := by
    rw [List.dropWhile_append_of_pos fun c hc => hall c (List.mem_append_left _ hc)]
    exact List.dropWhile_cons_of_neg (by simp)
  rw [textValue, textDigits, textFraction, hkept, hdropped, List.length_cons, Nat.add_sub_cancel]

end Points

section Notation

variable {digits : List Char} {leading : Int}

/-- Zeros stand between the point and the first digit of a number below one. -/
theorem positionalText_of_neg (h : leading < 0) : plainLayout.positionalText digits leading =
    ['0', '.'] ++ List.replicate (-leading - 1).toNat '0' ++ digits := by
  rw [DecimalLayout.positionalText, if_pos h]

/-- Zeros stand behind the last digit of a whole number. -/
theorem positionalText_of_le (h : 0 ≤ leading) (hle : digits.length ≤ leading.toNat + 1) :
    plainLayout.positionalText digits leading =
      digits ++ List.replicate (leading.toNat + 1 - digits.length) '0' := by
  rw [DecimalLayout.positionalText, if_neg (by omega)]
  simp [hle, plainLayout]

/-- A point stands between the digits of any other number. -/
theorem positionalText_of_lt (h : 0 ≤ leading) (hlt : leading.toNat + 1 < digits.length) :
    plainLayout.positionalText digits leading =
      digits.take (leading.toNat + 1) ++ '.' :: digits.drop (leading.toNat + 1) := by
  rw [DecimalLayout.positionalText, if_neg (by omega)]
  simp [Nat.not_le.2 hlt]

end Notation

/-- Digits are no point and no sign. -/
theorem Decimal.notMem_digits (d : Decimal) {c : Char} (hc : c.isDigit = false) : c ∉ d.digits := by
  intro hmem
  have hdigit := Nat.isDigit_of_mem_toDigits (by decide) (by decide) hmem
  simp [hc] at hdigit

/-- Plain notation of a decimal denotes its value. -/
theorem textValue_positionalText (d : Decimal) :
    textValue (plainLayout.positionalText d.digits d.leading) = d.value := by
  have hdigits : Nat.ofDigitChars 10 d.digits 0 = d.coefficient := Nat.ofDigitChars_ten_toDigits
  have hpoint : '.' ∉ d.digits := d.notMem_digits (by decide)
  have hzeros : ∀ n, '.' ∉ List.replicate n '0' :=
    fun n h => by simpa using List.eq_of_mem_replicate h
  have hlength : 0 < d.digits.length := Nat.length_toDigits_pos
  have hleading : d.leading = d.power + d.digits.length - 1 := rfl
  rw [Decimal.value]
  by_cases hneg : d.leading < 0
  · obtain ⟨zeros, hcount⟩ : ∃ zeros, (-d.leading - 1).toNat = zeros := ⟨_, rfl⟩
    have hpower : d.power = -(zeros + d.digits.length : Nat) := by omega
    have hback : '.' ∉ List.replicate zeros '0' ++ d.digits := by simp [hzeros, hpoint]
    have htext : ['0', '.'] ++ List.replicate zeros '0' ++ d.digits =
        List.replicate 1 '0' ++ '.' :: (List.replicate zeros '0' ++ d.digits) := by simp
    have hnumber : Nat.ofDigitChars 10
        (List.replicate 1 '0' ++ (List.replicate zeros '0' ++ d.digits)) 0 = d.coefficient := by
      rw [Nat.ofDigitChars_append, Nat.ofDigitChars_append, Nat.ofDigitChars_replicate_zero,
        Nat.ofDigitChars_replicate_zero, Nat.mul_zero, hdigits]
    rw [positionalText_of_neg hneg, hcount, htext, textValue_append (hzeros 1) hback, hnumber,
      hpower, zpow_neg, zpow_natCast, div_eq_mul_inv, List.length_append, List.length_replicate]
  · obtain ⟨whole, hwhole⟩ : ∃ whole, d.leading.toNat + 1 = whole := ⟨_, rfl⟩
    by_cases hle : d.digits.length ≤ whole
    · have hpower : d.power = (whole - d.digits.length : Nat) := by omega
      have htext : '.' ∉ d.digits ++ List.replicate (whole - d.digits.length) '0' := by
        simp [hzeros, hpoint]
      rw [positionalText_of_le (by omega) (hwhole ▸ hle), hwhole, textValue_of_notMem htext,
        Nat.ofDigitChars_append, Nat.ofDigitChars_replicate_zero, hdigits, hpower, zpow_natCast]
      push_cast
      ring
    · have hpower : d.power = -((d.digits.length - whole : Nat) : Int) := by omega
      have hfront : '.' ∉ d.digits.take whole := fun h => hpoint (List.mem_of_mem_take h)
      have hback : '.' ∉ d.digits.drop whole := fun h => hpoint (List.mem_of_mem_drop h)
      rw [positionalText_of_lt (by omega) (by omega), hwhole, textValue_append hfront hback,
        List.take_append_drop, hdigits, List.length_drop, hpower, zpow_neg, zpow_natCast,
        div_eq_mul_inv]

/-- Plain notation has no sign. -/
theorem minus_notMem_positionalText (d : Decimal) :
    '-' ∉ plainLayout.positionalText d.digits d.leading := by
  have hdigits : '-' ∉ d.digits := d.notMem_digits (by decide)
  have hzeros : ∀ n, '-' ∉ List.replicate n '0' :=
    fun n h => by simpa using List.eq_of_mem_replicate h
  by_cases hneg : d.leading < 0
  · simp [positionalText_of_neg hneg, hdigits, hzeros]
  · by_cases hle : d.digits.length ≤ d.leading.toNat + 1
    · simp [positionalText_of_le (by omega) hle, hdigits, hzeros]
    · have htake : '-' ∉ d.digits.take (d.leading.toNat + 1) :=
        fun h => hdigits (List.mem_of_mem_take h)
      have hdrop : '-' ∉ d.digits.drop (d.leading.toNat + 1) :=
        fun h => hdigits (List.mem_of_mem_drop h)
      simp [positionalText_of_lt (by omega) (Nat.lt_of_not_le hle), htake, hdrop]

namespace Magnitude

/-- The shortest decimals of two magnitudes differ. -/
theorem value_shortest_injective (tie : Tie) :
    Function.Injective fun x : Magnitude => (x.shortest tie).value := by
  intro x y hvalue
  have hzero : ∀ z : Magnitude, z.rank = 0 → (z.shortest tie).value = 0 := by
    intro z hz
    rw [shortest, if_pos hz]
    simp [Decimal.value]
  have hpositive : ∀ z : Magnitude, z.rank ≠ 0 → (z.shortest tie).value ≠ 0 := by
    intro z hz hvalue
    obtain ⟨hstart, -⟩ := (inCell_shortest tie hz).between
    rw [Decimal.point, hvalue, mul_zero] at hstart
    have hedge : 0 < edge (z.rank - 1) := Nat.mul_pos (by omega) (twoTo_pos _)
    have hcast : (0 : Rat) < edge (z.rank - 1) := by exact_mod_cast hedge
    linarith
  have hsame : (x.shortest tie).value = (y.shortest tie).value := hvalue
  by_cases hx : x.rank = 0
  · by_cases hy : y.rank = 0
    · rw [(eq_zero_iff x).2 hx, (eq_zero_iff y).2 hy]
    · exact absurd (hsame ▸ hzero x hx) (hpositive y hy)
  · by_cases hy : y.rank = 0
    · exact absurd (hsame ▸ hzero y hy) (hpositive x hx)
    · have hcell := inCell_shortest tie hx
      rw [Decimal.point, hsame, ← Decimal.point] at hcell
      exact eq_of_inCell hcell (inCell_shortest tie hy)

end Magnitude

/-- The text of a binary64 number in plain notation. -/
theorem toList_text (x : Binary64) : (plainLayout.text x).toList =
    (if x.negative then ['-'] else []) ++ plainLayout.positionalText
      (x.magnitude.shortest .up).digits (x.magnitude.shortest .up).leading := by
  rw [DecimalLayout.text, String.toList_ofList]
  rfl

/-- The text of a number has a minus sign if and only if the number does. -/
theorem minus_mem_text_iff (x : Binary64) :
    '-' ∈ (plainLayout.text x).toList ↔ x.negative = true := by
  have hplain := minus_notMem_positionalText (x.magnitude.shortest .up)
  rw [toList_text]
  cases x.negative <;> simp [hplain]

/-- No two binary64 numbers are written alike in plain notation. -/
theorem text_injective : Function.Injective plainLayout.text := by
  intro x y htext
  have hsign : x.negative = y.negative := by
    rw [Bool.eq_iff_iff, ← minus_mem_text_iff, ← minus_mem_text_iff, htext]
  have hlists := congrArg String.toList htext
  rw [toList_text, toList_text, hsign, List.append_cancel_left_eq] at hlists
  have hvalue := congrArg textValue hlists
  rw [textValue_positionalText, textValue_positionalText] at hvalue
  have hmagnitude : x.magnitude = y.magnitude := Magnitude.value_shortest_injective .up hvalue
  cases x
  cases y
  rw [Binary64.mk.injEq]
  exact ⟨hsign, hmagnitude⟩

end DocSchema.Numeric
