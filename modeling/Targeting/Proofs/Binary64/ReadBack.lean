import Mathlib
import Targeting.Proofs.Binary64.Integer

namespace Targeting

namespace Decimal

theorem mantissa?_point {whole fraction : List Char} (hwhole : ∀ c ∈ whole, c.isDigit = true)
    (hfraction : ∀ c ∈ fraction, c.isDigit = true) (hne : whole ≠ []) :
    mantissa? (whole ++ '.' :: fraction)
      = some (⟨Text.digitsValue (whole ++ fraction), -(fraction.length : Int)⟩, []) := by
  have hpoint : ('.' :: fraction).head?.any Char.isDigit = false := rfl
  have hend : (fraction ++ []).takeWhile Char.isDigit = fraction :=
    Text.takeWhile_append_of_head hfraction rfl
  have hrest : (fraction ++ []).dropWhile Char.isDigit = [] :=
    Text.dropWhile_append_of_head hfraction rfl
  have hempty : whole.isEmpty = false := by simpa using hne
  rw [List.append_nil] at hend hrest
  rw [mantissa?, Text.takeWhile_append_of_head hwhole hpoint,
    Text.dropWhile_append_of_head hwhole hpoint]
  simp only [hend, hrest, hempty, Bool.false_and, Bool.false_eq_true, if_false]

theorem ofChars?_point {whole fraction : List Char} (hwhole : ∀ c ∈ whole, c.isDigit = true)
    (hfraction : ∀ c ∈ fraction, c.isDigit = true) (hne : whole ≠ []) :
    ofChars? (whole ++ '.' :: fraction)
      = some ⟨Text.digitsValue (whole ++ fraction), -(fraction.length : Int)⟩ := by
  rw [ofChars?, mantissa?_point hwhole hfraction hne]
  rfl

-- A decimal with digits on both sides of a point has the value that its text denotes.
theorem value_point {whole fraction : List Char} (hwhole : ∀ c ∈ whole, c.isDigit = true) :
    (⟨Text.digitsValue (whole ++ fraction), -(fraction.length : Int)⟩ : Decimal).value
      = textValue (whole ++ '.' :: fraction) := by
  rw [textValue_point hwhole, value, zpow_neg, zpow_natCast, div_eq_mul_inv]

end Decimal

namespace Binary64

-- A decimal of fewer digits than places is far below half of the smallest number.
theorem double_lt_of_small {d : Decimal} {num den : Nat} (hden : 0 < den)
    (hvalue : (num : ℚ) / den = d.value * unitsPerOne) (hexponent : d.exponent < 0)
    (hsmall : d.digits.log2 + 1081 < 3 * (-d.exponent).toNat) : 2 * num < den := by
  obtain ⟨places, hplaces⟩ : ∃ places : Nat, d.exponent = -(places : Int) :=
    ⟨(-d.exponent).toNat, by omega⟩
  obtain ⟨k, hk, hone⟩ := unitsPerOne_eq
  rw [hplaces, neg_neg, Int.toNat_natCast] at hsmall
  have hdigits : d.digits * 2 ^ (k + 1) < 10 ^ places := by
    calc
      d.digits * 2 ^ (k + 1) < 2 ^ (d.digits.log2 + 1) * 2 ^ (k + 1) :=
        Nat.mul_lt_mul_of_pos_right Nat.lt_log2_self (by positivity)
      _ = 2 ^ (d.digits.log2 + 1 + (k + 1)) := (Nat.pow_add 2 _ _).symm
      _ ≤ 2 ^ (3 * places) := Nat.pow_le_pow_right (by omega) (by omega)
      _ = 8 ^ places := by rw [Nat.pow_mul]
      _ ≤ 10 ^ places := Nat.pow_le_pow_left (by omega) places
  have hnum : num * 10 ^ places = den * d.digits * 2 ^ k := by
    rw [Decimal.value, hplaces, zpow_neg, zpow_natCast, hone] at hvalue
    have hdenq : (den : ℚ) ≠ 0 := by positivity
    field_simp at hvalue
    exact_mod_cast hvalue
  have hdouble : 2 * num * 10 ^ places < den * 10 ^ places := by
    calc
      2 * num * 10 ^ places = d.digits * 2 ^ (k + 1) * den := by
        rw [Nat.mul_assoc, hnum, Nat.pow_succ]
        ring
      _ < 10 ^ places * den := Nat.mul_lt_mul_of_pos_right hdigits hden
      _ = den * 10 ^ places := Nat.mul_comm _ _
  exact Nat.lt_of_mul_lt_mul_right hdouble

-- Any decimal that is not far too large is rounded, also where the rounding is not computed.
theorem ofDecimal_of_value {negative : Bool} {d : Decimal} {num den : Nat} (hden : 0 < den)
    (hdigits : d.digits ≠ 0) (hexponent : d.exponent ≤ 310)
    (hvalue : (num : ℚ) / den = d.value * unitsPerOne) :
    ofDecimal negative d = ofUnits negative num den := by
  rw [ofDecimal, if_neg hdigits, if_neg (by omega)]
  by_cases hsmall : d.exponent < 0 ∧ d.digits.log2 + 1081 < 3 * (-d.exponent).toNat
  · have hzero : nearestMagnitude num den = 0 :=
      nearestMagnitude_of_lt_half (double_lt_of_small hden hvalue hsmall.1 hsmall.2)
    rw [if_pos hsmall]
    cases negative <;> simp [ofUnits, hzero, negZero, zero, ofMagnitude]
  · have hquotient := overPower_eq (d.digits * unitsPerOne) Nat.one_pos (-d.exponent)
    have hpos := overPower_pos (d.digits * unitsPerOne) Nat.one_pos (-d.exponent)
    rw [if_neg hsmall]
    refine ofUnits_congr hpos hden (hquotient.trans ?_)
    rw [neg_neg, hvalue, Decimal.value]
    push_cast
    ring

-- A decimal of the value of another one reads as the same number.
theorem ofDecimal_eq_of_value {x : Binary64} {d e : Decimal} (hd : ofDecimal x.negative d = x)
    (hfinite : x.isFinite = true) (hzero : x.isZero = false) (hexponent : e.exponent ≤ 310)
    (h : e.value = d.value) : ofDecimal x.negative e = x := by
  obtain ⟨hdigits, num, den, hden, hvalue, hread⟩ := @ofDecimal_eq_ofUnits x.negative d
    (by rw [hd]; exact hfinite) (by rw [hd]; exact hzero)
  have hpower : (10 : ℚ) ^ d.exponent ≠ 0 := zpow_ne_zero _ (by norm_num)
  have hne : e.digits ≠ 0 := by
    intro hempty
    have hnonzero : d.value ≠ 0 := mul_ne_zero (by exact_mod_cast hdigits) hpower
    exact hnonzero (by rw [← h, Decimal.value, hempty, Nat.cast_zero, zero_mul])
  rw [ofDecimal_of_value hden hne hexponent (by rw [hvalue, h]), ← hread, hd]

section Shortest

variable {x : Binary64}

theorem shortest_of_isZero (h : x.isZero = true) : x.shortest = ⟨0, 0⟩ := by
  rw [shortest, h, if_pos rfl]

theorem digits_shortest_ne_zero (hfinite : x.isFinite = true) (hzero : x.isZero = false) :
    x.shortest.digits ≠ 0 := by
  intro h
  exact value_shortest_ne_zero hfinite hzero (by rw [Decimal.value, h, Nat.cast_zero, zero_mul])

-- Text without a point is that of an integer which rounds to the number.
theorem ofUnits_digits (hfinite : x.isFinite = true) (hzero : x.isZero = false)
    (hdigits : ∀ c ∈ x.shortest.text.toList, c.isDigit = true) :
    ofUnits x.negative (Text.digitsValue x.shortest.text.toList * unitsPerOne) 1 = x := by
  have hread := ofDecimal_shortest hfinite hzero
  obtain ⟨-, num, den, hden, hvalue, hunits⟩ := @ofDecimal_eq_ofUnits x.negative x.shortest
    (by rw [hread]; exact hfinite) (by rw [hread]; exact hzero)
  rw [← Decimal.textValue_text, Decimal.textValue_digits hdigits] at hvalue
  conv_rhs => rw [← hread, hunits]
  refine ofUnits_congr Nat.one_pos hden ?_
  rw [hvalue]
  push_cast
  ring

-- Text with a point reads back as the number.
theorem ofChars?_point (hfinite : x.isFinite = true) (hzero : x.isZero = false)
    {whole fraction : List Char} (htext : x.shortest.text.toList = whole ++ '.' :: fraction)
    (hwhole : ∀ c ∈ whole, c.isDigit = true) (hfraction : ∀ c ∈ fraction, c.isDigit = true)
    (hne : whole ≠ []) :
    ofChars? ((if x.negative then ['-'] else []) ++ (whole ++ '.' :: fraction)) = some x := by
  obtain ⟨c, more, rfl⟩ := List.exists_cons_of_ne_nil hne
  have hname (name : String) (h : '.' ∉ name.toList) :
      (String.ofList (((c :: more) ++ '.' :: fraction).map Char.toLower) == name) = false := by
    rw [beq_eq_false_iff_ne]
    rintro rfl
    refine h ?_
    rw [String.toList_ofList]
    exact List.mem_map.mpr ⟨'.', by simp, rfl⟩
  have hread := ofDecimal_eq_of_value (ofDecimal_shortest hfinite hzero) hfinite hzero
    (show -(fraction.length : Int) ≤ 310 by omega)
    (by rw [Decimal.value_point hwhole, ← htext, Decimal.textValue_text])
  rw [ofChars?, List.cons_append, Text.signed_of_digit (hwhole c List.mem_cons_self),
    ← List.cons_append]
  simp only [hname "inf" (by decide), hname "infinity" (by decide), hname "nan" (by decide),
    Bool.or_self, Bool.false_eq_true, if_false]
  rw [Decimal.ofChars?_point hwhole hfraction hne, Option.map_some, hread]

end Shortest

end Binary64

end Targeting
