import Mathlib
import Targeting.Proofs.Binary64.ReadBack

namespace Targeting

theorem Text.toDigits_mul_pow {n : Nat} (hn : 0 < n) (zeros : Nat) :
    Nat.toDigits 10 (n * 10 ^ zeros) = Nat.toDigits 10 n ++ List.replicate zeros '0' := by
  induction zeros with
  | zero => simp
  | succ zeros ih =>
    have hzero : Nat.toDigits 10 0 = ['0'] := Nat.toDigits_zero 10
    rw [List.replicate_succ', ← List.append_assoc, ← ih, ← hzero,
      Nat.toDigits_append_toDigits (by omega) (by positivity) (by omega)]
    congr 1
    ring

namespace Binary64

-- Below `2 ^ 53` every integer is a number of its own, and no larger one rounds to it.
theorem eq_of_units_ofUnits {negative : Bool} {m n : Nat} (hn : n < 2 ^ 53)
    (hfinite : (ofUnits negative (m * unitsPerOne) 1).isFinite = true)
    (h : (ofUnits negative (m * unitsPerOne) 1).units = n * unitsPerOne) : m = n := by
  obtain ⟨k, -, hone⟩ := unitsPerOne_eq
  have hshift := shift_cases (m * unitsPerOne)
  rw [units_ofUnits negative hfinite] at h
  rw [hone] at h hshift
  generalize Nat.log2 (m * 2 ^ k) - 52 = s at h hshift
  rcases Nat.lt_or_ge k s with hs | hs
  · have hlower : 2 ^ 52 ≤ nearest (m * 2 ^ k) (2 ^ s) := by
      have := nearest_ge (m * 2 ^ k) (2 ^ s)
      omega
    have hlarge : 2 ^ 53 * 2 ^ k ≤ n * 2 ^ k := by
      calc
        2 ^ 53 * 2 ^ k = 2 ^ 52 * 2 ^ (k + 1) := by ring
        _ ≤ 2 ^ 52 * 2 ^ s := Nat.mul_le_mul_left _ (Nat.pow_le_pow_right (by omega) hs)
        _ ≤ nearest (m * 2 ^ k) (2 ^ s) * 2 ^ s := Nat.mul_le_mul_right _ hlower
        _ = n * 2 ^ k := h
    exact absurd (Nat.le_of_mul_le_mul_right hlarge (by positivity)) (by omega)
  · have hsplit : m * 2 ^ k = m * 2 ^ (k - s) * 2 ^ s := by
      rw [Nat.mul_assoc, ← Nat.pow_add, Nat.sub_add_cancel hs]
    have hmod : m * 2 ^ k % 2 ^ s = 0 := by
      rw [hsplit]
      exact Nat.mul_mod_left _ _
    rw [nearest_of_mod (by positivity) hmod,
      Nat.div_mul_cancel (Nat.dvd_of_mod_eq_zero hmod)] at h
    exact Nat.eq_of_mul_eq_mul_right (by positivity) h

section Shortest

variable {x : Binary64} {n : Nat}

theorem decimalScale_units (hunits : x.units = n * unitsPerOne) (hn : n ≠ 0) :
    decimalScale x.units unitsPerOne = (Nat.toDigits 10 n).length := by
  rw [decimalScale, hunits, if_pos (Nat.le_mul_of_pos_left _ (Nat.pos_of_ne_zero hn)),
    Nat.mul_div_cancel _ unitsPerOne_pos]

theorem exponent_of_neighbourOf? {num den : Nat} {exponent : Int} {d : Decimal}
    (h : x.neighbourOf? num den exponent = some d) : d.exponent = exponent := by
  rw [neighbourOf?] at h
  split at h
  next =>
    split at h <;> cases h <;> rfl
  next => cases h; rfl
  next => cases h; rfl
  next => cases h

-- The digits of an integer read back as the integer.
theorem isSome_readsBackAt? (hfinite : x.isFinite = true) (hunits : x.units = n * unitsPerOne)
    (hn : n ≠ 0) : (x.readsBackAt? (Nat.toDigits 10 n).length).isSome = true := by
  have hdiv : x.units / unitsPerOne = n := by rw [hunits, Nat.mul_div_cancel _ unitsPerOne_pos]
  have hread : ofDecimal x.negative ⟨n, 0⟩ = x := by
    simp only [ofDecimal, overPower, hn, if_false]
    rw [if_neg (by omega), if_neg (by omega), if_pos (by omega)]
    simp only [neg_zero, Int.toNat_zero, Nat.pow_eq, Nat.pow_zero, Nat.mul_one]
    rw [← hunits, ofUnits_units hfinite]
  rw [readsBackAt?, decimalScale_units hunits hn, Int.sub_self, overPower, if_pos (by omega)]
  simp only [Int.toNat_zero, Nat.pow_eq, Nat.pow_zero, Nat.mul_one]
  rw [neighbourOf?, hdiv]
  simp only [hread, beq_self_eq_true]
  cases ofDecimal x.negative ⟨n + 1, 0⟩ == x <;> rfl

-- No decimal that is printed for an integer has more digits than the integer.
theorem exponent_shortest (hfinite : x.isFinite = true) (hunits : x.units = n * unitsPerOne)
    (hzero : x.isZero = false) (hn : n ≠ 0) (hsmall : n < 2 ^ 53) : 0 ≤ x.shortest.exponent := by
  have hlength : (Nat.toDigits 10 n).length ≤ 17 :=
    (Nat.length_toDigits_le_iff (by omega) (by omega)).mpr (by omega)
  have hpos : 0 < (Nat.toDigits 10 n).length := Nat.length_toDigits_pos
  have hsome := isSome_readsBackAt? hfinite hunits hn
  have hscale := decimalScale_units hunits hn
  generalize (Nat.toDigits 10 n).length = length at hlength hpos hsome hscale
  rw [shortest, hzero, if_neg Bool.false_ne_true]
  cases hfind : (List.range 17).findSome? fun n => readsBackAt? x (n + 1) with
  | none =>
    have hnone := List.findSome?_eq_none_iff.mp hfind (length - 1) (List.mem_range.mpr (by omega))
    rw [Nat.sub_add_cancel hpos] at hnone
    rw [hnone] at hsome
    cases hsome
  | some d =>
    obtain ⟨before, first, after, hrange, hfirst, hbefore⟩ := List.findSome?_eq_some_iff.mp hfind
    have hexponent : d.exponent = length - ((first + 1 : Nat) : Int) := by
      rw [exponent_of_neighbourOf? hfirst, hscale]
    have hmem : length - 1 ∈ before ++ first :: after := hrange ▸ List.mem_range.mpr (by omega)
    have hordered := @List.pairwise_lt_range 17
    rw [hrange, List.pairwise_append, List.pairwise_cons] at hordered
    have hle : first ≤ length - 1 := by
      rcases List.mem_append.mp hmem with hmem | hmem
      · have hnone := hbefore _ hmem
        rw [Nat.sub_add_cancel hpos] at hnone
        rw [hnone] at hsome
        cases hsome
      · rcases List.mem_cons.mp hmem with heq | hmem
        · omega
        · exact Nat.le_of_lt (hordered.2.1.1 _ hmem)
    rw [Option.getD_some, hexponent]
    omega

-- Integers below `2 ^ 53` are printed digit by digit.
theorem text_shortest (hfinite : x.isFinite = true) (hunits : x.units = n * unitsPerOne)
    (hzero : x.isZero = false) (hn : n ≠ 0) (hsmall : n < 2 ^ 53) :
    x.shortest.text.toList = Nat.toDigits 10 n := by
  have htext := Decimal.text_of_nonneg (exponent_shortest hfinite hunits hzero hn hsmall)
  have hdigits := digits_shortest_ne_zero hfinite hzero
  rw [← Text.toDigits_mul_pow (Nat.pos_of_ne_zero hdigits)] at htext
  have hread := ofUnits_digits hfinite hzero (by
    rw [htext]
    exact fun c hc => Decimal.isDigit_of_mem_toDigits hc)
  rw [htext, Text.digitsValue_toDigits] at hread
  generalize x.shortest.digits * 10 ^ x.shortest.exponent.toNat = m at htext hread
  rw [htext, @eq_of_units_ofUnits x.negative m n hsmall (by rw [hread]; exact hfinite)
    (by rw [hread]; exact hunits)]

end Shortest

end Binary64

end Targeting
