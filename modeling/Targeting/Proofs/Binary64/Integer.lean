import Mathlib
import Targeting.Proofs.Binary64.Text
import Targeting.Value.Key

namespace Targeting.Binary64

section Rounding

theorem nearest_ge (num den : Nat) : num / den ≤ nearest num den := by
  unfold nearest
  dsimp only
  split
  · omega
  · split
    · omega
    · split <;> omega

theorem nearest_le_succ (num den : Nat) : nearest num den ≤ num / den + 1 := by
  unfold nearest
  dsimp only
  split
  · omega
  · split
    · omega
    · split <;> omega

theorem nearest_of_mod {num den : Nat} (hden : 0 < den) (h : num % den = 0) :
    nearest num den = num / den := by
  unfold nearest
  simp [h, hden]

-- Less than half of the smallest number rounds to zero.
theorem nearestMagnitude_of_lt_half {num den : Nat} (h : 2 * num < den) :
    nearestMagnitude num den = 0 := by
  have hzero : num / den = 0 := Nat.div_eq_of_lt (by omega)
  have hnearest : nearest num den = 0 := by
    unfold nearest
    rw [Nat.mod_eq_of_lt (by omega), hzero]
    simp [h]
  rw [nearestMagnitude, hzero]
  simp [hnearest]

variable {u : Nat}

theorem shift_cases (u : Nat) :
    (Nat.log2 u - 52 = 0 ∧ u < 2 ^ 53) ∨
      (2 ^ 52 ≤ u / 2 ^ (Nat.log2 u - 52) ∧ u / 2 ^ (Nat.log2 u - 52) < 2 ^ 53) := by
  rcases Nat.eq_zero_or_pos u with rfl | hpos
  · exact .inl ⟨rfl, by omega⟩
  have hlower : 2 ^ Nat.log2 u ≤ u := Nat.log2_self_le (by omega)
  have hupper : u < 2 ^ (Nat.log2 u + 1) := Nat.lt_log2_self
  by_cases hlog : 52 < Nat.log2 u
  · right
    generalize hs : Nat.log2 u - 52 = s
    have hsum : Nat.log2 u = 52 + s := by omega
    rw [hsum, Nat.pow_add] at hlower
    rw [hsum, Nat.add_right_comm, Nat.pow_add] at hupper
    exact ⟨(Nat.le_div_iff_mul_le (by positivity)).mpr hlower,
      (Nat.div_lt_iff_lt_mul (by positivity)).mpr hupper⟩
  · left
    refine ⟨by omega, hupper.trans_le ?_⟩
    exact Nat.pow_le_pow_right (by omega) (by omega)

theorem nearestMagnitude_one (u : Nat) :
    nearestMagnitude u 1 = min infiniteMagnitude
      ((Nat.log2 u - 52) * exponentUnit + nearest u (2 ^ (Nat.log2 u - 52))) := by
  rw [nearestMagnitude, Nat.div_one, Nat.one_shiftLeft]

theorem magnitude_ofUnits (negative : Bool) (hfinite : (ofUnits negative u 1).isFinite = true) :
    (ofUnits negative u 1).magnitude
      = (Nat.log2 u - 52) * exponentUnit + nearest u (2 ^ (Nat.log2 u - 52)) := by
  have hone : (ofUnits negative u 1).magnitude = _ := nearestMagnitude_one u
  simp only [isFinite, decide_eq_true_eq] at hfinite
  omega

-- Rounding may carry into the next power of two.
theorem nearest_cases (u : Nat) :
    (Nat.log2 u - 52 = 0 ∧ nearest u (2 ^ (Nat.log2 u - 52)) < 2 ^ 53) ∨
      (2 ^ 52 ≤ nearest u (2 ^ (Nat.log2 u - 52)) ∧
        nearest u (2 ^ (Nat.log2 u - 52)) ≤ 2 ^ 53) := by
  have hge := nearest_ge u (2 ^ (Nat.log2 u - 52))
  have hle := nearest_le_succ u (2 ^ (Nat.log2 u - 52))
  rcases shift_cases u with ⟨hzero, hsmall⟩ | ⟨hlower, hupper⟩
  · left
    rw [hzero, Nat.pow_zero, nearest_of_mod Nat.one_pos (Nat.mod_one u), Nat.div_one]
    exact ⟨rfl, hsmall⟩
  · right
    omega

-- The units of what an integer number of units is rounded to.
theorem units_ofUnits (negative : Bool) (hfinite : (ofUnits negative u 1).isFinite = true) :
    (ofUnits negative u 1).units
      = nearest u (2 ^ (Nat.log2 u - 52)) * 2 ^ (Nat.log2 u - 52) := by
  have hq := nearest_cases u
  rw [units, magnitude_ofUnits negative hfinite]
  generalize nearest u (2 ^ (Nat.log2 u - 52)) = q at hq ⊢
  generalize Nat.log2 u - 52 = s at hq ⊢
  unfold exponentUnit
  rcases hq with ⟨rfl, hq⟩ | ⟨hlower, hupper⟩
  · have hshift : q / 4503599627370496 - 1 = 0 := by omega
    rw [Nat.zero_mul, Nat.zero_add, hshift, Nat.zero_mul, Nat.sub_zero, Nat.shiftLeft_zero,
      Nat.pow_zero, Nat.mul_one]
  -- a carry gives the first number with the next exponent, which has the same units
  · by_cases hcarry : q = 2 ^ 53
    · have hshift : (s * 4503599627370496 + q) / 4503599627370496 - 1 = s + 1 := by omega
      have hrest : s * 4503599627370496 + q - (s + 1) * 4503599627370496 = 2 ^ 52 := by omega
      rw [hshift, hrest, hcarry, Nat.shiftLeft_eq, Nat.pow_succ]
      ring
    · have hshift : (s * 4503599627370496 + q) / 4503599627370496 - 1 = s := by omega
      have hrest : s * 4503599627370496 + q - s * 4503599627370496 = q := by omega
      rw [hshift, hrest, Nat.shiftLeft_eq]

end Rounding

section Integers

variable {n : Nat} {negative : Bool}

-- The exponent is kept from being evaluated.
theorem unitsPerOne_eq : ∃ k, k = 1074 ∧ unitsPerOne = 2 ^ k := by
  unfold unitsPerOne
  generalize 1074 = k
  exact ⟨k, rfl, Nat.one_shiftLeft k⟩

theorem unitsPerOne_pos : 0 < unitsPerOne := by
  obtain ⟨k, -, hone⟩ := unitsPerOne_eq
  rw [hone]
  positivity

-- What an integer is rounded to is an integer.
theorem units_mod_ofUnits (hfinite : (ofUnits negative (n * unitsPerOne) 1).isFinite = true) :
    (ofUnits negative (n * unitsPerOne) 1).units % unitsPerOne = 0 := by
  obtain ⟨k, -, hone⟩ := unitsPerOne_eq
  rw [units_ofUnits negative hfinite, hone]
  generalize Nat.log2 (n * 2 ^ k) - 52 = s
  rcases Nat.le_total k s with hs | hs
  · exact Nat.mod_eq_zero_of_dvd (Dvd.dvd.mul_left (Nat.pow_dvd_pow 2 hs) _)
  · have hsplit : n * 2 ^ k = n * 2 ^ (k - s) * 2 ^ s := by
      rw [Nat.mul_assoc, ← Nat.pow_add, Nat.sub_add_cancel hs]
    rw [hsplit, nearest_of_mod (by positivity) (Nat.mul_mod_left _ _),
      Nat.mul_div_cancel _ (by positivity), Nat.mul_assoc, ← Nat.pow_add, Nat.sub_add_cancel hs]
    exact Nat.mul_mod_left _ _

theorem ofInt_zero : ofInt 0 = zero := by decide +kernel

theorem ofInt_signed {n : Nat} (negative : Bool) (hn : n ≠ 0) :
    ofInt (if negative then -(n : Int) else n)
      = ofUnits negative (n * unitsPerOne) 1 := by
  have hsign : decide ((if negative then -(n : Int) else n) < 0) = negative := by
    cases negative <;> simp
    omega
  have habs : (if negative then -(n : Int) else n).natAbs = n := by
    cases negative <;> simp
  rw [ofInt, hsign, habs]

end Integers

-- A number of a size for which its digits up to the point are a 64-bit integer.
def FitsInt64 (x : Binary64) : Prop := x.abs < ofInt (2 ^ 63)

instance (x : Binary64) : Decidable x.FitsInt64 := inferInstanceAs (Decidable (_ < _))

section FitsInt64

variable {x : Binary64}

theorem same_zero (h : x.isZero = true) : zero.same x = true := by
  have hmagnitude := magnitude_eq_zero h
  have hnan : x.isNaN = false := by simp [isNaN, hmagnitude]
  have hrank : x.rank = 0 := by simp [rank, hmagnitude]
  exact same_iff.mpr ⟨rfl, hnan, hrank.symm⟩

theorem fitsInt64_iff : x.FitsInt64 ↔ x.magnitude < 1086 * exponentUnit := by
  have hlimit : (ofInt (2 ^ 63)).isNaN = false ∧ (ofInt (2 ^ 63)).rank = 1086 * exponentUnit := by
    decide +kernel
  have hrank : x.abs.rank = x.magnitude := by simp [rank, abs]
  have hlt : x.FitsInt64 ↔ x.abs.isNaN = false ∧ (ofInt (2 ^ 63)).isNaN = false ∧
      x.abs.rank < (ofInt (2 ^ 63)).rank := Iff.rfl
  rw [hlt, hlimit.1, hlimit.2, hrank]
  have hunit : exponentUnit = 0x10000000000000 := rfl
  have hinfinite : infiniteMagnitude = 0x7ff0000000000000 := rfl
  have hnan : x.abs.isNaN = decide (infiniteMagnitude < x.magnitude) := rfl
  simp only [hnan, decide_eq_false_iff_not, true_and]
  omega

theorem FitsInt64.isFinite (h : x.FitsInt64) : x.isFinite = true := by
  have hlt := fitsInt64_iff.mp h
  simp only [Binary64.isFinite, decide_eq_true_eq]
  unfold exponentUnit at hlt
  unfold infiniteMagnitude
  omega

theorem FitsInt64.units_lt (h : x.FitsInt64) : x.units < 2 ^ 63 * unitsPerOne := by
  have hlt := fitsInt64_iff.mp h
  obtain ⟨k, hk, hone⟩ := unitsPerOne_eq
  rw [units, hone, Nat.shiftLeft_eq, ← Nat.pow_add]
  generalize hs : x.magnitude / exponentUnit - 1 = s
  have hdiv := Nat.div_add_mod x.magnitude exponentUnit
  have hmod := Nat.mod_lt x.magnitude (show 0 < exponentUnit by unfold exponentUnit; omega)
  have hrest : x.magnitude - s * exponentUnit < 2 ^ 53 := by
    unfold exponentUnit at *
    omega
  have hshift : s ≤ 1084 := by
    unfold exponentUnit at *
    omega
  calc
    (x.magnitude - s * exponentUnit) * 2 ^ s < 2 ^ 53 * 2 ^ s :=
      Nat.mul_lt_mul_of_pos_right hrest (by positivity)
    _ = 2 ^ (53 + s) := (Nat.pow_add 2 53 s).symm
    _ ≤ 2 ^ (63 + k) := Nat.pow_le_pow_right (by omega) (by omega)

-- Integers that round to less than `2 ^ 63` are below it.
theorem FitsInt64.lt_of_ofUnits {n : Nat} {negative : Bool}
    (h : (ofUnits negative (n * unitsPerOne) 1).FitsInt64) : n < 2 ^ 63 := by
  by_contra hn
  have hlt := fitsInt64_iff.mp h
  have hone : (ofUnits negative (n * unitsPerOne) 1).magnitude = _ := nearestMagnitude_one _
  have hge := nearest_ge (n * unitsPerOne) (2 ^ (Nat.log2 (n * unitsPerOne) - 52))
  obtain ⟨k, hk, hunits⟩ := unitsPerOne_eq
  -- otherwise the exponent alone gives a magnitude that is too large
  have hlog : 63 + k ≤ Nat.log2 (n * unitsPerOne) := by
    rw [hunits, Nat.le_log2 (Nat.mul_ne_zero (by omega) (by positivity)), Nat.pow_add]
    exact Nat.mul_le_mul_right _ (Nat.not_lt.mp hn)
  have hshift : 1085 * exponentUnit ≤ (Nat.log2 (n * unitsPerOne) - 52) * exponentUnit :=
    Nat.mul_le_mul_right _ (by omega)
  have hunit : exponentUnit = 0x10000000000000 := rfl
  have hinfinite : infiniteMagnitude = 0x7ff0000000000000 := rfl
  rcases shift_cases (n * unitsPerOne) with ⟨hzero, -⟩ | ⟨hlower, -⟩
  · omega
  · omega

-- An integral number in range has the key of an integer.
theorem FitsInt64.floatInt64?_isSome (h : x.FitsInt64) (hunits : x.units % unitsPerOne = 0) :
    (Value.floatInt64? x).isSome = true := by
  have hlt : x.units / unitsPerOne < 2 ^ 63 :=
    Nat.div_lt_of_lt_mul (by rw [Nat.mul_comm]; exact h.units_lt)
  have hmin : Int64.minValue.toInt = -9223372036854775808 := rfl
  have hmax : Int64.maxValue.toInt = 9223372036854775807 := rfl
  rw [Value.floatInt64?, toInt?, h.isFinite, hunits]
  simp only [beq_self_eq_true, Bool.and_self, if_true, Option.bind_some, hmin, hmax]
  generalize x.units / unitsPerOne = k at hlt ⊢
  rw [if_pos]
  · rfl
  · cases x.negative <;> simp <;> omega

end FitsInt64

end Targeting.Binary64
