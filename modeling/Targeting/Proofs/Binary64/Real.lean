import Mathlib
import Targeting.Proofs.Binary64.Integer

namespace Targeting.Binary64

section Rounding

-- What is nearest is the quotient or one more.
theorem nearest_eq (num den : Nat) : nearest num den = num / den +
    if 2 * (num % den) < den ∨ 2 * (num % den) = den ∧ num / den % 2 = 0 then 0 else 1 := by
  unfold nearest
  by_cases hbelow : 2 * (num % den) < den
  · simp [hbelow]
  · by_cases habove : den < 2 * (num % den)
    · simp [hbelow, habove, show 2 * (num % den) ≠ den by omega]
    · have hhalf : 2 * (num % den) = den := by omega
      by_cases heven : num / den % 2 = 0 <;> simp [hhalf, heven]

theorem nearest_mono {a b : Nat} (den : Nat) (h : a ≤ b) : nearest a den ≤ nearest b den := by
  have hdiv : a / den ≤ b / den := Nat.div_le_div_right h
  by_cases hlt : a / den < b / den
  · have hle := nearest_le_succ a den
    have hge := nearest_ge b den
    omega
  · have hsame : a / den = b / den := by omega
    have ha := Nat.div_add_mod a den
    have hb := Nat.div_add_mod b den
    rw [hsame] at ha
    have hmod : a % den ≤ b % den := by omega
    rw [nearest_eq, nearest_eq, hsame]
    apply Nat.add_le_add_left
    split_ifs <;> omega

-- A larger number of units is never rounded to a smaller magnitude.
theorem nearestMagnitude_mono {u v : Nat} (h : u ≤ v) : nearestMagnitude u 1 ≤ nearestMagnitude v 1 := by
  rw [nearestMagnitude_one, nearestMagnitude_one]
  apply min_le_min_left
  have hlog : Nat.log2 u ≤ Nat.log2 v := by
    rw [Nat.log2_eq_log_two, Nat.log2_eq_log_two]
    exact Nat.log_mono_right h
  by_cases hshift : Nat.log2 u - 52 = Nat.log2 v - 52
  · rw [hshift]
    exact Nat.add_le_add_left (nearest_mono _ h) _
  -- with a larger exponent already the smallest magnitude is at least the largest one before
  · have hu := nearest_cases u
    have hv := nearest_cases v
    unfold exponentUnit
    omega

end Rounding

variable {x y : Binary64} {s t : Int}

theorem rank_ofUnits (negative : Bool) (u : Nat) : (ofUnits negative u 1).rank
    = if negative then -(nearestMagnitude u 1 : Int) else nearestMagnitude u 1 := rfl

-- Rounding a signed number of units keeps the order.
theorem rank_ofUnits_mono (h : s ≤ t) :
    (ofUnits (s < 0) s.natAbs 1).rank ≤ (ofUnits (t < 0) t.natAbs 1).rank := by
  rw [rank_ofUnits, rank_ofUnits]
  by_cases hs : s < 0
  · by_cases ht : t < 0
    · have hmono := nearestMagnitude_mono (show t.natAbs ≤ s.natAbs by omega)
      simp only [hs, ht, decide_true, if_true]
      omega
    · simp only [hs, ht, decide_true, decide_false, if_true, Bool.false_eq_true, if_false]
      omega
  · have hmono := nearestMagnitude_mono (show s.natAbs ≤ t.natAbs by omega)
    simp only [hs, show ¬t < 0 by omega, decide_false, Bool.false_eq_true, if_false]
    omega

-- A finite number is rounded to itself.
theorem rank_ofUnits_signedUnits (h : x.isFinite = true) :
    (ofUnits (x.signedUnits < 0) x.signedUnits.natAbs 1).rank = x.rank := by
  have hunits := nearestMagnitude_units h
  have habs : x.signedUnits.natAbs = x.units := by
    unfold signedUnits
    cases x.negative <;> simp
  rw [rank_ofUnits, habs, hunits, rank]
  cases hzero : x.isZero with
  | true => simp [magnitude_eq_zero hzero]
  | false =>
    have hpos := units_pos hzero
    have hsign : decide (x.signedUnits < 0) = x.negative := by
      unfold signedUnits
      cases x.negative <;> simp
      omega
    rw [hsign]

theorem rank_ofUnits_le (h : x.isFinite = true) (hs : s ≤ x.signedUnits) :
    (ofUnits (s < 0) s.natAbs 1).rank ≤ x.rank :=
  (rank_ofUnits_mono hs).trans_eq (rank_ofUnits_signedUnits h)

theorem rank_le_ofUnits (h : x.isFinite = true) (hs : x.signedUnits ≤ s) :
    x.rank ≤ (ofUnits (s < 0) s.natAbs 1).rank :=
  (rank_ofUnits_signedUnits h).symm.trans_le (rank_ofUnits_mono hs)

-- Finite numbers are ordered as their sizes in units.
theorem rank_le_iff (hx : x.isFinite = true) (hy : y.isFinite = true) :
    x.rank ≤ y.rank ↔ x.signedUnits ≤ y.signedUnits := by
  constructor
  · intro hrank
    by_contra hunits
    have hback := rank_ofUnits_le hx (Int.not_le.mp hunits).le
    rw [rank_ofUnits_signedUnits hy] at hback
    have hsame := same_iff.mpr ⟨isNaN_of_isFinite hx, isNaN_of_isFinite hy, by omega⟩
    exact hunits (signedUnits_eq_of_same hsame).le
  · intro hunits
    rw [← rank_ofUnits_signedUnits hx]
    exact rank_ofUnits_le hy hunits

-- Adding what is not negative does not lead below, since rounding keeps the order. An infinity stays
-- as it is.
theorem rank_le_add (hx : x.isNaN = false) (hy : y.isFinite = true) (hnonneg : 0 ≤ y.rank) :
    x.rank ≤ (x + y).rank := by
  have hunits : 0 ≤ y.signedUnits := (rank_le_iff (x := zero) rfl hy).mp hnonneg
  change x.rank ≤ (x.add y).rank
  rw [add, hx, isNaN_of_isFinite hy, isInfinite_of_isFinite hy]
  simp only [Bool.or_self, Bool.false_eq_true, if_false, Bool.false_and]
  cases hinfinite : x.isInfinite with
  | true => exact le_refl _
  | false =>
    have hfinite := isFinite_of_not hx hinfinite
    have hle := rank_le_ofUnits hfinite (Int.le_add_of_nonneg_right hunits)
    simp only [Bool.false_eq_true, if_false]
    split
    next hzero =>
      rw [hzero] at hle
      split <;> exact hle
    next => exact hle

theorem rank_nonneg_sum {xs : List Binary64} (h : ∀ x ∈ xs, x.isFinite = true ∧ 0 ≤ x.rank) :
    0 ≤ (sum xs).rank := by
  have hfold {s : Binary64} (hs : s.isNaN = false) (hrank : 0 ≤ s.rank) :
      0 ≤ (xs.foldl (· + ·) s).rank := by
    induction xs generalizing s with
    | nil => exact hrank
    | cons x rest ih =>
      obtain ⟨hfinite, hnonneg⟩ := h x List.mem_cons_self
      exact ih (fun y hy => h y (List.mem_cons_of_mem _ hy)) (isNaN_add hs hfinite)
        (hrank.trans (rank_le_add hs hfinite hnonneg))
  exact hfold isNaN_negZero (le_refl _)

-- The number or the infinity that a float is. What is not a number gets a value that says nothing.
noncomputable def real (x : Binary64) : EReal :=
  if x.isInfinite then if x.negative then ⊥ else ⊤
  else ((x.signedUnits / unitsPerOne : ℝ) : EReal)

theorem real_of_isFinite (h : x.isFinite = true) :
    x.real = ((x.signedUnits / unitsPerOne : ℝ) : EReal) := by
  rw [real, isInfinite_of_isFinite h]
  rfl

theorem real_of_isInfinite (h : x.isInfinite = true) :
    x.real = if x.negative then ⊥ else ⊤ := by
  rw [real, h]
  rfl

-- What is no infinity lies between the two.
theorem rank_cases (h : x.isNaN = false) :
    (x.isFinite = true ∧ -(infiniteMagnitude : Int) < x.rank ∧ x.rank < infiniteMagnitude) ∨
      (x.real = ⊥ ∧ x.rank = -(infiniteMagnitude : Int)) ∨
      (x.real = ⊤ ∧ x.rank = infiniteMagnitude) := by
  cases hinf : x.isInfinite with
  | false =>
    have hfinite := isFinite_of_not h hinf
    refine .inl ⟨hfinite, ?_⟩
    simp only [isFinite, decide_eq_true_eq] at hfinite
    unfold rank
    cases x.negative <;> simp <;> omega
  | true =>
    right
    rw [real_of_isInfinite hinf, rank]
    simp only [isInfinite, decide_eq_true_eq] at hinf
    cases x.negative <;> simp [hinf]

theorem unitsPerOne_pos_real : (0 : ℝ) < (unitsPerOne : ℝ) := Nat.cast_pos.mpr unitsPerOne_pos

-- Floats are ordered as the numbers that they are.
theorem rank_le_iff_real (hx : x.isNaN = false) (hy : y.isNaN = false) :
    x.rank ≤ y.rank ↔ x.real ≤ y.real := by
  have hpos : (0 : Int) < infiniteMagnitude := by decide
  rcases rank_cases hx with ⟨hx, hlox, hhix⟩ | ⟨hx, hrx⟩ | ⟨hx, hrx⟩
  · rcases rank_cases hy with ⟨hy, hloy, hhiy⟩ | ⟨hy, hry⟩ | ⟨hy, hry⟩
    · rw [rank_le_iff hx hy, real_of_isFinite hx, real_of_isFinite hy, EReal.coe_le_coe_iff,
        div_le_div_iff_of_pos_right unitsPerOne_pos_real, Int.cast_le]
    · rw [hy, hry, real_of_isFinite hx, le_bot_iff]
      simp only [EReal.coe_ne_bot, iff_false]
      omega
    · rw [hy, hry]
      simp only [le_top, iff_true]
      omega
  · rw [hx]
    simp only [bot_le, iff_true]
    rcases rank_cases hy with ⟨hy, hloy, hhiy⟩ | ⟨hy, hry⟩ | ⟨hy, hry⟩ <;> omega
  · rcases rank_cases hy with ⟨hy, hloy, hhiy⟩ | ⟨hy, hry⟩ | ⟨hy, hry⟩
    · rw [hx, hrx, real_of_isFinite hy, top_le_iff]
      simp only [EReal.coe_ne_top, iff_false]
      omega
    · rw [hx, hy]
      simp only [top_le_iff, bot_ne_top, iff_false]
      omega
    · rw [hx, hy]
      simp only [le_refl, iff_true]
      omega

theorem le_iff_real (hx : x.isNaN = false) (hy : y.isNaN = false) : x ≤ y ↔ x.real ≤ y.real := by
  rw [← rank_le_iff_real hx hy]
  exact ⟨fun h => h.2.2, fun h => ⟨hx, hy, h⟩⟩

theorem lt_iff_real (hx : x.isNaN = false) (hy : y.isNaN = false) : x < y ↔ x.real < y.real := by
  rw [← not_le, ← rank_le_iff_real hy hx, Int.not_le]
  exact ⟨fun h => h.2.2, fun h => ⟨hx, hy, h⟩⟩

section Integers

variable {n : Int} {bound : Binary64}

theorem ofInt_eq (n : Int) :
    ofInt n = ofUnits (n * unitsPerOne < 0) (n * unitsPerOne).natAbs 1 := by
  have hpos : (0 : Int) < unitsPerOne := Int.natCast_pos.mpr unitsPerOne_pos
  have hsign : n * unitsPerOne < 0 ↔ n < 0 := by
    rw [mul_neg_iff]
    omega
  rw [ofInt, Int.natAbs_mul, Int.natAbs_natCast]
  simp only [hsign]

theorem isNaN_ofInt (n : Int) : (ofInt n).isNaN = false := isNaN_ofUnits _ _ _

theorem rank_ofInt_cases (n : Int) : -(infiniteMagnitude : Int) ≤ (ofInt n).rank ∧
    (ofInt n).rank ≤ infiniteMagnitude := by
  rcases rank_cases (isNaN_ofInt n) with ⟨-, hlo, hhi⟩ | ⟨-, hrank⟩ | ⟨-, hrank⟩ <;> omega

-- Rounding an integer does not take it past any float.
theorem real_ofInt_le (hbound : bound.isNaN = false) (h : ((n : ℝ) : EReal) ≤ bound.real) :
    (ofInt n).real ≤ bound.real := by
  rw [← rank_le_iff_real (isNaN_ofInt n) hbound]
  rcases rank_cases hbound with ⟨hfinite, -, -⟩ | ⟨hreal, -⟩ | ⟨-, hrank⟩
  · rw [real_of_isFinite hfinite, EReal.coe_le_coe_iff, le_div_iff₀ unitsPerOne_pos_real] at h
    rw [ofInt_eq]
    exact rank_ofUnits_le hfinite (by exact_mod_cast h)
  · rw [hreal, le_bot_iff] at h
    exact absurd h (EReal.coe_ne_bot _)
  · rw [hrank]
    exact (rank_ofInt_cases n).2

theorem le_real_ofInt (hbound : bound.isNaN = false) (h : bound.real ≤ ((n : ℝ) : EReal)) :
    bound.real ≤ (ofInt n).real := by
  rw [← rank_le_iff_real hbound (isNaN_ofInt n)]
  rcases rank_cases hbound with ⟨hfinite, -, -⟩ | ⟨-, hrank⟩ | ⟨hreal, -⟩
  · rw [real_of_isFinite hfinite, EReal.coe_le_coe_iff, div_le_iff₀ unitsPerOne_pos_real] at h
    rw [ofInt_eq]
    exact rank_le_ofUnits hfinite (by exact_mod_cast h)
  · rw [hrank]
    exact (rank_ofInt_cases n).1
  · rw [hreal, top_le_iff] at h
    exact absurd h (EReal.coe_ne_top _)

-- What an integer is rounded to compares with a float as the integer does, unless it is that float
-- and the integer is not.
theorem le_real_ofInt_iff (hbound : bound.isNaN = false)
    (h : (ofInt n).real = bound.real → bound.real = ((n : ℝ) : EReal)) :
    bound.real ≤ (ofInt n).real ↔ bound.real ≤ ((n : ℝ) : EReal) := by
  constructor
  · intro hle
    by_contra hlt
    have hge := real_ofInt_le hbound (not_le.mp hlt).le
    exact hlt (h (le_antisymm hge hle)).le
  · exact le_real_ofInt hbound

theorem real_ofInt_le_iff (hbound : bound.isNaN = false)
    (h : (ofInt n).real = bound.real → bound.real = ((n : ℝ) : EReal)) :
    (ofInt n).real ≤ bound.real ↔ ((n : ℝ) : EReal) ≤ bound.real := by
  constructor
  · intro hle
    by_contra hlt
    have hge := le_real_ofInt hbound (not_le.mp hlt).le
    exact hlt (h (le_antisymm hle hge)).ge
  · exact real_ofInt_le hbound

-- An integer of at most 53 bits has that many units, which need no rounding.
theorem units_ofInt {m : Nat} (negative : Bool) (hm : m ≤ 2 ^ 53) (hpos : m ≠ 0) :
    (ofUnits negative (m * unitsPerOne) 1).isFinite = true ∧
      (ofUnits negative (m * unitsPerOne) 1).units = m * unitsPerOne := by
  obtain ⟨k, hk, hone⟩ := unitsPerOne_eq
  rw [hone]
  have hlog : Nat.log2 (m * 2 ^ k) < 54 + k := by
    rw [Nat.log2_lt (Nat.mul_ne_zero hpos (by positivity)), Nat.pow_add]
    exact Nat.mul_lt_mul_of_pos_right (by omega) (by positivity)
  have hfinite : (ofUnits negative (m * 2 ^ k) 1).isFinite = true := by
    have hmagnitude : (ofUnits negative (m * 2 ^ k) 1).magnitude = _ := nearestMagnitude_one _
    have hnearest := nearest_cases (m * 2 ^ k)
    simp only [isFinite, decide_eq_true_eq]
    unfold exponentUnit at hmagnitude
    have hinfinite : infiniteMagnitude = 0x7ff0000000000000 := rfl
    omega
  refine ⟨hfinite, ?_⟩
  have hdvd : 2 ^ (Nat.log2 (m * 2 ^ k) - 52) ∣ m * 2 ^ k := by
    generalize hshift : Nat.log2 (m * 2 ^ k) = l at hlog ⊢
    by_cases hlast : m = 2 ^ 53
    · rw [hlast, ← Nat.pow_add]
      exact Nat.pow_dvd_pow 2 (by omega)
    · have hsmall : l < 53 + k := by
        rw [← hshift, Nat.log2_lt (Nat.mul_ne_zero hpos (by positivity)), Nat.pow_add]
        exact Nat.mul_lt_mul_of_pos_right (by omega) (by positivity)
      exact Dvd.dvd.mul_left (Nat.pow_dvd_pow 2 (by omega)) m
  rw [units_ofUnits negative hfinite, nearest_of_mod (by positivity) (Nat.mod_eq_zero_of_dvd hdvd),
    Nat.div_mul_cancel hdvd]

theorem real_ofInt (hn : n.natAbs ≤ 2 ^ 53) : (ofInt n).real = ((n : ℝ) : EReal) := by
  by_cases hzero : n = 0
  · subst hzero
    have hunits : zero.signedUnits = 0 := by decide +kernel
    rw [ofInt_zero, real_of_isFinite rfl, hunits]
    simp
  · obtain ⟨hfinite, hunits⟩ := units_ofInt (decide (n < 0)) hn (Int.natAbs_ne_zero.mpr hzero)
    change (ofInt n).isFinite = true at hfinite
    change (ofInt n).units = _ at hunits
    have hsigned : (ofInt n).signedUnits = n * unitsPerOne := by
      have hnegative : (ofInt n).negative = decide (n < 0) := rfl
      rw [signedUnits, hunits, hnegative]
      push_cast
      by_cases hsign : n < 0
      · rw [if_pos (decide_eq_true hsign), abs_of_neg hsign]
        ring
      · rw [if_neg (by simpa using hsign), abs_of_nonneg (Int.not_lt.mp hsign)]
    rw [real_of_isFinite hfinite, hsigned]
    push_cast
    rw [mul_div_cancel_right₀ _ unitsPerOne_pos_real.ne']

end Integers

end Targeting.Binary64
