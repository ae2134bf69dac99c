import Mathlib
import Targeting.Proofs.Binary64.Order
import Targeting.Proofs.Decimal

namespace Targeting.Binary64

-- Rounding looks at a quotient and not at how it is written.
section Quotients

theorem nearest_mul (num den : Nat) {k : Nat} (hk : 0 < k) :
    nearest (num * k) (den * k) = nearest num den := by
  have hless (r : Nat) : 2 * (r * k) < den * k ↔ 2 * r < den := by
    rw [← Nat.mul_assoc, Nat.mul_lt_mul_right hk]
  have hmore (r : Nat) : den * k < 2 * (r * k) ↔ den < 2 * r := by
    rw [← Nat.mul_assoc, Nat.mul_lt_mul_right hk]
  unfold nearest
  simp only [Nat.mul_div_mul_right _ _ hk, Nat.mul_mod_mul_right, hless, hmore]

theorem nearestMagnitude_mul (num den : Nat) {k : Nat} (hk : 0 < k) :
    nearestMagnitude (num * k) (den * k) = nearestMagnitude num den := by
  have hshift (n : Nat) : (den * k) <<< n = (den <<< n) * k := by
    rw [Nat.shiftLeft_eq, Nat.shiftLeft_eq]
    ring
  unfold nearestMagnitude
  simp only [Nat.mul_div_mul_right _ _ hk, hshift, nearest_mul _ _ hk]

theorem nearestMagnitude_congr {num den num' den' : Nat} (hden : 0 < den) (hden' : 0 < den')
    (h : num * den' = num' * den) : nearestMagnitude num den = nearestMagnitude num' den' := by
  rw [← nearestMagnitude_mul num den hden', ← nearestMagnitude_mul num' den' hden, h,
    Nat.mul_comm den den']

theorem ofUnits_congr {negative : Bool} {num den num' den' : Nat} (hden : 0 < den)
    (hden' : 0 < den') (h : (num : ℚ) / den = (num' : ℚ) / den') :
    ofUnits negative num den = ofUnits negative num' den' := by
  have hcross : num * den' = num' * den := by
    rw [div_eq_div_iff (by positivity) (by positivity)] at h
    exact_mod_cast h
  simp only [ofUnits, nearestMagnitude_congr hden hden' hcross]

end Quotients

theorem overPower_pos (num : Nat) {den : Nat} (hden : 0 < den) (exponent : Int) :
    0 < (overPower num den exponent).2 := by
  unfold overPower
  split
  · exact Nat.mul_pos hden (Nat.pow_pos (by omega))
  · exact hden

theorem overPower_eq (num : Nat) {den : Nat} (hden : 0 < den) (exponent : Int) :
    ((overPower num den exponent).1 : ℚ) / (overPower num den exponent).2
      = (num : ℚ) / den * (10 : ℚ) ^ (-exponent) := by
  have hdenq : (den : ℚ) ≠ 0 := by positivity
  unfold overPower
  split
  next hexponent =>
    obtain ⟨n, rfl⟩ := Int.eq_ofNat_of_zero_le hexponent
    rw [Int.toNat_natCast, zpow_neg, zpow_natCast]
    push_cast
    field_simp
    simp
  next hexponent =>
    obtain ⟨n, hn⟩ := Int.eq_ofNat_of_zero_le (by omega : 0 ≤ -exponent)
    rw [hn, Int.toNat_natCast, zpow_natCast]
    push_cast
    field_simp
    simp

-- A decimal that is read as a finite number other than zero is rounded.
theorem ofDecimal_eq_ofUnits {negative : Bool} {d : Decimal}
    (hfinite : (ofDecimal negative d).isFinite = true)
    (hzero : (ofDecimal negative d).isZero = false) :
    d.digits ≠ 0 ∧ ∃ num den : Nat, 0 < den ∧ (num : ℚ) / den = d.value * unitsPerOne ∧
      ofDecimal negative d = ofUnits negative num den := by
  unfold ofDecimal at hfinite hzero ⊢
  by_cases hdigits : d.digits = 0
  · rw [if_pos hdigits] at hzero
    cases negative <;> cases hzero
  by_cases hlarge : 310 < d.exponent
  · rw [if_neg hdigits, if_pos hlarge] at hfinite
    cases negative <;> cases hfinite
  by_cases hsmall : d.exponent < 0 ∧ d.digits.log2 + 1081 < 3 * (-d.exponent).toNat
  · rw [if_neg hdigits, if_neg hlarge, if_pos hsmall] at hzero
    cases negative <;> cases hzero
  rw [if_neg hdigits, if_neg hlarge, if_neg hsmall]
  refine ⟨hdigits, (overPower (d.digits * unitsPerOne) 1 (-d.exponent)).1,
    (overPower (d.digits * unitsPerOne) 1 (-d.exponent)).2, overPower_pos _ Nat.one_pos _, ?_, rfl⟩
  rw [overPower_eq _ Nat.one_pos, neg_neg, Decimal.value]
  push_cast
  ring

-- Decimals of one value are read alike.
theorem ofDecimal_congr {negative : Bool} {d e : Decimal} (h : d.value = e.value)
    (hd : (ofDecimal negative d).isFinite = true ∧ (ofDecimal negative d).isZero = false)
    (he : (ofDecimal negative e).isFinite = true ∧ (ofDecimal negative e).isZero = false) :
    ofDecimal negative d = ofDecimal negative e := by
  obtain ⟨-, num, den, hden, hvalue, hread⟩ := ofDecimal_eq_ofUnits hd.1 hd.2
  obtain ⟨-, num', den', hden', hvalue', hread'⟩ := ofDecimal_eq_ofUnits he.1 he.2
  rw [hread, hread']
  exact ofUnits_congr hden hden' (by rw [hvalue, hvalue', h])

section ExactDecimals

variable {x : Binary64}

theorem units_pos (h : x.isZero = false) : 0 < x.units := by
  simp only [isZero, decide_eq_false_iff_not] at h
  rw [units, Nat.shiftLeft_eq]
  refine Nat.mul_pos ?_ (by positivity)
  have := Nat.div_add_mod x.magnitude exponentUnit
  unfold exponentUnit at *
  omega

-- A finite number is the one nearest to itself.
theorem nearestMagnitude_units (h : x.isFinite = true) : nearestMagnitude x.units 1 = x.magnitude := by
  simp only [isFinite, decide_eq_true_eq] at h
  rw [units]
  generalize hs : x.magnitude / exponentUnit - 1 = s
  generalize hu : x.magnitude - s * exponentUnit = u
  have hlower : s = 0 ∨ exponentUnit ≤ u := by
    have := Nat.div_add_mod x.magnitude exponentUnit
    unfold exponentUnit at *
    omega
  have hupper : u < 2 * exponentUnit := by
    have := Nat.div_add_mod x.magnitude exponentUnit
    have := Nat.mod_lt x.magnitude (show 0 < exponentUnit by unfold exponentUnit; omega)
    unfold exponentUnit at *
    omega
  have hsum : s * exponentUnit + u = x.magnitude := by
    have := Nat.div_add_mod x.magnitude exponentUnit
    unfold exponentUnit at *
    omega
  have hshift : Nat.log2 (u <<< s) - 52 = s := by
    rcases hlower with rfl | hlower
    · have hlt : u < 2 ^ 53 := by unfold exponentUnit at hupper; omega
      rcases Nat.eq_zero_or_pos u with rfl | hpos
      · rfl
      · have := (Nat.log2_lt (by omega)).mpr hlt
        simp only [Nat.shiftLeft_zero]
        omega
    · have hlog : Nat.log2 (u <<< s) = 52 + s := by
        have hpos : u ≠ 0 := by unfold exponentUnit at hlower; omega
        rw [Nat.shiftLeft_eq, Nat.log2_eq_iff (by positivity)]
        constructor
        · rw [Nat.pow_add]
          exact Nat.mul_le_mul_right _ (by unfold exponentUnit at hlower; omega)
        · rw [Nat.add_right_comm, Nat.pow_add]
          exact Nat.mul_lt_mul_of_pos_right (by unfold exponentUnit at hupper; omega) (by positivity)
      omega
  have hnearest : nearest (u <<< s) (1 <<< s) = u := by
    rw [Nat.shiftLeft_eq, Nat.shiftLeft_eq, nearest_mul u 1 (by positivity)]
    simp [nearest, Nat.mod_one]
  rw [nearestMagnitude, Nat.div_one, hshift, hnearest, hsum]
  omega

theorem ofUnits_units (h : x.isFinite = true) : ofUnits x.negative x.units 1 = x := by
  obtain ⟨negative, magnitude, hbound⟩ := x
  simp only [ofUnits, nearestMagnitude_units h]

theorem log2_mul_pow_five {u : Nat} (hu : 0 < u) (n : Nat) : 2 * n ≤ Nat.log2 (u * 5 ^ n) := by
  rw [Nat.le_log2 (by positivity)]
  calc
    2 ^ (2 * n) = 4 ^ n := by rw [Nat.pow_mul]
    _ ≤ 5 ^ n := Nat.pow_le_pow_left (by omega) n
    _ ≤ u * 5 ^ n := Nat.le_mul_of_pos_left _ hu

-- A half is five tenths, and so on.
theorem ofDecimal_halves {negative : Bool} {u n : Nat} (hu : 0 < u) (hn : n ≤ 1081) :
    ofDecimal negative ⟨u * 5 ^ n, -(n : Int)⟩
      = ofUnits negative (u * 5 ^ n * unitsPerOne) (10 ^ n) := by
  have hlog := log2_mul_pow_five hu n
  have hdigits : u * 5 ^ n ≠ 0 := by positivity
  unfold ofDecimal overPower
  rw [if_neg hdigits, if_neg (by simp only; omega)]
  simp only [neg_neg, Int.toNat_natCast]
  rw [if_neg (by omega), if_pos (by omega), Nat.one_mul]
  rfl

theorem ofDecimal_units (hfinite : x.isFinite = true) (hzero : x.isZero = false) {n : Nat}
    (hn : n ≤ 1081) (hpower : unitsPerOne = 1 <<< n) :
    ofDecimal x.negative ⟨x.units * Nat.pow 5 n, -(n : Int)⟩ = x := by
  have hone := ofUnits_units hfinite
  rw [Nat.pow_eq, ofDecimal_halves (units_pos hzero) hn, hpower, Nat.one_shiftLeft]
  conv_rhs => rw [← hone]
  refine ofUnits_congr (Nat.pow_pos (by omega)) Nat.one_pos ?_
  rw [show 10 = 5 * 2 from rfl, Nat.mul_pow]
  push_cast
  field_simp

-- Every finite number reads back from the decimal that it is.
theorem ofDecimal_exactDecimal (hfinite : x.isFinite = true) (hzero : x.isZero = false) :
    ofDecimal x.negative x.exactDecimal = x := by
  rw [exactDecimal]
  generalize hn : 1074 = n
  have hexponent : (-1074 : Int) = -(n : Int) := by omega
  rw [hexponent]
  exact ofDecimal_units hfinite hzero (by omega) (hn ▸ rfl)

end ExactDecimals

section Shortest

variable {x y : Binary64}

theorem ofDecimal_of_neighbourOf? {num den : Nat} {exponent : Int} {d : Decimal}
    (h : x.neighbourOf? num den exponent = some d) : ofDecimal x.negative d = x := by
  rw [neighbourOf?] at h
  split at h
  next hbelow habove =>
    split at h
    · cases h
      exact eq_of_beq hbelow
    · cases h
      exact eq_of_beq habove
  next hbelow _ =>
    cases h
    exact eq_of_beq hbelow
  next _ habove =>
    cases h
    exact eq_of_beq habove
  next => cases h

-- The shortest decimal reads back as the number that it was found for.
theorem ofDecimal_shortest (hfinite : x.isFinite = true) (hzero : x.isZero = false) :
    ofDecimal x.negative x.shortest = x := by
  rw [shortest, hzero, if_neg Bool.false_ne_true]
  cases h : (List.range 17).findSome? fun n => readsBackAt? x (n + 1) with
  | none => exact ofDecimal_exactDecimal hfinite hzero
  | some d =>
    obtain ⟨n, -, hn⟩ := List.exists_of_findSome?_eq_some h
    exact ofDecimal_of_neighbourOf? hn

theorem value_shortest_ne_zero (hfinite : x.isFinite = true) (hzero : x.isZero = false) :
    x.shortest.value ≠ 0 := by
  have hread := ofDecimal_shortest hfinite hzero
  have hdigits : x.shortest.digits ≠ 0 := (@ofDecimal_eq_ofUnits x.negative x.shortest
    (by rw [hread]; exact hfinite) (by rw [hread]; exact hzero)).1
  have hpower : (10 : ℚ) ^ x.shortest.exponent ≠ 0 := zpow_ne_zero _ (by norm_num)
  exact mul_ne_zero (by exact_mod_cast hdigits) hpower

theorem magnitude_eq_zero (h : x.isZero = true) : x.magnitude = 0 := by
  simpa [isZero] using h

-- Finite numbers of one sign with the same shortest text are the same.
theorem eq_of_shortest_text (hsign : x.negative = y.negative) (hx : x.isFinite = true)
    (hy : y.isFinite = true) (h : x.shortest.text = y.shortest.text) : x = y := by
  have hvalue : x.shortest.value = y.shortest.value := by
    rw [← Decimal.textValue_text, ← Decimal.textValue_text, h]
  have hzerovalue {z : Binary64} (hz : z.isZero = true) : z.shortest.value = 0 := by
    simp [shortest, hz, Decimal.value]
  cases hxz : x.isZero with
  | true =>
    cases hyz : y.isZero with
    | true =>
      obtain ⟨a, m, hm⟩ := x
      obtain ⟨b, n, hn⟩ := y
      cases hsign
      cases magnitude_eq_zero hxz
      cases magnitude_eq_zero hyz
      rfl
    | false =>
      exact absurd (hvalue.symm.trans (hzerovalue hxz)) (value_shortest_ne_zero hy hyz)
  | false =>
    cases hyz : y.isZero with
    | true => exact absurd (hvalue.trans (hzerovalue hyz)) (value_shortest_ne_zero hx hxz)
    | false =>
      have hrx := ofDecimal_shortest hx hxz
      have hry := ofDecimal_shortest hy hyz
      rw [← hsign] at hry
      rw [← hrx, ← hry]
      exact ofDecimal_congr hvalue (by rw [hrx]; exact ⟨hx, hxz⟩) (by rw [hry]; exact ⟨hy, hyz⟩)

end Shortest

section Signs

variable {x y : Binary64}

-- What comes after the sign.
def unsignedText (x : Binary64) : String := if x.isInfinite then "inf" else x.shortest.text

theorem toText_eq (h : x.isNaN = false) :
    x.toText = (if x.negative then "-" else "") ++ x.unsignedText := by
  rw [toText, h, if_neg Bool.false_ne_true, unsignedText]

theorem toText_toList (h : x.isFinite = true) :
    x.toText.toList = (if x.negative then ['-'] else []) ++ x.shortest.text.toList := by
  have hinfinite : x.isInfinite = false := isInfinite_of_isFinite h
  rw [toText_eq (isNaN_of_isFinite h), unsignedText, hinfinite,
    if_neg Bool.false_ne_true, String.toList_append]
  cases x.negative <;> rfl

theorem mem_unsignedText {c : Char} (h : c ∈ x.unsignedText.toList) : c ≠ '-' ∧ c ≠ '#' := by
  rw [unsignedText] at h
  split at h
  · have hletters : c = 'i' ∨ c = 'n' ∨ c = 'f' := by simpa using h
    rcases hletters with rfl | rfl | rfl <;> decide
  · rcases Decimal.mem_text h with hc | hc
    · constructor <;> rintro rfl <;> exact absurd hc (by decide)
    · rw [hc]
      exact ⟨by decide, by decide⟩

theorem toText_ne_hash (h : x.isNaN = false) {c : Char} (hc : c ∈ x.toText.toList) : c ≠ '#' := by
  rw [toText_eq h, String.toList_append] at hc
  rcases List.mem_append.mp hc with hc | hc
  · split at hc
    · rw [List.mem_singleton.mp hc]
      decide
    · cases hc
  · exact (mem_unsignedText hc).2

theorem toText_ne_nil (h : x.isNaN = false) : x.toText.toList ≠ [] := by
  rw [toText_eq h, String.toList_append, ne_eq, List.append_eq_nil_iff, not_and_or]
  right
  rw [unsignedText]
  split
  · simp
  · exact Decimal.text_ne_nil _

theorem isFinite_of_not (hnan : x.isNaN = false) (hinf : x.isInfinite = false) :
    x.isFinite = true := by
  simp only [isNaN, isInfinite, isFinite, decide_eq_false_iff_not, decide_eq_true_eq] at *
  omega

theorem eq_of_unsignedText (hsign : x.negative = y.negative) (hx : x.isNaN = false)
    (hy : y.isNaN = false) (h : x.unsignedText = y.unsignedText) : x = y := by
  have hletter (z w : Binary64) (hz : z.isInfinite = true) (hw : w.isInfinite = false) :
      z.unsignedText ≠ w.unsignedText := by
    intro heq
    rw [unsignedText, unsignedText, hz, hw, if_pos rfl, if_neg Bool.false_ne_true] at heq
    have hmem : 'i' ∈ w.shortest.text.toList := by
      rw [← heq]
      decide
    rcases Decimal.mem_text hmem with hc | hc
    · exact absurd hc (by decide)
    · exact absurd hc (by decide)
  cases hxi : x.isInfinite with
  | true =>
    cases hyi : y.isInfinite with
    | true =>
      obtain ⟨a, m, hm⟩ := x
      obtain ⟨b, n, hn⟩ := y
      simp only [isInfinite, decide_eq_true_eq] at hxi hyi
      cases hsign
      cases hxi.trans hyi.symm
      rfl
    | false => exact absurd h (hletter x y hxi hyi)
  | false =>
    cases hyi : y.isInfinite with
    | true => exact absurd h.symm (hletter y x hyi hxi)
    | false =>
      rw [unsignedText, unsignedText, hxi, hyi, if_neg Bool.false_ne_true,
        if_neg Bool.false_ne_true] at h
      exact eq_of_shortest_text hsign (isFinite_of_not hx hxi) (isFinite_of_not hy hyi) h

-- Numbers are told apart by their text, zeros by its sign.
theorem toText_injective (hx : x.isNaN = false) (hy : y.isNaN = false) (h : x.toText = y.toText) :
    x = y := by
  have hminus (z w : Binary64) (heq : "-" ++ z.unsignedText = "" ++ w.unsignedText) : False := by
    have hmem : '-' ∈ ("" ++ w.unsignedText).toList := by
      rw [← heq, String.toList_append]
      exact List.mem_append_left _ (by decide)
    rw [String.empty_append] at hmem
    exact (mem_unsignedText hmem).1 rfl
  rw [toText_eq hx, toText_eq hy] at h
  cases hxs : x.negative <;> cases hys : y.negative <;> rw [hxs, hys] at h
  · refine eq_of_unsignedText (hxs.trans hys.symm) hx hy ?_
    simpa using h
  · exact absurd h.symm (hminus y x)
  · exact absurd h (hminus x y)
  · refine eq_of_unsignedText (hxs.trans hys.symm) hx hy ?_
    simpa using h

end Signs

end Targeting.Binary64
