import Targeting.Proofs.Binary64.Real
import Targeting.Proofs.Value.Key

namespace Targeting

namespace Binary64

variable {x y : Binary64} {n : Int64}

theorem real_eq_iff (hx : x.isNaN = false) (hy : y.isNaN = false) :
    x.real = y.real ↔ x.rank = y.rank := by
  rw [le_antisymm_iff, le_antisymm_iff, rank_le_iff_real hx hy, rank_le_iff_real hy hx]

theorem toInt?_of_signedUnits {k : Int} (hfinite : x.isFinite = true)
    (h : x.signedUnits = k * unitsPerOne) : x.toInt? = some k := by
  have hpos : (unitsPerOne : Int) ≠ 0 := Int.natCast_ne_zero.mpr unitsPerOne_pos.ne'
  have hunits : (x.units : Int) = (if x.negative then -k else k) * unitsPerOne := by
    rw [signedUnits] at h
    cases hsign : x.negative with
    | false => simpa [hsign] using h
    | true =>
      simp only [hsign, if_true] at h ⊢
      rw [neg_mul, ← h, neg_neg]
  have hmod : x.units % unitsPerOne = 0 :=
    Nat.mod_eq_zero_of_dvd (Int.natCast_dvd_natCast.mp ⟨_, hunits.trans (mul_comm _ _)⟩)
  have hquotient : ((x.units / unitsPerOne : Nat) : Int) = if x.negative then -k else k := by
    rw [Int.natCast_div, hunits, Int.mul_ediv_cancel _ hpos]
  rw [toInt?, hfinite, hmod, hquotient]
  cases x.negative <;> simp

-- The floats with the key of an integer are those that are that integer, without rounding.
theorem floatInt64?_eq_some_iff : Value.floatInt64? x = some n ↔
    x.isNaN = false ∧ x.real = ((n.toInt : ℝ) : EReal) := by
  constructor
  · intro h
    obtain ⟨k, hfinite, hunits, hn⟩ := exists_ones h
    have hsigned : x.signedUnits = n.toInt * unitsPerOne := by
      rw [signedUnits, hunits, hn]
      cases x.negative <;> simp
    refine ⟨isNaN_of_isFinite hfinite, ?_⟩
    rw [real_of_isFinite hfinite, hsigned]
    push_cast
    rw [mul_div_cancel_right₀ _ unitsPerOne_pos_real.ne']
  · rintro ⟨hnan, hreal⟩
    have hfinite : x.isFinite = true := by
      obtain ⟨hfinite, -⟩ | ⟨hbot, -⟩ | ⟨htop, -⟩ := rank_cases hnan
      · exact hfinite
      · exact absurd (hbot.symm.trans hreal).symm (EReal.coe_ne_bot _)
      · exact absurd (htop.symm.trans hreal).symm (EReal.coe_ne_top _)
    rw [real_of_isFinite hfinite, EReal.coe_eq_coe_iff, div_eq_iff unitsPerOne_pos_real.ne'] at hreal
    have hinteger := toInt?_of_signedUnits hfinite (by exact_mod_cast hreal)
    rw [Value.floatInt64?, hinteger, Option.bind_some,
      if_pos ⟨Int64.minValue_le_toInt n, Int64.toInt_le n⟩, Int64.ofInt_toInt]

-- Floats that are one number and no 64-bit integer are one float. Only zeros have two.
theorem eq_of_real (hx : x.isNaN = false) (hy : y.isNaN = false) (h : x.real = y.real)
    (hint : Value.floatInt64? x = none) : x = y := by
  obtain heq | ⟨hzero, -⟩ := eq_or_zero_of_rank ((real_eq_iff hx hy).mp h)
  · exact heq
  · have hsigned : x.signedUnits = 0 := by simp [signedUnits, units, hzero]
    have hfinite : x.isFinite = true := by
      rw [isFinite, hzero]
      decide
    have hreal : x.real = (((0 : Int64).toInt : ℝ) : EReal) := by
      rw [real_of_isFinite hfinite, hsigned]
      simp
    rw [floatInt64?_eq_some_iff.mpr ⟨hx, hreal⟩] at hint
    cases hint

-- The number or the infinity that a float is, if it is one.
noncomputable def value? (x : Binary64) : Option EReal := if x.isNaN then none else some x.real

theorem value?_eq_some_iff {r : EReal} : x.value? = some r ↔ x.isNaN = false ∧ x.real = r := by
  rw [value?]
  cases x.isNaN <;> simp

theorem value?_eq_none_iff : x.value? = none ↔ x.isNaN = true := by
  rw [value?]
  cases x.isNaN <;> simp

theorem floatInt64?_eq_some_iff_value? :
    Value.floatInt64? x = some n ↔ x.value? = some ((n.toInt : ℝ) : EReal) :=
  floatInt64?_eq_some_iff.trans value?_eq_some_iff.symm

end Binary64

-- What a value stands for: a bool, a number or an infinity as it is exactly, what is not a number, or a
-- text.
inductive Meaning where
  | bool (b : Bool)
  | number (x : Option EReal)
  | text (s : String)

namespace Value

variable {v w : Value} {x y : Binary64} {n : Int64}

noncomputable def meaning : Value → Meaning
  | int n => .number (some ((n.toInt : ℝ) : EReal))
  | float x => .number x.value?
  | bool b => .bool b
  | text s => .text s

-- The value that a key is means the same.
theorem meaning_ofKey (v : Value) : (ofKey v.key).meaning = v.meaning := by
  cases v with
  | float x =>
    cases hint : floatInt64? x with
    | some n =>
      rw [key, hint, ofKey, meaning, meaning, Binary64.floatInt64?_eq_some_iff_value?.mp hint]
    | none =>
      rw [key_float_of_none hint, ofKey, meaning, meaning]
      cases hnan : x.isNaN with
      | true =>
        rw [if_pos rfl, Binary64.value?_eq_none_iff.mpr Binary64.isNaN_notANumber,
          Binary64.value?_eq_none_iff.mpr hnan]
      | false => rw [if_neg Bool.false_ne_true]
  | _ => rfl

theorem key_float_of_value? (h : x.value? = some ((n.toInt : ℝ) : EReal)) :
    (float x).key = .int n := by
  rw [key, Binary64.floatInt64?_eq_some_iff_value?.mpr h]

theorem key_float_congr (h : x.value? = y.value?) : (float x).key = (float y).key := by
  cases hvalue : y.value? with
  | none =>
    have hx := Binary64.value?_eq_none_iff.mp (h.trans hvalue)
    have hy := Binary64.value?_eq_none_iff.mp hvalue
    rw [key_float_of_none (Binary64.floatInt64?_of_isNaN hx),
      key_float_of_none (Binary64.floatInt64?_of_isNaN hy), if_pos hx, if_pos hy]
  | some r =>
    cases hint : floatInt64? x with
    | some n =>
      have hn := Binary64.floatInt64?_eq_some_iff_value?.mp hint
      rw [key_float_of_value? hn, key_float_of_value? (h ▸ hn)]
    | none =>
      obtain ⟨hx, hxr⟩ := Binary64.value?_eq_some_iff.mp (h.trans hvalue)
      obtain ⟨hy, hyr⟩ := Binary64.value?_eq_some_iff.mp hvalue
      rw [Binary64.eq_of_real hx hy (hxr.trans hyr.symm) hint]

-- Values that mean the same have one key.
theorem key_congr (h : v.meaning = w.meaning) : v.key = w.key := by
  cases v <;> cases w
  case int.int m n =>
    have hreal := EReal.coe_eq_coe_iff.mp (Option.some.inj (Meaning.number.inj h))
    have hinteger : m.toInt = n.toInt := by exact_mod_cast hreal
    rw [Int64.toInt_inj.mp hinteger]
  case int.float m y => exact (key_float_of_value? (Meaning.number.inj h).symm).symm
  case float.int x n => exact key_float_of_value? (Meaning.number.inj h)
  case float.float x y => exact key_float_congr (Meaning.number.inj h)
  case bool.bool b c => rw [Meaning.bool.inj h]
  case text.text s t => rw [Meaning.text.inj h]
  all_goals cases h

-- Keys are equal exactly when the values mean the same, and a key, read as a value, is its own key.
theorem key_canonical :
    (∀ v w : Value, v.key = w.key ↔ v.meaning = w.meaning) ∧
      ∀ v : Value, (ofKey v.key).key = v.key := by
  refine ⟨fun v w => ⟨fun h => ?_, key_congr⟩, key_ofKey⟩
  rw [← meaning_ofKey v, h, meaning_ofKey]

end Value

end Targeting
