import Mathlib
import Targeting.Proofs.Binary64.Printing
import Targeting.Proofs.Criteria.Sameness

namespace Targeting

namespace Binary64

variable {x : Binary64} {n : Int64}

-- A float that is a 64-bit integer is a number of ones with a sign.
theorem exists_ones (h : Value.floatInt64? x = some n) :
    ∃ k : Nat, x.isFinite = true ∧ x.units = k * unitsPerOne ∧
      n.toInt = if x.negative then -(k : Int) else k := by
  obtain ⟨integer, hinteger, h⟩ := Option.bind_eq_some_iff.mp h
  rw [toInt?] at hinteger
  split at hinteger
  next hintegral =>
    obtain ⟨hfinite, hmod⟩ := Bool.and_eq_true_iff.mp hintegral
    have hunits := (Nat.div_mul_cancel (Nat.dvd_of_mod_eq_zero (eq_of_beq hmod))).symm
    generalize x.units / unitsPerOne = k at hinteger hunits
    refine ⟨k, hfinite, hunits, ?_⟩
    split at h
    next hrange =>
      have hmin : Int64.minValue.toInt = -2 ^ 63 := rfl
      have hmax : Int64.maxValue.toInt = 2 ^ 63 - 1 := rfl
      cases h
      rw [Int64.toInt_ofInt_of_le (by omega) (by omega)]
      exact (Option.some.inj hinteger).symm
    next => cases h
  next => cases hinteger

section Ones

variable {k : Nat}

theorem ones_eq_zero (hunits : x.units = k * unitsPerOne) (hzero : x.isZero = true) : k = 0 := by
  have hnone : x.units = 0 := by simp [units, magnitude_eq_zero hzero]
  exact (Nat.mul_eq_zero.mp (hunits.symm.trans hnone)).resolve_right unitsPerOne_pos.ne'

theorem ones_ne_zero (hunits : x.units = k * unitsPerOne) (hzero : x.isZero = false) : k ≠ 0 := by
  have hpos := units_pos hzero
  rw [hunits] at hpos
  exact (Nat.pos_of_mul_pos_right hpos).ne'

end Ones

theorem eq_zero_of_isZero (h : x.isZero = true) (hsign : x ≠ negZero) : x = zero := by
  obtain ⟨negative, magnitude, hbound⟩ := x
  cases magnitude_eq_zero h
  cases negative with
  | true => exact absurd rfl hsign
  | false => rfl

theorem floatInt64?_of_isNaN (h : x.isNaN = true) : Value.floatInt64? x = none := by
  refine Option.eq_none_iff_forall_ne_some.mpr fun n hint => ?_
  obtain ⟨-, hfinite, -⟩ := exists_ones hint
  rw [isNaN_of_isFinite hfinite] at h
  cases h

-- A float with the key of an integer is the number that the integer is.
theorem same_ofInt (h : Value.floatInt64? x = some n) : (ofInt n.toInt).same x = true := by
  obtain ⟨k, hfinite, hunits, hn⟩ := exists_ones h
  rw [hn]
  cases hzero : x.isZero with
  | true =>
    have hsign : (if x.negative then -((0 : Nat) : Int) else (0 : Nat)) = 0 := by
      cases x.negative <;> rfl
    rw [ones_eq_zero hunits hzero, hsign, ofInt_zero]
    exact same_zero hzero
  | false =>
    rw [ofInt_signed x.negative (ones_ne_zero hunits hzero), ← hunits, ofUnits_units hfinite]
    exact same_refl (isNaN_of_isFinite hfinite)

-- An integral float is printed like its integer, unless it is a negative zero or so large that there
-- are shorter texts for it.
theorem toText_eq_intText (h : Value.floatInt64? x = some n) (hsign : x ≠ negZero)
    (hsmall : n.toInt.natAbs < 2 ^ 53) : x.toText = Text.intText n.toInt := by
  obtain ⟨k, hfinite, hunits, hn⟩ := exists_ones h
  have habs : n.toInt.natAbs = k := by
    rw [hn]
    cases x.negative <;> simp
  refine String.toList_inj.mp ?_
  rw [toText_toList hfinite, Text.intText_toList, habs]
  cases hzero : x.isZero with
  | true =>
    rw [ones_eq_zero hunits hzero] at hn ⊢
    rw [eq_zero_of_isZero hzero hsign] at hn ⊢
    rw [hn]
    rfl
  | false =>
    have hne := ones_ne_zero hunits hzero
    have hnegative : x.negative = decide (n.toInt < 0) := by
      rw [hn]
      cases x.negative <;> simp
      omega
    rw [text_shortest hfinite hunits hzero hne (habs ▸ hsmall), hnegative]
    simp only [decide_eq_true_eq]

end Binary64

namespace Range

variable {r : Range} {x y : Binary64}

theorem contains_congr (h : x.same y = true) : r.contains x = r.contains y := by
  obtain ⟨hx, hy, -⟩ := Binary64.same_iff.mp h
  rw [contains, contains, hx, hy, aboveLo, aboveLo, belowHi, belowHi]
  simp only [Binary64.le_congr_left h, Binary64.lt_congr_left h, Binary64.le_congr_right h,
    Binary64.lt_congr_right h]

theorem contains_of_isNaN (h : x.isNaN = true) : r.contains x = false := by simp [contains, h]

end Range

namespace Value

variable {v w : Value}

theorem key_float_of_none {x : Binary64} (h : floatInt64? x = none) :
    (float x).key = .float (if x.isNaN then .notANumber else x) := by
  rw [key, h]

-- The value that a key is has that key.
theorem key_ofKey (v : Value) : (ofKey v.key).key = v.key := by
  cases v with
  | float x =>
    cases hint : floatInt64? x with
    | some n => rw [key, hint]; rfl
    | none =>
      rw [key_float_of_none hint]
      cases hnan : x.isNaN with
      | true => rw [if_pos rfl, ofKey, key_float_of_none
          (Binary64.floatInt64?_of_isNaN Binary64.isNaN_notANumber), Binary64.isNaN_notANumber, if_pos rfl]
      | false => rw [if_neg Bool.false_ne_true, ofKey, key_float_of_none hint, hnan,
          if_neg Bool.false_ne_true]
  | _ => rfl

theorem asText?_ofKey (v : Value) : (ofKey v.key).asText? = v.asText? := by
  cases v with
  | float x => rw [key]; split <;> rfl
  | _ => rfl

end Value

-- A range has a value when it has that of its key.
theorem Range.accepts_ofKey (r : Range) (v : Value) : r.accepts (.ofKey v.key) = r.accepts v := by
  cases v with
  | float x =>
    have hfloat (y : Binary64) : r.accepts (.float y) = r.contains y := by
      rw [accepts, Value.asNumber?, Option.any_some]
    cases hint : Value.floatInt64? x with
    | some n =>
      have hkey : (Value.float x).key = .int n := by rw [Value.key, hint]
      have hinteger : r.accepts (.int n) = r.contains (.ofInt n.toInt) := by
        rw [accepts, Value.asNumber?, Option.any_some]
      rw [hkey, Value.ofKey, hinteger, hfloat, contains_congr (Binary64.same_ofInt hint)]
    | none =>
      rw [Value.key_float_of_none hint, Value.ofKey, hfloat, hfloat]
      cases hnan : x.isNaN with
      | true => rw [if_pos rfl, contains_of_isNaN Binary64.isNaN_notANumber, contains_of_isNaN hnan]
      | false => rw [if_neg Bool.false_ne_true]
  | _ => rfl

-- The text that a version test reads. A number is read as it is printed.
def Value.versionText? : Value → Option String
  | .text s => some s
  | .bool _ => none
  | v => some v.display

-- A number that is printed like its key.
def Value.Ordinary : Value → Prop
  | .float x => ∀ n, floatInt64? x = some n → x ≠ .negZero ∧ n.toInt.natAbs < 2 ^ 53
  | _ => True

theorem Value.versionText?_ofKey {v : Value} (h : v.Ordinary) :
    (ofKey v.key).versionText? = v.versionText? := by
  cases v with
  | float x =>
    cases hint : floatInt64? x with
    | some n =>
      obtain ⟨hsign, hsmall⟩ := h n hint
      rw [key, hint]
      exact congrArg some (Binary64.toText_eq_intText hint hsign hsmall).symm
    | none =>
      rw [key_float_of_none hint]
      cases hnan : x.isNaN with
      | true => simp [ofKey, versionText?, display, Binary64.toText, hnan, Binary64.isNaN_notANumber]
      | false => rw [if_neg Bool.false_ne_true, ofKey]
  | _ => rfl

namespace VersionBound

def acceptsText (b : VersionBound) (s : String) : Bool := b.accepts (.text s)

theorem accepts_eq (b : VersionBound) (v : Value) :
    b.accepts v = v.versionText?.any b.acceptsText := by
  cases v with
  | bool x =>
    rw [accepts]
    cases b.version? <;> rfl
  | _ => rfl

end VersionBound

namespace Caveat

-- Only a version test sees more of a value than its key.
theorem accepts_ofKey {c : Caveat} (h : c.kind ≠ .version) (v : Value) :
    c.accepts (.ofKey v.key) = c.accepts v := by
  cases c with
  | oneOf keys => rw [accepts, accepts, Value.key_ofKey]
  | pattern p => rw [accepts, accepts, Value.asText?_ofKey]
  | range r => exact r.accepts_ofKey v
  | version b => exact absurd rfl h

end Caveat

end Targeting
