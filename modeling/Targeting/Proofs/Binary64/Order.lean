import Mathlib
import Targeting.Criteria.Evaluation
import Targeting.Binary64.Decimal

namespace Targeting.Binary64

variable {x y z : Binary64}

theorem same_iff : x.same y = true ↔ x.isNaN = false ∧ y.isNaN = false ∧ x.rank = y.rank := by
  simp only [same, Bool.and_eq_true, Bool.not_eq_true', beq_iff_eq, and_assoc]

theorem same_refl (h : x.isNaN = false) : x.same x = true := same_iff.mpr ⟨h, h, rfl⟩

theorem same_symm (h : x.same y = true) : y.same x = true := by
  obtain ⟨hx, hy, hrank⟩ := same_iff.mp h
  exact same_iff.mpr ⟨hy, hx, hrank.symm⟩

theorem same_trans (hxy : x.same y = true) (hyz : y.same z = true) : x.same z = true := by
  obtain ⟨hx, -, hrank⟩ := same_iff.mp hxy
  obtain ⟨-, hz, hrank'⟩ := same_iff.mp hyz
  exact same_iff.mpr ⟨hx, hz, hrank.trans hrank'⟩

-- Only zeros have a rank in common with another number.
theorem eq_or_zero_of_rank (h : x.rank = y.rank) : x = y ∨ x.magnitude = 0 ∧ y.magnitude = 0 := by
  obtain ⟨a, m, hm⟩ := x
  obtain ⟨b, n, hn⟩ := y
  simp only [rank] at h
  rw [Binary64.mk.injEq]
  cases a <;> cases b <;> simp only [if_true, if_false, Bool.false_eq_true] at h <;>
    simp only [true_and, reduceCtorEq, false_and, false_or] <;> omega

theorem isNaN_of_isFinite (h : x.isFinite = true) : x.isNaN = false := by
  simp only [isFinite, decide_eq_true_eq] at h
  simp only [isNaN, decide_eq_false_iff_not]
  omega

theorem isInfinite_of_isFinite (h : x.isFinite = true) : x.isInfinite = false := by
  simp only [isFinite, decide_eq_true_eq] at h
  simp only [isInfinite, decide_eq_false_iff_not]
  omega

theorem isNaN_ofUnits (negative : Bool) (num den : Nat) :
    (ofUnits negative num den).isNaN = false := by
  have hle : nearestMagnitude num den ≤ infiniteMagnitude := Nat.min_le_left _ _
  unfold isNaN ofUnits
  simp only [decide_eq_false_iff_not]
  omega

-- A number that none of some numbers exceeds, and that is one of them up to the sign of zero.
structure IsBest (xs : List Binary64) (best : Binary64) : Prop where
  number : best.isNaN = false
  attained : ∃ x ∈ xs, x.rank = best.rank
  upper : ∀ x ∈ xs, x.rank ≤ best.rank

namespace IsBest

variable {xs ys : List Binary64} {a : Binary64}

theorem ne_nil (h : IsBest xs a) : xs ≠ [] := by
  obtain ⟨y, hy, -⟩ := h.attained
  exact List.ne_nil_of_mem hy

theorem singleton (h : x.isNaN = false) : IsBest [x] x where
  number := h
  attained := ⟨x, List.mem_cons_self, rfl⟩
  upper y hy := by rw [List.mem_singleton.mp hy]

theorem max (h : IsBest xs a) (hx : x.isNaN = false) : IsBest (xs ++ [x]) (a.max x) := by
  obtain ⟨y, hy, hrank⟩ := h.attained
  rw [Binary64.max, h.number, if_neg Bool.false_ne_true]
  by_cases hlt : a < x
  · rw [if_pos hlt]
    refine ⟨hx, ⟨x, by simp, rfl⟩, fun z hz => ?_⟩
    rcases List.mem_append.mp hz with hz | hz
    · exact (h.upper z hz).trans hlt.2.2.le
    · rw [List.mem_singleton.mp hz]
  · rw [if_neg hlt]
    refine ⟨h.number, ⟨y, List.mem_append_left _ hy, hrank⟩, fun z hz => ?_⟩
    rcases List.mem_append.mp hz with hz | hz
    · exact h.upper z hz
    · rw [List.mem_singleton.mp hz]
      exact Int.not_lt.mp fun hrank => hlt ⟨h.number, hx, hrank⟩

theorem foldl_max (h : IsBest xs a) (hys : ∀ y ∈ ys, y.isNaN = false) :
    IsBest (xs ++ ys) (ys.foldl Binary64.max a) := by
  induction ys generalizing xs a with
  | nil => simpa using h
  | cons y rest ih =>
    have := ih (h.max (hys y List.mem_cons_self)) fun z hz => hys z (List.mem_cons_of_mem _ hz)
    simpa using this

theorem maximum? (hxs : ∀ x ∈ xs, x.isNaN = false) (h : Binary64.maximum? xs = some a) :
    IsBest xs a := by
  cases xs with
  | nil => cases h
  | cons x rest =>
    cases h
    exact (singleton (hxs x List.mem_cons_self)).foldl_max
      fun y hy => hxs y (List.mem_cons_of_mem _ hy)

theorem congr (h : IsBest xs a) (hmem : ∀ x, x ∈ xs ↔ x ∈ ys) : IsBest ys a where
  number := h.number
  attained := by
    obtain ⟨x, hx, hrank⟩ := h.attained
    exact ⟨x, (hmem x).mp hx, hrank⟩
  upper x hx := h.upper x ((hmem x).mpr hx)

theorem iff_same (h : IsBest xs a) : IsBest xs x ↔ a.same x = true := by
  rw [same_iff]
  constructor
  · intro hx
    obtain ⟨y, hy, hya⟩ := h.attained
    obtain ⟨z, hz, hzx⟩ := hx.attained
    have hyx := hx.upper y hy
    have hza := h.upper z hz
    exact ⟨h.number, hx.number, by omega⟩
  · rintro ⟨-, hnumber, hrank⟩
    exact ⟨hnumber, by rw [← hrank]; exact h.attained, by rw [← hrank]; exact h.upper⟩

end IsBest

theorem maximum?_eq_none_iff {xs : List Binary64} : maximum? xs = none ↔ xs = [] := by
  cases xs <;> simp [maximum?]

theorem negative_ofDecimal (negative : Bool) (d : Decimal) :
    (ofDecimal negative d).negative = negative := by
  unfold ofDecimal
  generalize overPower (d.digits * unitsPerOne) 1 (-d.exponent) = q
  split
  · cases negative <;> rfl
  · split
    · cases negative <;> rfl
    · split
      · cases negative <;> rfl
      · rfl

-- Scores that are both absent, or the same number.
abbrev SameScore : Option Binary64 → Option Binary64 → Prop := Option.Rel fun x y => x.same y = true

namespace SameScore

variable {a b c : Option Binary64}

theorem symm (h : SameScore a b) : SameScore b a := by
  cases h with
  | none => exact .none
  | some hsame => exact .some (same_symm hsame)

theorem trans (hab : SameScore a b) (hbc : SameScore b c) : SameScore a c := by
  cases hab with
  | none =>
    cases hbc
    exact .none
  | some hab =>
    cases hbc with
    | some hbc => exact .some (same_trans hab hbc)

theorem isSome_eq (h : SameScore a b) : a.isSome = b.isSome := by
  cases h <;> rfl

end SameScore

-- The best of some numbers, which is absent when there are none.
def BestOf (xs : List Binary64) : Option Binary64 → Prop
  | none => xs = []
  | some best => IsBest xs best

namespace BestOf

variable {xs ys : List Binary64} {a b : Option Binary64}

theorem maximum? (hxs : ∀ x ∈ xs, x.isNaN = false) : BestOf xs (Binary64.maximum? xs) := by
  cases h : Binary64.maximum? xs with
  | none => exact maximum?_eq_none_iff.mp h
  | some best => exact IsBest.maximum? hxs h

-- Numbers that are pairwise the same have the same best.
theorem same (ha : BestOf xs a) (hb : BestOf ys b)
    (hxs : ∀ x ∈ xs, ∃ y ∈ ys, x.same y = true) (hys : ∀ y ∈ ys, ∃ x ∈ xs, x.same y = true) :
    SameScore a b := by
  cases a with
  | none =>
    cases b with
    | none => exact .none
    | some b =>
      obtain ⟨y, hy, -⟩ := hb.attained
      obtain ⟨x, hx, -⟩ := hys y hy
      rw [show xs = [] from ha] at hx
      cases hx
  | some a =>
    obtain ⟨x, hx, hxa⟩ := ha.attained
    obtain ⟨z, hz, hxz⟩ := hxs x hx
    cases b with
    | none =>
      rw [show ys = [] from hb] at hz
      cases hz
    | some b =>
      obtain ⟨y, hy, hyb⟩ := hb.attained
      obtain ⟨w, hw, hwy⟩ := hys y hy
      have hab := hb.upper z hz
      have hba := ha.upper w hw
      have hxz := (same_iff.mp hxz).2.2
      have hwy := (same_iff.mp hwy).2.2
      exact .some (same_iff.mpr ⟨ha.number, hb.number, by omega⟩)

end BestOf

section Sums

theorem signedUnits_eq_of_same (h : x.same y = true) : x.signedUnits = y.signedUnits := by
  obtain ⟨-, -, hrank⟩ := same_iff.mp h
  rcases eq_or_zero_of_rank hrank with rfl | ⟨hx, hy⟩
  · rfl
  · simp [signedUnits, units, hx, hy]

theorem isInfinite_eq_of_same (h : x.same y = true) : x.isInfinite = y.isInfinite := by
  obtain ⟨-, -, hrank⟩ := same_iff.mp h
  rcases eq_or_zero_of_rank hrank with rfl | ⟨hx, hy⟩
  · rfl
  · simp [isInfinite, hx, hy]

theorem isFinite_eq_of_same (h : x.same y = true) : x.isFinite = y.isFinite := by
  obtain ⟨-, -, hrank⟩ := same_iff.mp h
  rcases eq_or_zero_of_rank hrank with rfl | ⟨hx, hy⟩
  · rfl
  · simp [isFinite, hx, hy]

theorem isNaN_zero : zero.isNaN = false := rfl

theorem isNaN_negZero : negZero.isNaN = false := rfl

-- The sum of finite numbers, or of an infinite number and a finite one, is a number, and which it is
-- does not depend on the signs of zeros.
theorem same_add {x' y' : Binary64} (hx : x.same x' = true) (hy : y.same y' = true)
    (hfinite : y.isInfinite = false) : (x + y).same (x' + y') = true := by
  obtain ⟨hnan, hnan', hrank⟩ := same_iff.mp hx
  obtain ⟨hynan, hynan', -⟩ := same_iff.mp hy
  have hfinite' := (isInfinite_eq_of_same hy).symm.trans hfinite
  change (x.add y).same (x'.add y') = true
  rw [add, add, hnan, hnan', hynan, hynan', hfinite, hfinite', ← isInfinite_eq_of_same hx,
    ← signedUnits_eq_of_same hx, ← signedUnits_eq_of_same hy]
  simp only [Bool.or_self, Bool.false_eq_true, if_false, Bool.false_and]
  cases x.isInfinite with
  | true => exact hx
  | false =>
    simp only [Bool.false_eq_true, if_false]
    split
    · rw [same_iff]
      split <;> split <;> exact ⟨rfl, rfl, rfl⟩
    · exact same_refl (isNaN_ofUnits _ _ _)

theorem isNaN_add (hx : x.isNaN = false) (hy : y.isFinite = true) : (x + y).isNaN = false :=
  (same_iff.mp (same_add (same_refl hx) (same_refl (isNaN_of_isFinite hy))
    (isInfinite_of_isFinite hy))).1

theorem same_sum {xs ys : List Binary64} (h : List.Forall₂ (fun x y => x.same y = true) xs ys)
    (hfinite : ∀ x ∈ xs, x.isInfinite = false) : (sum xs).same (sum ys) = true := by
  have hfold {s t : Binary64} (hst : s.same t = true) :
      (xs.foldl (· + ·) s).same (ys.foldl (· + ·) t) = true := by
    induction h generalizing s t with
    | nil => exact hst
    | cons hxy _ ih =>
      exact ih (fun x hx => hfinite x (List.mem_cons_of_mem _ hx))
        (same_add hst hxy (hfinite _ List.mem_cons_self))
  exact hfold (same_refl isNaN_negZero)

theorem isNaN_sum {xs : List Binary64} (hfinite : ∀ x ∈ xs, x.isFinite = true) :
    (sum xs).isNaN = false := by
  have hself : List.Forall₂ (fun x y => x.same y = true) xs xs :=
    List.forall₂_same.mpr fun x hx => same_refl (isNaN_of_isFinite (hfinite x hx))
  exact (same_iff.mp (same_sum hself fun x hx => isInfinite_of_isFinite (hfinite x hx))).1

theorem signedUnits_neg (x : Binary64) : (-x).signedUnits = -x.signedUnits := by
  have hmagnitude : (-x).magnitude = x.magnitude := rfl
  have hnegative : (-x).negative = !x.negative := rfl
  rw [signedUnits, signedUnits, units, units, hmagnitude, hnegative]
  generalize (x.magnitude - (x.magnitude / exponentUnit - 1) * exponentUnit)
    <<< (x.magnitude / exponentUnit - 1) = n
  cases x.negative <;> simp

theorem isNaN_notANumber : notANumber.isNaN = true := by decide

-- Numbers that are the same differ by nothing, or by what is not a number.
theorem sub_of_same (h : x.same y = true) : (x - y).isNaN = true ∨ (x - y).magnitude = 0 := by
  obtain ⟨hx, hy, hrank⟩ := same_iff.mp h
  have hneg : (-y).isNaN = false := hy
  have hinfinite : (-y).isInfinite = x.isInfinite := (isInfinite_eq_of_same h).symm
  have hunits : x.signedUnits + (-y).signedUnits = 0 := by
    rw [signedUnits_neg, signedUnits_eq_of_same h, add_neg_cancel]
  have hsub : x - y = x.add (-y) := rfl
  rw [hsub, add, hx, hneg, hinfinite, hunits]
  cases hinf : x.isInfinite with
  | true =>
    have hsign : (x.negative != (-y).negative) = true := by
      rcases eq_or_zero_of_rank hrank with rfl | ⟨hzero, -⟩
      · have hnegative : (-x).negative = !x.negative := rfl
        rw [hnegative]
        cases x.negative <;> rfl
      · rw [isInfinite, hzero] at hinf
        exact absurd hinf (by decide)
    rw [hsign]
    exact .inl isNaN_notANumber
  | false =>
    simp only [Bool.or_self, Bool.false_eq_true, if_false, if_true]
    split <;> exact .inr rfl

-- No two numbers that are the same are further apart than a positive distance.
theorem not_lt_abs_sub {distance : Binary64} (hdistance : distance.negative = false)
    (h : x.same y = true) : ¬ distance < (x - y).abs := by
  rintro ⟨-, hnumber, hrank⟩
  have hmagnitude : (x - y).abs.magnitude = (x - y).magnitude := rfl
  rcases sub_of_same h with hnan | hzero
  · rw [isNaN, hmagnitude, ← isNaN, hnan] at hnumber
    cases hnumber
  · have habs : (x - y).abs.rank = 0 := by
      rw [rank, hmagnitude, hzero]
      rfl
    rw [habs, rank, hdistance] at hrank
    simp only [Bool.false_eq_true, if_false] at hrank
    omega

end Sums

end Targeting.Binary64
