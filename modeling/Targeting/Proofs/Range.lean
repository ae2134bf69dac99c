import Mathlib
import Targeting.Predicate
import Targeting.Proofs.Binary64.Real
import Targeting.Proofs.Caveat

namespace Targeting

namespace Range

-- Whether a number is within the bounds, these taken as the exact numbers that they are.
structure Admits (r : Range) (x : EReal) : Prop where
  above : ∀ lo, r.lo = some lo → if r.loInclusive then lo.real ≤ x else lo.real < x
  below : ∀ hi, r.hi = some hi → if r.hiInclusive then x ≤ hi.real else x < hi.real

def IsBound (r : Range) (x : Binary64) : Prop := r.lo = some x ∨ r.hi = some x

variable {r : Range} {x bound : Binary64} {n : Int}

theorem isNaN_of_isBound (hvalid : r.fault? = none) (h : r.IsBound bound) : bound.isNaN = false := by
  obtain ⟨hlo, hhi⟩ := isNaN_of_fault? hvalid
  cases h with
  | inl h => exact hlo bound h
  | inr h => exact hhi bound h

theorem aboveLo_iff (hvalid : r.fault? = none) (hx : x.isNaN = false) : r.aboveLo x = true ↔
    ∀ lo, r.lo = some lo → if r.loInclusive then lo.real ≤ x.real else lo.real < x.real := by
  rw [aboveLo]
  cases hlo : r.lo with
  | none => simp
  | some lo =>
    have hnan := isNaN_of_isBound hvalid (.inl hlo)
    cases r.loInclusive <;>
      simp [Binary64.lt_iff_real hnan hx, Binary64.le_iff_real hnan hx]

theorem belowHi_iff (hvalid : r.fault? = none) (hx : x.isNaN = false) : r.belowHi x = true ↔
    ∀ hi, r.hi = some hi → if r.hiInclusive then x.real ≤ hi.real else x.real < hi.real := by
  rw [belowHi]
  cases hhi : r.hi with
  | none => simp
  | some hi =>
    have hnan := isNaN_of_isBound hvalid (.inr hhi)
    cases r.hiInclusive <;>
      simp [Binary64.lt_iff_real hx hnan, Binary64.le_iff_real hx hnan]

-- A float is tested exactly.
theorem contains_iff (hvalid : r.fault? = none) (hx : x.isNaN = false) :
    r.contains x = true ↔ r.Admits x.real := by
  rw [contains, hx, Bool.not_false, Bool.true_and, Bool.and_eq_true, aboveLo_iff hvalid hx,
    belowHi_iff hvalid hx]
  exact ⟨fun h => ⟨h.1, h.2⟩, fun h => ⟨h.above, h.below⟩⟩

-- Rounding an integer matters only where it makes a bound of it that it is not.
theorem admits_ofInt_iff (hvalid : r.fault? = none)
    (hbounds : ∀ bound, r.IsBound bound → (Binary64.ofInt n).real = bound.real →
      bound.real = ((n : ℝ) : EReal)) :
    r.Admits (Binary64.ofInt n).real ↔ r.Admits ((n : ℝ) : EReal) := by
  have hlo (lo : Binary64) (h : r.lo = some lo) :
      (if r.loInclusive then lo.real ≤ (Binary64.ofInt n).real else lo.real < (Binary64.ofInt n).real)
        ↔ if r.loInclusive then lo.real ≤ ((n : ℝ) : EReal) else lo.real < ((n : ℝ) : EReal) := by
    have hnan := isNaN_of_isBound hvalid (.inl h)
    rw [Binary64.le_real_ofInt_iff hnan (hbounds lo (.inl h)), ← not_le, ← not_le,
      Binary64.real_ofInt_le_iff hnan (hbounds lo (.inl h))]
  have hhi (hi : Binary64) (h : r.hi = some hi) :
      (if r.hiInclusive then (Binary64.ofInt n).real ≤ hi.real else (Binary64.ofInt n).real < hi.real)
        ↔ if r.hiInclusive then ((n : ℝ) : EReal) ≤ hi.real else ((n : ℝ) : EReal) < hi.real := by
    have hnan := isNaN_of_isBound hvalid (.inr h)
    rw [Binary64.real_ofInt_le_iff hnan (hbounds hi (.inr h)), ← not_le, ← not_le,
      Binary64.le_real_ofInt_iff hnan (hbounds hi (.inr h))]
  constructor
  · intro h
    exact ⟨fun lo hbound => (hlo lo hbound).mp (h.above lo hbound),
      fun hi hbound => (hhi hi hbound).mp (h.below hi hbound)⟩
  · intro h
    exact ⟨fun lo hbound => (hlo lo hbound).mpr (h.above lo hbound),
      fun hi hbound => (hhi hi hbound).mpr (h.below hi hbound)⟩

end Range

namespace Predicate

variable {path : String} {r : Range} {doc : Document} {n : Int64}

theorem evaluate_inRange (hdoc : doc.get? path = some [.int n]) :
    (make .included path (.range r)).evaluate doc = r.contains (.ofInt n.toInt) := by
  have hpath : (make .included path (.range r)).path = path := rfl
  rw [evaluate, hpath, hdoc]
  change (false != [Value.int n].any (Caveat.range r).accepts) = _
  rw [List.any_cons, List.any_nil, Bool.or_false, Caveat.accepts, Range.accepts, Value.asNumber?,
    Option.any_some, Bool.false_bne]

-- A range is tested on an integer as it is, unless that is rounded to a bound without being it, which
-- takes more than 53 bits. Then it counts as the bound.
theorem evaluate_inRange_iff (hvalid : r.fault? = none) (hdoc : doc.get? path = some [.int n]) :
    let number : EReal := ((n.toInt : ℝ) : EReal)
    let rounded := (Binary64.ofInt n.toInt).real
    let holds := (make .included path (.range r)).evaluate doc = true
    ((∀ bound, r.IsBound bound → rounded = bound.real → bound.real = number) →
        (holds ↔ r.Admits number)) ∧
      (∀ bound, r.IsBound bound → rounded = bound.real → (holds ↔ r.Admits bound.real)) ∧
      (n.toInt.natAbs ≤ 2 ^ 53 → (holds ↔ r.Admits number)) := by
  intro number rounded holds
  have hrounded : holds ↔ r.Admits rounded := by
    change (make .included path (.range r)).evaluate doc = true ↔ _
    rw [evaluate_inRange hdoc]
    exact Range.contains_iff hvalid (Binary64.isNaN_ofInt _)
  refine ⟨fun hbounds => ?_, fun bound _ hbound => ?_, fun hsmall => ?_⟩
  · exact hrounded.trans (Range.admits_ofInt_iff hvalid hbounds)
  · rw [← hbound]
    exact hrounded
  · have hnumber : rounded = number := Binary64.real_ofInt hsmall
    rw [← hnumber]
    exact hrounded

-- `2 ^ 53 + 1` counts as `2 ^ 53`.
theorem evaluate_inRange_rounded :
    let r : Range := ⟨some (.ofInt 9007199254740992), none, true, false⟩
    let doc := Document.empty.set "id" (.int 9007199254740993)
    r.fault? = none ∧ doc.get? "id" = some [.int 9007199254740993] ∧
      ((make .included "id" (.range r)).evaluate doc = true
        ↔ r.Admits (Binary64.ofInt 9007199254740992).real) := by
  intro r doc
  have hvalid : r.fault? = none := by decide +kernel
  have hdoc : doc.get? "id" = some [.int 9007199254740993] := by decide +kernel
  have hsame : Binary64.ofInt (Int64.toInt 9007199254740993) = Binary64.ofInt 9007199254740992 := by
    decide +kernel
  exact ⟨hvalid, hdoc, (evaluate_inRange_iff hvalid hdoc).2.1 _ (.inl rfl)
    (congrArg Binary64.real hsame)⟩

-- Above `2 ^ 53` there is `2 ^ 53 + 1`, which is not found there.
theorem not_evaluate_inRange_exact : ¬∀ (path : String) (r : Range) (doc : Document) (n : Int64),
    r.fault? = none → doc.get? path = some [.int n] →
      ((make .included path (.range r)).evaluate doc = true ↔ r.Admits ((n.toInt : ℝ) : EReal)) := by
  intro h
  let r : Range := ⟨some (.ofInt 9007199254740992), none, false, false⟩
  let doc := Document.empty.set "id" (.int 9007199254740993)
  have hiff := h "id" r doc 9007199254740993 (by decide +kernel) (by decide +kernel)
  have hmissed : (make .included "id" (.range r)).evaluate doc = false := by decide +kernel
  have hlo : (Binary64.ofInt 9007199254740992).real = ((9007199254740992 : ℝ) : EReal) := by
    rw [Binary64.real_ofInt (by decide)]
    norm_num
  have hn : Int64.toInt 9007199254740993 = 9007199254740993 := by decide
  have hadmits : r.Admits (((9007199254740993 : Int64).toInt : ℝ) : EReal) := by
    refine ⟨fun lo h => ?_, fun hi h => by cases h⟩
    cases h
    rw [if_neg Bool.false_ne_true, hlo, hn, EReal.coe_lt_coe_iff]
    norm_num
  rw [hmissed] at hiff
  exact Bool.false_ne_true (hiff.mpr hadmits)

end Predicate

end Targeting
