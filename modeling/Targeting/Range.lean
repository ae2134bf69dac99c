import Targeting.Value.Basic

namespace Targeting

-- A numeric interval. A bound that is absent does not bound.
structure Range where
  lo : Option Binary64
  hi : Option Binary64
  loInclusive : Bool
  hiInclusive : Bool
deriving DecidableEq

inductive RangeFault where
  | notANumber
  | reversed (lo hi : Binary64)
  | empty (bound : Binary64)
deriving DecidableEq

namespace RangeFault

def reason : RangeFault → String
  | notANumber => "bounds must be numbers"
  | reversed lo hi => "lower bound " ++ lo.toText ++ " exceeds upper bound " ++ hi.toText
  | empty bound => "range around " ++ bound.toText ++ " is empty"

end RangeFault

namespace Range

def closed (lo hi : Binary64) : Range := ⟨some lo, some hi, true, true⟩

def halfOpen (lo hi : Binary64) : Range := ⟨some lo, some hi, true, false⟩

def atLeast (lo : Binary64) : Range := ⟨some lo, none, true, false⟩

def below (hi : Binary64) : Range := ⟨none, some hi, false, false⟩

def aboveLo (r : Range) (x : Binary64) : Bool :=
  match r.lo with
  | none => true
  | some lo => if r.loInclusive then decide (lo ≤ x) else decide (lo < x)

def belowHi (r : Range) (x : Binary64) : Bool :=
  match r.hi with
  | none => true
  | some hi => if r.hiInclusive then decide (x ≤ hi) else decide (x < hi)

def contains (r : Range) (x : Binary64) : Bool := !x.isNaN && r.aboveLo x && r.belowHi x

def accepts (r : Range) (v : Value) : Bool := v.asNumber?.any r.contains

-- The bounds and the two flags, apart by number signs, and nothing for an absent bound.
def token (r : Range) : String :=
  let bound (b : Option Binary64) := (b.map Binary64.toText).getD ""
  "#".intercalate [bound r.lo, bound r.hi, boolText r.loInclusive, boolText r.hiInclusive]

def fault? (r : Range) : Option RangeFault :=
  if r.lo.any Binary64.isNaN || r.hi.any Binary64.isNaN then some .notANumber
  else
    match r.lo, r.hi with
    | some lo, some hi =>
      if hi < lo then some (.reversed lo hi)
      else if lo.same hi && !(r.loInclusive && r.hiInclusive) then some (.empty lo)
      else none
    | _, _ => none

def display (r : Range) : String :=
  let bound (b : Option Binary64) := (b.map Binary64.toText).getD "*"
  (if r.loInclusive then "[" else "(") ++ bound r.lo ++ ", " ++ bound r.hi
    ++ (if r.hiInclusive then "]" else ")")

-- Equal bounds, as numbers, and the same flags.
def same (r s : Range) : Bool :=
  let bound : Option Binary64 → Option Binary64 → Bool
    | none, none => true
    | some x, some y => x.same y
    | _, _ => false
  bound r.lo s.lo && bound r.hi s.hi && r.loInclusive == s.loInclusive
    && r.hiInclusive == s.hiInclusive

end Range

end Targeting
