import Targeting.Binary64.Rounding
import Targeting.Decimal

namespace Targeting.Binary64

-- The quotient `d / 10 ^ exponent` as numerator and denominator.
def overPower (num den : Nat) (exponent : Int) : Nat × Nat :=
  if 0 ≤ exponent then (num, den * Nat.pow 10 exponent.toNat)
  else (num * Nat.pow 10 (-exponent).toNat, den)

-- The binary64 number nearest to a decimal one. The first two tests settle the decimals that are
-- far beyond the largest number, or far below half of the smallest, without computing the power.
def ofDecimal (negative : Bool) (d : Decimal) : Binary64 :=
  if d.digits = 0 then (if negative then negZero else zero)
  else if 310 < d.exponent then (if negative then negInfinity else infinity)
  else if d.exponent < 0 ∧ Nat.log2 d.digits + 1081 < 3 * (-d.exponent).toNat then
    if negative then negZero else zero
  else
    let (num, den) := overPower (d.digits * unitsPerOne) 1 (-d.exponent)
    ofUnits negative num den

-- The least `k` for which `num / den` is below `10 ^ k`.
def decimalScale (num den : Nat) : Int :=
  if den ≤ num then (Nat.toDigits 10 (num / den)).length
  else 1 - ((Nat.toDigits 10 ((den - 1) / num)).length : Int)

-- Of the two decimals next to `num / den` steps of `10 ^ exponent`, the one that reads back as `x`, and
-- when both do the nearer one, the upper one of two.
def neighbourOf? (x : Binary64) (num den : Nat) (exponent : Int) : Option Decimal :=
  let below : Decimal := ⟨num / den, exponent⟩
  let above : Decimal := ⟨num / den + 1, exponent⟩
  match ofDecimal x.negative below == x, ofDecimal x.negative above == x with
  | true, true => some (if 2 * num < (2 * (num / den) + 1) * den then below else above)
  | true, false => some below
  | false, true => some above
  | false, false => none

-- The decimal with `n` digits that reads back as `x` and is nearest to it. Only the two neighbours of
-- `x` among the decimals with that many digits can be nearest.
def readsBackAt? (x : Binary64) (n : Nat) : Option Decimal :=
  let exponent := decimalScale x.units unitsPerOne - n
  let quotient := overPower x.units unitsPerOne exponent
  x.neighbourOf? quotient.1 quotient.2 exponent

-- Every finite number is itself a decimal, since a half is five tenths.
def exactDecimal (x : Binary64) : Decimal := ⟨x.units * Nat.pow 5 1074, -1074⟩

-- The decimal of fewest digits that reads back as `x`. Seventeen digits are enough for any number.
def shortest (x : Binary64) : Decimal :=
  if x.isZero then ⟨0, 0⟩
  else ((List.range 17).findSome? fun n => readsBackAt? x (n + 1)).getD (exactDecimal x)

def toText (x : Binary64) : String :=
  if x.isNaN then "NaN"
  else (if x.negative then "-" else "") ++ if x.isInfinite then "inf" else x.shortest.text

instance : ToString Binary64 := ⟨toText⟩

-- Reads a number after an optional sign: a decimal, or a name of infinity or of what is not a
-- number, in letters of either case.
def ofChars? (cs : List Char) : Option Binary64 :=
  let (negative, rest) := Text.signed cs
  let name := String.ofList (rest.map Char.toLower)
  if name == "inf" || name == "infinity" then some (if negative then negInfinity else infinity)
  else if name == "nan" then some (if negative then -notANumber else notANumber)
  else (Decimal.ofChars? rest).map (ofDecimal negative)

def ofText? (s : String) : Option Binary64 := ofChars? s.toList

end Targeting.Binary64
