import Targeting.Binary64.Basic

namespace Targeting.Binary64

-- The integer nearest to a quotient, the even one of two.
def nearest (num den : Nat) : Nat :=
  let q := num / den
  let r := num % den
  if 2 * r < den then q
  else if den < 2 * r then q + 1
  else if q % 2 = 0 then q
  else q + 1

-- The magnitude nearest to `num / den` units. Scaled so that the quotient has at most 53 bits, it
-- rounds to an integer, and a carry into the next power of two lands on the right magnitude.
def nearestMagnitude (num den : Nat) : Nat :=
  let shift := Nat.log2 (num / den) - 52
  min infiniteMagnitude (shift * exponentUnit + nearest num (den <<< shift))

theorem nearestMagnitude_lt (num den : Nat) : nearestMagnitude num den < 0x8000000000000000 := by
  have h : nearestMagnitude num den ≤ infiniteMagnitude := Nat.min_le_left _ _
  simp only [infiniteMagnitude] at h
  omega

-- The binary64 number nearest to `num / den` units, infinite when none is near.
def ofUnits (negative : Bool) (num den : Nat) : Binary64 :=
  ⟨negative, nearestMagnitude num den, nearestMagnitude_lt num den⟩

def ofInt (n : Int) : Binary64 := ofUnits (n < 0) (n.natAbs * unitsPerOne) 1

-- Sums, products and quotients are the exact ones, rounded once.
def add (x y : Binary64) : Binary64 :=
  if x.isNaN || y.isNaN then notANumber
  else if x.isInfinite then
    if y.isInfinite && x.negative != y.negative then notANumber else x
  else if y.isInfinite then y
  else
    let s := x.signedUnits + y.signedUnits
    if s = 0 then (if x.negative && y.negative then negZero else zero)
    else ofUnits (s < 0) s.natAbs 1

def sub (x y : Binary64) : Binary64 := add x (-y)

def mul (x y : Binary64) : Binary64 :=
  let negative := x.negative != y.negative
  if x.isNaN || y.isNaN then notANumber
  else if x.isInfinite || y.isInfinite then
    if x.isZero || y.isZero then notANumber else if negative then negInfinity else infinity
  else ofUnits negative (x.units * y.units) unitsPerOne

def div (x y : Binary64) : Binary64 :=
  let negative := x.negative != y.negative
  if x.isNaN || y.isNaN then notANumber
  else if x.isInfinite then
    if y.isInfinite then notANumber else if negative then negInfinity else infinity
  else if y.isInfinite then if negative then negZero else zero
  else if y.isZero then
    if x.isZero then notANumber else if negative then negInfinity else infinity
  else ofUnits negative (x.units * unitsPerOne) y.units

instance : Add Binary64 := ⟨add⟩

instance : Sub Binary64 := ⟨sub⟩

instance : Mul Binary64 := ⟨mul⟩

instance : Div Binary64 := ⟨div⟩

-- A sum starts from the negative zero, the one number that changes no other. Hence the sum of
-- nothing is the negative zero.
def sum (xs : List Binary64) : Binary64 := xs.foldl (· + ·) negZero

end Targeting.Binary64
