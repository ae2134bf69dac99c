namespace Targeting

-- A binary64 number: its sign, and the exponent and fraction fields read together as one natural
-- number. Read that way, magnitudes compare as the numbers they stand for.
structure Binary64 where
  negative : Bool
  magnitude : Nat
  bounded : magnitude < 0x8000000000000000
deriving DecidableEq

namespace Binary64

-- The magnitude of infinity. Everything above it is not a number.
def infiniteMagnitude : Nat := 0x7ff0000000000000

-- What the lowest bit of the exponent field is worth. Of each step of the exponent there are as many
-- magnitudes.
def exponentUnit : Nat := 0x10000000000000

def ofMagnitude (negative : Bool) (magnitude : Nat) : Binary64 :=
  ⟨negative, min magnitude 0x7fffffffffffffff, by omega⟩

def zero : Binary64 := ofMagnitude false 0

def negZero : Binary64 := ofMagnitude true 0

def one : Binary64 := ofMagnitude false 0x3ff0000000000000

def two : Binary64 := ofMagnitude false 0x4000000000000000

def infinity : Binary64 := ofMagnitude false infiniteMagnitude

def negInfinity : Binary64 := ofMagnitude true infiniteMagnitude

-- The one value that stands for every result that is not a number.
def notANumber : Binary64 := ofMagnitude false 0x7ff8000000000000

instance : Inhabited Binary64 := ⟨zero⟩

def isNaN (x : Binary64) : Bool := infiniteMagnitude < x.magnitude

def isInfinite (x : Binary64) : Bool := x.magnitude = infiniteMagnitude

def isFinite (x : Binary64) : Bool := x.magnitude < infiniteMagnitude

def isZero (x : Binary64) : Bool := x.magnitude = 0

-- Flipping the sign bit.
def neg (x : Binary64) : Binary64 := { x with negative := !x.negative }

def abs (x : Binary64) : Binary64 := { x with negative := false }

instance : Neg Binary64 := ⟨neg⟩

-- The 64 bits as one number, the sign on top.
def toBits (x : Binary64) : Nat := (if x.negative then 0x8000000000000000 else 0) + x.magnitude

theorem toBits_injective {x y : Binary64} (h : x.toBits = y.toBits) : x = y := by
  obtain ⟨a, m, hm⟩ := x
  obtain ⟨b, n, hn⟩ := y
  simp only [toBits] at h
  cases a <;> cases b <;> simp_all <;> omega

-- Numeric order and equality. Both zeros have rank 0, and nothing compares with what is not a
-- number.
def rank (x : Binary64) : Int := if x.negative then -(x.magnitude : Int) else x.magnitude

def lt (x y : Binary64) : Prop := x.isNaN = false ∧ y.isNaN = false ∧ x.rank < y.rank

def le (x y : Binary64) : Prop := x.isNaN = false ∧ y.isNaN = false ∧ x.rank ≤ y.rank

instance : LT Binary64 := ⟨lt⟩

instance : LE Binary64 := ⟨le⟩

instance (x y : Binary64) : Decidable (x < y) :=
  inferInstanceAs (Decidable (_ ∧ _ ∧ _))

instance (x y : Binary64) : Decidable (x ≤ y) :=
  inferInstanceAs (Decidable (_ ∧ _ ∧ _))

-- The same number: zeros of either sign agree, and what is not a number differs from itself.
def same (x y : Binary64) : Bool := !x.isNaN && !y.isNaN && x.rank == y.rank

-- The larger number, or the other one when one is not a number.
def max (x y : Binary64) : Binary64 :=
  if x.isNaN then y else if x < y then y else x

-- The place of a number in the order of all bit patterns, which puts the negative zero right
-- below the positive one.
def totalRank (x : Binary64) : Int :=
  if x.negative then -(x.magnitude : Int) - 1 else x.magnitude

def totalCompare (x y : Binary64) : Ordering := compare x.totalRank y.totalRank

-- The exact size of a finite number as a multiple of 2 ^ -1074, the smallest one.
def units (x : Binary64) : Nat :=
  let shift := x.magnitude / exponentUnit - 1
  (x.magnitude - shift * exponentUnit) <<< shift

def unitsPerOne : Nat := 1 <<< 1074

def signedUnits (x : Binary64) : Int := if x.negative then -(x.units : Int) else x.units

-- The integer that a finite number is, if it is one.
def toInt? (x : Binary64) : Option Int :=
  if x.isFinite && x.units % unitsPerOne == 0 then
    some (if x.negative then -(x.units / unitsPerOne : Nat) else (x.units / unitsPerOne : Nat))
  else
    none

end Binary64

end Targeting
