import Targeting.Json.Basic

namespace Targeting.Json

-- A number is read into a significand of 64 bits and a power of ten. The digits that do not fit in
-- the significand any more count as zeros before the point, and are dropped after it.

-- Takes digits while the significand fits in 64 bits, and counts them.
def takeDigits : Nat → Nat → List Char → Nat × Nat × List Char
  | significand, count, [] => (significand, count, [])
  | significand, count, c :: cs =>
    if c.isDigit && 10 * significand + (c.toNat - '0'.toNat) < 0x10000000000000000 then
      takeDigits (10 * significand + (c.toNat - '0'.toNat)) (count + 1) cs
    else
      (significand, count, c :: cs)

-- `x * 10 ^ exponent`, in one rounded step where there is such a power of ten. Refuses what is too
-- large, and reaches zero after a few steps of 308 places when the exponent is far below.
def scale? : Nat → Binary64 → Int → Option Binary64
  | 0, x, _ => some x
  | fuel + 1, x, exponent =>
    let power (k : Nat) := Binary64.ofDecimal false ⟨1, k⟩
    if exponent.natAbs ≤ 308 then
      if 0 ≤ exponent then
        let y := x * power exponent.natAbs
        if y.isInfinite then none else some y
      else
        some (x / power exponent.natAbs)
    else if x.isZero then some x
    else if 0 ≤ exponent then none
    else scale? fuel (x / power 308) (exponent + 308)

def finish (negative : Bool) (significand : Nat) (exponent : Int) (rest : List Char) :
    Option (Json × List Char) :=
  (scale? 5 (Binary64.ofInt significand) exponent).map fun x =>
    (number (.float (if negative then -x else x)), rest)

-- Reads the exponent, when there is one.
def readExponent (negative : Bool) (significand : Nat) (exponent : Int) (cs : List Char) :
    Option (Json × List Char) :=
  match cs with
  | c :: rest =>
    if c == 'e' || c == 'E' then
      let (down, rest) := Text.signed rest
      let digits := rest.takeWhile Char.isDigit
      if digits.isEmpty then none
      else
        let n : Int := Text.digitsValue digits
        finish negative significand (if down then exponent - n else exponent + n)
          (rest.dropWhile Char.isDigit)
    else
      finish negative significand exponent cs
  | [] => finish negative significand exponent []

-- Reads the digits after a point, at least one.
def readFraction (negative : Bool) (significand : Nat) (exponent : Int) (cs : List Char) :
    Option (Json × List Char) :=
  if cs.head?.any Char.isDigit then
    let (significand, count, rest) := takeDigits significand 0 cs
    readExponent negative significand (exponent - count) (rest.dropWhile Char.isDigit)
  else
    none

-- An integer, or the nearest float when a sign leaves no room for it in 64 bits. Zero with a minus is
-- a float, since no integer has that sign.
def ofSignificand (negative : Bool) (significand : Nat) : Json :=
  if !negative then
    number (.natural (UInt64.ofNat significand))
  else if significand = 0 ∨ -(significand : Int) < Int64.minValue.toInt then
    number (.float (-Binary64.ofInt significand))
  else
    number (.negative (Int64.ofInt (-(significand : Int))))

-- Reads a number after its sign. A leading zero stands alone.
def readNumber (negative : Bool) (cs : List Char) : Option (Json × List Char) :=
  if !cs.head?.any Char.isDigit then none
  else
    let (significand, count, rest) := takeDigits 0 0 cs
    if cs.head? == some '0' && 1 < count then none
    else
      let skipped := (rest.takeWhile Char.isDigit).length
      match rest.dropWhile Char.isDigit with
      | '.' :: fraction => readFraction negative significand skipped fraction
      | after =>
        if 0 < skipped || after.head? == some 'e' || after.head? == some 'E' then
          readExponent negative significand skipped after
        else
          some (ofSignificand negative significand, after)

end Targeting.Json
