namespace Targeting.Text

-- The parts of a text between the places where a character stands.
def splitOn (separator : Char) : List Char → List (List Char)
  | [] => [[]]
  | c :: cs =>
    match c == separator, splitOn separator cs with
    | true, parts => [] :: parts
    | false, [] => [[c]]
    | false, part :: parts => (c :: part) :: parts

-- The number that a run of decimal digits denotes.
def digitsValue (digits : List Char) : Nat :=
  digits.foldl (fun n c => 10 * n + (c.toNat - '0'.toNat)) 0

-- The number a text denotes when it is nothing but decimal digits.
def nat? (cs : List Char) : Option Nat :=
  if cs.isEmpty || !cs.all Char.isDigit then none else some (digitsValue cs)

-- A leading sign, and whether it is a minus.
def signed : List Char → Bool × List Char
  | '-' :: cs => (true, cs)
  | '+' :: cs => (false, cs)
  | cs => (false, cs)

-- Decimal digits after an optional sign.
def int? (cs : List Char) : Option Int :=
  let (negative, digits) := signed cs
  (nat? digits).map fun n => if negative then -(n : Int) else n

-- The integers that fit in 64 bits.
def int64? (cs : List Char) : Option Int64 :=
  (int? cs).bind fun n =>
    if Int64.minValue.toInt ≤ n ∧ n ≤ Int64.maxValue.toInt then some (Int64.ofInt n) else none

def intText (n : Int) : String :=
  if n < 0 then "-" ++ Nat.repr n.natAbs else Nat.repr n.natAbs

end Targeting.Text

namespace Targeting

-- The decimal number `digits * 10 ^ exponent`.
structure Decimal where
  digits : Nat
  exponent : Int
deriving DecidableEq

namespace Decimal

-- Positional text, never with an exponent. A fraction ends in a digit other than zero.
def text (d : Decimal) : String :=
  let digits := Nat.toDigits 10 d.digits
  if 0 ≤ d.exponent then
    String.ofList (digits ++ List.replicate d.exponent.toNat '0')
  else
    let places := (-d.exponent).toNat
    let padded := List.replicate (places + 1 - digits.length) '0' ++ digits
    let whole := padded.take (padded.length - places)
    let fraction := (padded.drop (padded.length - places)).reverse.dropWhile (· == '0')
    if fraction.isEmpty then String.ofList whole
    else String.ofList (whole ++ '.' :: fraction.reverse)

-- The digits around an optional point, without sign or exponent.
def mantissa? (cs : List Char) : Option (Decimal × List Char) :=
  let whole := cs.takeWhile Char.isDigit
  let (fraction, rest) :=
    match cs.dropWhile Char.isDigit with
    | '.' :: r => (r.takeWhile Char.isDigit, r.dropWhile Char.isDigit)
    | r => ([], r)
  if whole.isEmpty && fraction.isEmpty then none
  else some (⟨Text.digitsValue (whole ++ fraction), -(fraction.length : Int)⟩, rest)

-- A decimal number in positional or scientific form. Either side of the point may be missing.
def ofChars? (cs : List Char) : Option Decimal := do
  let (d, rest) ← mantissa? cs
  match rest with
  | [] => some d
  | e :: r =>
    if e == 'e' || e == 'E' then
      (Text.int? r).map fun n => { d with exponent := d.exponent + n }
    else
      none

end Decimal

end Targeting
