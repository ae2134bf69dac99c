import Targeting.Decimal

namespace Targeting.Unicode

-- Tables over code points are written as lines of text, with blanks between the entries and the
-- numbers in base sixteen.

def entries (lines : List String) : List (List Char) :=
  lines.flatMap fun line => Text.splitOn ' ' line.toList

def hexValue (digits : List Char) : Nat :=
  digits.foldl (fun n c =>
    16 * n + (if c.isDigit then c.toNat - '0'.toNat else c.toNat - 'a'.toNat + 10)) 0

-- The last entry whose first code point is at most `n`, in a table in ascending order. Every entry
-- before `lo` starts at or before `n`, every entry from `hi` on starts after it.
def lastEntryBetween {α : Type} (table : Array (Nat × α)) (n : Nat) :
    Nat → Nat → Nat → Option (Nat × α)
  | 0, lo, _ => if lo = 0 then none else table[lo - 1]?
  | fuel + 1, lo, hi =>
    if hi ≤ lo then
      if lo = 0 then none else table[lo - 1]?
    else
      let mid := (lo + hi) / 2
      match table[mid]? with
      | none => none
      | some entry =>
        if entry.1 ≤ n then lastEntryBetween table n fuel (mid + 1) hi
        else lastEntryBetween table n fuel lo mid

def lastEntry? {α : Type} (table : Array (Nat × α)) (n : Nat) : Option (Nat × α) :=
  lastEntryBetween table n (table.size + 1) 0 table.size

-- A set of code points, as its ranges in ascending order.
structure Ranges where
  table : Array (Nat × Nat)

namespace Ranges

-- Reads entries such as `41-5a`, or `aa` for a range of one.
def ofLines (lines : List String) : Ranges :=
  ⟨((entries lines).map fun entry =>
    match Text.splitOn '-' entry with
    | [first, last] => (hexValue first, hexValue last)
    | _ => (hexValue entry, hexValue entry)).toArray⟩

def contains (r : Ranges) (c : Char) : Bool :=
  match lastEntry? r.table c.toNat with
  | none => false
  | some (_, last) => c.toNat ≤ last

end Ranges

-- A label for every code point, given where each run of one label starts.
structure Runs where
  table : Array (Nat × String)

namespace Runs

-- Reads entries such as `41:Lu`.
def ofLines (lines : List String) : Runs :=
  ⟨((entries lines).map fun entry =>
    match Text.splitOn ':' entry with
    | [first, label] => (hexValue first, String.ofList label)
    | _ => (0, "")).toArray⟩

def labelAt (r : Runs) (c : Char) : String :=
  match lastEntry? r.table c.toNat with
  | none => ""
  | some (_, label) => label

end Runs

end Targeting.Unicode
