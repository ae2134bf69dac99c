import Targeting.SortedMap
import Targeting.Binary64.Decimal

namespace Targeting

-- A number as it was written: an integer of 64 bits, with a sign where it is below zero, or else a
-- float.
inductive Json.Number where
  | natural (n : UInt64)
  | negative (n : Int64)
  | float (x : Binary64)
deriving DecidableEq

namespace Json.Number

def asInt? : Number → Option Int64
  | natural n => if (n.toNat : Int) ≤ Int64.maxValue.toInt then some (Int64.ofNat n.toNat) else none
  | negative n => some n
  | float _ => none

def asFloat : Number → Binary64
  | natural n => Binary64.ofInt n.toNat
  | negative n => Binary64.ofInt n.toInt
  | float x => x

end Json.Number

-- A JSON value. The members of an object stand in ascending order of their names, each name once.
inductive Json where
  | null
  | bool (b : Bool)
  | number (n : Json.Number)
  | text (s : String)
  | array (items : List Json)
  | object (members : List (String × Json))

namespace Json

-- Of two members with one name the later one counts.
def insertMember (name : String) (value : Json) (members : List (String × Json)) :
    List (String × Json) :=
  SortedMap.alterEntries name (fun _ => some value) members

def isObject : Json → Bool
  | object _ => true
  | _ => false

end Json

end Targeting
