import Targeting.Value.Basic

namespace Targeting

-- What is compared when values are compared for equality. An integral number has one key, whether
-- it was an integer or a float.
inductive Key where
  | bool (b : Bool)
  | int (n : Int64)
  -- A float that is no 64-bit integer. What is not a number has one key.
  | float (x : Binary64)
  | text (s : String)
deriving DecidableEq

namespace Key

-- Keys are ordered by kind, then by content, floats by their bits. The four parts are compared one
-- after the other, and only one of them differs between keys of a kind.
def kindRank : Key → Nat
  | bool _ => 0
  | int _ => 1
  | float _ => 2
  | text _ => 3

def numberRank : Key → Int
  | bool b => if b then 1 else 0
  | int n => n.toInt
  | float x => x.toBits
  | text _ => 0

def textRank : Key → String
  | text s => s
  | _ => ""

instance : Ord Key :=
  ⟨compareLex (compareOn kindRank) (compareLex (compareOn numberRank) (compareOn textRank))⟩

instance : Std.TransOrd Key :=
  inferInstanceAs (Std.TransCmp
    (compareLex (compareOn kindRank) (compareLex (compareOn numberRank) (compareOn textRank))))

theorem eq_of_ranks {a b : Key} (hk : a.kindRank = b.kindRank) (hn : a.numberRank = b.numberRank)
    (ht : a.textRank = b.textRank) : a = b := by
  cases a <;> cases b <;> simp_all [kindRank, numberRank, textRank]
  case bool.bool a b => cases a <;> cases b <;> simp_all
  case int.int a b => exact Int64.toInt_inj.mp hn
  case float.float x y => exact Binary64.toBits_injective (by omega)

theorem compare_eq_iff_ranks {a b : Key} :
    compare a b = .eq ↔ a.kindRank = b.kindRank ∧ a.numberRank = b.numberRank
      ∧ a.textRank = b.textRank := by
  change compareLex _ _ a b = .eq ↔ _
  simp only [compareLex, compareOn, Ordering.then_eq_eq, Std.compare_eq_iff_eq]

instance : Std.LawfulEqOrd Key where
  eq_of_compare h := by
    obtain ⟨hk, hn, ht⟩ := compare_eq_iff_ranks.mp h
    exact eq_of_ranks hk hn ht

def display : Key → String
  | bool b => boolText b
  | int n => Text.intText n.toInt
  | float x => x.toText
  | text s => quoted s

end Key

namespace Value

-- The 64-bit integer that a float is, if it is one.
def floatInt64? (x : Binary64) : Option Int64 :=
  x.toInt?.bind fun n =>
    if Int64.minValue.toInt ≤ n ∧ n ≤ Int64.maxValue.toInt then some (Int64.ofInt n) else none

def key : Value → Key
  | int n => .int n
  | float x =>
    match floatInt64? x with
    | some n => .int n
    | none => .float (if x.isNaN then .notANumber else x)
  | bool b => .bool b
  | text s => .text s

def ofKey : Key → Value
  | .bool b => bool b
  | .int n => int n
  | .float x => float x
  | .text s => text s

end Value

-- A set of keys, in ascending order.
abbrev KeySet := SortedMap Key Unit

namespace KeySet

def insert (keys : KeySet) (k : Key) : KeySet := SortedMap.insert keys k ()

def ofValues (values : List Value) : KeySet :=
  values.foldl (fun keys v => insert keys v.key) SortedMap.empty

def toList (keys : KeySet) : List Key := SortedMap.keys keys

end KeySet

end Targeting
