import Targeting.Binary64.Decimal
import Targeting.SortedMap

namespace Targeting

-- A scalar that a document field carries, or that a predicate lists.
inductive Value where
  | int (n : Int64)
  | float (x : Binary64)
  | bool (b : Bool)
  | text (s : String)
deriving DecidableEq

def boolText (b : Bool) : String := if b then "true" else "false"

-- Text in quotation marks, as it stands: nothing in it is escaped.
def quoted (s : String) : String := "\"" ++ s ++ "\""

namespace Value

-- The number that a value is, rounded when an integer has more than 53 bits.
def asNumber? : Value → Option Binary64
  | int n => some (Binary64.ofInt n.toInt)
  | float x => some x
  | bool _ => none
  | text _ => none

def asText? : Value → Option String
  | text s => some s
  | _ => none

def display : Value → String
  | int n => Text.intText n.toInt
  | float x => x.toText
  | bool b => boolText b
  | text s => quoted s

end Value

-- A flat document: field paths with the values recorded under each.
structure Document where
  fields : SortedMap String (List Value)

namespace Document

def empty : Document := ⟨.empty⟩

-- Records one value in place of what was there.
def set (doc : Document) (path : String) (v : Value) : Document := ⟨doc.fields.insert path [v]⟩

-- Records one more value after those that are there.
def push (doc : Document) (path : String) (v : Value) : Document :=
  ⟨doc.fields.upsert path [] (· ++ [v])⟩

def ofList (pairs : List (String × Value)) : Document :=
  pairs.foldl (fun doc e => doc.push e.1 e.2) empty

-- The values under a path, if there is one.
def get? (doc : Document) (path : String) : Option (List Value) :=
  (doc.fields.find? path).filter fun values => !values.isEmpty

-- The fields that hold a value, by ascending path.
def toList (doc : Document) : List (String × List Value) :=
  doc.fields.entries.filter fun e => !e.2.isEmpty

def size (doc : Document) : Nat := doc.fields.size

def isEmpty (doc : Document) : Bool := doc.fields.isEmpty

end Document

end Targeting
