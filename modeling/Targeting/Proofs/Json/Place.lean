import Mathlib
import Targeting.Json.Basic
import Targeting.Proofs.SortedMap

namespace Targeting.Json

-- The members of every object stand in ascending order of their names, each name once.
inductive Ordered : Json → Prop where
  | null : Ordered null
  | bool (b : Bool) : Ordered (bool b)
  | number (n : Number) : Ordered (number n)
  | text (s : String) : Ordered (text s)
  | array {items : List Json} : (∀ v ∈ items, Ordered v) → Ordered (array items)
  | object {members : List (String × Json)} :
    (members.Pairwise fun a b => compare a.1 b.1 = .lt) → (∀ e ∈ members, Ordered e.2) →
    Ordered (object members)

-- A step from a container to what it holds.
inductive Step where
  | member (name : String)
  | item (index : Nat)
deriving DecidableEq

-- Where a value stands in another.
abbrev Place := List Step

def child? : Json → Step → Option Json
  | object members, .member name => SortedMap.lookUp? name members
  | array items, .item index => items[index]?
  | _, _ => none

def at? (json : Json) : Place → Option Json
  | [] => some json
  | s :: place => (json.child? s).bind fun child => child.at? place

-- Members come in the order of their names, and items as they stand.
inductive Step.Before : Step → Step → Prop where
  | member {a b : String} : compare a b = .lt → Before (.member a) (.member b)
  | item {i j : Nat} : i < j → Before (.item i) (.item j)

-- One place is visited before another when the first step that tells them apart is.
def Place.Before : Place → Place → Prop := List.Lex Step.Before

def Step.key? : Step → Option String
  | member name => some name
  | item _ => none

-- The names on the way. Items add none.
def Place.keys (place : Place) : List String := place.filterMap Step.key?

end Targeting.Json
