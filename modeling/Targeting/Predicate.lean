import Targeting.Caveat
import Targeting.Pattern.Standard

namespace Targeting

-- Whether a predicate asserts its caveat or its negation.
inductive PredicateKind where
  | excluded
  | included
deriving DecidableEq

namespace PredicateKind

-- Exclusions come first among the entries of one instance.
def rank : PredicateKind → Nat
  | excluded => 0
  | included => 1

def flip : PredicateKind → PredicateKind
  | excluded => included
  | included => excluded

end PredicateKind

-- A test of one field. The weight counts towards the score when an included predicate holds.
structure Predicate where
  kind : PredicateKind
  path : String
  caveat : Caveat
  weight : Binary64
  -- The result when the field is absent, where it is not the natural one.
  override : Option Bool

inductive PredicateFault where
  | emptyPath
  | invalidWeight (path : String)
  | caveat (path : String) (fault : CaveatFault)
deriving DecidableEq

namespace PredicateFault

def message : PredicateFault → String
  | emptyPath => "predicate path must not be empty"
  | invalidWeight path => "weight on '" ++ path ++ "' must be finite"
  | caveat path .emptyValueSet => "predicate on '" ++ path ++ "' has an empty value set"
  | caveat path (.invalidPattern pattern) => "invalid pattern '" ++ pattern ++ "' on '" ++ path ++ "'"
  | caveat path (.invalidRange fault) => "invalid range on '" ++ path ++ "': " ++ fault.reason
  | caveat path (.invalidVersion base) => "invalid version base '" ++ base ++ "' on '" ++ path ++ "'"

end PredicateFault

namespace Predicate

def make (kind : PredicateKind) (path : String) (caveat : Caveat) : Predicate :=
  ⟨kind, path, caveat, .zero, none⟩

def withWeight (p : Predicate) (weight : Binary64) : Predicate := { p with weight }

def withDefault (p : Predicate) (result : Bool) : Predicate := { p with override := some result }

-- The negation, also where the field is absent.
def negate (p : Predicate) : Predicate :=
  { p with kind := p.kind.flip, override := p.override.map (!·) }

def isIncluded (p : Predicate) : Bool := p.kind == .included

def isExcluded (p : Predicate) : Bool := p.kind == .excluded

-- Without a value nothing is included and everything is excluded.
def naturalDefault (p : Predicate) : Bool := p.isExcluded

def defaultResult (p : Predicate) : Bool := p.override.getD p.naturalDefault

def hasNaturalDefault (p : Predicate) : Bool := p.defaultResult == p.naturalDefault

-- One value that passes the caveat is enough for it to hold of the field.
def evaluate (p : Predicate) (doc : Document) : Bool :=
  match doc.get? p.path with
  | none => p.defaultResult
  | some values => p.isExcluded != values.any p.caveat.accepts

def fault? (p : Predicate) : Option PredicateFault :=
  if p.path.isEmpty then some .emptyPath
  else if !p.weight.isFinite then some (.invalidWeight p.path)
  else p.caveat.fault?.map (.caveat p.path)

def display (p : Predicate) : String :=
  p.path ++ (if p.isExcluded then " not " else " ") ++ p.caveat.display
    ++ (if p.weight.isZero then "" else " weight " ++ p.weight.toText)
    ++ (match p.override with
      | some result => " default " ++ boolText result
      | none => "")

def same (p q : Predicate) : Bool :=
  p.kind == q.kind && p.path == q.path && p.caveat.same q.caveat && p.weight.same q.weight
    && p.override == q.override

end Predicate

end Targeting
