import Targeting.Criteria.Evaluation

namespace Targeting

-- How one predicate came out on a document.
structure PredicateTrace where
  path : String
  kind : PredicateKind
  caveat : CaveatKind
  description : String
  -- The values found, none when the field is absent and the default counts.
  actual : List Value
  result : Bool

structure ClauseTrace where
  result : Bool
  score : Binary64
  predicates : List PredicateTrace

structure Trace where
  id : String
  form : Form
  result : Bool
  score : Binary64
  clauses : List ClauseTrace

namespace PredicateTrace

def defaulted (t : PredicateTrace) : Bool := t.actual.isEmpty

def display (t : PredicateTrace) : String :=
  t.description ++ " -> " ++ boolText t.result
    ++ " [" ++ ", ".intercalate (t.actual.map Value.display) ++ "]"
    ++ (if t.defaulted then " (default)" else "")

end PredicateTrace

def ClauseTrace.display (t : ClauseTrace) (position : Nat) : String :=
  "\n  clause " ++ Nat.repr position ++ ": " ++ boolText t.result
    ++ " (score " ++ t.score.toText ++ ")"
    ++ String.join (t.predicates.map fun p => "\n    " ++ p.display)

def Trace.display (t : Trace) : String :=
  t.id ++ " = " ++ boolText t.result ++ " (score " ++ t.score.toText ++ ")"
    ++ String.join (t.clauses.zipIdx.map fun e => e.1.display e.2)

def Predicate.trace (p : Predicate) (doc : Document) : PredicateTrace where
  path := p.path
  kind := p.kind
  caveat := p.caveat.kind
  description := p.display
  actual := (doc.get? p.path).getD []
  result := p.evaluate doc

namespace Definition

def traceClause (d : Definition) (c : Clause) (doc : Document) : ClauseTrace where
  result := match d.form with
    | .dnf => c.holdsAll doc
    | .cnf => c.holdsAny doc
  score := match d.form with
    | .dnf => c.conjunctionScore doc
    | .cnf => c.disjunctionScore doc
  predicates := c.map (·.trace doc)

-- An evaluation with the outcome of every clause and predicate.
def trace (d : Definition) (doc : Document) : Trace where
  id := d.id
  form := d.form
  result := d.evaluate doc
  score := d.score doc
  clauses := d.clauses.map fun c => d.traceClause c doc

end Definition

end Targeting
