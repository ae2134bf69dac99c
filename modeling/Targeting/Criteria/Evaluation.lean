import Targeting.Criteria.Basic

namespace Targeting

namespace Binary64

def maximum? : List Binary64 → Option Binary64
  | [] => none
  | x :: rest => some (rest.foldl max x)

end Binary64

namespace Clause

-- Read as a conjunction.
def holdsAll (c : Clause) (doc : Document) : Bool := c.all (·.evaluate doc)

-- Read as a disjunction.
def holdsAny (c : Clause) (doc : Document) : Bool := c.any (·.evaluate doc)

-- A conjunction that holds scores the sum of its included weights.
def conjunctionScore? (c : Clause) (doc : Document) : Option Binary64 :=
  if c.holdsAll doc then some (.sum ((c.filter Predicate.isIncluded).map Predicate.weight))
  else none

-- A disjunction that holds scores the highest weight of the included predicates that hold, or zero
-- when only exclusions do.
def disjunctionScore? (c : Clause) (doc : Document) : Option Binary64 :=
  let holding := c.filter (·.evaluate doc)
  if holding.isEmpty then none
  else
    some ((Binary64.maximum?
      ((holding.filter Predicate.isIncluded).map Predicate.weight)).getD .zero)

end Clause

-- The score of what does not hold.
def noMatch : Binary64 := -.one

namespace Clause

def conjunctionScore (c : Clause) (doc : Document) : Binary64 :=
  (c.conjunctionScore? doc).getD noMatch

def disjunctionScore (c : Clause) (doc : Document) : Binary64 :=
  (c.disjunctionScore? doc).getD noMatch

end Clause

namespace Definition

def evaluate (d : Definition) (doc : Document) : Bool :=
  match d.form with
  | .dnf => d.clauses.any (·.holdsAll doc)
  | .cnf => d.clauses.all (·.holdsAny doc)

-- The best of the conjunctions that hold, or the sum over the disjunctions when all hold.
def score? (d : Definition) (doc : Document) : Option Binary64 :=
  match d.form with
  | .dnf => Binary64.maximum? (d.clauses.filterMap (·.conjunctionScore? doc))
  | .cnf => (d.clauses.mapM fun c => Clause.disjunctionScore? c doc).map Binary64.sum

def score (d : Definition) (doc : Document) : Binary64 := (d.score? doc).getD noMatch

end Definition

end Targeting
