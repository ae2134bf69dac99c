import Targeting.Predicate

namespace Targeting

-- The shape of a boolean formula: an or of ands, or an and of ors.
inductive Form where
  | dnf
  | cnf
deriving DecidableEq

-- A conjunction in the one form, a disjunction in the other.
abbrev Clause := List Predicate

-- A formula with the id by which clients know it, as it was written.
structure Definition where
  id : String
  form : Form
  clauses : List Clause

inductive DefinitionFault where
  | emptyId
  | noClauses (id : String)
  | emptyClause (id : String) (position : Nat)
  | predicate (fault : PredicateFault)
deriving DecidableEq

namespace DefinitionFault

def message : DefinitionFault → String
  | emptyId => "criteria id must not be empty"
  | noClauses id => "criteria '" ++ id ++ "' has no clauses"
  | emptyClause id position =>
    "clause " ++ Nat.repr position ++ " of criteria '" ++ id ++ "' has no predicates"
  | predicate fault => fault.message

end DefinitionFault

namespace Clause

def includedCount (c : Clause) : Nat := c.countP Predicate.isIncluded

def excludedCount (c : Clause) : Nat := c.countP Predicate.isExcluded

-- The first fault of the clause at a position of the criteria with an id.
def fault? (id : String) (position : Nat) (c : Clause) : Option DefinitionFault :=
  if c.isEmpty then some (.emptyClause id position)
  else (c.findSome? Predicate.fault?).map .predicate

def sameAs (c d : Clause) : Bool := c.length == d.length && (c.zip d).all fun e => e.1.same e.2

end Clause

namespace Definition

def predicates (d : Definition) : List Predicate := d.clauses.flatten

-- The first fault, clause by clause and predicate by predicate.
def fault? (d : Definition) : Option DefinitionFault :=
  if d.id.isEmpty then some .emptyId
  else if d.clauses.isEmpty then some (.noClauses d.id)
  else d.clauses.zipIdx.findSome? fun e => Clause.fault? d.id e.2 e.1

-- Whether the defaults of all predicates are those that an index gives to absent fields.
def isIndexable (d : Definition) : Bool := d.predicates.all Predicate.hasNaturalDefault

def same (d e : Definition) : Bool :=
  d.id == e.id && d.form == e.form && d.clauses.length == e.clauses.length
    && (d.clauses.zip e.clauses).all fun c => Clause.sameAs c.1 c.2

def display (d : Definition) : String :=
  let (keyword, inner, outer) := match d.form with
    | .dnf => ("dnf ", " and ", " or ")
    | .cnf => ("cnf ", " or ", " and ")
  let clause (c : Clause) := "(" ++ inner.intercalate (c.map Predicate.display) ++ ")"
  keyword ++ quoted d.id ++ " \x7b " ++ outer.intercalate (d.clauses.map clause) ++ " \x7d"

end Definition

-- A definition without fault.
structure Criteria extends Definition where
  valid : toDefinition.fault? = none

namespace Definition

def build (d : Definition) : Except DefinitionFault Criteria :=
  match h : d.fault? with
  | none => .ok ⟨d, h⟩
  | some fault => .error fault

-- Builds all definitions, or reports the first fault.
def buildAll : List Definition → Except DefinitionFault (List Criteria)
  | [] => .ok []
  | d :: rest =>
    match d.build with
    | .error fault => .error fault
    | .ok c => (buildAll rest).map (c :: ·)

end Definition

end Targeting
