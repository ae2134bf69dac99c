import Targeting.Criteria.Evaluation
import Targeting.Index.Posting

namespace Targeting.Index

-- What a match needs to know of an instance: a conjunction of a criteria, or a whole formula of
-- disjunctions.
structure Instance where
  externalId : String
  -- How many slots have to be filled.
  slotCount : Nat
  -- Per disjunction, where its counter starts: the number of its exclusions below zero.
  seeds : List Int
deriving DecidableEq

-- A posting with the list that it goes to, and the caveat that decides whether a document addresses
-- that list. Lists of values are addressed by the values themselves.
structure Filing where
  place : Place
  caveat : Option Caveat
  posting : Posting

-- A posting with the literal that it is filed under, before repeated literals are told apart.
structure Literal where
  path : String
  token : Token
  caveat : Option Caveat
  posting : Posting

-- One token per value of a set, otherwise one for the caveat.
def tokens : Caveat → List Token
  | .oneOf keys => keys.toList.map .value
  | caveat => (caveat.token?.map (.caveat caveat.kind)).toList

-- The caveat that has to be tested on a document before a list is read.
def tested : Caveat → Option Caveat
  | .oneOf _ => none
  | caveat => some caveat

def literals (internalId : Nat) (externalId : String) (p : Predicate) (slot ordinal : Nat) :
    List Literal :=
  (tokens p.caveat).map fun token =>
    ⟨p.path, token, tested p.caveat,
      ⟨internalId, externalId, p.kind, .position slot, ordinal, p.weight⟩⟩

namespace Literal

def repeats (a b : Literal) : Bool := a.path == b.path && a.token == b.token

def filing (l : Literal) (occurrence : Nat) : Filing :=
  ⟨.literal l.path l.token occurrence, l.caveat, l.posting⟩

-- Each literal is numbered by how often it has come up before.
def filings (earlier : List Literal) : List Literal → List Filing
  | [] => []
  | l :: rest => l.filing (earlier.countP l.repeats) :: filings (l :: earlier) rest

end Literal

-- An instance that is ready to be filed.
structure Staged where
  internalId : Nat
  metadata : Instance
  filings : List Filing

-- An instance without slots is filed under the sentinel, too.
def Staged.make (internalId : Nat) (metadata : Instance) (literals : List Literal) : Staged :=
  ⟨internalId, metadata, Literal.filings [] literals
    ++ if metadata.slotCount = 0 then
        [⟨.sentinel, none, .sentinel internalId metadata.externalId⟩]
      else []⟩

-- In a conjunction every predicate is a slot, and the included ones have to be met.
def stageConjunction (internalId : Nat) (externalId : String) (c : Clause) : Staged :=
  .make internalId ⟨externalId, c.includedCount, []⟩
    (c.zipIdx.flatMap fun e => literals internalId externalId e.1 e.2 e.2)

-- In a formula every disjunction is a slot. One with an exclusion may hold without being met.
def stageFormula (internalId : Nat) (externalId : String) (clauses : List Clause) : Staged :=
  let predicates := clauses.zipIdx.flatMap fun e => e.1.map fun p => (p, e.2)
  .make internalId
    ⟨externalId, clauses.countP fun c => c.excludedCount == 0,
      clauses.map fun c => -(c.excludedCount : Int)⟩
    (predicates.zipIdx.flatMap fun e => literals internalId externalId e.1.1 e.1.2 e.2)

-- The instances of a criteria, with consecutive ids.
def stage (firstId : Nat) (criteria : Criteria) : List Staged :=
  match criteria.form with
  | .dnf => criteria.clauses.zipIdx.map fun e => stageConjunction (firstId + e.2) criteria.id e.1
  | .cnf => [stageFormula firstId criteria.id criteria.clauses]

end Targeting.Index
