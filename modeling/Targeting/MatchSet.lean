import Targeting.Binary64.Decimal
import Targeting.SortedMap

namespace Targeting

-- A criteria that a document satisfies, with its score.
structure Match where
  id : String
  score : Binary64
deriving DecidableEq

def Match.display (m : Match) : String := m.id ++ " (" ++ m.score.toText ++ ")"

-- Higher scores come first, in the order of all bit patterns, and of equal ones the smaller id.
def Match.ranksBefore (a b : Match) : Bool :=
  ((b.score.totalCompare a.score).then (compare a.id b.id)).isLE

-- The criteria that a document satisfies.
structure MatchSet where
  scores : SortedMap String Binary64
deriving DecidableEq

namespace MatchSet

def empty : MatchSet := ⟨.empty⟩

-- Records a match. Of several for one id the highest score counts.
def insertMax (m : MatchSet) (id : String) (score : Binary64) : MatchSet :=
  ⟨m.scores.alter id fun old =>
    match old with
    | none => some score
    | some s => some (if s < score then score else s)⟩

-- Adds the matches of another set. Ids that are there keep their score.
def merge (m other : MatchSet) : MatchSet :=
  ⟨other.scores.entries.foldl (fun scores e => scores.insertNew e.1 e.2) m.scores⟩

def score? (m : MatchSet) (id : String) : Option Binary64 := m.scores.find? id

def size (m : MatchSet) : Nat := m.scores.size

def isEmpty (m : MatchSet) : Bool := m.scores.isEmpty

def ids (m : MatchSet) : List String := m.scores.keys

def toList (m : MatchSet) : List Match := m.scores.entries.map fun e => ⟨e.1, e.2⟩

def ranked (m : MatchSet) : List Match := m.toList.mergeSort Match.ranksBefore

def top (m : MatchSet) (n : Nat) : List Match := m.ranked.take n

def display (m : MatchSet) : String := "\x7b" ++ ", ".intercalate m.ids ++ "\x7d"

end MatchSet

end Targeting
