import Targeting.Index.Table
import Targeting.MatchSet

namespace Targeting.Index

-- A reading position in a list, not at its end.
structure Cursor where
  list : PostingList
  position : Fin list.postings.size

namespace Cursor

def at? (list : PostingList) (position : Nat) : Option Cursor :=
  if h : position < list.postings.size then some ⟨list, position, h⟩ else none

def current (c : Cursor) : Posting := c.list.postings[c.position]

def id (c : Cursor) : Nat := c.current.internalId

-- Moves to the first posting with the target's or a higher id, if there is one.
def seek? (c : Cursor) (target : Nat) : Option Cursor := at? c.list (c.list.seek c.position target)

-- The postings of the current id.
def run (c : Cursor) : List Posting := c.list.run c.id c.position

-- Moves past them.
def next? (c : Cursor) : Option Cursor := at? c.list (c.position + c.run.length)

def notAfter (a b : Cursor) : Bool := (a.current.order b.current).isLE

end Cursor

namespace Row

-- The lists of a row that a document addresses: those of its values, those of the caveats that one
-- of its values passes, and the sentinel.
def addressed (r : Row) (doc : Document) : List PostingList :=
  (doc.toList.flatMap fun field =>
    match r.paths.find? field.1 with
    | none => []
    | some pathRow =>
      ((KeySet.ofValues field.2).toList.flatMap fun key => pathRow.listsOf (.value key))
        ++ pathRow.caveats.flatMap fun e =>
          if field.2.any e.2.accepts then pathRow.listsOf e.1 else [])
    ++ [r.sentinel]

end Row

-- An id with all that the addressed lists hold for it.
structure Candidate where
  internalId : Nat
  postings : List Posting
deriving DecidableEq

-- The ids on which at least `need` of the cursors come to stand, ascending. No id below the one
-- that the cursor of that rank stands on can be on as many, so the cursors before it skip there.
def skipMerge (need : Nat) : Nat → List Cursor → List Candidate
  | 0, _ => []
  | fuel + 1, cursors =>
    let sorted := cursors.mergeSort Cursor.notAfter
    match sorted.head?, sorted[need - 1]? with
    | some first, some ranked =>
      if first.id = ranked.id then
        let on := sorted.takeWhile fun c => c.id == first.id
        let later := sorted.dropWhile fun c => c.id == first.id
        ⟨first.id, on.flatMap Cursor.run⟩
          :: skipMerge need fuel (on.filterMap Cursor.next? ++ later)
      else
        skipMerge need fuel
          ((sorted.take (need - 1)).filterMap (·.seek? ranked.id) ++ sorted.drop (need - 1))
    | _, _ => []

-- The candidates of a row with `slotCount` slots. Every round moves a cursor past a posting, so there
-- are no more rounds than postings.
def Row.candidates (r : Row) (slotCount : Nat) (doc : Document) : List Candidate :=
  let lists := r.addressed doc
  skipMerge (max slotCount 1) ((lists.flatMap PostingList.toList).length + 1)
    (lists.filterMap (Cursor.at? · 0))

-- How an index contradicts itself. No operation brings this about.
inductive Contradiction where
  | noMetadata
  | noDisjunction (position : Nat)
deriving DecidableEq

def Contradiction.reason : Contradiction → String
  | noMetadata => "live instance has no metadata"
  | noDisjunction position => "disjunction " ++ Nat.repr position ++ " out of range"

namespace Candidate

-- The distinct slots that were met, with the weight of each.
def slots (c : Candidate) : SortedMap Slot Binary64 :=
  c.postings.foldl (fun met p => met.insertNew p.slot p.weight) .empty

-- An exclusion that is met settles a conjunction. A formula may hold with it.
def isExcluded (c : Candidate) : Form → Bool
  | .dnf => c.postings.any fun p => p.kind == .excluded
  | .cnf => false

-- A conjunction without exclusions that are met holds when every slot is. It scores its weights in the
-- order of the slots.
def conjunctionScore? (c : Candidate) (i : Instance) : Option Binary64 :=
  if c.slots.size < max i.slotCount 1 then none
  else some (.sum ((c.slots.filter fun slot _ => !slot.isSentinel).values))

end Candidate

-- The state of one disjunction: a counter that is zero as long as nothing makes the disjunction
-- hold, and the highest weight of what is included and met.
structure Tally where
  count : Int
  best : Option Binary64
deriving DecidableEq

namespace Tally

def start (seed : Int) : Tally := ⟨seed, none⟩

-- An exclusion that is met no longer holds. When none is left the counter is at zero.
def meetExclusion (t : Tally) : Tally := { t with count := t.count + 1 }

def meetInclusion (t : Tally) (weight : Binary64) : Tally :=
  ⟨1, some (match t.best with
    | none => weight
    | some best => best.max weight)⟩

def holds (t : Tally) : Bool := t.count != 0

end Tally

-- The disjunctions of a formula while its postings are counted. An exclusion may be met through
-- several of its values and counts once.
structure Tallies where
  disjunctions : List Tally
  excluded : List Nat
deriving DecidableEq

namespace Tallies

def start (seeds : List Int) : Tallies := ⟨seeds.map .start, []⟩

def count (t : Tallies) (p : Posting) : Except Contradiction Tallies :=
  match p.slot with
  | .sentinel => .ok t
  | .position d =>
    if d < t.disjunctions.length then
      match p.kind with
      | .included => .ok { t with disjunctions := t.disjunctions.modify d (·.meetInclusion p.weight) }
      | .excluded =>
        if t.excluded.contains p.ordinal then .ok t
        else .ok ⟨t.disjunctions.modify d .meetExclusion, p.ordinal :: t.excluded⟩
    else
      .error (.noDisjunction d)

-- The sum of the highest weights, if all disjunctions hold.
def score? (t : Tallies) : Option Binary64 :=
  if t.disjunctions.all Tally.holds then
    some (.sum (t.disjunctions.map fun d => d.best.getD .zero))
  else none

end Tallies

namespace Candidate

def formulaScore? (c : Candidate) (i : Instance) : Except Contradiction (Option Binary64) :=
  (c.postings.foldlM Tallies.count (.start i.seeds)).map Tallies.score?

-- The score of a candidate that is not excluded, if it holds.
def score? (c : Candidate) (form : Form) (i : Instance) : Except Contradiction (Option Binary64) :=
  match form with
  | .dnf => .ok (c.conjunctionScore? i)
  | .cnf => c.formulaScore? i

end Candidate

end Targeting.Index
