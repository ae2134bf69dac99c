import Targeting.Index.Instance

namespace Targeting.Index

-- The lists of one path within a row.
structure PathRow where
  -- Per token, a list per occurrence.
  lists : SortedMap Token (List PostingList)
  -- The caveats that have lists here, to be tested on the values of a document. Those with one
  -- token are the same test, so the first to come stays.
  caveats : List (Token × Caveat)

-- The instances with one number of slots.
structure Row where
  paths : SortedMap String PathRow
  -- The instances without slots.
  sentinel : PostingList

-- Rows by number of slots.
structure Table where
  rows : SortedMap Nat Row

-- Files a posting in the list of an occurrence, with empty lists before it where there are none.
def fileAt (p : Posting) : Nat → List PostingList → List PostingList
  | 0, [] => [PostingList.empty.insert p]
  | 0, l :: rest => l.insert p :: rest
  | n + 1, [] => .empty :: fileAt p n []
  | n + 1, l :: rest => l :: fileAt p n rest

-- Without the empty lists at the end. An occurrence that is in use has all earlier ones in use.
def dropTrailingEmpty : List PostingList → List PostingList
  | [] => []
  | l :: rest =>
    match dropTrailingEmpty rest with
    | [] => if l.isEmpty then [] else [l]
    | kept => l :: kept

namespace PathRow

def empty : PathRow := ⟨.empty, []⟩

-- The lists that a token addresses.
def listsOf (r : PathRow) (token : Token) : List PostingList := (r.lists.find? token).getD []

def register (r : PathRow) (token : Token) (caveat : Option Caveat) : PathRow :=
  match caveat with
  | none => r
  | some c =>
    if r.caveats.any fun e => e.1 == token then r
    else { r with caveats := r.caveats ++ [(token, c)] }

def file (r : PathRow) (token : Token) (occurrence : Nat) (p : Posting) : PathRow :=
  { r with lists := r.lists.upsert token [] (fileAt p occurrence) }

-- Nothing is left of a path without postings.
def retain? (keep : Nat → Bool) (r : PathRow) : Option PathRow :=
  let lists := r.lists.filterMap fun _ ls =>
    let kept := dropTrailingEmpty (ls.map fun l => (l.retain keep).1)
    if kept.isEmpty then none else some kept
  if lists.isEmpty then none
  else some ⟨lists, r.caveats.filter fun e => lists.contains e.1⟩

def allLists (r : PathRow) : List PostingList := r.lists.values.flatten

end PathRow

namespace Row

def empty : Row := ⟨.empty, .empty⟩

def file (r : Row) (f : Filing) : Row :=
  match f.place with
  | .sentinel => { r with sentinel := r.sentinel.insert f.posting }
  | .literal path token occurrence =>
    { r with
      paths := r.paths.upsert path .empty fun pathRow =>
        (pathRow.register token f.caveat).file token occurrence f.posting }

def retain? (keep : Nat → Bool) (r : Row) : Option Row :=
  let kept : Row := ⟨r.paths.filterMap fun _ p => p.retain? keep, (r.sentinel.retain keep).1⟩
  if kept.paths.isEmpty && kept.sentinel.isEmpty then none else some kept

def allLists (r : Row) : List PostingList := r.paths.values.flatMap PathRow.allLists ++ [r.sentinel]

-- How many postings the lists lose.
def dropped (keep : Nat → Bool) (r : Row) : Nat :=
  r.allLists.foldl (fun dropped l => dropped + (l.retain keep).2) 0

end Row

namespace Table

def empty : Table := ⟨.empty⟩

-- Files an instance in the row of its number of slots.
def file (t : Table) (s : Staged) : Table :=
  ⟨s.filings.foldl (fun rows f => rows.upsert s.metadata.slotCount .empty (·.file f)) t.rows⟩

-- Keeps what is filed for some ids, and no row, path, token or caveat that has lost its postings.
-- Counts the postings that go.
def retain (keep : Nat → Bool) (t : Table) : Table × Nat :=
  (⟨t.rows.filterMap fun _ r => r.retain? keep⟩,
    t.rows.values.foldl (fun dropped r => dropped + r.dropped keep) 0)

def postings (t : Table) : List Posting :=
  (t.rows.values.flatMap Row.allLists).flatMap PostingList.toList

def postingCount (t : Table) : Nat := t.postings.length

end Table

end Targeting.Index
