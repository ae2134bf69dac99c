import Targeting.Group

namespace Targeting.Audit

-- Searches without an index, by evaluating every stored criteria.
def scan (g : Group) (doc : Document) : MatchSet :=
  g.toList.foldl (fun found c =>
    match c.score? doc with
    | none => found
    | some score => found.insertMax c.id score) .empty

-- How a search differs from a scan.
inductive MismatchKind where
  | missingFromIndex
  | unexpectedInIndex
  | scoreDiffers (index scan : Binary64)
deriving DecidableEq

structure Mismatch where
  -- The position of the document.
  document : Nat
  id : String
  kind : MismatchKind
deriving DecidableEq

structure Report where
  documents : Nat
  mismatches : List Mismatch
deriving DecidableEq

def Report.isClean (r : Report) : Bool := r.mismatches.isEmpty

-- Scores may differ by 1e-9.
def tolerance : Binary64 := .ofDecimal false ⟨1, -9⟩

-- What is found for one id by a search and by a scan.
def mismatchKind? (index scan : Option Binary64) : Option MismatchKind :=
  match index, scan with
  | none, none => none
  | none, some _ => some .missingFromIndex
  | some _, none => some .unexpectedInIndex
  | some x, some y => if tolerance < (x - y).abs then some (.scoreDiffers x y) else none

-- The mismatches of one document, by ascending id.
def mismatches (document : Nat) (indexed scanned : MatchSet) : List Mismatch :=
  (indexed.merge scanned).ids.filterMap fun id =>
    (mismatchKind? (indexed.score? id) (scanned.score? id)).map (⟨document, id, ·⟩)

-- Compares searches with scans over a list of documents.
def ratify (g : Group) (docs : List Document) : Except IndexFault Report := do
  let found ← docs.zipIdx.mapM fun e =>
    (g.search e.1).map fun indexed => mismatches e.2 indexed (scan g e.1)
  return ⟨docs.length, found.flatten⟩

-- The keys of the values worth trying on a caveat: those that it lists or names, those at the edges
-- of a range, next to them and in its middle, and a higher and a lower version.
def literals : Caveat → List Key
  | .oneOf keys => keys.toList
  | .pattern p => [.text p.source]
  | .range r =>
    ((r.lo.toList ++ r.hi.toList).flatMap (fun bound => [bound - .one, bound, bound + .one])
      ++ match r.lo, r.hi with
        | some lo, some hi => [lo + (hi - lo) / .two]
        | _, _ => []).map fun x => (Value.float x).key
  | .version b => [.text b.base, .text (b.base ++ ".1"), .text "0"]

-- Per path that a predicate mentions, the keys worth trying.
def collected (g : Group) : SortedMap String KeySet :=
  (g.toList.flatMap fun c => c.predicates).foldl (fun byPath p =>
    byPath.upsert p.path .empty ((literals p.caveat).foldl KeySet.insert)) .empty

-- Per path, the distinct values worth trying, in the order of their keys.
def columns (g : Group) : List (String × List Value) :=
  (collected g).entries.map fun e => (e.1, e.2.toList.map Value.ofKey)

-- A document with a value for every path but the one at position `skip`. The values taken move on
-- by one from round to round, and from path to path.
def combined (columns : List (String × List Value)) (round skip : Nat) : Document :=
  columns.zipIdx.foldl (fun doc e =>
    if e.2 = skip then doc
    else
      match e.1.2[(round + e.2) % e.1.2.length]? with
      | none => doc
      | some v => doc.set e.1.1 v) .empty

-- The empty document, a document for each value, and then the combinations: as many rounds as the
-- longest column has values, each leaving out every path once and then none.
def samples (g : Group) : List Document :=
  let cs := columns g
  let widest := (cs.map fun c => c.2.length).foldl max 0
  .empty
    :: (cs.flatMap fun c => c.2.map fun v => Document.empty.set c.1 v)
    ++ (List.range widest).flatMap fun round =>
      (List.range (cs.length + 1)).map fun skip => combined cs round skip

def sampleDocuments (g : Group) (limit : Nat) : List Document := (samples g).take limit

end Targeting.Audit
