import Targeting.Predicate

namespace Targeting.Search

-- Searches over the positions below `size`, of which first come those that are `before` what is
-- sought and then the others. Every probe carries the proof that it is below `size`.

-- The first position from `lo` on that is not before, or `hi` when there is none below it.
def partitionPoint {size : Nat} (before : Fin size → Bool) (lo hi : Nat) (h : hi ≤ size) : Nat :=
  if hlt : lo < hi then
    if before ⟨lo + (hi - lo) / 2, by omega⟩ then
      partitionPoint before (lo + (hi - lo) / 2 + 1) hi h
    else
      partitionPoint before lo (lo + (hi - lo) / 2) (by omega)
  else
    lo
termination_by hi - lo

-- Walks on from a position that is before, the steps doubling, and returns the last position found
-- to be before with the one that it did not get past.
def bracket {size : Nat} (before : Fin size → Bool) (lo step : Nat) (hstep : 0 < step) : Nat × Nat :=
  if h : lo + step < size then
    if before ⟨lo + step, h⟩ then bracket before (lo + step) (2 * step) (by omega)
    else (lo, lo + step)
  else
    (lo, size)
termination_by size - lo

-- The first position from `start` on that is not before. The number of probes grows with the
-- logarithm of the distance.
def gallop {size : Nat} (before : Fin size → Bool) (start : Nat) : Nat :=
  if h : start < size then
    if before ⟨start, h⟩ then
      let ends := bracket before start 1 Nat.one_pos
      partitionPoint before (ends.1 + 1) (min ends.2 size) (Nat.min_le_right _ _)
    else
      start
  else
    start

end Targeting.Search

namespace Targeting.Index

-- What the predicates filed in one list have in common beside their path: a value that they accept,
-- or the whole caveat, given by its kind and text.
inductive Token where
  | value (key : Key)
  | caveat (kind : CaveatKind) (text : String)
deriving DecidableEq

namespace Token

-- Values come first, then caveats by kind and text.
def rank : Token → Nat
  | value _ => 0
  | caveat kind _ => kind.rank + 1

def key : Token → Key
  | value key => key
  | caveat _ _ => .bool false

def text : Token → String
  | value _ => ""
  | caveat _ text => text

instance : Ord Token :=
  ⟨compareLex (compareOn rank) (compareLex (compareOn key) (compareOn text))⟩

instance : Std.TransOrd Token :=
  inferInstanceAs (Std.TransCmp
    (compareLex (compareOn rank) (compareLex (compareOn key) (compareOn text))))

instance : Std.LawfulEqOrd Token where
  eq_of_compare {a b} h := by
    change compareLex _ _ a b = .eq at h
    simp only [compareLex, compareOn, Ordering.then_eq_eq, Std.compare_eq_iff_eq] at h
    obtain ⟨hr, hk, ht⟩ := h
    cases a <;> cases b <;> simp_all [rank, key, text]
    case caveat.caveat k _ l _ => cases k <;> cases l <;> simp_all [CaveatKind.rank]

end Token

-- The list that a posting belongs to. Literals that one instance repeats are told apart by their
-- occurrence, so that each is met in a list of its own.
inductive Place where
  | literal (path : String) (token : Token) (occurrence : Nat)
  -- The list that every document addresses.
  | sentinel
deriving DecidableEq

-- What a posting speaks for in its instance: a predicate of a conjunction or a disjunction of a
-- formula, by position.
inductive Slot where
  | position (n : Nat)
  -- Nothing: the instance has no slot to be filled.
  | sentinel
deriving DecidableEq

namespace Slot

-- The sentinel comes after all positions.
def isSentinel : Slot → Bool
  | position _ => false
  | sentinel => true

def number : Slot → Nat
  | position n => n
  | sentinel => 0

instance : Ord Slot := ⟨compareLex (compareOn isSentinel) (compareOn number)⟩

instance : Std.TransOrd Slot :=
  inferInstanceAs (Std.TransCmp (compareLex (compareOn isSentinel) (compareOn number)))

instance : Std.LawfulEqOrd Slot where
  eq_of_compare {a b} h := by
    change compareLex _ _ a b = .eq at h
    simp only [compareLex, compareOn, Ordering.then_eq_eq, Std.compare_eq_iff_eq] at h
    obtain ⟨hs, hn⟩ := h
    cases a <;> cases b <;> simp_all [isSentinel, number]

end Slot

-- One predicate of one instance, as a list holds it.
structure Posting where
  internalId : Nat
  externalId : String
  kind : PredicateKind
  slot : Slot
  -- The position of the predicate among all those of the instance.
  ordinal : Nat
  weight : Binary64
deriving DecidableEq

namespace Posting

-- The order within a list: by id, exclusions first, then by slot.
def order : Posting → Posting → Ordering :=
  compareLex (compareOn internalId)
    (compareLex (compareOn fun p => p.kind.rank) (compareOn slot))

-- The highest number of 32 bits, which is the ordinal of no predicate.
def sentinelOrdinal : Nat := 0xffffffff

-- The posting that makes an instance without slots a candidate for every document.
def sentinel (internalId : Nat) (externalId : String) : Posting :=
  ⟨internalId, externalId, .included, .sentinel, sentinelOrdinal, .zero⟩

end Posting

structure PostingList where
  postings : Array Posting
deriving DecidableEq

namespace PostingList

def empty : PostingList := ⟨#[]⟩

def size (l : PostingList) : Nat := l.postings.size

def isEmpty (l : PostingList) : Bool := l.postings.isEmpty

def toList (l : PostingList) : List Posting := l.postings.toList

-- The first position whose posting is not ordered before `p`.
def position (l : PostingList) (p : Posting) : Nat :=
  Search.partitionPoint (fun i : Fin l.postings.size => l.postings[i].order p == .lt) 0
    l.postings.size (Nat.le_refl _)

-- Files a posting in order, in place of one of equal rank if there is one. New ids are the highest,
-- so most postings go to the end.
def insert (l : PostingList) (p : Posting) : PostingList :=
  if l.postings.back?.all fun last => last.order p == .lt then
    ⟨l.postings.push p⟩
  else
    let i := l.position p
    if l.postings[i]?.any fun q => q.order p == .eq then ⟨l.postings.setIfInBounds i p⟩
    else ⟨l.postings.insertIdxIfInBounds i p⟩

-- Keeps the postings of some ids, and counts those that go.
def retain (l : PostingList) (keep : Nat → Bool) : PostingList × Nat :=
  let kept : PostingList := ⟨l.postings.filter fun p => keep p.internalId⟩
  (kept, l.size - kept.size)

-- The first position from `start` on whose id is at least `target`.
def seek (l : PostingList) (start target : Nat) : Nat :=
  Search.gallop (fun i : Fin l.postings.size => decide (l.postings[i].internalId < target)) start

-- The postings from `start` on, as long as they have one id.
def run (l : PostingList) (id start : Nat) : List Posting :=
  if h : start < l.postings.size then
    if l.postings[start].internalId = id then l.postings[start] :: l.run id (start + 1) else []
  else
    []
termination_by l.postings.size - start

end PostingList

end Targeting.Index
