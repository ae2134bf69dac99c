import Targeting.Index.Candidate

namespace Targeting.Index

-- A contradiction, with the instance that shows it.
structure Inconsistency where
  internalId : Nat
  contradiction : Contradiction
deriving DecidableEq

-- The ids that the instances of one criteria were ever given, as far as compaction has not forgotten
-- them, and those of its current version. A criteria that is deleted has no current version.
structure Versions where
  history : List Nat
  live : List Nat
deriving DecidableEq

namespace Versions

def empty : Versions := ⟨[], []⟩

def newest? (v : Versions) : Option Nat := v.history.max?

-- Nothing is left of a criteria without a current version, and of the others the newest id.
def compact? (v : Versions) : Option Versions :=
  if v.live.isEmpty then none else some ⟨v.newest?.toList, v.live⟩

end Versions

-- The criteria of one form, found by their literals. A criteria that is replaced or deleted leaves
-- stale instances behind, which compaction removes.
structure FormIndex where
  form : Form
  -- How many instances may go stale before compaction comes by itself. Zero leaves it to the caller.
  compactionThreshold : Nat
  nextId : Nat
  table : Table
  versions : SortedMap String Versions
  instances : SortedMap Nat Instance
  -- How many instances went stale since the last compaction.
  stale : Nat

structure FormIndexStats where
  liveInstances : Nat
  staleInstances : Nat
  postingEntries : Nat
  rows : Nat
deriving DecidableEq

namespace FormIndex

def empty (form : Form) (compactionThreshold : Nat) : FormIndex :=
  ⟨form, compactionThreshold, 0, .empty, .empty, .empty, 0⟩

-- The instances of the current version of a criteria.
def liveOf (s : FormIndex) (externalId : String) : List Nat :=
  ((s.versions.find? externalId).map Versions.live).getD []

-- The highest id that a criteria was given.
def newest? (s : FormIndex) (externalId : String) : Option Nat :=
  (s.versions.find? externalId).bind Versions.newest?

def liveIds (s : FormIndex) : List Nat := s.versions.values.flatMap Versions.live

-- Removes all that is filed for instances that are not live, and counts the postings that go.
def compact (s : FormIndex) : FormIndex × Nat :=
  let ids := s.liveIds
  let retained := s.table.retain ids.contains
  ({ s with
      table := retained.1
      versions := s.versions.filterMap fun _ v => v.compact?
      instances := s.instances.filter fun id _ => ids.contains id
      stale := 0 },
    retained.2)

def isDue (s : FormIndex) : Bool := 0 < s.compactionThreshold && s.compactionThreshold ≤ s.stale

def compactIfDue (s : FormIndex) : FormIndex := if s.isDue then s.compact.1 else s

-- Files one instance.
def file (s : FormIndex) (staged : Staged) : FormIndex :=
  { s with
    table := s.table.file staged
    instances := s.instances.insert staged.internalId staged.metadata }

-- Makes instances the current version of a criteria, in place of the one before.
def flip (s : FormIndex) (externalId : String) (ids : List Nat) : FormIndex :=
  { s with
    versions := s.versions.upsert externalId .empty fun v => ⟨v.history ++ ids, ids⟩
    stale := s.stale + (s.liveOf externalId).length }

-- Files a criteria under new ids and makes it the current version, unless a newer one is there.
def publish (s : FormIndex) (criteria : Criteria) : FormIndex :=
  let staged := stage s.nextId criteria
  let ids := staged.map Staged.internalId
  let allocated := { s with nextId := s.nextId + staged.length }
  if (s.newest? criteria.id).any fun newest => ids.all (· < newest) then allocated
  else ((staged.foldl file allocated).flip criteria.id ids).compactIfDue

-- Leaves a criteria without a current version.
def retire (s : FormIndex) (externalId : String) : FormIndex :=
  match s.versions.find? externalId with
  | none => s.compactIfDue
  | some v =>
    { s with
      versions := s.versions.insert externalId ⟨v.history, []⟩
      stale := s.stale + v.live.length }.compactIfDue

-- Records a candidate that is live and holds.
def accept (s : FormIndex) (found : MatchSet) (c : Candidate) : Except Inconsistency MatchSet :=
  match c.postings.head? with
  | none => .ok found
  | some first =>
    if c.isExcluded s.form then .ok found
    else if (s.liveOf first.externalId).contains c.internalId then
      match s.instances.find? c.internalId with
      | none => .error ⟨c.internalId, .noMetadata⟩
      | some i =>
        match c.score? s.form i with
        | .error contradiction => .error ⟨c.internalId, contradiction⟩
        | .ok none => .ok found
        | .ok (some score) => .ok (found.insertMax i.externalId score)
    else
      .ok found

-- The criteria that a document satisfies.
def search (s : FormIndex) (doc : Document) : Except Inconsistency MatchSet :=
  (s.table.rows.entries.flatMap fun e => e.2.candidates e.1 doc).foldlM s.accept .empty

def stats (s : FormIndex) : FormIndexStats where
  liveInstances := s.liveIds.length
  staleInstances := s.instances.size - s.liveIds.length
  postingEntries := s.table.postingCount
  rows := s.table.rows.size

end FormIndex

end Targeting.Index
