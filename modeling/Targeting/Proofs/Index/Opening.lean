import Mathlib
import Targeting.Proofs.Index.Addressed
import Targeting.Proofs.Index.Representation
import Targeting.Proofs.Index.SkipMerge

namespace Targeting.Index

theorem map_getElem?_range {α : Type} (l : List α) :
    (List.range l.length).map (fun n => l[n]?) = l.map some :=
  List.ext_getElem (by simp) fun n _ _ => by simp

namespace PathRow

variable {p : PathRow} {path : String} {values : List Value} {place : Place}

-- The places of the lists that values address.
def places (p : PathRow) (path : String) (values : List Value) : List Place :=
  (p.passed values).flatMap fun token =>
    (List.range (p.listsOf token).length).map fun n => .literal path token n

theorem mem_places : place ∈ p.places path values ↔
    ∃ token ∈ p.passed values, ∃ n < (p.listsOf token).length, .literal path token n = place := by
  simp only [places, List.mem_flatMap, List.mem_map, List.mem_range]

theorem nodup_places (hp : p.Ordered) (path : String) (values : List Value) :
    (p.places path values).Nodup := by
  refine List.nodup_flatMap.mpr ⟨fun token _ => ?_, (nodup_passed hp values).imp fun hne => ?_⟩
  · exact List.nodup_range.map fun m n h => by cases h; rfl
  · intro place hplace hother
    obtain ⟨m, -, rfl⟩ := List.mem_map.mp hplace
    obtain ⟨n, -, heq⟩ := List.mem_map.mp hother
    cases heq
    exact hne rfl

end PathRow

namespace Row

variable {r : Row} {doc : Document} {place : Place}

def listAt? (r : Row) : Place → Option PostingList
  | .literal path token occurrence =>
    (r.paths.find? path).bind fun p => (p.listsOf token)[occurrence]?
  | .sentinel => some r.sentinel

-- The places that a document addresses: those of its values, those of the caveats that one of its
-- values passes, and that of the sentinel.
inductive Addresses (r : Row) (doc : Document) : Place → Prop where
  | value {path : String} {values : List Value} {v : Value} {occurrence : Nat}
      (hvalues : doc.get? path = some values) (hv : v ∈ values) :
      r.Addresses doc (.literal path (.value v.key) occurrence)
  | caveat {path : String} {values : List Value} {v : Value} {p : PathRow} {token : Token}
      {c : Caveat} {occurrence : Nat} (hvalues : doc.get? path = some values)
      (hp : r.paths.find? path = some p) (hc : (token, c) ∈ p.caveats) (hv : v ∈ values)
      (haccepts : c.accepts v = true) : r.Addresses doc (.literal path token occurrence)
  | sentinel : r.Addresses doc .sentinel

-- Cursors on the lists that a document addresses, one at the start of each that is not empty.
structure Opens (r : Row) (doc : Document) (cursors : List Cursor) : Prop where
  start : ∀ c ∈ cursors, c.position.val = 0
  once : ∃ places : List Place, places.Nodup ∧
    (∀ place, place ∈ places ↔
      r.Addresses doc place ∧ ∃ l, r.listAt? place = some l ∧ l.toList ≠ []) ∧
    places.map r.listAt? = cursors.map fun c => some c.list

-- In the order in which the lists are opened.
def places (r : Row) (doc : Document) : List Place :=
  (doc.toList.flatMap fun field =>
    ((r.paths.find? field.1).map fun p => p.places field.1 field.2).getD []) ++ [.sentinel]

theorem mem_places :
    place ∈ r.places doc ↔ r.Addresses doc place ∧ (r.listAt? place).isSome = true := by
  rw [places, List.mem_append, List.mem_singleton, List.mem_flatMap]
  constructor
  · rintro (⟨⟨path, values⟩, hfield, hplace⟩ | rfl)
    · have hvalues := Document.mem_toList.mp hfield
      cases hp : r.paths.find? path with
      | none => simp [hp] at hplace
      | some p =>
        rw [hp, Option.map_some, Option.getD_some, PathRow.mem_places] at hplace
        obtain ⟨token, htoken, n, hn, rfl⟩ := hplace
        refine ⟨?_, by simpa [listAt?, hp] using hn⟩
        rcases PathRow.mem_passed.mp htoken with ⟨v, hv, rfl⟩ | ⟨c, hc, v, hv, haccepts⟩
        · exact .value hvalues hv
        · exact .caveat hvalues hp hc hv haccepts
    · exact ⟨.sentinel, rfl⟩
  · have hliteral {path : String} {values : List Value} {token : Token} {n : Nat}
        (hvalues : doc.get? path = some values)
        (hpassed : ∀ p, r.paths.find? path = some p → token ∈ p.passed values)
        (hsome : (r.listAt? (.literal path token n)).isSome = true) :
        ∃ field ∈ doc.toList, .literal path token n
          ∈ ((r.paths.find? field.1).map fun p => p.places field.1 field.2).getD [] := by
      refine ⟨(path, values), Document.mem_toList.mpr hvalues, ?_⟩
      cases hp : r.paths.find? path with
      | none => simp [listAt?, hp] at hsome
      | some p =>
        have hn : n < (p.listsOf token).length := by simpa [listAt?, hp] using hsome
        exact PathRow.mem_places.mpr ⟨token, hpassed p hp, n, hn, rfl⟩
    rintro ⟨haddresses, hsome⟩
    cases haddresses with
    | value hvalues hv =>
      exact .inl (hliteral hvalues (fun p _ => PathRow.mem_passed.mpr (.inl ⟨_, hv, rfl⟩)) hsome)
    | caveat hvalues hp hc hv haccepts =>
      refine .inl (hliteral hvalues (fun q hq => ?_) hsome)
      cases hp.symm.trans hq
      exact PathRow.mem_passed.mpr (.inr ⟨_, hc, _, hv, haccepts⟩)
    | sentinel => exact .inr rfl

theorem nodup_places (hr : r.Ordered) (doc : Document) : (r.places doc).Nodup := by
  have hpath {path : String} {values : List Value} {place : Place}
      (h : place ∈ ((r.paths.find? path).map fun p => p.places path values).getD []) :
      ∃ token n, place = .literal path token n := by
    cases hp : r.paths.find? path with
    | none => simp [hp] at h
    | some p =>
      rw [hp, Option.map_some, Option.getD_some, PathRow.mem_places] at h
      obtain ⟨token, -, n, -, rfl⟩ := h
      exact ⟨token, n, rfl⟩
  refine List.Nodup.append (List.nodup_flatMap.mpr ⟨fun field _ => ?_, ?_⟩)
    (List.nodup_singleton _) ?_
  · cases hp : r.paths.find? field.1 with
    | none => exact List.nodup_nil
    | some p =>
      exact PathRow.nodup_places (hr.paths p (SortedMap.mem_values.mpr ⟨field.1, hp⟩)) _ _
  · refine (List.pairwise_map.mp doc.nodup_paths).imp fun hne place hplace hother => ?_
    obtain ⟨token, n, rfl⟩ := hpath hplace
    obtain ⟨token', n', heq⟩ := hpath hother
    exact hne (Place.literal.inj heq).1
  · intro place hplace hsentinel
    obtain ⟨field, -, hplace⟩ := List.mem_flatMap.mp hplace
    obtain ⟨token, n, rfl⟩ := hpath hplace
    cases List.mem_singleton.mp hsentinel

theorem map_listAt?_places (r : Row) (doc : Document) :
    (r.places doc).map r.listAt? = (r.addressed doc).map some := by
  rw [places, addressed, List.map_append, List.map_append, List.map_flatMap, List.map_flatMap]
  congr 1
  refine List.flatMap_congr fun field _ => ?_
  cases hp : r.paths.find? field.1 with
  | none => rfl
  | some p =>
    change (p.places field.1 field.2).map r.listAt? = (p.addressed field.2).map some
    rw [PathRow.places, PathRow.addressed_eq, List.map_flatMap, List.map_flatMap]
    refine List.flatMap_congr fun token _ => ?_
    rw [List.map_map, ← map_getElem?_range]
    refine List.map_congr_left fun n _ => ?_
    simp [listAt?, hp]

theorem map_list_opened (r : Row) (doc : Document) :
    (r.opened doc).map Cursor.list = (r.addressed doc).filter fun l => !l.isEmpty := by
  rw [opened, List.map_filterMap, ← List.filterMap_eq_filter]
  refine List.filterMap_congr fun l _ => ?_
  unfold Cursor.at? PostingList.isEmpty Option.guard
  by_cases h : 0 < l.postings.size
  · rw [dif_pos h, if_pos (by simpa using Nat.ne_of_gt h)]
    rfl
  · rw [dif_neg h, if_neg (by simpa using h)]
    rfl

theorem start_of_mem_opened {c : Cursor} (hc : c ∈ r.opened doc) : c.position.val = 0 := by
  obtain ⟨l, -, hat⟩ := List.mem_filterMap.mp hc
  exact Cursor.position_of_at? hat

theorem opens_opened (hr : r.Ordered) (doc : Document) : r.Opens doc (r.opened doc) where
  start c hc := start_of_mem_opened hc
  once := by
    refine ⟨(r.places doc).filter fun place => (r.listAt? place).any fun l => !l.isEmpty,
      (nodup_places hr doc).filter _, fun place => ?_, ?_⟩
    · rw [List.mem_filter, mem_places, and_assoc]
      refine and_congr_right fun _ => ?_
      cases r.listAt? place with
      | none => simp
      | some l => simp [← PostingList.isEmpty_iff]
    · have hopened := congrArg (List.map some) (map_list_opened r doc)
      rw [List.map_map] at hopened
      refine Eq.trans ?_ hopened.symm
      have hplaces := congrArg (List.filter fun l : Option PostingList => l.any fun l => !l.isEmpty)
        (map_listAt?_places r doc)
      rwa [List.filter_map, List.filter_map] at hplaces

-- What the merge of a row does. It opens the addressed lists, and however the cursors on equal
-- postings are ordered it comes to an end and finds the ids that are in enough of the opened lists.
structure MergesNaively (r : Row) (slotCount : Nat) (doc : Document) : Prop where
  opens : r.Opens doc (r.opened doc)
  ends : Acc (fun next cursors => ∃ found, Round (max slotCount 1) cursors found next) (r.opened doc)
  merges : Merges (max slotCount 1) (r.opened doc) (r.candidates slotCount doc)
  merged : ∀ out, Merges (max slotCount 1) (r.opened doc) out →
    Merged (max slotCount 1) ((r.opened doc).map fun c => c.list.toList) out

theorem Ordered.mergesNaively (hr : r.Ordered) (slotCount : Nat) (doc : Document) :
    r.MergesNaively slotCount doc where
  opens := opens_opened hr doc
  ends := acc_round (by omega) _ (ordered_opened hr.ids_addressed)
  merges := merges_candidates hr.ids_addressed slotCount
  merged out h := by
    have hlists : (r.opened doc).map (fun c => c.list.toList) = Cursor.rests (r.opened doc) := by
      refine List.map_congr_left fun c hc => ?_
      rw [Cursor.rest, start_of_mem_opened hc, List.drop_zero]
    rw [hlists]
    exact h.merged (by omega) (ordered_opened hr.ids_addressed)

end Row

-- The rows of every table that is reached are in order, and a row in order is merged as if it were
-- read through.
theorem rows_merge_naively :
    (∀ form threshold steps, ∀ r ∈ ((FormIndex.empty form threshold).run steps).table.rows.values,
      r.Ordered) ∧
    ∀ r : Row, r.Ordered → ∀ slotCount doc, r.MergesNaively slotCount doc := by
  refine ⟨fun form threshold steps r hr => ?_, fun r hr => hr.mergesNaively⟩
  obtain ⟨log, h⟩ := (FormIndex.Represents.empty form threshold).run steps
  exact (h.table.rows r hr).ordered

section Crowded

def postingOf (internalId position : Nat) : Posting :=
  ⟨internalId, "c", .included, .position position, position, .one⟩

-- The id 4 is twice in one list and in no other.
def crowdedPath : PathRow where
  lists := (SortedMap.empty.insert (.value (.int 1))
    [⟨#[postingOf 4 0, postingOf 4 1, postingOf 6 0]⟩, ⟨#[postingOf 6 1]⟩]).insert
      (.caveat .range "all") [⟨#[postingOf 6 2, postingOf 9 0]⟩]
  caveats := [(.caveat .range "all", .range ⟨none, none, true, true⟩)]

def crowded : Row := ⟨.insert .empty "a" crowdedPath, ⟨#[postingOf 9 1]⟩⟩

theorem crowded_merges_naively : crowded.Ordered ∧
    (crowded.candidates 2 (.ofList [("a", .int 1)])).map Candidate.internalId = [6, 9] ∧
    crowded.MergesNaively 2 (.ofList [("a", .int 1)]) := by
  have hordered : crowded.Ordered := by
    refine ⟨fun p hp => ?_, by decide +kernel⟩
    obtain rfl : p = crowdedPath := List.mem_singleton.mp hp
    refine ⟨by decide +kernel, by decide +kernel, fun e he key hkey => ?_⟩
    rw [List.mem_singleton.mp he] at hkey
    cases hkey
  have haddressed : crowded.addressed (.ofList [("a", .int 1)])
      = [⟨#[postingOf 4 0, postingOf 4 1, postingOf 6 0]⟩, ⟨#[postingOf 6 1]⟩,
        ⟨#[postingOf 6 2, postingOf 9 0]⟩, ⟨#[postingOf 9 1]⟩] := by decide +kernel
  exact ⟨hordered, by rw [Row.candidates, haddressed]; cbv,
    rows_merge_naively.2 crowded hordered 2 (.ofList [("a", .int 1)])⟩

end Crowded

end Targeting.Index
