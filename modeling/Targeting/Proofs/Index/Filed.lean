import Mathlib
import Targeting.Index.Table
import Targeting.Proofs.SortedMap
import Targeting.Proofs.Index.PostingList
import Targeting.Proofs.Index.Staging

namespace Targeting.Index

-- A posting with the row and the list that hold it.
structure Filed where
  slotCount : Nat
  place : Place
  posting : Posting
deriving DecidableEq

def Staged.filed (s : Staged) : List Filed :=
  s.filings.map fun f => ⟨s.metadata.slotCount, f.place, f.posting⟩

-- All that a table holds, list by list.

def listsFiled (slotCount : Nat) (path : String) (token : Token) (first : Nat)
    (lists : List PostingList) : List Filed :=
  (lists.zipIdx first).flatMap fun e =>
    e.1.toList.map fun p => ⟨slotCount, .literal path token e.2, p⟩

def PathRow.filed (slotCount : Nat) (path : String) (r : PathRow) : List Filed :=
  r.lists.entries.flatMap fun e => listsFiled slotCount path e.1 0 e.2

def Row.filed (slotCount : Nat) (r : Row) : List Filed :=
  (r.paths.entries.flatMap fun e => e.2.filed slotCount e.1)
    ++ r.sentinel.toList.map fun p => ⟨slotCount, .sentinel, p⟩

def Table.filed (t : Table) : List Filed := t.rows.entries.flatMap fun e => e.2.filed e.1

section Postings

theorem listsFiled_cons {slotCount : Nat} {path : String} {token : Token} (first : Nat)
    (l : PostingList) (rest : List PostingList) :
    listsFiled slotCount path token first (l :: rest)
      = (l.toList.map fun p => ⟨slotCount, .literal path token first, p⟩)
        ++ listsFiled slotCount path token (first + 1) rest := by
  simp [listsFiled, List.zipIdx_cons]

theorem map_posting_listsFiled (slotCount : Nat) (path : String) (token : Token) (first : Nat)
    (lists : List PostingList) :
    (listsFiled slotCount path token first lists).map Filed.posting
      = lists.flatMap PostingList.toList := by
  induction lists generalizing first with
  | nil => rfl
  | cons l rest ih =>
    rw [listsFiled_cons, List.map_append, ih, List.map_map, List.flatMap_cons]
    simp [Function.comp_def]

theorem PathRow.map_posting_filed (slotCount : Nat) (path : String) (r : PathRow) :
    (r.filed slotCount path).map Filed.posting = r.allLists.flatMap PostingList.toList := by
  simp only [filed, allLists, SortedMap.values, List.map_flatMap, map_posting_listsFiled,
    List.flatten_eq_flatMap, List.flatMap_map, List.flatMap_assoc]
  rfl

theorem Row.map_posting_filed (slotCount : Nat) (r : Row) :
    (r.filed slotCount).map Filed.posting = r.allLists.flatMap PostingList.toList := by
  simp only [filed, allLists, SortedMap.values, List.map_append, List.map_flatMap,
    PathRow.map_posting_filed, List.flatMap_append, List.flatMap_map, List.flatMap_assoc,
    List.map_map]
  simp [Function.comp_def]

theorem Table.map_posting_filed (t : Table) : t.filed.map Filed.posting = t.postings := by
  simp only [filed, postings, SortedMap.values, List.map_flatMap, Row.map_posting_filed,
    List.flatMap_map, List.flatMap_assoc]

theorem Table.postingCount_eq (t : Table) : t.postingCount = t.filed.length := by
  rw [postingCount, ← map_posting_filed, List.length_map]

end Postings

-- What a table keeps in order.

structure PathRow.WellFormed (r : PathRow) : Prop where
  ascending : ∀ lists ∈ r.lists.values, ∀ l ∈ lists, l.AscendingIds
  inUse : ∀ lists ∈ r.lists.values, ∃ l ∈ lists, l.toList ≠ []
  nodup_caveats : (r.caveats.map Prod.fst).Nodup
  mem_caveats : ∀ token, token ∈ r.caveats.map Prod.fst ↔
    token ∈ r.lists.keys ∧ ¬ token.Names none
  names : ∀ e ∈ r.caveats, e.1.Names (some e.2)

structure Row.WellFormed (r : Row) : Prop where
  paths : ∀ p ∈ r.paths.values, p.WellFormed
  inUse : ∀ p ∈ r.paths.values, p.lists.entries ≠ []
  sentinel : r.sentinel.AscendingIds

structure Table.WellFormed (t : Table) : Prop where
  rows : ∀ r ∈ t.rows.values, r.WellFormed
  inUse : ∀ r ∈ t.rows.values, r.paths.entries ≠ [] ∨ r.sentinel.toList ≠ []

-- What the merge of a row relies on. The lists are in order, and no caveat is tested twice.
structure PathRow.Ordered (r : PathRow) : Prop where
  lists : ∀ lists ∈ r.lists.values, ∀ l ∈ lists, l.Ordered
  nodup_caveats : (r.caveats.map Prod.fst).Nodup
  caveats : ∀ e ∈ r.caveats, ∀ key, e.1 ≠ .value key

structure Row.Ordered (r : Row) : Prop where
  paths : ∀ p ∈ r.paths.values, p.Ordered
  sentinel : r.sentinel.Ordered

theorem PathRow.WellFormed.ordered {r : PathRow} (h : r.WellFormed) : r.Ordered where
  lists lists hlists l hl := (h.ascending lists hlists l hl).sorted.ordered
  nodup_caveats := h.nodup_caveats
  caveats e he key hkey := ((h.mem_caveats e.1).mp (List.mem_map_of_mem he)).2 ⟨key, hkey⟩

theorem Row.WellFormed.ordered {r : Row} (h : r.WellFormed) : r.Ordered where
  paths p hp := (h.paths p hp).ordered
  sentinel := h.sentinel.sorted.ordered

section Membership

variable {slotCount : Nat} {path : String} {token : Token}

theorem mem_listsFiled {first : Nat} {lists : List PostingList} {f : Filed} :
    f ∈ listsFiled slotCount path token first lists ↔
      ∃ n l, lists[n]? = some l ∧ ∃ q ∈ l.toList,
        f = ⟨slotCount, .literal path token (first + n), q⟩ := by
  simp only [listsFiled, List.mem_flatMap, List.mem_map, List.mem_zipIdx_iff_le_and_getElem?_sub]
  constructor
  · rintro ⟨e, ⟨hle, hl⟩, q, hq, rfl⟩
    exact ⟨e.2 - first, e.1, hl, q, hq, by rw [Nat.add_sub_cancel' hle]⟩
  · rintro ⟨n, l, hl, q, hq, rfl⟩
    exact ⟨(l, first + n), ⟨Nat.le_add_right _ _, by simpa using hl⟩, q, hq, rfl⟩

theorem exists_mem_of_listsFiled {first : Nat} {lists : List PostingList} {f : Filed}
    (h : f ∈ listsFiled slotCount path token first lists) : ∃ l ∈ lists, l.toList ≠ [] := by
  obtain ⟨n, l, hl, q, hq, -⟩ := mem_listsFiled.mp h
  exact ⟨l, List.mem_of_getElem? hl, List.ne_nil_of_mem hq⟩

theorem PathRow.mem_filed {r : PathRow} {f : Filed} :
    f ∈ r.filed slotCount path ↔ ∃ token lists, r.lists.find? token = some lists ∧
      f ∈ listsFiled slotCount path token 0 lists := by
  simp only [filed, List.mem_flatMap, Prod.exists, SortedMap.mem_entries_iff]

-- A token that is not in the row has no lists.
theorem PathRow.find?_of_mem_listsOf {r : PathRow} {l : PostingList} (hl : l ∈ r.listsOf token) :
    r.lists.find? token = some (r.listsOf token) := by
  cases hf : r.lists.find? token with
  | none => simp [listsOf, hf] at hl
  | some lists => rw [listsOf, hf, Option.getD_some]

theorem PathRow.listsOf_mem_values {r : PathRow} {l : PostingList} (hl : l ∈ r.listsOf token) :
    r.listsOf token ∈ r.lists.values :=
  SortedMap.mem_values.mpr ⟨token, find?_of_mem_listsOf hl⟩

theorem PathRow.WellFormed.ascending_listsOf {r : PathRow} (hr : r.WellFormed) (token : Token) :
    ∀ l ∈ r.listsOf token, l.AscendingIds :=
  fun l hl => hr.ascending _ (PathRow.listsOf_mem_values hl) l hl

-- What a list holds is filed at its place.
theorem Row.mem_filed_of_mem_list {r : Row} {p : PathRow} (hp : r.paths.find? path = some p)
    {occurrence : Nat} {l : PostingList} (hl : (p.listsOf token)[occurrence]? = some l) {q : Posting}
    (hq : q ∈ l.toList) : ⟨slotCount, .literal path token occurrence, q⟩ ∈ r.filed slotCount := by
  refine List.mem_append_left _ (List.mem_flatMap.mpr
    ⟨(path, p), SortedMap.mem_entries_iff.mpr hp, ?_⟩)
  refine PathRow.mem_filed.mpr
    ⟨token, _, PathRow.find?_of_mem_listsOf (List.mem_of_getElem? hl), mem_listsFiled.mpr ?_⟩
  exact ⟨occurrence, l, hl, q, hq, by simp⟩

theorem Row.slotCount_of_mem_filed {r : Row} {g : Filed} (h : g ∈ r.filed slotCount) :
    g.slotCount = slotCount := by
  rcases List.mem_append.mp h with h | h
  · obtain ⟨e, -, h⟩ := List.mem_flatMap.mp h
    obtain ⟨token, lists, -, h⟩ := PathRow.mem_filed.mp h
    obtain ⟨n, l, -, q, -, rfl⟩ := mem_listsFiled.mp h
    rfl
  · obtain ⟨q, -, rfl⟩ := List.mem_map.mp h
    rfl

end Membership

-- A row is there for the numbers of slots of what is filed, and for no other.
section Rows

theorem PathRow.filed_ne_nil {r : PathRow} (hr : r.WellFormed) (hne : r.lists.entries ≠ [])
    (slotCount : Nat) (path : String) : r.filed slotCount path ≠ [] := by
  obtain ⟨⟨token, lists⟩, rest, he⟩ := List.exists_cons_of_ne_nil hne
  have hmem : (token, lists) ∈ r.lists.entries := he ▸ List.mem_cons_self
  obtain ⟨l, hl, hnonempty⟩ := hr.inUse lists
    (SortedMap.mem_values.mpr ⟨token, SortedMap.mem_entries_iff.mp hmem⟩)
  obtain ⟨n, hn, rfl⟩ := List.getElem_of_mem hl
  obtain ⟨q, more, hq⟩ := List.exists_cons_of_ne_nil hnonempty
  exact List.ne_nil_of_mem (PathRow.mem_filed.mpr ⟨token, lists, SortedMap.mem_entries_iff.mp hmem,
    mem_listsFiled.mpr ⟨n, _, List.getElem?_eq_getElem hn, q, hq ▸ List.mem_cons_self, rfl⟩⟩)

theorem Row.filed_ne_nil {r : Row} (hr : r.WellFormed)
    (hne : r.paths.entries ≠ [] ∨ r.sentinel.toList ≠ []) (slotCount : Nat) :
    r.filed slotCount ≠ [] := by
  rw [filed, ne_eq, List.append_eq_nil_iff, not_and_or]
  rcases hne with hne | hne
  · refine .inl ?_
    obtain ⟨⟨path, p⟩, rest, he⟩ := List.exists_cons_of_ne_nil hne
    have hmem : (path, p) ∈ r.paths.entries := he ▸ List.mem_cons_self
    have hvalue : p ∈ r.paths.values :=
      SortedMap.mem_values.mpr ⟨path, SortedMap.mem_entries_iff.mp hmem⟩
    obtain ⟨f, more, hf⟩ := List.exists_cons_of_ne_nil
      (PathRow.filed_ne_nil (hr.paths p hvalue) (hr.inUse p hvalue) slotCount path)
    exact List.ne_nil_of_mem (List.mem_flatMap.mpr ⟨(path, p), hmem, hf ▸ List.mem_cons_self⟩)
  · exact .inr (by simpa using hne)

theorem Table.mem_filed_of_row {t : Table} {slotCount : Nat} {row : Row}
    (hrow : t.rows.find? slotCount = some row) {f : Filed} (hf : f ∈ row.filed slotCount) :
    f ∈ t.filed :=
  List.mem_flatMap.mpr ⟨(slotCount, row), SortedMap.mem_entries_iff.mpr hrow, hf⟩

theorem Table.mem_keys_iff {t : Table} (ht : t.WellFormed) {slotCount : Nat} :
    slotCount ∈ t.rows.keys ↔ ∃ f ∈ t.filed, f.slotCount = slotCount := by
  rw [SortedMap.mem_keys]
  constructor
  · rintro ⟨row, hrow⟩
    have hvalue := SortedMap.mem_values.mpr ⟨slotCount, hrow⟩
    obtain ⟨f, more, hf⟩ := List.exists_cons_of_ne_nil
      (Row.filed_ne_nil (ht.rows row hvalue) (ht.inUse row hvalue) slotCount)
    have hmem : f ∈ row.filed slotCount := hf ▸ List.mem_cons_self
    exact ⟨f, Table.mem_filed_of_row hrow hmem, Row.slotCount_of_mem_filed hmem⟩
  · rintro ⟨f, hf, rfl⟩
    obtain ⟨⟨k, row⟩, hrow, hf⟩ := List.mem_flatMap.mp hf
    rw [Row.slotCount_of_mem_filed hf]
    exact ⟨row, SortedMap.mem_entries_iff.mp hrow⟩

-- What one row holds.
theorem Table.filter_filed_row {t : Table} {slotCount : Nat} {row : Row}
    (hrow : t.rows.find? slotCount = some row) :
    (t.filed.filter fun f => decide (f.slotCount = slotCount)).Perm (row.filed slotCount) := by
  have hentries := (SortedMap.entries_perm t.rows slotCount).flatMap_right fun e => e.2.filed e.1
  rw [hrow, Option.map_some, Option.toList_some, List.flatMap_append, List.flatMap_singleton] at hentries
  refine (hentries.filter _).trans (List.Perm.of_eq ?_)
  have hown : (row.filed slotCount).filter (fun f => decide (f.slotCount = slotCount))
      = row.filed slotCount :=
    List.filter_eq_self.mpr fun f hf => by simpa using Row.slotCount_of_mem_filed hf
  have hothers : ((t.rows.entries.filter fun e => decide (e.1 ≠ slotCount)).flatMap
      fun e => e.2.filed e.1).filter (fun f => decide (f.slotCount = slotCount)) = [] := by
    refine List.filter_eq_nil_iff.mpr fun f hf => ?_
    obtain ⟨e, he, hf⟩ := List.mem_flatMap.mp hf
    have hne := of_decide_eq_true (List.mem_filter.mp he).2
    rw [Row.slotCount_of_mem_filed hf]
    simpa using hne
  rw [List.filter_append, hown, hothers, List.append_nil]

end Rows

end Targeting.Index
