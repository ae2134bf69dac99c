import Mathlib
import Targeting.Proofs.Index.Filed

namespace Targeting.Index

-- Counting list by list counts what stands in all of them.
theorem foldl_add_eq_countP {α β : Type} {p : β → Bool} {count : α → Nat} (f : α → List β)
    (h : ∀ a, count a = (f a).countP p) (l : List α) :
    l.foldl (fun n a => n + count a) 0 = (l.flatMap f).countP p := by
  rw [List.countP_flatMap, List.sum_eq_foldl_nat, List.foldl_map]
  simp only [h]
  rfl

-- What is left when only some ids are kept.
section Retaining

variable {keep : Nat → Bool}

theorem listsFiled_dropTrailingEmpty {slotCount : Nat} {path : String} {token : Token}
    (first : Nat) (lists : List PostingList) :
    listsFiled slotCount path token first (dropTrailingEmpty lists)
      = listsFiled slotCount path token first lists := by
  induction lists generalizing first with
  | nil => rfl
  | cons l rest ih =>
    rw [dropTrailingEmpty]
    split
    next hnil =>
      have hrest : listsFiled slotCount path token (first + 1) rest = [] := by
        rw [← ih, hnil]
        rfl
      rw [listsFiled_cons, hrest]
      split
      next hl => simp [PostingList.isEmpty_iff.mp hl, listsFiled]
      next => simp [listsFiled]
    next kept hkept => rw [listsFiled_cons, listsFiled_cons, ih]

theorem mem_dropTrailingEmpty {l : PostingList} {lists : List PostingList}
    (h : l ∈ dropTrailingEmpty lists) : l ∈ lists := by
  induction lists with
  | nil => exact h
  | cons m rest ih =>
    rw [dropTrailingEmpty] at h
    split at h
    next =>
      split at h
      · simp at h
      · exact List.mem_singleton.mp h ▸ List.mem_cons_self
    next =>
      rcases List.mem_cons.mp h with rfl | h
      · exact List.mem_cons_self
      · exact List.mem_cons_of_mem _ (ih h)

theorem exists_mem_dropTrailingEmpty {lists : List PostingList}
    (h : dropTrailingEmpty lists ≠ []) : ∃ l ∈ dropTrailingEmpty lists, l.toList ≠ [] := by
  induction lists with
  | nil => exact absurd rfl h
  | cons m rest ih =>
    rw [dropTrailingEmpty] at h ⊢
    split at h
    next hnil =>
      split at h
      next => exact absurd rfl h
      next hm =>
        rw [if_neg hm]
        exact ⟨m, List.mem_cons_self, fun hl => hm (PostingList.isEmpty_iff.mpr hl)⟩
    next hkept =>
      obtain ⟨l, hl, hne⟩ := ih hkept
      exact ⟨l, List.mem_cons_of_mem _ hl, hne⟩

theorem listsFiled_retain {slotCount : Nat} {path : String} {token : Token} (first : Nat)
    (lists : List PostingList) :
    listsFiled slotCount path token first (lists.map fun l => (l.retain keep).1)
      = (listsFiled slotCount path token first lists).filter
          fun f => keep f.posting.internalId := by
  induction lists generalizing first with
  | nil => rfl
  | cons l rest ih =>
    rw [List.map_cons, listsFiled_cons, listsFiled_cons, List.filter_append, ih,
      PostingList.toList_retain, List.filter_map]
    rfl

-- The lists of a token that is left.
def keptLists? (keep : Nat → Bool) (lists : List PostingList) : Option (List PostingList) :=
  let kept := dropTrailingEmpty (lists.map fun l => (l.retain keep).1)
  if kept.isEmpty then none else some kept

theorem filed_keptLists? {slotCount : Nat} {path : String} {token : Token}
    (lists : List PostingList) :
    ((keptLists? keep lists).map (listsFiled slotCount path token 0)).getD []
      = (listsFiled slotCount path token 0 lists).filter fun f => keep f.posting.internalId := by
  rw [← listsFiled_retain, ← listsFiled_dropTrailingEmpty, keptLists?]
  split
  next hnil => simp [List.isEmpty_iff.mp hnil, listsFiled]
  next => rfl

theorem mem_keptLists? {lists kept : List PostingList} (h : keptLists? keep lists = some kept) :
    (∀ l ∈ kept, ∃ m ∈ lists, l = (m.retain keep).1) ∧ ∃ l ∈ kept, l.toList ≠ [] := by
  rw [keptLists?] at h
  split at h
  next => cases h
  next hne =>
    cases h
    refine ⟨fun l hl => ?_, exists_mem_dropTrailingEmpty (by simpa using hne)⟩
    obtain ⟨m, hm, rfl⟩ := List.mem_map.mp (mem_dropTrailingEmpty hl)
    exact ⟨m, hm, rfl⟩

namespace PathRow

variable {r kept : PathRow}

theorem retain?_eq (keep : Nat → Bool) (r : PathRow) :
    r.retain? keep
      = if (r.lists.filterMap fun _ => keptLists? keep).isEmpty then none
        else some ⟨r.lists.filterMap fun _ => keptLists? keep,
          r.caveats.filter fun e => (r.lists.filterMap fun _ => keptLists? keep).contains e.1⟩ := rfl

theorem filed_retain? (slotCount : Nat) (path : String) :
    ((r.retain? keep).map (filed slotCount path)).getD []
      = (r.filed slotCount path).filter fun f => keep f.posting.internalId := by
  have hlists : ((r.lists.filterMap fun _ => keptLists? keep).entries.flatMap
      fun e => listsFiled slotCount path e.1 0 e.2)
      = (r.filed slotCount path).filter fun f => keep f.posting.internalId := by
    rw [SortedMap.flatMap_filterMap r.lists _ fun token => listsFiled slotCount path token 0,
      filed, List.filter_flatMap]
    simp only [filed_keptLists?]
  rw [← hlists, retain?_eq]
  split
  next hnil => simp [SortedMap.isEmpty_iff.mp hnil]
  next => rfl

theorem WellFormed.retain (hr : r.WellFormed) (h : r.retain? keep = some kept) :
    kept.WellFormed ∧ kept.lists.entries ≠ [] := by
  rw [retain?_eq] at h
  split at h
  next => cases h
  next hne =>
    cases h
    refine ⟨?_, fun hnil => hne (SortedMap.isEmpty_iff.mpr hnil)⟩
    constructor
    case ascending =>
      intro lists hlists l hl
      obtain ⟨old, hold, hkept⟩ := SortedMap.exists_of_mem_values_filterMap hlists
      obtain ⟨m, hm, rfl⟩ := (mem_keptLists? hkept).1 l hl
      exact (hr.ascending old hold m hm).retain keep
    case inUse =>
      intro lists hlists
      obtain ⟨old, -, hkept⟩ := SortedMap.exists_of_mem_values_filterMap hlists
      exact (mem_keptLists? hkept).2
    case nodup_caveats => exact hr.nodup_caveats.sublist (List.filter_sublist.map _)
    case mem_caveats =>
      intro t
      have hfilter : t ∈ (r.caveats.filter fun e =>
          (r.lists.filterMap fun _ => keptLists? keep).contains e.1).map Prod.fst ↔
          t ∈ r.caveats.map Prod.fst ∧ t ∈ (r.lists.filterMap fun _ => keptLists? keep).keys := by
        simp only [List.mem_map, List.mem_filter, SortedMap.contains_iff]
        constructor
        · rintro ⟨e, ⟨he, hk⟩, rfl⟩
          exact ⟨⟨e, he, rfl⟩, hk⟩
        · rintro ⟨⟨e, he, rfl⟩, hk⟩
          exact ⟨e, ⟨he, hk⟩, rfl⟩
      rw [hfilter, hr.mem_caveats]
      have hkeys : t ∈ (r.lists.filterMap fun _ => keptLists? keep).keys → t ∈ r.lists.keys :=
        SortedMap.mem_keys_of_filterMap
      tauto
    case names => exact fun e he => hr.names e (List.mem_of_mem_filter he)

end PathRow

namespace Row

variable {r kept : Row}

theorem filed_retain? (slotCount : Nat) :
    ((r.retain? keep).map (filed slotCount)).getD []
      = (r.filed slotCount).filter fun f => keep f.posting.internalId := by
  have hkept : Row.filed slotCount ⟨r.paths.filterMap fun _ p => p.retain? keep,
      (r.sentinel.retain keep).1⟩ = (r.filed slotCount).filter fun f => keep f.posting.internalId := by
    rw [filed, filed, SortedMap.flatMap_filterMap, List.filter_append, List.filter_flatMap,
      PostingList.toList_retain, List.filter_map]
    simp only [PathRow.filed_retain?]
    rfl
  rw [← hkept, retain?]
  split
  next hnil =>
    rw [Bool.and_eq_true] at hnil
    have hpaths : (r.paths.filterMap fun _ p => p.retain? keep).entries = [] :=
      SortedMap.isEmpty_iff.mp hnil.1
    have hsentinel : (r.sentinel.retain keep).1.toList = [] := PostingList.isEmpty_iff.mp hnil.2
    rw [filed, hpaths, hsentinel]
    rfl
  next => rfl

theorem WellFormed.retain (hr : r.WellFormed) (h : r.retain? keep = some kept) :
    kept.WellFormed ∧ (kept.paths.entries ≠ [] ∨ kept.sentinel.toList ≠ []) := by
  rw [retain?] at h
  split at h
  next => cases h
  next hne =>
    cases h
    refine ⟨⟨fun p hp => ?_, fun p hp => ?_, hr.sentinel.retain keep⟩, ?_⟩
    · obtain ⟨old, hold, hkept⟩ := SortedMap.exists_of_mem_values_filterMap hp
      exact ((hr.paths old hold).retain hkept).1
    · obtain ⟨old, hold, hkept⟩ := SortedMap.exists_of_mem_values_filterMap hp
      exact ((hr.paths old hold).retain hkept).2
    · rw [Bool.and_eq_true, SortedMap.isEmpty_iff, PostingList.isEmpty_iff, not_and_or] at hne
      exact hne

theorem dropped_eq (keep : Nat → Bool) (r : Row) :
    r.dropped keep = (r.allLists.flatMap PostingList.toList).countP fun p => !keep p.internalId :=
  foldl_add_eq_countP PostingList.toList (fun l => l.dropped_retain keep) r.allLists

end Row

namespace Table

variable {t : Table}

theorem filed_retain (keep : Nat → Bool) (t : Table) :
    (t.retain keep).1.filed = t.filed.filter fun f => keep f.posting.internalId := by
  rw [retain, filed, filed, SortedMap.flatMap_filterMap, List.filter_flatMap]
  simp only [Row.filed_retain?]

theorem WellFormed.retain (ht : t.WellFormed) (keep : Nat → Bool) :
    (t.retain keep).1.WellFormed := by
  refine ⟨fun row hrow => ?_, fun row hrow => ?_⟩
  · obtain ⟨old, hold, hkept⟩ := SortedMap.exists_of_mem_values_filterMap hrow
    exact ((ht.rows old hold).retain hkept).1
  · obtain ⟨old, hold, hkept⟩ := SortedMap.exists_of_mem_values_filterMap hrow
    exact ((ht.rows old hold).retain hkept).2

-- The postings that are dropped are those that are not kept.
theorem dropped_retain (keep : Nat → Bool) (t : Table) :
    (t.retain keep).2 = t.postings.countP fun p => !keep p.internalId := by
  rw [retain, postings, List.flatMap_assoc]
  exact foldl_add_eq_countP _ (Row.dropped_eq keep) t.rows.values

end Table

end Retaining

end Targeting.Index
