import Mathlib
import Targeting.Proofs.Index.Filed

namespace Targeting.Index

section Filing

variable {slotCount : Nat} {path : String} {token : Token} {occurrence : Nat} {p : Posting}

-- Filing adds one posting when the list that it goes to has none with its id.
theorem listsFiled_fileAt (slotCount : Nat) (path : String) (token : Token) (first : Nat)
    {lists : List PostingList}
    (hfresh : ∀ l, lists[occurrence]? = some l → ∀ q ∈ l.toList, q.internalId ≠ p.internalId) :
    (listsFiled slotCount path token first (fileAt p occurrence lists)).Perm
      (listsFiled slotCount path token first lists
        ++ [⟨slotCount, .literal path token (first + occurrence), p⟩]) := by
  fun_induction fileAt p occurrence lists generalizing first with
  | case1 => exact .refl _
  | case2 l rest =>
    rw [listsFiled_cons, listsFiled_cons]
    have hl := PostingList.insert_perm (hfresh l rfl)
    refine ((hl.map _).append_right _).trans ?_
    rw [List.map_append, List.append_assoc, List.append_assoc]
    exact List.perm_append_comm.append_left _
  | case3 n ih =>
    rw [listsFiled_cons, show first + n.succ = first + 1 + n by omega]
    exact ih (first + 1) (by simp)
  | case4 n l rest ih =>
    rw [listsFiled_cons, listsFiled_cons, List.append_assoc,
      show first + n.succ = first + 1 + n by omega]
    exact (ih (first + 1) hfresh).append_left _

theorem ascending_fileAt {lists : List PostingList} (hasc : ∀ l ∈ lists, l.AscendingIds)
    (hfresh : ∀ l, lists[occurrence]? = some l → ∀ q ∈ l.toList, q.internalId ≠ p.internalId) :
    ∀ l ∈ fileAt p occurrence lists, l.AscendingIds := by
  fun_induction fileAt p occurrence lists with
  | case1 =>
    intro l hl
    rw [List.mem_singleton.mp hl]
    exact PostingList.ascendingIds_empty.insert (by simp [PostingList.toList_empty])
  | case2 l rest =>
    intro m hm
    rcases List.mem_cons.mp hm with rfl | hm
    · exact (hasc l List.mem_cons_self).insert (hfresh l rfl)
    · exact hasc m (List.mem_cons_of_mem _ hm)
  | case3 n ih =>
    intro m hm
    rcases List.mem_cons.mp hm with rfl | hm
    · exact PostingList.ascendingIds_empty
    · exact ih (by simp) (by simp) m hm
  | case4 n l rest ih =>
    intro m hm
    rcases List.mem_cons.mp hm with rfl | hm
    · exact hasc m List.mem_cons_self
    · exact ih (fun l hl => hasc l (List.mem_cons_of_mem _ hl)) hfresh m hm

end Filing

namespace PathRow

variable {r : PathRow} {slotCount : Nat} {path : String} {token : Token} {occurrence : Nat}
  {p : Posting} {caveat : Option Caveat}

theorem empty_wellFormed : PathRow.empty.WellFormed where
  ascending := by simp [empty, SortedMap.values, SortedMap.empty]
  inUse := by simp [empty, SortedMap.values, SortedMap.empty]
  nodup_caveats := List.nodup_nil
  mem_caveats := by simp [empty, SortedMap.keys, SortedMap.empty]
  names := by simp [empty]

theorem lists_register : (r.register token caveat).lists = r.lists := by
  unfold register
  split
  · rfl
  · split <;> rfl

-- No posting of the list has the id of the one that is to be filed there.
def Fresh (r : PathRow) (token : Token) (occurrence : Nat) (p : Posting) : Prop :=
  ∀ l, (r.listsOf token)[occurrence]? = some l → ∀ q ∈ l.toList, q.internalId ≠ p.internalId

theorem filed_file (hfresh : r.Fresh token occurrence p) :
    (((r.register token caveat).file token occurrence p).filed slotCount path).Perm
      (r.filed slotCount path ++ [⟨slotCount, .literal path token occurrence, p⟩]) := by
  rw [filed, file, lists_register]
  refine SortedMap.flatMap_upsert_perm r.lists token [] (fileAt p occurrence)
    (fun token lists => listsFiled slotCount path token 0 lists) _ rfl ?_
  have h := listsFiled_fileAt slotCount path token 0 hfresh
  rwa [Nat.zero_add] at h

theorem mem_caveats_register {t : Token} :
    t ∈ (r.register token caveat).caveats.map Prod.fst ↔
      t ∈ r.caveats.map Prod.fst ∨ t = token ∧ caveat ≠ none := by
  unfold register
  split
  next => simp
  next c =>
    split
    next hany =>
      obtain ⟨e, he, heq⟩ := List.any_eq_true.mp hany
      have hmem : token ∈ r.caveats.map Prod.fst :=
        List.mem_map.mpr ⟨e, he, beq_iff_eq.mp heq⟩
      constructor
      · exact .inl
      · rintro (ht | ⟨rfl, -⟩)
        · exact ht
        · exact hmem
    next => simp

theorem nodup_caveats_register (h : (r.caveats.map Prod.fst).Nodup) :
    ((r.register token caveat).caveats.map Prod.fst).Nodup := by
  unfold register
  split
  next => exact h
  next c =>
    split
    next => exact h
    next hany =>
      rw [List.map_append, List.nodup_append]
      refine ⟨h, by simp, ?_⟩
      rintro t ht _ htoken rfl
      obtain ⟨e, he, rfl⟩ := List.mem_map.mp ht
      refine hany (List.any_eq_true.mpr ⟨e, he, ?_⟩)
      simpa using htoken

theorem names_register (h : ∀ e ∈ r.caveats, e.1.Names (some e.2)) (hcaveat : token.Names caveat) :
    ∀ e ∈ (r.register token caveat).caveats, e.1.Names (some e.2) := by
  unfold register
  split
  next => exact h
  next c =>
    split
    next => exact h
    next =>
      intro e he
      rcases List.mem_append.mp he with he | he
      · exact h e he
      · rw [List.mem_singleton.mp he]
        exact hcaveat

theorem find?_lists_file (t : Token) :
    ((r.register token caveat).file token occurrence p).lists.find? t
      = if t = token then some (fileAt p occurrence (r.listsOf token)) else r.lists.find? t := by
  rw [file, lists_register, SortedMap.find?_upsert]
  rfl

-- The caveat of a token is registered before a posting is filed under the token.
theorem WellFormed.file (hr : r.WellFormed) (hcaveat : token.Names caveat)
    (hfresh : r.Fresh token occurrence p) :
    ((r.register token caveat).file token occurrence p).WellFormed := by
  have hvalues (lists : List PostingList)
      (h : lists ∈ ((r.register token caveat).file token occurrence p).lists.values) :
      lists = fileAt p occurrence (r.listsOf token) ∨ lists ∈ r.lists.values := by
    obtain ⟨t, ht⟩ := SortedMap.mem_values.mp h
    rw [find?_lists_file] at ht
    split at ht
    · exact .inl (Option.some.inj ht).symm
    · exact .inr (SortedMap.mem_values.mpr ⟨t, ht⟩)
  have hkeys (t : Token) : t ∈ ((r.register token caveat).file token occurrence p).lists.keys ↔
      t = token ∨ t ∈ r.lists.keys := by
    simp only [SortedMap.mem_keys, find?_lists_file]
    by_cases ht : t = token <;> simp [ht]
  constructor
  case ascending =>
    intro lists hlists
    rcases hvalues lists hlists with rfl | hlists
    · exact ascending_fileAt (hr.ascending_listsOf token) hfresh
    · exact hr.ascending lists hlists
  case inUse =>
    intro lists hlists
    rcases hvalues lists hlists with rfl | hlists
    · have hperm := listsFiled_fileAt 0 "" token 0 hfresh
      exact exists_mem_of_listsFiled (hperm.mem_iff.mpr (List.mem_append_right _ List.mem_cons_self))
    · exact hr.inUse lists hlists
  case nodup_caveats => exact nodup_caveats_register hr.nodup_caveats
  case mem_caveats =>
    intro t
    refine mem_caveats_register.trans ?_
    rw [hkeys, hr.mem_caveats]
    cases caveat with
    | none =>
      have hne : ¬ t.Names none → t ≠ token := fun ht he => ht (he ▸ hcaveat)
      tauto
    | some c =>
      have hne : t = token → ¬ t.Names none := fun he => he ▸ hcaveat.not_value
      simp only [ne_eq, reduceCtorEq, not_false_eq_true, and_true]
      tauto
  case names => exact names_register hr.names hcaveat

end PathRow

namespace Row

variable {r : Row} {slotCount : Nat} {f : Filing}

theorem empty_wellFormed : Row.empty.WellFormed where
  paths := by simp [empty, SortedMap.values, SortedMap.empty]
  inUse := by simp [empty, SortedMap.values, SortedMap.empty]
  sentinel := PostingList.ascendingIds_empty

-- The list that a filing goes to has no posting with the id of the one that is filed.
def Fresh (r : Row) (slotCount : Nat) (f : Filing) : Prop :=
  ∀ g ∈ r.filed slotCount, g.place = f.place → g.posting.internalId ≠ f.posting.internalId

theorem Fresh.pathRow {path : String} {token : Token} {occurrence : Nat}
    (h : r.Fresh slotCount f) (hplace : f.place = .literal path token occurrence) :
    ((r.paths.find? path).getD .empty).Fresh token occurrence f.posting := by
  intro l hl q hq
  cases hpath : r.paths.find? path with
  | none => simp [hpath, PathRow.listsOf, PathRow.empty] at hl
  | some pathRow =>
    rw [hpath, Option.getD_some] at hl
    exact h _ (mem_filed_of_mem_list hpath hl hq) hplace.symm

theorem Fresh.sentinel (h : r.Fresh slotCount f) (hplace : f.place = .sentinel) :
    ∀ q ∈ r.sentinel.toList, q.internalId ≠ f.posting.internalId := by
  intro q hq
  exact h ⟨slotCount, .sentinel, q⟩
    (List.mem_append_right _ (List.mem_map.mpr ⟨q, hq, rfl⟩)) hplace.symm

theorem WellFormed.pathRow (hr : r.WellFormed) (path : String) :
    ((r.paths.find? path).getD .empty).WellFormed := by
  cases hpath : r.paths.find? path with
  | none => exact PathRow.empty_wellFormed
  | some pathRow => exact hr.paths pathRow (SortedMap.mem_values.mpr ⟨path, hpath⟩)

theorem filed_file (hfresh : r.Fresh slotCount f) :
    ((r.file f).filed slotCount).Perm (r.filed slotCount ++ [⟨slotCount, f.place, f.posting⟩]) := by
  unfold Row.file
  split
  next hplace =>
    rw [filed, filed, List.append_assoc, hplace]
    refine List.Perm.append_left _ ?_
    have h := PostingList.insert_perm (hfresh.sentinel hplace)
    simpa using h.map fun p => (⟨slotCount, .sentinel, p⟩ : Filed)
  next path token occurrence hplace =>
    have hpaths := SortedMap.flatMap_upsert_perm r.paths path .empty
      (fun pathRow => (pathRow.register token f.caveat).file token occurrence f.posting)
      (fun path pathRow => pathRow.filed slotCount path)
      [⟨slotCount, .literal path token occurrence, f.posting⟩] rfl
      (PathRow.filed_file (hfresh.pathRow hplace))
    rw [filed, filed, List.append_assoc, hplace]
    refine (hpaths.append_right _).trans ?_
    rw [List.append_assoc]
    exact List.perm_append_comm.append_left _

theorem WellFormed.file (hr : r.WellFormed) (hplaced : f.WellPlaced)
    (hfresh : r.Fresh slotCount f) : (r.file f).WellFormed := by
  unfold Row.file
  split
  next hplace =>
    exact { hr with sentinel := hr.sentinel.insert (hfresh.sentinel hplace) }
  next path token occurrence hplace =>
    have hnames : token.Names f.caveat := by simpa [Filing.WellPlaced, hplace] using hplaced
    have hnew := (hr.pathRow path).file hnames (hfresh.pathRow hplace)
    refine ⟨fun pathRow h => ?_, fun pathRow h => ?_, hr.sentinel⟩
    · rcases SortedMap.mem_values_upsert h with rfl | h
      · exact hnew
      · exact hr.paths pathRow h
    · rcases SortedMap.mem_values_upsert h with rfl | h
      · intro hnil
        have hfind := @PathRow.find?_lists_file ((r.paths.find? path).getD .empty) token occurrence
          f.posting f.caveat token
        rw [if_pos rfl, ← SortedMap.mem_entries_iff, hnil] at hfind
        exact List.not_mem_nil hfind
      · exact hr.inUse pathRow h

theorem inUse_file (hfresh : r.Fresh slotCount f) :
    (r.file f).paths.entries ≠ [] ∨ (r.file f).sentinel.toList ≠ [] := by
  by_contra h
  obtain ⟨hpaths, hsentinel⟩ := not_or.mp h
  have hperm := filed_file hfresh
  rw [filed, not_not.mp hpaths, not_not.mp hsentinel] at hperm
  have := hperm.length_eq
  simp at this

end Row

namespace Table

variable {t : Table}

theorem empty_wellFormed : Table.empty.WellFormed where
  rows := by simp [empty, SortedMap.values, SortedMap.empty]
  inUse := by simp [empty, SortedMap.values, SortedMap.empty]

-- Files one posting in the row of a number of slots.
def fileOne (t : Table) (slotCount : Nat) (f : Filing) : Table :=
  ⟨t.rows.upsert slotCount .empty (·.file f)⟩

theorem file_eq (t : Table) (s : Staged) :
    t.file s = s.filings.foldl (fun t f => t.fileOne s.metadata.slotCount f) t := by
  rw [file]
  generalize s.filings = fs
  induction fs generalizing t with
  | nil => rfl
  | cons f rest ih => exact ih (t.fileOne s.metadata.slotCount f)

-- No list has a posting with the id of the one that is filed.
def Fresh (t : Table) (slotCount : Nat) (f : Filing) : Prop :=
  ∀ g ∈ t.filed, g.slotCount = slotCount → g.place = f.place →
    g.posting.internalId ≠ f.posting.internalId

theorem Fresh.row {slotCount : Nat} {f : Filing} (h : t.Fresh slotCount f) :
    ((t.rows.find? slotCount).getD .empty).Fresh slotCount f := by
  intro g hg hplace
  cases hrow : t.rows.find? slotCount with
  | none => simp [hrow, Row.empty, Row.filed, SortedMap.empty, PostingList.toList_empty] at hg
  | some row =>
    rw [hrow, Option.getD_some] at hg
    exact h g (mem_filed_of_row hrow hg)
      (Row.slotCount_of_mem_filed hg) hplace

theorem WellFormed.row (ht : t.WellFormed) (slotCount : Nat) :
    ((t.rows.find? slotCount).getD .empty).WellFormed := by
  cases hrow : t.rows.find? slotCount with
  | none => exact Row.empty_wellFormed
  | some row => exact ht.rows row (SortedMap.mem_values.mpr ⟨slotCount, hrow⟩)

section FileOne

variable {slotCount : Nat} {f : Filing}

theorem filed_fileOne (hfresh : t.Fresh slotCount f) :
    (t.fileOne slotCount f).filed.Perm (t.filed ++ [⟨slotCount, f.place, f.posting⟩]) :=
  SortedMap.flatMap_upsert_perm t.rows slotCount .empty (·.file f)
    (fun slotCount row => row.filed slotCount) _ rfl
    (Row.filed_file hfresh.row)

theorem WellFormed.fileOne (ht : t.WellFormed) (hplaced : f.WellPlaced)
    (hfresh : t.Fresh slotCount f) : (t.fileOne slotCount f).WellFormed := by
  refine ⟨fun row h => ?_, fun row h => ?_⟩
  · rcases SortedMap.mem_values_upsert h with rfl | h
    · exact (ht.row slotCount).file hplaced hfresh.row
    · exact ht.rows row h
  · rcases SortedMap.mem_values_upsert h with rfl | h
    · exact Row.inUse_file hfresh.row
    · exact ht.inUse row h

end FileOne

-- Filings of one instance that go to different lists do not get in each other's way.
theorem Fresh.fileOne {slotCount : Nat} {f g : Filing} (hf : t.Fresh slotCount f)
    (hg : t.Fresh slotCount g) (hplaces : f.place ≠ g.place) : (t.fileOne slotCount f).Fresh slotCount g := by
  intro h hh hslots hplace
  rcases List.mem_append.mp ((filed_fileOne hf).mem_iff.mp hh) with hh | hh
  · exact hg h hh hslots hplace
  · rw [List.mem_singleton.mp hh] at hplace
    exact absurd hplace hplaces

theorem filed_fold_fileOne {slotCount : Nat} {fs : List Filing}
    (hplaces : (fs.map Filing.place).Nodup) (hfresh : ∀ f ∈ fs, t.Fresh slotCount f) :
    (fs.foldl (fun t f => t.fileOne slotCount f) t).filed.Perm
      (t.filed ++ fs.map fun f => ⟨slotCount, f.place, f.posting⟩) := by
  induction fs generalizing t with
  | nil => simp
  | cons f rest ih =>
    rw [List.map_cons, List.nodup_cons] at hplaces
    have hf := hfresh f List.mem_cons_self
    have hrest := ih (t := t.fileOne slotCount f) hplaces.2 fun g hg =>
      hf.fileOne (hfresh g (List.mem_cons_of_mem _ hg)) fun hplace =>
        hplaces.1 (List.mem_map.mpr ⟨g, hg, hplace.symm⟩)
    refine hrest.trans ?_
    rw [List.map_cons, ← List.singleton_append, ← List.append_assoc]
    exact (filed_fileOne hf).append_right _

theorem WellFormed.fold_fileOne {slotCount : Nat} {fs : List Filing} (ht : t.WellFormed)
    (hplaces : (fs.map Filing.place).Nodup) (hplaced : ∀ f ∈ fs, f.WellPlaced)
    (hfresh : ∀ f ∈ fs, t.Fresh slotCount f) :
    (fs.foldl (fun t f => t.fileOne slotCount f) t).WellFormed := by
  induction fs generalizing t with
  | nil => exact ht
  | cons f rest ih =>
    rw [List.map_cons, List.nodup_cons] at hplaces
    have hf := hfresh f List.mem_cons_self
    refine ih (ht.fileOne (hplaced f List.mem_cons_self) hf) hplaces.2
      (fun g hg => hplaced g (List.mem_cons_of_mem _ hg)) fun g hg => ?_
    exact hf.fileOne (hfresh g (List.mem_cons_of_mem _ hg)) fun hplace =>
      hplaces.1 (List.mem_map.mpr ⟨g, hg, hplace.symm⟩)

-- Filing an instance under a new id adds its postings and nothing else, in any table.
theorem filed_file {s : Staged} (hplaces : (s.filings.map Filing.place).Nodup)
    (hids : ∀ f ∈ s.filings, f.posting.internalId = s.internalId)
    (hnew : ∀ f ∈ t.filed, f.posting.internalId ≠ s.internalId) :
    (t.file s).filed.Perm (t.filed ++ s.filed) := by
  rw [file_eq]
  exact filed_fold_fileOne hplaces fun f hf g hg _ _ => hids f hf ▸ hnew g hg

theorem WellFormed.file (ht : t.WellFormed) {s : Staged} (hs : s.WellFormed)
    (hnew : ∀ f ∈ t.filed, f.posting.internalId ≠ s.internalId) :
    (t.file s).WellFormed ∧ (t.file s).filed.Perm (t.filed ++ s.filed) := by
  refine ⟨?_, filed_file hs.places hs.internalId hnew⟩
  rw [file_eq]
  exact ht.fold_fileOne hs.places hs.wellPlaced fun f hf g hg _ _ => hs.internalId f hf ▸ hnew g hg

end Table

end Targeting.Index
