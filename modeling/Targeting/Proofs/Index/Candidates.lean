import Mathlib
import Targeting.Proofs.Index.Addressed
import Targeting.Proofs.Index.Meeting
import Targeting.Proofs.Index.SkipMerge
import Targeting.Proofs.Index.Storage

namespace Targeting.Index

namespace FormIndex

def candidates (s : FormIndex) (doc : Document) : List Candidate :=
  s.table.rows.entries.flatMap fun e => e.2.candidates e.1 doc

namespace Stores

variable {s : FormIndex} {log : List Staged} {slotCount : Nat} {row : Row} {doc : Document}

variable (doc) in
-- The addressed lists of a row hold for an instance of the row what is met of it.
theorem addressed_of_mem (h : s.Stores log) (hrow : s.table.rows.find? slotCount = some row)
    {i : Staged} (hi : i ∈ log) (hslots : i.metadata.slotCount = slotCount) :
    (((row.addressed doc).flatMap PostingList.toList).filter
      fun p => decide (p.internalId = i.internalId)).Perm (i.met doc) := by
  have hwf := h.table.rows row (SortedMap.mem_values.mpr ⟨slotCount, hrow⟩)
  have hfiled : ((row.filed slotCount).filter fun f =>
      decide (f.posting.internalId = i.internalId)).Perm i.filed := by
    refine ((Table.filter_filed_row hrow).symm.filter _).trans ?_
    rw [List.filter_comm]
    refine ((h.filed_of_mem hi).filter _).trans (List.Perm.of_eq ?_)
    refine List.filter_eq_self.mpr fun f hf => ?_
    obtain ⟨g, -, rfl⟩ := List.mem_map.mp hf
    simpa using hslots
  have hmeets : ∀ g ∈ i.filings, row.meets doc g.place = g.met doc := by
    intro g hg
    have hmem : ⟨slotCount, g.place, g.posting⟩ ∈ row.filed slotCount := by
      have hmem := hfiled.mem_iff.mpr (List.mem_map_of_mem hg)
      rw [hslots] at hmem
      exact (List.mem_filter.mp hmem).1
    exact Row.meets_eq hwf ((h.wellFormed i hi).wellPlaced g hg) hmem
  refine ((Row.addressed_perm hwf slotCount).filter _).trans ?_
  have hfilter : (((row.filed slotCount).filter fun f => row.meets doc f.place).map
      Filed.posting).filter (fun p => decide (p.internalId = i.internalId))
      = (((row.filed slotCount).filter fun f => decide (f.posting.internalId = i.internalId)).filter
          fun f => row.meets doc f.place).map Filed.posting := by
    rw [List.filter_map, List.filter_comm]
    rfl
  have hmet : (i.filed.filter fun f => row.meets doc f.place).map Filed.posting = i.met doc := by
    rw [Staged.filed, List.filter_map, List.map_map, Staged.met]
    exact congrArg (List.map Filing.posting) (List.filter_congr hmeets)
  rw [hfilter, ← hmet]
  exact (hfiled.filter _).map _

-- A posting on an addressed list belongs to an instance of the row.
theorem exists_of_addressed (h : s.Stores log) (hrow : s.table.rows.find? slotCount = some row)
    {p : Posting} (hp : p ∈ (row.addressed doc).flatMap PostingList.toList) :
    ∃ i ∈ log, i.metadata.slotCount = slotCount ∧ i.internalId = p.internalId := by
  have hwf := h.table.rows row (SortedMap.mem_values.mpr ⟨slotCount, hrow⟩)
  obtain ⟨f, hf, rfl⟩ := List.mem_map.mp ((Row.addressed_perm hwf slotCount).mem_iff.mp hp)
  have hrowFiled := (List.mem_filter.mp hf).1
  obtain ⟨i, hi, hfi⟩ := h.mem_filed.mp (Table.mem_filed_of_row hrow hrowFiled)
  refine ⟨i, hi, ?_, (internalId_of_mem_filed (h.wellFormed i hi) hfi).symm⟩
  have hslots := Row.slotCount_of_mem_filed hrowFiled
  obtain ⟨g, -, rfl⟩ := List.mem_map.mp hfi
  exact hslots

variable (doc) in
theorem ascending_addressed (h : s.Stores log) (hrow : s.table.rows.find? slotCount = some row) :
    ∀ l ∈ row.addressed doc, l.AscendingIds :=
  Row.ascending_addressed (h.table.rows row (SortedMap.mem_values.mpr ⟨slotCount, hrow⟩))

variable (doc) in
theorem candidates_spec (h : s.Stores log) (hrow : s.table.rows.find? slotCount = some row) :
    Merged (max slotCount 1) ((row.addressed doc).map PostingList.toList)
      (row.candidates slotCount doc) :=
  Row.candidates_spec (fun l hl => (h.ascending_addressed doc hrow l hl).sorted.ordered.ids) slotCount

variable (doc) in
-- An instance is at most once in a list, and so it is in as many lists as it has postings there.
theorem listCount_addressed (h : s.Stores log) (hrow : s.table.rows.find? slotCount = some row)
    (id : Nat) :
    listCount ((row.addressed doc).map PostingList.toList) id
      = ((row.addressed doc).flatMap PostingList.toList).countP (·.internalId = id) := by
  rw [listCount_eq_countP, ← List.flatMap_def]
  intro postings hpostings
  obtain ⟨l, hl, rfl⟩ := List.mem_map.mp hpostings
  exact h.ascending_addressed doc hrow l hl

-- Every candidate is an instance with the postings that are met.
theorem exists_of_candidate (h : s.Stores log) {c : Candidate} (hc : c ∈ s.candidates doc) :
    ∃ i ∈ log, c.internalId = i.internalId ∧ c.postings.Perm (i.met doc) ∧ c.postings ≠ [] := by
  obtain ⟨⟨slotCount, row⟩, he, hc⟩ := List.mem_flatMap.mp hc
  have hrow := SortedMap.mem_entries_iff.mp he
  have hmerged := h.candidates_spec doc hrow
  have hcount := (hmerged.found c.internalId).mp ⟨c, hc, rfl⟩
  rw [h.listCount_addressed doc hrow] at hcount
  have hpositive : 0 < ((row.addressed doc).flatMap PostingList.toList).countP
      (·.internalId = c.internalId) := by omega
  obtain ⟨p, hp, hid⟩ := List.countP_pos_iff.mp hpositive
  obtain ⟨i, hi, hslots, hpi⟩ := h.exists_of_addressed hrow hp
  have heq : c.internalId = i.internalId := by rw [hpi]; exact (of_decide_eq_true hid).symm
  have hpostings := hmerged.postings c hc
  rw [← List.flatMap_def] at hpostings
  refine ⟨i, hi, heq, ?_, ?_⟩
  · refine hpostings.trans ?_
    rw [heq]
    exact h.addressed_of_mem doc hrow hi hslots
  · exact List.ne_nil_of_mem (hpostings.mem_iff.mpr (List.mem_filter.mpr ⟨hp, hid⟩))

theorem postings_of_candidate (h : s.Stores log) {c : Candidate} (hc : c ∈ s.candidates doc)
    {i : Staged} (hi : i ∈ log) (hid : c.internalId = i.internalId) :
    c.postings.Perm (i.met doc) ∧ c.postings ≠ [] := by
  obtain ⟨j, hj, hcj, hpostings, hne⟩ := h.exists_of_candidate hc
  have heq : j = i := List.inj_on_of_nodup_map h.nodup_ids hj hi (hcj.symm.trans hid)
  exact ⟨heq ▸ hpostings, hne⟩

-- An instance that is met as often as it has slots is a candidate.
theorem candidate_of_mem (h : s.Stores log) {i : Staged} (hi : i ∈ log)
    (henough : max i.metadata.slotCount 1 ≤ (i.met doc).length) :
    ∃ c ∈ s.candidates doc, c.internalId = i.internalId := by
  obtain ⟨g, rest, hg⟩ := List.exists_cons_of_ne_nil (h.wellFormed i hi).nonempty
  have hfiled : ⟨i.metadata.slotCount, g.place, g.posting⟩ ∈ s.table.filed :=
    h.mem_filed.mpr ⟨i, hi, List.mem_map.mpr ⟨g, hg ▸ List.mem_cons_self, rfl⟩⟩
  obtain ⟨row, hrow⟩ := SortedMap.mem_keys.mp ((Table.mem_keys_iff h.table).mpr ⟨_, hfiled, rfl⟩)
  have hmet := h.addressed_of_mem doc hrow hi rfl
  have hcount : max i.metadata.slotCount 1 ≤ ((row.addressed doc).flatMap
      PostingList.toList).countP (·.internalId = i.internalId) := by
    rw [List.countP_eq_length_filter, hmet.length_eq]
    exact henough
  rw [← h.listCount_addressed doc hrow] at hcount
  obtain ⟨c, hc, hid⟩ := ((h.candidates_spec doc hrow).found i.internalId).mpr hcount
  exact ⟨c, List.mem_flatMap.mpr ⟨_, SortedMap.mem_entries_iff.mpr hrow, hc⟩, hid⟩

end Stores

end FormIndex

end Targeting.Index
