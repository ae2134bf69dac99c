import Mathlib
import Targeting.Index.FormIndex
import Targeting.Proofs.Index.Filing
import Targeting.Proofs.Index.Retention

namespace Targeting.Index

-- Filing changes the table and the metadata and nothing else.
theorem FormIndex.foldl_file_eq (staged : List Staged) (s : FormIndex) :
    staged.foldl FormIndex.file s
      = { s with
          table := (staged.foldl FormIndex.file s).table
          instances := (staged.foldl FormIndex.file s).instances } := by
  induction staged generalizing s with
  | nil => rfl
  | cons i rest ih =>
    rw [List.foldl_cons, ih]
    rfl

-- What is filed, and the metadata that goes with it, is that of some instances.
structure FormIndex.Stores (s : FormIndex) (log : List Staged) : Prop where
  table : s.table.WellFormed
  filed : s.table.filed.Perm (log.flatMap Staged.filed)
  instances : s.instances.entries.Perm (log.map fun i => (i.internalId, i.metadata))
  wellFormed : ∀ i ∈ log, i.WellFormed

theorem Staged.WellFormed.nodup_filed {i : Staged} (h : i.WellFormed) : i.filed.Nodup := by
  refine List.Nodup.of_map Filed.place ?_
  rw [Staged.filed, List.map_map]
  exact h.places

namespace FormIndex.Stores

variable {s : FormIndex} {log : List Staged}

theorem nodup_ids (h : s.Stores log) : (log.map Staged.internalId).Nodup := by
  have hperm := (h.instances.map Prod.fst).nodup_iff.mp s.instances.nodup_keys
  rwa [List.map_map] at hperm

theorem find?_instances (h : s.Stores log) {id : Nat} {m : Instance} :
    s.instances.find? id = some m ↔ ∃ i ∈ log, i.internalId = id ∧ i.metadata = m := by
  rw [← SortedMap.mem_entries_iff, h.instances.mem_iff, List.mem_map]
  simp only [Prod.mk.injEq]

theorem internalId_of_mem_filed {i : Staged} (hi : i.WellFormed) {f : Filed} (hf : f ∈ i.filed) :
    f.posting.internalId = i.internalId := by
  obtain ⟨g, hg, rfl⟩ := List.mem_map.mp hf
  exact hi.internalId g hg

theorem externalId_of_mem_filed {i : Staged} (hi : i.WellFormed) {f : Filed} (hf : f ∈ i.filed) :
    f.posting.externalId = i.metadata.externalId := by
  obtain ⟨g, hg, rfl⟩ := List.mem_map.mp hf
  exact hi.externalId g hg

theorem mem_filed (h : s.Stores log) {f : Filed} :
    f ∈ s.table.filed ↔ ∃ i ∈ log, f ∈ i.filed := by
  rw [h.filed.mem_iff, List.mem_flatMap]

-- What is filed for some ids is what is filed for the instances that have them.
theorem filter_filed (keep : Nat → Bool) (hwf : ∀ i ∈ log, i.WellFormed) :
    (log.flatMap Staged.filed).filter (fun f => keep f.posting.internalId)
      = (log.filter fun i => keep i.internalId).flatMap Staged.filed := by
  induction log with
  | nil => rfl
  | cons i rest ih =>
    have hi (f : Filed) (hf : f ∈ i.filed) := internalId_of_mem_filed (hwf i (by simp)) hf
    rw [List.flatMap_cons, List.filter_append, ih fun j hj => hwf j (List.mem_cons_of_mem _ hj),
      List.filter_cons]
    by_cases hk : keep i.internalId = true
    · rw [List.filter_eq_self.mpr fun f hf => by rw [hi f hf]; exact hk, if_pos hk,
        List.flatMap_cons]
    · rw [List.filter_eq_nil_iff.mpr fun f hf => by rw [hi f hf]; exact hk, if_neg hk,
        List.nil_append]

theorem filter_internalId_eq {i : Staged} (hnodup : (log.map Staged.internalId).Nodup)
    (hi : i ∈ log) : (log.filter fun j => decide (j.internalId = i.internalId)) = [i] := by
  induction log with
  | nil => simp at hi
  | cons j rest ih =>
    rw [List.map_cons, List.nodup_cons] at hnodup
    rw [List.filter_cons]
    rcases List.mem_cons.mp hi with rfl | hi
    · have hrest : (rest.filter fun j => decide (j.internalId = i.internalId)) = [] := by
        refine List.filter_eq_nil_iff.mpr fun j hj => ?_
        simpa using fun h : j.internalId = i.internalId =>
          hnodup.1 (List.mem_map.mpr ⟨j, hj, h⟩)
      simp [hrest]
    · have hne : j.internalId ≠ i.internalId := fun h =>
        hnodup.1 (List.mem_map.mpr ⟨i, hi, h.symm⟩)
      simpa [hne] using ih hnodup.2 hi

-- What is filed under an id is what was staged for it.
theorem filed_of_mem (h : s.Stores log) {i : Staged} (hi : i ∈ log) :
    (s.table.filed.filter fun f => f.posting.internalId = i.internalId).Perm i.filed := by
  refine (h.filed.filter _).trans (List.Perm.of_eq ?_)
  rw [filter_filed (fun id => decide (id = i.internalId)) h.wellFormed,
    filter_internalId_eq h.nodup_ids hi, List.flatMap_singleton]

theorem empty (form : Form) (threshold : Nat) : (FormIndex.empty form threshold).Stores [] where
  table := Table.empty_wellFormed
  filed := List.Perm.refl _
  instances := List.Perm.refl _
  wellFormed := by simp

theorem file (h : s.Stores log) {i : Staged} (hi : i.WellFormed)
    (hnew : ∀ j ∈ log, j.internalId ≠ i.internalId) : (s.file i).Stores (log ++ [i]) := by
  have hfile := h.table.file hi fun f hf => by
    obtain ⟨j, hj, hf⟩ := h.mem_filed.mp hf
    rw [internalId_of_mem_filed (h.wellFormed j hj) hf]
    exact hnew j hj
  have hnone : s.instances.find? i.internalId = none := by
    cases hf : s.instances.find? i.internalId with
    | none => rfl
    | some m =>
      obtain ⟨j, hj, hid, -⟩ := h.find?_instances.mp hf
      exact absurd hid (hnew j hj)
  refine ⟨hfile.1, ?_, ?_, ?_⟩
  · rw [List.flatMap_append, List.flatMap_singleton]
    exact hfile.2.trans (h.filed.append_right _)
  · rw [List.map_append]
    exact (SortedMap.insert_entries_perm hnone i.metadata).trans
      ((h.instances.cons _).trans (List.perm_append_singleton _ _).symm)
  · intro j hj
    rcases List.mem_append.mp hj with hj | hj
    · exact h.wellFormed j hj
    · rw [List.mem_singleton.mp hj]
      exact hi

theorem foldl_file {staged : List Staged} (h : s.Stores log) (hwf : ∀ i ∈ staged, i.WellFormed)
    (hnodup : (staged.map Staged.internalId).Nodup)
    (hnew : ∀ i ∈ staged, ∀ j ∈ log, j.internalId ≠ i.internalId) :
    (staged.foldl FormIndex.file s).Stores (log ++ staged) := by
  induction staged generalizing s log with
  | nil => simpa using h
  | cons i rest ih =>
    rw [List.map_cons, List.nodup_cons] at hnodup
    have hi := h.file (hwf i (by simp)) (hnew i (by simp))
    have := ih hi (fun j hj => hwf j (List.mem_cons_of_mem _ hj)) hnodup.2 fun j hj k hk => by
      rcases List.mem_append.mp hk with hk | hk
      · exact hnew j (List.mem_cons_of_mem _ hj) k hk
      · rw [List.mem_singleton.mp hk]
        exact fun heq => hnodup.1 (List.mem_map.mpr ⟨j, hj, heq.symm⟩)
    simpa using this

-- What compaction keeps is the instances that are live.
theorem retain (h : s.Stores log) (keep : Nat → Bool) :
    FormIndex.Stores
      { s with
        table := (s.table.retain keep).1
        instances := s.instances.filter fun id _ => keep id }
      (log.filter fun i => keep i.internalId) := by
  refine ⟨h.table.retain keep, ?_, ?_, fun i hi => h.wellFormed i (List.mem_filter.mp hi).1⟩
  · rw [Table.filed_retain, ← filter_filed keep h.wellFormed]
    exact h.filed.filter _
  · rw [SortedMap.entries_filter]
    refine (h.instances.filter _).trans (List.Perm.of_eq ?_)
    rw [List.filter_map]
    rfl

theorem nodup_filed (h : s.Stores log) : s.table.filed.Nodup := by
  rw [h.filed.nodup_iff, List.nodup_flatMap]
  refine ⟨fun i hi => (h.wellFormed i hi).nodup_filed, ?_⟩
  refine (List.pairwise_map.mp h.nodup_ids).imp_of_mem ?_
  intro i j hi hj hij f hfi hfj
  refine hij ?_
  rw [← internalId_of_mem_filed (h.wellFormed i hi) hfi,
    ← internalId_of_mem_filed (h.wellFormed j hj) hfj]

end FormIndex.Stores

end Targeting.Index
