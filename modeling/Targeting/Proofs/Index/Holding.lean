import Mathlib
import Targeting.Proofs.Index.Representation

namespace Targeting.Index

-- The criteria that are published, whatever ids they have.
def Ledger.Agrees (ledger : Ledger) (held : SortedMap String Criteria) : Prop :=
  ∀ id, (ledger.current.find? id).map Published.criteria = held.find? id

-- An index that holds some criteria, with or without stale instances.
def FormIndex.Holds (s : FormIndex) (held : SortedMap String Criteria) : Prop :=
  ∃ ledger log, s.Represents ledger log ∧ ledger.Agrees held

-- An index that holds some criteria and nothing else.
def FormIndex.HoldsOnly (s : FormIndex) (held : SortedMap String Criteria) : Prop :=
  ∃ ledger, s.Represents ledger ledger.live ∧ ledger.Agrees held

-- What a table needs to know of an instance to be counted.
def Staged.shape (i : Staged) : Nat × Nat := (i.metadata.slotCount, i.filings.length)

section Shapes

theorem shape_make (internalId : Nat) (externalId : String) (metadata : Instance)
    (terms : List Term) :
    (Staged.make internalId metadata
      (terms.flatMap (Term.literals internalId externalId))).shape
      = (metadata.slotCount, (terms.map fun t => (tokens t.predicate.caveat).length).sum
          + if metadata.slotCount = 0 then 1 else 0) := by
  rw [Staged.shape, Staged.make, List.length_append, Literal.length_filings, List.length_flatMap]
  simp only [Term.literals, literals, List.length_map]
  split <;> rfl

-- An instance has the same shape under every id.
theorem map_shape_stage (firstId : Nat) (criteria : Criteria) :
    (stage firstId criteria).map Staged.shape = (stage 0 criteria).map Staged.shape := by
  rw [stage, stage]
  split
  · rw [List.map_map, List.map_map]
    refine List.map_congr_left fun e _ => ?_
    simp only [Function.comp_apply, Term.stageConjunction_eq, shape_make]
  · simp only [List.map_cons, List.map_nil, Term.stageFormula_eq, shape_make]

end Shapes

namespace Ledger

variable {ledger : Ledger} {held : SortedMap String Criteria}

theorem Agrees.publish (h : ledger.Agrees held) (nextId : Nat) (criteria : Criteria) :
    (ledger.record nextId (.publish criteria)).Agrees (held.insert criteria.id criteria) := by
  intro id
  rw [record, SortedMap.find?_insert, SortedMap.find?_insert]
  split
  · rfl
  · exact h id

theorem Agrees.retire (h : ledger.Agrees held) (nextId : Nat) (externalId : String) :
    (ledger.record nextId (.retire externalId)).Agrees (held.erase externalId) := by
  intro id
  rw [record, SortedMap.find?_erase, SortedMap.find?_erase]
  split
  · rfl
  · exact h id

theorem Agrees.find?_eq_none_iff (h : ledger.Agrees held) {id : String} :
    ledger.current.find? id = none ↔ held.find? id = none := by
  rw [← h id, Option.map_eq_none_iff]

-- The shapes of the live instances are those of the criteria.
theorem Agrees.map_shape_live (h : ledger.Agrees held) :
    ledger.live.map Staged.shape
      = held.values.flatMap fun c => (stage 0 c).map Staged.shape := by
  rw [live, List.map_flatMap]
  refine SortedMap.flatMap_values_congr fun id => ?_
  rw [← h id, Option.map_map]
  congr 2
  funext p
  exact map_shape_stage p.firstId p.criteria

-- A criteria that was not published before adds its instances to those that are live.
theorem live_publish (h : ledger.current.find? externalId = none) (p : Published) :
    (ledger.current.insert externalId p).values.flatMap Published.instances
      |>.Perm (ledger.live ++ p.instances) := by
  have hperm := (SortedMap.insert_entries_perm h p).flatMap_right fun e => e.2.instances
  rw [List.flatMap_cons] at hperm
  rw [live, SortedMap.values, SortedMap.values, List.flatMap_map, List.flatMap_map]
  exact hperm.trans List.perm_append_comm

end Ledger

namespace FormIndex

variable {s t : FormIndex} {held : SortedMap String Criteria}

theorem HoldsOnly.holds (h : s.HoldsOnly held) : s.Holds held := by
  obtain ⟨ledger, hs, hheld⟩ := h
  exact ⟨ledger, _, hs, hheld⟩

theorem holdsOnly_empty (form : Form) (threshold : Nat) :
    (FormIndex.empty form threshold).HoldsOnly .empty :=
  ⟨.empty, .empty form threshold, fun _ => rfl⟩

section Steps

theorem Holds.publish (h : s.Holds held) (criteria : Criteria) :
    (s.publish criteria).Holds (held.insert criteria.id criteria) := by
  obtain ⟨ledger, log, hs, hheld⟩ := h
  obtain ⟨log, hstep⟩ := hs.step (.publish criteria)
  exact ⟨_, log, hstep, hheld.publish _ criteria⟩

theorem Holds.retire (h : s.Holds held) (externalId : String) :
    (s.retire externalId).Holds (held.erase externalId) := by
  obtain ⟨ledger, log, hs, hheld⟩ := h
  obtain ⟨log, hstep⟩ := hs.step (.retire externalId)
  exact ⟨_, log, hstep, hheld.retire _ externalId⟩

theorem Holds.compact (h : s.Holds held) : s.compact.1.HoldsOnly held := by
  obtain ⟨ledger, log, hs, hheld⟩ := h
  exact ⟨ledger, hs.compact, hheld⟩

-- A new criteria leaves nothing stale behind.
theorem HoldsOnly.publish (h : s.HoldsOnly held) {criteria : Criteria}
    (hnew : held.find? criteria.id = none) :
    (s.publish criteria).HoldsOnly (held.insert criteria.id criteria) := by
  obtain ⟨ledger, hs, hheld⟩ := h
  have hlive := Ledger.live_publish (hheld.find?_eq_none_iff.mpr hnew) ⟨s.nextId, criteria⟩
  have hpublished := (hs.publish criteria).of_perm hlive.symm
  rw [hs.publish_eq]
  refine ⟨_, ?_, hheld.publish s.nextId criteria⟩
  unfold compactIfDue
  split
  · exact hpublished.compact
  · exact hpublished

end Steps

section Counting

theorem Holds.liveOf_eq_nil_iff (h : s.Holds held) {id : String} :
    s.liveOf id = [] ↔ held.find? id = none := by
  obtain ⟨ledger, log, hs, hheld⟩ := h
  rw [hs.liveOf, ← hheld.find?_eq_none_iff]
  cases ledger.current.find? id with
  | none => simp
  | some p => simpa using p.ids_ne_nil

-- Conjunctions count one by one, a formula of disjunctions counts once.
theorem Holds.liveInstances (h : s.Holds held) :
    s.stats.liveInstances = (held.values.map fun c => (stage 0 c).length).sum := by
  obtain ⟨ledger, log, hs, hheld⟩ := h
  have hlength := congrArg List.length hheld.map_shape_live
  rw [List.length_map, List.length_flatMap] at hlength
  rw [stats, hs.liveIds_eq, List.length_map, hlength]
  simp only [List.length_map]

end Counting

-- The counts of an index without stale instances, read off the shapes of the instances.
section Shapes

variable {ledger : Ledger} {log : List Staged}

theorem Represents.staleInstances (h : s.Represents ledger log) :
    s.stats.staleInstances = log.length - ledger.live.length := by
  have hsize := h.instances.length_eq
  rw [stats, SortedMap.size, hsize, List.length_map, h.liveIds_eq, List.length_map]

theorem Represents.postingEntries (h : s.Represents ledger log) :
    s.stats.postingEntries = ((log.map Staged.shape).map Prod.snd).sum := by
  have hfiled := h.filed.length_eq
  rw [stats, Table.postingCount_eq, hfiled, List.length_flatMap, List.map_map]
  simp [Staged.filed, Staged.shape, Function.comp_def]

theorem Represents.rows (h : s.Represents ledger log) :
    s.stats.rows = ((log.map Staged.shape).map Prod.fst).dedup.length := by
  have hkeys : s.table.rows.keys.Perm ((log.map Staged.shape).map Prod.fst).dedup := by
    refine (List.perm_ext_iff_of_nodup s.table.rows.nodup_keys (List.nodup_dedup _)).mpr ?_
    intro slotCount
    rw [Table.mem_keys_iff h.table, List.mem_dedup, List.map_map, List.mem_map]
    constructor
    · rintro ⟨f, hf, rfl⟩
      obtain ⟨i, hi, hf⟩ := h.mem_filed.mp hf
      obtain ⟨g, hg, rfl⟩ := List.mem_map.mp hf
      exact ⟨i, hi, rfl⟩
    · rintro ⟨i, hi, rfl⟩
      obtain ⟨g, rest, hg⟩ := List.exists_cons_of_ne_nil (h.wellFormed i hi).nonempty
      refine ⟨⟨i.metadata.slotCount, g.place, g.posting⟩, h.mem_filed.mpr ⟨i, hi, ?_⟩, rfl⟩
      exact List.mem_map.mpr ⟨g, hg ▸ List.mem_cons_self, rfl⟩
  rw [← hkeys.length_eq, SortedMap.keys, List.length_map]
  rfl

-- Two indexes that hold the same criteria and nothing else count the same.
theorem HoldsOnly.stats_eq (hs : s.HoldsOnly held) (ht : t.HoldsOnly held) :
    s.stats = t.stats ∧ s.stats.staleInstances = 0 := by
  obtain ⟨m, hs, hm⟩ := hs
  obtain ⟨n, ht, hn⟩ := ht
  have hshapes : m.live.map Staged.shape = n.live.map Staged.shape := by
    rw [hm.map_shape_live, hn.map_shape_live]
  have hlive : s.stats.liveInstances = t.stats.liveInstances := by
    have hlength := congrArg List.length hshapes
    rw [List.length_map, List.length_map] at hlength
    rw [stats, stats, hs.liveIds_eq, ht.liveIds_eq, List.length_map, List.length_map, hlength]
  have hstale := hs.staleInstances
  rw [Nat.sub_self] at hstale
  have hstale' := ht.staleInstances
  rw [Nat.sub_self] at hstale'
  have hentries : s.stats.postingEntries = t.stats.postingEntries := by
    rw [hs.postingEntries, ht.postingEntries, hshapes]
  have hrows : s.stats.rows = t.stats.rows := by
    rw [hs.rows, ht.rows, hshapes]
  refine ⟨?_, hstale⟩
  cases hcounts : s.stats
  cases hcounts' : t.stats
  simp_all

end Shapes

section Compaction

-- Compaction removes as many postings as it counts.
theorem postingEntries_compact (s : FormIndex) :
    s.stats.postingEntries = s.compact.1.stats.postingEntries + s.compact.2 := by
  have hkept : s.compact.1.stats.postingEntries
      = s.table.postings.countP fun p => s.liveIds.contains p.internalId := by
    have hretain := Table.filed_retain s.liveIds.contains s.table
    rw [stats, Table.postingCount_eq, compact, hretain, ← Table.map_posting_filed, List.countP_map,
      List.countP_eq_length_filter]
    rfl
  have hdropped : s.compact.2
      = s.table.postings.countP fun p => !s.liveIds.contains p.internalId :=
    Table.dropped_retain s.liveIds.contains s.table
  rw [hkept, hdropped, stats, Table.postingCount,
    List.length_eq_countP_add_countP fun p : Posting => s.liveIds.contains p.internalId]
  simp

-- Without stale instances there is nothing to remove.
theorem HoldsOnly.compact (h : s.HoldsOnly held) : s.compact.2 = 0 := by
  have hcompact := postingEntries_compact s
  rw [(h.stats_eq h.holds.compact).1] at hcompact
  omega

end Compaction

end FormIndex

end Targeting.Index
