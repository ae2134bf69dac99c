import Mathlib
import Targeting.Proofs.Index.Storage

namespace Targeting.Index

-- What is done with the criteria of one form.
inductive Step where
  | publish (criteria : Criteria)
  | retire (externalId : String)
  | compact

namespace FormIndex

def step (s : FormIndex) : Step → FormIndex
  | .publish criteria => s.publish criteria
  | .retire externalId => s.retire externalId
  | .compact => s.compact.1

def run (s : FormIndex) (steps : List Step) : FormIndex := steps.foldl step s

end FormIndex

-- A criteria with the first of the consecutive ids that it was published under.
structure Published where
  firstId : Nat
  criteria : Criteria

namespace Published

def instances (p : Published) : List Staged := stage p.firstId p.criteria

def ids (p : Published) : List Nat := p.instances.map Staged.internalId

end Published

-- What has been done so far: the criteria that are published and not retired, and every id that was
-- ever given, in order, with the criteria that it was given to.
structure Ledger where
  current : SortedMap String Published
  issued : List (Nat × String)

namespace Ledger

def empty : Ledger := ⟨.empty, []⟩

def record (ledger : Ledger) (nextId : Nat) : Step → Ledger
  | .publish criteria =>
    ⟨ledger.current.insert criteria.id ⟨nextId, criteria⟩,
      ledger.issued ++ (Published.ids ⟨nextId, criteria⟩).map fun id => (id, criteria.id)⟩
  | .retire externalId => { ledger with current := ledger.current.erase externalId }
  | .compact => ledger

-- The steps of a run, as they are done from a state on.
def follow (s : FormIndex) (ledger : Ledger) : List Step → Ledger
  | [] => ledger
  | step :: rest => follow (s.step step) (ledger.record s.nextId step) rest

-- The instances of the criteria that are published.
def live (ledger : Ledger) : List Staged := ledger.current.values.flatMap Published.instances

end Ledger

section Published

variable (p : Published)

theorem Published.ids_eq : p.ids = List.range' p.firstId p.instances.length :=
  stage_internalIds p.firstId p.criteria

theorem Published.ids_ne_nil : p.ids ≠ [] := by
  rw [ids, ne_eq, List.map_eq_nil_iff]
  exact stage_ne_nil p.firstId p.criteria

end Published

-- What a step publishes when the given id is the next.
def Step.published (nextId : Nat) : Step → List Published
  | .publish criteria => [⟨nextId, criteria⟩]
  | .retire _ => []
  | .compact => []

-- What the steps of a run publish, also where it is replaced or retired later on.
def FormIndex.publications (s : FormIndex) : List Step → List Published
  | [] => []
  | step :: rest => step.published s.nextId ++ (s.step step).publications rest

-- A state and what has been done to reach it. Besides the live instances there may be stale ones.
structure FormIndex.Represents (s : FormIndex) (ledger : Ledger) (log : List Staged) : Prop
    extends s.Stores log where
  issued : ledger.issued.map Prod.fst = List.range s.nextId
  logged : ∀ i ∈ log, (i.internalId, i.metadata.externalId) ∈ ledger.issued
  liveOf : ∀ externalId, s.liveOf externalId
    = ((ledger.current.find? externalId).map Published.ids).getD []
  current : ∀ externalId p, ledger.current.find? externalId = some p →
    p.criteria.id = externalId ∧ ∀ i ∈ p.instances, i ∈ log
  history : ∀ externalId v, s.versions.find? externalId = some v → ∀ id ∈ v.history, id < s.nextId

-- An index after a criteria is filed under the ids from the next one on, and made current.
def FormIndex.published (s : FormIndex) (criteria : Criteria) : FormIndex :=
  ((stage s.nextId criteria).foldl file
      { s with nextId := s.nextId + (stage s.nextId criteria).length }).flip criteria.id
    ((stage s.nextId criteria).map Staged.internalId)

namespace FormIndex.Represents

variable {s : FormIndex} {ledger : Ledger} {log : List Staged}

theorem lt_nextId (h : s.Represents ledger log) {i : Staged} (hi : i ∈ log) :
    i.internalId < s.nextId := by
  have hmem := List.mem_map_of_mem (f := Prod.fst) (h.logged i hi)
  rw [h.issued, List.mem_range] at hmem
  exact hmem

theorem mem_live {i : Staged} :
    i ∈ ledger.live ↔ ∃ externalId p, ledger.current.find? externalId = some p ∧ i ∈ p.instances := by
  simp only [Ledger.live, List.mem_flatMap, SortedMap.mem_values]
  constructor
  · rintro ⟨p, ⟨externalId, hp⟩, hi⟩
    exact ⟨externalId, p, hp, hi⟩
  · rintro ⟨externalId, p, hp, hi⟩
    exact ⟨p, ⟨externalId, hp⟩, hi⟩

theorem mem_log_of_live (h : s.Represents ledger log) {i : Staged} (hi : i ∈ ledger.live) :
    i ∈ log := by
  obtain ⟨externalId, p, hp, hi⟩ := mem_live.mp hi
  exact (h.current externalId p hp).2 i hi

theorem liveIds_eq (h : s.Represents ledger log) :
    s.liveIds = ledger.live.map Staged.internalId := by
  rw [liveIds, Ledger.live, List.map_flatMap]
  exact SortedMap.flatMap_values_congr h.liveOf

-- Two criteria that are published have no id in common.
theorem nodup_live (h : s.Represents ledger log) :
    (ledger.live.map Staged.internalId).Nodup := by
  rw [Ledger.live, List.map_flatMap, SortedMap.values, List.flatMap_map, List.nodup_flatMap]
  refine ⟨fun e _ => ?_, ?_⟩
  · have := Published.ids_eq e.2
    rw [Published.ids] at this
    rw [this]
    exact List.nodup_range'
  · refine (List.pairwise_map.mp ledger.current.nodup_keys).imp_of_mem ?_
    intro a b ha hb hab id hida hidb
    obtain ⟨i, hi, rfl⟩ := List.mem_map.mp hida
    obtain ⟨j, hj, hij⟩ := List.mem_map.mp hidb
    obtain ⟨hpa, hla⟩ := h.current a.1 a.2 (SortedMap.mem_entries_iff.mp ha)
    obtain ⟨hpb, hlb⟩ := h.current b.1 b.2 (SortedMap.mem_entries_iff.mp hb)
    have heq : j = i := List.inj_on_of_nodup_map h.nodup_ids (hlb j hj) (hla i hi) hij
    subst heq
    refine hab ?_
    rw [← hpa, ← hpb, ← stage_externalId _ _ hi, ← stage_externalId _ _ hj]

theorem empty (form : Form) (threshold : Nat) :
    (FormIndex.empty form threshold).Represents .empty [] where
  toStores := .empty form threshold
  issued := rfl
  logged := by simp
  liveOf _ := rfl
  current _ _ h := nomatch h
  history _ _ h := nomatch h

section Publishing

-- The ids of a new version are higher than all before, so it is always filed.
theorem not_newer (h : s.Represents ledger log) (criteria : Criteria) :
    ((s.newest? criteria.id).any fun newest =>
      ((stage s.nextId criteria).map Staged.internalId).all (· < newest)) = false := by
  cases hnewest : s.newest? criteria.id with
  | none => rfl
  | some newest =>
    obtain ⟨v, hv, hmax⟩ := Option.bind_eq_some_iff.mp hnewest
    have hlt := h.history criteria.id v hv newest (List.max?_mem hmax)
    have hne := stage_ne_nil s.nextId criteria
    rw [stage_internalIds, Option.any_some, List.all_eq_false]
    refine ⟨s.nextId, List.mem_range'_1.mpr ⟨Nat.le_refl _, ?_⟩, by simpa using hlt.le⟩
    have := List.length_pos_of_ne_nil hne
    omega

theorem stage_ge {firstId : Nat} {criteria : Criteria} {i : Staged} (hi : i ∈ stage firstId criteria) :
    firstId ≤ i.internalId ∧ i.internalId < firstId + (stage firstId criteria).length := by
  have hmem := List.mem_map_of_mem (f := Staged.internalId) hi
  rw [stage_internalIds, List.mem_range'_1] at hmem
  exact hmem

theorem liveOf_flip (s : FormIndex) (externalId other : String) (ids : List Nat) :
    (s.flip externalId ids).liveOf other = if other = externalId then ids else s.liveOf other := by
  rw [FormIndex.liveOf, flip, SortedMap.find?_upsert]
  split <;> rfl

theorem publish_eq (h : s.Represents ledger log) (criteria : Criteria) :
    s.publish criteria = (s.published criteria).compactIfDue := by
  rw [FormIndex.publish, if_neg (by rw [h.not_newer criteria]; simp)]
  rfl

theorem stores_published (h : s.Represents ledger log) (criteria : Criteria) :
    (s.published criteria).Stores (log ++ stage s.nextId criteria) := by
  have hstores : FormIndex.Stores
      { s with nextId := s.nextId + (stage s.nextId criteria).length } log :=
    ⟨h.table, h.filed, h.instances, h.wellFormed⟩
  have hids : ((stage s.nextId criteria).map Staged.internalId).Nodup := by
    rw [stage_internalIds]
    exact List.nodup_range'
  have hfiled := hstores.foldl_file (fun i => stage_wellFormed s.nextId criteria) hids
    fun i hi j hj => by
      have := h.lt_nextId hj
      have := (stage_ge hi).1
      omega
  exact ⟨hfiled.table, hfiled.filed, hfiled.instances, hfiled.wellFormed⟩

-- The ids that are given follow on those given before.
theorem issued_publish (h : s.Represents ledger log) (criteria : Criteria) :
    (ledger.record s.nextId (.publish criteria)).issued.map Prod.fst
      = List.range (s.nextId + (stage s.nextId criteria).length) := by
  have hnew : (Published.ids ⟨s.nextId, criteria⟩).map (fun id => (id, criteria.id).1)
      = List.range' s.nextId (stage s.nextId criteria).length := by
    rw [List.map_id', Published.ids_eq]
    rfl
  have hrange : List.range s.nextId ++ List.range' s.nextId (stage s.nextId criteria).length
      = List.range (s.nextId + (stage s.nextId criteria).length) := by
    rw [List.range_eq_range', List.range_eq_range', ← List.range'_append_1, Nat.zero_add]
  rw [Ledger.record, List.map_append, h.issued, List.map_map]
  exact (congrArg _ hnew).trans hrange

theorem history_published (h : s.Represents ledger log) (criteria : Criteria) {externalId : String}
    {v : Versions} (hv : (s.published criteria).versions.find? externalId = some v) :
    ∀ id ∈ v.history, id < s.nextId + (stage s.nextId criteria).length := by
  intro id hid
  rw [published, flip, foldl_file_eq, SortedMap.find?_upsert] at hv
  split at hv
  next =>
    cases hv
    rcases List.mem_append.mp hid with hid | hid
    · cases hold : s.versions.find? criteria.id with
      | none => simp [hold, Versions.empty] at hid
      | some old =>
        rw [hold] at hid
        have := h.history criteria.id old hold id hid
        omega
    · obtain ⟨i, hi, rfl⟩ := List.mem_map.mp hid
      exact (stage_ge hi).2
  next =>
    have := h.history externalId v hv id hid
    omega

theorem publish (h : s.Represents ledger log) (criteria : Criteria) :
    (s.published criteria).Represents (ledger.record s.nextId (.publish criteria))
      (log ++ stage s.nextId criteria) where
  toStores := h.stores_published criteria
  issued := by
    rw [published, flip, foldl_file_eq]
    exact h.issued_publish criteria
  logged i hi := by
    rcases List.mem_append.mp hi with hi | hi
    · exact List.mem_append_left _ (h.logged i hi)
    · refine List.mem_append_right _ (List.mem_map.mpr ⟨i.internalId, List.mem_map_of_mem hi, ?_⟩)
      rw [stage_externalId s.nextId criteria hi]
  liveOf externalId := by
    rw [published, liveOf_flip, Ledger.record, SortedMap.find?_insert, foldl_file_eq]
    split
    · rfl
    · exact h.liveOf externalId
  current externalId p hp := by
    rw [Ledger.record, SortedMap.find?_insert] at hp
    split at hp
    next heq =>
      cases hp
      exact ⟨heq.symm, fun i hi => List.mem_append_right _ hi⟩
    next =>
      obtain ⟨hid, hlog⟩ := h.current externalId p hp
      exact ⟨hid, fun i hi => List.mem_append_left _ (hlog i hi)⟩
  history externalId v hv := by
    have hnextId : (s.published criteria).nextId
        = s.nextId + (stage s.nextId criteria).length := by
      rw [published, flip, foldl_file_eq]
    rw [hnextId]
    exact h.history_published criteria hv

end Publishing

theorem retire (h : s.Represents ledger log) {externalId : String} {v : Versions}
    (hv : s.versions.find? externalId = some v) :
    FormIndex.Represents
      { s with
        versions := s.versions.insert externalId ⟨v.history, []⟩
        stale := s.stale + v.live.length }
      (ledger.record s.nextId (.retire externalId)) log := by
  refine ⟨⟨h.table, h.filed, h.instances, h.wellFormed⟩, h.issued, h.logged, ?_, ?_, ?_⟩
  · intro other
    rw [FormIndex.liveOf, Ledger.record, SortedMap.find?_insert, SortedMap.find?_erase]
    split
    · rfl
    · exact h.liveOf other
  · intro other p hp
    rw [Ledger.record, SortedMap.find?_erase] at hp
    split at hp
    · cases hp
    · exact h.current other p hp
  · intro other w hw
    change (s.versions.insert _ _).find? other = some w at hw
    rw [SortedMap.find?_insert] at hw
    split at hw
    next =>
      cases hw
      exact h.history externalId v hv
    next => exact h.history other w hw

-- A criteria that was never published is not current.
theorem retire_absent (h : s.Represents ledger log) {externalId : String}
    (hv : s.versions.find? externalId = none) :
    s.Represents (ledger.record s.nextId (.retire externalId)) log := by
  refine ⟨h.toStores, h.issued, h.logged, ?_, ?_, h.history⟩
  · intro other
    rw [Ledger.record, SortedMap.find?_erase]
    split
    next heq => rw [heq, FormIndex.liveOf, hv]; rfl
    next => exact h.liveOf other
  · intro other p hp
    rw [Ledger.record, SortedMap.find?_erase] at hp
    split at hp
    · cases hp
    · exact h.current other p hp

section Compaction

theorem liveOf_compact (s : FormIndex) (externalId : String) :
    s.compact.1.liveOf externalId = s.liveOf externalId := by
  rw [FormIndex.liveOf, FormIndex.liveOf, FormIndex.compact, SortedMap.find?_filterMap]
  cases s.versions.find? externalId with
  | none => rfl
  | some v =>
    rw [Option.bind_some, Versions.compact?]
    split
    next hlive => simp [List.isEmpty_iff.mp hlive]
    next => rfl

theorem mem_live_iff (h : s.Represents ledger log) {i : Staged} (hi : i ∈ log) :
    s.liveIds.contains i.internalId = true ↔ i ∈ ledger.live := by
  rw [List.contains_iff_mem, h.liveIds_eq, List.mem_map]
  constructor
  · rintro ⟨j, hj, hij⟩
    have heq : j = i := List.inj_on_of_nodup_map h.nodup_ids (h.mem_log_of_live hj) hi hij
    exact heq ▸ hj
  · intro hlive
    exact ⟨i, hlive, rfl⟩

-- Compaction leaves the live instances.
theorem filter_live (h : s.Represents ledger log) :
    (log.filter fun i => s.liveIds.contains i.internalId).Perm ledger.live := by
  refine (List.perm_ext_iff_of_nodup (h.nodup_ids.of_map.filter _) h.nodup_live.of_map).mpr ?_
  intro i
  rw [List.mem_filter]
  constructor
  · rintro ⟨hi, hlive⟩
    exact (h.mem_live_iff hi).mp hlive
  · intro hlive
    have hi := h.mem_log_of_live hlive
    exact ⟨hi, (h.mem_live_iff hi).mpr hlive⟩

theorem of_perm {other : List Staged} (h : s.Represents ledger log) (hperm : log.Perm other) :
    s.Represents ledger other where
  table := h.table
  filed := h.filed.trans (hperm.flatMap_right _)
  instances := h.instances.trans (hperm.map _)
  wellFormed i hi := h.wellFormed i (hperm.mem_iff.mpr hi)
  issued := h.issued
  logged i hi := h.logged i (hperm.mem_iff.mpr hi)
  liveOf := h.liveOf
  current externalId p hp :=
    ⟨(h.current externalId p hp).1,
      fun i hi => hperm.mem_iff.mp ((h.current externalId p hp).2 i hi)⟩
  history := h.history

theorem compact (h : s.Represents ledger log) : s.compact.1.Represents ledger ledger.live := by
  refine FormIndex.Represents.of_perm ?_ h.filter_live
  have hretain := h.toStores.retain s.liveIds.contains
  refine ⟨⟨hretain.table, hretain.filed, hretain.instances, hretain.wellFormed⟩, h.issued,
    ?_, ?_, ?_, ?_⟩
  · intro i hi
    exact h.logged i (List.mem_filter.mp hi).1
  · intro externalId
    rw [liveOf_compact]
    exact h.liveOf externalId
  · intro externalId p hp
    refine ⟨(h.current externalId p hp).1, fun i hi => ?_⟩
    exact h.filter_live.mem_iff.mpr (mem_live.mpr ⟨externalId, p, hp, hi⟩)
  · intro externalId w hw id hid
    change (s.versions.filterMap _).find? externalId = some w at hw
    rw [SortedMap.find?_filterMap] at hw
    obtain ⟨v, hv, hw⟩ := Option.bind_eq_some_iff.mp hw
    rw [Versions.compact?] at hw
    split at hw
    · cases hw
    · cases hw
      exact h.history externalId v hv id (List.max?_mem (Option.mem_toList.mp hid))

theorem compactIfDue (h : s.Represents ledger log) :
    ∃ kept ⊆ log, s.compactIfDue.Represents ledger kept := by
  unfold FormIndex.compactIfDue
  split
  · exact ⟨_, fun _ => h.mem_log_of_live, h.compact⟩
  · exact ⟨log, List.Subset.refl _, h⟩

end Compaction

-- What one step preserves. It brings no instances but those of the criteria that it publishes.
theorem step_subset (h : s.Represents ledger log) (step : Step) :
    ∃ next ⊆ log ++ (step.published s.nextId).flatMap Published.instances,
      (s.step step).Represents (ledger.record s.nextId step) next := by
  cases step with
  | publish criteria =>
    rw [FormIndex.step, h.publish_eq, Step.published, List.flatMap_singleton]
    exact (h.publish criteria).compactIfDue
  | retire externalId =>
    rw [FormIndex.step, FormIndex.retire, Step.published, List.flatMap_nil, List.append_nil]
    split
    next hv => exact (h.retire_absent hv).compactIfDue
    next v hv => exact (h.retire hv).compactIfDue
  | compact =>
    exact ⟨_, fun _ hi => List.mem_append_left _ (h.mem_log_of_live hi), h.compact⟩

theorem step (h : s.Represents ledger log) (step : Step) :
    ∃ log, (s.step step).Represents (ledger.record s.nextId step) log :=
  (h.step_subset step).imp fun _ hnext => hnext.2

-- What a run preserves.
theorem run_subset (h : s.Represents ledger log) (steps : List Step) :
    ∃ last ⊆ log ++ (s.publications steps).flatMap Published.instances,
      (s.run steps).Represents (ledger.follow s steps) last := by
  induction steps generalizing s ledger log with
  | nil => exact ⟨log, by simp [publications], h⟩
  | cons step rest ih =>
    obtain ⟨next, hnext, hstep⟩ := h.step_subset step
    obtain ⟨last, hlast, hrun⟩ := ih hstep
    refine ⟨last, fun i hi => ?_, hrun⟩
    rw [publications, List.flatMap_append, ← List.append_assoc]
    rcases List.mem_append.mp (hlast hi) with hi | hi
    · exact List.mem_append_left _ (hnext hi)
    · exact List.mem_append_right _ hi

theorem run (h : s.Represents ledger log) (steps : List Step) :
    ∃ log, (s.run steps).Represents (ledger.follow s steps) log :=
  (h.run_subset steps).imp fun _ hlast => hlast.2

end FormIndex.Represents

end Targeting.Index
