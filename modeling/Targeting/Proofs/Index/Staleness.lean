import Mathlib
import Targeting.Proofs.Index.Representation

namespace Targeting.Index

namespace Ledger

-- The instances that the current version of a criteria has.
def idsOf (ledger : Ledger) (externalId : String) : List Nat :=
  ((ledger.current.find? externalId).map Published.ids).getD []

-- Compaction comes by itself once there are as many instances out of service as the threshold, unless
-- that is zero. It leaves none.
def swept (threshold : Nat) (outdated : List Nat) : List Nat :=
  if 0 < threshold ∧ threshold ≤ outdated.length then [] else outdated

-- The instances that went out of service since the last compaction. Publishing and retiring add those
-- of the version that they replace or remove.
def outdate (ledger : Ledger) (threshold : Nat) (outdated : List Nat) : Step → List Nat
  | .publish criteria => swept threshold (outdated ++ ledger.idsOf criteria.id)
  | .retire externalId => swept threshold (outdated ++ ledger.idsOf externalId)
  | .compact => []

-- The instances that are out of service after some steps, as they are done from a state on.
def outdated (s : FormIndex) (ledger : Ledger) (outdated : List Nat) : List Step → List Nat
  | [] => outdated
  | step :: rest =>
    Ledger.outdated (s.step step) (ledger.record s.nextId step)
      (ledger.outdate s.compactionThreshold outdated step) rest

theorem length_swept_lt {threshold : Nat} (h : 0 < threshold) (outdated : List Nat) :
    (swept threshold outdated).length < threshold := by
  rw [swept]
  split
  · exact h
  next hfew => exact Nat.lt_of_not_le fun hmany => hfew ⟨h, hmany⟩

theorem length_outdate_lt (ledger : Ledger) {threshold : Nat} (h : 0 < threshold)
    (outdated : List Nat) (step : Step) :
    (ledger.outdate threshold outdated step).length < threshold := by
  cases step with
  | publish criteria => exact length_swept_lt h _
  | retire externalId => exact length_swept_lt h _
  | compact => exact h

-- A version that takes the place of another, or of none, goes into service as the other goes out.
theorem live_publish_perm (ledger : Ledger) (nextId : Nat) (criteria : Criteria) :
    ((ledger.record nextId (.publish criteria)).live.map Staged.internalId
        ++ ledger.idsOf criteria.id).Perm
      (ledger.live.map Staged.internalId ++ Published.ids ⟨nextId, criteria⟩) := by
  have hperm := ledger.current.flatMap_alter_perm criteria.id
    (fun _ => some ⟨nextId, criteria⟩) fun _ p => p.ids
  simp only [live, List.map_flatMap, SortedMap.values, List.flatMap_map]
  exact hperm

theorem live_retire_perm (ledger : Ledger) (nextId : Nat) (externalId : String) :
    ((ledger.record nextId (.retire externalId)).live.map Staged.internalId
        ++ ledger.idsOf externalId).Perm (ledger.live.map Staged.internalId) := by
  have hperm := ledger.current.flatMap_alter_perm externalId (fun _ => none) fun _ p => p.ids
  rw [Option.map_none, Option.getD_none, List.append_nil] at hperm
  simp only [live, List.map_flatMap, SortedMap.values, List.flatMap_map]
  exact hperm

end Ledger

theorem perm_append_swap {α : Type} (l m n : List α) : (l ++ m ++ n).Perm (l ++ (n ++ m)) := by
  rw [List.append_assoc]
  exact List.perm_append_comm.append_left _

-- A state with what has been done to reach it, and the instances that are out of service but not
-- removed yet. Every instance that is kept is either in service or among these.
structure FormIndex.Retains (s : FormIndex) (ledger : Ledger) (log : List Staged)
    (outdated : List Nat) : Prop extends s.Represents ledger log where
  kept : (log.map Staged.internalId).Perm (ledger.live.map Staged.internalId ++ outdated)
  stale : s.stale = outdated.length

section Threshold

variable (s : FormIndex)

theorem FormIndex.compactionThreshold_compactIfDue :
    s.compactIfDue.compactionThreshold = s.compactionThreshold := by
  unfold compactIfDue
  split <;> rfl

theorem FormIndex.compactionThreshold_step (step : Step) :
    (s.step step).compactionThreshold = s.compactionThreshold := by
  cases step with
  | publish criteria =>
    rw [FormIndex.step, publish]
    split
    · rfl
    · rw [compactionThreshold_compactIfDue, flip, foldl_file_eq]
  | retire externalId =>
    rw [FormIndex.step, retire]
    split <;> rw [compactionThreshold_compactIfDue]
  | compact => rfl

theorem FormIndex.compactionThreshold_run (steps : List Step) :
    (s.run steps).compactionThreshold = s.compactionThreshold := by
  induction steps generalizing s with
  | nil => rfl
  | cons step rest ih => exact (ih _).trans (s.compactionThreshold_step step)

end Threshold

namespace FormIndex.Retains

variable {s : FormIndex} {ledger : Ledger} {log : List Staged} {outdated : List Nat}

theorem empty (form : Form) (threshold : Nat) :
    (FormIndex.empty form threshold).Retains .empty [] [] where
  toRepresents := .empty form threshold
  kept := List.Perm.refl _
  stale := rfl

-- The instances that were there and the new ones are those in service and those that are not.
theorem kept_publish (h : s.Retains ledger log outdated) (criteria : Criteria) :
    ((log ++ stage s.nextId criteria).map Staged.internalId).Perm
      ((ledger.record s.nextId (.publish criteria)).live.map Staged.internalId
        ++ (outdated ++ ledger.idsOf criteria.id)) := by
  have hlive := (ledger.live_publish_perm s.nextId criteria).symm.append_right outdated
  have hkept := h.kept.append_right (Published.ids ⟨s.nextId, criteria⟩)
  have hswap := perm_append_swap (ledger.live.map Staged.internalId) outdated
    (Published.ids ⟨s.nextId, criteria⟩)
  rw [← List.append_assoc] at hswap
  rw [List.map_append]
  exact (hkept.trans (hswap.trans hlive)).trans (perm_append_swap _ _ _)

theorem publish (h : s.Retains ledger log outdated) (criteria : Criteria) :
    (s.published criteria).Retains (ledger.record s.nextId (.publish criteria))
      (log ++ stage s.nextId criteria) (outdated ++ ledger.idsOf criteria.id) where
  toRepresents := h.toRepresents.publish criteria
  kept := h.kept_publish criteria
  stale := by
    have hlive : s.liveOf criteria.id = ledger.idsOf criteria.id := h.liveOf criteria.id
    rw [published, flip, foldl_file_eq, List.length_append, ← h.stale, ← hlive]
    rfl

theorem kept_retire (h : s.Retains ledger log outdated) (externalId : String) :
    (log.map Staged.internalId).Perm
      ((ledger.record s.nextId (.retire externalId)).live.map Staged.internalId
        ++ (outdated ++ ledger.idsOf externalId)) := by
  have hlive := (ledger.live_retire_perm s.nextId externalId).symm.append_right outdated
  exact (h.kept.trans hlive).trans (perm_append_swap _ _ _)

theorem retire (h : s.Retains ledger log outdated) {externalId : String} {v : Versions}
    (hv : s.versions.find? externalId = some v) :
    FormIndex.Retains
      { s with
        versions := s.versions.insert externalId ⟨v.history, []⟩
        stale := s.stale + v.live.length }
      (ledger.record s.nextId (.retire externalId)) log (outdated ++ ledger.idsOf externalId) where
  toRepresents := h.toRepresents.retire hv
  kept := h.kept_retire externalId
  stale := by
    have hlive : v.live = ledger.idsOf externalId := by
      have := h.liveOf externalId
      rwa [FormIndex.liveOf, hv] at this
    rw [List.length_append, ← h.stale, ← hlive]

theorem retire_absent (h : s.Retains ledger log outdated) {externalId : String}
    (hv : s.versions.find? externalId = none) :
    s.Retains (ledger.record s.nextId (.retire externalId)) log
      (outdated ++ ledger.idsOf externalId) where
  toRepresents := h.toRepresents.retire_absent hv
  kept := h.kept_retire externalId
  stale := by
    have hlive : [] = ledger.idsOf externalId := by
      have := h.liveOf externalId
      rwa [FormIndex.liveOf, hv] at this
    rw [← hlive, List.append_nil, h.stale]

theorem compact (h : s.Retains ledger log outdated) : s.compact.1.Retains ledger ledger.live [] where
  toRepresents := h.toRepresents.compact
  kept := by rw [List.append_nil]
  stale := rfl

theorem compactIfDue (h : s.Retains ledger log outdated) :
    ∃ log, s.compactIfDue.Retains ledger log
      (Ledger.swept s.compactionThreshold outdated) := by
  have hdue : s.isDue = true
      ↔ 0 < s.compactionThreshold ∧ s.compactionThreshold ≤ outdated.length := by
    rw [isDue, h.stale, Bool.and_eq_true, decide_eq_true_eq, decide_eq_true_eq]
  unfold FormIndex.compactIfDue Ledger.swept
  simp only [hdue]
  split
  · exact ⟨_, h.compact⟩
  · exact ⟨_, h⟩

-- What one step preserves.
theorem step (h : s.Retains ledger log outdated) (step : Step) :
    ∃ log, (s.step step).Retains (ledger.record s.nextId step) log
      (ledger.outdate s.compactionThreshold outdated step) := by
  cases step with
  | publish criteria =>
    have hthreshold : (s.published criteria).compactionThreshold = s.compactionThreshold := by
      rw [published, flip, foldl_file_eq]
    rw [FormIndex.step, h.publish_eq, Ledger.outdate, ← hthreshold]
    exact (h.publish criteria).compactIfDue
  | retire externalId =>
    rw [FormIndex.step, FormIndex.retire]
    split
    next hv => exact (h.retire_absent hv).compactIfDue
    next v hv => exact (h.retire hv).compactIfDue
  | compact => exact ⟨_, h.compact⟩

-- What a run preserves.
theorem run (h : s.Retains ledger log outdated)
    (hfew : 0 < s.compactionThreshold → outdated.length < s.compactionThreshold)
    (steps : List Step) :
    ∃ log, (s.run steps).Retains (ledger.follow s steps) log (ledger.outdated s outdated steps) ∧
      (0 < s.compactionThreshold →
        (ledger.outdated s outdated steps).length < s.compactionThreshold) := by
  induction steps generalizing s ledger log outdated with
  | nil => exact ⟨log, h, hfew⟩
  | cons step rest ih =>
    obtain ⟨_, hstep⟩ := h.step step
    have hthreshold := s.compactionThreshold_step step
    obtain ⟨log, hrun, hfew⟩ := ih hstep fun hpositive => by
      rw [hthreshold] at hpositive ⊢
      exact ledger.length_outdate_lt hpositive outdated step
    rw [hthreshold] at hfew
    exact ⟨log, hrun, hfew⟩

end FormIndex.Retains

-- What can be relied on after any run, where some instances went out of service since the last
-- compaction.
structure FormIndex.Accounts (s : FormIndex) (outdated : List Nat) : Prop where
  bounded : 0 < s.compactionThreshold → s.stale < s.compactionThreshold
  counted : s.stale = outdated.length
  -- The counter counts the instances that are kept without being live.
  stale : s.stale = s.instances.keys.countP fun id => !s.liveIds.contains id
  live : ∀ id ∈ s.liveIds, id ∈ s.instances.keys
  -- These are the instances that went out of service.
  nodup : outdated.Nodup
  mem_outdated : ∀ id, id ∈ outdated ↔ id ∈ s.instances.keys ∧ id ∉ s.liveIds
  -- The difference that the statistics show is that of a sum and one of its terms.
  size : s.instances.size = s.stats.liveInstances + outdated.length
  stats : s.stats.staleInstances = s.stale

namespace FormIndex

variable {s : FormIndex} {ledger : Ledger} {log : List Staged} {outdated : List Nat}

theorem Retains.keys_perm (h : s.Retains ledger log outdated) :
    s.instances.keys.Perm (s.liveIds ++ outdated) := by
  have hkeys := h.instances.map Prod.fst
  rw [List.map_map] at hkeys
  rw [h.liveIds_eq]
  exact hkeys.trans h.kept

theorem Retains.accounts (h : s.Retains ledger log outdated)
    (hfew : 0 < s.compactionThreshold → outdated.length < s.compactionThreshold) :
    s.Accounts outdated := by
  have hperm := h.keys_perm
  have hnodup := hperm.nodup_iff.mp s.instances.nodup_keys
  have hlive (id : Nat) (hid : id ∈ outdated) : id ∉ s.liveIds :=
    fun hlive => List.disjoint_of_nodup_append hnodup hlive hid
  have hsize : s.instances.size = s.stats.liveInstances + outdated.length := by
    have hlength := hperm.length_eq
    rwa [SortedMap.keys, List.length_map, List.length_append] at hlength
  refine ⟨?_, h.stale, ?_, ?_, hnodup.of_append_right, ?_, hsize, ?_⟩
  · rw [h.stale]
    exact hfew
  · rw [h.stale, hperm.countP_eq, List.countP_append, List.countP_eq_zero.mpr (by simp),
      List.countP_eq_length.mpr fun id hid => by simpa using hlive id hid, Nat.zero_add]
  · intro id hid
    exact hperm.mem_iff.mpr (List.mem_append_left _ hid)
  · intro id
    rw [hperm.mem_iff, List.mem_append]
    have := hlive id
    tauto
  · have hstale : s.stats.staleInstances = s.instances.size - s.stats.liveInstances := rfl
    rw [hstale, hsize, h.stale, Nat.add_sub_cancel_left]

-- After any run the instances that are not live are those that went out of service since the last
-- compaction, and there are fewer of them than the threshold.
theorem accounts_run (form : Form) (threshold : Nat) (steps : List Step) :
    ((FormIndex.empty form threshold).run steps).Accounts
      (Ledger.empty.outdated (FormIndex.empty form threshold) [] steps) := by
  obtain ⟨log, h, hfew⟩ := (Retains.empty form threshold).run (fun hpositive => hpositive) steps
  refine h.accounts ?_
  rwa [compactionThreshold_run]

end FormIndex

end Targeting.Index
