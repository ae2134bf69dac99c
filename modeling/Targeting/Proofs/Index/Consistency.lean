import Mathlib
import Targeting.Proofs.Index.Representation

namespace Targeting.Index

-- What can be relied on after any run.
structure FormIndex.Consistent (s : FormIndex) (ledger : Ledger) : Prop where
  -- No list has two postings of one id.
  ascending : ∀ row ∈ s.table.rows.values, ∀ l ∈ row.allLists, l.AscendingIds
  -- The live ids are those of the criteria that are published.
  liveOf : ∀ externalId, s.liveOf externalId
    = ((ledger.current.find? externalId).map Published.ids).getD []
  -- What is filed for a live id is what was staged for it, in the same places.
  filed : ∀ externalId p, ledger.current.find? externalId = some p → ∀ i ∈ p.instances,
    (s.table.filed.filter fun f => f.posting.internalId = i.internalId).Perm i.filed
  nodup : s.table.filed.Nodup
  -- Every token that is no value comes with a caveat that names it.
  caveats : ∀ row ∈ s.table.rows.values, ∀ p ∈ row.paths.values,
    (p.caveats.map Prod.fst).Nodup ∧
      (∀ token, token ∈ p.caveats.map Prod.fst ↔ token ∈ p.lists.keys ∧ ∀ key, token ≠ .value key) ∧
      ∀ e ∈ p.caveats, e.1.Names (some e.2)
  -- Every id that is filed or live has metadata for the same criteria.
  filedMetadata : ∀ f ∈ s.table.filed, ∃ m,
    s.instances.find? f.posting.internalId = some m ∧ m.externalId = f.posting.externalId
  liveMetadata : ∀ externalId, ∀ id ∈ s.liveOf externalId, ∃ m,
    s.instances.find? id = some m ∧ m.externalId = externalId
  -- Every id below the next was given once, to the criteria that it is known for.
  issued : ledger.issued.map Prod.fst = List.range s.nextId
  owner : ∀ id m, s.instances.find? id = some m → (id, m.externalId) ∈ ledger.issued

theorem Row.WellFormed.ascending {r : Row} (h : r.WellFormed) : ∀ l ∈ r.allLists, l.AscendingIds := by
  intro l hl
  rcases List.mem_append.mp hl with hl | hl
  · obtain ⟨p, hp, hl⟩ := List.mem_flatMap.mp hl
    obtain ⟨lists, hlists, hl⟩ := List.mem_flatten.mp hl
    exact (h.paths p hp).ascending lists hlists l hl
  · rw [List.mem_singleton.mp hl]
    exact h.sentinel

theorem FormIndex.Represents.consistent {s : FormIndex} {ledger : Ledger} {log : List Staged}
    (h : s.Represents ledger log) : s.Consistent ledger where
  ascending row hrow := (h.table.rows row hrow).ascending
  liveOf := h.liveOf
  filed externalId p hp i hi := h.filed_of_mem ((h.current externalId p hp).2 i hi)
  nodup := h.nodup_filed
  caveats row hrow p hp := by
    have hwf := (h.table.rows row hrow).paths p hp
    refine ⟨hwf.nodup_caveats, fun token => ?_, hwf.names⟩
    rw [hwf.mem_caveats]
    simp [Token.Names]
  filedMetadata f hf := by
    obtain ⟨i, hi, hfi⟩ := h.mem_filed.mp hf
    refine ⟨i.metadata, h.find?_instances.mpr ⟨i, hi, ?_, rfl⟩, ?_⟩
    · exact (Stores.internalId_of_mem_filed (h.wellFormed i hi) hfi).symm
    · exact (Stores.externalId_of_mem_filed (h.wellFormed i hi) hfi).symm
  liveMetadata externalId id hid := by
    rw [h.liveOf] at hid
    cases hp : ledger.current.find? externalId with
    | none => simp [hp] at hid
    | some p =>
      rw [hp] at hid
      obtain ⟨i, hi, rfl⟩ := List.mem_map.mp hid
      obtain ⟨hpid, hlog⟩ := h.current externalId p hp
      refine ⟨i.metadata, h.find?_instances.mpr ⟨i, hlog i hi, rfl, rfl⟩, ?_⟩
      rw [← hpid, stage_externalId p.firstId p.criteria hi]
  issued := h.issued
  owner id m hm := by
    obtain ⟨i, hi, rfl, rfl⟩ := h.find?_instances.mp hm
    exact h.logged i hi

namespace Ledger

theorem issued_record (ledger : Ledger) (nextId : Nat) (step : Step) :
    ledger.issued <+: (ledger.record nextId step).issued := by
  cases step with
  | publish criteria => exact List.prefix_append _ _
  | retire externalId => exact List.prefix_refl _
  | compact => exact List.prefix_refl _

theorem issued_follow (s : FormIndex) (ledger : Ledger) (steps : List Step) :
    ledger.issued <+: (ledger.follow s steps).issued := by
  induction steps generalizing s ledger with
  | nil => exact List.prefix_refl _
  | cons step rest ih => exact (ledger.issued_record s.nextId step).trans (ih _ _)

theorem follow_append (s : FormIndex) (ledger : Ledger) (steps more : List Step) :
    ledger.follow s (steps ++ more) = (ledger.follow s steps).follow (s.run steps) more := by
  induction steps generalizing s ledger with
  | nil => rfl
  | cons step rest ih => exact ih _ _

end Ledger

-- After any run the index is consistent, and no later step takes back or gives again an id.
theorem FormIndex.consistent_run (form : Form) (threshold : Nat) (steps more : List Step) :
    ((empty form threshold).run steps).Consistent (.follow (empty form threshold) .empty steps) ∧
      (Ledger.follow (empty form threshold) .empty steps).issued <+:
        (Ledger.follow (empty form threshold) .empty (steps ++ more)).issued := by
  obtain ⟨log, h⟩ := (Represents.empty form threshold).run steps
  refine ⟨h.consistent, ?_⟩
  rw [Ledger.follow_append]
  exact Ledger.issued_follow _ _ _

end Targeting.Index
