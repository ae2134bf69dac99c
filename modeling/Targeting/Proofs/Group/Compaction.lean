import Mathlib
import Targeting.Proofs.Group.Exactness
import Targeting.Proofs.Group.Refinement

namespace Targeting.Group

-- Every stored criteria is in its place, and nothing else is anywhere.
structure Settled (g : Group) : Prop extends Placed g where
  only : ∀ form, (g.index form).HoldsOnly (g.held (.indexed form))

namespace Settled

variable {g h : Group}

theorem empty (name : String) (config : GroupConfig) : (Group.empty name config).Settled where
  toPlaced := .empty name config
  only form := by
    have hempty := Index.FormIndex.holdsOnly_empty form config.compactionThreshold
    cases form <;> exact hempty

theorem of_compact (h : g.Placed) : g.compact.1.Settled where
  toPlaced := h.compact
  only form := by
    have hcompact := (h.index form).compact
    cases form <;> exact hcompact

-- A new criteria leaves nothing else behind.
theorem add (h : g.Settled) {c : Criteria} (hnew : g.get? c.id = none) : (g.add c).Settled := by
  have hstore : g.add c = g.store c := by rw [Group.add, hnew]; rfl
  rw [hstore]
  refine ⟨h.toPlaced.store c, fun form => ?_⟩
  rw [index_store, hnew, held_of_insert (c := c) rfl, erase_held (by simp [hnew])]
  split
  · exact (h.only form).publish (find?_held_of_ne (by simp [hnew]))
  · simpa using h.only form

theorem get?_add_new {c : Criteria} (hnew : g.get? c.id = none) (id : String) :
    (g.add c).get? id = if id = c.id then some c else g.get? id := by
  have hstore : g.add c = g.store c := by rw [Group.add, hnew]; rfl
  rw [hstore]
  exact SortedMap.find?_insert g.stored c.id id c

-- Criteria that are new and have different ids.
theorem addAll {all : List Criteria} (h : g.Settled) (hnew : ∀ c ∈ all, g.get? c.id = none)
    (hnodup : (all.map fun c => c.id).Nodup) :
    (g.addAll all).Settled ∧
      ∀ id c, (g.addAll all).get? id = some c ↔ g.get? id = some c ∨ c ∈ all ∧ c.id = id := by
  induction all generalizing g with
  | nil => exact ⟨h, by simp [Group.addAll]⟩
  | cons c rest ih =>
    obtain ⟨hfirst, hrest⟩ := List.nodup_cons.mp hnodup
    have hc := hnew c List.mem_cons_self
    have hother : ∀ d ∈ rest, d.id ≠ c.id := fun d hd he =>
      hfirst (List.mem_map.mpr ⟨d, hd, he⟩)
    obtain ⟨hsettled, hget⟩ := ih (h.add hc) (fun d hd => by
      rw [get?_add_new hc, if_neg (hother d hd)]
      exact hnew d (List.mem_cons_of_mem _ hd)) hrest
    refine ⟨hsettled, fun id d => (hget id d).trans ?_⟩
    rw [get?_add_new hc, List.mem_cons]
    by_cases hid : id = c.id
    · rw [if_pos hid, hid, hc]
      constructor
      · rintro (hd | ⟨hd, hdid⟩)
        · cases hd
          exact .inr ⟨.inl rfl, rfl⟩
        · exact .inr ⟨.inr hd, hdid⟩
      · rintro (hd | ⟨rfl | hd, hdid⟩)
        · cases hd
        · exact .inl rfl
        · exact .inr ⟨hd, hdid⟩
    · rw [if_neg hid]
      refine or_congr_right ⟨fun ⟨hd, hdid⟩ => ⟨.inr hd, hdid⟩, fun ⟨hd, hdid⟩ => ⟨?_, hdid⟩⟩
      exact hd.resolve_left fun he => hid (by rw [← hdid, he])

-- What is counted depends on what is stored alone.
theorem stats_eq (hg : g.Settled) (hh : h.Settled) (hstored : g.stored = h.stored) :
    g.stats = h.stats ∧ g.stats.staleInstances = 0 := by
  have hheld (place : Placement) : g.held place = h.held place := by rw [held, held, hstored]
  have hindex (form : Form) : (g.index form).stats = (h.index form).stats ∧
      (g.index form).stats.staleInstances = 0 :=
    (hg.only form).stats_eq (hheld (.indexed form) ▸ hh.only form)
  have hresidual : g.residual = h.residual := by
    rw [hg.residual, hh.residual, hheld]
  obtain ⟨hdnf, hdnfStale⟩ := hindex .dnf
  obtain ⟨hcnf, hcnfStale⟩ := hindex .cnf
  have hdnf : g.dnf.stats = h.dnf.stats := hdnf
  have hcnf : g.cnf.stats = h.cnf.stats := hcnf
  refine ⟨?_, ?_⟩
  · rw [stats, stats, hstored, hresidual, hdnf, hcnf]
  · exact congrArg₂ (· + ·) hdnfStale hcnfStale

end Settled

-- Compaction leaves a group as if it had been filled afresh, whatever has been done to it.
structure Compacts (g : Group) : Prop where
  removed : g.stats.postingEntries = g.compact.1.stats.postingEntries + g.compact.2
  again : g.compact.1.compact.2 = 0
  get : ∀ id, g.compact.1.get? id = g.get? id
  listed : g.compact.1.toList = g.toList
  search : ∀ doc, ∃ before after, g.search doc = .ok before ∧ g.compact.1.search doc = .ok after ∧
    after.ids = before.ids ∧ ∀ id, Binary64.SameScore (after.score? id) (before.score? id)
  stale : g.compact.1.stats.staleInstances = 0
  fresh : ∀ name config all, all.Perm g.toList →
    g.compact.1.stats = ((empty name config).addAll all).stats

namespace Placed

variable {g : Group}

theorem nodup_ids (h : g.Placed) : (g.toList.map fun c => c.id).Nodup := by
  refine List.pairwise_map.mpr (h.ascending.imp fun hab he => ?_)
  rw [he] at hab
  simp at hab

-- Filled with the stored criteria, in any order, another group stores the same.
theorem fresh (h : g.Placed) (name : String) (config : GroupConfig) {all : List Criteria}
    (hall : all.Perm g.toList) :
    ((Group.empty name config).addAll all).Settled ∧
      ((Group.empty name config).addAll all).stored = g.stored := by
  have hnodup : (all.map fun c => c.id).Nodup := (hall.map _).nodup_iff.mpr h.nodup_ids
  obtain ⟨hsettled, hget⟩ := (Settled.empty name config).addAll (fun _ _ => rfl) hnodup
  refine ⟨hsettled, SortedMap.ext_find? fun id => Option.ext fun c => (hget id c).trans ?_⟩
  rw [hall.mem_iff, h.listed]
  constructor
  · rintro (hc | ⟨hc, rfl⟩)
    · cases hc
    · exact hc
  · intro hc
    have hid := h.keyed id c hc
    exact .inr ⟨hid.symm ▸ hc, hid⟩

theorem compacts (h : g.Placed) : g.Compacts where
  removed := by
    have hdnf := g.dnf.postingEntries_compact
    have hcnf := g.cnf.postingEntries_compact
    change g.dnf.stats.postingEntries + g.cnf.stats.postingEntries
      = g.dnf.compact.1.stats.postingEntries + g.cnf.compact.1.stats.postingEntries
        + (g.dnf.compact.2 + g.cnf.compact.2)
    omega
  again := by
    have hdnf := ((h.index .dnf).compact).compact
    have hcnf := ((h.index .cnf).compact).compact
    exact congrArg₂ (· + ·) hdnf hcnf
  get _ := rfl
  listed := rfl
  search doc := by
    obtain ⟨before, hbefore, hbeforeScores⟩ := h.search doc
    obtain ⟨after, hafter, hafterScores⟩ := h.compact.search doc
    have hsame (id : String) : Binary64.SameScore (after.score? id) (before.score? id) :=
      (hafterScores id).trans (hbeforeScores id).symm
    exact ⟨before, after, hbefore, hafter, MatchSet.ids_eq fun id => (hsame id).isSome_eq, hsame⟩
  stale := ((Settled.of_compact h).stats_eq (Settled.of_compact h) rfl).2
  fresh name config all hall := by
    obtain ⟨hsettled, hstored⟩ := h.fresh name config hall
    exact ((Settled.of_compact h).stats_eq hsettled hstored.symm).1

end Placed

-- After any run compaction leads to the same counts as filling a fresh group.
theorem run_compacts (name : String) (config : GroupConfig) (changes : List Change) :
    ((empty name config).run changes).Compacts :=
  ((Placed.empty name config).run changes).compacts

end Targeting.Group
