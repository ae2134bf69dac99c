import Mathlib
import Targeting.Proofs.Index.Meeting

namespace Targeting.Index

namespace Candidate

theorem find?_slots (c : Candidate) (slot : Slot) :
    c.slots.find? slot
      = (c.postings.find? fun p => decide (p.slot = slot)).map Posting.weight := by
  have hfold := SortedMap.find?_foldl_insertNew (c.postings.map fun p => (p.slot, p.weight)) .empty slot
  rw [List.foldl_map, SortedMap.find?_empty, Option.none_or, List.find?_map, Option.map_map] at hfold
  exact hfold

-- The slots that are met, when postings of one slot agree on its weight.
theorem find?_slots_iff {c : Candidate}
    (hweight : ∀ p ∈ c.postings, ∀ q ∈ c.postings, p.slot = q.slot → p.weight = q.weight)
    {slot : Slot} {weight : Binary64} :
    c.slots.find? slot = some weight ↔ ∃ p ∈ c.postings, p.slot = slot ∧ p.weight = weight := by
  rw [find?_slots, Option.map_eq_some_iff]
  constructor
  · rintro ⟨p, hp, rfl⟩
    exact ⟨p, List.mem_of_find?_eq_some hp, by simpa using List.find?_some hp, rfl⟩
  · rintro ⟨p, hp, rfl, rfl⟩
    cases hfind : c.postings.find? fun q => decide (q.slot = p.slot) with
    | none => exact absurd (List.find?_eq_none.mp hfind p hp) (by simp)
    | some q =>
      have hslot : q.slot = p.slot := by simpa using List.find?_some hfind
      exact ⟨q, rfl, hweight q (List.mem_of_find?_eq_some hfind) p hp hslot⟩

end Candidate

section Slots

theorem compare_position {a b : Nat} (h : a < b) :
    compare (Slot.position a) (Slot.position b) = .lt := by
  change compareLex _ _ (Slot.position a) (Slot.position b) = .lt
  simp only [compareLex, compareOn, Slot.isSentinel, Slot.number, Ordering.then_eq_lt]
  exact .inr ⟨rfl, Nat.compare_eq_lt.mpr h⟩

theorem compare_position_sentinel (a : Nat) :
    compare (Slot.position a) Slot.sentinel = .lt := rfl

-- The slots of a conjunction that a document meets, in their order, with their weights.
def metSlots (doc : Document) (clause : Clause) : List (Slot × Binary64) :=
  ((clause.zipIdx.filter fun e => e.1.hits doc).map fun e => (.position e.2, e.1.weight))
    ++ if clause.includedCount = 0 then [(.sentinel, .zero)] else []

theorem ascending_metSlots (doc : Document) (clause : Clause) :
    (metSlots doc clause).Pairwise fun a b => compare a.1 b.1 = .lt := by
  have hpositions : clause.zipIdx.Pairwise fun a b => a.2 < b.2 := by
    refine List.pairwise_map.mp ?_
    rw [List.zipIdx_map_snd]
    exact List.pairwise_lt_range'
  rw [metSlots, List.pairwise_append]
  refine ⟨List.pairwise_map.mpr ((hpositions.sublist List.filter_sublist).imp compare_position),
    by split <;> simp, ?_⟩
  intro a ha b hb
  obtain ⟨e, -, rfl⟩ := List.mem_map.mp ha
  split at hb
  · rw [List.mem_singleton.mp hb]
    exact compare_position_sentinel e.2
  · cases hb

theorem mem_metSlots {doc : Document} {clause : Clause} {slot : Slot} {weight : Binary64} :
    (slot, weight) ∈ metSlots doc clause ↔
      (∃ k p, clause[k]? = some p ∧ p.hits doc = true ∧ slot = .position k ∧ weight = p.weight) ∨
        clause.includedCount = 0 ∧ slot = .sentinel ∧ weight = .zero := by
  rw [metSlots, List.mem_append]
  refine or_congr ?_ ?_
  · simp only [List.mem_map, List.mem_filter, Prod.exists, List.mem_zipIdx_iff_getElem?,
      Prod.mk.injEq]
    constructor
    · rintro ⟨p, k, ⟨hk, hhits⟩, rfl, rfl⟩
      exact ⟨k, p, hk, hhits, rfl, rfl⟩
    · rintro ⟨k, p, hk, hhits, rfl, rfl⟩
      exact ⟨p, k, ⟨hk, hhits⟩, rfl, rfl⟩
  · split <;> simp_all

end Slots

section Acceptance

variable {internalId : Nat} {externalId : String} {clause : Clause} {doc : Document}
  {postings : List Posting}

theorem mem_met_conjunction {q : Posting} :
    q ∈ (stageConjunction internalId externalId clause).met doc ↔
      (∃ k p, clause[k]? = some p ∧ p.hits doc = true ∧
        q = ⟨internalId, externalId, p.kind, .position k, k, p.weight⟩) ∨
        clause.includedCount = 0 ∧ q = .sentinel internalId externalId := by
  rw [Term.stageConjunction_eq, Staged.mem_met_make]
  refine or_congr ?_ Iff.rfl
  constructor
  · rintro ⟨t, ht, hhits, rfl⟩
    obtain ⟨hk, hordinal⟩ := Term.mem_ofConjunction.mp ht
    exact ⟨t.slot, t.predicate, hk, hhits, by rw [Term.posting, hordinal]⟩
  · rintro ⟨k, p, hk, hhits, rfl⟩
    exact ⟨⟨p, k, k⟩, Term.mem_ofConjunction.mpr ⟨hk, rfl⟩, hhits, rfl⟩

theorem slots_entries (h : ∀ q, q ∈ postings ↔ q ∈ (stageConjunction internalId externalId clause).met doc) :
    (Candidate.mk internalId postings).slots.entries = metSlots doc clause := by
  have hweight : ∀ p ∈ postings, ∀ q ∈ postings, p.slot = q.slot → p.weight = q.weight := by
    intro p hp q hq hslot
    rcases mem_met_conjunction.mp ((h p).mp hp) with ⟨k, a, hk, -, rfl⟩ | ⟨-, rfl⟩ <;>
      rcases mem_met_conjunction.mp ((h q).mp hq) with ⟨l, b, hl, -, rfl⟩ | ⟨-, rfl⟩
    · cases hslot
      cases hk.symm.trans hl
      rfl
    · cases hslot
    · cases hslot
    · rfl
  have hmap : (Candidate.mk internalId postings).slots
      = ⟨metSlots doc clause, ascending_metSlots doc clause⟩ := by
    refine SortedMap.ext_find? fun slot => Option.ext fun weight => ?_
    have hmem := @SortedMap.mem_entries_iff _ _ _ _ _
      ⟨metSlots doc clause, ascending_metSlots doc clause⟩ slot weight
    rw [Candidate.find?_slots_iff hweight, ← hmem, mem_metSlots]
    simp only [h, mem_met_conjunction]
    constructor
    · rintro ⟨q, ⟨k, p, hk, hhits, rfl⟩ | ⟨hcount, rfl⟩, rfl, rfl⟩
      · exact .inl ⟨k, p, hk, hhits, rfl, rfl⟩
      · exact .inr ⟨hcount, rfl, rfl⟩
    · rintro (⟨k, p, hk, hhits, rfl, rfl⟩ | ⟨hcount, rfl, rfl⟩)
      · exact ⟨_, .inl ⟨k, p, hk, hhits, rfl⟩, rfl, rfl⟩
      · exact ⟨_, .inr ⟨hcount, rfl⟩, rfl, rfl⟩
  rw [hmap]

-- With natural defaults a conjunction holds when what is excluded does not hit and all else does.
theorem holdsAll_iff (hnatural : ∀ p ∈ clause, p.hasNaturalDefault = true) :
    clause.holdsAll doc = true ↔ ∀ p ∈ clause, p.hits doc = p.isIncluded := by
  rw [Clause.holdsAll, List.all_eq_true]
  refine forall₂_congr fun p hp => ?_
  rw [Predicate.evaluate_eq (hnatural p hp), Predicate.isExcluded, Predicate.isIncluded]
  cases p.kind <;> cases p.hits doc <;> decide

theorem excluded_iff
    (h : ∀ q, q ∈ postings ↔ q ∈ (stageConjunction internalId externalId clause).met doc) :
    (postings.any fun p => p.kind == .excluded) = true ↔
      ∃ p ∈ clause, p.isExcluded = true ∧ p.hits doc = true := by
  simp only [List.any_eq_true, h, mem_met_conjunction]
  constructor
  · rintro ⟨q, ⟨k, p, hk, hhits, rfl⟩ | ⟨-, rfl⟩, hkind⟩
    · exact ⟨p, List.mem_of_getElem? hk, hkind, hhits⟩
    · cases hkind
  · rintro ⟨p, hp, hkind, hhits⟩
    obtain ⟨k, hk⟩ := List.getElem?_of_mem hp
    exact ⟨_, .inl ⟨k, p, hk, hhits, rfl⟩, hkind⟩

theorem length_metSlots (doc : Document) (clause : Clause) :
    (metSlots doc clause).length
      = clause.countP (·.hits doc) + if clause.includedCount = 0 then 1 else 0 := by
  have hfilter : (clause.zipIdx.filter fun e => e.1.hits doc).length
      = clause.countP (·.hits doc) := by
    conv_rhs => rw [← List.zipIdx_map_fst 0 clause]
    rw [List.countP_map, List.countP_eq_length_filter]
    rfl
  rw [metSlots, List.length_append, List.length_map, hfilter]
  split <;> rfl

theorem filter_metSlots (doc : Document) (clause : Clause) :
    ((metSlots doc clause).filter fun e => !e.1.isSentinel).map Prod.snd
      = (clause.filter (·.hits doc)).map Predicate.weight := by
  have hsentinel : ((if clause.includedCount = 0 then [(Slot.sentinel, Binary64.zero)] else []).filter
      fun e => !e.1.isSentinel) = [] := by split <;> rfl
  have hpositions : (((clause.zipIdx.filter fun e => e.1.hits doc).map
      fun e => (Slot.position e.2, e.1.weight)).filter fun e => !e.1.isSentinel)
        = (clause.zipIdx.filter fun e => e.1.hits doc).map
            fun e => (Slot.position e.2, e.1.weight) := by
    refine List.filter_eq_self.mpr fun e he => ?_
    obtain ⟨d, -, rfl⟩ := List.mem_map.mp he
    rfl
  have hclause : (clause.zipIdx.filter fun e => e.1.hits doc).map Prod.fst
      = clause.filter (·.hits doc) := by
    conv_rhs => rw [← List.zipIdx_map_fst 0 clause]
    rw [List.filter_map]
    rfl
  rw [metSlots, List.filter_append, hsentinel, hpositions, List.append_nil, List.map_map, ← hclause,
    List.map_map]
  rfl

theorem not_holdsAll_of_excluded (hnatural : ∀ p ∈ clause, p.hasNaturalDefault = true)
    {p : Predicate} (hp : p ∈ clause) (hkind : p.isExcluded = true) (hhits : p.hits doc = true) :
    ¬ clause.holdsAll doc = true := by
  intro hall
  rw [p.isExcluded_eq, ← (holdsAll_iff hnatural).mp hall p hp, hhits] at hkind
  cases hkind

-- A conjunction that fails, though no exclusion hits, has an included predicate that does not hit.
theorem countP_hits_lt (hnatural : ∀ p ∈ clause, p.hasNaturalDefault = true)
    (hincluded : ∀ p ∈ clause, p.hits doc = true → p.isIncluded = true)
    (hall : ¬ clause.holdsAll doc = true) : clause.countP (·.hits doc) < clause.includedCount := by
  rw [holdsAll_iff hnatural] at hall
  obtain ⟨p, hp, hne⟩ : ∃ p ∈ clause, ¬ p.hits doc = p.isIncluded := by simpa using hall
  have hmissed : p.isIncluded = true ∧ p.hits doc = false := by
    cases hhits : p.hits doc with
    | true => rw [hhits, hincluded p hp hhits] at hne; exact absurd rfl hne
    | false => cases hkind : p.isIncluded <;> simp_all
  have hsub : clause.filter (·.hits doc)
      = (clause.filter Predicate.isIncluded).filter (·.hits doc) := by
    rw [List.filter_filter]
    refine List.filter_congr fun q hq => ?_
    cases hhits : q.hits doc with
    | true => rw [hincluded q hq hhits]; rfl
    | false => rfl
  rw [List.countP_eq_length_filter, hsub, Clause.includedCount, List.countP_eq_length_filter]
  refine List.length_filter_lt_length_iff_exists.mpr ⟨p, List.mem_filter.mpr ⟨hp, hmissed.1⟩, ?_⟩
  simp [hmissed.2]

theorem hits_of_holdsAll (hnatural : ∀ p ∈ clause, p.hasNaturalDefault = true)
    (hall : clause.holdsAll doc = true) :
    clause.filter (·.hits doc) = clause.filter Predicate.isIncluded ∧
      clause.countP (·.hits doc) = clause.includedCount := by
  have hfilter : clause.filter (·.hits doc) = clause.filter Predicate.isIncluded :=
    List.filter_congr ((holdsAll_iff hnatural).mp hall)
  refine ⟨hfilter, ?_⟩
  rw [List.countP_eq_length_filter, hfilter, Clause.includedCount, List.countP_eq_length_filter]

-- A conjunction that a candidate is excluded from has no score.
theorem conjunctionScore?_of_excluded (hnatural : ∀ p ∈ clause, p.hasNaturalDefault = true)
    (h : ∀ q, q ∈ postings ↔ q ∈ (stageConjunction internalId externalId clause).met doc)
    (hexcluded : (Candidate.mk internalId postings).isExcluded .dnf = true) :
    clause.conjunctionScore? doc = none := by
  obtain ⟨p, hp, hkind, hhits⟩ := (excluded_iff h).mp hexcluded
  rw [Clause.conjunctionScore?, if_neg (not_holdsAll_of_excluded hnatural hp hkind hhits)]

-- Any other candidate is scored as its conjunction is.
theorem conjunctionScore?_eq (hnatural : ∀ p ∈ clause, p.hasNaturalDefault = true)
    (h : ∀ q, q ∈ postings ↔ q ∈ (stageConjunction internalId externalId clause).met doc)
    (hexcluded : ¬ (Candidate.mk internalId postings).isExcluded .dnf = true) :
    (Candidate.mk internalId postings).conjunctionScore?
        (stageConjunction internalId externalId clause).metadata
      = clause.conjunctionScore? doc := by
  have hentries := slots_entries h
  have hslotCount : (stageConjunction internalId externalId clause).metadata.slotCount
      = clause.includedCount := rfl
  have hsize : (Candidate.mk internalId postings).slots.size
      = clause.countP (·.hits doc) + if clause.includedCount = 0 then 1 else 0 := by
    rw [SortedMap.size, hentries, length_metSlots]
  rw [Candidate.conjunctionScore?, Clause.conjunctionScore?, hslotCount, hsize]
  by_cases hall : clause.holdsAll doc = true
  · obtain ⟨hhits, hcount⟩ := hits_of_holdsAll hnatural hall
    rw [hcount, if_pos hall, if_neg (by split <;> omega), SortedMap.values,
      SortedMap.entries_filter, hentries, filter_metSlots, hhits]
  · have hincluded : ∀ p ∈ clause, p.hits doc = true → p.isIncluded = true := by
      intro p hp hhits
      by_contra hkind
      rw [Bool.not_eq_true, ← Bool.not_eq_true', ← p.isExcluded_eq] at hkind
      exact hexcluded ((excluded_iff h).mpr ⟨p, hp, hkind, hhits⟩)
    have hless := countP_hits_lt hnatural hincluded hall
    rw [if_neg hall, if_pos (by split <;> omega)]

-- A conjunction that holds is met in as many lists as it has slots, and in one at least.
theorem le_length_met_conjunction (hnatural : ∀ p ∈ clause, p.hasNaturalDefault = true)
    (hall : clause.holdsAll doc = true) :
    max clause.includedCount 1 ≤ ((stageConjunction internalId externalId clause).met doc).length := by
  have hself : ∀ q, q ∈ (stageConjunction internalId externalId clause).met doc ↔
      q ∈ (stageConjunction internalId externalId clause).met doc := fun q => Iff.rfl
  have hcount : (metSlots doc clause).length
      = clause.includedCount + if clause.includedCount = 0 then 1 else 0 := by
    rw [length_metSlots, (hits_of_holdsAll hnatural hall).2]
  have hkeys : (Candidate.mk internalId
      ((stageConjunction internalId externalId clause).met doc)).slots.keys.length
        ≤ ((stageConjunction internalId externalId clause).met doc).length :=
    length_le_of_slots (SortedMap.nodup_keys _) fun slot hslot => by
      obtain ⟨e, he, rfl⟩ := List.mem_map.mp hslot
      rw [slots_entries hself] at he
      rcases mem_metSlots.mp he with ⟨k, p, hk, hph, hslot, -⟩ | ⟨hzero, hslot, -⟩
      · exact ⟨_, mem_met_conjunction.mpr (.inl ⟨k, p, hk, hph, rfl⟩), hslot.symm⟩
      · exact ⟨_, mem_met_conjunction.mpr (.inr ⟨hzero, rfl⟩), hslot.symm⟩
  rw [SortedMap.keys, List.length_map, slots_entries hself, hcount] at hkeys
  split at hkeys <;> omega

end Acceptance

end Targeting.Index
