import Mathlib
import Targeting.Proofs.MatchSet
import Targeting.Proofs.Index.Candidates
import Targeting.Proofs.Index.Holding
import Targeting.Proofs.Index.Scoring

namespace Targeting.Index

namespace FormIndex

-- What a candidate adds to the matches.
def hit? (s : FormIndex) (c : Candidate) : Option (String × Binary64) :=
  (s.instances.find? c.internalId).bind fun i =>
    if (s.liveOf i.externalId).contains c.internalId then
      match c.outcome? s.form i with
      | .ok score => score.map fun score => (i.externalId, score)
      | .error _ => none
    else none

-- When every candidate is accepted, a search records all that the candidates add.
theorem foldlM_accept {s : FormIndex} (all : List Candidate) (found : MatchSet)
    (h : ∀ c ∈ all, ∀ found, s.accept found c = .ok (found.insertAll (s.hit? c).toList)) :
    all.foldlM s.accept found = .ok (found.insertAll (all.filterMap s.hit?)) := by
  induction all generalizing found with
  | nil => rfl
  | cons c rest ih =>
    have hrest := ih (found.insertAll (s.hit? c).toList) fun d hd => h d (List.mem_cons_of_mem _ hd)
    rw [List.foldlM_cons, h c List.mem_cons_self, List.filterMap_cons]
    refine hrest.trans ?_
    cases s.hit? c <;> rfl

-- The criteria are of the form of the index and can be indexed.
def Suits (s : FormIndex) (held : SortedMap String Criteria) : Prop :=
  ∀ id c, held.find? id = some c → c.form = s.form ∧ c.isIndexable = true

namespace Represents

variable {s : FormIndex} {ledger : Ledger} {log : List Staged} {doc : Document}

-- The instances that are live are those of the current version of their criteria.
theorem contains_liveOf_iff (h : s.Represents ledger log) {i : Staged} (hi : i ∈ log) :
    (s.liveOf i.metadata.externalId).contains i.internalId = true ↔
      ∃ p, ledger.current.find? i.metadata.externalId = some p ∧ i ∈ p.instances := by
  rw [h.liveOf, List.contains_iff_mem]
  cases hp : ledger.current.find? i.metadata.externalId with
  | none => simp
  | some p =>
    simp only [Option.map_some, Option.getD_some, Option.some.injEq, exists_eq_left']
    constructor
    · intro hid
      obtain ⟨j, hj, hij⟩ := List.mem_map.mp hid
      have hlog := (h.current _ p hp).2 j hj
      have heq : j = i := List.inj_on_of_nodup_map h.nodup_ids hlog hi hij
      exact heq ▸ hj
    · intro hmem
      exact List.mem_map_of_mem hmem

section Candidates

variable (h : s.Represents ledger log) {i : Staged} (hi : i ∈ log) {c : Candidate}
  (hid : c.internalId = i.internalId)

include h hi hid in
theorem hit?_eq :
    s.hit? c =
      if (s.liveOf i.metadata.externalId).contains i.internalId then
        match c.outcome? s.form i.metadata with
        | .ok score => score.map fun score => (i.metadata.externalId, score)
        | .error _ => none
      else none := by
  rw [hit?, h.find?_instances.mpr ⟨i, hi, hid.symm, rfl⟩, hid]
  rfl

include h hi hid in
-- A candidate that can be scored, if it is live, is accepted.
theorem accept_eq (hpostings : c.postings.Perm (i.met doc)) (hne : c.postings ≠ [])
    (hscore : (s.liveOf i.metadata.externalId).contains i.internalId = true →
      ∃ score, c.outcome? s.form i.metadata = .ok score) (found : MatchSet) :
    s.accept found c = .ok (found.insertAll (s.hit? c).toList) := by
  obtain ⟨first, rest, hfirst⟩ := List.exists_cons_of_ne_nil hne
  have hexternal : first.externalId = i.metadata.externalId := by
    have hmem := hpostings.mem_iff.mp (hfirst ▸ List.mem_cons_self)
    obtain ⟨g, hg, rfl⟩ := List.mem_map.mp hmem
    exact (h.wellFormed i hi).externalId g (List.mem_filter.mp hg).1
  rw [h.hit?_eq hi hid, accept, hfirst, List.head?_cons, Candidate.outcome?]
  dsimp only
  rw [hexternal, hid, h.find?_instances.mpr ⟨i, hi, rfl, rfl⟩]
  split
  next => split <;> rfl
  next hexcluded =>
    by_cases hlive : (s.liveOf i.metadata.externalId).contains i.internalId = true
    · obtain ⟨score, hscore⟩ := hscore hlive
      rw [Candidate.outcome?, if_neg hexcluded] at hscore
      rw [if_pos hlive, if_pos hlive]
      dsimp only
      rw [hscore]
      cases score <;> rfl
    · rw [if_neg hlive, if_neg hlive]
      rfl

end Candidates

variable {held : SortedMap String Criteria}

variable (h : s.Represents ledger log) (hheld : ledger.Agrees held) (hsuits : s.Suits held)

include hheld hsuits in
-- The instances of a criteria that is held contribute its scores.
theorem scores_of_current {id : String} {p : Published} (hp : ledger.current.find? id = some p)
    (doc : Document) :
    List.Forall₂ (fun i score => Staged.Scores i s.form doc score) p.instances
      (p.criteria.instanceScores doc) := by
  have hfind : held.find? id = some p.criteria := by rw [← hheld id, hp]; rfl
  obtain ⟨hform, hindexable⟩ := hsuits id p.criteria hfind
  have hscores := scores_stage doc p.firstId hindexable
  rwa [hform] at hscores

include h in
-- A live candidate is scored and counts for its criteria.
theorem score_of_current {id : String} {p : Published} (hp : ledger.current.find? id = some p)
    {i : Staged} (hi : i ∈ p.instances) {score : Option Binary64} (hscores : i.Scores s.form doc score)
    {c : Candidate} (hc : c ∈ s.candidates doc) (hid : c.internalId = i.internalId) :
    ∃ found, c.outcome? s.form i.metadata = .ok found ∧ Binary64.SameScore found score ∧
      s.hit? c = found.map fun score => (id, score) := by
  obtain ⟨hpid, hlog⟩ := h.current id p hp
  have hext : i.metadata.externalId = id := (stage_externalId _ _ hi).trans hpid
  have hpostings := (h.postings_of_candidate hc (hlog i hi) hid).1
  obtain ⟨found, hfound, hsame⟩ := hscores.candidate c.postings fun q => hpostings.mem_iff
  rw [← hid] at hfound
  refine ⟨found, hfound, hsame, ?_⟩
  have hlive := (h.contains_liveOf_iff (hlog i hi)).mpr ⟨p, hext ▸ hp, hi⟩
  rw [h.hit?_eq (hlog i hi) hid, if_pos hlive, hext]
  rw [show c.outcome? s.form i.metadata = .ok found from hfound]

include h hheld hsuits in
theorem accept_of_candidate {c : Candidate} (hc : c ∈ s.candidates doc) (found : MatchSet) :
    s.accept found c = .ok (found.insertAll (s.hit? c).toList) := by
  obtain ⟨i, hi, hid, hpostings, hne⟩ := h.exists_of_candidate hc
  refine h.accept_eq hi hid hpostings hne (fun hlive => ?_) found
  obtain ⟨p, hp, hmem⟩ := (h.contains_liveOf_iff hi).mp hlive
  obtain ⟨score, -, hscores⟩ := exists_of_forall₂ (scores_of_current hheld hsuits hp doc) hmem
  obtain ⟨found, hfound, -⟩ := h.score_of_current hp hmem hscores hc hid
  exact ⟨found, hfound⟩

include h hheld hsuits in
-- Whatever is recorded is the score of an instance of the criteria.
theorem sound {id : String} {x : Binary64} (hx : (id, x) ∈ (s.candidates doc).filterMap s.hit?) :
    ∃ p, ledger.current.find? id = some p ∧
      ∃ y, some y ∈ p.criteria.instanceScores doc ∧ x.same y = true := by
  obtain ⟨c, hc, hhit⟩ := List.mem_filterMap.mp hx
  obtain ⟨i, hi, hid, -⟩ := h.exists_of_candidate hc
  have hlive : (s.liveOf i.metadata.externalId).contains i.internalId = true := by
    by_contra hlive
    rw [h.hit?_eq hi hid, if_neg hlive] at hhit
    cases hhit
  obtain ⟨p, hp, hmem⟩ := (h.contains_liveOf_iff hi).mp hlive
  obtain ⟨score, hscore, hscores⟩ := exists_of_forall₂ (scores_of_current hheld hsuits hp doc) hmem
  obtain ⟨found, -, hsame, hfound⟩ := h.score_of_current hp hmem hscores hc hid
  rw [hhit] at hfound
  cases hsame with
  | none => cases hfound
  | some hsame =>
    cases hfound
    exact ⟨p, hp, _, hscore, hsame⟩

include h hheld hsuits in
-- The score of every instance that holds is recorded.
theorem complete {id : String} {p : Published} (hp : ledger.current.find? id = some p) {y : Binary64}
    (hy : some y ∈ p.criteria.instanceScores doc) :
    ∃ x, (id, x) ∈ (s.candidates doc).filterMap s.hit? ∧ x.same y = true := by
  obtain ⟨i, hi, hscores⟩ := exists_of_forall₂ (scores_of_current hheld hsuits hp doc).flip hy
  have henough := hscores.enough (by simp)
  obtain ⟨c, hc, hid⟩ := h.candidate_of_mem ((h.current id p hp).2 i hi) henough
  obtain ⟨found, -, hsame, hfound⟩ := h.score_of_current hp hi hscores hc hid
  cases hsame with
  | some hsame => exact ⟨_, List.mem_filterMap.mpr ⟨c, hc, hfound⟩, hsame⟩

end Represents

-- A search finds of the criteria that are held those that have a score, with their scores.
theorem Holds.search {s : FormIndex} {held : SortedMap String Criteria} (h : s.Holds held)
    (hsuits : s.Suits held) (doc : Document) :
    ∃ found, s.search doc = .ok found ∧
      ∀ id, Binary64.SameScore (found.score? id) ((held.find? id).bind (·.score? doc)) := by
  obtain ⟨ledger, log, hs, hheld⟩ := h
  refine ⟨_, foldlM_accept (s.candidates doc) .empty fun c hc found =>
    hs.accept_of_candidate hheld hsuits hc found, fun id => ?_⟩
  have hnumber : ∀ e ∈ (s.candidates doc).filterMap s.hit?, e.2.isNaN = false := by
    intro e he
    obtain ⟨p, -, y, -, hsame⟩ := hs.sound hheld hsuits he
    exact (Binary64.same_iff.mp hsame).1
  have hbest := MatchSet.bestOf_insertAll_empty _ hnumber id
  rw [← hheld id]
  cases hp : ledger.current.find? id with
  | none =>
    have hhits : MatchSet.hitsOf ((s.candidates doc).filterMap s.hit?) id = [] := by
      refine List.eq_nil_iff_forall_not_mem.mpr fun x hx => ?_
      obtain ⟨p, hsome, -⟩ := hs.sound hheld hsuits (MatchSet.mem_hitsOf.mp hx)
      rw [hp] at hsome
      cases hsome
    rw [hhits] at hbest
    have hnone : Binary64.BestOf [] none := rfl
    exact hbest.same hnone (by simp) (by simp)
  | some p =>
    have hsound : ∀ x ∈ MatchSet.hitsOf ((s.candidates doc).filterMap s.hit?) id,
        ∃ y ∈ (p.criteria.instanceScores doc).reduceOption, x.same y = true := by
      intro x hx
      obtain ⟨q, hq, y, hy, hsame⟩ := hs.sound hheld hsuits (MatchSet.mem_hitsOf.mp hx)
      cases hp.symm.trans hq
      exact ⟨y, List.reduceOption_mem_iff.mpr hy, hsame⟩
    have hcomplete : ∀ y ∈ (p.criteria.instanceScores doc).reduceOption,
        ∃ x ∈ MatchSet.hitsOf ((s.candidates doc).filterMap s.hit?) id, x.same y = true := by
      intro y hy
      obtain ⟨x, hx, hsame⟩ := hs.complete hheld hsuits hp (List.reduceOption_mem_iff.mp hy)
      exact ⟨x, MatchSet.mem_hitsOf.mpr hx, hsame⟩
    change Binary64.SameScore _ (p.criteria.score? doc)
    rw [Definition.score?_eq]
    refine hbest.same (.maximum? fun y hy => ?_) hsound hcomplete
    exact Criteria.isNaN_of_mem_instanceScores (List.reduceOption_mem_iff.mp hy)

end FormIndex

end Targeting.Index
