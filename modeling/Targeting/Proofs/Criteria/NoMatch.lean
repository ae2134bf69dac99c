import Mathlib
import Targeting.Proofs.Binary64.Real
import Targeting.Proofs.Criteria.Building
import Targeting.Proofs.Criteria.Scores

namespace Targeting

namespace Clause

variable {c : Clause} {doc : Document} {x score : Binary64}

-- What a conjunction that holds scores.
def SumsTo (c : Clause) (doc : Document) (x : Binary64) : Prop :=
  (Binary64.sum (c.holdingWeights doc)).same x = true

theorem conjunctionScore?_of_holds (h : c.holdsAll doc = true) :
    c.conjunctionScore? doc = some (.sum (c.holdingWeights doc)) := by
  rw [conjunctionScore?, if_pos h, holdingWeights, List.filter_eq_self.mpr (List.all_eq_true.mp h)]

theorem PeaksAt.rank_nonneg (h : c.PeaksAt doc score)
    (hweights : ∀ w ∈ c.holdingWeights doc, 0 ≤ w.rank) : 0 ≤ score.rank := by
  cases h with
  | best hbest =>
    obtain ⟨w, hw, hrank⟩ := hbest.attained
    exact hrank ▸ hweights w hw
  | excluding hnone hzero => exact (Binary64.same_iff.mp hzero).2.2.ge

end Clause

namespace Definition

variable {d : Definition} {doc : Document}

-- What a formula that holds scores: the best of the sums of the conjunctions that hold, or the sum
-- of what all disjunctions score.
def ComesTo (d : Definition) (doc : Document) (x : Binary64) : Prop :=
  match d.form with
  | .dnf => Binary64.IsBest
      ((d.clauses.filter (·.holdsAll doc)).map fun c => .sum (c.holdingWeights doc)) x
  | .cnf => ∃ peaks, List.Forall₂ (fun c peak => Clause.PeaksAt c doc peak) d.clauses peaks ∧
      (Binary64.sum peaks).same x = true

theorem conjunctionScores_eq (clauses : List Clause) (doc : Document) :
    clauses.filterMap (·.conjunctionScore? doc)
      = (clauses.filter (·.holdsAll doc)).map fun c => .sum (c.holdingWeights doc) := by
  induction clauses with
  | nil => rfl
  | cons c rest ih =>
    rw [List.filterMap_cons, List.filter_cons, ih]
    cases h : c.holdsAll doc with
    | true => simp [Clause.conjunctionScore?_of_holds h]
    | false => simp [Clause.conjunctionScore?, h]

end Definition

-- How far a score tells that something does not hold. Where it holds, the score is what the weights
-- come to. That may be the score of what does not hold, but only with a weight below zero.
structure TellsNoMatch (holds : Bool) (score : Binary64) (weights : List Binary64)
    (comesTo : Binary64 → Prop) : Prop where
  unmatched : holds = false → score = noMatch
  matched : holds = true → ∀ x, score.same x = true ↔ comesTo x
  same_iff : score.same noMatch = true ↔ holds = false ∨ holds = true ∧ comesTo noMatch
  unambiguous : (∀ w ∈ weights, ¬ w < .zero) → (score.same noMatch = true ↔ holds = false)

theorem TellsNoMatch.of_score? {holds : Bool} {score? : Option Binary64} {weights : List Binary64}
    {comesTo : Binary64 → Prop} (hisSome : score?.isSome = holds)
    (hcomes : ∀ score, score? = some score → ∀ x, comesTo x ↔ score.same x = true)
    (hnonneg : (∀ w ∈ weights, ¬ w < .zero) → ∀ score, score? = some score → 0 ≤ score.rank) :
    TellsNoMatch holds (score?.getD noMatch) weights comesTo := by
  subst hisSome
  cases score? with
  | none =>
    have hself : noMatch.same noMatch = true := by decide
    exact ⟨fun _ => rfl, nofun, by simp [hself], fun _ => by simp [hself]⟩
  | some score =>
    refine ⟨nofun, fun _ x => (hcomes score rfl x).symm, by simp [hcomes score rfl], fun hweights => ?_⟩
    have hnegative : noMatch.rank < 0 := by decide
    have hdiffers : score.same noMatch = false := by
      refine Bool.eq_false_iff.mpr fun hsame => ?_
      have hrank := (Binary64.same_iff.mp hsame).2.2
      have hscore := hnonneg hweights score rfl
      omega
    simp [hdiffers]

namespace Clause

variable {c : Clause} {doc : Document}

theorem rank_holdingWeights (hvalid : ∀ p ∈ c, p.fault? = none)
    (hweights : ∀ w ∈ c.holdingWeights doc, ¬ w < .zero) :
    ∀ w ∈ c.holdingWeights doc, 0 ≤ w.rank := by
  intro w hw
  have hnumber := Binary64.isNaN_of_isFinite (isFinite_holdingWeights hvalid hw)
  exact Int.not_lt.mp fun hrank => hweights w hw ⟨hnumber, Binary64.isNaN_zero, hrank⟩

theorem rank_sum_holdingWeights (hvalid : ∀ p ∈ c, p.fault? = none)
    (hweights : ∀ w ∈ c.holdingWeights doc, 0 ≤ w.rank) :
    0 ≤ (Binary64.sum (c.holdingWeights doc)).rank :=
  Binary64.rank_nonneg_sum fun w hw => ⟨isFinite_holdingWeights hvalid hw, hweights w hw⟩

theorem conjunction_tellsNoMatch (hvalid : ∀ p ∈ c, p.fault? = none) :
    TellsNoMatch (c.holdsAll doc) (c.conjunctionScore doc) (c.holdingWeights doc)
      (c.SumsTo doc) := by
  have hsum {score : Binary64} (h : c.conjunctionScore? doc = some score) :
      score = .sum (c.holdingWeights doc) := by
    have hholds : c.holdsAll doc = true := by rw [← isSome_conjunctionScore?, h]; rfl
    exact Option.some.inj (h.symm.trans (conjunctionScore?_of_holds hholds))
  refine .of_score? isSome_conjunctionScore? (fun score h x => ?_) fun hweights score h => ?_
  · rw [hsum h, SumsTo]
  · rw [hsum h]
    exact rank_sum_holdingWeights hvalid (rank_holdingWeights hvalid hweights)

theorem disjunction_tellsNoMatch (hvalid : ∀ p ∈ c, p.fault? = none) :
    TellsNoMatch (c.holdsAny doc) (c.disjunctionScore doc) (c.holdingWeights doc)
      (c.PeaksAt doc) :=
  .of_score? isSome_disjunctionScore?
    (fun _ h _ => (peaksAt_of_disjunctionScore? hvalid h).iff_same)
    fun hweights _ h =>
      (peaksAt_of_disjunctionScore? hvalid h).rank_nonneg (rank_holdingWeights hvalid hweights)

end Clause

namespace Definition

variable {d : Definition} {doc : Document} {x score : Binary64}

variable (hvalid : ∀ c ∈ d.clauses, ∀ p ∈ c, p.fault? = none)

include hvalid in
theorem isFinite_of_mem_peaks {scores : List Binary64}
    (h : d.clauses.mapM (fun c => Clause.disjunctionScore? c doc) = some scores)
    (hscore : score ∈ scores) : score.isFinite = true := by
  obtain ⟨c, hc, hscore⟩ := exists_of_mapM h hscore
  exact Clause.isFinite_disjunctionScore? (hvalid c hc) hscore

include hvalid in
theorem isBest_of_score? (hform : d.form = .dnf) (h : d.score? doc = some score) :
    Binary64.IsBest ((d.clauses.filter (·.holdsAll doc)).map fun c => .sum (c.holdingWeights doc))
      score := by
  rw [score?, hform, ← conjunctionScores_eq] at *
  refine Binary64.IsBest.maximum? (fun x hx => ?_) h
  obtain ⟨c, hc, hx⟩ := List.mem_filterMap.mp hx
  exact Clause.isNaN_conjunctionScore? (hvalid c hc) hx

include hvalid in
theorem comesTo_iff_same (h : d.score? doc = some score) :
    d.ComesTo doc x ↔ score.same x = true := by
  rw [ComesTo]
  cases hform : d.form with
  | dnf => exact (isBest_of_score? hvalid hform h).iff_same
  | cnf =>
    rw [score?, hform] at h
    obtain ⟨scores, hscores, rfl⟩ := Option.map_eq_some_iff.mp h
    have hpeaks := Clause.forall₂_peaks hvalid hscores
    constructor
    · rintro ⟨peaks, hpeaks', hx⟩
      have hsum := Binary64.same_sum (Clause.forall₂_same_peaks hpeaks hpeaks')
        fun score hscore => Binary64.isInfinite_of_isFinite (isFinite_of_mem_peaks hvalid hscores hscore)
      exact Binary64.same_trans hsum hx
    · intro hx
      exact ⟨scores, hpeaks, hx⟩

theorem holdingWeights_subset {c : Clause} (hc : c ∈ d.clauses) :
    c.holdingWeights doc ⊆ Clause.holdingWeights d.predicates doc := by
  intro w hw
  obtain ⟨p, hp, hcounts⟩ := Clause.mem_holdingWeights.mp hw
  exact Clause.mem_holdingWeights.mpr ⟨p, List.mem_flatten_of_mem hc hp, hcounts⟩

include hvalid in
theorem rank_score?_nonneg
    (hweights : ∀ w ∈ Clause.holdingWeights d.predicates doc, ¬ w < .zero)
    (h : d.score? doc = some score) : 0 ≤ score.rank := by
  have hnonneg (c : Clause) (hc : c ∈ d.clauses) : ∀ w ∈ c.holdingWeights doc, 0 ≤ w.rank :=
    Clause.rank_holdingWeights (hvalid c hc) fun w hw => hweights w (holdingWeights_subset hc hw)
  cases hform : d.form with
  | dnf =>
    obtain ⟨sum, hsum, hrank⟩ := (isBest_of_score? hvalid hform h).attained
    obtain ⟨c, hc, rfl⟩ := List.mem_map.mp hsum
    have hc := (List.mem_filter.mp hc).1
    rw [← hrank]
    exact Clause.rank_sum_holdingWeights (hvalid c hc) (hnonneg c hc)
  | cnf =>
    rw [score?, hform] at h
    obtain ⟨scores, hscores, rfl⟩ := Option.map_eq_some_iff.mp h
    refine Binary64.rank_nonneg_sum fun score hscore =>
      ⟨isFinite_of_mem_peaks hvalid hscores hscore, ?_⟩
    obtain ⟨c, hc, hpeaks⟩ := exists_of_mapM hscores hscore
    exact (Clause.peaksAt_of_disjunctionScore? (hvalid c hc) hpeaks).rank_nonneg (hnonneg c hc)

end Definition

theorem Criteria.tellsNoMatch (c : Criteria) (doc : Document) :
    TellsNoMatch (c.evaluate doc) (c.score doc) (Clause.holdingWeights c.predicates doc)
      (c.ComesTo doc) := by
  have hvalid (clause : Clause) (hclause : clause ∈ c.clauses) (p : Predicate) (hp : p ∈ clause) :
      p.fault? = none := c.predicate_valid hclause hp
  exact .of_score? (Definition.isSome_score? _ _)
    (fun _ h _ => Definition.comesTo_iff_same hvalid h)
    fun hweights _ h => Definition.rank_score?_nonneg hvalid hweights h

-- The score of a formula that holds is that of one that does not only through a weight below zero,
-- and so it is for what makes up formulas.
theorem score_tellsNoMatch {clause : Clause} (hclause : Clause.WellFormed clause) (c : Criteria)
    (doc : Document) :
    TellsNoMatch (c.evaluate doc) (c.score doc) (Clause.holdingWeights c.predicates doc)
        (c.ComesTo doc) ∧
      TellsNoMatch (clause.holdsAll doc) (clause.conjunctionScore doc) (clause.holdingWeights doc)
        (clause.SumsTo doc) ∧
      TellsNoMatch (clause.holdsAny doc) (clause.disjunctionScore doc) (clause.holdingWeights doc)
        (clause.PeaksAt doc) := by
  have hvalid := (Clause.wellFormed_iff_predicates.mp hclause).2
  exact ⟨c.tellsNoMatch doc, Clause.conjunction_tellsNoMatch hvalid,
    Clause.disjunction_tellsNoMatch hvalid⟩

-- An inclusion with the weight -1.
def opposed : Predicate :=
  (Predicate.make .included "x" (.oneOf (.ofValues [.int 1]))).withWeight (-.one)

def opposedCriteria : Criteria := ⟨⟨"a", .dnf, [[opposed]]⟩, by decide +kernel⟩

theorem score_tellsNoMatch_opposed : Clause.WellFormed [opposed] ∧
    TellsNoMatch true (Clause.disjunctionScore [opposed] (.ofList [("x", .int 1)]))
      [-.one] (Clause.PeaksAt [opposed] (.ofList [("x", .int 1)])) := by
  have hclause : Clause.WellFormed [opposed] :=
    Clause.wellFormed_iff_predicates.mpr ⟨List.cons_ne_nil _ _, by decide +kernel⟩
  have hholds : Clause.holdsAny [opposed] (.ofList [("x", .int 1)]) = true := by decide +kernel
  have hweights : Clause.holdingWeights [opposed] (.ofList [("x", .int 1)]) = [-.one] := by
    decide +kernel
  have htells := (score_tellsNoMatch hclause opposedCriteria (.ofList [("x", .int 1)])).2.2
  rw [hholds, hweights] at htells
  exact ⟨hclause, htells⟩

-- It holds and scores as if it did not.
theorem not_score_tells : ¬ ∀ (c : Criteria) (doc : Document),
    (c.score doc).same noMatch = true ↔ c.evaluate doc = false := by
  intro h
  have hiff := h opposedCriteria (.ofList [("x", .int 1)])
  have hsame : (opposedCriteria.score (.ofList [("x", .int 1)])).same noMatch = true := by
    decide +kernel
  have hholds : opposedCriteria.evaluate (.ofList [("x", .int 1)]) = true := by decide +kernel
  exact Bool.false_ne_true ((hiff.mp hsame).symm.trans hholds)

end Targeting
