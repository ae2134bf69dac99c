import Mathlib
import Targeting.Proofs.Criteria.Scores
import Targeting.Proofs.Index.Conjunction
import Targeting.Proofs.Index.Formula

namespace Targeting.Index

-- What a search makes of a live candidate.
def Candidate.outcome? (c : Candidate) (form : Form) (i : Instance) :
    Except Contradiction (Option Binary64) :=
  if c.isExcluded form then .ok none else c.score? form i

-- What an instance contributes to the score of its criteria on a document.
structure Staged.Scores (i : Staged) (form : Form) (doc : Document) (score : Option Binary64) :
    Prop where
  -- A candidate that has all postings that are met is scored.
  candidate : ∀ postings, (∀ q, q ∈ postings ↔ q ∈ i.met doc) →
    ∃ found, (Candidate.mk i.internalId postings).outcome? form i.metadata = .ok found ∧
      Binary64.SameScore found score
  -- An instance that holds is met often enough to be a candidate.
  enough : score ≠ none → max i.metadata.slotCount 1 ≤ (i.met doc).length

section Instances

variable {internalId : Nat} {externalId : String} {doc : Document}

theorem scores_conjunction {clause : Clause} (hvalid : ∀ p ∈ clause, p.fault? = none)
    (hnatural : ∀ p ∈ clause, p.hasNaturalDefault = true) :
    (stageConjunction internalId externalId clause).Scores .dnf doc (clause.conjunctionScore? doc) where
  candidate postings h := by
    rw [Candidate.outcome?]
    split
    next hexcluded =>
      rw [conjunctionScore?_of_excluded hnatural h hexcluded]
      exact ⟨none, rfl, .none⟩
    next hexcluded =>
      refine ⟨_, congrArg Except.ok (conjunctionScore?_eq hnatural h hexcluded), ?_⟩
      cases hclause : clause.conjunctionScore? doc with
      | none => exact .none
      | some score =>
        exact .some (Binary64.same_refl (Clause.isNaN_conjunctionScore? hvalid hclause))
  enough hscore := by
    refine le_length_met_conjunction hnatural ?_
    rw [← Clause.isSome_conjunctionScore?]
    exact Option.isSome_iff_ne_none.mpr hscore

theorem scores_formula {clauses : List Clause} (hvalid : ∀ c ∈ clauses, ∀ p ∈ c, p.fault? = none)
    (hnatural : ∀ c ∈ clauses, ∀ p ∈ c, p.hasNaturalDefault = true) :
    (stageFormula internalId externalId clauses).Scores .cnf doc
      ((clauses.mapM fun c => Clause.disjunctionScore? c doc).map Binary64.sum) where
  candidate postings h := formulaScore?_same hvalid h hnatural
  enough hscore := by
    refine le_length_met_formula hnatural ?_
    simp only [← Clause.isSome_disjunctionScore?]
    rw [← isSome_mapM, ← Option.isSome_map (f := Binary64.sum)]
    exact Option.isSome_iff_ne_none.mpr hscore

variable (doc) in
-- The instances of a criteria contribute the scores that are compared for it.
theorem scores_stage (firstId : Nat) {criteria : Criteria} (hindexable : criteria.isIndexable = true) :
    List.Forall₂ (fun i score => Staged.Scores i criteria.form doc score) (stage firstId criteria)
      (criteria.instanceScores doc) := by
  have hnatural : ∀ c ∈ criteria.clauses, ∀ p ∈ c, p.hasNaturalDefault = true :=
    fun c hc p hp => List.all_eq_true.mp hindexable p (List.mem_flatten.mpr ⟨c, hc, hp⟩)
  have hvalid : ∀ c ∈ criteria.clauses, ∀ p ∈ c, p.fault? = none :=
    fun c hc p hp => criteria.predicate_valid hc hp
  rw [stage, Definition.instanceScores]
  cases criteria.form with
  | dnf =>
    dsimp only
    have hmap : criteria.clauses.map (fun c => Clause.conjunctionScore? c doc)
        = criteria.clauses.zipIdx.map fun e => Clause.conjunctionScore? e.1 doc := by
      conv_lhs => rw [← List.zipIdx_map_fst 0 criteria.clauses, List.map_map]
      rfl
    rw [hmap, List.forall₂_map_left_iff, List.forall₂_map_right_iff, List.forall₂_same]
    intro e he
    have hc := List.fst_mem_of_mem_zipIdx he
    exact scores_conjunction (hvalid e.1 hc) (hnatural e.1 hc)
  | cnf => exact .cons (scores_formula hvalid hnatural) .nil

end Instances

end Targeting.Index
