import Mathlib
import Targeting.Proofs.Criteria.Sameness

namespace Targeting

-- Lists of numbers that are pairwise the same.
abbrev Binary64.SameNumbers : List Binary64 → List Binary64 → Prop :=
  List.Forall₂ fun x y => x.same y = true

theorem Binary64.SameNumbers.maximum? {xs ys : List Binary64} (h : SameNumbers xs ys) :
    SameScore (Binary64.maximum? xs) (Binary64.maximum? ys) := by
  have hleft {x : Binary64} (hx : x ∈ xs) : ∃ y ∈ ys, x.same y = true := exists_of_forall₂ h hx
  have hright {y : Binary64} (hy : y ∈ ys) : ∃ x ∈ xs, x.same y = true :=
    exists_of_forall₂ h.flip hy
  refine BestOf.same (BestOf.maximum? fun x hx => ?_) (BestOf.maximum? fun y hy => ?_)
    (fun x hx => hleft hx) fun y hy => hright hy
  · obtain ⟨y, -, hxy⟩ := hleft hx
    exact (same_iff.mp hxy).1
  · obtain ⟨x, -, hxy⟩ := hright hy
    exact (same_iff.mp hxy).2.1

-- Either some step fails in both lists, or what the steps give is pairwise related.
theorem rel_mapM {α β : Type} {r : α → α → Prop} {s : β → β → Prop} {f : α → Option β}
    {l m : List α} (h : List.Forall₂ r l m) (hf : ∀ x y, r x y → Option.Rel s (f x) (f y)) :
    Option.Rel (List.Forall₂ s) (l.mapM f) (m.mapM f) := by
  induction h with
  | nil => exact .some .nil
  | @cons x y l m hxy _ ih =>
    have hfirst := hf x y hxy
    rw [List.mapM_cons, List.mapM_cons]
    generalize f x = a at hfirst ⊢
    generalize f y = b at hfirst ⊢
    generalize l.mapM f = as at ih ⊢
    generalize m.mapM f = bs at ih ⊢
    cases hfirst with
    | none => exact .none
    | some hab =>
      cases ih with
      | none => exact .none
      | some hrest => exact .some (.cons hab hrest)

-- Clauses whose predicates are pairwise written alike.
abbrev SameClause : Clause → Clause → Prop := List.Forall₂ fun p q : Predicate => p.same q = true

namespace Clause

variable {c d : Clause}

theorem sameNumbers_weights (h : SameClause c d) :
    Binary64.SameNumbers ((c.filter Predicate.isIncluded).map Predicate.weight)
      ((d.filter Predicate.isIncluded).map Predicate.weight) := by
  have hkind : ∀ ⦃p q : Predicate⦄, p.same q = true → (p.isIncluded = true ↔ q.isIncluded = true) := by
    intro p q hpq
    rw [Predicate.isIncluded, Predicate.isIncluded, (Predicate.same_iff.mp hpq).1]
  rw [Binary64.SameNumbers, List.forall₂_map_left_iff, List.forall₂_map_right_iff]
  exact (List.rel_filter hkind h).imp fun _ _ hpq => (Predicate.same_iff.mp hpq).2.2.2.1

variable (hvalid : ∀ p ∈ c, p.fault? = none) (h : SameClause c d) (doc : Document)

include hvalid h in
theorem sameScore_conjunctionScore? :
    Binary64.SameScore (c.conjunctionScore? doc) (d.conjunctionScore? doc) := by
  rw [conjunctionScore?, conjunctionScore?, holdsAll_congr h]
  split
  · refine .some (Binary64.same_sum (sameNumbers_weights h) fun w hw => ?_)
    obtain ⟨p, hp, rfl⟩ := List.mem_map.mp hw
    have hp := hvalid p (List.mem_filter.mp hp).1
    exact Binary64.isInfinite_of_isFinite (Predicate.fault?_eq_none_iff.mp hp).2.1
  · exact .none

include h in
theorem sameScore_disjunctionScore? :
    Binary64.SameScore (c.disjunctionScore? doc) (d.disjunctionScore? doc) := by
  have hevaluate : ∀ ⦃p q : Predicate⦄, p.same q = true →
      (p.evaluate doc = true ↔ q.evaluate doc = true) := by
    intro p q hpq
    rw [Predicate.evaluate_congr hpq]
  have hholding : SameClause (c.filter (·.evaluate doc)) (d.filter (·.evaluate doc)) :=
    List.rel_filter hevaluate h
  have hbest := (sameNumbers_weights hholding).maximum?
  rw [disjunctionScore?_eq, disjunctionScore?_eq, holdsAny_congr h, holdingWeights, holdingWeights]
  split
  · generalize Binary64.maximum? _ = x at hbest ⊢
    generalize Binary64.maximum? _ = y at hbest ⊢
    cases hbest with
    | none => exact .some (Binary64.same_refl Binary64.isNaN_zero)
    | some hsame => exact .some hsame
  · exact .none

end Clause

namespace Criteria

variable {c d : Criteria} (h : c.same d.toDefinition = true) (doc : Document)

include h

-- Criteria that are written alike score the same on every document.
theorem sameScore_score? : Binary64.SameScore (c.score? doc) (d.score? doc) := by
  obtain ⟨-, hform, hclauses⟩ := Definition.same_iff.mp h
  have hvalid {clause : Clause} (hclause : clause ∈ c.clauses) : ∀ p ∈ clause, p.fault? = none :=
    fun p hp => c.predicate_valid hclause hp
  rw [Definition.score?, Definition.score?, hform]
  cases d.form with
  | dnf =>
    have hscores := (List.forall₂_and_left _ _).mpr ⟨fun _ hclause => hvalid hclause, hclauses⟩
    exact Binary64.SameNumbers.maximum? (List.rel_filterMap
      (fun _ _ hcd => Clause.sameScore_conjunctionScore? hcd.1 hcd.2 doc) hscores)
  | cnf =>
    have hscores := rel_mapM hclauses fun _ _ hcd => Clause.sameScore_disjunctionScore? hcd doc
    dsimp only
    generalize d.clauses.mapM (fun clause => Clause.disjunctionScore? clause doc) = others at hscores ⊢
    cases hmapM : c.clauses.mapM fun clause => Clause.disjunctionScore? clause doc with
    | none =>
      rw [hmapM] at hscores
      cases hscores
      exact .none
    | some scores =>
      have hfinite : ∀ x ∈ scores, x.isInfinite = false := by
        intro x hx
        obtain ⟨clause, hclause, hscore⟩ := exists_of_mapM hmapM hx
        exact Binary64.isInfinite_of_isFinite
          (Clause.isFinite_disjunctionScore? (hvalid hclause) hscore)
      rw [hmapM] at hscores
      cases hscores with
      | some hsame => exact .some (Binary64.same_sum hsame hfinite)

theorem same_score : (c.score doc).same (d.score doc) = true := by
  have hscores := sameScore_score? h doc
  rw [Definition.score, Definition.score]
  generalize c.score? doc = x at hscores
  generalize d.score? doc = y at hscores
  cases hscores with
  | none => exact Binary64.same_refl rfl
  | some hsame => exact hsame

end Criteria

end Targeting
