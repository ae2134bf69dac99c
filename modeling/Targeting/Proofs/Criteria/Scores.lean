import Mathlib
import Targeting.Criteria.Evaluation
import Targeting.Proofs.Criteria.Validity

namespace Targeting

namespace Clause

variable {c : Clause} {doc : Document} {x score : Binary64}

theorem isSome_conjunctionScore? : (c.conjunctionScore? doc).isSome = c.holdsAll doc := by
  rw [conjunctionScore?]
  cases c.holdsAll doc <;> rfl

-- The weights that count on a document: those of the included predicates that hold.
def holdingWeights (c : Clause) (doc : Document) : List Binary64 :=
  ((c.filter (·.evaluate doc)).filter Predicate.isIncluded).map Predicate.weight

theorem mem_holdingWeights {w : Binary64} : w ∈ c.holdingWeights doc ↔
    ∃ p ∈ c, p.evaluate doc = true ∧ p.isIncluded = true ∧ p.weight = w := by
  simp [holdingWeights, and_assoc, and_left_comm]

theorem isFinite_holdingWeights (hvalid : ∀ p ∈ c, p.fault? = none) {w : Binary64}
    (hw : w ∈ c.holdingWeights doc) : w.isFinite = true := by
  obtain ⟨p, hp, -, -, rfl⟩ := mem_holdingWeights.mp hw
  exact (Predicate.fault?_eq_none_iff.mp (hvalid p hp)).2.1

theorem disjunctionScore?_eq : c.disjunctionScore? doc =
    if c.holdsAny doc then some ((Binary64.maximum? (c.holdingWeights doc)).getD .zero)
    else none := by
  have hany : (c.filter (·.evaluate doc)).isEmpty = !c.holdsAny doc := by
    rw [Bool.eq_iff_iff, List.isEmpty_iff, List.filter_eq_nil_iff, holdsAny, Bool.not_eq_true',
      List.any_eq_false]
  rw [disjunctionScore?, hany]
  cases c.holdsAny doc <;> rfl

theorem isSome_disjunctionScore? : (c.disjunctionScore? doc).isSome = c.holdsAny doc := by
  rw [disjunctionScore?_eq]
  cases c.holdsAny doc <;> rfl

theorem isNaN_conjunctionScore? (hvalid : ∀ p ∈ c, p.fault? = none) {score : Binary64}
    (h : c.conjunctionScore? doc = some score) : score.isNaN = false := by
  rw [conjunctionScore?] at h
  split at h
  · cases h
    refine Binary64.isNaN_sum fun w hw => ?_
    obtain ⟨p, hp, rfl⟩ := List.mem_map.mp hw
    exact (Predicate.fault?_eq_none_iff.mp (hvalid p (List.mem_filter.mp hp).1)).2.1
  · cases h

-- What a disjunction that holds scores: the highest weight that counts, or zero when none does.
inductive PeaksAt (c : Clause) (doc : Document) (x : Binary64) : Prop
  | best (hbest : Binary64.IsBest (c.holdingWeights doc) x)
  | excluding (hnone : c.holdingWeights doc = []) (hzero : x.same .zero = true)

theorem PeaksAt.iff_same (h : c.PeaksAt doc score) : c.PeaksAt doc x ↔ score.same x = true := by
  cases h with
  | best hbest =>
    constructor
    · intro hx
      cases hx with
      | best hx => exact hbest.iff_same.mp hx
      | excluding hnone => exact absurd hnone hbest.ne_nil
    · intro hsame
      exact .best (hbest.iff_same.mpr hsame)
  | excluding hnone hzero =>
    constructor
    · intro hx
      cases hx with
      | best hx => exact absurd hnone hx.ne_nil
      | excluding _ hx => exact Binary64.same_trans hzero (Binary64.same_symm hx)
    · intro hsame
      exact .excluding hnone (Binary64.same_trans (Binary64.same_symm hsame) hzero)

theorem peaksAt_of_disjunctionScore? (hvalid : ∀ p ∈ c, p.fault? = none) {score : Binary64}
    (h : c.disjunctionScore? doc = some score) : c.PeaksAt doc score := by
  have hbest : Binary64.BestOf (c.holdingWeights doc) (Binary64.maximum? (c.holdingWeights doc)) :=
    .maximum? fun w hw => Binary64.isNaN_of_isFinite (isFinite_holdingWeights hvalid hw)
  rw [disjunctionScore?_eq, Option.ite_none_right_eq_some] at h
  obtain ⟨-, h⟩ := h
  cases h
  generalize Binary64.maximum? _ = best at hbest
  cases best with
  | none => exact .excluding hbest (Binary64.same_refl Binary64.isNaN_zero)
  | some best => exact .best hbest

theorem PeaksAt.isFinite (hvalid : ∀ p ∈ c, p.fault? = none) {score : Binary64}
    (h : c.PeaksAt doc score) : score.isFinite = true := by
  cases h with
  | best hbest =>
    obtain ⟨w, hw, hrank⟩ := hbest.attained
    have hfinite := isFinite_holdingWeights hvalid hw
    have hsame : w.same score = true :=
      Binary64.same_iff.mpr ⟨Binary64.isNaN_of_isFinite hfinite, hbest.number, hrank⟩
    exact (Binary64.isFinite_eq_of_same hsame).symm.trans hfinite
  | excluding hnone hzero => exact Binary64.isFinite_eq_of_same hzero

theorem isFinite_disjunctionScore? (hvalid : ∀ p ∈ c, p.fault? = none) {score : Binary64}
    (h : c.disjunctionScore? doc = some score) : score.isFinite = true :=
  (peaksAt_of_disjunctionScore? hvalid h).isFinite hvalid

end Clause

theorem isSome_mapM {α β : Type} (f : α → Option β) (l : List α) :
    (l.mapM f).isSome = l.all fun x => (f x).isSome := by
  induction l with
  | nil => rfl
  | cons x rest ih =>
    rw [List.mapM_cons, List.all_cons, ← ih]
    cases f x with
    | none => rfl
    | some y => cases rest.mapM f <;> rfl

theorem exists_of_forall₂ {α β : Type} {R : α → β → Prop} {l : List α} {m : List β}
    (h : List.Forall₂ R l m) {x : α} (hx : x ∈ l) : ∃ y ∈ m, R x y := by
  induction h with
  | nil => cases hx
  | cons hfirst hrest ih =>
    rcases List.mem_cons.mp hx with rfl | hx
    · exact ⟨_, List.mem_cons_self, hfirst⟩
    · obtain ⟨y, hy, hxy⟩ := ih hx
      exact ⟨y, List.mem_cons_of_mem _ hy, hxy⟩

theorem forall₂_of_mapM {α β : Type} {f : α → Option β} {l : List α} {m : List β}
    (h : l.mapM f = some m) : List.Forall₂ (fun x y => f x = some y) l m := by
  induction l generalizing m with
  | nil =>
    cases h
    exact .nil
  | cons x rest ih =>
    rw [List.mapM_cons, Option.bind_eq_bind, Option.bind_eq_some_iff] at h
    obtain ⟨y, hy, h⟩ := h
    rw [Option.bind_eq_bind, Option.bind_eq_some_iff] at h
    obtain ⟨more, hmore, h⟩ := h
    cases h
    exact .cons hy (ih hmore)

theorem exists_of_mapM {α β : Type} {f : α → Option β} {l : List α} {m : List β}
    (h : l.mapM f = some m) {y : β} (hy : y ∈ m) : ∃ x ∈ l, f x = some y :=
  exists_of_forall₂ (forall₂_of_mapM h).flip hy

namespace Clause

variable {clauses : List Clause} {doc : Document}

theorem forall₂_same_peaks {scores peaks : List Binary64}
    (hscores : List.Forall₂ (fun c score => Clause.PeaksAt c doc score) clauses scores)
    (hpeaks : List.Forall₂ (fun c peak => Clause.PeaksAt c doc peak) clauses peaks) :
    List.Forall₂ (fun score peak => score.same peak = true) scores peaks := by
  induction hscores generalizing peaks with
  | nil =>
    cases hpeaks
    exact .nil
  | cons hscore _ ih =>
    cases hpeaks with
    | cons hpeak hpeaks => exact .cons (hscore.iff_same.mp hpeak) (ih hpeaks)

theorem forall₂_peaks (hvalid : ∀ c ∈ clauses, ∀ p ∈ c, p.fault? = none) {scores : List Binary64}
    (h : clauses.mapM (fun c => Clause.disjunctionScore? c doc) = some scores) :
    List.Forall₂ (fun c score => Clause.PeaksAt c doc score) clauses scores :=
  ((List.forall₂_and_left _ _).mpr ⟨hvalid, forall₂_of_mapM h⟩).imp fun _ _ hscore =>
    Clause.peaksAt_of_disjunctionScore? hscore.1 hscore.2

end Clause

namespace Definition

-- The scores that an index compares: one for each conjunction, or one for the whole formula.
def instanceScores (d : Definition) (doc : Document) : List (Option Binary64) :=
  match d.form with
  | .dnf => d.clauses.map (·.conjunctionScore? doc)
  | .cnf => [(d.clauses.mapM fun c => Clause.disjunctionScore? c doc).map Binary64.sum]

theorem score?_eq (d : Definition) (doc : Document) :
    d.score? doc = Binary64.maximum? (d.instanceScores doc).reduceOption := by
  rw [score?, instanceScores]
  cases d.form with
  | dnf =>
    dsimp only
    rw [List.reduceOption, List.filterMap_map]
    rfl
  | cnf =>
    dsimp only
    generalize (d.clauses.mapM fun c => Clause.disjunctionScore? c doc) = scores
    cases scores <;> rfl

-- What holds is what has a score.
theorem isSome_score? (d : Definition) (doc : Document) : (d.score? doc).isSome = d.evaluate doc := by
  rw [score?, evaluate]
  cases d.form with
  | dnf =>
    have hmaximum (scores : List Binary64) :
        (Binary64.maximum? scores).isSome = !scores.isEmpty := by cases scores <;> rfl
    rw [hmaximum, Bool.eq_iff_iff, Bool.not_eq_true', List.isEmpty_eq_false_iff_exists_mem,
      List.any_eq_true]
    simp only [List.mem_filterMap, ← Clause.isSome_conjunctionScore?, Option.isSome_iff_exists]
    constructor
    · rintro ⟨score, c, hc, hscore⟩
      exact ⟨c, hc, score, hscore⟩
    · rintro ⟨c, hc, score, hscore⟩
      exact ⟨score, c, hc, hscore⟩
  | cnf =>
    dsimp only
    rw [Option.isSome_map, isSome_mapM]
    simp only [Clause.isSome_disjunctionScore?]

end Definition

namespace Criteria

variable {c : Criteria} {doc : Document} {score : Binary64}

theorem isNaN_of_mem_instanceScores (h : some score ∈ c.instanceScores doc) :
    score.isNaN = false := by
  rw [Definition.instanceScores] at h
  cases hform : c.form with
  | dnf =>
    rw [hform] at h
    obtain ⟨clause, hclause, h⟩ := List.mem_map.mp h
    exact Clause.isNaN_conjunctionScore? (fun p hp => c.predicate_valid hclause hp) h
  | cnf =>
    rw [hform] at h
    obtain ⟨scores, hscores, rfl⟩ := Option.map_eq_some_iff.mp (List.mem_singleton.mp h).symm
    refine Binary64.isNaN_sum fun x hx => ?_
    obtain ⟨clause, hclause, h⟩ := exists_of_mapM hscores hx
    exact Clause.isFinite_disjunctionScore? (fun p hp => c.predicate_valid hclause hp) h

-- A valid criteria scores numbers.
theorem isNaN_score? (h : c.score? doc = some score) : score.isNaN = false := by
  rw [Definition.score?_eq] at h
  refine (Binary64.IsBest.maximum? (fun x hx => ?_) h).number
  exact isNaN_of_mem_instanceScores (List.reduceOption_mem_iff.mp hx)

end Criteria

end Targeting
