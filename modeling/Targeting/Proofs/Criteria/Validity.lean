import Mathlib
import Targeting.Criteria.Basic
import Targeting.Proofs.Binary64.Order
import Targeting.Proofs.Caveat

namespace Targeting

theorem Predicate.fault?_eq_none_iff {p : Predicate} :
    p.fault? = none ↔
      p.path.isEmpty = false ∧ p.weight.isFinite = true ∧ p.caveat.fault? = none := by
  rw [fault?]
  cases p.path.isEmpty <;> cases p.weight.isFinite <;> simp

theorem Clause.fault?_eq_none_iff {id : String} {position : Nat} {c : Clause} :
    Clause.fault? id position c = none ↔ c ≠ [] ∧ ∀ p ∈ c, p.fault? = none := by
  rw [fault?]
  cases c <;> simp [List.findSome?_eq_none_iff]

theorem Definition.fault?_eq_none_iff {d : Definition} :
    d.fault? = none ↔ d.id.isEmpty = false ∧ d.clauses ≠ [] ∧
      ∀ c ∈ d.clauses, c ≠ [] ∧ ∀ p ∈ c, p.fault? = none := by
  have hclauses : (d.clauses.zipIdx.findSome? fun e => Clause.fault? d.id e.2 e.1) = none ↔
      ∀ c ∈ d.clauses, c ≠ [] ∧ ∀ p ∈ c, p.fault? = none := by
    simp only [List.findSome?_eq_none_iff, Clause.fault?_eq_none_iff]
    constructor
    · intro h c hc
      obtain ⟨i, hi, rfl⟩ := List.getElem_of_mem hc
      exact h (d.clauses[i], i) (List.mem_zipIdx_iff_getElem?.mpr (List.getElem?_eq_getElem hi))
    · intro h e he
      exact h e.1 (List.fst_mem_of_mem_zipIdx he)
  rw [fault?, ← hclauses]
  cases d.id.isEmpty <;> cases d.clauses <;> simp

namespace Criteria

variable (c : Criteria)

theorem clauses_ne_nil : c.clauses ≠ [] := (Definition.fault?_eq_none_iff.mp c.valid).2.1

theorem clause_ne_nil {clause : Clause} (h : clause ∈ c.clauses) : clause ≠ [] :=
  ((Definition.fault?_eq_none_iff.mp c.valid).2.2 clause h).1

theorem predicate_valid {clause : Clause} {p : Predicate} (h : clause ∈ c.clauses)
    (hp : p ∈ clause) : p.fault? = none :=
  ((Definition.fault?_eq_none_iff.mp c.valid).2.2 clause h).2 p hp

end Criteria

-- What is valid is the same as itself. A number that is none would differ from itself.
section Same

theorem Range.same_self {r : Range} (h : r.fault? = none) : r.same r = true := by
  obtain ⟨hlo, hhi⟩ := isNaN_of_fault? h
  unfold same
  cases hl : r.lo with
  | none =>
    cases hr : r.hi with
    | none => simp
    | some y => simp [Binary64.same_refl (hhi y hr)]
  | some x =>
    cases hr : r.hi with
    | none => simp [Binary64.same_refl (hlo x hl)]
    | some y => simp [Binary64.same_refl (hlo x hl), Binary64.same_refl (hhi y hr)]

theorem Caveat.same_self {c : Caveat} (h : c.fault? = none) : c.same c = true := by
  cases c with
  | oneOf keys => simp [same]
  | pattern p => simp [same]
  | range r => exact Range.same_self (by simpa [fault?] using h)
  | version b => simp [same]

theorem Predicate.same_self {p : Predicate} (h : p.fault? = none) : p.same p = true := by
  obtain ⟨-, hweight, hcaveat⟩ := fault?_eq_none_iff.mp h
  simp [same, Caveat.same_self hcaveat, Binary64.same_refl (Binary64.isNaN_of_isFinite hweight)]

theorem all_zip_self {α : Type} {f : α × α → Bool} {l : List α} (h : ∀ x ∈ l, f (x, x) = true) :
    (l.zip l).all f = true := by
  induction l with
  | nil => rfl
  | cons x rest ih =>
    rw [List.zip_cons_cons, List.all_cons, h x List.mem_cons_self,
      ih fun y hy => h y (List.mem_cons_of_mem _ hy), Bool.and_self]

theorem Criteria.same_self (c : Criteria) : c.same c.toDefinition = true := by
  have hclauses : (c.clauses.zip c.clauses).all (fun e => Clause.sameAs e.1 e.2) = true := by
    refine all_zip_self fun clause hclause => ?_
    have hpredicates := all_zip_self (f := fun e : Predicate × Predicate => e.1.same e.2)
      fun p hp => Predicate.same_self (c.predicate_valid hclause hp)
    simp [Clause.sameAs, hpredicates]
  simp [Definition.same, hclauses]

end Same

end Targeting
