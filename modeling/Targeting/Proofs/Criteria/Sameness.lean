import Mathlib
import Targeting.Proofs.Criteria.Scores

namespace Targeting

namespace Binary64

variable {x y z : Binary64}

theorem le_congr_left (h : x.same y = true) : x ≤ z ↔ y ≤ z := by
  obtain ⟨hx, hy, hrank⟩ := same_iff.mp h
  change _ ∧ _ ∧ _ ↔ _ ∧ _ ∧ _
  rw [hx, hy, hrank]

theorem le_congr_right (h : x.same y = true) : z ≤ x ↔ z ≤ y := by
  obtain ⟨hx, hy, hrank⟩ := same_iff.mp h
  change _ ∧ _ ∧ _ ↔ _ ∧ _ ∧ _
  rw [hx, hy, hrank]

theorem lt_congr_left (h : x.same y = true) : x < z ↔ y < z := by
  obtain ⟨hx, hy, hrank⟩ := same_iff.mp h
  change _ ∧ _ ∧ _ ↔ _ ∧ _ ∧ _
  rw [hx, hy, hrank]

theorem lt_congr_right (h : x.same y = true) : z < x ↔ z < y := by
  obtain ⟨hx, hy, hrank⟩ := same_iff.mp h
  change _ ∧ _ ∧ _ ↔ _ ∧ _ ∧ _
  rw [hx, hy, hrank]

theorem same_congr_left (h : x.same y = true) : x.same z = y.same z := by
  obtain ⟨hx, hy, hrank⟩ := same_iff.mp h
  rw [same, same, hx, hy, hrank]

theorem same_congr_right (h : x.same y = true) : z.same x = z.same y := by
  obtain ⟨hx, hy, hrank⟩ := same_iff.mp h
  rw [same, same, hx, hy, hrank]

end Binary64

-- Bounds that are both absent, or the same number.
abbrev SameBound : Option Binary64 → Option Binary64 → Prop := Binary64.SameScore

namespace Range

variable {r s : Range}

theorem same_iff : r.same s = true ↔ SameBound r.lo s.lo ∧ SameBound r.hi s.hi ∧
    r.loInclusive = s.loInclusive ∧ r.hiInclusive = s.hiInclusive := by
  obtain ⟨lo, hi, loInclusive, hiInclusive⟩ := r
  obtain ⟨lo', hi', loInclusive', hiInclusive'⟩ := s
  cases lo <;> cases lo' <;> cases hi <;> cases hi' <;> simp [same, and_assoc]

theorem aboveLo_congr (h : r.same s = true) (x : Binary64) : r.aboveLo x = s.aboveLo x := by
  obtain ⟨hlo, -, hloInclusive, -⟩ := same_iff.mp h
  rw [aboveLo, aboveLo, hloInclusive]
  generalize r.lo = a at hlo
  generalize s.lo = b at hlo
  cases hlo with
  | none => rfl
  | some hsame => simp only [Binary64.le_congr_left hsame, Binary64.lt_congr_left hsame]

theorem belowHi_congr (h : r.same s = true) (x : Binary64) : r.belowHi x = s.belowHi x := by
  obtain ⟨-, hhi, -, hhiInclusive⟩ := same_iff.mp h
  rw [belowHi, belowHi, hhiInclusive]
  generalize r.hi = a at hhi
  generalize s.hi = b at hhi
  cases hhi with
  | none => rfl
  | some hsame => simp only [Binary64.le_congr_right hsame, Binary64.lt_congr_right hsame]

theorem accepts_congr (h : r.same s = true) (v : Value) : r.accepts v = s.accepts v := by
  rw [accepts, accepts]
  congr 1
  funext x
  rw [contains, contains, aboveLo_congr h, belowHi_congr h]

theorem fault?_eq_none_iff {lo hi : Binary64} {loInclusive hiInclusive : Bool} :
    (⟨some lo, some hi, loInclusive, hiInclusive⟩ : Range).fault? = none ↔
      (lo.isNaN || hi.isNaN) = false ∧ ¬ hi < lo ∧
        (lo.same hi && !(loInclusive && hiInclusive)) = false := by
  simp only [fault?, Option.any_some]
  cases (lo.isNaN || hi.isNaN) <;> cases (lo.same hi && !(loInclusive && hiInclusive)) <;>
    by_cases hlt : hi < lo <;> simp [hlt]

theorem fault?_eq_none_of_same (h : r.same s = true) (hs : s.fault? = none) : r.fault? = none := by
  obtain ⟨hlo, hhi, hloInclusive, hhiInclusive⟩ := same_iff.mp h
  obtain ⟨lo, hi, loInclusive, hiInclusive⟩ := r
  obtain ⟨lo', hi', loInclusive', hiInclusive'⟩ := s
  cases hloInclusive
  cases hhiInclusive
  have hnan {x y : Binary64} (hsame : x.same y = true) : x.isNaN = y.isNaN :=
    (Binary64.same_iff.mp hsame).1.trans (Binary64.same_iff.mp hsame).2.1.symm
  cases hlo with
  | none =>
    cases hhi with
    | none => exact hs
    | some hhi => simpa [fault?, hnan hhi] using hs
  | some hlo =>
    cases hhi with
    | none => simpa [fault?, hnan hlo] using hs
    | some hhi =>
      have hsame := (Binary64.same_congr_left hlo).trans (Binary64.same_congr_right hhi)
      have hlt := (Binary64.lt_congr_left hhi).trans (Binary64.lt_congr_right hlo)
      rw [fault?_eq_none_iff, hnan hlo, hnan hhi, hlt, hsame]
      exact fault?_eq_none_iff.mp hs

end Range

theorem Caveat.fault?_eq_none_of_same {c d : Caveat} (h : c.same d = true) (hd : d.fault? = none) :
    c.fault? = none := by
  cases c with
  | oneOf keys =>
    cases d <;> simp only [same, Bool.false_eq_true] at h
    rwa [eq_of_beq h]
  | pattern p =>
    cases d <;> simp only [same, Bool.false_eq_true] at h
    rwa [Pattern.eq_of_source (eq_of_beq h)]
  | range r =>
    cases d <;> simp only [same, Bool.false_eq_true] at h
    rw [fault?, Range.fault?_eq_none_of_same h (Option.map_eq_none_iff.mp hd), Option.map_none]
  | version b =>
    cases d <;> simp only [same, Bool.false_eq_true] at h
    rwa [eq_of_beq h]

theorem Caveat.accepts_congr {c d : Caveat} (h : c.same d = true) (v : Value) :
    c.accepts v = d.accepts v := by
  cases c with
  | oneOf keys =>
    cases d <;> simp only [same, Bool.false_eq_true] at h
    rw [eq_of_beq h]
  | pattern p =>
    cases d <;> simp only [same, Bool.false_eq_true] at h
    rw [Pattern.eq_of_source (eq_of_beq h)]
  | range r =>
    cases d <;> simp only [same, Bool.false_eq_true] at h
    exact Range.accepts_congr h v
  | version b =>
    cases d <;> simp only [same, Bool.false_eq_true] at h
    rw [eq_of_beq h]

namespace Predicate

variable {p q : Predicate}

theorem same_iff : p.same q = true ↔ p.kind = q.kind ∧ p.path = q.path ∧
    p.caveat.same q.caveat = true ∧ p.weight.same q.weight = true ∧ p.override = q.override := by
  simp only [same, Bool.and_eq_true, beq_iff_eq, and_assoc]

theorem fault?_eq_none_of_same (h : p.same q = true) (hq : q.fault? = none) : p.fault? = none := by
  obtain ⟨-, hpath, hcaveat, hweight, -⟩ := same_iff.mp h
  obtain ⟨hqpath, hqweight, hqcaveat⟩ := fault?_eq_none_iff.mp hq
  exact fault?_eq_none_iff.mpr ⟨hpath ▸ hqpath, (Binary64.isFinite_eq_of_same hweight).trans hqweight,
    Caveat.fault?_eq_none_of_same hcaveat hqcaveat⟩

-- Predicates that are written alike say the same of every document.
theorem evaluate_congr (h : p.same q = true) (doc : Document) : p.evaluate doc = q.evaluate doc := by
  obtain ⟨hkind, hpath, hcaveat, -, hoverride⟩ := same_iff.mp h
  have hdefault : p.defaultResult = q.defaultResult := by
    rw [defaultResult, defaultResult, naturalDefault, naturalDefault, isExcluded, isExcluded, hkind,
      hoverride]
  have haccepts : p.caveat.accepts = q.caveat.accepts := funext (Caveat.accepts_congr hcaveat)
  rw [evaluate, evaluate, hpath, hdefault, isExcluded, isExcluded, hkind, haccepts]

end Predicate

theorem forall₂_iff_all_zip {α : Type} {f : α → α → Bool} {l m : List α} :
    (l.length == m.length && (l.zip m).all fun e => f e.1 e.2) = true ↔
      List.Forall₂ (fun x y => f x y = true) l m := by
  induction l generalizing m with
  | nil => cases m <;> simp
  | cons x l ih =>
    cases m with
    | nil => simp
    | cons y m =>
      rw [List.forall₂_cons, ← ih]
      simp only [List.length_cons, List.zip_cons_cons, List.all_cons, Bool.and_eq_true, beq_iff_eq,
        Nat.add_right_cancel_iff]
      tauto

-- What is alike for related elements is alike for their lists.
section Related

variable {α : Type} {r : α → α → Prop} {f : α → Bool} {l m : List α}

theorem any_eq_of_forall₂ (h : List.Forall₂ r l m) (hf : ∀ x y, r x y → f x = f y) :
    l.any f = m.any f := by
  induction h with
  | nil => rfl
  | cons hxy _ ih => rw [List.any_cons, List.any_cons, hf _ _ hxy, ih]

theorem all_eq_of_forall₂ (h : List.Forall₂ r l m) (hf : ∀ x y, r x y → f x = f y) :
    l.all f = m.all f := by
  induction h with
  | nil => rfl
  | cons hxy _ ih => rw [List.all_cons, List.all_cons, hf _ _ hxy, ih]

end Related

namespace Clause

variable {c d : Clause}

theorem sameAs_iff : c.sameAs d = true ↔ List.Forall₂ (fun p q => p.same q = true) c d :=
  forall₂_iff_all_zip

theorem holdsAll_congr (h : List.Forall₂ (fun p q : Predicate => p.same q = true) c d)
    (doc : Document) : c.holdsAll doc = d.holdsAll doc :=
  all_eq_of_forall₂ h fun _ _ hpq => Predicate.evaluate_congr hpq doc

theorem holdsAny_congr (h : List.Forall₂ (fun p q : Predicate => p.same q = true) c d)
    (doc : Document) : c.holdsAny doc = d.holdsAny doc :=
  any_eq_of_forall₂ h fun _ _ hpq => Predicate.evaluate_congr hpq doc

end Clause

namespace Definition

variable {d e : Definition}

theorem same_iff : d.same e = true ↔ d.id = e.id ∧ d.form = e.form ∧
    List.Forall₂ (List.Forall₂ fun p q : Predicate => p.same q = true) d.clauses e.clauses := by
  have hclauses := forall₂_iff_all_zip (f := Clause.sameAs) (l := d.clauses) (m := e.clauses)
  simp only [Clause.sameAs_iff] at hclauses
  rw [← hclauses]
  simp only [same, Bool.and_eq_true, beq_iff_eq, and_assoc]

theorem fault?_eq_none_of_same (h : d.same e = true) (he : e.fault? = none) : d.fault? = none := by
  obtain ⟨hid, -, hclauses⟩ := same_iff.mp h
  obtain ⟨heid, heclauses, hvalid⟩ := fault?_eq_none_iff.mp he
  refine fault?_eq_none_iff.mpr ⟨hid ▸ heid, ?_, fun c hc => ?_⟩
  · rintro hnil
    rw [hnil] at hclauses
    exact heclauses (List.forall₂_nil_left_iff.mp hclauses)
  · obtain ⟨c', hc', hcc⟩ := exists_of_forall₂ hclauses hc
    obtain ⟨hne, hpredicates⟩ := hvalid c' hc'
    refine ⟨?_, fun p hp => ?_⟩
    · rintro rfl
      exact hne (List.forall₂_nil_left_iff.mp hcc)
    · obtain ⟨p', hp', hpp⟩ := exists_of_forall₂ hcc hp
      exact Predicate.fault?_eq_none_of_same hpp (hpredicates p' hp')

-- Definitions that are written alike hold of the same documents.
theorem evaluate_congr (h : d.same e = true) (doc : Document) : d.evaluate doc = e.evaluate doc := by
  obtain ⟨-, hform, hclauses⟩ := same_iff.mp h
  rw [evaluate, evaluate, hform]
  cases e.form with
  | dnf => exact any_eq_of_forall₂ hclauses fun _ _ hcd => Clause.holdsAll_congr hcd doc
  | cnf => exact all_eq_of_forall₂ hclauses fun _ _ hcd => Clause.holdsAny_congr hcd doc

end Definition

end Targeting
