import Mathlib
import Targeting.Proofs.DefinitionText.Reading
import Targeting.Proofs.DefinitionText.Writing
import Targeting.Proofs.Group.Loading
import Targeting.Proofs.Value.KeySet

namespace Targeting

-- What can be written in the format. A set of values has no keys that are no value's, and an absent
-- bound is not inclusive.
def Caveat.Expressible : Caveat → Prop
  | oneOf keys => ∀ k ∈ keys.toList, ∃ v : Value, v.key = k
  | range r => (r.lo = none → r.loInclusive = false) ∧ (r.hi = none → r.hiInclusive = false)
  | pattern _ => True
  | version _ => True

def Predicate.Expressible (p : Predicate) : Prop :=
  (∃ path : DefinitionText.Path, path.name = p.path) ∧ p.caveat.Expressible

def Definition.Expressible (d : Definition) : Prop :=
  ∀ c ∈ d.clauses, ∀ p ∈ c, p.Expressible

namespace DefinitionText

open Reader

theorem gives_path : Gives path fun name => ∃ p : Path, p.name = name := by
  intro cs name rest h
  cases cs with
  | nil => cases h
  | cons c cs =>
    rw [path] at h
    split at h
    next hc =>
      cases h
      refine ⟨⟨c, cs.takeWhile fun c => isWordChar c || c == '.', hc, fun d hd => ?_⟩, rfl⟩
      have hd := List.mem_takeWhile_imp hd
      exact hd
    next => cases h

theorem gives_valueList : Gives valueList Caveat.Expressible := by
  refine .of_rest fun _ => .of_rest fun values => .of_rest fun _ => .pure fun k hk => ?_
  obtain ⟨v, -, hv⟩ := KeySet.mem_ofValues.mp hk
  exact ⟨v, hv⟩

theorem gives_range : Gives range Caveat.Expressible := by
  refine .of_rest fun _ => .of_rest fun loInclusive => .of_rest fun lo => .of_rest fun _ =>
    .of_rest fun hi => .of_rest fun _ => .of_rest fun hiInclusive => .pure ⟨?_, ?_⟩
  · rintro rfl
    exact Bool.and_false loInclusive
  · rintro rfl
    exact Bool.and_false hiInclusive

theorem gives_caveat : Gives caveat Caveat.Expressible := by
  refine .expecting _ (.orElse ?_ (.orElse ?_ (.orElse ?_ ?_)))
  · exact .of_rest fun _ => .of_rest fun _ => gives_range.commit
  · exact .of_rest fun _ => gives_valueList.commit
  · exact .of_rest fun _ => .of_rest fun _ => .of_rest fun _ => .pure trivial
  · exact .of_rest fun _ => .of_rest fun _ => .of_rest fun _ => .of_rest fun _ =>
      .of_rest fun _ => .pure trivial

theorem gives_predicate : Gives predicate Predicate.Expressible := by
  refine .of_rest fun _ => (gives_path.expecting _).bind fun name hname => .of_rest fun negated =>
    gives_caveat.commit.bind fun c hc => .of_rest fun weight => .of_rest fun override => .pure ?_
  cases negated <;> cases weight <;> cases override <;> exact ⟨hname, hc⟩

theorem gives_clause (joiner : String) :
    Gives (clause joiner) fun c => ∀ p ∈ c, p.Expressible := by
  refine .of_rest fun _ => gives_predicate.commit.bind fun first hfirst => ?_
  refine .bind (Gives.many (.of_rest fun _ => gives_predicate.commit)) fun more hmore => ?_
  exact .of_rest fun _ => .pure (List.forall_mem_cons.mpr ⟨hfirst, hmore⟩)

theorem gives_definition : Gives definition Definition.Expressible := by
  refine .of_rest fun form => .of_rest fun _ => .of_rest fun id => .of_rest fun _ => ?_
  have hclauses (inner outer : String) : Gives (do
      let first ← expecting "clause" (commit (clause inner))
      let more ← many (do keyword outer; commit (clause inner))
      closing "\x7d"
      return (⟨id, form, first :: more⟩ : Definition)) Definition.Expressible := by
    refine ((gives_clause inner).commit.expecting _).bind fun first hfirst => ?_
    refine .bind (Gives.many (.of_rest fun _ => (gives_clause inner).commit)) fun more hmore => ?_
    exact .of_rest fun _ => .pure (List.forall_mem_cons.mpr ⟨hfirst, hmore⟩)
  cases form with
  | dnf => exact hclauses "and" "or"
  | cnf => exact hclauses "or" "and"

theorem gives_definitions : Gives definitions fun all => ∀ d ∈ all, d.Expressible :=
  (Gives.many gives_definition).bind fun _ h => .of_rest fun _ => .pure h

end DefinitionText

theorem Definition.expressible_of_readAll {text : String} {all : List Definition}
    (h : readAll text = .ok all) : ∀ d ∈ all, d.Expressible := by
  rw [readAll] at h
  dsimp only at h
  split at h
  next hread =>
    cases h
    exact DefinitionText.gives_definitions _ _ _ hread
  next => cases h
  next => cases h

-- What a text defines can be written in the format.
theorem Criteria.expressible_of_readAll {text : String} {all : List Criteria}
    (h : readAll text = .ok all) {c : Criteria} (hc : c ∈ all) : c.Expressible :=
  Definition.expressible_of_readAll (readAll_eq_ok_iff.mp h) _ (List.mem_map_of_mem hc)

end Targeting
