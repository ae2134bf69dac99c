import Mathlib
import Targeting.Pattern.Standard
import Targeting.Proofs.Pattern.Anchored
import Targeting.Proofs.Pattern.Spans

namespace Targeting.Pattern

-- A pattern is tested against whole texts, with its source read by itself, and is refused where its
-- source is not well formed by itself.
structure FullMatch [Engine] (p : Pattern) : Prop where
  rejects : read? p.source.toList = none →
    (Caveat.pattern p).fault? = some (.invalidPattern p.source)
  accepts_iff : (Caveat.pattern p).fault? = none →
    ∃ n, read? p.source.toList = some n ∧ ∀ s : String,
      (Caveat.pattern p).accepts (.text s) = true ↔ n.expr.Spans s.toList 0 s.toList.length

section Engines

variable [Engine] {p : Pattern}

theorem fault?_eq (p : Pattern) :
    (Caveat.pattern p).fault? = if p.isValid then none else some (.invalidPattern p.source) := rfl

-- The program of a valid pattern is what its anchored source means.
theorem exists_of_isValid (h : p.isValid = true) :
    ∃ n, read? (anchored p.source) = some n ∧ p.program = some n.expr := by
  obtain ⟨e, he⟩ := Option.isSome_iff_exists.mp h
  have hcompiled := p.program_eq.symm.trans he
  obtain ⟨n, hn, hadmits⟩ := Option.bind_eq_some_iff.mp hcompiled
  split at hadmits
  next => exact ⟨n, hn, by rw [he, ← hadmits]⟩
  next => cases hadmits

theorem FullMatch.opened (h : p.FullMatch) (hvalid : p.isValid = true) :
    closesGroup p.source = false := by
  by_contra hcloses
  have hnone := read?_of_closesGroup (Bool.eq_true_of_not_eq_false hcloses)
  have hrejected := h.rejects hnone
  rw [fault?_eq, hvalid] at hrejected
  cases hrejected

theorem fullMatch_of_refused (h : p.isValid = false) : p.FullMatch where
  rejects _ := by rw [fault?_eq, h]; rfl
  accepts_iff hvalid := by
    rw [fault?_eq, h] at hvalid
    cases hvalid

theorem fullMatch_of_opened (hvalid : p.isValid = true) (hopen : closesGroup p.source = false) :
    p.FullMatch := by
  obtain ⟨n, hn, hprogram⟩ := exists_of_isValid hvalid
  obtain ⟨inner, hinner, hexpr⟩ := read?_of_anchored hn hopen
  constructor
  · intro hnone
    rw [hinner] at hnone
    cases hnone
  · intro _
    refine ⟨inner, hinner, fun s => ?_⟩
    have haccepts : (Caveat.pattern p).accepts (.text s) =
        (Expr.seq (.seq (.look .textStart) inner.expr) (.look .textEnd)).findsIn s.toList := by
      rw [Caveat.accepts, Value.asText?, Option.any_some, accepts, hprogram, hexpr]
    rw [haccepts]
    exact Expr.findsIn_anchored_iff s.toList inner.expr

-- Whatever the engine takes for properties and limits, the patterns that are not as they should be are
-- those that are valid and close a group they do not open, which of the valid ones are those that are
-- not well formed by themselves.
theorem fullMatch_iff_opened (p : Pattern) :
    (p.FullMatch ↔ (p.isValid = true → closesGroup p.source = false)) ∧
      (p.isValid = true → (closesGroup p.source = true ↔ read? p.source.toList = none)) := by
  refine ⟨⟨FullMatch.opened, fun hopen => ?_⟩, fun hvalid => ?_⟩
  · cases hvalid : p.isValid with
    | false => exact fullMatch_of_refused hvalid
    | true => exact fullMatch_of_opened hvalid (hopen hvalid)
  · obtain ⟨n, hn, -⟩ := exists_of_isValid hvalid
    exact closesGroup_iff_of_anchored (Option.isSome_of_eq_some hn)

end Engines

theorem fullMatch_nested :
    (Caveat.pattern (ofSource "a(b|\\)c)*")).fault? = none ∧ (ofSource "a(b|\\)c)*").FullMatch :=
  ⟨by decide +kernel, (fullMatch_iff_opened _).1.mpr fun _ => by decide +kernel⟩

-- A source that closes the group around it, and opens another for the parenthesis behind it, splits
-- the anchors into two branches.
theorem not_fullMatch_rebalanced :
    (Caveat.pattern (ofSource "a)|(?:b")).fault? = none ∧
      (Caveat.pattern (ofSource "a)|(?:b")).accepts (.text "abc") = true ∧
      ¬ (ofSource "a)|(?:b").FullMatch := by
  have hvalid : (ofSource "a)|(?:b").isValid = true := by decide +kernel
  refine ⟨by decide +kernel, by decide +kernel, fun h => ?_⟩
  have hcloses : closesGroup "a)|(?:b" = true := by decide +kernel
  have hopen : closesGroup "a)|(?:b" = false := h.opened hvalid
  rw [hcloses] at hopen
  cases hopen

end Targeting.Pattern
