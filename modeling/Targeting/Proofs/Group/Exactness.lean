import Mathlib
import Targeting.Audit
import Targeting.Proofs.Group.Placement
import Targeting.Proofs.Index.Answer

namespace Targeting

namespace Audit

-- What is the same is no mismatch.
theorem mismatchKind?_eq_none {x y : Option Binary64} (h : Binary64.SameScore x y) :
    mismatchKind? x y = none := by
  have hpositive : tolerance.negative = false := Binary64.negative_ofDecimal _ _
  cases h with
  | none => rfl
  | some hsame => rw [mismatchKind?, if_neg (Binary64.not_lt_abs_sub hpositive hsame)]

theorem mismatches_eq_nil {indexed scanned : MatchSet} (document : Nat)
    (h : ∀ id, Binary64.SameScore (indexed.score? id) (scanned.score? id)) :
    mismatches document indexed scanned = [] := by
  rw [mismatches, List.filterMap_eq_nil_iff]
  intro id _
  rw [mismatchKind?_eq_none (h id)]
  rfl

end Audit

namespace Group

-- The scores of some criteria on a document.
def scored (held : SortedMap String Criteria) (doc : Document) : SortedMap String Binary64 :=
  held.filterMap fun _ c => c.score? doc

section Finding

variable {g : Group} {doc : Document} {found : MatchSet} {place : Placement} {id : String}

-- What is found is, for each id, the score of the criteria that a place holds under it.
def Finds (g : Group) (place : Placement) (doc : Document) (found : MatchSet) : Prop :=
  ∀ id, Binary64.SameScore (found.score? id) (((g.held place).find? id).bind (·.score? doc))

theorem Finds.eq_none (h : g.Finds place doc found)
    (hplace : (g.get? id).map Criteria.placement ≠ some place) : found.score? id = none := by
  have hid := h id
  rw [find?_held_of_ne hplace] at hid
  generalize found.score? id = score at hid ⊢
  cases hid
  rfl

theorem Finds.same {c : Criteria} (h : g.Finds place doc found) (hc : g.get? id = some c)
    (hplace : c.placement = place) : Binary64.SameScore (found.score? id) (c.score? doc) := by
  have hid := h id
  rwa [find?_held_of_eq hc hplace] at hid

end Finding

-- Searching finds what scanning finds.
structure Exact (g : Group) : Prop where
  search : ∀ doc, ∃ found, g.search doc = .ok found ∧ found.ids = (Audit.scan g doc).ids ∧
    ∀ id, Binary64.SameScore (found.score? id) ((Audit.scan g doc).score? id)
  scan : ∀ doc id, id ∈ (Audit.scan g doc).ids ↔ ∃ c ∈ g.toList, c.id = id ∧ c.evaluate doc = true
  ratify : ∀ docs, Audit.ratify g docs = .ok ⟨docs.length, []⟩

namespace Placed

variable {g : Group}

theorem score?_scan (h : g.Placed) (doc : Document) (id : String) :
    (Audit.scan g doc).score? id = (g.get? id).bind (·.score? doc) := by
  have hentries : g.toList.filterMap (fun c => (c.score? doc).map fun score => (c.id, score))
      = (scored g.stored doc).entries := by
    rw [toList, SortedMap.values, List.filterMap_map]
    refine List.filterMap_congr fun e he => ?_
    rw [Function.comp_apply, h.keyed e.1 e.2 (SortedMap.mem_entries_iff.mp he)]
  have hscan : Audit.scan g doc = MatchSet.empty.insertAll
      (g.toList.filterMap fun c => (c.score? doc).map fun score => (c.id, score)) :=
    MatchSet.foldl_insertMax_eq g.toList (fun c => c.score? doc) (fun c => c.id) .empty
  rw [hscan, hentries, MatchSet.score?_insertAll_entries _ fun _ _ _ => rfl, scored,
    SortedMap.find?_filterMap, MatchSet.score?_empty, Option.or_none]
  rfl

theorem suits (h : g.Placed) (form : Form) : (g.index form).Suits (g.held (.indexed form)) := by
  intro id c hc
  rw [find?_held, Option.filter_eq_some_iff] at hc
  have hplace := hc.2
  rw [Criteria.placement_eq_indexed, Bool.and_eq_true] at hplace
  rw [h.form]
  exact ⟨by simpa using hplace.2, hplace.1⟩

section Parts

variable {doc : Document} {dnf cnf : MatchSet}

theorem find?_scored (h : g.Placed) (doc : Document) (id : String) :
    (scored g.residual doc).find? id = ((g.held .residual).find? id).bind (·.score? doc) := by
  rw [scored, SortedMap.find?_filterMap, h.residual]

variable (h : g.Placed) (hdnf : g.Finds (.indexed .dnf) doc dnf)
  (hcnf : g.Finds (.indexed .cnf) doc cnf)

include h hdnf hcnf in
-- The parts of a group are disjoint, so that nothing hides anything when they are put together.
theorem score?_parts (id : String) :
    Binary64.SameScore (((dnf.merge cnf).insertAll (scored g.residual doc).entries).score? id)
      ((g.get? id).bind (·.score? doc)) := by
  have hnew : ∀ id score, (scored g.residual doc).find? id = some score →
      (dnf.merge cnf).score? id = none := by
    intro id score hscore
    have hplace : (g.get? id).map Criteria.placement = some .residual := by
      by_contra hplace
      rw [find?_scored h, find?_held_of_ne hplace] at hscore
      cases hscore
    rw [MatchSet.score?_merge, hdnf.eq_none (by simp [hplace]), hcnf.eq_none (by simp [hplace])]
    rfl
  rw [MatchSet.score?_insertAll_entries _ hnew, MatchSet.score?_merge, find?_scored h]
  cases hc : g.get? id with
  | none =>
    rw [hdnf.eq_none (by simp [hc]), hcnf.eq_none (by simp [hc]), find?_held_of_ne (by simp [hc])]
    exact .none
  | some c =>
    match hplace : c.placement with
    | .indexed .dnf =>
      rw [hcnf.eq_none (by simp [hc, hplace]), find?_held_of_ne (by simp [hc, hplace])]
      simpa using hdnf.same hc hplace
    | .indexed .cnf =>
      rw [hdnf.eq_none (by simp [hc, hplace]), find?_held_of_ne (by simp [hc, hplace])]
      simpa using hcnf.same hc hplace
    | .residual =>
      rw [hdnf.eq_none (by simp [hc, hplace]), hcnf.eq_none (by simp [hc, hplace]),
        find?_held_of_eq hc hplace]
      cases hscore : c.score? doc with
      | none => simp [hscore]
      | some score => simpa [hscore] using Binary64.same_refl (Criteria.isNaN_score? hscore)

end Parts

theorem search (h : g.Placed) (doc : Document) :
    ∃ found, g.search doc = .ok found ∧
      ∀ id, Binary64.SameScore (found.score? id) ((g.get? id).bind (·.score? doc)) := by
  obtain ⟨dnf, hdnf, hdnfScores⟩ := (h.index .dnf).search (h.suits .dnf) doc
  obtain ⟨cnf, hcnf, hcnfScores⟩ := (h.index .cnf).search (h.suits .cnf) doc
  have hresidual := MatchSet.foldl_insertMax_eq g.residual.entries
    (fun e => e.2.score? doc) (fun e => e.1) (dnf.merge cnf)
  refine ⟨_, ?_, score?_parts h hdnfScores hcnfScores⟩
  rw [Group.search, show g.dnf.search doc = .ok dnf from hdnf,
    show g.cnf.search doc = .ok cnf from hcnf]
  exact congrArg Except.ok hresidual

-- An audit finds nothing.
theorem ratify (h : g.Placed) (docs : List Document) :
    Audit.ratify g docs = .ok ⟨docs.length, []⟩ := by
  have hclean : (fun e : Document × Nat => (g.search e.1).map fun indexed =>
      Audit.mismatches e.2 indexed (Audit.scan g e.1)) = fun _ => pure [] := by
    funext e
    obtain ⟨found, hfound, hscores⟩ := h.search e.1
    have hnone : Audit.mismatches e.2 found (Audit.scan g e.1) = [] :=
      Audit.mismatches_eq_nil e.2 fun id => by
        rw [h.score?_scan]
        exact hscores id
    rw [hfound, Except.map, hnone]
    rfl
  rw [Audit.ratify, hclean, List.mapM_pure]
  simp
  rfl

theorem exact (h : g.Placed) : g.Exact where
  search doc := by
    obtain ⟨found, hfound, hscores⟩ := h.search doc
    have hscan : ∀ id, Binary64.SameScore (found.score? id) ((Audit.scan g doc).score? id) := by
      intro id
      rw [h.score?_scan]
      exact hscores id
    exact ⟨found, hfound, MatchSet.ids_eq fun id => (hscan id).isSome_eq, hscan⟩
  scan doc id := by
    rw [MatchSet.mem_ids, h.score?_scan, get?]
    simp only [← Definition.isSome_score?, toList, SortedMap.mem_values]
    constructor
    · intro hsome
      obtain ⟨score, hscore⟩ := Option.isSome_iff_exists.mp hsome
      obtain ⟨c, hc, hscore⟩ := Option.bind_eq_some_iff.mp hscore
      exact ⟨c, ⟨id, hc⟩, h.keyed id c hc, by rw [hscore]; rfl⟩
    · rintro ⟨c, ⟨key, hc⟩, hid, hscore⟩
      rw [← hid, h.keyed key c hc, hc]
      exact hscore
  ratify := h.ratify

end Placed

-- After any run searching finds what scanning finds.
theorem run_exact (name : String) (config : GroupConfig) (changes : List Change) :
    ((empty name config).run changes).Exact :=
  ((Placed.empty name config).run changes).exact

end Group

end Targeting
