import Mathlib
import Targeting.Proofs.Criteria.Scores
import Targeting.Proofs.Index.Counting
import Targeting.Proofs.Index.Meeting

namespace Targeting.Index

namespace Term

theorem eq_of_ordinal {clauses : List Clause} {t u : Term} (ht : t ∈ ofFormula clauses)
    (hu : u ∈ ofFormula clauses) (h : t.ordinal = u.ordinal) : t = u := by
  obtain ⟨d, hd, rfl⟩ := List.mem_map.mp ht
  obtain ⟨e, he, rfl⟩ := List.mem_map.mp hu
  change d.2 = e.2 at h
  rw [List.mem_zipIdx_iff_getElem?] at hd he
  rw [h, he] at hd
  rw [Prod.ext (Option.some.inj hd).symm h]

theorem nodup_ordinals (clauses : List Clause) : ((ofFormula clauses).map ordinal).Nodup := by
  have hsnd : (ofFormula clauses).map ordinal
      = (clauses.zipIdx.flatMap fun e => e.1.map fun p => (p, e.2)).zipIdx.map Prod.snd := by
    rw [ofFormula, List.map_map]
    rfl
  rw [hsnd, List.zipIdx_map_snd]
  exact List.nodup_range'

theorem map_fst_filter_flatMap {α : Type} (lists : List (List α)) (n d : Nat) :
    (((lists.zipIdx n).flatMap fun e => e.1.map fun x => (x, e.2)).filter
        fun e => decide (e.2 = n + d)).map Prod.fst = lists[d]?.getD [] := by
  induction lists generalizing n d with
  | nil => rfl
  | cons l rest ih =>
    rw [List.zipIdx_cons, List.flatMap_cons, List.filter_append, List.map_append]
    cases d with
    | zero =>
      have hfirst : (l.map fun x => (x, n)).filter (fun e => decide (e.2 = n + 0))
          = l.map fun x => (x, n) := List.filter_eq_self.mpr (by simp)
      have hrest : ((rest.zipIdx (n + 1)).flatMap fun e => e.1.map fun x => (x, e.2)).filter
          (fun e => decide (e.2 = n + 0)) = [] := by
        refine List.filter_eq_nil_iff.mpr fun e he => ?_
        obtain ⟨c, hc, he⟩ := List.mem_flatMap.mp he
        obtain ⟨x, -, rfl⟩ := List.mem_map.mp he
        have hle := (List.mem_zipIdx hc).1
        simp only [decide_eq_true_eq]
        omega
      rw [hfirst, hrest]
      simp [Function.comp_def]
    | succ d =>
      have hfirst : (l.map fun x => (x, n)).filter (fun e => decide (e.2 = n + (d + 1))) = [] :=
        List.filter_eq_nil_iff.mpr (by simp)
      have hnext : n + (d + 1) = n + 1 + d := by omega
      rw [hfirst, hnext, ih, List.map_nil, List.nil_append, List.getElem?_cons_succ]

-- The terms of one disjunction, in their order.
theorem filter_ofFormula (clauses : List Clause) (d : Nat) :
    ((ofFormula clauses).filter fun t => decide (t.slot = d)).map predicate
      = clauses[d]?.getD [] := by
  have hflat := map_fst_filter_flatMap clauses 0 d
  rw [Nat.zero_add] at hflat
  rw [← hflat, ofFormula, List.filter_map, List.map_map]
  conv_rhs => rw [← List.zipIdx_map_fst 0 (clauses.zipIdx.flatMap _), List.filter_map, List.map_map]
  rfl

end Term

-- What a tally decides of its disjunction: whether it holds, and the best of the weights that count.
structure Tally.Decides (t : Tally) (clause : Clause) (doc : Document) : Prop where
  holds : t.holds = clause.holdsAny doc
  best : clause.PeaksAt doc (t.best.getD .zero)

section Disjunction

variable {clause : Clause} {doc : Document}

-- The exclusions that hit are as many as there are when each of them does.
theorem countP_excluded_hits_iff :
    (clause.countP fun p => p.isExcluded && p.hits doc) = clause.excludedCount ↔
      ∀ p ∈ clause, p.isExcluded = true → p.hits doc = true := by
  have hfilter : (clause.countP fun p => p.isExcluded && p.hits doc)
      = (clause.filter Predicate.isExcluded).countP (·.hits doc) := by
    rw [List.countP_filter]
    simp only [Bool.and_comm]
  rw [hfilter, Clause.excludedCount, List.countP_eq_length_filter (p := Predicate.isExcluded),
    List.countP_eq_length]
  simp only [List.mem_filter, and_imp]

variable (hnatural : ∀ p ∈ clause, p.hasNaturalDefault = true) {weights : List Binary64}
  (hweights : ∀ w, w ∈ weights ↔
    ∃ p ∈ clause, (p.isIncluded = true ∧ p.hits doc = true) ∧ p.weight = w)

include hnatural hweights in
theorem mem_holding_weights {w : Binary64} : w ∈ clause.holdingWeights doc ↔ w ∈ weights := by
  rw [hweights, Clause.mem_holdingWeights]
  refine exists_congr fun p => and_congr_right fun hp => ?_
  rw [Predicate.evaluate_eq (hnatural p hp), p.isExcluded_eq]
  cases p.isIncluded <;> simp

include hnatural hweights in
-- When nothing included hits, a disjunction holds as long as an exclusion does not hit.
theorem holdsAny_eq_false_iff (hnil : weights = []) : clause.holdsAny doc = false ↔
    ∀ p ∈ clause, p.isExcluded = true → p.hits doc = true := by
  rw [Clause.holdsAny, List.any_eq_false]
  refine forall₂_congr fun p hp => ?_
  rw [Predicate.evaluate_eq (hnatural p hp)]
  cases hkind : p.isExcluded with
  | true => simp
  | false =>
    have hincluded : p.isIncluded = true := by simpa [p.isExcluded_eq] using hkind
    have hhits : ¬ p.hits doc = true := by
      intro hhits
      have hmem := (hweights p.weight).mpr ⟨p, hp, ⟨hincluded, hhits⟩, rfl⟩
      rw [hnil] at hmem
      cases hmem
    simp [hhits]

include hnatural hweights in
theorem Tally.Counts.decides {tally : Tally}
    (htally : tally.Counts (-(clause.excludedCount : Int)) weights
      (clause.countP fun p => p.isExcluded && p.hits doc)) : tally.Decides clause doc := by
  have hholding (w : Binary64) : w ∈ weights ↔ w ∈ clause.holdingWeights doc :=
    (mem_holding_weights hnatural hweights).symm
  cases htally with
  | excluding hnil hbest hcount =>
    -- Without an inclusion that hits, the counter is at zero when every exclusion does.
    have hiff : tally.holds = false ↔ clause.holdsAny doc = false := by
      rw [holdsAny_eq_false_iff hnatural hweights hnil, ← countP_excluded_hits_iff, Tally.holds,
        hcount, bne_eq_false_iff_eq]
      omega
    refine ⟨Bool.eq_iff_iff.mpr (not_iff_not.mp (by simpa using hiff)), ?_⟩
    rw [hbest]
    refine .excluding (List.eq_nil_iff_forall_not_mem.mpr fun w hw => ?_)
      (Binary64.same_refl Binary64.isNaN_zero)
    rw [← hholding, hnil] at hw
    cases hw
  | including best hbest hisBest hcount =>
    have hisBest := hisBest.congr hholding
    obtain ⟨w, hw, -⟩ := hisBest.attained
    obtain ⟨p, hp, heval, -⟩ := Clause.mem_holdingWeights.mp hw
    have hany : clause.holdsAny doc = true := List.any_eq_true.mpr ⟨p, hp, heval⟩
    refine ⟨?_, ?_⟩
    · rw [hany, Tally.holds, bne_iff_ne]
      omega
    · rw [hbest]
      exact .best hisBest

end Disjunction

section Decided

variable {tallies : List Tally} {clauses : List Clause} {doc : Document}

theorem all_holds_eq
    (h : List.Forall₂ (fun c tally => Tally.Decides tally c doc) clauses tallies) :
    tallies.all Tally.holds = clauses.all fun c => Clause.holdsAny c doc := by
  induction h with
  | nil => rfl
  | cons hfirst _ ih => rw [List.all_cons, List.all_cons, hfirst.holds, ih]

theorem forall₂_bests
    (h : List.Forall₂ (fun c tally => Tally.Decides tally c doc) clauses tallies) :
    List.Forall₂ (fun c best => Clause.PeaksAt c doc best) clauses
      (tallies.map fun tally => tally.best.getD .zero) :=
  List.forall₂_map_right_iff.mpr (h.imp fun _ _ hdecides => hdecides.best)

-- Tallies that decide the disjunctions of a formula give its score.
theorem sameScore_of_decides (hvalid : ∀ c ∈ clauses, ∀ p ∈ c, p.fault? = none)
    (h : List.Forall₂ (fun c tally => Tally.Decides tally c doc) clauses tallies)
    (excluded : List Nat) :
    Binary64.SameScore (Tallies.mk tallies excluded).score?
      ((clauses.mapM fun c => Clause.disjunctionScore? c doc).map Binary64.sum) := by
  have hsome := isSome_mapM (fun c => Clause.disjunctionScore? c doc) clauses
  simp only [Clause.isSome_disjunctionScore?] at hsome
  rw [Tallies.score?, all_holds_eq h, ← hsome]
  cases hscores : clauses.mapM fun c => Clause.disjunctionScore? c doc with
  | none => exact .none
  | some scores =>
    have hbests := forall₂_bests h
    have hsame := Clause.forall₂_same_peaks hbests (Clause.forall₂_peaks hvalid hscores)
    refine .some (Binary64.same_sum hsame fun best hbest => ?_)
    obtain ⟨c, hc, hpeaks⟩ := exists_of_forall₂ hbests.flip hbest
    exact Binary64.isInfinite_of_isFinite (hpeaks.isFinite (hvalid c hc))

end Decided

section Postings

variable {internalId : Nat} {externalId : String} {clauses : List Clause} {doc : Document}
  {postings : List Posting}

theorem mem_met_formula {q : Posting} :
    q ∈ (stageFormula internalId externalId clauses).met doc ↔
      (∃ t ∈ Term.ofFormula clauses, t.predicate.hits doc = true ∧
        q = t.posting internalId externalId) ∨
        (clauses.countP fun c => c.excludedCount == 0) = 0 ∧ q = .sentinel internalId externalId := by
  rw [Term.stageFormula_eq, Staged.mem_met_make]

variable (hvalid : ∀ c ∈ clauses, ∀ p ∈ c, p.fault? = none)
  (h : ∀ q, q ∈ postings ↔ q ∈ (stageFormula internalId externalId clauses).met doc)

include hvalid h in
theorem countable_of_met :
    Countable (stageFormula internalId externalId clauses).metadata.seeds postings where
  slot q hq := by
    rcases mem_met_formula.mp ((h q).mp hq) with ⟨t, ht, -, rfl⟩ | ⟨-, rfl⟩
    · obtain ⟨c, hc, -⟩ := Term.predicate_mem_of_mem_ofFormula ht
      obtain ⟨hlt, -⟩ := List.getElem?_eq_some_iff.mp hc
      exact .inr ⟨t.slot, by simpa [stageFormula, Staged.make] using hlt, rfl⟩
    · exact .inl ⟨rfl, rfl⟩
  weight q hq := by
    rcases mem_met_formula.mp ((h q).mp hq) with ⟨t, ht, -, rfl⟩ | ⟨-, rfl⟩
    · obtain ⟨c, hc, hp⟩ := Term.predicate_mem_of_mem_ofFormula ht
      have hfault := hvalid c (List.mem_of_getElem? hc) _ hp
      exact Binary64.isNaN_of_isFinite (Predicate.fault?_eq_none_iff.mp hfault).2.1
    · exact Binary64.isNaN_zero
  ordinal p hp q hq hpkind hqkind hordinal := by
    rcases mem_met_formula.mp ((h p).mp hp) with ⟨t, ht, -, rfl⟩ | ⟨-, rfl⟩
    · rcases mem_met_formula.mp ((h q).mp hq) with ⟨u, hu, -, rfl⟩ | ⟨-, rfl⟩
      · rw [Term.eq_of_ordinal ht hu hordinal]
      · cases hqkind
    · cases hpkind

variable {d : Nat} {clause : Clause} (hd : clauses[d]? = some clause)

include h hd in
theorem mem_includedAt_iff {weight : Binary64} :
    weight ∈ includedAt postings d ↔
      ∃ p ∈ clause, (p.isIncluded = true ∧ p.hits doc = true) ∧ p.weight = weight := by
  simp only [includedAt, List.mem_map, List.mem_filter, decide_eq_true_eq, h, mem_met_formula]
  constructor
  · rintro ⟨q, ⟨⟨t, ht, hhits, rfl⟩ | ⟨-, rfl⟩, hkind, hslot⟩, rfl⟩
    · obtain ⟨c, hc, hp⟩ := Term.predicate_mem_of_mem_ofFormula ht
      cases hslot
      cases hc.symm.trans hd
      exact ⟨t.predicate, hp, ⟨beq_iff_eq.mpr hkind, hhits⟩, rfl⟩
    · cases hslot
  · rintro ⟨p, hp, ⟨hkind, hhits⟩, rfl⟩
    obtain ⟨t, ht, rfl, rfl⟩ := Term.exists_mem_ofFormula hd hp
    exact ⟨_, ⟨.inl ⟨t, ht, hhits, rfl⟩, beq_iff_eq.mp hkind, rfl⟩, rfl⟩

include h hd in
-- Each exclusion that hits is counted once, since ordinals tell them apart.
theorem card_excludedAt :
    (excludedAt postings d).card = clause.countP fun p => p.isExcluded && p.hits doc := by
  have hterms : excludedAt postings d
      = (((Term.ofFormula clauses).filter fun t => decide (t.slot = d) &&
          (t.predicate.isExcluded && t.predicate.hits doc)).map Term.ordinal).toFinset := by
    ext o
    simp only [mem_excludedAt, List.mem_toFinset, List.mem_map, List.mem_filter, h, mem_met_formula,
      Bool.and_eq_true, decide_eq_true_eq]
    constructor
    · rintro ⟨q, ⟨t, ht, hhits, rfl⟩ | ⟨-, rfl⟩, ⟨hkind, hslot⟩, rfl⟩
      · cases hslot
        exact ⟨t, ⟨ht, rfl, beq_iff_eq.mpr hkind, hhits⟩, rfl⟩
      · cases hkind
    · rintro ⟨t, ⟨ht, rfl, hkind, hhits⟩, rfl⟩
      exact ⟨_, .inl ⟨t, ht, hhits, rfl⟩, ⟨beq_iff_eq.mp hkind, rfl⟩, rfl⟩
  have hnodup : (((Term.ofFormula clauses).filter fun t => decide (t.slot = d) &&
      (t.predicate.isExcluded && t.predicate.hits doc)).map Term.ordinal).Nodup :=
    (Term.nodup_ordinals clauses).sublist (List.filter_sublist.map _)
  have hclause := Term.filter_ofFormula clauses d
  rw [hd, Option.getD_some] at hclause
  rw [hterms, List.toFinset_card_of_nodup hnodup, List.length_map, ← hclause, List.countP_map,
    List.countP_filter, List.countP_eq_length_filter]
  simp only [Function.comp_def, Bool.and_comm]

omit d clause hd in
include hvalid h in
-- Whatever the order in which they are counted, the tallies decide the disjunctions.
theorem exists_tallies (hnatural : ∀ c ∈ clauses, ∀ p ∈ c, p.hasNaturalDefault = true) :
    ∃ t, postings.foldlM Tallies.count
          (.start (stageFormula internalId externalId clauses).metadata.seeds) = .ok t ∧
      List.Forall₂ (fun c tally => Tally.Decides tally c doc) clauses t.disjunctions := by
  have hcountable := countable_of_met hvalid h
  obtain ⟨last, hlast, hcounts⟩ := (Tallies.counts_start _).foldlM postings
    (by rwa [List.nil_append])
  rw [List.nil_append] at hcounts
  have hseeds : (stageFormula internalId externalId clauses).metadata.seeds
      = clauses.map fun c => -(c.excludedCount : Int) := rfl
  have hlength : clauses.length = last.disjunctions.length := by
    rw [hcounts.length, hseeds, List.length_map]
  refine ⟨last, hlast, List.forall₂_iff_get.mpr ⟨hlength, fun d hd hd' => ?_⟩⟩
  have hclause : clauses[d]? = some clauses[d] := List.getElem?_eq_getElem hd
  have hmem : clauses[d] ∈ clauses := List.getElem_mem hd
  have htally := hcounts.tally d (-(clauses[d].excludedCount : Int)) last.disjunctions[d]
    (by rw [hseeds, List.getElem?_map, hclause]; rfl) (List.getElem?_eq_getElem hd')
  rw [card_excludedAt h hclause] at htally
  exact htally.decides (hnatural _ hmem) fun w => mem_includedAt_iff h hclause

omit d clause hd in
include hvalid h in
-- A candidate is scored as its formula is.
theorem formulaScore?_same
    (hnatural : ∀ c ∈ clauses, ∀ p ∈ c, p.hasNaturalDefault = true) :
    ∃ score, (Candidate.mk internalId postings).formulaScore?
        (stageFormula internalId externalId clauses).metadata = .ok score ∧
      Binary64.SameScore score
        ((clauses.mapM fun c => Clause.disjunctionScore? c doc).map Binary64.sum) := by
  obtain ⟨last, hlast, hdecides⟩ := exists_tallies hvalid h hnatural
  exact ⟨last.score?, by rw [Candidate.formulaScore?, hlast]; rfl,
    sameScore_of_decides hvalid hdecides last.excluded⟩

end Postings

-- In whatever order the postings that a document meets are counted, the counters tell whether the
-- formula holds, and each tally has the best of the weights that count for its disjunction.
theorem tallies_decide_formula {internalId : Nat} {externalId : String} {clauses : List Clause}
    {doc : Document} {postings : List Posting}
    (hvalid : ∀ c ∈ clauses, ∀ p ∈ c, p.fault? = none)
    (hnatural : ∀ c ∈ clauses, ∀ p ∈ c, p.hasNaturalDefault = true)
    (h : postings.Perm ((stageFormula internalId externalId clauses).met doc)) :
    ∃ t, postings.foldlM Tallies.count
          (.start (clauses.map fun c => -(c.excludedCount : Int))) = .ok t ∧
      (Candidate.mk internalId postings).formulaScore?
          (stageFormula internalId externalId clauses).metadata = .ok t.score? ∧
      ((∀ tally ∈ t.disjunctions, tally.count ≠ 0) ↔ ∀ c ∈ clauses, c.holdsAny doc = true) ∧
      List.Forall₂ (fun c tally => Tally.Decides tally c doc) clauses t.disjunctions := by
  obtain ⟨t, ht, hdecides⟩ := exists_tallies hvalid (fun q => h.mem_iff) hnatural
  refine ⟨t, ht, by rw [Candidate.formulaScore?, ht]; rfl, ?_, hdecides⟩
  have hcount (tally : Tally) : tally.count ≠ 0 ↔ tally.holds = true := bne_iff_ne.symm
  simp only [hcount, ← List.all_eq_true, all_holds_eq hdecides]

-- Two exclusions share a value, and the document has both values of the second. Of the inclusions
-- two share a value as well.
def sharing : List Clause :=
  [[.make .included "a" (.oneOf (.ofValues [.int 1])),
      .make .excluded "b" (.oneOf (.ofValues [.int 1])),
      .make .excluded "b" (.oneOf (.ofValues [.int 1, .int 2]))],
    [(Predicate.make .included "b" (.oneOf (.ofValues [.int 1]))).withWeight (-.one),
      .make .included "b" (.oneOf (.ofValues [.int 1, .int 3]))]]

theorem tallies_decide_sharing :
    (∀ c ∈ sharing, ∀ p ∈ c, p.fault? = none) ∧
      (∀ c ∈ sharing, ∀ p ∈ c, p.hasNaturalDefault = true) ∧
      ∃ t, ((stageFormula 7 "c" sharing).met (.ofList [("b", .int 1), ("b", .int 2)])).reverse.foldlM
            Tallies.count (.start [-2, 0]) = .ok t ∧
        t.disjunctions.map Tally.count = [0, 1] ∧
        ¬ (∀ c ∈ sharing, c.holdsAny (.ofList [("b", .int 1), ("b", .int 2)]) = true) ∧
        List.Forall₂ (fun c tally => Tally.Decides tally c (.ofList [("b", .int 1), ("b", .int 2)]))
          sharing t.disjunctions := by
  have hvalid : ∀ c ∈ sharing, ∀ p ∈ c, p.fault? = none := by decide +kernel
  have hnatural : ∀ c ∈ sharing, ∀ p ∈ c, p.hasNaturalDefault = true := by decide +kernel
  have hreverse := List.reverse_perm
    ((stageFormula 7 "c" sharing).met (.ofList [("b", .int 1), ("b", .int 2)]))
  obtain ⟨t, ht, -, hiff, hdecides⟩ := tallies_decide_formula hvalid hnatural hreverse
  have hcounts : (((stageFormula 7 "c" sharing).met
      (.ofList [("b", .int 1), ("b", .int 2)])).reverse.foldlM Tallies.count
        (.start (sharing.map fun c => -(c.excludedCount : Int)))).toOption.map
          (fun t => t.disjunctions.map Tally.count) = some [0, 1] := by decide +kernel
  rw [ht] at hcounts
  have hcounts : t.disjunctions.map Tally.count = [0, 1] := Option.some.inj hcounts
  refine ⟨hvalid, hnatural, t, ht, hcounts, fun hall => ?_, hdecides⟩
  have hzero : (0 : Int) ∈ t.disjunctions.map Tally.count := by
    rw [hcounts]
    exact List.mem_cons_self
  obtain ⟨tally, htally, hzero⟩ := List.mem_map.mp hzero
  exact hiff.mpr hall tally htally hzero

section Slots

variable {internalId : Nat} {externalId : String} {clauses : List Clause} {doc : Document}

-- The slots of a formula that have to be filled: those of the disjunctions without exclusion.
def requiredSlots (clauses : List Clause) : List Slot :=
  (clauses.zipIdx.filter fun e => e.1.excludedCount == 0).map fun e => .position e.2

theorem length_requiredSlots (clauses : List Clause) :
    (requiredSlots clauses).length = clauses.countP fun c => c.excludedCount == 0 := by
  conv_rhs => rw [← List.zipIdx_map_fst 0 clauses, List.countP_map]
  rw [requiredSlots, List.countP_eq_length_filter, List.length_map]
  rfl

theorem nodup_requiredSlots (clauses : List Clause) : (requiredSlots clauses).Nodup := by
  have hpositions : (clauses.zipIdx.map fun e => Slot.position e.2).Nodup := by
    have hsnd : (clauses.zipIdx.map Prod.snd).Nodup := by
      rw [List.zipIdx_map_snd]
      exact List.nodup_range'
    have hmap := hsnd.map (f := Slot.position) fun a b hab => by cases hab; rfl
    rwa [List.map_map] at hmap
  exact hpositions.sublist (List.filter_sublist.map _)

-- When a formula holds, so does an included predicate of every disjunction without exclusion.
theorem met_requiredSlots (hnatural : ∀ c ∈ clauses, ∀ p ∈ c, p.hasNaturalDefault = true)
    (hall : clauses.all (fun c => Clause.holdsAny c doc) = true) :
    ∀ slot ∈ requiredSlots clauses,
      ∃ q ∈ (stageFormula internalId externalId clauses).met doc, q.slot = slot := by
  intro slot hslot
  obtain ⟨⟨c, d⟩, he, rfl⟩ := List.mem_map.mp hslot
  obtain ⟨hmem, hcount⟩ := List.mem_filter.mp he
  have hd := List.mem_zipIdx_iff_getElem?.mp hmem
  have hc := List.mem_of_getElem? hd
  obtain ⟨p, hp, heval⟩ := List.any_eq_true.mp (List.all_eq_true.mp hall c hc)
  have hincluded : p.isExcluded = false := by
    have hnone := List.countP_eq_zero.mp (beq_iff_eq.mp hcount) p hp
    simpa using hnone
  rw [Predicate.evaluate_eq (hnatural c hc p hp), hincluded] at heval
  obtain ⟨t, ht, rfl, rfl⟩ := Term.exists_mem_ofFormula hd hp
  exact ⟨_, mem_met_formula.mpr (.inl ⟨t, ht, by simpa using heval, rfl⟩), rfl⟩

-- A formula that holds is met in as many lists as it has slots, and in one at least.
theorem le_length_met_formula
    (hnatural : ∀ c ∈ clauses, ∀ p ∈ c, p.hasNaturalDefault = true)
    (hall : clauses.all (fun c => Clause.holdsAny c doc) = true) :
    max (clauses.countP fun c => c.excludedCount == 0) 1
      ≤ ((stageFormula internalId externalId clauses).met doc).length := by
  by_cases hzero : (clauses.countP fun c => c.excludedCount == 0) = 0
  · have hsentinel : Posting.sentinel internalId externalId
        ∈ (stageFormula internalId externalId clauses).met doc :=
      mem_met_formula.mpr (.inr ⟨hzero, rfl⟩)
    have hpos := List.length_pos_of_mem hsentinel
    omega
  · have hslots : (requiredSlots clauses).length
        ≤ ((stageFormula internalId externalId clauses).met doc).length :=
      length_le_of_slots (nodup_requiredSlots clauses) (met_requiredSlots hnatural hall)
    rw [length_requiredSlots] at hslots
    omega

end Slots

end Targeting.Index
