import Mathlib
import Targeting.Proofs.Group.Exactness

namespace Targeting

section TotalOrder

variable {x y : Binary64}

theorem Binary64.eq_of_totalRank (h : x.totalRank = y.totalRank) : x = y := by
  obtain ⟨a, m, hm⟩ := x
  obtain ⟨b, n, hn⟩ := y
  simp only [totalRank] at h
  rw [Binary64.mk.injEq]
  cases a <;> cases b <;> simp only [if_true, if_false, Bool.false_eq_true] at h <;>
    simp only [true_and, reduceCtorEq, false_and] <;> omega

-- The order of all bit patterns is the numeric order, but for the two zeros.
theorem Binary64.rank_of_totalRank_lt (h : x.totalRank < y.totalRank) :
    x.rank < y.rank ∨ x = .negZero ∧ y = .zero := by
  obtain ⟨a, m, hm⟩ := x
  obtain ⟨b, n, hn⟩ := y
  simp only [totalRank] at h
  simp only [rank, negZero, zero, ofMagnitude, Binary64.mk.injEq]
  cases a <;> cases b <;> simp only [if_true, if_false, Bool.false_eq_true] at h ⊢ <;>
    simp only [true_and, reduceCtorEq, false_and] <;> omega

end TotalOrder

namespace Match

def order (a b : Match) : Ordering := (b.score.totalCompare a.score).then (compare a.id b.id)

instance : Std.TransCmp fun a b : Match => compare b.score.totalRank a.score.totalRank :=
  (inferInstance : Std.TransCmp (compareOn fun m : Match => m.score.totalRank)).opposite

instance : Std.TransCmp order :=
  inferInstanceAs (Std.TransCmp
    (compareLex (fun a b : Match => compare b.score.totalRank a.score.totalRank) (compareOn Match.id)))

theorem ranksBefore_total (a b : Match) : (a.ranksBefore b || b.ranksBefore a) = true := by
  have hswap : a.order b = (b.order a).swap := Std.OrientedCmp.eq_swap
  change ((a.order b).isLE || (b.order a).isLE) = true
  rw [hswap]
  cases b.order a <;> rfl

theorem ranksBefore_trans (a b c : Match) (hab : a.ranksBefore b = true)
    (hbc : b.ranksBefore c = true) : a.ranksBefore c = true :=
  @Std.TransCmp.isLE_trans _ order _ a b c hab hbc

-- A match comes before another with a lower score, and of two with one score the smaller id comes
-- first. A positive zero counts as higher than a negative one.
inductive Precedes (a b : Match) : Prop where
  | higher (hscore : b.score < a.score)
  | positiveZero (ha : a.score = .zero) (hb : b.score = .negZero)
  | smallerId (hscore : a.score = b.score) (hid : compare a.id b.id = .lt)

variable {a b : Match}

theorem precedes_of_ranksBefore (ha : a.score.isNaN = false) (hb : b.score.isNaN = false)
    (hid : a.id ≠ b.id) (h : a.ranksBefore b = true) : a.Precedes b := by
  rw [ranksBefore, Binary64.totalCompare] at h
  cases hscore : compare b.score.totalRank a.score.totalRank with
  | lt =>
    rcases Binary64.rank_of_totalRank_lt (compare_lt_iff_lt.mp hscore) with hrank | ⟨hneg, hpos⟩
    · exact .higher ⟨hb, ha, hrank⟩
    · exact .positiveZero hpos hneg
  | eq =>
    rw [hscore, Ordering.then] at h
    have heq := Binary64.eq_of_totalRank (Std.LawfulEqCmp.eq_of_compare hscore)
    refine .smallerId heq.symm ?_
    cases hcompare : compare a.id b.id with
    | lt => rfl
    | eq => exact absurd (Std.LawfulEqCmp.eq_of_compare hcompare) hid
    | gt =>
      rw [hcompare] at h
      cases h
  | gt =>
    rw [hscore] at h
    cases h

end Match

namespace MatchSet

variable {found : MatchSet} {m : Match}

theorem mem_toList : m ∈ found.toList ↔ found.score? m.id = some m.score := by
  rw [toList, score?, ← SortedMap.mem_entries_iff, List.mem_map]
  constructor
  · rintro ⟨e, he, rfl⟩
    exact he
  · intro he
    exact ⟨_, he, rfl⟩

theorem ranked_perm (found : MatchSet) : found.ranked.Perm found.toList :=
  List.mergeSort_perm found.toList Match.ranksBefore

theorem mem_ranked : m ∈ found.ranked ↔ found.score? m.id = some m.score := by
  rw [found.ranked_perm.mem_iff, mem_toList]

theorem nodup_ranked (found : MatchSet) : (found.ranked.map Match.id).Nodup := by
  have hkeys : found.toList.map Match.id = found.scores.keys := by
    rw [toList, List.map_map]
    rfl
  rw [(found.ranked_perm.map Match.id).nodup_iff, hkeys]
  exact found.scores.nodup_keys

theorem pairwise_ranked (hnumber : ∀ id score, found.score? id = some score → score.isNaN = false) :
    found.ranked.Pairwise Match.Precedes := by
  have hsorted : found.ranked.Pairwise fun a b => a.ranksBefore b = true :=
    List.pairwise_mergeSort Match.ranksBefore_trans Match.ranksBefore_total found.toList
  have hids := List.pairwise_map.mp found.nodup_ranked
  refine (hsorted.and hids).imp_of_mem fun {a b} ha hb hab => ?_
  exact Match.precedes_of_ranksBefore (hnumber a.id a.score (mem_ranked.mp ha))
    (hnumber b.id b.score (mem_ranked.mp hb)) hab.2 hab.1

-- A list of the best matches: they come in order, and before all that are left out.
structure Tops (found : MatchSet) (n : Nat) (listed : List Match) : Prop where
  length : listed.length = min n found.size
  nodup : (listed.map Match.id).Nodup
  scores : ∀ m ∈ listed, found.score? m.id = some m.score
  ordered : listed.Pairwise Match.Precedes
  best : ∀ m ∈ listed, ∀ other, found.score? other.id = some other.score → other ∉ listed →
    m.Precedes other

theorem tops_top (hnumber : ∀ id score, found.score? id = some score → score.isNaN = false)
    (n : Nat) : found.Tops n (found.top n) := by
  have hordered := pairwise_ranked hnumber
  have htake : (found.ranked.take n).Sublist found.ranked := List.take_sublist n _
  rw [← List.take_append_drop n found.ranked, List.pairwise_append] at hordered
  obtain ⟨hlisted, -, hacross⟩ := hordered
  refine ⟨?_, (htake.map Match.id).nodup found.nodup_ranked, ?_, hlisted, ?_⟩
  · rw [top, List.length_take, found.ranked_perm.length_eq, toList, List.length_map]
    rfl
  · intro m hm
    exact mem_ranked.mp (htake.subset hm)
  · intro m hm other hother hout
    have hall := mem_ranked.mpr hother
    rw [← List.take_append_drop n found.ranked, List.mem_append] at hall
    exact hacross m hm other (hall.resolve_left hout)

end MatchSet

namespace Group

-- A group lists the best of what it finds.
theorem run_tops (name : String) (config : GroupConfig) (changes : List Change) (doc : Document)
    (n : Nat) :
    ∃ found listed, ((empty name config).run changes).search doc = .ok found ∧
      ((empty name config).run changes).searchTop doc n = .ok listed ∧ found.Tops n listed := by
  obtain ⟨found, hfound, hscores⟩ := ((Placed.empty name config).run changes).search doc
  refine ⟨found, found.top n, hfound, by rw [searchTop, hfound]; rfl, ?_⟩
  refine MatchSet.tops_top (fun id score hscore => ?_) n
  have hsame := hscores id
  rw [hscore] at hsame
  generalize Option.bind _ _ = stored at hsame
  cases hsame with
  | some hsame => exact (Binary64.same_iff.mp hsame).1

-- An exclusion scores the empty sum, which is the negative zero, and an inclusion without a weight
-- scores the positive one.
def unweightedChanges : List Change :=
  [.index ⟨⟨"a", .dnf, [[.make .excluded "x" (.oneOf (.ofValues [.int 1]))]]⟩, by decide +kernel⟩ .add,
    .index ⟨⟨"b", .dnf, [[.make .included "y" (.oneOf (.ofValues [.int 2]))]]⟩, by decide +kernel⟩ .add]

-- The ids do not decide between two zeros.
theorem not_run_tops_by_id :
    ¬ ∀ changes doc n listed, ((empty "" {}).run changes).searchTop doc n = .ok listed →
      listed.Pairwise fun a b =>
        b.score < a.score ∨ a.score.same b.score = true ∧ compare a.id b.id = .lt := by
  intro hordered
  have hrun : ((empty "" {}).run unweightedChanges).searchTop (.ofList [("y", .int 2)]) 2
      = .ok [⟨"b", .zero⟩, ⟨"a", .negZero⟩] := by cbv
  exact absurd (hordered _ _ _ _ hrun) (by decide)

end Group

end Targeting
