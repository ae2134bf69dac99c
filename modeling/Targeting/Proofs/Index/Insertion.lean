import Mathlib
import Targeting.Proofs.Index.PostingList

namespace Targeting.Index

namespace Posting

-- What the order of a list goes by. A list has one posting of each rank.
def rank (p : Posting) : Nat × PredicateKind × Slot := (p.internalId, p.kind, p.slot)

theorem order_eq_iff_rank {p q : Posting} : p.order q = .eq ↔ p.rank = q.rank := by
  have hkind : p.kind.rank = q.kind.rank ↔ p.kind = q.kind := by
    cases p.kind <;> cases q.kind <;> decide
  rw [order_eq_iff, hkind, rank, rank, Prod.mk.injEq, Prod.mk.injEq]

-- The last posting of its rank among those that are filed one after the other.
def LastIn (q : Posting) (ps : List Posting) : Prop :=
  ∃ before after, ps = before ++ q :: after ∧ ∀ r ∈ after, r.rank ≠ q.rank

variable {p q : Posting} {ps : List Posting}

theorem LastIn.mem (h : q.LastIn ps) : q ∈ ps := by
  obtain ⟨before, after, rfl, -⟩ := h
  exact List.mem_append_right _ List.mem_cons_self

-- One more posting is the last of its rank, and those of other ranks stay what they are.
theorem lastIn_append_singleton : q.LastIn (ps ++ [p]) ↔ q = p ∨ q.LastIn ps ∧ q.rank ≠ p.rank := by
  constructor
  · rintro ⟨before, after, heq, hafter⟩
    rcases List.eq_nil_or_concat after with rfl | ⟨init, last, rfl⟩
    · exact .inl (List.singleton_inj.mp (List.append_inj' heq rfl).2).symm
    · rw [List.concat_eq_append, ← List.cons_append, ← List.append_assoc] at heq
      obtain ⟨rfl, hlast⟩ := List.append_inj' heq rfl
      cases hlast
      refine .inr ⟨⟨before, init, rfl, fun r hr => hafter r (by simp [hr])⟩, ?_⟩
      exact (hafter p (by simp)).symm
  · rintro (rfl | ⟨⟨before, after, rfl, hafter⟩, hne⟩)
    · exact ⟨ps, [], rfl, by simp⟩
    · refine ⟨before, after ++ [p], by simp, fun r hr => ?_⟩
      rcases List.mem_append.mp hr with hr | hr
      · exact hafter r hr
      · rw [List.mem_singleton.mp hr]
        exact hne.symm

-- Every rank that comes up has a last posting.
theorem exists_lastIn (hp : p ∈ ps) : ∃ q : Posting, q.LastIn ps ∧ q.rank = p.rank := by
  induction ps using List.reverseRecOn with
  | nil => simp at hp
  | append_singleton ps last ih =>
    by_cases hrank : last.rank = p.rank
    · exact ⟨last, lastIn_append_singleton.mpr (.inl rfl), hrank⟩
    · have hmem : p ∈ ps := by
        rcases List.mem_append.mp hp with hp | hp
        · exact hp
        · exact absurd (by rw [List.mem_singleton.mp hp]) hrank
      obtain ⟨q, hq, hqp⟩ := ih hmem
      exact ⟨q, lastIn_append_singleton.mpr (.inr ⟨hq, fun h => hrank (h ▸ hqp)⟩), hqp⟩

-- Where all ranks are different every posting is the last of its rank.
theorem lastIn_iff_mem (h : (ps.map rank).Nodup) : q.LastIn ps ↔ q ∈ ps := by
  refine ⟨LastIn.mem, fun hq => ?_⟩
  obtain ⟨last, hlast, hrank⟩ := exists_lastIn hq
  rwa [← List.inj_on_of_nodup_map h hlast.mem hq hrank]

end Posting

namespace PostingList

variable {l m : PostingList} {p q : Posting} {ps qs : List Posting}

theorem mem_insert (h : l.Sorted) (p : Posting) :
    q ∈ (l.insert p).toList ↔ q = p ∨ q ∈ l.toList ∧ q.rank ≠ p.rank := by
  rw [toList_insert h, List.mem_append, List.mem_cons, List.mem_filter, List.mem_filter,
    ne_eq, ← Posting.order_eq_iff_rank]
  cases q.order p <;> simp [or_comm]

theorem Sorted.nodup_ranks (h : l.Sorted) : (l.toList.map Posting.rank).Nodup := by
  refine List.pairwise_map.mpr (h.imp fun hlt heq => ?_)
  rw [Posting.order_eq_iff_rank.mpr heq] at hlt
  cases hlt

-- Lists in order are told apart by what they hold.
theorem Sorted.eq_of_mem_iff (hl : l.Sorted) (hm : m.Sorted)
    (h : ∀ q, q ∈ l.toList ↔ q ∈ m.toList) : l = m := by
  have hperm : l.toList.Perm m.toList :=
    (List.perm_ext_iff_of_nodup hl.nodup_ranks.of_map hm.nodup_ranks.of_map).mpr h
  have heq : l.toList = m.toList := hperm.eq_of_pairwise
    (fun p q _ _ hpq hqp => absurd hqp (by simp [Std.OrientedCmp.gt_of_lt hpq])) hl hm
  exact congrArg PostingList.mk (Array.toList_inj.mp heq)

-- The list that postings make when they are filed one after the other.
def ofPostings (ps : List Posting) : PostingList := ps.foldl insert empty

-- What a list is to the postings that were filed in it: in strict order, and of each rank that came
-- up it has the last posting and no other.
structure KeepsLast (l : PostingList) (ps : List Posting) : Prop where
  sorted : l.Sorted
  mem_iff : ∀ q, q ∈ l.toList ↔ q.LastIn ps
  unique : ∀ p ∈ ps, ∃! q, q ∈ l.toList ∧ q.rank = p.rank

theorem KeepsLast.of_mem_iff (hl : l.Sorted) (h : ∀ q, q ∈ l.toList ↔ q.LastIn ps) :
    l.KeepsLast ps where
  sorted := hl
  mem_iff := h
  unique p hp := by
    obtain ⟨q, hq, hqp⟩ := Posting.exists_lastIn hp
    have hmem := (h q).mpr hq
    refine ⟨q, ⟨hmem, hqp⟩, fun r ⟨hr, hrp⟩ => ?_⟩
    exact List.inj_on_of_nodup_map hl.nodup_ranks hr hmem (hrp.trans hqp.symm)

-- What filing one posting preserves.
theorem KeepsLast.insert (h : l.KeepsLast ps) (p : Posting) : (l.insert p).KeepsLast (ps ++ [p]) := by
  refine .of_mem_iff (h.sorted.insert p) fun q => ?_
  rw [mem_insert h.sorted, Posting.lastIn_append_singleton, h.mem_iff]

theorem keepsLast_empty : empty.KeepsLast [] :=
  .of_mem_iff List.Pairwise.nil fun q => by simp [toList_empty, Posting.LastIn]

theorem keepsLast_ofPostings (ps : List Posting) : (ofPostings ps).KeepsLast ps := by
  induction ps using List.reverseRecOn with
  | nil => exact keepsLast_empty
  | append_singleton ps p ih =>
    rw [ofPostings, List.foldl_append]
    exact ih.insert p

theorem ofPostings_perm (hperm : ps.Perm qs) (h : (ps.map Posting.rank).Nodup) :
    ofPostings ps = ofPostings qs := by
  have hps := keepsLast_ofPostings ps
  have hqs := keepsLast_ofPostings qs
  refine hps.sorted.eq_of_mem_iff hqs.sorted fun q => ?_
  rw [hps.mem_iff, hqs.mem_iff, Posting.lastIn_iff_mem h,
    Posting.lastIn_iff_mem ((hperm.map _).nodup_iff.mp h), hperm.mem_iff]

-- A list keeps the last posting of each rank, whatever the order in which they come. When no two are
-- of one rank, their order makes no difference.
theorem insertion_keepsLast :
    (∀ ps, (ofPostings ps).KeepsLast ps) ∧
    ∀ ps qs : List Posting, ps.Perm qs → (ps.map Posting.rank).Nodup →
      ofPostings ps = ofPostings qs :=
  ⟨keepsLast_ofPostings, fun _ _ => ofPostings_perm⟩

-- Three of the postings have one id.
theorem insertion_keepsLast_reversed :
    let ps : List Posting := [
      ⟨5, "c", .included, .position 0, 0, .one⟩, ⟨1, "a", .included, .position 2, 2, .one⟩,
      ⟨5, "c", .excluded, .position 1, 1, .one⟩, .sentinel 3 "b",
      ⟨5, "c", .included, .position 1, 1, .one⟩]
    ps.Perm ps.reverse ∧ (ps.map Posting.rank).Nodup ∧ ofPostings ps = ofPostings ps.reverse ∧
      (ofPostings ps.reverse).toList.map Posting.ordinal = [2, Posting.sentinelOrdinal, 1, 0, 1] := by
  intro ps
  have hperm : ps.Perm ps.reverse := by decide
  have hranks : (ps.map Posting.rank).Nodup := by decide
  exact ⟨hperm, hranks, insertion_keepsLast.2 ps ps.reverse hperm hranks, by decide +kernel⟩

end PostingList

end Targeting.Index
