import Mathlib
import Targeting.Index.Posting
import Targeting.Proofs.Search

namespace Targeting.Index

instance : Std.TransCmp Posting.order :=
  inferInstanceAs (Std.TransCmp (compareLex (compareOn Posting.internalId)
    (compareLex (compareOn fun p : Posting => p.kind.rank) (compareOn Posting.slot))))

namespace Posting

theorem order_eq_iff {p q : Posting} :
    p.order q = .eq ↔ p.internalId = q.internalId ∧ p.kind.rank = q.kind.rank ∧ p.slot = q.slot := by
  simp only [order, compareLex, compareOn, Ordering.then_eq_eq, Std.compare_eq_iff_eq]

-- The id decides first.
theorem order_of_internalId_lt {p q : Posting} (h : p.internalId < q.internalId) :
    p.order q = .lt := by
  simp only [order, compareLex, compareOn, Ordering.then_eq_lt]
  exact .inl (Nat.compare_eq_lt.mpr h)

theorem internalId_le_of_order {p q : Posting} (h : (p.order q).isLE) :
    p.internalId ≤ q.internalId := by
  by_contra hlt
  have hgt : q.order p = .lt := order_of_internalId_lt (by omega)
  have := Std.OrientedCmp.gt_of_lt hgt
  simp [this] at h

end Posting

namespace PostingList

-- In strictly ascending order of id, kind and slot.
def Sorted (l : PostingList) : Prop := l.toList.Pairwise fun p q => p.order q = .lt

-- In strictly ascending order of the ids alone.
def AscendingIds (l : PostingList) : Prop :=
  l.toList.Pairwise fun p q => p.internalId < q.internalId

-- In order of id, kind and slot, where postings may agree in all three.
def Ordered (l : PostingList) : Prop := l.toList.Pairwise fun p q => (p.order q).isLE

instance (l : PostingList) : Decidable l.Ordered :=
  inferInstanceAs (Decidable (l.toList.Pairwise fun p q => (p.order q).isLE))

def OrderedIds (l : PostingList) : Prop :=
  l.toList.Pairwise fun p q => p.internalId ≤ q.internalId

theorem AscendingIds.sorted {l : PostingList} (h : l.AscendingIds) : l.Sorted :=
  h.imp Posting.order_of_internalId_lt

theorem Sorted.ordered {l : PostingList} (h : l.Sorted) : l.Ordered :=
  h.imp fun hlt => by rw [hlt]; rfl

theorem Ordered.ids {l : PostingList} (h : l.Ordered) : l.OrderedIds :=
  h.imp Posting.internalId_le_of_order

theorem toList_empty : PostingList.empty.toList = [] := rfl

theorem ascendingIds_empty : PostingList.empty.AscendingIds := List.Pairwise.nil

@[simp]
theorem isEmpty_iff {l : PostingList} : l.isEmpty = true ↔ l.toList = [] := by
  simp [isEmpty, toList]

theorem toList_retain (l : PostingList) (keep : Nat → Bool) :
    (l.retain keep).1.toList = l.toList.filter fun p => keep p.internalId := by
  simp [retain, toList]

theorem dropped_retain (l : PostingList) (keep : Nat → Bool) :
    (l.retain keep).2 = l.toList.countP fun p => !keep p.internalId := by
  have hkept : (l.retain keep).1.size = l.toList.countP fun p => keep p.internalId := by
    rw [List.countP_eq_length_filter, ← toList_retain]
    rfl
  have hsplit : l.toList.length = (l.toList.countP fun p => keep p.internalId)
      + l.toList.countP fun p => !keep p.internalId := by
    simpa using List.length_eq_countP_add_countP (fun p => keep p.internalId) (l := l.toList)
  change l.toList.length - (l.retain keep).1.size = _
  omega

section Insertion

theorem filter_eq_take {α : Type} {f : α → Bool} {l : List α} {n : Nat}
    (hin : ∀ x ∈ l.take n, f x = true) (hout : ∀ x ∈ l.drop n, f x = false) :
    l.filter f = l.take n := by
  conv_lhs => rw [← List.take_append_drop n l]
  rw [List.filter_append, List.filter_eq_self.mpr hin,
    List.filter_eq_nil_iff.mpr fun x hx => by simp [hout x hx], List.append_nil]

theorem filter_eq_drop {α : Type} {f : α → Bool} {l : List α} {n : Nat}
    (hout : ∀ x ∈ l.take n, f x = false) (hin : ∀ x ∈ l.drop n, f x = true) :
    l.filter f = l.drop n := by
  conv_lhs => rw [← List.take_append_drop n l]
  rw [List.filter_append, List.filter_eq_self.mpr hin,
    List.filter_eq_nil_iff.mpr fun x hx => by simp [hout x hx], List.nil_append]

theorem insertIdx_eq_append {α : Type} {a : α} :
    ∀ {l : List α} {n : Nat}, n ≤ l.length → l.insertIdx n a = l.take n ++ a :: l.drop n
  | _, 0, _ => rfl
  | [], n + 1, h => absurd h (by simp)
  | b :: l, n + 1, h => by
    simp [insertIdx_eq_append (l := l) (Nat.le_of_succ_le_succ h)]

variable {l : PostingList}

theorem position_le (l : PostingList) (p : Posting) : l.position p ≤ l.toList.length :=
  (Search.partitionPoint_bounds _ 0 l.postings.size (Nat.le_refl _) (Nat.zero_le _)).2

theorem position_spec (h : l.Sorted) (p : Posting) :
    (∀ q ∈ l.toList.take (l.position p), q.order p = .lt) ∧
    ∀ q ∈ l.toList.drop (l.position p), q.order p ≠ .lt := by
  have hpart : Search.Partitioned fun i : Fin l.postings.size => l.postings[i].order p == .lt := by
    intro i j hij hj
    rcases Nat.lt_or_eq_of_le hij with hlt | heq
    · have hord := List.pairwise_iff_getElem.mp h i j (by simp [toList]) (by simp [toList]) hlt
      simp only [beq_iff_eq] at hj ⊢
      exact Std.TransCmp.lt_trans (by simpa [toList] using hord) hj
    · rwa [Fin.ext heq]
  have hspec := Search.partitionPoint_spec hpart 0 l.postings.size (Nat.le_refl _)
  refine ⟨fun q hq => ?_, fun q hq => ?_⟩
  · obtain ⟨i, hi, rfl⟩ := List.mem_take_iff_getElem.mp hq
    have := hspec.1 ⟨i, by simpa [toList] using (Nat.lt_min.mp hi).2⟩ (Nat.zero_le _)
      (Nat.lt_min.mp hi).1
    simpa [toList] using this
  · obtain ⟨i, hi, rfl⟩ := List.mem_drop_iff_getElem.mp hq
    have hsize : l.position p + i < l.postings.size := by simpa [toList, Nat.add_comm] using hi
    have := hspec.2 ⟨l.position p + i, hsize⟩ (Nat.le_add_right _ _) hsize
    simpa [toList] using this

-- The last posting is before `p` only if all are.
theorem order_lt_of_back (h : l.Sorted) {p : Posting}
    (hback : l.postings.back?.all fun last => last.order p == .lt) :
    ∀ q ∈ l.toList, q.order p = .lt := by
  intro q hq
  rw [← Array.getLast?_toList] at hback
  change (l.toList.getLast?).all _ = true at hback
  rcases List.eq_nil_or_concat l.toList with hl | ⟨init, last, hl⟩
  · simp [hl] at hq
  have hlast : last.order p = .lt := by simpa [hl] using hback
  rw [Sorted, hl, List.concat_eq_append, List.pairwise_append] at h
  rw [hl, List.concat_eq_append] at hq
  rcases List.mem_append.mp hq with hq | hq
  · exact Std.TransCmp.lt_trans (h.2.2 q hq last (List.mem_singleton_self _)) hlast
  · exact List.mem_singleton.mp hq ▸ hlast

-- What follows a posting that is not before `p` comes after `p`.
theorem order_gt_of_drop (h : l.Sorted) {p : Posting} {n : Nat}
    (hn : ∀ q ∈ l.toList.drop n, q.order p ≠ .lt) : ∀ q ∈ l.toList.drop (n + 1), q.order p = .gt := by
  intro q hq
  cases hd : l.toList.drop n with
  | nil => simp [← List.tail_drop, hd] at hq
  | cons first rest =>
    have hpw : (first :: rest).Pairwise fun p q => p.order q = .lt :=
      hd ▸ h.sublist (List.drop_sublist n l.toList)
    rw [← List.tail_drop, hd, List.tail_cons] at hq
    have hlt := (List.pairwise_cons.mp hpw).1 q hq
    have hfirst : first.order p ≠ .lt := hn first (hd ▸ List.mem_cons_self)
    refine Std.OrientedCmp.gt_iff_lt.mpr (Std.TransCmp.lt_of_isLE_of_lt ?_ hlt)
    have hswap : p.order first = (first.order p).swap := Std.OrientedCmp.eq_swap
    rw [hswap]
    cases hc : first.order p <;> simp_all

theorem filter_lt_eq_take (h : l.Sorted) (p : Posting) :
    (l.toList.filter fun q => q.order p == .lt) = l.toList.take (l.position p) := by
  obtain ⟨hbelow, habove⟩ := position_spec h p
  exact filter_eq_take (fun q hq => by simp [hbelow q hq]) fun q hq => by simp [habove q hq]

-- A posting of the same rank at the position of `p` is left out.
theorem filter_gt_of_eq (h : l.Sorted) {p q : Posting} (hq : l.toList[l.position p]? = some q)
    (hqp : q.order p = .eq) :
    (l.toList.filter fun q => q.order p == .gt) = l.toList.drop (l.position p + 1) := by
  obtain ⟨hbelow, habove⟩ := position_spec h p
  obtain ⟨hi, hget⟩ := List.getElem?_eq_some_iff.mp hq
  have hafter := order_gt_of_drop h habove
  refine filter_eq_drop (fun r hr => ?_) fun r hr => by simp [hafter r hr]
  rw [List.take_succ_eq_append_getElem hi, hget] at hr
  rcases List.mem_append.mp hr with hr | hr
  · simp [hbelow r hr]
  · simp [List.mem_singleton.mp hr, hqp]

theorem filter_gt_of_ne (h : l.Sorted) {p : Posting}
    (hne : ∀ q, l.toList[l.position p]? = some q → q.order p ≠ .eq) :
    (l.toList.filter fun q => q.order p == .gt) = l.toList.drop (l.position p) := by
  obtain ⟨hbelow, habove⟩ := position_spec h p
  have hafter := order_gt_of_drop h habove
  refine filter_eq_drop (fun r hr => by simp [hbelow r hr]) fun r hr => ?_
  obtain ⟨i, hi, rfl⟩ := List.mem_drop_iff_getElem.mp hr
  cases i with
  | zero =>
    simp only [Nat.zero_add] at hi hr ⊢
    have hlt := habove _ hr
    have hq := hne _ (List.getElem?_eq_getElem hi)
    cases hc : l.toList[l.position p].order p <;> simp_all
  | succ i =>
    have hgt := hafter _ (List.mem_drop_iff_getElem.mpr ⟨i, by omega, rfl⟩)
    simpa [Nat.add_assoc, Nat.add_comm 1] using hgt

-- What comes before `p` stays before it, what comes after stays after it, and what has the same
-- rank goes.
theorem toList_insert (h : l.Sorted) (p : Posting) :
    (l.insert p).toList = (l.toList.filter fun q => q.order p == .lt)
      ++ p :: l.toList.filter fun q => q.order p == .gt := by
  unfold insert
  split
  next hback =>
    have hall := order_lt_of_back h hback
    rw [List.filter_eq_self.mpr fun q hq => by simp [hall q hq],
      List.filter_eq_nil_iff.mpr fun q hq => by simp [hall q hq]]
    simp [toList]
  next hback =>
    have hle := l.position_le p
    have hsize : l.postings.size = l.toList.length := rfl
    rw [filter_lt_eq_take h]
    dsimp only
    split
    next heq =>
      obtain ⟨q, hq, hqp⟩ := (Option.any_eq_true _ _).mp heq
      have hq : l.toList[l.position p]? = some q := by simpa [toList] using hq
      obtain ⟨hi, -⟩ := List.getElem?_eq_some_iff.mp hq
      rw [filter_gt_of_eq h hq (beq_iff_eq.mp hqp)]
      change (l.postings.setIfInBounds (l.position p) p).toList = _
      rw [Array.toList_setIfInBounds, List.set_eq_take_append_cons_drop]
      exact if_pos hi
    next hne =>
      rw [filter_gt_of_ne h fun q hq hqp => hne ?_]
      · change (l.postings.insertIdxIfInBounds (l.position p) p).toList = _
        rw [Array.insertIdxIfInBounds, dif_pos (by omega), Array.toList_insertIdx]
        exact insertIdx_eq_append hle
      · have hq : l.postings[l.position p]? = some q := by simpa [toList] using hq
        rw [hq, Option.any_some, hqp]
        rfl

theorem Sorted.insert (h : l.Sorted) (p : Posting) : (l.insert p).Sorted := by
  rw [Sorted, toList_insert h, List.pairwise_append, List.pairwise_cons]
  refine ⟨h.sublist List.filter_sublist, ⟨fun q hq => ?_, h.sublist List.filter_sublist⟩, ?_⟩
  · exact Std.OrientedCmp.gt_iff_lt.mp (by simpa using (List.mem_filter.mp hq).2)
  · intro q hq r hr
    have hqp : q.order p = .lt := by simpa using (List.mem_filter.mp hq).2
    rcases List.mem_cons.mp hr with rfl | hr
    · exact hqp
    · have hpr : r.order p = .gt := by simpa using (List.mem_filter.mp hr).2
      exact Std.TransCmp.lt_trans hqp (Std.OrientedCmp.gt_iff_lt.mp hpr)

-- Nothing goes when no posting has the id of the new one, in whatever order they stand.
theorem insert_perm {p : Posting} (hp : ∀ q ∈ l.toList, q.internalId ≠ p.internalId) :
    (l.insert p).toList.Perm (l.toList ++ [p]) := by
  have hsize : l.postings.size = l.toList.length := rfl
  have hle := l.position_le p
  have hnone : ¬ (l.postings[l.position p]?.any fun q => q.order p == .eq) = true := by
    intro hany
    obtain ⟨q, hq, horder⟩ := (Option.any_eq_true _ _).mp hany
    have hmem : q ∈ l.toList := List.mem_of_getElem? (by simpa [toList] using hq)
    exact hp q hmem (Posting.order_eq_iff.mp (beq_iff_eq.mp horder)).1
  unfold insert
  split
  next => simp [toList]
  next =>
    dsimp only
    rw [if_neg hnone]
    change (l.postings.insertIdxIfInBounds (l.position p) p).toList.Perm _
    rw [Array.insertIdxIfInBounds, dif_pos (by omega), Array.toList_insertIdx]
    refine (List.perm_insertIdx p l.toList hle).trans ?_
    exact (List.perm_append_singleton p l.toList).symm

theorem AscendingIds.insert (h : l.AscendingIds) {p : Posting}
    (hp : ∀ q ∈ l.toList, q.internalId ≠ p.internalId) : (l.insert p).AscendingIds := by
  have hsorted := h.sorted.insert p
  have hnodup : ((l.insert p).toList.map Posting.internalId).Nodup := by
    refine ((insert_perm hp).map _).nodup_iff.mpr ?_
    rw [List.map_append, List.nodup_append]
    refine ⟨List.pairwise_map.mpr (h.imp Nat.ne_of_lt), by simp, ?_⟩
    rintro i hi _ hj rfl
    obtain ⟨q, hq, rfl⟩ := List.mem_map.mp hi
    exact hp q hq (by simpa using hj)
  refine (hsorted.and (List.pairwise_map.mp hnodup)).imp ?_
  rintro q r ⟨hqr, hne⟩
  have := Posting.internalId_le_of_order (p := q) (q := r) (by simp [hqr])
  omega

end Insertion

section Reading

variable {l : PostingList}

theorem AscendingIds.retain (h : l.AscendingIds) (keep : Nat → Bool) :
    (l.retain keep).1.AscendingIds := by
  rw [AscendingIds, toList_retain]
  exact h.sublist List.filter_sublist

theorem dropWhile_eq_drop {α : Type} {f : α → Bool} :
    ∀ {l : List α} {n : Nat}, (∀ x ∈ l.take n, f x = true) → (∀ x ∈ (l.drop n).head?, f x = false) →
      l.dropWhile f = l.drop n
  | [], n, _, _ => by simp
  | x :: l, 0, _, h => by simp [h x]
  | x :: l, n + 1, hin, hout => by
    rw [List.dropWhile_cons_of_pos (hin x (by simp)), List.drop_succ_cons]
    exact dropWhile_eq_drop (fun y hy => hin y (by simp [hy])) hout

-- The position that seeking comes to: what it passes is below the target, and from there on nothing
-- is.
structure SeeksTo (l : PostingList) (start target position : Nat) : Prop where
  lower : start ≤ position
  upper : position ≤ max start l.size
  below : ∀ i p, start ≤ i → i < position → l.toList[i]? = some p → p.internalId < target
  above : ∀ i p, position ≤ i → l.toList[i]? = some p → target ≤ p.internalId

theorem seeksTo_seek (h : l.OrderedIds) (start target : Nat) :
    l.SeeksTo start target (l.seek start target) := by
  have hpart : Search.Partitioned
      fun i : Fin l.postings.size => decide (l.postings[i].internalId < target) := by
    intro i j hij hj
    rcases Nat.lt_or_eq_of_le hij with hlt | heq
    · have hord := List.pairwise_iff_getElem.mp h i j (by simp [toList]) (by simp [toList]) hlt
      simp only [decide_eq_true_eq] at hj ⊢
      exact Nat.lt_of_le_of_lt (by simpa [toList] using hord) hj
    · rwa [Fin.ext heq]
  obtain ⟨hlower, hupper, hbelow, habove⟩ := Search.gallop_spec hpart start
  refine ⟨hlower, hupper, fun i p hstart hi hp => ?_, fun i p hi hp => ?_⟩
  · obtain ⟨hlen, rfl⟩ := List.getElem?_eq_some_iff.mp hp
    simpa [toList] using hbelow ⟨i, by simpa [toList] using hlen⟩ hstart hi
  · obtain ⟨hlen, rfl⟩ := List.getElem?_eq_some_iff.mp hp
    simpa [toList] using habove ⟨i, by simpa [toList] using hlen⟩ hi

-- Seeking drops the postings below the target.
theorem drop_seek (h : l.OrderedIds) (start target : Nat) :
    l.toList.drop (l.seek start target)
      = (l.toList.drop start).dropWhile fun p => p.internalId < target := by
  have hseek := seeksTo_seek h start target
  obtain ⟨n, hn⟩ := Nat.exists_eq_add_of_le hseek.lower
  rw [dropWhile_eq_drop (n := n), List.drop_drop, ← hn]
  · intro q hq
    obtain ⟨i, hi, rfl⟩ := List.mem_take_iff_getElem.mp hq
    rw [List.getElem_drop, decide_eq_true_eq]
    exact hseek.below (start + i) _ (by omega) (by omega) (List.getElem?_eq_getElem _)
  · intro q hq
    rw [List.drop_drop, ← hn, List.head?_drop, Option.mem_def] at hq
    exact decide_eq_false (Nat.not_lt_of_le (hseek.above _ q (Nat.le_refl _) hq))

theorem run_eq (l : PostingList) (id start : Nat) :
    l.run id start = (l.toList.drop start).takeWhile fun p => p.internalId = id := by
  have hcons (h : start < l.postings.size) :
      l.toList.drop start = l.postings[start] :: l.toList.drop (start + 1) :=
    List.drop_eq_getElem_cons h
  fun_induction run l id start with
  | case1 start h hid ih =>
    rw [hcons h, List.takeWhile_cons, if_pos (by simpa using hid),
      ih fun h => List.drop_eq_getElem_cons h]
  | case2 start h hid => rw [hcons h, List.takeWhile_cons, if_neg (by simpa using hid)]
  | case3 start h =>
    have hlen : l.toList.length ≤ start := Nat.le_of_not_lt h
    rw [List.drop_of_length_le hlen, List.takeWhile_nil]

end Reading

end PostingList

end Targeting.Index
