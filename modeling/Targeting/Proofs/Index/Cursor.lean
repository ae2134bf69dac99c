import Mathlib
import Targeting.Index.Candidate
import Targeting.Proofs.Index.Merged
import Targeting.Proofs.Index.PostingList

namespace Targeting

section Prefixes

variable {α : Type} {f : α → Bool} {l : List α}

-- Where what passes a test comes first, reading on for as long as it does finds all of it.
theorem takeWhile_eq_filter (h : l.Pairwise fun a b => f b = true → f a = true) :
    l.takeWhile f = l.filter f := by
  induction l with
  | nil => rfl
  | cons a rest ih =>
    rw [List.pairwise_cons] at h
    cases ha : f a with
    | true => rw [List.takeWhile_cons_of_pos ha, List.filter_cons_of_pos ha, ih h.2]
    | false =>
      have hnone : ∀ b ∈ a :: rest, ¬ f b = true := by
        intro b hb hpass
        rcases List.mem_cons.mp hb with rfl | hb
        · exact Bool.false_ne_true (ha.symm.trans hpass)
        · exact Bool.false_ne_true (ha.symm.trans (h.1 b hb hpass))
      rw [List.takeWhile_cons_of_neg (hnone a List.mem_cons_self), List.filter_eq_nil_iff.mpr hnone]

theorem dropWhile_eq_filter (h : l.Pairwise fun a b => f b = true → f a = true) :
    l.dropWhile f = l.filter fun a => !f a := by
  induction l with
  | nil => rfl
  | cons a rest ih =>
    rw [List.pairwise_cons] at h
    cases ha : f a with
    | true => rw [List.dropWhile_cons_of_pos ha, List.filter_cons_of_neg (by simp [ha]), ih h.2]
    | false =>
      rw [List.dropWhile_cons_of_neg (by simp [ha]), eq_comm, List.filter_eq_self]
      intro b hb
      rcases List.mem_cons.mp hb with rfl | hb
      · rw [ha, Bool.not_false]
      · rw [Bool.not_eq_true', Bool.eq_false_iff]
        exact fun hpass => Bool.false_ne_true (ha.symm.trans (h.1 b hb hpass))

theorem drop_length_takeWhile (f : α → Bool) (l : List α) :
    l.drop (l.takeWhile f).length = l.dropWhile f :=
  calc
    l.drop (l.takeWhile f).length = (l.takeWhile f ++ l.dropWhile f).drop (l.takeWhile f).length := by
      rw [List.takeWhile_append_dropWhile]
    _ = l.dropWhile f := List.drop_left

end Prefixes

namespace Index

namespace Cursor

-- The postings from the reading position on.
def rest (c : Cursor) : List Posting := c.list.toList.drop c.position

def rests (cursors : List Cursor) : List (List Posting) := cursors.map rest

variable {c : Cursor}

theorem rest_eq_cons (c : Cursor) : c.rest = c.current :: c.list.toList.drop (c.position + 1) :=
  List.drop_eq_getElem_cons c.position.isLt

theorem rest_ne_nil (c : Cursor) : c.rest ≠ [] := by
  rw [rest_eq_cons]
  exact List.cons_ne_nil _ _

theorem current_mem_rest (c : Cursor) : c.current ∈ c.rest := by
  rw [rest_eq_cons]
  exact List.mem_cons_self

theorem rest_at? (list : PostingList) (position : Nat) :
    ((at? list position).map rest).getD [] = list.toList.drop position := by
  unfold at?
  split
  next h => rfl
  next h =>
    have hlen : list.toList.length ≤ position := Nat.le_of_not_lt h
    rw [List.drop_of_length_le hlen]
    rfl

-- A cursor that has come to the end of its list is given up.
theorem rests_filterMap {α : Type} (f : α → Option Cursor) (l : List α) :
    rests (l.filterMap f)
      = (l.map fun a => ((f a).map rest).getD []).filter fun postings => !postings.isEmpty := by
  induction l with
  | nil => rfl
  | cons a tail ih =>
    rw [List.filterMap_cons, List.map_cons, List.filter_cons, ← ih]
    cases h : f a with
    | none => rfl
    | some c =>
      have hne : (!c.rest.isEmpty) = true := by simpa using rest_ne_nil c
      rw [Option.map_some, Option.getD_some, if_pos hne]
      rfl

section Ordered

variable (h : c.list.OrderedIds)

include h

theorem ordered_rest : c.rest.Pairwise fun p q => p.internalId ≤ q.internalId :=
  List.Pairwise.sublist (List.drop_sublist _ _) h

theorem id_le_of_mem_rest {p : Posting} (hp : p ∈ c.rest) : c.id ≤ p.internalId := by
  have hrest := ordered_rest h
  rw [rest_eq_cons] at hp hrest
  rcases List.mem_cons.mp hp with rfl | hp
  · exact Nat.le_refl _
  · exact (List.pairwise_cons.mp hrest).1 p hp

-- The postings of the current id stand together.
theorem pairwise_rest_id : c.rest.Pairwise fun p q =>
    decide (q.internalId = c.id) = true → decide (p.internalId = c.id) = true := by
  refine (ordered_rest h).imp_of_mem fun {p q} hp _ hle hq => ?_
  have hcurrent := id_le_of_mem_rest h hp
  simp only [decide_eq_true_eq] at hq ⊢
  omega

theorem run_eq : c.run = c.rest.filter (·.internalId = c.id) := by
  rw [run, PostingList.run_eq]
  exact takeWhile_eq_filter (pairwise_rest_id h)

theorem rest_next? :
    (c.next?.map rest).getD [] = c.rest.filter fun p => decide (c.id + 1 ≤ p.internalId) := by
  have hrun : c.run = c.rest.takeWhile (·.internalId = c.id) := by rw [run, PostingList.run_eq]; rfl
  rw [next?, rest_at?, ← List.drop_drop, ← rest, hrun, drop_length_takeWhile,
    dropWhile_eq_filter (pairwise_rest_id h)]
  refine List.filter_congr fun p hp => ?_
  have hle := id_le_of_mem_rest h hp
  rw [Bool.eq_iff_iff, Bool.not_eq_true', decide_eq_false_iff_not, decide_eq_true_eq]
  omega

theorem rest_seek? (target : Nat) :
    ((c.seek? target).map rest).getD [] = c.rest.filter fun p => decide (target ≤ p.internalId) := by
  rw [seek?, rest_at?, PostingList.drop_seek h, ← rest, dropWhile_eq_filter]
  · refine List.filter_congr fun p _ => ?_
    rw [Bool.eq_iff_iff, Bool.not_eq_true', decide_eq_false_iff_not, decide_eq_true_eq]
    exact Nat.not_lt
  · refine (ordered_rest h).imp fun {p q} hle hq => ?_
    simp only [decide_eq_true_eq] at hq ⊢
    omega

end Ordered

theorem rests_append (a b : List Cursor) : rests (a ++ b) = rests a ++ rests b := List.map_append

theorem mem_flatten_rests {cursors : List Cursor} {p : Posting} :
    p ∈ (rests cursors).flatten ↔ ∃ c ∈ cursors, p ∈ c.rest := by
  rw [rests, ← List.flatMap_def, List.mem_flatMap]

-- No more lists have an id than there are cursors that have not passed it.
theorem listCount_rests_le {cursors : List Cursor} (h : ∀ c ∈ cursors, c.list.OrderedIds) (id : Nat) :
    listCount (rests cursors) id ≤ cursors.countP fun c => c.id ≤ id := by
  rw [listCount, rests, List.countP_map]
  refine List.countP_mono_left fun c hc hany => ?_
  obtain ⟨p, hp, hid⟩ := List.any_eq_true.mp hany
  have hle := id_le_of_mem_rest (h c hc) hp
  simp only [decide_eq_true_eq] at hid ⊢
  omega

theorem list_of_at? {list : PostingList} {position : Nat} {d : Cursor}
    (h : at? list position = some d) : d.list = list := by
  unfold at? at h
  split at h
  · cases h
    rfl
  · cases h

theorem position_of_at? {list : PostingList} {position : Nat} {d : Cursor}
    (h : at? list position = some d) : d.position.val = position := by
  unfold at? at h
  split at h
  · cases h
    rfl
  · cases h

theorem rests_seek? {cursors : List Cursor} (h : ∀ c ∈ cursors, c.list.OrderedIds) (target : Nat) :
    rests (cursors.filterMap (·.seek? target)) = above target (rests cursors) := by
  rw [rests_filterMap, above, rests, List.map_map]
  exact congrArg _ (List.map_congr_left fun c hc => rest_seek? (h c hc) target)

theorem rests_next? {cursors : List Cursor} (h : ∀ c ∈ cursors, c.list.OrderedIds) {id : Nat}
    (hid : ∀ c ∈ cursors, c.id = id) :
    rests (cursors.filterMap next?) = above (id + 1) (rests cursors) := by
  rw [rests_filterMap, above, rests, List.map_map]
  refine congrArg _ (List.map_congr_left fun c hc => ?_)
  rw [rest_next? (h c hc), hid c hc]
  rfl

-- Cursors that have not passed a bound lose nothing below it.
theorem above_rests {cursors : List Cursor} (h : ∀ c ∈ cursors, c.list.OrderedIds) {bound : Nat}
    (hbound : ∀ c ∈ cursors, bound ≤ c.id) : above bound (rests cursors) = rests cursors := by
  refine above_eq_self (fun l hl => ?_) fun p hp => ?_
  · obtain ⟨c, -, rfl⟩ := List.mem_map.mp hl
    exact rest_ne_nil c
  · obtain ⟨c, hc, hp⟩ := mem_flatten_rests.mp hp
    exact (hbound c hc).trans (id_le_of_mem_rest (h c hc) hp)

theorem notAfter_total (a b : Cursor) : (a.notAfter b || b.notAfter a) = true := by
  have hswap : a.current.order b.current = (b.current.order a.current).swap :=
    Std.OrientedCmp.eq_swap
  rw [notAfter, notAfter, hswap]
  cases b.current.order a.current <;> rfl

theorem notAfter_trans (a b c : Cursor) (hab : a.notAfter b = true) (hbc : b.notAfter c = true) :
    a.notAfter c = true :=
  Std.TransCmp.isLE_trans hab hbc

theorem id_le_of_notAfter {a b : Cursor} (h : a.notAfter b = true) : a.id ≤ b.id :=
  Posting.internalId_le_of_order h

theorem pairwise_sorted (cursors : List Cursor) :
    (cursors.mergeSort notAfter).Pairwise fun a b => a.notAfter b = true :=
  List.pairwise_mergeSort notAfter_trans notAfter_total cursors

theorem sorted_perm (cursors : List Cursor) : (cursors.mergeSort notAfter).Perm cursors :=
  List.mergeSort_perm cursors notAfter

end Cursor

end Index

end Targeting
