import Mathlib
import Targeting.Index.Candidate

namespace Targeting.Index

-- How many of some lists an id is in.
def listCount (lists : List (List Posting)) (id : Nat) : Nat :=
  lists.countP fun l => l.any (·.internalId = id)

-- What is left of some lists from a bound on, without those of which nothing is left.
def above (bound : Nat) (lists : List (List Posting)) : List (List Posting) :=
  (lists.map (List.filter fun p => decide (bound ≤ p.internalId))).filter fun l => !l.isEmpty

-- The ids that are in enough of some lists, with all that the lists hold for each.
structure Merged (need : Nat) (lists : List (List Posting)) (out : List Candidate) : Prop where
  ascending : out.Pairwise fun a b => a.internalId < b.internalId
  found : ∀ id, (∃ c ∈ out, c.internalId = id) ↔ need ≤ listCount lists id
  postings : ∀ c ∈ out, c.postings.Perm (lists.flatten.filter (·.internalId = c.internalId))

section Lists

variable {lists : List (List Posting)} {bound id : Nat}

theorem listCount_le_length : listCount lists id ≤ lists.length := List.countP_le_length

theorem listCount_eq_zero (h : ∀ p ∈ lists.flatten, p.internalId ≠ id) : listCount lists id = 0 := by
  refine List.countP_eq_zero.mpr fun l hl hany => ?_
  obtain ⟨p, hp, hid⟩ := List.any_eq_true.mp hany
  exact h p (List.mem_flatten_of_mem hl hp) (of_decide_eq_true hid)

theorem exists_of_listCount_pos (h : 0 < listCount lists id) :
    ∃ p ∈ lists.flatten, p.internalId = id := by
  obtain ⟨l, hl, hany⟩ := List.countP_pos_iff.mp h
  obtain ⟨p, hp, hid⟩ := List.any_eq_true.mp hany
  exact ⟨p, List.mem_flatten_of_mem hl hp, of_decide_eq_true hid⟩

theorem listCount_perm {other : List (List Posting)} (h : lists.Perm other) :
    listCount lists id = listCount other id := h.countP_eq _

theorem above_perm {other : List (List Posting)} (h : lists.Perm other) :
    (above bound lists).Perm (above bound other) := (h.map _).filter _

theorem listCount_filter_nonempty :
    listCount (lists.filter fun l => !l.isEmpty) id = listCount lists id := by
  rw [listCount, List.countP_filter]
  refine List.countP_congr fun l _ => ?_
  cases l <;> simp

-- In lists without an id twice it counts as often as there are postings with it.
theorem listCount_eq_countP (h : ∀ l ∈ lists, l.Pairwise fun p q => p.internalId < q.internalId) :
    listCount lists id = lists.flatten.countP (·.internalId = id) := by
  induction lists with
  | nil => rfl
  | cons l rest ih =>
    have hrest := ih fun m hm => h m (List.mem_cons_of_mem _ hm)
    have hnodup : (l.map Posting.internalId).Nodup :=
      List.pairwise_map.mpr ((h l List.mem_cons_self).imp Nat.ne_of_lt)
    have hcount : l.countP (·.internalId = id) = (l.map Posting.internalId).count id := by
      rw [List.count, List.countP_map]
      rfl
    have hmem : id ∈ l.map Posting.internalId ↔ l.any (·.internalId = id) = true := by simp
    rw [List.flatten_cons, List.countP_append, ← hrest, listCount, List.countP_cons, ← listCount,
      hcount, hnodup.count]
    simp only [hmem]
    omega

theorem flatten_above :
    (above bound lists).flatten = lists.flatten.filter fun p => decide (bound ≤ p.internalId) := by
  rw [above, List.flatten_filter_not_isEmpty, List.filter_flatten]

theorem above_append (more : List (List Posting)) :
    above bound (lists ++ more) = above bound lists ++ above bound more := by
  rw [above, List.map_append, List.filter_append, above, above]

theorem above_eq_self (hne : ∀ l ∈ lists, l ≠ []) (h : ∀ p ∈ lists.flatten, bound ≤ p.internalId) :
    above bound lists = lists := by
  have hmap : lists.map (List.filter fun p => decide (bound ≤ p.internalId)) = lists := by
    conv_rhs => rw [← List.map_id' lists]
    refine List.map_congr_left fun l hl => List.filter_eq_self.mpr fun p hp => ?_
    exact decide_eq_true (h p (List.mem_flatten_of_mem hl hp))
  rw [above, hmap]
  exact List.filter_eq_self.mpr fun l hl => by simpa using hne l hl

theorem listCount_above_of_le (h : bound ≤ id) : listCount (above bound lists) id = listCount lists id := by
  rw [above, listCount_filter_nonempty, listCount, List.countP_map]
  refine List.countP_congr fun l _ => ?_
  simp only [Function.comp_apply, List.any_eq_true, List.mem_filter, decide_eq_true_eq]
  constructor
  · rintro ⟨p, ⟨hp, -⟩, hid⟩
    exact ⟨p, hp, hid⟩
  · rintro ⟨p, hp, hid⟩
    exact ⟨p, ⟨hp, by omega⟩, hid⟩

theorem listCount_above_of_lt (h : id < bound) : listCount (above bound lists) id = 0 := by
  refine listCount_eq_zero fun p hp => ?_
  rw [flatten_above] at hp
  have hle := of_decide_eq_true (List.mem_filter.mp hp).2
  omega

theorem filter_flatten_above (h : bound ≤ id) :
    (above bound lists).flatten.filter (·.internalId = id) = lists.flatten.filter (·.internalId = id) := by
  rw [flatten_above, List.filter_filter]
  refine List.filter_congr fun p _ => ?_
  rw [Bool.eq_iff_iff, Bool.and_eq_true, decide_eq_true_eq, decide_eq_true_eq]
  omega

end Lists

namespace Merged

variable {need : Nat} {lists : List (List Posting)} {out : List Candidate}

theorem of_perm {other : List (List Posting)} (h : Merged need lists out) (hperm : lists.Perm other) :
    Merged need other out where
  ascending := h.ascending
  found id := by rw [h.found, listCount_perm hperm]
  postings c hc := (h.postings c hc).trans (hperm.flatten.filter _)

-- Empty lists make no difference.
theorem of_nonempty (h : Merged need (lists.filter fun l => !l.isEmpty) out) : Merged need lists out where
  ascending := h.ascending
  found id := by rw [h.found, listCount_filter_nonempty]
  postings c hc := by
    have hpostings := h.postings c hc
    rwa [List.flatten_filter_not_isEmpty] at hpostings

-- Nothing is found in too few lists.
theorem nil (h : lists.length < need) : Merged need lists [] where
  ascending := List.Pairwise.nil
  found id := by
    have hle : listCount lists id ≤ lists.length := listCount_le_length
    simp only [List.not_mem_nil, false_and, exists_false, false_iff]
    omega
  postings c hc := nomatch hc

theorem bound_le (hneed : 0 < need) {bound : Nat} (h : Merged need (above bound lists) out) :
    ∀ c ∈ out, bound ≤ c.internalId := by
  intro c hc
  by_contra hlt
  have hfound := (h.found c.internalId).mp ⟨c, hc, rfl⟩
  rw [listCount_above_of_lt (Nat.lt_of_not_le hlt)] at hfound
  omega

-- Ids that are in too few lists may be passed over.
theorem skip (hneed : 0 < need) {bound : Nat} (h : Merged need (above bound lists) out)
    (hfew : ∀ id < bound, listCount lists id < need) : Merged need lists out where
  ascending := h.ascending
  found id := by
    rw [h.found]
    by_cases hid : bound ≤ id
    · rw [listCount_above_of_le hid]
    · have hlt := hfew id (Nat.lt_of_not_le hid)
      rw [listCount_above_of_lt (Nat.lt_of_not_le hid)]
      omega
  postings c hc := by
    have hpostings := h.postings c hc
    rwa [filter_flatten_above (h.bound_le hneed c hc)] at hpostings

-- The lowest id is taken when it is in enough lists.
theorem cons (hneed : 0 < need) {c : Candidate} (h : Merged need (above (c.internalId + 1) lists) out)
    (hleast : ∀ p ∈ lists.flatten, c.internalId ≤ p.internalId)
    (hpostings : c.postings.Perm (lists.flatten.filter (·.internalId = c.internalId)))
    (hcount : need ≤ listCount lists c.internalId) : Merged need lists (c :: out) where
  ascending := List.pairwise_cons.mpr ⟨h.bound_le hneed, h.ascending⟩
  found id := by
    simp only [List.mem_cons, exists_eq_or_imp, h.found]
    rcases Nat.lt_trichotomy id c.internalId with hid | rfl | hid
    · have hnone : listCount lists id = 0 := listCount_eq_zero fun p hp => by
        have hle := hleast p hp
        omega
      rw [listCount_above_of_lt (by omega), hnone]
      omega
    · simp [hcount]
    · rw [listCount_above_of_le hid]
      omega
  postings d hd := by
    rcases List.mem_cons.mp hd with rfl | hd
    · exact hpostings
    · have hbound := h.bound_le hneed d hd
      have hd := h.postings d hd
      rwa [filter_flatten_above hbound] at hd

end Merged

-- What one round of a merge may do. It passes over ids that are in too few lists, or it takes the
-- lowest id, and some posting is left behind.
inductive Advances (need : Nat) (lists : List (List Posting)) :
    List Candidate → List (List Posting) → Prop where
  | skips {bound : Nat} {left : List (List Posting)} (hleft : left.Perm (above bound lists))
      (hfew : ∀ id < bound, listCount lists id < need)
      (hless : ∃ p ∈ lists.flatten, p.internalId < bound) : Advances need lists [] left
  | takes {c : Candidate} {left : List (List Posting)}
      (hleft : left.Perm (above (c.internalId + 1) lists))
      (hleast : ∀ p ∈ lists.flatten, c.internalId ≤ p.internalId)
      (hpostings : c.postings.Perm (lists.flatten.filter (·.internalId = c.internalId)))
      (hcount : need ≤ listCount lists c.internalId) : Advances need lists [c] left

namespace Advances

variable {need : Nat} {lists left : List (List Posting)} {found out : List Candidate}

theorem of_perm {other : List (List Posting)} (h : Advances need lists found left)
    (hperm : lists.Perm other) : Advances need other found left := by
  have hmem (p : Posting) : p ∈ lists.flatten ↔ p ∈ other.flatten := hperm.flatten.mem_iff
  cases h with
  | skips hleft hfew hless =>
    refine .skips (hleft.trans (above_perm hperm)) (fun id hid => ?_) (by simpa only [hmem] using hless)
    rw [← listCount_perm hperm]
    exact hfew id hid
  | takes hleft hleast hpostings hcount =>
    refine .takes (hleft.trans (above_perm hperm)) (by simpa only [hmem] using hleast)
      (hpostings.trans (hperm.flatten.filter _)) ?_
    rwa [← listCount_perm hperm]

theorem exists_bound (h : Advances need lists found left) (hneed : 0 < need) :
    ∃ bound, left.Perm (above bound lists) ∧ ∃ p ∈ lists.flatten, p.internalId < bound := by
  cases h with
  | skips hleft _ hless => exact ⟨_, hleft, hless⟩
  | takes hleft _ _ hcount =>
    obtain ⟨p, hp, hid⟩ := exists_of_listCount_pos (Nat.lt_of_lt_of_le hneed hcount)
    exact ⟨_, hleft, p, hp, by omega⟩

-- Fewer postings are left.
theorem length_lt (h : Advances need lists found left) (hneed : 0 < need) :
    left.flatten.length < lists.flatten.length := by
  obtain ⟨bound, hleft, p, hp, hlt⟩ := h.exists_bound hneed
  rw [hleft.flatten.length_eq, flatten_above]
  exact List.length_filter_lt_length_iff_exists.mpr ⟨p, hp, by simpa using hlt⟩

theorem merged (h : Advances need lists found left) (hneed : 0 < need) (hrest : Merged need left out) :
    Merged need lists (found ++ out) := by
  cases h with
  | skips hleft hfew _ => exact (hrest.of_perm hleft).skip hneed hfew
  | takes hleft hleast hpostings hcount =>
    exact (hrest.of_perm hleft).cons hneed hleast hpostings hcount

end Advances

end Targeting.Index
