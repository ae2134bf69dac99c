import Mathlib
import Targeting.Proofs.Index.Cursor

namespace Targeting.Index

open Cursor

-- One round of the merge, with the cursors in some order of what they stand on. The cursors before
-- the one of the needed rank seek the id that it stands on, or that id is taken when the first
-- cursor stands on it as well.
inductive Round (need : Nat) (cursors : List Cursor) : List Candidate → List Cursor → Prop where
  | seek {sorted : List Cursor} {first ranked : Cursor} (hperm : sorted.Perm cursors)
      (hsorted : sorted.Pairwise fun a b => a.notAfter b = true)
      (hfirst : sorted.head? = some first) (hranked : sorted[need - 1]? = some ranked)
      (hid : first.id ≠ ranked.id) :
      Round need cursors []
        ((sorted.take (need - 1)).filterMap (·.seek? ranked.id) ++ sorted.drop (need - 1))
  | take {sorted : List Cursor} {first ranked : Cursor} (hperm : sorted.Perm cursors)
      (hsorted : sorted.Pairwise fun a b => a.notAfter b = true)
      (hfirst : sorted.head? = some first) (hranked : sorted[need - 1]? = some ranked)
      (hid : first.id = ranked.id) :
      Round need cursors
        [⟨first.id, (sorted.takeWhile fun c => c.id == first.id).flatMap Cursor.run⟩]
        ((sorted.takeWhile fun c => c.id == first.id).filterMap next?
          ++ sorted.dropWhile fun c => c.id == first.id)

-- What the merge gives, round by round until too few cursors are left.
inductive Merges (need : Nat) : List Cursor → List Candidate → Prop where
  | stop {cursors : List Cursor} (hfew : cursors.length < need) : Merges need cursors []
  | round {cursors next : List Cursor} {found out : List Candidate}
      (hround : Round need cursors found next) (hrest : Merges need next out) :
      Merges need cursors (found ++ out)

section Rounds

variable {need : Nat} {sorted : List Cursor} {first ranked : Cursor}

theorem first_le_id (hids : sorted.Pairwise fun a b => a.id ≤ b.id)
    (hfirst : sorted.head? = some first) : ∀ c ∈ sorted, first.id ≤ c.id := by
  intro c hc
  cases sorted with
  | nil => cases hc
  | cons d tail =>
    cases hfirst
    rcases List.mem_cons.mp hc with rfl | hc
    · exact Nat.le_refl _
    · exact (List.pairwise_cons.mp hids).1 c hc

theorem ranked_le_id (hids : sorted.Pairwise fun a b => a.id ≤ b.id)
    (hranked : sorted[need - 1]? = some ranked) :
    ∀ c ∈ sorted.drop (need - 1), ranked.id ≤ c.id := by
  refine first_le_id (hids.sublist (List.drop_sublist _ _)) ?_
  rw [List.head?_drop, hranked]

variable (hord : ∀ c ∈ sorted, c.list.OrderedIds) (hids : sorted.Pairwise fun a b => a.id ≤ b.id)

section Seeking

variable (hranked : sorted[need - 1]? = some ranked)

include hord hids hranked

-- Below the id that the cursor of the needed rank stands on an id is in too few lists.
theorem few_below (hneed : 0 < need) {id : Nat} (hid : id < ranked.id) :
    listCount (rests sorted) id < need := by
  have hcount := listCount_rests_le hord id
  have hdrop : (sorted.drop (need - 1)).countP (fun c => decide (c.id ≤ id)) = 0 := by
    refine List.countP_eq_zero.mpr fun c hc => ?_
    have hle := ranked_le_id hids hranked c hc
    simp only [decide_eq_true_eq]
    omega
  have htake := List.countP_le_length (p := fun c : Cursor => decide (c.id ≤ id))
    (l := sorted.take (need - 1))
  rw [List.length_take] at htake
  rw [← List.take_append_drop (need - 1) sorted, List.countP_append] at hcount
  rw [← List.take_append_drop (need - 1) sorted]
  omega

theorem rests_seekRound :
    rests ((sorted.take (need - 1)).filterMap (·.seek? ranked.id) ++ sorted.drop (need - 1))
      = above ranked.id (rests sorted) := by
  have hlater := above_rests (fun c hc => hord c (List.mem_of_mem_drop hc))
    (ranked_le_id hids hranked)
  conv_rhs => rw [← List.take_append_drop (need - 1) sorted, rests_append, above_append, hlater]
  rw [rests_append, rests_seek? fun c hc => hord c (List.mem_of_mem_take hc)]

end Seeking

section Taking

variable (hfirst : sorted.head? = some first)

theorem id_of_mem_on : ∀ c ∈ sorted.takeWhile (fun c => c.id == first.id), c.id = first.id := by
  intro c hc
  simpa using List.mem_takeWhile_imp hc

include hids hfirst

-- The cursors that do not stand on the lowest id are past it.
theorem later_gt :
    ∀ c ∈ sorted.dropWhile (fun c => c.id == first.id), first.id + 1 ≤ c.id := by
  have hleast := first_le_id hids hfirst
  have htogether : sorted.Pairwise fun a b => (b.id == first.id) = true → (a.id == first.id) = true := by
    refine hids.imp_of_mem fun {a b} ha _ hle hb => ?_
    have hfirst := hleast a ha
    simp only [beq_iff_eq] at hb ⊢
    omega
  rw [dropWhile_eq_filter htogether]
  intro c hc
  obtain ⟨hc, hne⟩ := List.mem_filter.mp hc
  have hle := hleast c hc
  have hne : c.id ≠ first.id := by simpa using hne
  omega

theorem need_le_on (hranked : sorted[need - 1]? = some ranked) (hid : first.id = ranked.id) :
    need ≤ (sorted.takeWhile fun c => c.id == first.id).length := by
  by_contra hlt
  rw [← List.takeWhile_append_dropWhile (p := fun c => c.id == first.id) (l := sorted),
    List.getElem?_append_right (by omega)] at hranked
  have hgt := later_gt hids hfirst ranked (List.mem_of_getElem? hranked)
  omega

theorem need_le_listCount (hranked : sorted[need - 1]? = some ranked) (hid : first.id = ranked.id) :
    need ≤ listCount (rests sorted) first.id := by
  have hon := need_le_on hids hfirst hranked hid
  have hall : (sorted.takeWhile fun c => c.id == first.id).countP
      (fun c => c.rest.any (·.internalId = first.id))
        = (sorted.takeWhile fun c => c.id == first.id).length := by
    refine List.countP_eq_length.mpr fun c hc => List.any_eq_true.mpr ⟨c.current, c.current_mem_rest, ?_⟩
    exact decide_eq_true (id_of_mem_on c hc)
  have hsub := (List.takeWhile_sublist (l := sorted) fun c => c.id == first.id).countP_le
    (p := fun c => c.rest.any (·.internalId = first.id))
  rw [listCount, rests, List.countP_map]
  change need ≤ sorted.countP fun c => c.rest.any (·.internalId = first.id)
  omega

include hord

theorem first_le : ∀ p ∈ (rests sorted).flatten, first.id ≤ p.internalId := by
  intro p hp
  obtain ⟨c, hc, hp⟩ := mem_flatten_rests.mp hp
  exact (first_le_id hids hfirst c hc).trans (id_le_of_mem_rest (hord c hc) hp)

theorem rests_takeRound :
    rests ((sorted.takeWhile fun c => c.id == first.id).filterMap next?
        ++ sorted.dropWhile fun c => c.id == first.id)
      = above (first.id + 1) (rests sorted) := by
  have hlater := above_rests (fun c hc => hord c (List.dropWhile_subset _ hc)) (later_gt hids hfirst)
  conv_rhs =>
    rw [← List.takeWhile_append_dropWhile (p := fun c => c.id == first.id) (l := sorted),
      rests_append, above_append, hlater]
  rw [rests_append, rests_next? (fun c hc => hord c (List.takeWhile_subset _ hc)) id_of_mem_on]

-- What is taken is all there is of the id.
theorem taken_eq :
    (sorted.takeWhile fun c => c.id == first.id).flatMap Cursor.run
      = (rests sorted).flatten.filter (·.internalId = first.id) := by
  have hnone : (rests (sorted.dropWhile fun c => c.id == first.id)).flatten.filter
      (fun p => decide (p.internalId = first.id)) = [] := by
    refine List.filter_eq_nil_iff.mpr fun p hp => ?_
    obtain ⟨c, hc, hp⟩ := mem_flatten_rests.mp hp
    have hle := id_le_of_mem_rest (hord c (List.dropWhile_subset _ hc)) hp
    have hgt := later_gt hids hfirst c hc
    simp only [decide_eq_true_eq]
    omega
  conv_rhs =>
    rw [← List.takeWhile_append_dropWhile (p := fun c => c.id == first.id) (l := sorted),
      rests_append, List.flatten_append, List.filter_append, hnone, List.append_nil, rests,
      ← List.flatMap_def, List.filter_flatMap]
  refine List.flatMap_congr fun c hc => ?_
  rw [run_eq (hord c (List.takeWhile_subset _ hc)), id_of_mem_on c hc]

end Taking

end Rounds

namespace Round

variable {need : Nat} {cursors next : List Cursor} {found out : List Candidate}

theorem ordered (h : Round need cursors found next) (hord : ∀ c ∈ cursors, c.list.OrderedIds) :
    ∀ c ∈ next, c.list.OrderedIds := by
  have hsame {f : Cursor → Option Cursor} (hf : ∀ c d, f c = some d → d.list = c.list)
      {moved : List Cursor} (hmoved : ∀ c ∈ moved, c ∈ cursors) :
      ∀ d ∈ moved.filterMap f, d.list.OrderedIds := by
    intro d hd
    obtain ⟨c, hc, hcd⟩ := List.mem_filterMap.mp hd
    rw [hf c d hcd]
    exact hord c (hmoved c hc)
  intro c hc
  cases h with
  | seek hperm =>
    rcases List.mem_append.mp hc with hc | hc
    · exact hsame (fun _ _ h => list_of_at? h)
        (fun d hd => hperm.mem_iff.mp (List.mem_of_mem_take hd)) c hc
    · exact hord c (hperm.mem_iff.mp (List.mem_of_mem_drop hc))
  | take hperm =>
    rcases List.mem_append.mp hc with hc | hc
    · exact hsame (fun _ _ h => list_of_at? h)
        (fun d hd => hperm.mem_iff.mp (List.takeWhile_subset _ hd)) c hc
    · exact hord c (hperm.mem_iff.mp (List.dropWhile_subset _ hc))

theorem advances (h : Round need cursors found next) (hneed : 0 < need)
    (hord : ∀ c ∈ cursors, c.list.OrderedIds) : Advances need (rests cursors) found (rests next) := by
  have hids {sorted : List Cursor} (hsorted : sorted.Pairwise fun a b => a.notAfter b = true) :
      sorted.Pairwise fun a b => a.id ≤ b.id := hsorted.imp id_le_of_notAfter
  cases h with
  | @seek sorted first ranked hperm hsorted hfirst hranked hid =>
    have hord : ∀ c ∈ sorted, c.list.OrderedIds := fun c hc => hord c (hperm.mem_iff.mp hc)
    have hids := hids hsorted
    refine .of_perm (.skips (.of_eq (rests_seekRound hord hids hranked))
      (fun id hlt => few_below hord hids hranked hneed hlt) ?_) (hperm.map rest)
    have hle := first_le_id hids hfirst ranked (List.mem_of_getElem? hranked)
    exact ⟨first.current,
      mem_flatten_rests.mpr ⟨first, List.mem_of_mem_head? hfirst, first.current_mem_rest⟩,
      Nat.lt_of_le_of_ne hle hid⟩
  | @take sorted first ranked hperm hsorted hfirst hranked hid =>
    have hord : ∀ c ∈ sorted, c.list.OrderedIds := fun c hc => hord c (hperm.mem_iff.mp hc)
    have hids := hids hsorted
    exact .of_perm (.takes (.of_eq (rests_takeRound hord hids hfirst)) (first_le hord hids hfirst)
      (.of_eq (taken_eq hord hids hfirst)) (need_le_listCount hids hfirst hranked hid))
      (hperm.map rest)

end Round

-- However the cursors on equal postings are ordered, the merge finds what it should.
theorem Merges.merged {need : Nat} (hneed : 0 < need) {cursors : List Cursor} {out : List Candidate}
    (h : Merges need cursors out) (hord : ∀ c ∈ cursors, c.list.OrderedIds) :
    Merged need (rests cursors) out := by
  induction h with
  | stop hfew => exact .nil (by rwa [rests, List.length_map])
  | round hround _ ih => exact (hround.advances hneed hord).merged hneed (ih (hround.ordered hord))

-- It comes to an end, since every round leaves fewer postings.
theorem acc_round {need : Nat} (hneed : 0 < need) (cursors : List Cursor) (hord : ∀ c ∈ cursors, c.list.OrderedIds) :
    Acc (fun next cursors => ∃ found, Round need cursors found next) cursors := by
  induction hlength : (rests cursors).flatten.length using Nat.strong_induction_on
    generalizing cursors with
  | _ length ih =>
    subst hlength
    refine .intro cursors ?_
    rintro next ⟨found, hround⟩
    exact ih _ ((hround.advances hneed hord).length_lt hneed) next (hround.ordered hord) rfl

-- With more rounds than there are postings, the merge runs until it stops by itself.
theorem merges_skipMerge {need : Nat} (hneed : 0 < need) (fuel : Nat) (cursors : List Cursor)
    (hord : ∀ c ∈ cursors, c.list.OrderedIds) (hfuel : (rests cursors).flatten.length < fuel) :
    Merges need cursors (skipMerge need fuel cursors) := by
  induction fuel generalizing cursors with
  | zero => omega
  | succ fuel ih =>
    have hperm := sorted_perm cursors
    have hsorted := pairwise_sorted cursors
    have hround {found : List Candidate} {next : List Cursor} (h : Round need cursors found next) :
        Merges need cursors (found ++ skipMerge need fuel next) := by
      have hless := (h.advances hneed hord).length_lt hneed
      exact .round h (ih next (h.ordered hord) (by omega))
    rw [skipMerge]
    generalize cursors.mergeSort notAfter = sorted at hperm hsorted
    dsimp only
    split
    next first ranked hfirst hranked =>
      split
      next hid => exact hround (.take hperm hsorted hfirst hranked hid)
      next hid => exact hround (.seek hperm hsorted hfirst hranked hid)
    next hnone =>
      refine .stop (Nat.lt_of_not_le fun hle => ?_)
      rw [← hperm.length_eq] at hle
      exact hnone sorted[0] sorted[need - 1]
        (List.head?_eq_getElem? ▸ List.getElem?_eq_getElem (by omega))
        (List.getElem?_eq_getElem (by omega))

namespace Row

variable {r : Row} {doc : Document}

-- The cursors of the addressed lists that are not empty.
def opened (r : Row) (doc : Document) : List Cursor := (r.addressed doc).filterMap (Cursor.at? · 0)

theorem rests_opened (r : Row) (doc : Document) :
    rests (r.opened doc)
      = ((r.addressed doc).map PostingList.toList).filter fun postings => !postings.isEmpty := by
  rw [opened, rests_filterMap]
  exact congrArg _ (List.map_congr_left fun l _ => rest_at? l 0)

theorem ordered_opened (h : ∀ l ∈ r.addressed doc, l.OrderedIds) :
    ∀ c ∈ r.opened doc, c.list.OrderedIds := by
  intro c hc
  obtain ⟨l, hl, hat⟩ := List.mem_filterMap.mp hc
  rw [list_of_at? hat]
  exact h l hl

theorem merges_candidates (h : ∀ l ∈ r.addressed doc, l.OrderedIds) (slotCount : Nat) :
    Merges (max slotCount 1) (r.opened doc) (r.candidates slotCount doc) := by
  refine merges_skipMerge (by omega) _ _ (ordered_opened h) ?_
  rw [rests_opened, List.flatten_filter_not_isEmpty, ← List.flatMap_def]
  exact Nat.lt_succ_self _

-- The candidates of a row are the ids that are in as many of the addressed lists as there are slots.
theorem candidates_spec (h : ∀ l ∈ r.addressed doc, l.OrderedIds) (slotCount : Nat) :
    Merged (max slotCount 1) ((r.addressed doc).map PostingList.toList)
      (r.candidates slotCount doc) := by
  have hmerged := (merges_candidates h slotCount).merged (by omega) (ordered_opened h)
  rw [rests_opened] at hmerged
  exact hmerged.of_nonempty

end Row

end Targeting.Index
