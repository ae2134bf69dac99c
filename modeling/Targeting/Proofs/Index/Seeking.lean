import Mathlib
import Targeting.Proofs.Index.PostingList

namespace Targeting

namespace Search

-- The searches once more, over reads that fail where there is nothing to be read. Bounds are checked
-- where the search itself checks them and are otherwise on trust.

-- Halves the stretch from `lo` up to `hi`.
def partitionPoint? (before? : Nat → Option Bool) (lo hi : Nat) : Option Nat :=
  if lo < hi then
    match before? (lo + (hi - lo) / 2) with
    | none => none
    | some true => partitionPoint? before? (lo + (hi - lo) / 2 + 1) hi
    | some false => partitionPoint? before? lo (lo + (hi - lo) / 2)
  else
    some lo
termination_by hi - lo

-- The position that was not got past may be beyond the end.
def bracket? (before? : Nat → Option Bool) (size lo step : Nat) (hstep : 0 < step) :
    Option (Nat × Nat) :=
  if lo + step < size then
    match before? (lo + step) with
    | none => none
    | some true => bracket? before? size (lo + step) (2 * step) (by omega)
    | some false => some (lo, lo + step)
  else
    some (lo, lo + step)
termination_by size - lo

-- Fails, too, when the stretch to be halved has its ends the wrong way round or goes past the end.
def gallop? (before? : Nat → Option Bool) (size start : Nat) : Option Nat :=
  if size ≤ start then some start
  else
    match before? start with
    | none => none
    | some false => some start
    | some true =>
      match bracket? before? size start 1 Nat.one_pos with
      | none => none
      | some (lo, hi) =>
        if lo + 1 ≤ min hi size ∧ min hi size ≤ size then
          partitionPoint? before? (lo + 1) (min hi size)
        else
          none

variable {size : Nat} {before? : Nat → Option Bool} {before : Fin size → Bool}

theorem partitionPoint?_eq (hreads : ∀ i (h : i < size), before? i = some (before ⟨i, h⟩)) (lo hi : Nat)
    (h : hi ≤ size) : partitionPoint? before? lo hi = some (partitionPoint before lo hi h) := by
  fun_induction partitionPoint before lo hi h with
  | case1 lo hi h hlt hmid ih =>
    rw [partitionPoint?, if_pos hlt, hreads _ (by omega), hmid]
    exact ih
  | case2 lo hi h hlt hmid ih =>
    rw [partitionPoint?, if_pos hlt, hreads _ (by omega), Bool.eq_false_of_not_eq_true hmid]
    exact ih
  | case3 lo hi h hlt => rw [partitionPoint?, if_neg hlt]

-- Cut off at the end, the bracket is the one that is found with bounds.
theorem bracket?_eq (hreads : ∀ i (h : i < size), before? i = some (before ⟨i, h⟩)) (lo step : Nat)
    (hstep : 0 < step) : ∃ hi, bracket? before? size lo step hstep
      = some ((bracket before lo step hstep).1, hi) ∧
        min hi size = (bracket before lo step hstep).2 := by
  fun_induction bracket before lo step hstep with
  | case1 lo step hstep h hb ih =>
    rw [bracket?, if_pos h, hreads _ h, hb]
    exact ih
  | case2 lo step hstep h hb =>
    rw [bracket?, if_pos h, hreads _ h, Bool.eq_false_of_not_eq_true hb]
    exact ⟨lo + step, rfl, Nat.min_eq_left (Nat.le_of_lt h)⟩
  | case3 lo step hstep h =>
    rw [bracket?, if_neg h]
    exact ⟨lo + step, rfl, Nat.min_eq_right (Nat.le_of_not_lt h)⟩

-- No read and no stretch is out of bounds, in whatever order the positions are.
theorem gallop?_eq (hreads : ∀ i (h : i < size), before? i = some (before ⟨i, h⟩)) (start : Nat) :
    gallop? before? size start = some (gallop before start) := by
  unfold gallop
  split
  next h =>
    rw [gallop?, if_neg (Nat.not_le_of_lt h), hreads _ h]
    cases hb : before ⟨start, h⟩ with
    | false => rfl
    | true =>
      obtain ⟨hi, hbracket, hmin⟩ := bracket?_eq hreads start 1 Nat.one_pos
      have hends := bracket_spec before start 1 Nat.one_pos h hb
      have hclamp : min (bracket before start 1 Nat.one_pos).2 size = min hi size := by
        rw [← hmin, Nat.min_assoc, Nat.min_self]
      simp only [hbracket, hclamp, if_true]
      rw [if_pos ⟨hmin ▸ hends.ordered, Nat.min_le_right _ _⟩]
      exact partitionPoint?_eq hreads _ _ (Nat.min_le_right _ _)
  next h => rw [gallop?, if_pos (Nat.le_of_not_lt h)]

end Search

namespace Index.PostingList

-- Seeking in a list that has a posting at a position or none.
def seek? (l : PostingList) (start target : Nat) : Option Nat :=
  Search.gallop? (fun i => l.postings[i]?.map fun p => decide (p.internalId < target)) l.size start

theorem seek?_eq (l : PostingList) (start target : Nat) :
    l.seek? start target = some (l.seek start target) :=
  Search.gallop?_eq (fun i h => by rw [Array.getElem?_eq_getElem h]; rfl) start

-- What seeking is to find: a position that is past the end or whose posting has the target's or a
-- higher id.
def IsReached (l : PostingList) (target position : Nat) : Prop :=
  l.size ≤ position ∨ ∃ p, l.toList[position]? = some p ∧ target ≤ p.internalId

-- Seeking reads nothing out of bounds and comes to the position where walking on one by one would
-- first stop.
theorem seek_reads_least {l : PostingList} (h : l.OrderedIds) (start target : Nat) :
    l.seek? start target = some (l.seek start target) ∧
      IsLeast {position | start ≤ position ∧ l.IsReached target position} (l.seek start target) := by
  have hseek := seeksTo_seek h start target
  refine ⟨l.seek?_eq start target, ⟨hseek.lower, ?_⟩, ?_⟩
  · rcases Nat.lt_or_ge (l.seek start target) l.size with hlt | hge
    · have hposting := List.getElem?_eq_getElem (l := l.toList) hlt
      exact .inr ⟨_, hposting, hseek.above _ _ (Nat.le_refl _) hposting⟩
    · exact .inl hge
  · rintro position ⟨hstart, hreached⟩
    by_contra hlt
    have hpassed : position < l.seek start target := Nat.lt_of_not_le hlt
    have hupper := hseek.upper
    rcases hreached with hend | ⟨p, hp, htarget⟩
    · omega
    · exact absurd (hseek.below position p hstart hpassed hp) (Nat.not_lt_of_le htarget)

-- Two steps on from the second posting, to the first of two postings with the id sought.
theorem seek_reads_least_ties :
    let l : PostingList := ⟨#[.sentinel 1 "a", .sentinel 1 "a", .sentinel 3 "b", .sentinel 5 "c",
      .sentinel 8 "d", .sentinel 8 "d", .sentinel 9 "e"]⟩
    l.OrderedIds ∧ l.seek? 1 8 = some 4 ∧
      IsLeast {position | 1 ≤ position ∧ l.IsReached 8 position} (l.seek 1 8) := by
  intro l
  have hordered : l.Ordered := by decide +kernel
  obtain ⟨hreads, hleast⟩ := seek_reads_least hordered.ids 1 8
  have hfour : l.seek 1 8 = 4 := by decide +kernel
  exact ⟨hordered.ids, hfour ▸ hreads, hleast⟩

end Index.PostingList

end Targeting
