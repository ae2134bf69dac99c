import Mathlib
import Targeting.Index.Posting

namespace Targeting.Search

variable {size : Nat}

-- What is before comes first: nothing that is before follows what is not.
def Partitioned (before : Fin size → Bool) : Prop :=
  ∀ i j : Fin size, i ≤ j → before j = true → before i = true

-- The position that ends what is before, from `lo` on.
structure IsBoundary (before : Fin size → Bool) (lo position : Nat) : Prop where
  lower : lo ≤ position
  upper : position ≤ max lo size
  below : ∀ i : Fin size, lo ≤ i.val → i.val < position → before i = true
  above : ∀ i : Fin size, position ≤ i.val → before i = false

theorem partitionPoint_bounds (before : Fin size → Bool) (lo hi : Nat) (h : hi ≤ size)
    (hle : lo ≤ hi) :
    lo ≤ partitionPoint before lo hi h ∧ partitionPoint before lo hi h ≤ hi := by
  fun_induction partitionPoint before lo hi h with
  | case1 lo hi h hlt hmid ih =>
    have := ih (by omega)
    omega
  | case2 lo hi h hlt hmid ih =>
    have := ih (by omega)
    omega
  | case3 lo hi h hlt => omega

theorem partitionPoint_spec {before : Fin size → Bool} (hp : Partitioned before) (lo hi : Nat)
    (h : hi ≤ size) :
    (∀ i : Fin size, lo ≤ i.val → i.val < partitionPoint before lo hi h → before i = true) ∧
    (∀ i : Fin size, partitionPoint before lo hi h ≤ i.val → i.val < hi → before i = false) := by
  fun_induction partitionPoint before lo hi h with
  | case1 lo hi h hlt hmid ih =>
    refine ⟨fun i hlo hi' => ?_, ih.2⟩
    by_cases hm : i.val ≤ lo + (hi - lo) / 2
    · exact hp i _ hm hmid
    · exact ih.1 i (by omega) hi'
  | case2 lo hi h hlt hmid ih =>
    refine ⟨ih.1, fun i hge hlt' => ?_⟩
    by_cases hm : i.val < lo + (hi - lo) / 2
    · exact ih.2 i hge hm
    · by_contra hi'
      exact hmid (hp _ i (Nat.le_of_not_lt hm) (by simpa using hi'))
  | case3 lo hi h hlt => exact ⟨fun i _ _ => by omega, fun i _ _ => by omega⟩

-- A last position found to be before, and one that was not got past.
structure IsBracket (before : Fin size → Bool) (lo : Nat) (ends : Nat × Nat) : Prop where
  lower : lo ≤ ends.1
  found : ∃ h : ends.1 < size, before ⟨ends.1, h⟩ = true
  ordered : ends.1 < ends.2
  upper : ends.2 ≤ size
  stopped : ∀ h : ends.2 < size, before ⟨ends.2, h⟩ = false

theorem bracket_spec (before : Fin size → Bool) (lo step : Nat) (hstep : 0 < step)
    (hlo : lo < size) (hbefore : before ⟨lo, hlo⟩ = true) :
    IsBracket before lo (bracket before lo step hstep) := by
  fun_induction bracket before lo step hstep with
  | case1 lo step hstep h hb ih =>
    have hrest := ih h hb
    exact { hrest with lower := by have := hrest.lower; omega }
  | case2 lo step hstep h hb =>
    exact ⟨Nat.le_refl _, ⟨hlo, hbefore⟩, by simp only; omega, Nat.le_of_lt h,
      fun _ => by simpa using hb⟩
  | case3 lo step hstep h =>
    exact ⟨Nat.le_refl _, ⟨hlo, hbefore⟩, hlo, Nat.le_refl _, fun h' => absurd h' (by simp)⟩

theorem IsBracket.partitionPoint {before : Fin size → Bool} {start : Nat} {ends : Nat × Nat}
    (hends : IsBracket before start ends) (hp : Partitioned before) :
    IsBoundary before start
      (partitionPoint before (ends.1 + 1) (min ends.2 size) (Nat.min_le_right _ _)) := by
  obtain ⟨lo, hi⟩ := ends
  obtain ⟨hle, ⟨hlo, hbefore⟩, hlt, hhi, hstop⟩ := hends
  dsimp only at *
  have hbounds := partitionPoint_bounds before (lo + 1) (min hi size) (Nat.min_le_right _ _)
    (by omega)
  have hspec := partitionPoint_spec hp (lo + 1) (min hi size) (Nat.min_le_right _ _)
  refine ⟨by omega, by omega, fun i hi hi' => ?_, fun i hge => ?_⟩
  · by_cases hm : i.val ≤ lo
    · exact hp i _ hm hbefore
    · exact hspec.1 i (by omega) hi'
  · by_cases hm : i.val < min hi size
    · exact hspec.2 i hge hm
    · have hend : hi < size := by omega
      by_contra hi'
      have := hp ⟨hi, hend⟩ i (by simp only [Fin.le_def]; omega) (by simpa using hi')
      simp [hstop hend] at this

theorem gallop_spec {before : Fin size → Bool} (hp : Partitioned before) (start : Nat) :
    IsBoundary before start (gallop before start) := by
  unfold gallop
  split
  next h =>
    split
    next hb => exact (bracket_spec before start 1 Nat.one_pos h hb).partitionPoint hp
    next hb =>
      refine ⟨Nat.le_refl _, by omega, fun i hi hi' => by omega, fun i hi => ?_⟩
      by_contra hi'
      exact hb (hp ⟨start, h⟩ i hi (by simpa using hi'))
  next h => exact ⟨Nat.le_refl _, by omega, fun i _ _ => by omega, fun i _ => by omega⟩

end Targeting.Search
