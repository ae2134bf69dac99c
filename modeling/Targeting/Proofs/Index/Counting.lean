import Mathlib
import Targeting.Index.Candidate
import Targeting.Proofs.Binary64.Order

namespace Targeting.Index

-- A tally after some inclusions, given by their weights, and some exclusions.
inductive Tally.Counts (seed : Int) (weights : List Binary64) (exclusions : Nat) (t : Tally) : Prop where
  | excluding (hweights : weights = []) (hbest : t.best = none) (hcount : t.count = seed + exclusions)
  | including (best : Binary64) (hbest : t.best = some best) (h : best.IsBest weights)
      (hcount : 0 < t.count)

namespace Tally.Counts

variable {seed : Int} {weights : List Binary64} {exclusions : Nat} {t : Tally}

theorem start (seed : Int) : Counts seed [] 0 (.start seed) :=
  .excluding rfl rfl (by simp [Tally.start])

theorem meetExclusion (h : Counts seed weights exclusions t) :
    Counts seed weights (exclusions + 1) t.meetExclusion := by
  cases h with
  | excluding hweights hbest hcount =>
    refine .excluding hweights hbest ?_
    rw [Tally.meetExclusion, hcount]
    push_cast
    ring
  | including best hbest h hcount =>
    refine .including best hbest h ?_
    change 0 < t.count + 1
    omega

theorem meetInclusion (h : Counts seed weights exclusions t) {weight : Binary64}
    (hweight : weight.isNaN = false) :
    Counts seed (weights ++ [weight]) exclusions (t.meetInclusion weight) := by
  cases h with
  | excluding hweights hbest hcount =>
    subst hweights
    exact .including weight (by rw [Tally.meetInclusion, hbest]) (.singleton hweight) Int.one_pos
  | including best hbest h hcount =>
    exact .including (best.max weight) (by rw [Tally.meetInclusion, hbest]) (h.max hweight) Int.one_pos

end Tally.Counts

-- The weights of the inclusions among some postings that speak for a disjunction.
def includedAt (postings : List Posting) (d : Nat) : List Binary64 :=
  (postings.filter fun p => decide (p.kind = .included ∧ p.slot = .position d)).map Posting.weight

-- The exclusions among them, each once.
def excludedAt (postings : List Posting) (d : Nat) : Finset Nat :=
  ((postings.filter fun p =>
    decide (p.kind = .excluded ∧ p.slot = .position d)).map Posting.ordinal).toFinset

-- The tallies after some postings.
structure Tallies.Counts (seeds : List Int) (postings : List Posting) (t : Tallies) : Prop where
  length : t.disjunctions.length = seeds.length
  excluded : ∀ o, o ∈ t.excluded ↔ ∃ p ∈ postings, p.kind = .excluded ∧ p.ordinal = o
  tally : ∀ (d : Nat) (seed : Int) (tally : Tally), seeds[d]? = some seed → t.disjunctions[d]? = some tally →
    tally.Counts seed (includedAt postings d) (excludedAt postings d).card

-- Postings that can be counted: each speaks for a disjunction or is the sentinel, and the exclusions
-- are told apart by their ordinals.
structure Countable (seeds : List Int) (postings : List Posting) : Prop where
  slot : ∀ p ∈ postings, (p.slot = .sentinel ∧ p.kind = .included) ∨
    ∃ d < seeds.length, p.slot = .position d
  weight : ∀ p ∈ postings, p.weight.isNaN = false
  ordinal : ∀ p ∈ postings, ∀ q ∈ postings, p.kind = .excluded → q.kind = .excluded →
    p.ordinal = q.ordinal → p.slot = q.slot

section Snoc

variable {postings : List Posting} {p : Posting} {d : Nat}

theorem includedAt_snoc_of_pos (hkind : p.kind = .included) (hslot : p.slot = .position d) :
    includedAt (postings ++ [p]) d = includedAt postings d ++ [p.weight] := by
  simp [includedAt, List.filter_append, hkind, hslot]

theorem includedAt_snoc_of_neg (h : ¬ (p.kind = .included ∧ p.slot = .position d)) :
    includedAt (postings ++ [p]) d = includedAt postings d := by
  simp [includedAt, List.filter_append, h]

theorem excludedAt_snoc_of_pos (hkind : p.kind = .excluded) (hslot : p.slot = .position d) :
    excludedAt (postings ++ [p]) d = insert p.ordinal (excludedAt postings d) := by
  ext o
  simp [excludedAt, List.filter_append, hkind, hslot]

theorem excludedAt_snoc_of_neg (h : ¬ (p.kind = .excluded ∧ p.slot = .position d)) :
    excludedAt (postings ++ [p]) d = excludedAt postings d := by
  simp [excludedAt, List.filter_append, h]

theorem mem_excludedAt {o : Nat} :
    o ∈ excludedAt postings d ↔
      ∃ p ∈ postings, (p.kind = .excluded ∧ p.slot = .position d) ∧ p.ordinal = o := by
  simp [excludedAt, and_assoc]

end Snoc

namespace Tallies

variable {seeds : List Int} {postings : List Posting} {t : Tallies}

theorem counts_start (seeds : List Int) : (start seeds).Counts seeds [] where
  length := by simp [start]
  excluded := by simp [start]
  tally d seed tally hseed htally := by
    rw [start, List.getElem?_map, hseed, Option.map_some, Option.some.injEq] at htally
    rw [← htally]
    exact .start seed

theorem getElem?_modify_ne {f : Tally → Tally} {l : List Tally} {d e : Nat} (h : d ≠ e) :
    (l.modify d f)[e]? = l[e]? := by
  simp [h]

-- A tally after a change at some position.
theorem getElem?_modify_cases {f : Tally → Tally} {l : List Tally} {d e : Nat} {tally : Tally}
    (h : (l.modify d f)[e]? = some tally) :
    (d = e ∧ ∃ old, l[d]? = some old ∧ f old = tally) ∨ (d ≠ e ∧ l[e]? = some tally) := by
  by_cases he : d = e
  · subst he
    rw [List.getElem?_modify_eq] at h
    exact Or.inl ⟨rfl, Option.map_eq_some_iff.mp h⟩
  · rw [getElem?_modify_ne he] at h
    exact Or.inr ⟨he, h⟩

theorem excluded_snoc_of_included (h : t.Counts seeds postings) {p : Posting}
    (hkind : p.kind = .included) (o : Nat) :
    o ∈ t.excluded ↔ ∃ q ∈ postings ++ [p], q.kind = .excluded ∧ q.ordinal = o := by
  rw [h.excluded]
  simp [hkind, or_and_right, exists_or]

-- The sentinel speaks for no disjunction.
theorem Counts.meetSentinel (h : t.Counts seeds postings) {p : Posting}
    (hslot : p.slot = .sentinel) (hkind : p.kind = .included) :
    t.Counts seeds (postings ++ [p]) where
  length := h.length
  excluded := excluded_snoc_of_included h hkind
  tally e seed tally hseed htally := by
    rw [includedAt_snoc_of_neg (by simp [hslot]), excludedAt_snoc_of_neg (by simp [hslot])]
    exact h.tally e seed tally hseed htally

theorem Counts.meetInclusion (h : t.Counts seeds postings) {p : Posting} {d : Nat}
    (hslot : p.slot = .position d) (hkind : p.kind = .included) (hweight : p.weight.isNaN = false) :
    Counts seeds (postings ++ [p])
      { t with disjunctions := t.disjunctions.modify d (·.meetInclusion p.weight) } where
  length := by simpa using h.length
  excluded := excluded_snoc_of_included h hkind
  tally e seed tally hseed htally := by
    rw [excludedAt_snoc_of_neg (by simp [hkind])]
    rcases getElem?_modify_cases htally with ⟨rfl, old, hold, rfl⟩ | ⟨he, hold⟩
    · rw [includedAt_snoc_of_pos hkind hslot]
      exact (h.tally d seed old hseed hold).meetInclusion hweight
    · rw [includedAt_snoc_of_neg (by simp [hslot, he])]
      exact h.tally e seed tally hseed hold

-- An exclusion that was met before.
theorem Counts.meetAgain (h : t.Counts seeds postings) {p q : Posting} {d : Nat}
    (hslot : p.slot = .position d) (hkind : p.kind = .excluded) (hq : q ∈ postings)
    (hqslot : q.slot = .position d) (hqkind : q.kind = .excluded) (hordinal : q.ordinal = p.ordinal) :
    t.Counts seeds (postings ++ [p]) where
  length := h.length
  excluded o := by
    rw [h.excluded]
    constructor
    · rintro ⟨r, hr, hro⟩
      exact ⟨r, List.mem_append_left _ hr, hro⟩
    · rintro ⟨r, hr, hrkind, hro⟩
      rcases List.mem_append.mp hr with hr | hr
      · exact ⟨r, hr, hrkind, hro⟩
      · rw [List.mem_singleton.mp hr] at hro
        exact ⟨q, hq, hqkind, hordinal.trans hro⟩
  tally e seed tally hseed htally := by
    rw [includedAt_snoc_of_neg (by simp [hkind])]
    by_cases he : d = e
    · subst he
      have hin : p.ordinal ∈ excludedAt postings d :=
        mem_excludedAt.mpr ⟨q, hq, ⟨hqkind, hqslot⟩, hordinal⟩
      rw [excludedAt_snoc_of_pos hkind hslot, Finset.insert_eq_of_mem hin]
      exact h.tally d seed tally hseed htally
    · rw [excludedAt_snoc_of_neg (by simp [hslot, he])]
      exact h.tally e seed tally hseed htally

theorem Counts.meetExclusion (h : t.Counts seeds postings) {p : Posting} {d : Nat}
    (hslot : p.slot = .position d) (hkind : p.kind = .excluded)
    (hnew : ∀ q ∈ postings, q.kind = .excluded → q.ordinal ≠ p.ordinal) :
    Counts seeds (postings ++ [p])
      ⟨t.disjunctions.modify d .meetExclusion, p.ordinal :: t.excluded⟩ where
  length := by simpa using h.length
  excluded o := by
    rw [List.mem_cons, h.excluded]
    simp only [List.mem_append, List.mem_singleton, or_and_right, exists_or, exists_eq_left,
      hkind, true_and]
    rw [or_comm, eq_comm]
  tally e seed tally hseed htally := by
    rw [includedAt_snoc_of_neg (by simp [hkind])]
    rcases getElem?_modify_cases htally with ⟨rfl, old, hold, rfl⟩ | ⟨he, hold⟩
    · have hnotin : p.ordinal ∉ excludedAt postings d := by
        intro hin
        obtain ⟨q, hq, ⟨hqkind, -⟩, hordinal⟩ := mem_excludedAt.mp hin
        exact hnew q hq hqkind hordinal
      rw [excludedAt_snoc_of_pos hkind hslot, Finset.card_insert_of_notMem hnotin]
      exact (h.tally d seed old hseed hold).meetExclusion
    · rw [excludedAt_snoc_of_neg (by simp [hslot, he])]
      exact h.tally e seed tally hseed hold

-- Counting one more posting.
theorem Counts.count (h : t.Counts seeds postings) {p : Posting}
    (hp : Countable seeds (postings ++ [p])) :
    ∃ next, t.count p = .ok next ∧ next.Counts seeds (postings ++ [p]) := by
  have hmem : p ∈ postings ++ [p] := by simp
  rcases hp.slot p hmem with ⟨hslot, hkind⟩ | ⟨d, hd, hslot⟩
  · exact ⟨t, by rw [Tallies.count, hslot], h.meetSentinel hslot hkind⟩
  · have hlt : d < t.disjunctions.length := by rw [h.length]; exact hd
    rw [Tallies.count, hslot]
    dsimp only
    rw [if_pos hlt]
    cases hkind : p.kind with
    | included => exact ⟨_, rfl, h.meetInclusion hslot hkind (hp.weight p hmem)⟩
    | excluded =>
      dsimp only
      by_cases hold : t.excluded.contains p.ordinal = true
      · obtain ⟨q, hq, hqkind, hordinal⟩ := (h.excluded p.ordinal).mp (List.contains_iff_mem.mp hold)
        have hqslot := hp.ordinal q (List.mem_append_left _ hq) p hmem hqkind hkind hordinal
        rw [if_pos hold]
        exact ⟨t, rfl, h.meetAgain hslot hkind hq (hqslot.trans hslot) hqkind hordinal⟩
      · rw [if_neg hold]
        refine ⟨_, rfl, h.meetExclusion hslot hkind fun q hq hqkind hordinal => ?_⟩
        exact hold (List.contains_iff_mem.mpr ((h.excluded _).mpr ⟨q, hq, hqkind, hordinal⟩))

theorem Countable.of_append {more : List Posting} (h : Countable seeds (postings ++ more)) :
    Countable seeds postings where
  slot p hp := h.slot p (List.mem_append_left _ hp)
  weight p hp := h.weight p (List.mem_append_left _ hp)
  ordinal p hp q hq := h.ordinal p (List.mem_append_left _ hp) q (List.mem_append_left _ hq)

-- Counting all postings of a formula succeeds.
theorem Counts.foldlM (h : t.Counts seeds postings) (more : List Posting)
    (hmore : Countable seeds (postings ++ more)) :
    ∃ last, more.foldlM Tallies.count t = .ok last ∧ last.Counts seeds (postings ++ more) := by
  induction more generalizing postings t with
  | nil => exact ⟨t, rfl, by simpa using h⟩
  | cons p rest ih =>
    have hsplit : postings ++ p :: rest = postings ++ [p] ++ rest := by simp
    rw [hsplit] at hmore ⊢
    obtain ⟨next, hnext, hcounts⟩ := h.count (Countable.of_append hmore)
    obtain ⟨last, hlast, hcounts⟩ := ih hcounts hmore
    refine ⟨last, ?_, hcounts⟩
    rw [List.foldlM_cons, hnext]
    exact hlast

end Tallies

end Targeting.Index
