import Mathlib
import Targeting.Version

namespace Targeting

section Padded

variable {α : Type} {cmp : α → α → Ordering} {blank a b : α} {as bs : List α}

-- Lists compared from the left, after the shorter is filled up with blanks.
def comparePadded (cmp : α → α → Ordering) (blank : α) (as bs : List α) : Ordering :=
  (as.rightpad bs.length blank).compareLex cmp (bs.rightpad as.length blank)

theorem comparePadded_nil_nil : comparePadded cmp blank [] [] = .eq := List.compareLex_nil_nil

theorem comparePadded_cons_cons : comparePadded cmp blank (a :: as) (b :: bs) =
    (cmp a b).then (comparePadded cmp blank as bs) := by
  simp [comparePadded, List.rightpad, List.compareLex_cons_cons]

theorem comparePadded_nil_cons : comparePadded cmp blank [] (b :: bs) =
    (cmp blank b).then (comparePadded cmp blank [] bs) := by
  simp [comparePadded, List.rightpad, List.replicate_succ, List.compareLex_cons_cons]

theorem comparePadded_cons_nil : comparePadded cmp blank (a :: as) [] =
    (cmp a blank).then (comparePadded cmp blank as []) := by
  simp [comparePadded, List.rightpad, List.replicate_succ, List.compareLex_cons_cons]

theorem comparePadded_swap [Std.OrientedCmp cmp] (as bs : List α) :
    (comparePadded cmp blank as bs).swap = comparePadded cmp blank bs as := by
  rw [comparePadded, comparePadded]
  exact Std.OrientedCmp.eq_swap.symm

theorem comparePadded_append_blanks_left (hblank : cmp blank blank = .eq) (as bs : List α) (n : Nat) :
    comparePadded cmp blank (as ++ List.replicate n blank) bs = comparePadded cmp blank as bs := by
  induction as generalizing bs with
  | nil =>
    induction n generalizing bs with
    | zero => rfl
    | succ n ih =>
      rw [List.nil_append] at ih ⊢
      rw [List.replicate_succ]
      cases bs with
      | nil => rw [comparePadded_cons_nil, hblank, ih, Ordering.eq_then]
      | cons b bs => rw [comparePadded_cons_cons, comparePadded_nil_cons, ih]
  | cons a as ih =>
    rw [List.cons_append]
    cases bs with
    | nil => rw [comparePadded_cons_nil, comparePadded_cons_nil, ih]
    | cons b bs => rw [comparePadded_cons_cons, comparePadded_cons_cons, ih]

end Padded

section DropWhile

variable {α : Type} {a : α} {as : List α} {p : α → Bool}

theorem dropWhile_append_cons (ha : p a = false) (as bs : List α) :
    (as ++ a :: bs).dropWhile p = as.dropWhile p ++ a :: bs := by
  rw [List.dropWhile_append]
  split
  next h => rw [List.isEmpty_iff.mp h, List.dropWhile_cons_of_neg (by simp [ha]), List.nil_append]
  next => rfl

theorem rdropWhile_append_cons (ha : p a = false) (as bs : List α) :
    (as ++ a :: bs).rdropWhile p = as ++ a :: bs.rdropWhile p := by
  rw [List.rdropWhile, List.reverse_append, List.reverse_cons, List.append_assoc,
    List.singleton_append, dropWhile_append_cons ha]
  simp [List.rdropWhile]

theorem not_of_mem_head?_dropWhile (h : a ∈ (as.dropWhile p).head?) :
    p a = false := by
  have hhead := as.head?_dropWhile_not p
  rwa [h] at hhead

theorem not_of_mem_getLast?_rdropWhile (h : a ∈ (as.rdropWhile p).getLast?) :
    p a = false := by
  rw [List.rdropWhile, List.getLast?_reverse] at h
  exact not_of_mem_head?_dropWhile h

end DropWhile

namespace Segment

instance : Std.OrientedCmp compareTo where
  eq_swap {a b} := by
    cases a <;> cases b
    case text.text s t => exact Std.OrientedOrd.eq_swap
    case num.num m n => exact Std.OrientedOrd.eq_swap
    all_goals rfl

instance : Std.LawfulEqCmp compareTo where
  compare_self {a} := by cases a <;> exact Std.ReflOrd.compare_self
  eq_of_compare {a b} h := by
    cases a <;> cases b
    case text.text s t => exact congrArg text (Std.LawfulEqOrd.eq_of_compare h)
    case num.num m n => exact congrArg num (Std.LawfulEqOrd.eq_of_compare h)
    all_goals cases h

theorem compareTo_self (a : Segment) : a.compareTo a = .eq := Std.ReflCmp.compare_self

end Segment

namespace Version

theorem compareReleases_eq (as bs : List Segment) :
    compareReleases as bs = as.compareLex Segment.compareTo bs := by
  induction as generalizing bs with
  | nil => cases bs <;> rfl
  | cons a as ih =>
    cases bs with
    | nil => rfl
    | cons b bs => rw [compareReleases, ih, List.compareLex_cons_cons]

theorem compareReleases_swap (as bs : List Segment) :
    (compareReleases as bs).swap = compareReleases bs as := by
  rw [compareReleases_eq, compareReleases_eq]
  exact Std.OrientedCmp.eq_swap.symm

theorem compareReleases_cons_self (a : Segment) (as bs : List Segment) :
    compareReleases (a :: as) (a :: bs) = compareReleases as bs := by
  rw [compareReleases, Segment.compareTo_self, Ordering.eq_then]

theorem compareReleases_append (as : List Segment) {bs : List Segment} (hne : bs ≠ []) :
    compareReleases as (as ++ bs) = .lt := by
  induction as with
  | nil =>
    cases bs with
    | nil => exact absurd rfl hne
    | cons b bs => rfl
  | cons a as ih => rw [List.cons_append, compareReleases_cons_self, ih]

theorem dropZeros_append_zeros (as : List Segment) (n : Nat) :
    dropZeros (as ++ List.replicate n (.num 0)) = dropZeros as := by
  rw [dropZeros, List.reverse_append, List.reverse_replicate,
    List.dropWhile_append_of_pos (by simp), dropZeros]

theorem dropZeros_append_cons {a : Segment} (ha : a ≠ .num 0) (as bs : List Segment) :
    dropZeros (as ++ a :: bs) = as ++ a :: dropZeros bs := by
  apply rdropWhile_append_cons
  simpa using ha

theorem exists_zeros (as : List Segment) : ∃ n, as = dropZeros as ++ List.replicate n (.num 0) := by
  let zeros := as.rtakeWhile (· == .num 0)
  have hzeros : zeros = List.replicate zeros.length (.num 0) :=
    List.eq_replicate_of_mem fun a ha => by simpa using List.mem_rtakeWhile_imp ha
  refine ⟨zeros.length, ?_⟩
  rw [← hzeros]
  exact List.rdropWhile_append_rtakeWhile.symm

theorem getLast?_dropZeros (as : List Segment) : (dropZeros as).getLast? ≠ some (.num 0) := by
  intro h
  simpa using not_of_mem_getLast?_rdropWhile h

theorem getLast?_tail {a : Segment} {as : List Segment} (h : (a :: as).getLast? ≠ some (.num 0)) :
    as.getLast? ≠ some (.num 0) := by
  cases as with
  | nil => simp
  | cons b bs => rwa [List.getLast?_cons_cons] at h

-- Where a release goes on with a text, after zeros, behind all of another.
def TextFollows (as bs : List Segment) : Prop :=
  ∃ zeros text rest, bs = as ++ List.replicate zeros (.num 0) ++ .text text :: rest

theorem not_textFollows_nil (as : List Segment) : ¬ TextFollows as [] := by
  rintro ⟨zeros, text, rest, h⟩
  simp at h

theorem textFollows_nil_cons_iff (b : Segment) (bs : List Segment) :
    TextFollows [] (b :: bs) ↔ (∃ text, b = .text text) ∨ b = .num 0 ∧ TextFollows [] bs := by
  constructor
  · rintro ⟨zeros, text, rest, h⟩
    cases zeros with
    | zero => exact .inl ⟨text, (List.cons.inj h).1⟩
    | succ zeros => exact .inr ⟨(List.cons.inj h).1, zeros, text, rest, (List.cons.inj h).2⟩
  · intro h
    obtain ⟨text, rfl⟩ | ⟨rfl, zeros, text, rest, rfl⟩ := h
    · exact ⟨0, text, bs, rfl⟩
    · exact ⟨zeros + 1, text, rest, rfl⟩

theorem textFollows_cons_cons_iff (a b : Segment) (as bs : List Segment) :
    TextFollows (a :: as) (b :: bs) ↔ b = a ∧ TextFollows as bs := by
  simp [TextFollows]

-- Behind the end of a release zeros are passed over: a number comes after it, and a text before.
theorem compareReleases_nil_iff {bs : List Segment} (hlast : bs.getLast? ≠ some (.num 0)) :
    compareReleases [] bs = comparePadded Segment.compareTo (.num 0) [] bs ↔
      ¬ TextFollows [] bs := by
  induction bs with
  | nil => simp [compareReleases, comparePadded_nil_nil, not_textFollows_nil]
  | cons b bs ih =>
    rw [comparePadded_nil_cons, textFollows_nil_cons_iff]
    cases b with
    | text text => simp [compareReleases, Segment.compareTo]
    | num n =>
      cases n with
      | succ n => simp [compareReleases, Segment.compareTo, Nat.compare_eq_lt.mpr]
      | zero =>
        cases bs with
        | nil => simp at hlast
        | cons b bs =>
          have hrest := ih (getLast?_tail hlast)
          rw [compareReleases] at hrest ⊢
          simpa [Segment.compareTo_self] using hrest

theorem compareReleases_eq_comparePadded_iff {as bs : List Segment}
    (has : as.getLast? ≠ some (.num 0)) (hbs : bs.getLast? ≠ some (.num 0)) :
    compareReleases as bs = comparePadded Segment.compareTo (.num 0) as bs ↔
      ¬ TextFollows as bs ∧ ¬ TextFollows bs as := by
  induction as generalizing bs with
  | nil =>
    rw [compareReleases_nil_iff hbs]
    simp [not_textFollows_nil]
  | cons a as ih =>
    cases bs with
    | nil =>
      rw [← compareReleases_swap, ← comparePadded_swap, Ordering.swap_inj, compareReleases_nil_iff has]
      simp [not_textFollows_nil]
    | cons b bs =>
      rw [comparePadded_cons_cons, textFollows_cons_cons_iff, textFollows_cons_cons_iff]
      by_cases hab : a = b
      · subst hab
        rw [compareReleases_cons_self, Segment.compareTo_self, Ordering.eq_then]
        simpa using ih (getLast?_tail has) (getLast?_tail hbs)
      · cases hcompare : a.compareTo b with
        | eq => exact absurd (Std.LawfulEqCmp.eq_of_compare hcompare) hab
        | lt => simp [compareReleases, hcompare, hab, Ne.symm hab]
        | gt => simp [compareReleases, hcompare, hab, Ne.symm hab]

theorem comparePadded_dropZeros_left (as bs : List Segment) :
    comparePadded Segment.compareTo (.num 0) (dropZeros as) bs =
      comparePadded Segment.compareTo (.num 0) as bs := by
  obtain ⟨n, hn⟩ := exists_zeros as
  conv_rhs => rw [hn]
  exact (comparePadded_append_blanks_left (Segment.compareTo_self _) _ _ _).symm

theorem comparePadded_dropZeros (as bs : List Segment) :
    comparePadded Segment.compareTo (.num 0) (dropZeros as) (dropZeros bs) =
      comparePadded Segment.compareTo (.num 0) as bs := by
  rw [comparePadded_dropZeros_left, ← comparePadded_swap, comparePadded_dropZeros_left,
    comparePadded_swap]

-- Where one release is over, zeros apart, and the other goes on with a text, after zeros.
def EndsBeforeText (as bs : List Segment) : Prop :=
  ∃ shared zeros, as = shared ++ List.replicate zeros (.num 0) ∧ TextFollows shared bs

theorem endsBeforeText_iff (as bs : List Segment) :
    EndsBeforeText as bs ↔ TextFollows (dropZeros as) (dropZeros bs) := by
  constructor
  · rintro ⟨shared, zeros, rfl, more, text, rest, rfl⟩
    obtain ⟨inner, hinner⟩ := exists_zeros shared
    refine ⟨inner + more, text, dropZeros rest, ?_⟩
    rw [dropZeros_append_zeros, dropZeros_append_cons (by simp), List.replicate_add,
      ← List.append_assoc, ← hinner]
  · rintro ⟨more, text, rest, h⟩
    obtain ⟨zeros, hzeros⟩ := exists_zeros as
    obtain ⟨after, hafter⟩ := exists_zeros bs
    refine ⟨dropZeros as, zeros, hzeros, more, text, rest ++ List.replicate after (.num 0), ?_⟩
    rw [hafter, h, List.append_assoc, List.cons_append]

theorem compareReleases_dropZeros_iff (as bs : List Segment) :
    compareReleases (dropZeros as) (dropZeros bs) = comparePadded Segment.compareTo (.num 0) as bs ↔
      ¬ EndsBeforeText as bs ∧ ¬ EndsBeforeText bs as := by
  rw [← comparePadded_dropZeros, endsBeforeText_iff, endsBeforeText_iff]
  exact compareReleases_eq_comparePadded_iff (getLast?_dropZeros as) (getLast?_dropZeros bs)

theorem compareReleases_of_endsBeforeText {as bs : List Segment} (h : EndsBeforeText as bs) :
    compareReleases (dropZeros as) (dropZeros bs) = .lt := by
  obtain ⟨zeros, text, rest, h⟩ := (endsBeforeText_iff as bs).mp h
  rw [h, List.append_assoc]
  apply compareReleases_append
  simp

theorem dropZeros_cons (a : Segment) (as : List Segment) :
    dropZeros (a :: as) = if dropZeros as = [] ∧ a = .num 0 then [] else a :: dropZeros as := by
  rw [dropZeros, dropZeros, List.reverse_cons, List.dropWhile_append]
  by_cases has : as.reverse.dropWhile (· == .num 0) = []
  · by_cases ha : a = .num 0 <;> simp [has, ha]
  · simp [has]

theorem compareReleases_dropZeros_cons_self (a : Segment) (as bs : List Segment) :
    compareReleases (dropZeros (a :: as)) (dropZeros (a :: bs)) =
      compareReleases (dropZeros as) (dropZeros bs) := by
  by_cases has : dropZeros as = [] ∧ a = .num 0
  · by_cases hbs : dropZeros bs = []
    · rw [dropZeros_cons, if_pos has, dropZeros_cons, if_pos ⟨hbs, has.2⟩, has.1, hbs]
    · rw [dropZeros_cons, if_pos has, dropZeros_cons, if_neg fun h => hbs h.1, has.1]
      exact (compareReleases_append [] hbs).symm
  · rw [dropZeros_cons, if_neg has, dropZeros_cons]
    split
    next hbs =>
      have hne : dropZeros as ≠ [] := fun h => has ⟨h, hbs.2⟩
      rw [hbs.1, ← compareReleases_swap [], ← compareReleases_swap []]
      exact congrArg Ordering.swap (compareReleases_append [] hne).symm
    next => exact compareReleases_cons_self a _ _

theorem compareReleases_dropZeros_of_lt {a b : Segment} (h : a.compareTo b = .lt) (hb : b ≠ .num 0)
    (as bs : List Segment) : compareReleases (dropZeros (a :: as)) (dropZeros (b :: bs)) = .lt := by
  rw [dropZeros_cons b, if_neg fun hnil => hb hnil.2, dropZeros_cons]
  split
  next => rfl
  next => rw [compareReleases, h, Ordering.lt_then]

-- Leaving out zeros at the end tells nothing where no zero is the greater of two segments.
theorem compareReleases_dropZeros_cons {a b : Segment} (hlt : a.compareTo b = .lt → b ≠ .num 0)
    (hgt : a.compareTo b = .gt → a ≠ .num 0) (as bs : List Segment) :
    compareReleases (dropZeros (a :: as)) (dropZeros (b :: bs)) =
      (a.compareTo b).then (compareReleases (dropZeros as) (dropZeros bs)) := by
  cases hcompare : a.compareTo b with
  | eq =>
    rw [Std.LawfulEqCmp.eq_of_compare hcompare, compareReleases_dropZeros_cons_self, Ordering.eq_then]
  | lt => rw [compareReleases_dropZeros_of_lt hcompare (hlt hcompare), Ordering.lt_then]
  | gt =>
    have hswap : b.compareTo a = .lt := Std.OrientedCmp.lt_of_gt hcompare
    rw [← compareReleases_swap, compareReleases_dropZeros_of_lt hswap (hgt hcompare),
      Ordering.gt_then, Ordering.swap_lt]

theorem compare_of_unqualified {v w : Version} (hv : v.qualifier = none) (hw : w.qualifier = none) :
    compare v w = compareReleases v.release w.release := by
  change (compareReleases v.release w.release).then (compareQualifiers v.qualifier w.qualifier) = _
  rw [hv, hw, compareQualifiers, Ordering.then_eq]

end Version

end Targeting
