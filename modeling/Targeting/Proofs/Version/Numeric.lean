import Targeting.Proofs.Version.DigitRun

namespace Targeting

namespace Version

-- The version that is written with a dot between the numbers.
def dotted (ps : List DigitRun) : List Char := ['.'].intercalate (ps.map DigitRun.digits)

theorem eq_of_mem_dotted {ps : List DigitRun} {c : Char} (hc : c ∈ dotted ps) :
    c = '.' ∨ c.isDigit = true := by
  induction ps with
  | nil => cases hc
  | cons p ps ih =>
    by_cases hps : ps = []
    · rw [hps, dotted, List.map_singleton, List.intercalate_singleton] at hc
      exact .inr (p.isDigit c hc)
    · rw [dotted, List.map_cons, List.intercalate_cons_of_ne_nil (by simpa using hps)] at hc
      obtain hc | hc := List.mem_append.mp hc
      · obtain hc | hc := List.mem_append.mp hc
        · exact .inr (p.isDigit c hc)
        · exact .inl (List.mem_singleton.mp hc)
      · exact ih hc

theorem isBlank_of_mem_dotted {ps : List DigitRun} {c : Char} (hc : c ∈ dotted ps) :
    Unicode.isBlank c = false := by
  obtain rfl | hdigit := eq_of_mem_dotted hc
  · decide +kernel
  · exact Text.isBlank_of_isDigit hdigit

theorem splitOn_dotted {ps : List DigitRun} (hne : ps ≠ []) :
    (dotted ps).splitOn '.' = ps.map DigitRun.digits := by
  apply List.splitOn_intercalate
  · intro part hpart hdot
    obtain ⟨p, -, rfl⟩ := List.mem_map.mp hpart
    exact absurd (p.isDigit '.' hdot) (by decide)
  · simpa using hne

theorem dotted_ne_nil {ps : List DigitRun} (hne : ps ≠ []) : dotted ps ≠ [] := by
  intro hnil
  obtain ⟨p, ps, rfl⟩ := List.exists_cons_of_ne_nil hne
  have hparts := splitOn_dotted hne
  rw [hnil, List.splitOn_nil] at hparts
  exact p.ne_nil (List.cons.inj hparts).1.symm

theorem endsRelease_dotted (ps : List DigitRun) : EndsRelease (dotted ps) [] := by
  constructor
  · intro hc
    simpa using eq_of_mem_dotted hc
  · right
    exact ⟨by simp, fun c hc => isBlank_of_mem_dotted (List.mem_of_getLast? hc)⟩

theorem stripped_dotted {ps : List DigitRun} (hne : ps ≠ []) : stripped (dotted ps) = dotted ps := by
  have hblank : (dotted ps).dropWhile Unicode.isBlank = dotted ps := by
    obtain ⟨c, rest, hcs⟩ := List.exists_cons_of_ne_nil (dotted_ne_nil hne)
    have hc := isBlank_of_mem_dotted (hcs ▸ List.mem_cons_self : c ∈ dotted ps)
    rw [hcs, List.dropWhile_cons_of_neg (by simp [hc])]
  have h := stripped_of_endsRelease (endsRelease_dotted ps)
  rw [List.append_nil, hblank, dropV_of_head] at h
  · simpa using h
  · intro c hc
    obtain rfl | hdigit := eq_of_mem_dotted (List.mem_of_mem_head? hc)
    · decide
    · constructor <;> rintro rfl <;> cases hdigit

theorem ofText?_dotted {ps : List DigitRun} (hne : ps ≠ []) : ofText? (String.ofList (dotted ps)) =
    some ⟨dropZeros (ps.map DigitRun.segment), none⟩ := by
  have hstripped : stripped (String.ofList (dotted ps)).toList = dotted ps ++ [] := by
    rw [String.toList_ofList, stripped_dotted hne, List.append_nil]
  rw [ofText?_of_stripped hstripped (by simpa using dotted_ne_nil hne) (endsRelease_dotted ps).1
    (by simp), splitOn_dotted hne, List.map_map]
  simp only [Function.comp_def, DigitRun.ofText_digits]
  rfl

theorem compareReleases_digitRuns_nil (qs : List DigitRun) :
    compareReleases [] (dropZeros (qs.map DigitRun.segment)) =
      comparePadded compare 0 [] (qs.map DigitRun.value) := by
  induction qs with
  | nil => rfl
  | cons q qs ih =>
    rw [List.map_cons, List.map_cons, comparePadded_nil_cons, ← ih]
    by_cases hq : q.value = 0
    · rw [q.segment_eq_zero_iff.mpr hq, hq, Nat.compare_eq_eq.mpr rfl, Ordering.eq_then]
      by_cases hrest : dropZeros (qs.map DigitRun.segment) = []
      · rw [dropZeros_cons, if_pos ⟨hrest, rfl⟩, hrest]
      · rw [dropZeros_cons, if_neg fun h => hrest h.1]
        exact (compareReleases_append [] hrest).symm
    · rw [dropZeros_cons, if_neg fun h => hq (q.segment_eq_zero_iff.mp h.2),
        Nat.compare_eq_lt.mpr (by omega), Ordering.lt_then]
      rfl

theorem compareReleases_digitRuns {ps qs : List DigitRun}
    (hcomparable : ∀ pair ∈ ps.zip qs, pair.1.Comparable pair.2) :
    compareReleases (dropZeros (ps.map DigitRun.segment)) (dropZeros (qs.map DigitRun.segment)) =
      comparePadded compare 0 (ps.map DigitRun.value) (qs.map DigitRun.value) := by
  induction ps generalizing qs with
  | nil => exact compareReleases_digitRuns_nil qs
  | cons p ps ih =>
    cases qs with
    | nil =>
      rw [← compareReleases_swap, ← comparePadded_swap]
      exact congrArg Ordering.swap (compareReleases_digitRuns_nil (p :: ps))
    | cons q qs =>
      have hrest := ih fun pair hpair => hcomparable pair (List.mem_cons_of_mem _ hpair)
      have hhead := DigitRun.compareTo_segment (hcomparable (p, q) List.mem_cons_self)
      rw [List.map_cons, List.map_cons, List.map_cons, List.map_cons, comparePadded_cons_cons, ← hrest,
        ← hhead]
      apply compareReleases_dropZeros_cons
      · intro hlt hzero
        rw [hhead, Nat.compare_eq_lt, q.segment_eq_zero_iff.mp hzero] at hlt
        exact Nat.not_lt_zero _ hlt
      · intro hgt hzero
        rw [hhead, Nat.compare_eq_gt, p.segment_eq_zero_iff.mp hzero] at hgt
        exact Nat.not_lt_zero _ hgt

theorem compare_dotted {ps qs : List DigitRun} (hps : ps ≠ []) (hqs : qs ≠ [])
    (hcomparable : ∀ pair ∈ ps.zip qs, pair.1.Comparable pair.2) :
    ∃ v w, ofText? (String.ofList (dotted ps)) = some v ∧
      ofText? (String.ofList (dotted qs)) = some w ∧
      compare v w = comparePadded compare 0 (ps.map DigitRun.value) (qs.map DigitRun.value) := by
  refine ⟨_, _, ofText?_dotted hps, ofText?_dotted hqs, ?_⟩
  rw [compare_of_unqualified rfl rfl]
  exact compareReleases_digitRuns hcomparable

theorem compare_dotted_padded :
    (∀ pair ∈ [DigitRun.ofNat 1 9, .ofNat 0 18446744073709551616, .ofNat 0 0].zip
        [.ofNat 0 9, .ofNat 0 18446744073709551617], pair.1.Comparable pair.2) ∧
      ∃ v w, ofText? (String.ofList
          (dotted [.ofNat 1 9, .ofNat 0 18446744073709551616, .ofNat 0 0])) = some v ∧
        ofText? (String.ofList (dotted [.ofNat 0 9, .ofNat 0 18446744073709551617])) = some w ∧
        compare v w = .lt := by
  have hcomparable : ∀ pair ∈ [DigitRun.ofNat 1 9, .ofNat 0 18446744073709551616, .ofNat 0 0].zip
      [.ofNat 0 9, .ofNat 0 18446744073709551617], pair.1.Comparable pair.2 := by
    have hlength : (DigitRun.ofNat 0 18446744073709551616).digits.length =
        (DigitRun.ofNat 0 18446744073709551617).digits.length := by decide +kernel
    simp [DigitRun.Comparable, DigitRun.value_ofNat, hlength]
  obtain ⟨v, w, hv, hw, hcompare⟩ := compare_dotted (by simp) (by simp) hcomparable
  refine ⟨hcomparable, v, w, hv, hw, ?_⟩
  rw [hcompare]
  simp only [List.map_cons, List.map_nil, DigitRun.value_ofNat]
  decide +kernel

-- A number of more than 64 bits is read as a text, and comes before the smaller numbers.
theorem compare_long :
    ofText? "18446744073709551616" = some ⟨[.text "18446744073709551616"], none⟩ ∧
      ofText? "1" = some ⟨[.num 1], none⟩ ∧
      compare (⟨[.text "18446744073709551616"], none⟩ : Version) ⟨[.num 1], none⟩ = .lt ∧
      comparePadded compare 0 [18446744073709551616] [1] = .gt :=
  ⟨by decide +kernel, by decide +kernel, rfl, by decide +kernel⟩

end Version

end Targeting
