import Targeting.Proofs.Version.Spelling

namespace Targeting

namespace Text

variable {c : Char} {cs ds : List Char}

theorem toNat_of_isDigit (h : c.isDigit = true) : 48 ≤ c.toNat ∧ c.toNat ≤ 57 := by
  simp only [Char.isDigit, Bool.and_eq_true, decide_eq_true_eq, UInt32.le_iff_toNat_le] at h
  exact h

theorem exists_of_isDigit (h : c.isDigit = true) : ∃ n < 10, c = Char.ofNat (48 + n) := by
  obtain ⟨hlo, hhi⟩ := toNat_of_isDigit h
  refine ⟨c.toNat - 48, by omega, ?_⟩
  rw [Nat.add_sub_cancel' hlo, Char.ofNat_toNat]

theorem isBlank_of_isDigit (h : c.isDigit = true) : Unicode.isBlank c = false := by
  have hdigits : ∀ n < 10, Unicode.isBlank (Char.ofNat (48 + n)) = false := by decide +kernel
  obtain ⟨n, hn, rfl⟩ := exists_of_isDigit h
  exact hdigits n hn

theorem toLower_of_isDigit (h : c.isDigit = true) : c.toLower = c := by
  have hdigits : ∀ n < 10, (Char.ofNat (48 + n)).toLower = Char.ofNat (48 + n) := by decide +kernel
  obtain ⟨n, hn, rfl⟩ := exists_of_isDigit h
  exact hdigits n hn

theorem lowerAscii_digits (h : ∀ c ∈ cs, c.isDigit = true) :
    lowerAscii (String.ofList cs) = String.ofList cs := by
  rw [lowerAscii, String.toList_ofList, List.map_congr_left fun c hc => toLower_of_isDigit (h c hc),
    List.map_id']

theorem digitsValue_cons (c : Char) (cs : List Char) :
    digitsValue (c :: cs) = 10 ^ cs.length * (c.toNat - 48) + digitsValue cs := by
  rw [digitsValue_eq, digitsValue_eq, Nat.ofDigitChars_cons, Nat.ofDigitChars_eq_ofDigitChars_zero,
    Nat.mul_zero, Nat.zero_add]
  rfl

theorem digitsValue_lt (h : ∀ c ∈ cs, c.isDigit = true) : digitsValue cs < 10 ^ cs.length := by
  induction cs with
  | nil => decide
  | cons c cs ih =>
    have hc := toNat_of_isDigit (h c List.mem_cons_self)
    have hrest := ih fun d hd => h d (List.mem_cons_of_mem _ hd)
    have hdigit := Nat.mul_le_mul_left (10 ^ cs.length) (show c.toNat - 48 ≤ 9 by omega)
    rw [digitsValue_cons, List.length_cons, Nat.pow_succ]
    omega

theorem mul_add_lt {base m n x : Nat} (hmn : m < n) (hx : x < base) (y : Nat) :
    base * m + x < base * n + y := by
  have hstep := Nat.mul_le_mul_left base (show m + 1 ≤ n from hmn)
  rw [Nat.mul_add, Nat.mul_one] at hstep
  omega

-- Of two numbers with equally many digits, that is less whose digit is less where they differ first.
theorem digitsValue_lt_iff (hcs : ∀ c ∈ cs, c.isDigit = true) (hds : ∀ d ∈ ds, d.isDigit = true)
    (hlength : cs.length = ds.length) : digitsValue cs < digitsValue ds ↔ cs < ds := by
  induction cs generalizing ds with
  | nil =>
    cases List.length_eq_zero_iff.mp hlength.symm
    simp
  | cons c cs ih =>
    cases ds with
    | nil => cases hlength
    | cons d ds =>
      have hc := toNat_of_isDigit (hcs c List.mem_cons_self)
      have hd := toNat_of_isDigit (hds d List.mem_cons_self)
      have hcs' : ∀ e ∈ cs, e.isDigit = true := fun e he => hcs e (List.mem_cons_of_mem _ he)
      have hds' : ∀ e ∈ ds, e.isDigit = true := fun e he => hds e (List.mem_cons_of_mem _ he)
      have hsame : cs.length = ds.length := Nat.succ.inj hlength
      have hchar : c < d ↔ c.toNat < d.toNat := by
        rw [Char.lt_def, UInt32.lt_iff_toNat_lt]
        rfl
      rw [digitsValue_cons, digitsValue_cons, List.cons_lt_cons_iff, ← ih hcs' hds' hsame, hchar,
        hsame]
      obtain hlt | heq | hgt := Nat.lt_trichotomy c.toNat d.toNat
      · have hless := mul_add_lt (show c.toNat - 48 < d.toNat - 48 by omega)
          (hsame ▸ digitsValue_lt hcs') (digitsValue ds)
        simp [hlt, hless]
      · simp [Char.toNat_inj.mp heq]
      · have hless := mul_add_lt (show d.toNat - 48 < c.toNat - 48 by omega)
          (digitsValue_lt hds') (digitsValue cs)
        have hne : c ≠ d := by
          rintro rfl
          omega
        simp only [hne, false_and, or_false]
        omega

theorem compare_digits (hcs : ∀ c ∈ cs, c.isDigit = true) (hds : ∀ d ∈ ds, d.isDigit = true)
    (hlength : cs.length = ds.length) :
    compare (String.ofList cs) (String.ofList ds) = compare (digitsValue cs) (digitsValue ds) := by
  have hlt : String.ofList cs < String.ofList ds ↔ digitsValue cs < digitsValue ds := by
    rw [String.lt_iff_toList_lt, String.toList_ofList, String.toList_ofList,
      digitsValue_lt_iff hcs hds hlength]
  have hgt : String.ofList ds < String.ofList cs ↔ digitsValue ds < digitsValue cs := by
    rw [String.lt_iff_toList_lt, String.toList_ofList, String.toList_ofList,
      digitsValue_lt_iff hds hcs hlength.symm]
  cases hcompare : compare (digitsValue cs) (digitsValue ds) with
  | lt => exact compare_lt_iff_lt.mpr (hlt.mpr (Nat.compare_eq_lt.mp hcompare))
  | gt => exact compare_gt_iff_gt.mpr (hgt.mpr (Nat.compare_eq_gt.mp hcompare))
  | eq =>
    have heq := Nat.compare_eq_eq.mp hcompare
    apply compare_eq_iff_eq.mpr
    apply le_antisymm
    · exact not_lt.mp fun h => absurd (hgt.mp h) (by omega)
    · exact not_lt.mp fun h => absurd (hlt.mp h) (by omega)

end Text

-- A run of decimal digits, of any length but zero.
structure DigitRun where
  digits : List Char
  ne_nil : digits ≠ []
  isDigit : ∀ c ∈ digits, c.isDigit = true

namespace DigitRun

variable {p q : DigitRun}

def value (p : DigitRun) : Nat := Nat.ofDigitChars 10 p.digits 0

-- The digits of a number, behind some zeros.
def ofNat (zeros n : Nat) : DigitRun where
  digits := List.replicate zeros '0' ++ Nat.toDigits 10 n
  ne_nil := by simp
  isDigit c hc := by
    obtain hc | hc := List.mem_append.mp hc
    · exact Decimal.isDigit_of_mem_zeros hc
    · exact Decimal.isDigit_of_mem_toDigits hc

theorem value_ofNat (zeros n : Nat) : (ofNat zeros n).value = n := by
  rw [value, ofNat, ← Text.digitsValue_eq, Text.digitsValue_append, Text.digitsValue_zeros,
    Text.digitsValue_toDigits, Nat.mul_zero, Nat.zero_add]

-- A number of more than 64 bits is a text to a version.
def segment (p : DigitRun) : Segment :=
  if p.value < 2 ^ 64 then .num p.value else .text (String.ofList p.digits)

theorem ofText_digits (p : DigitRun) : Segment.ofText (String.ofList p.digits) = p.segment := by
  have hplus : Segment.dropPlus p.digits = p.digits := by
    unfold Segment.dropPlus
    split
    next digits h =>
      have hdigit := p.isDigit '+' (by simp [h])
      cases hdigit
    next => rfl
  have hnat : Text.nat? p.digits = some p.value := by
    rw [Text.nat?, Text.digitsValue_eq, value]
    simpa [p.ne_nil] using p.isDigit
  rw [Segment.ofText_eq, String.toList_ofList, hplus, hnat, segment,
    Text.lowerAscii_digits p.isDigit]

theorem segment_eq_zero_iff (p : DigitRun) : p.segment = .num 0 ↔ p.value = 0 := by
  rw [segment]
  split
  next => simp
  next h =>
    simp only [reduceCtorEq, false_iff]
    omega

-- Runs that versions compare by their numbers: both of at most 64 bits, or neither, and equally
-- long.
def Comparable (p q : DigitRun) : Prop :=
  p.value < 2 ^ 64 ∧ q.value < 2 ^ 64 ∨
    2 ^ 64 ≤ p.value ∧ 2 ^ 64 ≤ q.value ∧ p.digits.length = q.digits.length

theorem compareTo_segment (h : Comparable p q) :
    p.segment.compareTo q.segment = compare p.value q.value := by
  rw [segment, segment]
  obtain ⟨hp, hq⟩ | ⟨hp, hq, hlength⟩ := h
  · rw [if_pos hp, if_pos hq, Segment.compareTo]
  · rw [if_neg (Nat.not_lt.mpr hp), if_neg (Nat.not_lt.mpr hq), Segment.compareTo,
      Text.compare_digits p.isDigit q.isDigit hlength, Text.digitsValue_eq, Text.digitsValue_eq,
      value, value]

end DigitRun

end Targeting
