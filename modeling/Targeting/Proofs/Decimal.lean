import Mathlib
import Targeting.Decimal

namespace Targeting

namespace Text

theorem digitsValue_eq (cs : List Char) : digitsValue cs = Nat.ofDigitChars 10 cs 0 :=
  Nat.ofDigitChars_eq_foldl.symm

theorem digitsValue_toDigits (n : Nat) : digitsValue (Nat.toDigits 10 n) = n := by
  rw [digitsValue_eq, Nat.ofDigitChars_ten_toDigits]

theorem digitsValue_append (cs ds : List Char) :
    digitsValue (cs ++ ds) = 10 ^ ds.length * digitsValue cs + digitsValue ds := by
  rw [digitsValue_eq, digitsValue_eq, digitsValue_eq, Nat.ofDigitChars_append,
    Nat.ofDigitChars_eq_ofDigitChars_zero]

theorem digitsValue_zeros (n : Nat) : digitsValue (List.replicate n '0') = 0 := by
  rw [digitsValue_eq, Nat.ofDigitChars_replicate_zero, Nat.mul_zero]

theorem head_toDigits_ne_zero {n : Nat} (hn : 0 < n) : (Nat.toDigits 10 n).head? ≠ some '0' := by
  induction n using Nat.strongRecOn with
  | _ n ih =>
    by_cases hsmall : n < 10
    · rw [Nat.toDigits_of_lt_base hsmall]
      interval_cases n <;> decide
    · have hlower := ih (n / 10) (by omega) (by omega)
      have hne : Nat.toDigits 10 (n / 10) ≠ [] := by simp
      rw [Nat.toDigits_of_base_le (by omega) (by omega)]
      obtain ⟨c, more, hdigits⟩ := List.exists_cons_of_ne_nil hne
      rw [hdigits] at hlower ⊢
      simpa using hlower

theorem intText_toList (n : Int) :
    (intText n).toList = (if n < 0 then ['-'] else []) ++ Nat.toDigits 10 n.natAbs := by
  rw [intText]
  split <;> simp [Nat.repr]

theorem signed_of_digit {c : Char} (hc : c.isDigit = true) (negative : Bool) (rest : List Char) :
    signed ((if negative then ['-'] else []) ++ c :: rest) = (negative, c :: rest) := by
  cases negative with
  | true => rfl
  | false =>
    rw [if_neg Bool.false_ne_true, List.nil_append, signed]
    · intro _ heq
      cases (List.cons_eq_cons.mp heq).1
      cases hc
    · intro _ heq
      cases (List.cons_eq_cons.mp heq).1
      cases hc

theorem takeWhile_append_of_head {p : Char → Bool} {cs rest : List Char} (hcs : ∀ c ∈ cs, p c = true)
    (hrest : rest.head?.any p = false) : (cs ++ rest).takeWhile p = cs := by
  rw [List.takeWhile_append_of_pos hcs]
  cases rest with
  | nil => simp
  | cons c rest => rw [List.takeWhile_cons_of_neg (by simpa using hrest), List.append_nil]

theorem dropWhile_append_of_head {p : Char → Bool} {cs rest : List Char} (hcs : ∀ c ∈ cs, p c = true)
    (hrest : rest.head?.any p = false) : (cs ++ rest).dropWhile p = rest := by
  rw [List.dropWhile_append_of_pos hcs]
  cases rest with
  | nil => rfl
  | cons c rest => rw [List.dropWhile_cons_of_neg (by simpa using hrest)]

end Text

namespace Decimal

-- The rational number that a decimal is.
def value (d : Decimal) : ℚ := d.digits * (10 : ℚ) ^ d.exponent

-- The rational number that positional text denotes.
def textValue (cs : List Char) : ℚ :=
  let fraction := (cs.dropWhile (· != '.')).drop 1
  Text.digitsValue (cs.takeWhile (· != '.') ++ fraction) / (10 : ℚ) ^ fraction.length

theorem isDigit_ne_dot {c : Char} (h : c.isDigit = true) : (c != '.') = true := by
  rw [bne_iff_ne]
  rintro rfl
  exact absurd h (by decide)

theorem textValue_digits {cs : List Char} (h : ∀ c ∈ cs, c.isDigit = true) :
    textValue cs = Text.digitsValue cs := by
  have hdots : ∀ c ∈ cs, (c != '.') = true := fun c hc => isDigit_ne_dot (h c hc)
  rw [textValue, List.takeWhile_eq_self_iff.mpr hdots, List.dropWhile_eq_nil_iff.mpr hdots]
  simp

theorem textValue_point {whole fraction : List Char} (h : ∀ c ∈ whole, c.isDigit = true) :
    textValue (whole ++ '.' :: fraction)
      = Text.digitsValue (whole ++ fraction) / (10 : ℚ) ^ fraction.length := by
  have hdots : ∀ c ∈ whole, (c != '.') = true := fun c hc => isDigit_ne_dot (h c hc)
  have htake : (whole ++ '.' :: fraction).takeWhile (· != '.') = whole := by
    rw [List.takeWhile_append_of_pos hdots, List.takeWhile_cons_of_neg (by decide), List.append_nil]
  have hdrop : (whole ++ '.' :: fraction).dropWhile (· != '.') = '.' :: fraction := by
    rw [List.dropWhile_append_of_pos hdots, List.dropWhile_cons_of_neg (by decide)]
  rw [textValue, htake, hdrop, List.drop_one, List.tail_cons]

-- A fraction without the zeros at its end, and how many there were.
theorem exists_trimmed (fraction : List Char) :
    ∃ n, fraction = (fraction.reverse.dropWhile (· == '0')).reverse ++ List.replicate n '0' := by
  refine ⟨(fraction.reverse.takeWhile (· == '0')).length, ?_⟩
  have hzeros : fraction.reverse.takeWhile (· == '0')
      = List.replicate (fraction.reverse.takeWhile (· == '0')).length '0' :=
    List.eq_replicate_of_mem fun c hc => by simpa using List.mem_takeWhile_imp hc
  have hsplit := List.takeWhile_append_dropWhile (p := (· == '0')) (l := fraction.reverse)
  have hreverse := congrArg List.reverse hsplit
  rw [List.reverse_append, List.reverse_reverse, hzeros, List.reverse_replicate] at hreverse
  exact hreverse.symm

section Parts

variable {d : Decimal} {c : Char}

-- The digits of a number after as many zeros as make them more than `places`.
def padded (digits places : Nat) : List Char :=
  List.replicate (places + 1 - (Nat.toDigits 10 digits).length) '0' ++ Nat.toDigits 10 digits

def places (d : Decimal) : Nat := (-d.exponent).toNat

-- What the text of a decimal with places has before its point, and after it.
def whole (d : Decimal) : List Char :=
  (padded d.digits d.places).take ((padded d.digits d.places).length - d.places)

def fraction (d : Decimal) : List Char :=
  (((padded d.digits d.places).drop ((padded d.digits d.places).length - d.places)).reverse.dropWhile
    (· == '0')).reverse

theorem text_of_nonneg (h : 0 ≤ d.exponent) :
    d.text.toList = Nat.toDigits 10 d.digits ++ List.replicate d.exponent.toNat '0' := by
  rw [text]
  dsimp only
  rw [if_pos h, String.toList_ofList]

theorem text_of_neg (h : ¬ 0 ≤ d.exponent) :
    d.text.toList = if d.fraction = [] then d.whole else d.whole ++ '.' :: d.fraction := by
  rw [text]
  dsimp only
  rw [if_neg h, apply_ite String.toList, String.toList_ofList, String.toList_ofList]
  simp only [fraction, whole, places, padded, List.isEmpty_iff, List.reverse_eq_nil_iff]

theorem length_padded (digits places : Nat) : places < (padded digits places).length := by
  rw [padded, List.length_append, List.length_replicate]
  omega

theorem digitsValue_padded (digits places : Nat) :
    Text.digitsValue (padded digits places) = digits := by
  rw [padded, Text.digitsValue_append, Text.digitsValue_zeros, Text.digitsValue_toDigits]
  simp

theorem isDigit_of_mem_zeros {n : Nat} (h : c ∈ List.replicate n '0') : c.isDigit = true := by
  rw [List.eq_of_mem_replicate h]
  decide

theorem isDigit_of_mem_toDigits {n : Nat} (h : c ∈ Nat.toDigits 10 n) : c.isDigit = true :=
  Nat.isDigit_of_mem_toDigits (by decide) (by decide) h

theorem isDigit_of_mem_padded {digits places : Nat} (h : c ∈ padded digits places) :
    c.isDigit = true :=
  (List.mem_append.mp h).elim isDigit_of_mem_zeros isDigit_of_mem_toDigits

theorem isDigit_of_mem_integral {n : Nat} (h : c ∈ Nat.toDigits 10 d.digits ++ List.replicate n '0') :
    c.isDigit = true :=
  (List.mem_append.mp h).elim isDigit_of_mem_toDigits isDigit_of_mem_zeros

theorem isDigit_of_mem_whole (h : c ∈ d.whole) : c.isDigit = true :=
  isDigit_of_mem_padded (List.mem_of_mem_take h)

theorem isDigit_of_mem_fraction (h : c ∈ d.fraction) : c.isDigit = true := by
  have hmem := (List.dropWhile_suffix _).subset (List.mem_reverse.mp h)
  exact isDigit_of_mem_padded (List.mem_of_mem_drop (List.mem_reverse.mp hmem))

theorem whole_ne_nil (d : Decimal) : d.whole ≠ [] := by
  have hlength := length_padded d.digits d.places
  rw [whole, ← List.length_pos_iff, List.length_take]
  omega

-- The zeros that are left out of a fraction are made up for by a power of ten.
theorem exists_digits_eq (d : Decimal) :
    ∃ n, d.places = d.fraction.length + n ∧
      d.digits = Text.digitsValue (d.whole ++ d.fraction) * 10 ^ n := by
  have hlength := length_padded d.digits d.places
  have hvalue := digitsValue_padded d.digits d.places
  rw [fraction, whole]
  generalize padded d.digits d.places = digits at hlength hvalue ⊢
  have hsplit := List.take_append_drop (digits.length - d.places) digits
  have hdrop : (digits.drop (digits.length - d.places)).length = d.places := by
    rw [List.length_drop]
    omega
  obtain ⟨n, hn⟩ := exists_trimmed (digits.drop (digits.length - d.places))
  refine ⟨n, ?_, ?_⟩
  · conv_lhs => rw [← hdrop, hn]
    rw [List.length_append, List.length_replicate]
  · conv_lhs => rw [← hvalue, ← hsplit, hn, ← List.append_assoc, Text.digitsValue_append,
      Text.digitsValue_zeros, List.length_replicate]
    rw [Nat.add_zero, Nat.mul_comm]

-- There is a zero before the point only where there is nothing else to stand there.
theorem whole_leading (hdigits : d.digits ≠ 0) (hzero : d.whole.head? = some '0') :
    d.whole = ['0'] := by
  have hhead := Text.head_toDigits_ne_zero (Nat.pos_of_ne_zero hdigits)
  have hlength := length_padded d.digits d.places
  rcases Nat.lt_or_ge d.places (Nat.toDigits 10 d.digits).length with hlong | hshort
  · have hplain : padded d.digits d.places = Nat.toDigits 10 d.digits := by
      rw [padded, Nat.sub_eq_zero_of_le hlong, List.replicate_zero, List.nil_append]
    rw [whole, List.head?_take, if_neg (by omega), hplain] at hzero
    exact absurd hzero hhead
  · have hone : d.whole.length = 1 := by
      rw [whole, List.length_take, padded, List.length_append, List.length_replicate]
      omega
    obtain ⟨c, hc⟩ := List.length_eq_one_iff.mp hone
    rw [hc] at hzero ⊢
    simpa using hzero

end Parts

-- Text consists of digits and a point at most.
theorem mem_text {d : Decimal} {c : Char} (h : c ∈ d.text.toList) : c.isDigit = true ∨ c = '.' := by
  by_cases hexponent : 0 ≤ d.exponent
  · rw [text_of_nonneg hexponent] at h
    exact .inl (isDigit_of_mem_integral h)
  · rw [text_of_neg hexponent] at h
    split at h
    next => exact .inl (isDigit_of_mem_whole h)
    next =>
      rcases List.mem_append.mp h with h | h
      · exact .inl (isDigit_of_mem_whole h)
      · rcases List.mem_cons.mp h with h | h
        · exact .inr h
        · exact .inl (isDigit_of_mem_fraction h)

theorem text_ne_nil (d : Decimal) : d.text.toList ≠ [] := by
  by_cases hexponent : 0 ≤ d.exponent
  · rw [text_of_nonneg hexponent]
    simp
  · rw [text_of_neg hexponent]
    split
    next => exact d.whole_ne_nil
    next => simp

-- Text denotes what it was written for.
theorem textValue_text (d : Decimal) : textValue d.text.toList = d.value := by
  rw [value]
  by_cases hexponent : 0 ≤ d.exponent
  · obtain ⟨n, hn⟩ := Int.eq_ofNat_of_zero_le hexponent
    rw [text_of_nonneg hexponent, textValue_digits fun c hc => isDigit_of_mem_integral hc,
      Text.digitsValue_append, Text.digitsValue_zeros, Text.digitsValue_toDigits, hn]
    simp [mul_comm]
  · obtain ⟨n, hplaces, hdigits⟩ := d.exists_digits_eq
    have hexponentPlaces : d.exponent = -((d.fraction.length + n : Nat) : Int) := by
      rw [← hplaces, places]
      omega
    have hpoint : ((10 : ℚ) ^ d.fraction.length) ≠ 0 := by positivity
    have hzeros : ((10 : ℚ) ^ n) ≠ 0 := by positivity
    rw [text_of_neg hexponent, hexponentPlaces, zpow_neg, zpow_natCast, pow_add]
    conv_rhs => rw [hdigits]
    split
    next hempty =>
      rw [textValue_digits fun c hc => isDigit_of_mem_whole hc, hempty]
      simp
    next =>
      rw [textValue_point fun c hc => isDigit_of_mem_whole hc]
      push_cast
      field_simp

-- Text is digits without a needless zero before them, or digits on both sides of a point.
theorem text_cases {d : Decimal} (h : d.digits ≠ 0) :
    ((∀ c ∈ d.text.toList, c.isDigit = true) ∧
        (d.text.toList.head? = some '0' → d.text.toList = ['0'])) ∨
      ∃ whole fraction, d.text.toList = whole ++ '.' :: fraction ∧ whole ≠ [] ∧ fraction ≠ [] ∧
        (∀ c ∈ whole, c.isDigit = true) ∧ ∀ c ∈ fraction, c.isDigit = true := by
  by_cases hexponent : 0 ≤ d.exponent
  · have hhead := Text.head_toDigits_ne_zero (Nat.pos_of_ne_zero h)
    rw [text_of_nonneg hexponent]
    refine .inl ⟨fun c hc => isDigit_of_mem_integral hc, fun hzero => ?_⟩
    rw [List.head?_append_of_ne_nil _ (by simp)] at hzero
    exact absurd hzero hhead
  · rw [text_of_neg hexponent]
    split
    next => exact .inl ⟨fun c hc => isDigit_of_mem_whole hc, whole_leading h⟩
    next hfraction =>
      exact .inr ⟨d.whole, d.fraction, rfl, d.whole_ne_nil, hfraction,
        fun c hc => isDigit_of_mem_whole hc, fun c hc => isDigit_of_mem_fraction hc⟩

end Decimal

end Targeting
