import Mathlib
import Targeting.Proofs.Decimal
import Targeting.Proofs.DefinitionText.Writing

namespace Targeting.DefinitionText

section Gaps

-- Whether a text is a gap, when it starts in a comment or not.
def isGap (inComment : Bool) : List Char → Bool
  | [] => !inComment
  | c :: rest =>
    if inComment then c != '\r' && isGap (c != '\n') rest
    else if isBlank c then isGap false rest
    else c == '#' && isGap true rest

theorem isGap_line {note : List Char} (rest : List Char) (hfeed : '\n' ∉ note)
    (hreturn : '\r' ∉ note) : isGap true (note ++ '\n' :: rest) = isGap false rest := by
  induction note with
  | nil => rfl
  | cons c note ih =>
    rw [List.mem_cons, not_or] at hfeed hreturn
    rw [List.cons_append, isGap, if_pos rfl, bne_iff_ne.mpr (Ne.symm hreturn.1),
      bne_iff_ne.mpr (Ne.symm hfeed.1), Bool.true_and]
    exact ih hfeed.2 hreturn.2

theorem isGap_of_gap {gap : List Char} (h : Gap gap) : isGap false gap = true := by
  induction h with
  | nil => rfl
  | blank hc _ ih => simp [isGap, hc, ih]
  | comment hfeed hreturn _ ih =>
    have hline := (isGap_line _ hfeed hreturn).trans ih
    simpa [isGap, isBlank] using hline

theorem gap_of_isGap {rest : List Char} :
    (isGap false rest = true → Gap rest) ∧ (isGap true rest = true →
      ∃ note more, rest = note ++ '\n' :: more ∧ '\n' ∉ note ∧ '\r' ∉ note ∧ Gap more) := by
  induction rest with
  | nil => exact ⟨fun _ => .nil, fun h => by cases h⟩
  | cons c rest ih =>
    constructor
    · intro h
      rw [isGap, if_neg Bool.false_ne_true] at h
      split at h
      next hblank => exact .blank hblank (ih.1 h)
      next =>
        obtain ⟨hhash, hrest⟩ := Bool.and_eq_true_iff.mp h
        obtain ⟨note, more, rfl, hfeed, hreturn, hmore⟩ := ih.2 hrest
        rw [eq_of_beq hhash]
        exact .comment hfeed hreturn hmore
    · intro h
      rw [isGap, if_pos rfl] at h
      obtain ⟨hreturn, hrest⟩ := Bool.and_eq_true_iff.mp h
      rw [bne_iff_ne] at hreturn
      by_cases hfeed : c = '\n'
      · subst hfeed
        exact ⟨[], rest, rfl, by simp, by simp, ih.1 hrest⟩
      · rw [bne_iff_ne.mpr hfeed] at hrest
        obtain ⟨note, more, rfl, hnoteFeed, hnoteReturn, hmore⟩ := ih.2 hrest
        refine ⟨c :: note, more, rfl, ?_, ?_, hmore⟩
        · simp [hnoteFeed, Ne.symm hfeed]
        · simp [hnoteReturn, Ne.symm hreturn]

theorem gap_iff (gap : List Char) : Gap gap ↔ isGap false gap = true :=
  ⟨isGap_of_gap, gap_of_isGap.1⟩

instance : DecidablePred Gap := fun gap => decidable_of_iff _ (gap_iff gap).symm

end Gaps

section Spreads

-- The text of tokens that are given with the gaps before them.
def spread (items : List (List Char × Token)) : List Char :=
  items.flatMap fun e => e.1 ++ e.2.chars

def Separated : Option Token → List (List Char × Token) → Prop
  | _, [] => True
  | previous, (gap, t) :: items =>
    Gap gap ∧ (gap = [] → ∀ u ∈ previous, u.touches t = false) ∧ Separated (some t) items

instance decidableSeparated : (previous : Option Token) → (items : List (List Char × Token)) →
    Decidable (Separated previous items)
  | _, [] => inferInstanceAs (Decidable True)
  | previous, (gap, t) :: items =>
    haveI := decidableSeparated (some t) items
    inferInstanceAs (Decidable
      (Gap gap ∧ (gap = [] → ∀ u ∈ previous, u.touches t = false) ∧ Separated (some t) items))

theorem laid_spread {previous : Option Token} {items : List (List Char × Token)} {gap : List Char}
    (h : Separated previous items) (hgap : Gap gap) :
    Laid previous (items.map Prod.snd) (spread items ++ gap) := by
  induction items generalizing previous with
  | nil => exact .nil hgap
  | cons e items ih =>
    obtain ⟨hbefore, htouch, hrest⟩ := h
    have hlaid := Laid.cons hbefore htouch (ih hrest)
    simpa [spread] using hlaid

end Spreads

section Texts

def escapeChar (c : Char) : List Char := if c == '"' || c == '\\' then ['\\', c] else [c]

theorem spelled_escape (text : List Char) : Spelled (text.flatMap escapeChar) text := by
  induction text with
  | nil => exact .nil
  | cons c text ih =>
    rw [List.flatMap_cons, escapeChar]
    split
    next hc =>
      rcases Bool.or_eq_true_iff.mp hc with h | h <;> rw [eq_of_beq h] <;> exact .escape ih
    next hc =>
      rw [Bool.or_eq_true_iff, not_or, beq_iff_eq, beq_iff_eq] at hc
      exact .plain hc.1 hc.2 ih

-- Every text can be written.
def WrittenText.escaped (s : String) : WrittenText where
  body := s.toList.flatMap escapeChar
  text := s.toList
  spelled := spelled_escape s.toList

end Texts

section Integers

def Integer.ofInt (n : Int) : Integer where
  negative := n < 0
  digits := Nat.toDigits 10 n.natAbs
  digits_ne_nil := by simp
  digits_ok := fun _ hc => Nat.isDigit_of_mem_toDigits (by decide) (by decide) hc
  leading_ok := by
    intro _ hzero
    rcases Nat.eq_zero_or_pos n.natAbs with h | h
    · rw [h]
      rfl
    · exact absurd hzero (Text.head_toDigits_ne_zero h)

theorem Integer.chars_ofInt (n : Int) : (ofInt n).chars = (Text.intText n).toList := by
  rw [Text.intText_toList, chars, ofInt]
  simp only [decide_eq_true_eq]

theorem int?_of_digits {digits : List Char} (hne : digits ≠ [])
    (hok : ∀ c ∈ digits, c.isDigit = true) (negative : Bool) :
    Text.int? ((if negative then ['-'] else []) ++ digits)
      = some (if negative then -(Text.digitsValue digits : Int) else Text.digitsValue digits) := by
  have hempty : digits.isEmpty = false := by simpa using hne
  have hnat : Text.nat? digits = some (Text.digitsValue digits) := by
    rw [Text.nat?, hempty, List.all_eq_true.mpr hok]
    rfl
  obtain ⟨c, more, rfl⟩ := List.exists_cons_of_ne_nil hne
  rw [Text.int?, Text.signed_of_digit (hok c List.mem_cons_self)]
  dsimp only
  rw [hnat]
  rfl

theorem int64?_of_int? {cs : List Char} {n : Int} (h : Text.int? cs = some n)
    (hlo : Int64.minValue.toInt ≤ n) (hhi : n ≤ Int64.maxValue.toInt) :
    Text.int64? cs = some (Int64.ofInt n) := by
  rw [Text.int64?, h, Option.bind_some, if_pos ⟨hlo, hhi⟩]

-- Every integer can be written.
def WrittenInteger.ofInt64 (n : Int64) : WrittenInteger where
  numeral := .ofInt n.toInt
  value := n
  reads := by
    have hint := int?_of_digits (Integer.ofInt n.toInt).digits_ne_nil
      (Integer.ofInt n.toInt).digits_ok (Integer.ofInt n.toInt).negative
    have hvalue : (if (Integer.ofInt n.toInt).negative
        then -(Text.digitsValue (Integer.ofInt n.toInt).digits : Int)
        else Text.digitsValue (Integer.ofInt n.toInt).digits) = n.toInt := by
      simp only [Integer.ofInt, Text.digitsValue_toDigits, decide_eq_true_eq]
      omega
    rw [hvalue] at hint
    have hread := int64?_of_int? hint (Int64.le_iff_toInt_le.mp (Int64.minValue_le n))
      (Int64.le_iff_toInt_le.mp (Int64.le_maxValue n))
    rwa [Int64.ofInt_toInt] at hread

end Integers

end Targeting.DefinitionText
