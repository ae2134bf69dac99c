import Mathlib
import Targeting.Proofs.Binary64.ReadBack
import Targeting.Proofs.Criteria.Sameness
import Targeting.Proofs.DefinitionText.Expressible
import Targeting.Proofs.DefinitionText.Layout
import Targeting.Proofs.Value.KeySet

namespace Targeting

-- No quotation mark, and no backslash but before a character with which it means nothing.
def plainChars : List Char → Bool
  | [] => true
  | ['\\'] => false
  | '\\' :: c :: rest => DefinitionText.unescape c == ['\\', c] && plainChars rest
  | c :: rest => c != '"' && plainChars rest

def isPlain (s : String) : Bool := plainChars s.toList

-- What is written the way it reads.
def Key.Plain : Key → Prop
  | bool _ => True
  | int _ => True
  | float x => x.FitsInt64
  | text s => isPlain s = true

instance : DecidablePred Key.Plain
  | .bool _ => inferInstanceAs (Decidable True)
  | .int _ => inferInstanceAs (Decidable True)
  | .float x => inferInstanceAs (Decidable x.FitsInt64)
  | .text s => inferInstanceAs (Decidable (isPlain s = true))

def Caveat.Plain : Caveat → Prop
  | oneOf keys => ∀ k ∈ keys.toList, k.Plain
  | pattern p => isPlain p.source = true
  | range r => (∀ x ∈ r.lo, x.FitsInt64) ∧ ∀ x ∈ r.hi, x.FitsInt64
  | version b => isPlain b.base = true

instance : DecidablePred Caveat.Plain
  | .oneOf keys => inferInstanceAs (Decidable (∀ k ∈ keys.toList, k.Plain))
  | .pattern p => inferInstanceAs (Decidable (isPlain p.source = true))
  | .range r =>
    inferInstanceAs (Decidable ((∀ x ∈ r.lo, x.FitsInt64) ∧ ∀ x ∈ r.hi, x.FitsInt64))
  | .version b => inferInstanceAs (Decidable (isPlain b.base = true))

def Predicate.Plain (p : Predicate) : Prop := p.caveat.Plain ∧ p.weight.FitsInt64

instance (p : Predicate) : Decidable p.Plain := inferInstanceAs (Decidable (_ ∧ _))

def Definition.Plain (d : Definition) : Prop :=
  isPlain d.id = true ∧ ∀ c ∈ d.clauses, ∀ p ∈ c, p.Plain

instance (d : Definition) : Decidable d.Plain :=
  inferInstanceAs (Decidable (_ ∧ ∀ c ∈ d.clauses, ∀ p ∈ c, p.Plain))

namespace DefinitionText

theorem spelled_of_plainChars {cs : List Char} (h : plainChars cs = true) : Spelled cs cs := by
  fun_induction plainChars cs with
  | case1 => exact .nil
  | case2 => cases h
  | case3 c rest ih =>
    obtain ⟨hc, hrest⟩ := Bool.and_eq_true_iff.mp h
    have hspelled := Spelled.escape (c := c) (ih hrest)
    rwa [eq_of_beq hc] at hspelled
  | case4 c rest hlast hescape ih =>
    obtain ⟨hc, hrest⟩ := Bool.and_eq_true_iff.mp h
    refine .plain (bne_iff_ne.mp hc) ?_ (ih hrest)
    rintro rfl
    cases rest with
    | nil => exact hlast rfl rfl
    | cons c rest => exact hescape c rest rfl rfl

def WrittenText.plain (s : String) (h : isPlain s = true) : WrittenText :=
  ⟨s.toList, s.toList, spelled_of_plainChars h⟩

theorem WrittenText.meaning_plain {s : String} (h : isPlain s = true) : (plain s h).meaning = s :=
  String.ofList_toList

theorem WrittenText.chars_plain {s : String} (h : isPlain s = true) :
    (plain s h).token.chars = (quoted s).toList := by
  simp [token, plain, Token.chars, quoted]

section Numbers

variable {x : Binary64}

-- Digits that a 64-bit integer has, after an optional minus.
theorem exists_writtenInteger (negative : Bool) (digits : List Char) (hne : digits ≠ [])
    (hok : ∀ c ∈ digits, c.isDigit = true) (hleading : digits.head? = some '0' → digits = ['0'])
    (hlt : Text.digitsValue digits < 2 ^ 63) :
    ∃ n : WrittenInteger, n.numeral.chars = (if negative then ['-'] else []) ++ digits ∧
      n.value.toInt
        = if negative then -(Text.digitsValue digits : Int) else Text.digitsValue digits := by
  have hint := int?_of_digits hne hok negative
  generalize hvalue : (if negative then -(Text.digitsValue digits : Int)
    else Text.digitsValue digits) = value at hint ⊢
  have hbounds : -2 ^ 63 ≤ value ∧ value < 2 ^ 63 := by
    split at hvalue <;> omega
  have hread := int64?_of_int? hint hbounds.1 (Int.le_of_lt_add_one hbounds.2)
  exact ⟨⟨⟨negative, digits, hne, hok, fun _ => hleading⟩, Int64.ofInt value, hread⟩, rfl,
    Int64.toInt_ofInt_of_le hbounds.1 hbounds.2⟩

-- A number written the way it is printed, which reads as that number, zeros apart.
structure WrittenNumber.Prints (n : WrittenNumber) (x : Binary64) : Prop where
  chars : n.token.chars = x.toText.toList
  same : n.meaning.same x = true
  value : Value.floatInt64? x = none → n.value = .float x

theorem exists_prints_zero (h : x.FitsInt64) (hzero : x.isZero = true) :
    ∃ n : WrittenNumber, n.Prints x := by
  have hmagnitude := Binary64.magnitude_eq_zero hzero
  have hunits : x.units % Binary64.unitsPerOne = 0 := by
    simp [Binary64.units, hmagnitude]
  have hsome := h.floatInt64?_isSome hunits
  have htext : x.shortest.text.toList = ['0'] := by
    rw [Binary64.shortest_of_isZero hzero]
    rfl
  obtain ⟨n, hchars, hvalue⟩ := exists_writtenInteger x.negative ['0'] (by simp) (by simp)
    (by simp) (by decide)
  refine ⟨.int n, ?_, ?_, fun hnone => ?_⟩
  · rw [Binary64.toText_toList h.isFinite, htext]
    exact hchars
  · have hint : n.value.toInt = 0 := by
      rw [hvalue]
      cases x.negative <;> rfl
    rw [WrittenNumber.meaning, hint]
    exact Binary64.same_zero hzero
  · rw [hnone] at hsome
    cases hsome

theorem exists_prints_digits (h : x.FitsInt64) (hzero : x.isZero = false)
    (hdigits : ∀ c ∈ x.shortest.text.toList, c.isDigit = true)
    (hleading : x.shortest.text.toList.head? = some '0' → x.shortest.text.toList = ['0']) :
    ∃ n : WrittenNumber, n.Prints x := by
  have hfinite := h.isFinite
  have hunits := Binary64.ofUnits_digits hfinite hzero hdigits
  generalize hn : Text.digitsValue x.shortest.text.toList = n at hunits
  -- `n` itself is in range, not only the number it rounds to, so its text reads as an integer
  have hlt : n < 2 ^ 63 := Binary64.FitsInt64.lt_of_ofUnits (by rw [hunits]; exact h)
  have hne : n ≠ 0 := by
    rintro rfl
    have hvalue := Binary64.value_shortest_ne_zero hfinite hzero
    rw [← Decimal.textValue_text, Decimal.textValue_digits hdigits, hn, Nat.cast_zero] at hvalue
    exact hvalue rfl
  have hmod := Binary64.units_mod_ofUnits (by rw [hunits]; exact hfinite)
  rw [hunits] at hmod
  have hsome := h.floatInt64?_isSome hmod
  obtain ⟨m, hchars, hvalue⟩ := exists_writtenInteger x.negative _ (Decimal.text_ne_nil _)
    hdigits hleading (by rw [hn]; exact hlt)
  refine ⟨.int m, ?_, ?_, fun hnone => ?_⟩
  · rw [Binary64.toText_toList hfinite]
    exact hchars
  · rw [WrittenNumber.meaning, hvalue, hn, Binary64.ofInt_signed x.negative hne, hunits]
    exact Binary64.same_refl (Binary64.isNaN_of_isFinite hfinite)
  · rw [hnone] at hsome
    cases hsome

theorem exists_prints_point (hfinite : x.isFinite = true) (hzero : x.isZero = false)
    {whole fraction : List Char} (htext : x.shortest.text.toList = whole ++ '.' :: fraction)
    (hwhole : whole ≠ []) (hfraction : fraction ≠ []) (hwholeOk : ∀ c ∈ whole, c.isDigit = true)
    (hfractionOk : ∀ c ∈ fraction, c.isDigit = true) : ∃ n : WrittenNumber, n.Prints x := by
  have hread := Binary64.ofChars?_point hfinite hzero htext hwholeOk hfractionOk hwhole
  refine ⟨.float ⟨⟨x.negative, whole, fraction, hwhole, hfraction, hwholeOk, hfractionOk⟩, x,
    hread⟩, ?_, Binary64.same_refl (Binary64.isNaN_of_isFinite hfinite), fun _ => rfl⟩
  rw [Binary64.toText_toList hfinite, htext]
  rfl

theorem exists_prints (h : x.FitsInt64) : ∃ n : WrittenNumber, n.Prints x := by
  cases hzero : x.isZero with
  | true => exact exists_prints_zero h hzero
  | false =>
    rcases Decimal.text_cases (Binary64.digits_shortest_ne_zero h.isFinite hzero) with
      ⟨hdigits, hleading⟩ | ⟨whole, fraction, htext, hwhole, hfraction, hwholeOk, hfractionOk⟩
    · exact exists_prints_digits h hzero hdigits hleading
    · exact exists_prints_point h.isFinite hzero htext hwhole hfraction hwholeOk hfractionOk

end Numbers

section Values

variable {x : Binary64} {k : Key}

-- A float is a key of its own only when it is no integer.
theorem floatInt64?_of_key {v : Value} (h : v.key = .float x) (hx : x.FitsInt64) :
    Value.floatInt64? x = none ∧ x.isNaN = false := by
  have hnan := Binary64.isNaN_of_isFinite hx.isFinite
  cases v with
  | float y =>
    rw [Value.key] at h
    split at h
    next => cases h
    next hnone =>
      cases hy : y.isNaN with
      | true =>
        rw [hy] at h
        cases h
        cases hnan
      | false =>
        rw [hy] at h
        cases h
        exact ⟨hnone, hnan⟩
  | int n => cases h
  | bool b => cases h
  | text s => cases h

theorem exists_writtenValue (hk : ∃ v : Value, v.key = k) (hplain : k.Plain) :
    ∃ v : WrittenValue, v.token.chars = k.display.toList ∧ v.meaning.key = k := by
  cases k with
  | bool b => exact ⟨.bool b, rfl, rfl⟩
  | int n => exact ⟨.number (.int (.ofInt64 n)), Integer.chars_ofInt n.toInt, rfl⟩
  | text s =>
    have hplain : isPlain s = true := hplain
    refine ⟨.text (.plain s hplain), WrittenText.chars_plain hplain, ?_⟩
    rw [WrittenValue.meaning, WrittenText.meaning_plain, Value.key]
  | float x =>
    obtain ⟨v, hv⟩ := hk
    obtain ⟨hnone, hnan⟩ := floatInt64?_of_key hv hplain
    obtain ⟨n, hn⟩ := exists_prints hplain
    refine ⟨.number n, hn.chars, ?_⟩
    rw [WrittenValue.meaning, hn.value hnone, Value.key, hnone]
    simp [hnan]

end Values

end DefinitionText

end Targeting
