import Mathlib
import Targeting.Proofs.Decimal
import Targeting.Proofs.DefinitionText.Tokens

namespace Targeting.DefinitionText

open Reader

-- Whether two texts differ at a place that both have.
def apart : List Char → List Char → Bool
  | w :: ws, c :: cs => w != c || apart ws cs
  | _, _ => false

section Words

variable {t : Token} {ts : List Token} {word cs rest : List Char}

theorem literalFrom_append (word rest : List Char) : literalFrom word (word ++ rest) = some rest := by
  induction word with
  | nil => rfl
  | cons w ws ih => simpa [literalFrom] using ih

theorem literalFrom_of_apart (h : apart word cs = true) : literalFrom word (cs ++ rest) = none := by
  induction word generalizing cs with
  | nil => cases h
  | cons w ws ih =>
    cases cs with
    | nil => cases h
    | cons c cs =>
      rw [List.cons_append, literalFrom]
      rcases Bool.or_eq_true_iff.mp h with hne | hlater
      · rw [if_neg (by simpa using hne)]
      · rw [ih hlater, ite_self]

theorem reads_literal {word : String} (h : t.chars = word.toList) (ts : List Token) :
    Reads (literal word) () (At (t :: ts)) (Laid (some t) ts) := by
  rintro _ ⟨rest, rfl, hrest⟩
  exact ⟨rest, by rw [literal, h, literalFrom_append], hrest⟩

theorem refuses_literal {word : String} (h : apart word.toList t.chars = true) (ts : List Token) :
    Refuses (literal word) (At (t :: ts)) := by
  rintro _ ⟨rest, rfl, -⟩
  exact ⟨_, by rw [literal, literalFrom_of_apart h], rfl⟩

theorem exists_head_ne {w : Char} (h : apart [w] t.chars = true) :
    ∃ c rest, t.chars = c :: rest ∧ c ≠ w := by
  obtain ⟨c, rest, hchars, -⟩ := t.head
  refine ⟨c, rest, hchars, ?_⟩
  rintro rfl
  simp [hchars, apart] at h

theorem reads_constant {α : Type} {word : String} (a : α) (h : t.chars = word.toList)
    (ts : List Token) : Reads (constant word a) a (At (t :: ts)) (Laid none ts) :=
  ((reads_literal h ts).bind (Reads.pure a _)).weaken (fun _ h => h) fun _ h => h.forget

theorem refuses_constant {α : Type} {word : String} (a : α) (h : apart word.toList t.chars = true)
    (ts : List Token) : Refuses (constant word a) (At (t :: ts)) :=
  (refuses_literal h ts).bind

-- One of two words, each for one answer.
theorem reads_either (token : Bool → Token) {yes no : String} (hyes : (token true).chars = yes.toList)
    (hno : (token false).chars = no.toList) (h : apart yes.toList no.toList = true) (b : Bool)
    (ts : List Token) :
    Reads (orElse (constant yes true) (constant no false)) b (At (token b :: ts)) (Laid none ts) := by
  cases b with
  | true => exact (reads_constant true hyes ts).orElse_left
  | false =>
    exact .orElse_right (refuses_constant true (by rw [hno]; exact h) ts) (reads_constant false hno ts)

theorem reads_symbol (s : Symbol) (ts : List Token) :
    Reads (symbol s.text) () (Laid none (.symbol s :: ts)) (Laid none ts) :=
  (reads_blanks _).bind ((reads_literal rfl ts).weaken (fun _ h => h) fun _ h => h.forget)

theorem refuses_symbol {s : Symbol} (h : apart s.text.toList t.chars = true) (ts : List Token) :
    Refuses (symbol s.text) (Laid none (t :: ts)) :=
  Refuses.after_reads (reads_blanks _) (refuses_literal h ts)

theorem reads_closing (s : Symbol) (ts : List Token) :
    Reads (closing s.text) () (Laid none (.symbol s :: ts)) (Laid none ts) :=
  (reads_blanks _).bind ((reads_literal rfl ts).weaken (fun _ h => h) fun _ h => h.forget).commit

theorem Word.last_isWordChar (w : Word) : w.text.toList.getLast?.any isWordChar = true := by
  rcases w with (_ | _) | _ | _ | _ | _ | _ | _ | _ | _ | _ | (_ | _) <;> rfl

theorem reads_wordEnd (w : Word) (ts : List Token) :
    Reads wordEnd () (Laid (some (.word w)) ts) (Laid none ts) := by
  intro cs h
  refine ⟨cs, ?_, h.forget⟩
  have hend : cs.head?.any isWordChar = false := by
    have hafter := h.head_after w.last_isWordChar
    cases cs with
    | nil => rfl
    | cons c cs => exact (Bool.or_eq_false_iff.mp hafter).1
  rw [wordEnd, hend, if_neg Bool.false_ne_true]

theorem reads_keyword (w : Word) (ts : List Token) :
    Reads (keyword w.text) () (Laid none (.word w :: ts)) (Laid none ts) :=
  (reads_blanks _).bind ((reads_literal rfl ts).bind (reads_wordEnd w ts))

theorem refuses_keyword {w : Word} (h : apart w.text.toList t.chars = true) (ts : List Token) :
    Refuses (keyword w.text) (Laid none (t :: ts)) :=
  Refuses.after_reads (reads_blanks _) (refuses_literal h ts).bind

theorem refuses_keyword_end (w : Word) : Refuses (keyword w.text) (Laid none []) := by
  refine Refuses.after_reads (reads_blanks _) (Refuses.bind ?_)
  rintro _ rfl
  refine ⟨⟨[], false, []⟩, ?_, rfl⟩
  rcases w with (_ | _) | _ | _ | _ | _ | _ | _ | _ | _ | _ | (_ | _) <;> rfl

end Words

theorem reads_path (p : Path) (ts : List Token) :
    Reads path p.name (At (.path p :: ts)) (Laid none ts) := by
  rintro _ ⟨rest, rfl, hrest⟩
  refine ⟨rest, ?_, hrest.forget⟩
  have hend := hrest.head_after rfl
  have hchars : Token.chars (.path p) ++ rest = p.head :: (p.tail ++ rest) := rfl
  rw [hchars, path, if_pos p.head_ok, Text.takeWhile_append_of_head p.tail_ok hend,
    Text.dropWhile_append_of_head p.tail_ok hend]
  rfl

section Texts

variable {t : Token} {ts : List Token}

theorem stringRest_spelled {body text : List Char} (rest : List Char) (h : Spelled body text) :
    stringRest (body ++ '"' :: rest) = .done text rest := by
  induction h with
  | nil => rfl
  | @plain c body text hquote hbackslash _ ih =>
    rw [List.cons_append, stringRest, ih]
    · exact fun hc => absurd hc hbackslash
    · exact hquote
    · exact fun _ _ hc => absurd hc hbackslash
  | @escape c body text _ ih =>
    rw [List.cons_append, List.cons_append, stringRest, ih]

theorem reads_text (t : WrittenText) (ts : List Token) :
    Reads stringLiteral t.meaning (At (t.token :: ts)) (Laid none ts) := by
  rintro _ ⟨rest, rfl, hrest⟩
  refine ⟨rest, ?_, hrest.forget⟩
  have hchars : t.token.chars ++ rest = '"' :: (t.body ++ '"' :: rest) := by
    simp [WrittenText.token, Token.chars]
  rw [hchars, stringLiteral, stringRest_spelled rest t.spelled]
  rfl

theorem refuses_text (h : apart ['"'] t.chars = true) (ts : List Token) :
    Refuses stringLiteral (At (t :: ts)) := by
  rintro _ ⟨rest, rfl, -⟩
  obtain ⟨c, more, hchars, hne⟩ := exists_head_ne h
  refine ⟨⟨t.chars ++ rest, false, []⟩, ?_, rfl⟩
  rw [hchars, List.cons_append, stringLiteral]
  intro _ heq
  exact absurd (List.cons_eq_cons.mp heq).1 hne

end Texts

section Numbers

variable {ts : List Token} {rest : List Char}

theorem last_digits (before : List Char) {digits : List Char} (hne : digits ≠ [])
    (h : ∀ c ∈ digits, c.isDigit = true) :
    (before ++ digits).getLast?.any isWordChar = true := by
  rw [List.getLast?_append_of_ne_nil _ hne, List.getLast?_eq_some_getLast hne]
  exact isWordChar_of_isDigit (h _ (List.getLast_mem hne))

theorem WrittenNumber.last_isWordChar (n : WrittenNumber) :
    n.token.chars.getLast?.any isWordChar = true := by
  cases n with
  | int n =>
    rw [token, Token.chars, Integer.chars]
    exact last_digits _ n.numeral.digits_ne_nil n.numeral.digits_ok
  | float x =>
    rw [token, Token.chars, Numeral.chars, Numeral.unsignedChars, List.append_cons,
      ← List.append_assoc]
    exact last_digits _ x.numeral.fraction_ne_nil x.numeral.fraction_ok

def isNumberChar (c : Char) : Bool := c.isDigit || c == '.'

-- A number ends where no number goes on.
theorem WrittenNumber.head_after {n : WrittenNumber} (h : Laid (some n.token) ts rest) :
    rest.head?.any isNumberChar = false ∧ rest.head?.any Char.isDigit = false := by
  have hend := h.head_after (by rw [n.last_isWordChar, Bool.or_true])
  cases rest with
  | nil => exact ⟨rfl, rfl⟩
  | cons c rest =>
    obtain ⟨hword, hdot⟩ := Bool.or_eq_false_iff.mp hend
    have hdigit : c.isDigit = false := by
      rw [← Bool.not_eq_true]
      intro hc
      rw [isWordChar_of_isDigit hc] at hword
      cases hword
    exact ⟨by simp [isNumberChar, hdigit, hdot], by simp [hdigit]⟩

theorem integerDigits_append {n : Integer} (hn : n.negative = false)
    (h : rest.head?.any Char.isDigit = false) :
    integerDigits (n.digits ++ rest) = some (n.digits, rest) := by
  have hleading := n.leading_ok hn
  have hok := n.digits_ok
  obtain ⟨c, more, hdigits⟩ := List.exists_cons_of_ne_nil n.digits_ne_nil
  rw [hdigits] at hleading hok ⊢
  have hc : c.isDigit = true := hok c List.mem_cons_self
  have hmore : ∀ d ∈ more, d.isDigit = true := fun d hd => hok d (List.mem_cons_of_mem _ hd)
  rw [List.cons_append, integerDigits]
  · by_cases hzero : c = '0'
    · subst hzero
      cases (List.cons_eq_cons.mp (hleading rfl)).2
      rfl
    · simp only [hc, bne_iff_ne.mpr hzero, Bool.and_self, if_true, List.nil_append]
      rw [Text.takeWhile_append_of_head hmore h, Text.dropWhile_append_of_head hmore h]
  · intro _ heq
    cases (List.cons_eq_cons.mp heq).1
    cases hc
  · intro _ heq
    cases (List.cons_eq_cons.mp heq).1
    cases hc

theorem Integer.chars_of_nonneg {n : Integer} (hn : n.negative = false) : n.chars = n.digits := by
  rw [chars, hn, if_neg Bool.false_ne_true, List.nil_append]

theorem reads_integer {n : WrittenInteger} (hn : n.numeral.negative = false) (ts : List Token) :
    Reads integer (.int n.value) (At (.integer n.numeral :: ts)) (Laid none ts) := by
  rintro _ ⟨rest, rfl, hrest⟩
  have hend := (WrittenNumber.head_after (n := .int n) hrest).2
  have hreads := n.reads
  rw [Integer.chars_of_nonneg hn] at hreads
  refine ⟨rest, ?_, hrest.forget⟩
  rw [Token.chars, Integer.chars_of_nonneg hn, integer, integerDigits_append hn hend]
  simp only [hreads]

theorem refuses_negative {t : Token} (h : apart ['-'] t.chars = true) (ts : List Token) :
    Refuses negativeNumber (At (t :: ts)) := by
  rintro _ ⟨rest, rfl, -⟩
  obtain ⟨c, more, hchars, hne⟩ := exists_head_ne h
  refine ⟨⟨t.chars ++ rest, false, []⟩, ?_, rfl⟩
  rw [hchars, List.cons_append, negativeNumber]
  intro _ heq
  exact absurd (List.cons_eq_cons.mp heq).1 hne

theorem negativeNumber_eq {digits : List Char} {v : Value} (hne : digits ≠ [])
    (hdigits : ∀ c ∈ digits, isNumberChar c = true) (h : rest.head?.any isNumberChar = false)
    (hv : (if digits.contains '.' then (Binary64.ofChars? ('-' :: digits)).map Value.float
      else (Text.int64? ('-' :: digits)).map Value.int) = some v) :
    negativeNumber ('-' :: (digits ++ rest)) = .done v rest := by
  have hempty : digits.isEmpty = false := by simpa using hne
  have htake := Text.takeWhile_append_of_head hdigits h
  have hdrop := Text.dropWhile_append_of_head hdigits h
  unfold isNumberChar at htake hdrop
  rw [negativeNumber]
  simp only [htake, hdrop, hempty, Bool.false_eq_true, if_false, hv]

theorem reads_negative_integer {n : WrittenInteger} (hn : n.numeral.negative = true)
    (ts : List Token) :
    Reads negativeNumber (.int n.value) (At (.integer n.numeral :: ts)) (Laid none ts) := by
  rintro _ ⟨rest, rfl, hrest⟩
  have hchars : n.numeral.chars = '-' :: n.numeral.digits := by
    rw [Integer.chars, if_pos hn, List.singleton_append]
  have hnumber : ∀ c ∈ n.numeral.digits, isNumberChar c = true :=
    fun c hc => by simp [isNumberChar, n.numeral.digits_ok c hc]
  have hpoint : n.numeral.digits.contains '.' = false := by
    rw [List.contains_eq_mem, decide_eq_false_iff_not]
    intro hmem
    cases n.numeral.digits_ok '.' hmem
  have hend := (WrittenNumber.head_after (n := .int n) hrest).1
  refine ⟨rest, ?_, hrest.forget⟩
  rw [Token.chars, hchars, List.cons_append]
  refine negativeNumber_eq n.numeral.digits_ne_nil hnumber hend ?_
  rw [hpoint, if_neg Bool.false_ne_true, ← hchars, n.reads, Option.map_some]

theorem Numeral.unsigned_ne_nil (n : Numeral) : n.unsignedChars ≠ [] := by
  simp [unsignedChars]

theorem Numeral.isNumberChar_of_mem {n : Numeral} {c : Char} (h : c ∈ n.unsignedChars) :
    isNumberChar c = true := by
  rw [isNumberChar]
  rcases List.mem_append.mp h with h | h
  · simp [n.whole_ok c h]
  · rcases List.mem_cons.mp h with rfl | h
    · rfl
    · simp [n.fraction_ok c h]

theorem reads_negative_decimal {x : WrittenFloat} (hn : x.numeral.negative = true)
    (ts : List Token) :
    Reads negativeNumber (.float x.value) (At (.decimal x.numeral :: ts)) (Laid none ts) := by
  rintro _ ⟨rest, rfl, hrest⟩
  have hchars : x.numeral.chars = '-' :: x.numeral.unsignedChars := by
    rw [Numeral.chars, if_pos hn, List.singleton_append]
  have hpoint : x.numeral.unsignedChars.contains '.' = true := by
    simp [Numeral.unsignedChars]
  have hend := (WrittenNumber.head_after (n := .float x) hrest).1
  refine ⟨rest, ?_, hrest.forget⟩
  rw [Token.chars, hchars, List.cons_append]
  refine negativeNumber_eq x.numeral.unsigned_ne_nil (fun c hc => Numeral.isNumberChar_of_mem hc)
    hend ?_
  rw [hpoint, if_pos rfl, ← hchars, x.reads, Option.map_some]

theorem reads_float {x : WrittenFloat} (hn : x.numeral.negative = false) (ts : List Token) :
    Reads floatLiteral (.float x.value) (At (.decimal x.numeral :: ts)) (Laid none ts) := by
  rintro _ ⟨rest, rfl, hrest⟩
  have hchars : x.numeral.chars = x.numeral.whole ++ '.' :: x.numeral.fraction := by
    rw [Numeral.chars, hn, if_neg Bool.false_ne_true, List.nil_append, Numeral.unsignedChars]
  have hend := (WrittenNumber.head_after (n := .float x) hrest).2
  have hpoint : ('.' :: (x.numeral.fraction ++ rest)).head?.any Char.isDigit = false := rfl
  have hwhole : x.numeral.whole.isEmpty = false := by simpa using x.numeral.whole_ne_nil
  have hfraction : x.numeral.fraction.isEmpty = false := by simpa using x.numeral.fraction_ne_nil
  refine ⟨rest, ?_, hrest.forget⟩
  rw [Token.chars, hchars, List.append_assoc, List.cons_append, floatLiteral]
  simp only [Text.takeWhile_append_of_head x.numeral.whole_ok hpoint,
    Text.dropWhile_append_of_head x.numeral.whole_ok hpoint,
    Text.takeWhile_append_of_head x.numeral.fraction_ok hend,
    Text.dropWhile_append_of_head x.numeral.fraction_ok hend, hwhole, hfraction, Bool.or_self,
    Bool.false_eq_true, if_false, ← hchars, x.reads]

-- Without a point after its digits an integer is no float.
theorem refuses_float_integer {n : WrittenInteger} (hn : n.numeral.negative = false)
    (ts : List Token) : Refuses floatLiteral (At (.integer n.numeral :: ts)) := by
  rintro _ ⟨rest, rfl, hrest⟩
  obtain ⟨hnumber, hend⟩ := WrittenNumber.head_after (n := .int n) hrest
  refine ⟨⟨n.numeral.digits ++ rest, false, []⟩, ?_, rfl⟩
  rw [Token.chars, Integer.chars_of_nonneg hn, floatLiteral]
  simp only [Text.dropWhile_append_of_head n.numeral.digits_ok hend]
  cases rest with
  | nil => rfl
  | cons c rest =>
    split
    next heq =>
      cases (List.cons_eq_cons.mp heq).1
      cases hnumber
    next => rfl

end Numbers

end Targeting.DefinitionText
