import Mathlib
import Targeting.Proofs.DefinitionText.Layout
import Targeting.Proofs.DefinitionText.Lexeme

namespace Targeting.DefinitionText

open Reader

theorem At.laid {ts : List Token} {cs : List Char} (h : At ts cs) : Laid none ts cs := by
  cases ts with
  | nil =>
    cases h
    exact .nil .nil
  | cons t ts =>
    obtain ⟨rest, rfl, hrest⟩ := h
    exact .cons .nil (by simp) hrest

theorem length_le_flatMap {ι : Type} {tokens : ι → List Token} (h : ∀ i, tokens i ≠ [])
    (is : List ι) : is.length ≤ (is.flatMap tokens).length := by
  induction is with
  | nil => exact Nat.le_refl _
  | cons i is ih =>
    have hpos := List.length_pos_iff.mpr (h i)
    rw [List.flatMap_cons, List.length_append, List.length_cons]
    omega

-- Items laid out one after the other, before other tokens, are read one after the other.
theorem reads_many {ι α : Type} {p : Reader α} {tokens : ι → List Token} {val : ι → α}
    {after : List Token} (hne : ∀ i, tokens i ≠ [])
    (hitem : ∀ i (is : List ι), Reads p (val i) (Laid none (tokens i ++ (is.flatMap tokens ++ after)))
      (Laid none (is.flatMap tokens ++ after)))
    (hend : Refuses p (Laid none after)) (is : List ι) :
    Reads (many p) (is.map val) (Laid none (is.flatMap tokens ++ after)) (Laid none after) := by
  refine Reads.many (fun is => Laid none (is.flatMap tokens ++ after)) ?_ hend ?_ is
  · intro i is
    have hi := hitem i is
    rw [← List.append_assoc, ← List.flatMap_cons] at hi
    exact hi
  · intro is cs h
    have hlength := h.length_le
    have hcount := length_le_flatMap hne is
    rw [List.length_append] at hlength
    omega

section Values

variable (ts : List Token)

theorem WrittenNumber.head (n : WrittenNumber) :
    ∃ c rest, n.token.chars = c :: rest ∧ (c = '-' ∨ c.isDigit = true) := by
  cases n with
  | int n => exact n.numeral.head
  | float x => exact x.numeral.head

theorem WrittenNumber.apart (n : WrittenNumber) {w : Char} {ws : List Char} (hminus : w ≠ '-')
    (hdigit : w.isDigit = false) : apart (w :: ws) n.token.chars = true := by
  obtain ⟨c, rest, hchars, hc⟩ := n.head
  have hne : w ≠ c := by
    rintro rfl
    rcases hc with rfl | hc
    · exact hminus rfl
    · rw [hdigit] at hc
      cases hc
  rw [hchars, DefinitionText.apart, bne_iff_ne.mpr hne, Bool.true_or]

theorem refuses_negative_digits {t : Token} {digits rest : List Char}
    (ht : t.chars = digits ++ rest) (hne : digits ≠ []) (h : ∀ c ∈ digits, c.isDigit = true) :
    Refuses negativeNumber (At (t :: ts)) := by
  obtain ⟨c, more, rfl⟩ := List.exists_cons_of_ne_nil hne
  have hc := h c List.mem_cons_self
  have hminus : '-' ≠ c := by
    rintro rfl
    cases hc
  refine refuses_negative ?_ ts
  rw [ht, List.cons_append, apart, bne_iff_ne.mpr hminus, Bool.true_or]

theorem reads_signed (n : WrittenNumber) :
    Reads (orElse negativeNumber (orElse floatLiteral integer)) n.value (At (n.token :: ts))
      (Laid none ts) := by
  cases n with
  | int n =>
    cases hn : n.numeral.negative with
    | true => exact (reads_negative_integer hn ts).orElse_left
    | false =>
      have hchars : Token.chars (.integer n.numeral) = n.numeral.digits ++ [] := by
        rw [Token.chars, Integer.chars_of_nonneg hn, List.append_nil]
      exact .orElse_right
        (refuses_negative_digits ts hchars n.numeral.digits_ne_nil n.numeral.digits_ok)
        (.orElse_right (refuses_float_integer hn ts) (reads_integer hn ts))
  | float x =>
    cases hn : x.numeral.negative with
    | true => exact (reads_negative_decimal hn ts).orElse_left
    | false =>
      have hchars : Token.chars (.decimal x.numeral)
          = x.numeral.whole ++ '.' :: x.numeral.fraction := by
        rw [Token.chars, Numeral.chars, hn, if_neg Bool.false_ne_true, List.nil_append,
          Numeral.unsignedChars]
      exact .orElse_right
        (refuses_negative_digits ts hchars x.numeral.whole_ne_nil x.numeral.whole_ok)
        (reads_float hn ts).orElse_left

theorem reads_value (v : WrittenValue) :
    Reads value v.meaning (Laid none (v.token :: ts)) (Laid none ts) := by
  refine (reads_blanks _).bind (.expecting _ ?_)
  cases v with
  | text t => exact .orElse_left (.bind (reads_text t ts) (.pure _ _))
  | bool b =>
    refine .orElse_right (refuses_text (by cases b <;> rfl) ts).bind ?_
    cases b with
    | true => exact (reads_constant _ rfl ts).orElse_left
    | false =>
      exact .orElse_right (refuses_constant _ rfl ts) (reads_constant _ rfl ts).orElse_left
  | number n =>
    have htext : apart ['"'] n.token.chars = true := n.apart (by decide) rfl
    have htrue : apart "true".toList n.token.chars = true := n.apart (by decide) rfl
    have hfalse : apart "false".toList n.token.chars = true := n.apart (by decide) rfl
    exact .orElse_right (refuses_text htext ts).bind (.orElse_right (refuses_constant _ htrue ts)
      (.orElse_right (refuses_constant _ hfalse ts) (reads_signed ts n)))

theorem reads_number (n : WrittenNumber) :
    Reads number n.meaning (Laid none (n.token :: ts)) (Laid none ts) :=
  .expecting _ (.mapped (reads_value ts (.number n)) (by cases n <;> rfl))

theorem reads_boolean (b : Bool) :
    Reads boolean b (Laid none (.word (.bool b) :: ts)) (Laid none ts) :=
  (reads_blanks _).bind (.expecting _ (reads_either (fun b => .word (.bool b)) rfl rfl rfl b ts))

end Values

section Caveats

variable (ts : List Token)

theorem reads_valueList (values : List WrittenValue) :
    Reads valueList (.oneOf (.ofValues (values.map WrittenValue.meaning)))
      (Laid none (.symbol (.openBracket true)
        :: (WrittenValue.tokens values ++ .symbol (.closeBracket true) :: ts)))
      (Laid none ts) := by
  refine (reads_symbol (.openBracket true) _).bind
    (.bind (a := values.map WrittenValue.meaning) ?_
      ((reads_closing (.closeBracket true) ts).bind (.pure _ _)))
  cases values with
  | nil =>
    -- a closing bracket is the start of no value
    refine Refuses.separated (Refuses.after_reads (reads_blanks _) (.expecting _ ?_))
    refine .orElse (refuses_text rfl ts).bind (.orElse (refuses_constant _ rfl ts)
      (.orElse (refuses_constant _ rfl ts) (.orElse (refuses_negative rfl ts) (.orElse ?_ ?_))))
    · rintro _ ⟨rest, rfl, -⟩
      exact ⟨_, rfl, rfl⟩
    · rintro _ ⟨rest, rfl, -⟩
      exact ⟨_, rfl, rfl⟩
  | cons v values =>
    refine (reads_value _ v).separated (reads_many (by simp) ?_ ?_ values)
    · intro v values
      exact (reads_symbol .comma _).bind (reads_value _ v)
    · exact (refuses_symbol (s := .comma) rfl ts).bind

theorem reads_bound (bound : Option WrittenNumber) :
    Reads DefinitionText.bound (bound.map WrittenNumber.meaning)
      (Laid none (WrittenCaveat.boundToken bound :: ts)) (Laid none ts) := by
  refine (reads_blanks _).bind ?_
  cases bound with
  | none => exact (reads_constant _ rfl ts).orElse_left
  | some n =>
    have hstar : apart "*".toList n.token.chars = true := n.apart (by decide) rfl
    have hnumber := (reads_number ts n).weaken (fun _ h => At.laid h) fun _ h => h
    exact .orElse_right (refuses_constant _ hstar ts) (.bind hnumber (.pure _ _))

theorem reads_range (squareLo : Bool) (lo hi : Option WrittenNumber) (squareHi : Bool) :
    Reads range (WrittenCaveat.range squareLo lo hi squareHi).meaning
      (Laid none (.symbol (.openBracket squareLo) :: WrittenCaveat.boundToken lo
        :: .symbol .comma :: WrittenCaveat.boundToken hi
        :: .symbol (.closeBracket squareHi) :: ts)) (Laid none ts) := by
  refine (reads_blanks _).bind (.bind (.expecting _ (.commit
    (reads_either (fun square => .symbol (.openBracket square)) rfl rfl rfl squareLo _))) ?_)
  refine (reads_bound _ lo).commit.bind ((reads_closing .comma _).bind ?_)
  refine (reads_bound _ hi).commit.bind ((reads_blanks _).bind ?_)
  refine .bind (.expecting _ (.commit
    (reads_either (fun square => .symbol (.closeBracket square)) rfl rfl rfl squareHi _))) ?_
  rw [WrittenCaveat.meaning, ← Option.isSome_map (f := WrittenNumber.meaning) (x := lo),
    ← Option.isSome_map (f := WrittenNumber.meaning) (x := hi)]
  exact .pure _ _

theorem reads_pattern (source : WrittenText) :
    Reads pattern (.pattern (.ofSource source.meaning)) (Laid none (source.token :: ts))
      (Laid none ts) :=
  (reads_blanks _).bind (((reads_text source ts).commit.expecting _).bind (.pure _ _))

-- An equals sign would go on with an operator, but none follows.
theorem refuses_equals {word : String} {c : Char} {t : Token} (hword : word.toList = [c, '='])
    (ht : t.chars = [c]) : Refuses (literal word) (At (t :: ts)) := by
  rintro _ ⟨rest, rfl, hrest⟩
  have hequals := hrest.head_ne_equals
  refine ⟨⟨t.chars ++ rest, false, []⟩, ?_, rfl⟩
  rw [literal, hword, ht]
  cases rest with
  | nil => simp [literalFrom]
  | cons d rest =>
    have hne : ¬ '=' = d := fun heq => hequals (congrArg some heq.symm)
    simp [literalFrom, hne]

theorem reads_operator (check : VersionCheck) (excludeBase : Bool) :
    Reads (firstOf (constant "<" (VersionCheck.atMost, true))
        [constant ">=" (.atLeast, false), constant ">" (.atLeast, true),
          constant "<=" (.atMost, false)]) (check, excludeBase)
      (At (.symbol (.operator check excludeBase) :: ts)) (Laid none ts) := by
  cases check with
  | atLeast =>
    cases excludeBase with
    | false => exact (reads_constant _ rfl ts).orElse_left
    | true =>
      exact .orElse_right (refuses_equals ts rfl rfl).bind (reads_constant _ rfl ts).orElse_left
  | atMost =>
    cases excludeBase with
    | false =>
      exact .orElse_right (refuses_constant _ rfl ts) (.orElse_right (refuses_constant _ rfl ts)
        (reads_constant _ rfl ts).orElse_left)
    | true =>
      exact .orElse_right (refuses_constant _ rfl ts) (.orElse_right (refuses_constant _ rfl ts)
        (.orElse_right (refuses_equals ts rfl rfl).bind (reads_constant _ rfl ts)))

theorem reads_version (check : VersionCheck) (excludeBase : Bool) (base : WrittenText) :
    Reads version (.version ⟨check, base.meaning, excludeBase⟩)
      (Laid none (.symbol (.operator check excludeBase) :: base.token :: ts)) (Laid none ts) := by
  refine (reads_blanks _).bind ((reads_operator _ check excludeBase).commit.expecting _ |>.bind ?_)
  exact .bind (reads_blanks _) (.bind ((reads_text base ts).commit.expecting _) (.pure _ _))

theorem reads_caveat (c : WrittenCaveat) :
    Reads caveat c.meaning (Laid none (c.tokens ++ ts)) (Laid none ts) := by
  refine .expecting _ ?_
  cases c with
  | oneOf values =>
    have htokens : (WrittenCaveat.oneOf values).tokens ++ ts = .word .isIn
        :: .symbol (.openBracket true)
        :: (WrittenValue.tokens values ++ .symbol (.closeBracket true) :: ts) := by
      simp [WrittenCaveat.tokens]
    -- a list and a range both start with "in", and only "range" after it commits to a range
    have hrange : Refuses (do keyword "in"; keyword "range"; commit range) (Laid none
        (.word .isIn :: .symbol (.openBracket true)
          :: (WrittenValue.tokens values ++ .symbol (.closeBracket true) :: ts))) :=
      .after_reads (reads_keyword .isIn _) (refuses_keyword (w := .range) rfl _).bind
    rw [htokens]
    exact .orElse_right hrange
      (.orElse_left (.bind (reads_keyword .isIn _) (reads_valueList ts values).commit))
  | matching source =>
    exact .orElse_right (refuses_keyword (w := .isIn) rfl _).bind
      (.orElse_right (refuses_keyword (w := .isIn) rfl _).bind
        (.orElse_left (.bind (reads_keyword .matching _) (reads_pattern ts source))))
  | version check excludeBase base =>
    exact .orElse_right (refuses_keyword (w := .isIn) rfl _).bind
      (.orElse_right (refuses_keyword (w := .isIn) rfl _).bind
        (.orElse_right (refuses_keyword (w := .matching) rfl _).bind
          (.bind (reads_keyword .version _) (reads_version ts check excludeBase base))))
  | range squareLo lo hi squareHi =>
    exact .orElse_left (.bind (reads_keyword .isIn _) (.bind (reads_keyword .range _)
      (reads_range ts squareLo lo hi squareHi).commit))

end Caveats

section Predicates

-- Tokens that a predicate does not go on with.
def EndsPredicate (ts : List Token) : Prop :=
  ∃ t more, ts = t :: more ∧ apart Word.weight.text.toList t.chars = true ∧
    apart Word.default.text.toList t.chars = true

variable {ts : List Token}

theorem reads_negation (negated : Bool) (c : WrittenCaveat) (ts : List Token) :
    Reads (optional (keyword "not")) (if negated then some () else none)
      (Laid none ((if negated then [.word .not] else []) ++ (c.tokens ++ ts)))
      (Laid none (c.tokens ++ ts)) := by
  cases negated with
  | true => exact (reads_keyword .not _).optional
  | false => cases c <;> exact (refuses_keyword (w := .not) rfl _).optional

theorem reads_weight (weight : Option WrittenNumber) (override : Option Bool)
    (hend : EndsPredicate ts) :
    Reads (optional (do keyword "weight"; commit number)) (weight.map WrittenNumber.meaning)
      (Laid none (WrittenPredicate.weightTokens weight
        ++ (WrittenPredicate.overrideTokens override ++ ts)))
      (Laid none (WrittenPredicate.overrideTokens override ++ ts)) := by
  cases weight with
  | some w => exact (Reads.bind (reads_keyword .weight _) (reads_number _ w).commit).optional
  | none =>
    refine Refuses.optional (Refuses.bind ?_)
    cases override with
    | some b => exact refuses_keyword (w := .weight) rfl _
    | none =>
      obtain ⟨t, more, rfl, hweight, -⟩ := hend
      exact refuses_keyword hweight more

theorem reads_override (override : Option Bool) (hend : EndsPredicate ts) :
    Reads (optional (do keyword "default"; commit boolean)) override
      (Laid none (WrittenPredicate.overrideTokens override ++ ts)) (Laid none ts) := by
  cases override with
  | some b => exact (Reads.bind (reads_keyword .default _) (reads_boolean _ b).commit).optional
  | none =>
    obtain ⟨t, more, rfl, -, hdefault⟩ := hend
    exact (Refuses.bind (refuses_keyword hdefault more)).optional

theorem reads_predicate (p : WrittenPredicate) (hend : EndsPredicate ts) :
    Reads predicate p.meaning (Laid none (p.tokens ++ ts)) (Laid none ts) := by
  have htokens : p.tokens ++ ts = .path p.path :: ((if p.negated then [.word .not] else [])
      ++ (p.caveat.tokens ++ (WrittenPredicate.weightTokens p.weight
        ++ (WrittenPredicate.overrideTokens p.override ++ ts)))) := by
    simp [WrittenPredicate.tokens]
  rw [htokens]
  refine (reads_blanks _).bind ((reads_path p.path _).expecting _ |>.bind ?_)
  refine (reads_negation p.negated p.caveat _).bind ((reads_caveat _ p.caveat).commit.bind ?_)
  refine (reads_weight p.weight p.override hend).bind ((reads_override p.override hend).bind ?_)
  obtain ⟨path, negated, caveat, weight, override⟩ := p
  cases negated <;> cases weight <;> cases override <;> exact .pure _ _

end Predicates

section Definitions

variable (ts : List Token)

theorem endsPredicate_joiner (form : Form) (ts : List Token) :
    EndsPredicate (.word (Word.inner form) :: ts) := by
  cases form <;> exact ⟨_, _, rfl, rfl, rfl⟩

theorem reads_clause (form : Form) (c : WrittenClause) :
    Reads (clause (Word.inner form).text) c.meaning
      (Laid none (c.tokens (Word.inner form) ++ ts)) (Laid none ts) := by
  have htokens : c.tokens (Word.inner form) ++ ts = .symbol (.openBracket false)
      :: (c.first.tokens ++ (c.more.flatMap (fun p => .word (Word.inner form) :: p.tokens)
        ++ .symbol (.closeBracket false) :: ts)) := by
    simp [WrittenClause.tokens]
  -- whatever follows a predicate of the clause, it is neither a weight nor a default
  have hend (more : List WrittenPredicate) :
      EndsPredicate (more.flatMap (fun p => .word (Word.inner form) :: p.tokens)
        ++ .symbol (.closeBracket false) :: ts) := by
    cases more with
    | nil => exact ⟨_, _, rfl, rfl, rfl⟩
    | cons p more => exact endsPredicate_joiner form _
  rw [htokens]
  refine (reads_symbol (.openBracket false) _).bind ((reads_predicate c.first (hend _)).commit.bind ?_)
  refine .bind (a := c.more.map WrittenPredicate.meaning) (reads_many (by simp) ?_ ?_ c.more)
    ((reads_closing (.closeBracket false) ts).bind (.pure _ _))
  · intro p more
    exact .bind (reads_keyword _ _) (reads_predicate p (hend more)).commit
  · refine Refuses.bind (refuses_keyword ?_ ts)
    cases form <;> rfl

theorem reads_form (form : Form) :
    Reads (orElse (do keyword "dnf"; return Form.dnf) (do keyword "cnf"; return Form.cnf)) form
      (Laid none (.word (.form form) :: ts)) (Laid none ts) := by
  cases form with
  | dnf => exact .orElse_left (.bind (reads_keyword (.form .dnf) ts) (.pure _ _))
  | cnf =>
    exact .orElse_right (refuses_keyword (w := .form .dnf) rfl ts).bind
      (.bind (reads_keyword (.form .cnf) ts) (.pure _ _))

theorem reads_definition (d : WrittenDefinition) :
    Reads definition d.meaning (Laid none (d.tokens ++ ts)) (Laid none ts) := by
  have htokens : d.tokens ++ ts = .word (.form d.form) :: d.id.token :: .symbol .openBrace
      :: (d.first.tokens (Word.inner d.form)
        ++ (d.more.flatMap (fun c => .word (Word.outer d.form) :: c.tokens (Word.inner d.form))
          ++ .symbol .closeBrace :: ts)) := by
    simp [WrittenDefinition.tokens]
  have hmore : Reads (many (do keyword (Word.outer d.form).text
                               commit (clause (Word.inner d.form).text)))
      (d.more.map WrittenClause.meaning)
      (Laid none (d.more.flatMap
        (fun c => .word (Word.outer d.form) :: c.tokens (Word.inner d.form))
          ++ .symbol .closeBrace :: ts)) (Laid none (.symbol .closeBrace :: ts)) := by
    refine reads_many (by simp) ?_ (Refuses.bind (refuses_keyword ?_ ts)) d.more
    · intro c more
      exact .bind (reads_keyword _ _) (reads_clause _ d.form c).commit
    · cases d.form <;> rfl
  rw [htokens]
  refine (reads_form _ d.form).bind ((reads_blanks _).bind ?_)
  refine .bind ((reads_text d.id _).commit.expecting _) ((reads_closing .openBrace _).bind ?_)
  have hfirst := (reads_clause (d.more.flatMap
    (fun c => .word (Word.outer d.form) :: c.tokens (Word.inner d.form)) ++ .symbol .closeBrace :: ts)
    d.form d.first).commit.expecting "clause"
  obtain ⟨id, form, first, more⟩ := d
  cases form <;>
    exact .bind hfirst (.bind hmore (.bind (reads_closing .closeBrace ts) (.pure _ _)))

theorem reads_definitions (all : List WrittenDefinition) :
    Reads definitions (all.map WrittenDefinition.meaning)
      (Laid none (all.flatMap WrittenDefinition.tokens)) (At []) := by
  have hend : Refuses definition (Laid none []) :=
    (Refuses.orElse (refuses_keyword_end (.form .dnf)).bind
      (refuses_keyword_end (.form .cnf)).bind).bind
  have hmany : Reads (many definition) (all.map WrittenDefinition.meaning)
      (Laid none (all.flatMap WrittenDefinition.tokens ++ [])) (Laid none []) :=
    reads_many (by simp [WrittenDefinition.tokens]) (fun d more => reads_definition _ d) hend all
  rw [List.append_nil] at hmany
  exact .bind hmany (.bind (reads_blanks []) (.pure _ _))

end Definitions

end Targeting.DefinitionText

namespace Targeting.Definition

open DefinitionText

theorem readAll_of_laid {all : List WrittenDefinition} {text : String}
    (h : Laid none (all.flatMap WrittenDefinition.tokens) text.toList) :
    readAll text = .ok (all.map WrittenDefinition.meaning) := by
  obtain ⟨rest, hrest, hend⟩ := reads_definitions all text.toList h
  cases hend
  rw [readAll, hrest]

-- However definitions are written, they are read as they were meant.
theorem readAll_of_writes {all : List WrittenDefinition} {text : String} (h : Writes all text) :
    readAll text = .ok (all.map WrittenDefinition.meaning) :=
  readAll_of_laid h

def aPath : Path := ⟨'x', [], rfl, by simp⟩

def aFloat : WrittenFloat where
  numeral := ⟨true, ['2'], ['5', '0'], by simp, by simp, by simp, by simp⟩
  value := .ofMagnitude true 0x4004000000000000
  reads := by decide +kernel

def aDefinition : WrittenDefinition where
  id := .escaped "a\"b"
  form := .cnf
  first := ⟨⟨aPath, true, .oneOf [.number (.int (.ofInt64 (-1))), .number (.float aFloat), .bool true,
    .text (.escaped "\\")], some (.int (.ofInt64 2)), some false⟩, []⟩
  more := []

def tightItems : List (List Char × Token) :=
  ["# note\n".toList, [], [], [], [], "#\n".toList, [' '], [], [], [], [], [], [], [], [], [], [],
    [' '], [' '], [' '], [], []].zip aDefinition.tokens

def tightText : String :=
  "# note\ncnf\"a\\\"b\"\x7b(x#\nnot in[-1,-2.50,true,\"\\\\\"]weight 2 default false)\x7d"

-- Two comments, and hardly a blank that is not needed.
theorem readAll_tight :
    Writes [aDefinition] tightText ∧ readAll tightText = .ok [aDefinition.meaning] := by
  have hseparated : Separated none tightItems := by decide +kernel
  have htokens : tightItems.map Prod.snd = [aDefinition].flatMap WrittenDefinition.tokens := rfl
  have htext : spread tightItems ++ [] = tightText.toList := by decide +kernel
  have hwrites : Writes [aDefinition] tightText := by
    rw [Writes, ← htokens, ← htext]
    exact laid_spread hseparated Gap.nil
  exact ⟨hwrites, readAll_of_writes hwrites⟩

end Targeting.Definition
